import AccessAudit.Text.Blank
import AccessAudit.Text.Digit
import AccessAudit.Text.Word

/-!
# Keyboard keys

Which keys a handler reacts to, as far as its source text shows: by naming them, or by comparing
with their old numeric codes. Names count as whole words only.
-/

namespace AccessAudit.Keyboard

open Text

/-- The space key. -/
def space : String := " "

/-- Keys that are recognised by name. -/
def named : List String :=
  ["Enter", "Escape", "Tab", "Home", "End", "PageUp", "PageDown", "ArrowUp", "ArrowDown",
    "ArrowLeft", "ArrowRight"]

/-- Keys by their numeric codes. -/
def byCode : List (String × String) :=
  [("13", "Enter"), ("27", "Escape"), ("9", "Tab"), ("32", space), ("36", "Home"), ("35", "End"),
    ("33", "PageUp"), ("34", "PageDown"), ("37", "ArrowLeft"), ("38", "ArrowUp"),
    ("39", "ArrowRight"), ("40", "ArrowDown")]

/-- Other spellings of keys. -/
def otherSpellings : List (String × String) :=
  [("Space", space), ("Spacebar", space), ("Esc", "Escape"), ("Up", "ArrowUp"),
    ("Down", "ArrowDown"), ("Left", "ArrowLeft"), ("Right", "ArrowRight")]

/-- The name of a key in its usual spelling. -/
def normalize (name : String) : String := (otherSpellings.lookup name).getD name

/-! ## Scanning -/

/-- The maximal runs of word characters; `current` is the run under way, last character first. -/
def runsFrom (current : List Char) : List Char → List (List Char)
  | [] => if current.isEmpty then [] else [current.reverse]
  | c :: rest =>
    if isWord c then runsFrom (c :: current) rest
    else if current.isEmpty then runsFrom [] rest
    else current.reverse :: runsFrom [] rest

/-- The whole words of a text. -/
def wordRuns (cs : List Char) : List String := (runsFrom [] cs).map String.ofList

/-- Whether a text has a blank between two quotes of the same kind. -/
def hasQuotedBlank : List Char → Bool
  | a :: b :: c :: rest =>
    ((a == '\'' || a == '"') && b == ' ' && c == a) || hasQuotedBlank (b :: c :: rest)
  | _ => false

/-- The digits that a text is compared with: two or three equals signs, and a number. -/
def comparedDigits? (cs : List Char) : Option String :=
  match trimLeft cs with
  | '=' :: '=' :: rest =>
    let rest := match rest with
      | '=' :: more => more
      | other => other
    let digits := (trimLeft rest).takeWhile isDecimalDigit
    if digits.isEmpty then none else some (String.ofList digits)
  | _ => none

/-- The text after a word at the head. -/
def after? (word : String) (cs : List Char) : Option (List Char) :=
  if word.toList.isPrefixOf cs then some (cs.drop word.length) else none

/-- The numbers that key codes are compared with; `inWord` tells whether a word is under way. -/
def comparedCodes (inWord : Bool) : List Char → List String
  | [] => []
  | c :: rest =>
    let here :=
      if inWord then none
      else ((after? "keyCode" (c :: rest)).or (after? "which" (c :: rest))).bind comparedDigits?
    here.toList ++ comparedCodes (isWord c) rest

/-- The keys that a handler body refers to. -/
def scanChars (cs : List Char) : List String :=
  let words := wordRuns cs
  named.filter words.contains
    ++ (if hasQuotedBlank cs || words.contains "Space" || words.contains "Spacebar" then [space]
        else [])
    ++ (comparedCodes false cs).filterMap fun code => byCode.lookup code

/-- The keys that a handler body refers to. -/
def scan (body : String) : List String := (scanChars body.toList).eraseDups

end AccessAudit.Keyboard
