import AccessAudit.Markup.Reference
import AccessAudit.Text.Lower

/-!
# Start tags

A start tag is `<`, a name, attributes and `>` or `/>`. Reading is forgiving. Blanks and slashes
separate attributes and are needed only where a quote does not do it; an attribute's value may be
quoted, bare or missing, with any number of equals signs before it; a quote that is not closed is
an ordinary character as long as something before it ends the value.
-/

namespace AccessAudit.Markup

open Text

/-- Whether a character ends the name of a tag. -/
def endsTagName (c : Char) : Bool :=
  ['\t', '\n', '\r', '\x0c', ' ', '/', '>', '\x00'].contains c

/-- The text without leading blanks and slashes; a slash before `>` stays. -/
def dropPadding : List Char → List Char
  | [] => []
  | '/' :: '>' :: rest => '/' :: '>' :: rest
  | c :: rest => if isBlank c || c == '/' then dropPadding rest else c :: rest

/-- A quote. -/
def isQuote (c : Char) : Bool := c == '"' || c == '\''

/-- Whether an attribute may begin right after a character. -/
def admitsAttribute (c : Char) : Bool := isQuote c || isBlank c || c == '/'

/-- The value of an attribute, the rest, and whether another attribute may follow directly. -/
structure ValueScan where
  /-- The value. -/
  value : List Char
  /-- The rest. -/
  rest : List Char
  /-- Whether another attribute may follow directly. -/
  open_ : Bool

/-- A bare value: up to a blank or `>`. -/
def bareValue (before cs : List Char) : ValueScan :=
  let endsValue (c : Char) : Bool := c == '>' || isBlank c
  ⟨before ++ cs.takeWhile (!endsValue ·), cs.dropWhile (!endsValue ·), false⟩

/-- What follows an attribute's name, if it is a value. Before a quote that is not closed, a blank
ends the value, or else one of several equals signs begins it. -/
def scanValue? (cs : List Char) : Option ValueScan :=
  match trimLeft cs with
  | '=' :: more =>
    let rest := more.dropWhile (· == '=')
    let body := trimLeft rest
    match body with
    | [] => some ⟨[], [], true⟩
    | c :: inner =>
      if isQuote c then
        match inner.dropWhile (· != c) with
        | _ :: after => some ⟨inner.takeWhile (· != c), after, true⟩
        | [] =>
          if body.length < rest.length then some ⟨[], body, true⟩
          else if rest.length < more.length then some (bareValue ['='] rest)
          else none
      else some (bareValue [] body)
  | _ => none

/-- An attribute as it is written: the name in small letters, and the value. -/
abbrev RawAttribute := String × String

/-- An attribute whose references have not been replaced yet. -/
abbrev AttributeScan := String × List Char

/-- The attributes at the head and what follows them. `admitted` tells whether one may begin right
here; the count bounds how many are read. -/
def scanAttributes : Nat → Bool → List Char → List AttributeScan × List Char
  | 0, _, cs => ([], cs)
  | _, _, [] => ([], [])
  | count + 1, admitted, c :: cs =>
    if !admitted || isBlank c || c == '/' || c == '>' then ([], c :: cs)
    else
      let endsName (d : Char) : Bool := isBlank d || d == '/' || d == '=' || d == '>'
      let name := c :: cs.takeWhile (!endsName ·)
      let afterName := cs.dropWhile (!endsName ·)
      let scan := (scanValue? afterName).getD
        ⟨[], afterName, name.getLast?.any admitsAttribute⟩
      let next := dropPadding scan.rest
      let (others, rest) := scanAttributes count (scan.open_ || next.length < scan.rest.length) next
      ((lower (String.ofList name), scan.value) :: others, rest)

/-- What a text that begins like a start tag turns out to be. -/
inductive StartScan where
  /-- A start tag, and the rest. -/
  | tag (name : String) (attributes : List RawAttribute) (selfClosing : Bool) (rest : List Char)
  /-- No start tag: only what precedes the rest is to be taken as text. -/
  | bogus (rest : List Char)
  /-- A reference in a value has more digits than can be read. -/
  | longNumber (digits : Nat)
  /-- The text ends inside it. -/
  | incomplete

/-- Whether a tag is not finished before what follows its attributes. -/
def isUnfinished : List Char → Bool
  | [] => true
  | '/' :: '>' :: _ => false
  | c :: _ => c.isAlpha || c == '=' || c == '/'

/-- Reads a start tag after `<`. -/
def scanStartTag (cs : List Char) : StartScan :=
  let name := cs.takeWhile (!endsTagName ·)
  let afterName := cs.dropWhile (!endsTagName ·)
  let next := dropPadding afterName
  let admitted := next.length < afterName.length || name.getLast?.any admitsAttribute
  let (scans, rest) := scanAttributes cs.length admitted next
  let tag := StartScan.tag (lower (String.ofList name))
    (scans.map fun scan => (scan.1, String.ofList (unescape scan.2)))
  if isUnfinished rest then .incomplete
  else
    match scans.findSome? fun scan => longReference? scan.2 with
    | some digits => .longNumber digits
    | none =>
      match rest with
      | '>' :: after => tag false after
      | '/' :: '>' :: after => tag true after
      | _ => .bogus rest

end AccessAudit.Markup
