import AccessAudit.Failure
import AccessAudit.Markup.StartTag
import AccessAudit.Text.Quoted

/-!
# Markup tokens

A markup text is a sequence of texts, tags and comments. `scan` reads it from left to right, one
construct after the other. It reads twice as it were: as long as a construct may still be
completed by what follows, reading waits, and since nothing follows, it then goes on from there
knowing that the text has ended (`final`). An incomplete construct becomes text then.

The content of scripts and style sheets is not markup; it extends to the matching end tag.

A marked section has to begin with one of the known words; any other is an error, and so is a
reference by a number that is too long.
-/

namespace AccessAudit.Markup

open Text

/-- A place in the text: line and column, both from one. -/
structure Position where
  /-- The line. -/
  line : Nat := 1
  /-- The column. -/
  column : Nat := 1
  deriving DecidableEq, Repr

/-- The place after a character. -/
def Position.after (p : Position) (c : Char) : Position :=
  if c == '\n' then ⟨p.line + 1, 1⟩ else ⟨p.line, p.column + 1⟩

/-- The place after a text. -/
def Position.advance (p : Position) (cs : List Char) : Position := cs.foldl Position.after p

/-- A part of a markup text. -/
inductive Token where
  /-- A run of text. Several in a row are one. -/
  | text (content : List Char)
  /-- A start tag. -/
  | start (name : String) (attributes : List RawAttribute) (selfClosing : Bool) (at_ : Position)
  /-- An end tag. -/
  | finish (name : String)
  /-- A comment. -/
  | comment (content : List Char)
  /-- A declaration, an instruction or a marked section. It separates texts and is not kept. -/
  | skipped

/-- Why a markup text is turned down. -/
inductive Rejection where
  /-- A marked section begins with an unknown word. -/
  | unknownKeyword (word : String)
  /-- A marked section begins with no word. -/
  | expectedName (beginning : String)
  /-- A reference by number has more digits than can be read. -/
  | longNumber (digits : Nat)
  /-- Elements are nested too deeply. -/
  | tooNested
  deriving DecidableEq, Repr

namespace Rejection

/-- What is wrong with the text. -/
def reason : Rejection → String
  | unknownKeyword word => "unknown status keyword " ++ quoted word ++ " in marked section"
  | expectedName beginning => "expected name token at " ++ quoted beginning
  | longNumber digits => (Failure.longNumeral digits).reason
  | tooNested => Failure.tooNested.reason

/-- The class of a rejection. -/
def kind : Rejection → String
  | longNumber digits => (Failure.longNumeral digits).kind
  | tooNested => Failure.tooNested.kind
  | _ => "ParserRejectedMarkup"

/-- The whole message. -/
def message : Rejection → String
  | longNumber digits => (Failure.longNumeral digits).reason
  | tooNested => Failure.tooNested.reason
  | r => "The markup you provided was rejected by the parser. Trying a different parser or a "
    ++ "different encoding may help.\n\nOriginal exception(s) from parser:\n AssertionError: "
    ++ r.reason

/-- Class and message together. -/
def fullMessage (r : Rejection) : String := r.kind ++ ": " ++ r.message

end Rejection

/-! ## Constructs that begin with `<` -/

/-- What a construct turns out to be. -/
inductive Construct where
  /-- It is complete: its tokens, the rest, and the element whose raw content follows. -/
  | complete (tokens : List Token) (rest : List Char) (raw : Option String)
  /-- The text ends inside it. -/
  | incomplete
  /-- It is an error. -/
  | rejected (why : Rejection)

/-- Splits a text before the first place at which `close` succeeds; `close` gives what follows
it. -/
def splitAtClose (close : List Char → Option (List Char)) :
    List Char → Option (List Char × List Char)
  | [] => none
  | c :: rest =>
    match close (c :: rest) with
    | some after => some ([], after)
    | none => (splitAtClose close rest).map fun (before, after) => (c :: before, after)

/-- The end `>`. -/
def closesTag : List Char → Option (List Char)
  | '>' :: rest => some rest
  | _ => none

/-- The end `-->` of a comment, blanks before `>` allowed. -/
def closesComment : List Char → Option (List Char)
  | '-' :: '-' :: rest => closesTag (trimLeft rest)
  | _ => none

/-- The end `]>` of a condition, blanks between allowed. -/
def closesCondition : List Char → Option (List Char)
  | ']' :: rest => closesTag (trimLeft rest)
  | _ => none

/-- The end `]]>` of a section, blanks between allowed. -/
def closesSection : List Char → Option (List Char)
  | ']' :: rest => closesCondition (trimLeft rest)
  | _ => none

/-- The token for what precedes an end, if there is that end. -/
def upTo (close : List Char → Option (List Char)) (token : List Char → Token) (cs : List Char) :
    Construct :=
  match splitAtClose close cs with
  | some (content, rest) => .complete [token content] rest none
  | none => .incomplete

/-- Elements whose content is raw. -/
def rawElements : List String := ["script", "style"]

/-- A start tag after `<`. -/
def startConstruct (place : Position) (cs : List Char) : Construct :=
  match scanStartTag cs with
  | .tag name attributes selfClosing rest =>
    .complete [.start name attributes selfClosing place] rest
      (if !selfClosing && rawElements.contains name then some name else none)
  | .bogus rest => .complete [.text ('<' :: cs.take (cs.length - rest.length))] rest none
  | .longNumber digits => .rejected (.longNumber digits)
  | .incomplete => .incomplete

/-- Characters of the name in a plain end tag. -/
def isEndTagChar (c : Char) : Bool :=
  c.isAlphanum || c == '-' || c == '.' || c == ':' || c == '_'

/-- The name in the inside of an end tag, if it is plain: blanks around a name and nothing else. -/
def plainEndName? (inner : List Char) : Option (List Char) :=
  let cs := trimLeft inner
  let name := cs.takeWhile isEndTagChar
  if cs.head?.any Char.isAlpha && (cs.drop name.length).all isBlank then some name else none

/-- An end tag after `</`: whatever follows the name is disregarded, `</>` is nothing, and what does
not begin with a letter is a comment. -/
def endConstruct (cs : List Char) : Construct :=
  match splitAtClose closesTag cs with
  | none => .incomplete
  | some (inner, rest) =>
    let finish (name : List Char) : Construct :=
      .complete [.finish (lower (String.ofList name))] rest none
    match plainEndName? inner with
    | some name => finish name
    | none =>
      if inner.head?.any Char.isAlpha then finish (inner.takeWhile (!endsTagName ·))
      else if inner.isEmpty then .complete [] rest none
      else .complete [.comment inner] rest none

/-- Words that begin a section that ends with `]]>`. -/
def sectionWords : List String := ["temp", "cdata", "ignore", "include", "rcdata"]

/-- Words that begin a condition that ends with `]>`. -/
def conditionWords : List String := ["if", "else", "endif"]

/-- Characters of the word that begins a marked section. -/
def isKeywordChar (c : Char) : Bool := c.isAlphanum || c == '-' || c == '_' || c == '.'

/-- A marked section after `<![`. -/
def markedConstruct (cs : List Char) : Construct :=
  if cs.isEmpty then .incomplete
  else if !cs.head?.any Char.isAlpha then
    .rejected (.expectedName (String.ofList ("<![".toList ++ cs.take 17)))
  else
    let word := cs.takeWhile isKeywordChar
    let after := trimLeft (cs.drop word.length)
    if after.isEmpty then .incomplete
    else
      let keyword := String.ofList (word.map Char.toLower)
      if sectionWords.contains keyword then upTo closesSection (fun _ => .skipped) cs
      else if conditionWords.contains keyword then upTo closesCondition (fun _ => .skipped) cs
      else .rejected (.unknownKeyword (String.ofList (cs.take (cs.length - after.length))))

/-- A declaration after `<!`. -/
def declarationConstruct (cs : List Char) : Construct :=
  match cs with
  | '[' :: rest => markedConstruct rest
  | _ =>
    if (cs.take 7).map Char.toLower == "doctype".toList then
      upTo closesTag (fun _ => .skipped) (cs.drop 7)
    else upTo closesTag .comment cs

/-! ## The reading -/

/-- What one step of reading comes to. -/
inductive Step where
  /-- Tokens, the number of characters they took, and the element whose raw content follows. -/
  | take (tokens : List Token) (count : Nat) (raw : Option String)
  /-- Tokens and the number of characters they took; the rest is not clear yet. -/
  | wait (tokens : List Token) (count : Nat)
  /-- The text is turned down. -/
  | rejected (why : Rejection)

/-- The end tag of a raw element, in any letter case. -/
def closesRaw (name : String) (cs : List Char) : Option (List Char) :=
  match cs with
  | '<' :: '/' :: rest =>
    let body := trimLeft rest
    if (body.take name.length).map Char.toLower == name.toList then
      closesTag (trimLeft (body.drop name.length))
    else none
  | _ => none

/-- How much of an incomplete construct becomes text at the end of the text: up to the next `>`,
or else before the next `<`, or else one character. -/
def incompleteLength (cs : List Char) : Nat :=
  let inner := cs.drop 1
  let upToGreater := inner.takeWhile (· != '>')
  if upToGreater.length < inner.length then upToGreater.length + 2
  else
    let upToLess := inner.takeWhile (· != '<')
    if upToLess.length < inner.length then upToLess.length + 1 else 1

/-- The construct at `<`. A lone `<` is text, and not clear yet when the text ends with it. -/
def constructAt (place : Position) (cs : List Char) : Option Construct :=
  match cs with
  | '/' :: rest => some (endConstruct rest)
  | '!' :: '-' :: '-' :: rest => some (upTo closesComment .comment rest)
  | '?' :: rest => some (upTo closesTag (fun _ => .skipped) rest)
  | '!' :: rest => some (declarationConstruct rest)
  | c :: _ => if c.isAlpha then some (startConstruct place cs) else none
  | [] => none

/-- The step at `<`. -/
def stepLess (final : Bool) (place : Position) (cs : List Char) : Step :=
  match constructAt place (cs.drop 1) with
  | some (.complete tokens rest raw) => .take tokens (cs.length - rest.length) raw
  | some (.rejected why) => .rejected why
  | some .incomplete =>
    if final then
      let count := incompleteLength cs
      .take [.text (cs.take count)] count none
    else .wait [] 0
  | none => if 1 < cs.length then .take [.text ['<']] 1 none else .wait [] 0

/-- The step at `&`. -/
def stepAmpersand (final : Bool) (cs : List Char) : Step :=
  match cs.drop 1 with
  | '#' :: rest =>
    match numericReference? rest with
    | some (text, used) =>
      match longNumber? rest with
      | some digits => .rejected (.longNumber digits)
      | none => .take [.text text] (used + 2) none
    | none => if rest.contains ';' then .wait [.text ['&', '#']] 2 else .wait [] 0
  | c :: rest =>
    if c.isAlpha then
      match namedReference (c :: rest) with
      | .found text used => .take [.text text] (used + 1) none
      | _ => .wait [] (if final && rest.isEmpty then 1 else 0)
    else .take [.text ['&']] 1 none
  | [] => .wait [] 0

/-- One step of reading at the head of a text that is not empty. -/
def step (final : Bool) (raw : Option String) (place : Position) (cs : List Char) : Step :=
  match raw with
  | some name =>
    match splitAtClose (closesRaw name) cs with
    | some (content, rest) =>
      .take [.text content, .finish name] (cs.length - rest.length) none
    | none => .wait [] 0
  | none =>
    match cs.head? with
    | some '<' => stepLess final place cs
    | some '&' => stepAmpersand final cs
    | _ =>
      let run := cs.takeWhile fun c => c != '<' && c != '&'
      .take [.text run] run.length none

/-- The tokens of a text. What is still not clear at its end is text, unless it is raw. -/
def scanFrom (final : Bool) (raw : Option String) (place : Position) (cs : List Char) :
    Except Rejection (List Token) :=
  if cs.isEmpty then .ok []
  else
    match step final raw place cs with
    | .rejected why => .error why
    | .take tokens count raw' =>
      if 0 < count then do
        let more ← scanFrom final raw' (place.advance (cs.take count)) (cs.drop count)
        pure (tokens ++ more)
      else .ok tokens
    | .wait tokens count =>
      if final then .ok (tokens ++ if raw.isNone then [.text (cs.drop count)] else [])
      else do
        let more ← scanFrom true raw (place.advance (cs.take count)) (cs.drop count)
        pure (tokens ++ more)
termination_by 2 * cs.length + if final then 0 else 1
decreasing_by
  · have h : cs.length ≠ 0 := by
      intro hnil
      simp_all [List.isEmpty_iff, List.length_eq_zero_iff]
    simp only [List.length_drop]
    omega
  · simp_all only [List.length_drop, Bool.not_eq_true, Bool.false_eq_true, if_false, if_true]
    omega

/-- The tokens of a markup text. -/
def scan (cs : List Char) : Except Rejection (List Token) := scanFrom false none {} cs

end AccessAudit.Markup
