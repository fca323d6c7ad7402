import AccessAudit.Selector.Basic
import AccessAudit.Selector.Error
import AccessAudit.Selector.Nth
import AccessAudit.Text.Word

/-!
# Reading selectors

The grammar, blanks being allowed around combinators, commas, brackets and their contents:

```text
list      = complex *("," complex)
complex   = compound *(combinator compound)
compound  = ("*" / name) *part / 1*part
part      = "#" name / "." name / "[" attribute "]" / "::" name / ":" name [argument]
attribute = name [comparison (quoted / name) ["i" / "s"]]
argument  = "(" list ")"            after :not, :is, :where and :matches
          / "(" an+b ")"            after :nth-child and :nth-last-child
          / "(" anything ")"        otherwise, and not kept
```

A name is made of word characters, hyphens and characters protected by a backslash. Every reading
function takes the characters that are left and returns those it did not use, so the place of an
error is given by how many were left (`Stop.remaining`); `parse` turns that into a position. The
functions that call each other are bounded by an explicit count, and `parse` starts with more of
it than a text of its length can use up.
-/

namespace AccessAudit

namespace Selector

open Text

/-- Where and why reading stopped. -/
structure Stop where
  /-- How many characters were left; none for an argument that is not `an+b`. -/
  remaining : Option Nat
  /-- What was wrong. -/
  reason : Reason
  /-- The argument that is not `an+b`. -/
  argument : String := ""

/-- What a reader read, with the characters it left, or where it stopped. -/
abbrev Read := Except Stop

/-- Stops before the characters that are left. -/
def stop {α : Type} (reason : Reason) (left : List Char) : Read α :=
  .error { remaining := some left.length, reason }

/-! ## Names -/

/-- The longest name at the head, without the backslashes, and the rest. -/
def spanName : List Char → List Char × List Char
  | [] => ([], [])
  | '\\' :: c :: rest =>
    if c == '\n' then ([], '\\' :: c :: rest)
    else
      let (name, left) := spanName rest
      (c :: name, left)
  | c :: rest =>
    if isNameChar c then
      let (name, left) := spanName rest
      (c :: name, left)
    else ([], c :: rest)

/-- A name, which has to be there. -/
def readName (cs : List Char) : Read (List Char × List Char) :=
  match spanName cs with
  | ([], _) => stop .expectedIdentifier cs
  | (name, rest) => .ok (name, rest)

/-- A name in small letters. -/
def readLowerName (cs : List Char) : Read (String × List Char) := do
  let (name, rest) ← readName cs
  pure (String.ofList (lowerChars name), rest)

/-- A name as it is written. -/
def readExactName (cs : List Char) : Read (String × List Char) := do
  let (name, rest) ← readName cs
  pure (String.ofList name, rest)

/-! ## Attributes -/

/-- The comparison at the head, if there is one. -/
def spanComparison : List Char → Option (Comparison × List Char)
  | '=' :: rest => some (.equals, rest)
  | '~' :: '=' :: rest => some (.includes, rest)
  | '|' :: '=' :: rest => some (.dashed, rest)
  | '^' :: '=' :: rest => some (.begins, rest)
  | '$' :: '=' :: rest => some (.ends, rest)
  | '*' :: '=' :: rest => some (.contains, rest)
  | _ => none

/-- The value compared with: quoted, or a name. -/
def readValue (cs : List Char) : Read (String × List Char) :=
  match cs with
  | c :: rest =>
    if c == '"' || c == '\'' then
      match rest.dropWhile (· != c) with
      | [] => stop .unterminatedString cs
      | _ :: after => .ok (String.ofList (rest.takeWhile (· != c)), after)
    else readExactName cs
  | [] => readExactName cs

/-- The mark for letter case. It counts only directly before the bracket or a blank. -/
def spanCaseMark (cs : List Char) : Bool × List Char :=
  match cs with
  | mark :: next :: rest =>
    if next == ']' || next == ' ' then
      if mark == 'i' || mark == 'I' then (true, trimLeft (next :: rest))
      else if mark == 's' || mark == 'S' then (false, trimLeft (next :: rest))
      else (false, cs)
    else (false, cs)
  | _ => (false, cs)

/-- An attribute condition after its opening bracket. -/
def readAttribute (cs : List Char) : Read (Simple × List Char) := do
  let (name, rest) ← readLowerName (trimLeft cs)
  let rest := trimLeft rest
  match spanComparison rest with
  | none =>
    match rest with
    | ']' :: after => pure (.attribute name none, after)
    | _ => stop .expectedBracketOrOperator rest
  | some (comparison, rest) =>
    let (value, rest) ← readValue (trimLeft rest)
    let (ignoreCase, rest) := spanCaseMark (trimLeft rest)
    match rest with
    | ']' :: after => pure (.attribute name (some ⟨comparison, value, ignoreCase⟩), after)
    | _ => stop .expectedBracket rest

/-! ## Pseudo-classes that take no selectors -/

/-- The raw argument up to the closing parenthesis, and what comes of it. -/
def readRawArgument (name : String) (cs : List Char) : Read (Simple × List Char) :=
  match cs.dropWhile (· != ')') with
  | [] => stop .unterminatedArgument cs
  | _ :: after =>
    let raw := cs.takeWhile (· != ')')
    if takesPositions.contains name then
      match Nth.readChars raw with
      | .ok (a, b) => .ok (.pseudoClass name (.nth a b), after)
      | .error reason => .error { remaining := none, reason, argument := String.ofList raw }
    else .ok (.pseudoClass name .none, after)

/-! ## Compounds, chains and lists -/

/-- The combinator at the head of what follows a compound, if a further compound follows: a sign,
or blanks before something that ends neither the chain nor the list. -/
inductive Joint where
  /-- The chain ends. -/
  | finish
  /-- It goes on after the combinator. -/
  | combine (how : Combinator)
  /-- Neither. -/
  | stray (c : Char)

/-- What follows a compound. Inside parentheses the closing one ends the chain. -/
def joint (nested blanks : Bool) : List Char → Joint
  | [] => .finish
  | '>' :: _ => .combine .child
  | '+' :: _ => .combine .next
  | '~' :: _ => .combine .later
  | c :: _ =>
    if c == ',' || (nested && c == ')') then .finish
    else if blanks then .combine .descendant
    else .stray c

/-- The characters after a combinator: its sign and the blanks around it are gone. -/
def afterCombinator : Combinator → List Char → List Char
  | .descendant, cs => cs
  | _, cs => trimLeft (cs.drop 1)

mutual

/-- A list of complex selectors. -/
def readList : Nat → Bool → List Char → Read (List Complex × List Char)
  | 0, _, cs => stop .emptyCompound cs
  | fuel + 1, nested, cs => do
    let (branch, rest) ← readComplex fuel nested (trimLeft cs)
    match trimLeft rest with
    | ',' :: more =>
      let (others, left) ← readList fuel nested more
      pure (branch :: others, left)
    | left => pure ([branch], left)

/-- A chain of compounds. -/
def readComplex : Nat → Bool → List Char → Read (Complex × List Char)
  | 0, _, cs => stop .emptyCompound cs
  | fuel + 1, nested, cs => do
    let (parts, rest) ← readCompound fuel cs
    readChain fuel nested (.compound parts) rest

/-- The rest of a chain. -/
def readChain : Nat → Bool → Complex → List Char → Read (Complex × List Char)
  | 0, _, _, cs => stop .emptyCompound cs
  | fuel + 1, nested, left, cs =>
    let rest := trimLeft cs
    match joint nested (rest.length != cs.length) rest with
    | .finish => .ok (left, rest)
    | .stray c => stop (.unexpectedCharacter c) rest
    | .combine how => do
      let (parts, after) ← readCompound fuel (afterCombinator how rest)
      readChain fuel nested (.join left how parts) after

/-- A compound: it has at least one condition. -/
def readCompound : Nat → List Char → Read (Compound × List Char)
  | 0, cs => stop .emptyCompound cs
  | fuel + 1, cs =>
    match cs with
    | '*' :: rest => readParts fuel [.universal] rest
    | _ =>
      match spanName cs with
      | ([], _) => readParts fuel [] cs
      | (name, rest) => readParts fuel [.type (String.ofList (lowerChars name))] rest

/-- The conditions after the type; `done` has those before, in reverse. -/
def readParts : Nat → List Simple → List Char → Read (Compound × List Char)
  | 0, _, cs => stop .emptyCompound cs
  | fuel + 1, done, cs =>
    match cs with
    | '#' :: rest => do
      let (value, left) ← readExactName rest
      readParts fuel (.id value :: done) left
    | '.' :: rest => do
      let (name, left) ← readExactName rest
      readParts fuel (.className name :: done) left
    | '[' :: rest => do
      let (part, left) ← readAttribute rest
      readParts fuel (part :: done) left
    | ':' :: rest => do
      let (part, left) ← readPseudo fuel rest
      readParts fuel (part :: done) left
    | _ => if done.isEmpty then stop .emptyCompound cs else .ok (done.reverse, cs)

/-- A pseudo-element or a pseudo-class after its first colon. -/
def readPseudo : Nat → List Char → Read (Simple × List Char)
  | 0, cs => stop .emptyCompound cs
  | fuel + 1, cs =>
    match cs with
    | ':' :: rest => do
      let (name, left) ← readLowerName rest
      pure (.pseudoElement name, left)
    | _ => do
      let (name, left) ← readLowerName cs
      if singleColonPseudoElements.contains name then pure (.pseudoElement name, left)
      else
        match left with
        | '(' :: inner =>
          if takesSelectors.contains name then
            let (list, rest) ← readList fuel true inner
            match trimLeft rest with
            | ')' :: after => pure (.pseudoClass name (.selectors list), after)
            | other => stop .expectedParenthesis other
          else readRawArgument name inner
        | _ => pure (.pseudoClass name .none, left)

end

/-- More steps than reading a text of this length can take. -/
def readingBound (cs : List Char) : Nat := 4 * cs.length + 8

/-- The error of a stop in a text without surrounding blanks. -/
def Stop.toError (text : List Char) (s : Stop) : SyntaxError :=
  match s.remaining with
  | some left => ⟨String.ofList text, s.reason, some (text.length - left)⟩
  | none => ⟨s.argument, s.reason, none⟩

/-- The selector list that a text without surrounding blanks writes. -/
def parseTrimmed (text : List Char) : Except SyntaxError SelectorList :=
  let result : Read (List Complex × List Char) :=
    if text.isEmpty then stop .emptySelector text
    else do
      let (list, rest) ← readList (readingBound text) false text
      match trimLeft rest with
      | [] => pure (list, [])
      | left => stop (.trailingInput (String.ofList left)) left
  match result with
  | .ok (list, _) => .ok list
  | .error s => .error (s.toError text)

end Selector

/-- The selector list that a text writes. -/
def SelectorList.parse (s : String) : Except Selector.SyntaxError SelectorList :=
  Selector.parseTrimmed (Text.trim s.toList)

/-- The weight of the selector a text writes; none when it writes no selector. -/
def Specificity.ofText (s : String) : Specificity :=
  match SelectorList.parse s with
  | .ok list => list.specificity
  | .error _ => .zero

end AccessAudit
