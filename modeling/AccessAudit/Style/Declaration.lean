import AccessAudit.Entries
import AccessAudit.Text.Lower

/-!
# Declarations

A declaration block such as `color: red; width: 0 !important` gives values to properties and marks
some of them as important. A later declaration of a property replaces an earlier one, unless only
the earlier one is important.
-/

namespace AccessAudit

open Text

namespace Declaration

/-- Whether a character is a letter of the word `important`, in any spelling of that letter. -/
def isLetter (wanted c : Char) : Bool :=
  c.toLower == wanted || (wanted == 'i' && (c == 'İ' || c == 'ı'))

/-- The rest after the letters of a word. -/
def afterLetters : List Char → List Char → Option (List Char)
  | [], cs => some cs
  | _ :: _, [] => none
  | wanted :: word, c :: cs => if isLetter wanted c then afterLetters word cs else none

/-- A value without surrounding blanks, and whether it ended with `!important`, which is cut off. -/
def splitImportant (cs : List Char) : List Char × Bool :=
  let text := trim cs
  match afterLetters "tnatropmi".toList text.reverse with
  | some before =>
    match before.dropWhile isBlank with
    | '!' :: value => (trim value.reverse, true)
    | _ => (text, false)
  | none => (text, false)

/-- A value's text and whether it is important. -/
def readValue (value : String) : String × Bool :=
  let (text, important) := splitImportant value.toList
  (String.ofList text, important)

end Declaration

/-- The values of properties and the names of the important ones. -/
structure Declarations where
  /-- The values, by the order in which the names came up. -/
  properties : Entries String := []
  /-- The important names, by the order in which they became so. -/
  important : List String := []
  deriving DecidableEq, Repr

namespace Declarations

/-- Takes in one declaration. -/
def add (d : Declarations) (name value : String) (important : Bool) : Declarations :=
  if d.important.contains name && !important then d
  else
    { properties := d.properties.put name value
      important :=
        if important && !d.important.contains name then d.important ++ [name] else d.important }

/-- Takes in one piece of a block. A piece without a colon or without a name is disregarded. -/
def addPiece (d : Declarations) (piece : List Char) : Declarations :=
  match piece.dropWhile (· != ':') with
  | [] => d
  | _ :: value =>
    let name := String.ofList (lowerChars (trim (piece.takeWhile (· != ':'))))
    if name.isEmpty then d
    else
      let (text, important) := Declaration.splitImportant value
      d.add name (String.ofList text) important

/-- The pieces of a block; `current` is the piece under way, last character first. -/
def piecesFrom (current : List Char) : List Char → List (List Char)
  | [] => [current.reverse]
  | c :: rest =>
    if c == ';' then current.reverse :: piecesFrom [] rest else piecesFrom (c :: current) rest

/-- The declarations of a block. -/
def parse (text : String) : Declarations := (piecesFrom [] text.toList).foldl addPiece {}

end Declarations

end AccessAudit
