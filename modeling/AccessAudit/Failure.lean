import AccessAudit.Number.Reading
import AccessAudit.Text.Quoted

/-!
# Steps that cannot be carried out

Most bad input is turned down with a list of faults. A few values are so far from what a step
expects that the step breaks down: a number is asked for its items, a list for its named fields, a
text that looks like a numeral is none. Where an analysis breaks down, its message is reported.
-/

namespace AccessAudit

/-- Why a step broke down. -/
inductive Failure where
  /-- A value of this kind has no items to go through. -/
  | notIterable (kind : String)
  /-- A value of this kind has no named fields. -/
  | noFields (kind : String)
  /-- An argument was given twice. -/
  | repeatedArgument (name : String)
  /-- A pair has this many parts. -/
  | badPair (parts : Nat)
  /-- A value of this kind cannot be a member of a set. -/
  | unhashable (kind : String)
  /-- The text is no whole number. -/
  | badNumeral (text : String)
  /-- The text is a whole number of more digits than can be read. -/
  | longNumeral (digits : Nat)
  /-- A value of this kind has no sections. -/
  | noSections (kind : String)
  /-- A number is too large for the type it is asked to take. -/
  | overflow
  /-- A value is nested too deeply to be written. -/
  | tooDeep
  /-- Something is nested too deeply to be followed to its end. -/
  | tooNested
  /-- There is nothing under a name. -/
  | unknownName (name : String)
  /-- A value of this kind cannot be compared with a number. -/
  | uncomparable (kind : String)
  /-- A logging level has no known name. -/
  | unknownLevel (name : String)
  /-- A value is no logging level. -/
  | notLevel (text : String)
  deriving DecidableEq, Repr

namespace Failure

/-- The class of a breakdown. -/
def kind : Failure → String
  | notIterable _ => "TypeError"
  | noFields _ => "AttributeError"
  | repeatedArgument _ => "TypeError"
  | badPair _ => "ValueError"
  | unhashable _ => "TypeError"
  | badNumeral _ => "ValueError"
  | longNumeral _ => "ValueError"
  | noSections _ => "AttributeError"
  | overflow => "OverflowError"
  | tooDeep => "PydanticSerializationError"
  | tooNested => "RecursionError"
  | unknownName _ => "KeyError"
  | uncomparable _ => "TypeError"
  | unknownLevel _ => "ValueError"
  | notLevel _ => "TypeError"

/-- What went wrong, in words. -/
def reason : Failure → String
  | notIterable kind => "'" ++ kind ++ "' object is not iterable"
  | noFields kind => "'" ++ kind ++ "' object has no attribute 'items'"
  | repeatedArgument name => "got multiple values for keyword argument '" ++ name ++ "'"
  | badPair parts =>
    "dictionary update sequence element has length " ++ toString parts ++ "; 2 is required"
  | unhashable kind => "unhashable type: '" ++ kind ++ "'"
  | badNumeral text =>
    "invalid literal for int() with base 10: " ++ String.ofList ((Text.quoted text).toList.take 200)
  | longNumeral digits =>
    "Exceeds the limit (" ++ toString Number.digitLimit ++
      " digits) for integer string conversion: value has " ++ toString digits ++
      " digits; use sys.set_int_max_str_digits() to increase the limit"
  | noSections kind => "'" ++ kind ++ "' object has no attribute 'setdefault'"
  | overflow => "number out of range"
  | tooDeep => "Circular reference detected (depth exceeded)"
  | tooNested => "maximum recursion depth exceeded"
  | unknownName name => Text.quoted name
  | uncomparable kind => "'>' not supported between instances of '" ++ kind ++ "' and 'int'"
  | unknownLevel name => "Unknown level: " ++ Text.quoted name
  | notLevel text => "Level not an integer or a valid string: " ++ text

/-- Class and reason together. -/
def message (f : Failure) : String := f.kind ++ ": " ++ f.reason

end Failure

end AccessAudit
