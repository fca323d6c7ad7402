import AccessAudit.Failure
import AccessAudit.Json
import AccessAudit.Number.Reading
import AccessAudit.Number.Scale
import AccessAudit.Text.Lower

/-!
# Declared types for loosely typed values

A value is given a declared type by a reader `Json → Checked α`. Reading is lenient where the
meaning is clear (a whole number may be written as a text or as a decimal without fraction), and a
value that does not fit is turned down with all its faults: the fields of an object are read side
by side, and the faults of each are listed in the order of the fields, with the path to the
offending part. A breakdown (`Failure`) ends the reading at once.
-/

namespace AccessAudit

/-! ## Faults -/

/-- Why a part of a value does not fit. -/
inductive Cause where
  /-- A field that has to be there is not. -/
  | missing
  /-- Not a text. -/
  | stringType
  /-- Not a whole number, and nothing that could be read as one. -/
  | intType
  /-- A text that writes no whole number. -/
  | intParsing
  /-- A whole number beyond what can be read. -/
  | intParsingSize
  /-- A decimal with a fraction. -/
  | intFromFloat
  /-- No finite number. -/
  | finiteNumber
  /-- Not a number, and nothing that could be read as one. -/
  | floatType
  /-- A text that writes no number. -/
  | floatParsing
  /-- Not a truth value, and nothing that could be read as one. -/
  | boolType
  /-- A text or number that stands for no truth value. -/
  | boolParsing
  /-- Not above the bound. -/
  | greaterThan
  /-- Below the bound. -/
  | greaterThanEqual
  /-- Above the bound. -/
  | lessThanEqual
  /-- None of the allowed texts. -/
  | literal
  /-- Not a list. -/
  | listType
  /-- Not an object. -/
  | dictType
  /-- Not a collection. -/
  | frozenSetType
  /-- Not a tuple. -/
  | tupleType
  /-- A tuple with too many items. -/
  | tooLong
  /-- Not an object with the declared fields. -/
  | modelType
  /-- Not an object that could tell which variant it is. -/
  | modelAttributesType
  /-- An object that does not tell which variant it is. -/
  | tagNotFound
  /-- An object of an unknown variant. -/
  | tagInvalid
  /-- A part that lies too deep inside parts of its own kind. -/
  | recursionLoop
  /-- A written form that cannot be read back. -/
  | jsonInvalid
  /-- A condition of the declared type does not hold. -/
  | value (reason : String)
  deriving DecidableEq, Repr

/-- The code of a cause. -/
def Cause.code : Cause → String
  | missing => "missing"
  | stringType => "string_type"
  | intType => "int_type"
  | intParsing => "int_parsing"
  | intParsingSize => "int_parsing_size"
  | intFromFloat => "int_from_float"
  | finiteNumber => "finite_number"
  | floatType => "float_type"
  | floatParsing => "float_parsing"
  | boolType => "bool_type"
  | boolParsing => "bool_parsing"
  | greaterThan => "greater_than"
  | greaterThanEqual => "greater_than_equal"
  | lessThanEqual => "less_than_equal"
  | literal => "literal_error"
  | listType => "list_type"
  | dictType => "dict_type"
  | frozenSetType => "frozen_set_type"
  | tupleType => "tuple_type"
  | tooLong => "too_long"
  | modelType => "model_type"
  | modelAttributesType => "model_attributes_type"
  | tagNotFound => "union_tag_not_found"
  | tagInvalid => "union_tag_invalid"
  | recursionLoop => "recursion_loop"
  | jsonInvalid => "json_invalid"
  | value _ => "value_error"

/-- The message of a cause that has one of its own. -/
def Cause.message? : Cause → Option String
  | value reason => some ("Value error, " ++ reason)
  | _ => none

/-- A part that does not fit. -/
structure Fault where
  /-- The steps from the whole value to the part. -/
  path : List String
  /-- Why it does not fit. -/
  cause : Cause
  deriving DecidableEq, Repr

/-- The path as one text. -/
def Fault.place (f : Fault) : String := ".".intercalate f.path

/-! ## Results -/

/-- A value of the declared type, or why there is none. -/
inductive Checked (α : Type) where
  /-- The value fits. -/
  | ok (value : α)
  /-- The value does not fit. -/
  | refused (faults : List Fault)
  /-- Reading broke down. -/
  | broken (why : Failure)
  deriving Repr

namespace Checked

variable {α β : Type}

/-- A value turned down as a whole. -/
def fault (cause : Cause) : Checked α := refused [⟨[], cause⟩]

/-- The result with its value changed. -/
def map (f : α → β) : Checked α → Checked β
  | ok value => ok (f value)
  | refused faults => refused faults
  | broken why => broken why

/-- Two results side by side: all faults count, and a breakdown hides them. -/
def seq (f : Checked (α → β)) (x : Checked α) : Checked β :=
  match f, x with
  | broken why, _ => broken why
  | _, broken why => broken why
  | refused faults, refused more => refused (faults ++ more)
  | refused faults, ok _ => refused faults
  | ok _, refused faults => refused faults
  | ok g, ok value => ok (g value)

instance : Applicative Checked where
  pure := ok
  map := map
  seq f x := f.seq (x ())

/-- A further step on a value that fits. -/
def andThen (x : Checked α) (step : α → Checked β) : Checked β :=
  match x with
  | ok value => step value
  | refused faults => refused faults
  | broken why => broken why

/-- The result of reading a part, seen from the whole. -/
def under (step : String) : Checked α → Checked α
  | refused faults => refused (faults.map fun fault => { fault with path := step :: fault.path })
  | other => other

/-- Results one after the other, as one: the first that is no value decides. -/
def inTurn : List (Checked α) → Checked (List α)
  | [] => ok []
  | x :: rest => x.andThen fun value => (inTurn rest).map (value :: ·)

/-- Results side by side, as one. -/
def all : List (Checked α) → Checked (List α)
  | [] => ok []
  | x :: rest => (List.cons <$> x) <*> all rest

end Checked

/-- A way to give values a declared type. -/
abbrev Reader (α : Type) := Json → Checked α

namespace Schema

open Text Number

variable {α : Type}

/-! ## Simple types -/

/-- Texts. -/
def text : Reader String
  | .str value => .ok value
  | _ => .fault .stringType

/-- A numeral without its underscores, of which none may be at an end or next to another. -/
def dropUnderscores (cs : List Char) : Option (List Char) :=
  let adjacent := (cs.zip (cs.drop 1)).any fun pair => pair.1 == '_' && pair.2 == '_'
  if cs.head? == some '_' || cs.getLast? == some '_' || adjacent then none
  else some (cs.filter (· != '_'))

/-- The whole number that plain digits write, without a leading zero and after a minus sign at
most. Sign and digits together stay within the limit. -/
def plainInt (cs : List Char) : Except NumeralError Int :=
  let (negative, unsigned) := match cs with
    | '-' :: rest => (true, rest)
    | other => (false, other)
  let digits := unsigned.takeWhile Char.isDigit
  if digits.head? == some '0' then if unsigned == ['0'] then .ok 0 else .error .malformed
  else if digitLimit < digits.length + (if negative then 1 else 0) then
    .error (.tooLong digits.length)
  else if digits.isEmpty || digits.length < unsigned.length then .error .malformed
  else (readNat? digits).elim (.error .malformed) fun n => .ok (if negative then -(n : Int) else n)

/-- Whether a character can begin what follows the zeros of a numeral. -/
def beginsNumber (c : Char) : Bool := ('1' ≤ c && c ≤ '9') || c == '-'

/-- What follows zeros and underscores, of which `last` is the last one. It stays when nothing
follows, or a point. -/
def afterZeros (last : Char) : List Char → Option (List Char)
  | [] => some [last]
  | c :: rest =>
    if c == '0' || c == '_' then afterZeros c rest
    else if beginsNumber c then some (c :: rest)
    else if c == '.' then some (last :: c :: rest)
    else none

/-- A numeral without its leading zeros. -/
def dropLeadingZeros : List Char → Option (List Char)
  | [] => none
  | c :: rest =>
    if c == '0' then afterZeros c rest else if beginsNumber c then some (c :: rest) else none

/-- A numeral without a fraction of zeros. -/
def dropZeroFraction (cs : List Char) : List Char :=
  match cs.dropWhile (· != '.') with
  | _ :: fraction =>
    if !fraction.isEmpty && fraction.all (· == '0') then cs.takeWhile (· != '.') else cs
  | [] => cs

/-- A numeral in plain digits: without blanks around it, a plus sign, leading zeros, a fraction of
zeros, and underscores. -/
def cleanNumeral (cs : List Char) : Option (List Char) := do
  let unsigned ← match trimPadding cs with
    | '+' :: '-' :: _ => none
    | '+' :: rest => some rest
    | other => some other
  let (negative, body) := match unsigned with
    | '-' :: rest => (true, rest)
    | other => (false, other)
  let digits := dropZeroFraction (← dropLeadingZeros body)
  let digits := (dropUnderscores digits).getD digits
  pure (if negative then '-' :: digits else digits)

/-- The whole number that a text writes. -/
def wholeNumeral (s : String) : Checked Int :=
  match plainInt s.toList with
  | .ok n => .ok n
  | .error (.tooLong _) => .fault .intParsingSize
  | .error .malformed =>
    match (cleanNumeral s.toList).map plainInt with
    | some (.ok n) => .ok n
    | _ => .fault .intParsing

/-- Whether a whole number that was written as a decimal lies in the range that is read. -/
def isMachineSized (n : Int) : Bool := n.natAbs < Nat.pow 2 63

/-- Whole numbers: also truth values, decimals without fraction, and numerals. -/
def int : Reader Int
  | .int n => .ok n
  | .bool b => .ok (if b then 1 else 0)
  | .float x =>
    match exact x with
    | .finite .. =>
      match wholeValue? x with
      | some n => if isMachineSized n then .ok n else .fault .intParsingSize
      | none => .fault .intFromFloat
    | _ => .fault .finiteNumber
  | .str s => wholeNumeral s
  | _ => .fault .intType

/-- The number that plain digits write, or the name of infinity or of no number. -/
def plainDecimal? (cs : List Char) : Option Float :=
  if cs.all fun c => c.toNat < 128 && c != '_' then readFloatChars? cs else none

/-- The number that a text writes. Blanks around it and underscores in it exclude each other. -/
def decimalNumeral? (s : String) : Option Float :=
  (plainDecimal? (trimPadding s.toList)).orElse fun _ =>
    (dropUnderscores s.toList).bind plainDecimal?

/-- Numbers: also truth values and numerals. -/
def float : Reader Float
  | .float x => .ok x
  | .int n =>
    match exact (ofInt n) with
    | .finite .. => .ok (ofInt n)
    | _ => .fault .floatType
  | .bool b => .ok (if b then 1.0 else 0.0)
  | .str s =>
    match decimalNumeral? s with
    | some x => .ok x
    | none => .fault .floatParsing
  | _ => .fault .floatType

/-- Texts that stand for true. -/
def trueTexts : List String := ["1", "t", "true", "y", "yes", "on"]

/-- Texts that stand for false. -/
def falseTexts : List String := ["0", "f", "false", "n", "no", "off"]

/-- The truth value that a whole number stands for. -/
def truthOf (n : Int) : Checked Bool :=
  if n == 1 then .ok true else if n == 0 then .ok false else .fault .boolParsing

/-- Truth values: also zero and one, and the texts that stand for them. -/
def bool : Reader Bool
  | .bool b => .ok b
  | .int n => if -Int.pow 2 63 ≤ n && n < Int.pow 2 63 then truthOf n else .fault .boolType
  | .float x =>
    match wholeValue? x with
    | some n => if isMachineSized n then truthOf n else .fault .boolType
    | none => .fault .boolType
  | .str s =>
    if trueTexts.contains (lower s) then .ok true
    else if falseTexts.contains (lower s) then .ok false
    else .fault .boolParsing
  | _ => .fault .boolType

/-- One of the given texts. -/
def literal (options : List String) : Reader String
  | .str s => if options.contains s then .ok s else .fault .literal
  | _ => .fault .literal

/-! ## Bounds -/

/-- The value, if a condition on it holds. -/
def ensure (cause : Cause) (holds : α → Bool) (x : Checked α) : Checked α :=
  x.andThen fun value => if holds value then .ok value else .fault cause

/-- A number, if it is no more than one. -/
def upToOne [Scale α] : Checked α → Checked α :=
  ensure .lessThanEqual (Scale.atMost · (Scale.ofInt 1))

/-- A number, if it is from zero to one. -/
def withinUnit [Scale α] (x : Checked α) : Checked α :=
  ensure .greaterThanEqual (Scale.atMost (Scale.ofInt 0)) (upToOne x)

/-- A number, if it is above zero and no more than one. -/
def withinPositiveUnit [Scale α] (x : Checked α) : Checked α :=
  ensure .greaterThan (Scale.less (Scale.ofInt 0)) (upToOne x)

/-- Numbers from zero to one. -/
def unitInterval : Reader Float := fun v => withinUnit (float v)

/-- Whole numbers from a bound on. -/
def atLeast (bound : Int) : Reader Int := fun v => ensure .greaterThanEqual (bound ≤ ·) (int v)

/-! ## Composite types -/

/-- Null, or a value of the given type. -/
def optional (read : Reader α) : Reader (Option α)
  | .null => .ok none
  | v => some <$> read v

/-- The items of a list, each under its place. -/
def itemsFrom (read : Reader α) : Nat → List Json → Checked (List α)
  | _, [] => .ok []
  | place, v :: rest =>
    (List.cons <$> (read v).under (toString place)) <*> itemsFrom read (place + 1) rest

/-- Lists. -/
def list (read : Reader α) : Reader (List α)
  | .arr items => itemsFrom read 0 items
  | _ => .fault .listType

/-- Collections in which order and repetition do not count. -/
def collection (read : Reader α) : Reader (List α)
  | .arr items => itemsFrom read 0 items
  | _ => .fault .frozenSetType

/-- Objects of any content. -/
def fields : Reader (Entries Json)
  | .obj entries => .ok entries
  | _ => .fault .dictType

/-- Objects with declared fields. -/
def model (read : Entries Json → Checked α) : Reader α
  | .obj entries => read entries
  | _ => .fault .modelType

/-- A field that has to be there. -/
def required (entries : Entries Json) (name : String) (read : Reader α) : Checked α :=
  match entries.get? name with
  | some v => (read v).under name
  | none => .refused [⟨[name], .missing⟩]

/-- A field that may be left out. -/
def field (entries : Entries Json) (name : String) (absent : α) (read : Reader α) : Checked α :=
  match entries.get? name with
  | some v => (read v).under name
  | none => .ok absent

end Schema

end AccessAudit
