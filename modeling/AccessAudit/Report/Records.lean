import AccessAudit.Number.Shortest
import AccessAudit.Report.Csv

/-!
# Reports as a list of records

The table as a list of objects in written form, one line for each field. Everything beyond ASCII is
escaped, and so are slashes. Scores have at most ten decimals.

Decimals are found by scaling the fraction to ten places in floating-point arithmetic and rounding
what comes out: a half goes to the even neighbour, except that the smallest half goes up. Numbers
too small for ten places to make sense have ten significant digits instead.
-/

namespace AccessAudit

namespace Records

/-! ## Texts -/

/-- A unit of sixteen bits, escaped. -/
def escapedUnit (n : Nat) : List Char := '\\' :: 'u' :: Text.hexDigits 4 n

/-- A character inside a written text. -/
def writtenChar (c : Char) : List Char :=
  let n := c.toNat
  if c == '"' || c == '\\' || c == '/' then ['\\', c]
  else if n == 0x08 then ['\\', 'b']
  else if n == 0x0C then ['\\', 'f']
  else if c == '\n' then ['\\', 'n']
  else if c == '\r' then ['\\', 'r']
  else if c == '\t' then ['\\', 't']
  else if 0x20 ≤ n && n < 0x80 then [c]
  else if n < 0x10000 then escapedUnit n
  else
    escapedUnit (0xD800 + (n - 0x10000) / 0x400) ++ escapedUnit (0xDC00 + (n - 0x10000) % 0x400)

/-- A text between quotes. -/
def writtenText (s : String) : String :=
  String.ofList ('"' :: s.toList.flatMap writtenChar ++ ['"'])

/-! ## Numbers -/

/-- The decimal places of scores. -/
def places : Nat := 10

/-- The nearest whole number to `num / den`: a half goes to the even neighbour, except that one
half goes to one. -/
def roundTick (num den : Nat) : Nat :=
  let whole := num / den
  let twice := 2 * (num % den)
  if den < twice || (twice == den && (whole == 0 || whole % 2 == 1)) then whole + 1 else whole

/-- The units of the last place that the fraction of a positive number amounts to. -/
def fractionTicks (x : Float) (whole : Nat) : Nat :=
  match Number.exact ((x - Number.ofInt whole) * Number.ofInt (Int.pow 10 places)) with
  | .finite _ significand exponent =>
    let (num, den) := Number.ratio significand exponent
    roundTick num den
  | _ => 0

/-- A whole number and a fraction in units of the last place, without trailing zeros. -/
def placed (whole ticks : Nat) : List Char :=
  if ticks == 0 then Nat.toDigits 10 whole ++ ['.', '0']
  else
    let digits := Number.placePoint places (whole * Nat.pow 10 places + ticks)
    (digits.reverse.dropWhile (· == '0')).reverse

/-- The positive number `num / den` with ten significant digits, in scientific notation. -/
def scientific (num den : Nat) : List Char :=
  let first := Number.leadingExponent num den
  let shift := first - (places - 1 : Nat)
  let digits := Number.roundDiv (num * Nat.pow 10 (-shift).toNat) (den * Nat.pow 10 shift.toNat)
  if digits == Nat.pow 10 places then Number.Decimal.scientific ⟨1, first + 1⟩
  else Number.Decimal.scientific ⟨Number.dropZeros places digits, first⟩

/-- A number. -/
def writtenNumber (x : Float) : String :=
  match Number.exact x with
  | .finite negative significand exponent =>
    let (num, den) := Number.ratio significand exponent
    if num == 0 then "0.0"
    else
      let magnitude := if negative then -x else x
      let digits :=
        if magnitude < 1e-15 || magnitude > 1e16 - 1 then scientific num den
        else
          let whole := num / den
          let ticks := fractionTicks magnitude whole
          if Nat.pow 10 places ≤ ticks then placed (whole + 1) 0 else placed whole ticks
      String.ofList (if negative then '-' :: digits else digits)
  | _ => "null"

/-- A value that is no list and no object. -/
def writtenValue : Json → String
  | .bool true => "true"
  | .bool false => "false"
  | .int n => toString n
  | .float x => writtenNumber x
  | .str s => writtenText s
  | _ => "null"

/-! ## Layout -/

/-- Items between two brackets, one to a line. -/
def block (opening closing indent : String) (items : List String) : String :=
  opening ++ "\n" ++ ",\n".intercalate (items.map fun item => indent ++ "  " ++ item) ++ "\n" ++
    indent ++ closing

/-- The values of a row in the order of the columns, in written form. -/
def values (r : Row) : List String :=
  [writtenValue r.job, writtenText r.file, toString r.line, toString r.column,
    writtenText r.element, writtenText r.kind, writtenText r.severity.name,
    block "[" "]" "    " (r.criteria.map writtenText), writtenText r.analyzer,
    writtenText r.confidence.name, writtenNumber r.score, writtenText r.message,
    writtenText r.fix]

/-- A row as an object. -/
def record (r : Row) : String :=
  block "\x7b" "\x7d" "  "
    (List.zipWith (fun name value => writtenText name ++ ":" ++ value) Report.columns (values r))

end Records

/-- The whole text. -/
def Report.records (r : Report) : String :=
  Records.block "[" "]" "" (r.table.map Records.record)

end AccessAudit
