import AccessAudit.Markup.CharacterNames
import AccessAudit.Number.Reading

/-!
# Character references

`&amp;` and `&#38;` stand for a character. In running text a reference is a token of its own and
ends with any character that cannot continue it; in an attribute's value it is replaced in place,
and some names may be followed directly by other letters. Numbers from 128 to 159 mean the
punctuation that older pages meant by them. A decimal number has to stay within the limit on
digits.
-/

namespace AccessAudit.Markup

/-- The characters that a name stands for. -/
def named? (name : List Char) : Option (List Char) :=
  (characterNames.lookup (String.ofList name)).map String.toList

/-- What the numbers from 128 to 159 mean. -/
def punctuationCodes : Array Nat := #[
  0x20AC, 0x81, 0x201A, 0x0192, 0x201E, 0x2026, 0x2020, 0x2021,
  0x02C6, 0x2030, 0x0160, 0x2039, 0x0152, 0x8D, 0x017D, 0x8F,
  0x90, 0x2018, 0x2019, 0x201C, 0x201D, 0x2022, 0x2013, 0x2014,
  0x02DC, 0x2122, 0x0161, 0x203A, 0x0153, 0x9D, 0x017E, 0x0178]

/-- The character that stands for what cannot be shown. -/
def replacement : Char := '\ufffd'

/-- The character with a code; the replacement if there is none. -/
def ofCode (n : Nat) : Char := if n.isValidChar then Char.ofNat n else replacement

/-- The character that a number means. -/
def ofNumber (n : Nat) : Char :=
  match (if 0x80 ≤ n then punctuationCodes[n - 0x80]? else none) with
  | some code => ofCode code
  | none => ofCode n

/-! ## Digits -/

/-- A hexadecimal digit. -/
def isHexDigit (c : Char) : Bool :=
  c.isDigit || ('a' ≤ c && c ≤ 'f') || ('A' ≤ c && c ≤ 'F')

/-- The value of a hexadecimal digit. -/
def hexValue (c : Char) : Nat :=
  if c.isDigit then c.toNat - 48 else c.toLower.toNat - 87

/-- The number that hexadecimal digits write. -/
def ofHexDigits (digits : List Char) : Nat := digits.foldl (fun n c => 16 * n + hexValue c) 0

/-- The digits of a number, what they write, and how many characters that took: decimal, or
hexadecimal after an `x`. -/
def spanNumber (cs : List Char) : Option (Nat × Nat) :=
  match cs with
  | c :: rest =>
    if c == 'x' || c == 'X' then
      let digits := rest.takeWhile isHexDigit
      if digits.isEmpty then none else some (ofHexDigits digits, digits.length + 1)
    else
      let digits := cs.takeWhile Char.isDigit
      if digits.isEmpty then none else some (Number.ofDigits (digits.map hexValue), digits.length)
  | [] => none

/-- How many decimal digits are at the head, if there are more than can be read. -/
def longNumber? (cs : List Char) : Option Nat :=
  let digits := cs.takeWhile Char.isDigit
  if Number.digitLimit < digits.length then some digits.length else none

/-! ## In attribute values -/

/-- Whether a number means no character in an attribute's value. -/
def isInvalidCode (n : Nat) : Bool :=
  (0x1 ≤ n && n ≤ 0x8) || n == 0xB || (0xE ≤ n && n ≤ 0x1F) || n == 0x7F
    || (0xFDD0 ≤ n && n ≤ 0xFDEF) || (0xFFFE ≤ n && n % 0x10000 ≥ 0xFFFE && n ≤ 0x10FFFF)

/-- The characters that a number means in an attribute's value. -/
def numberInValue (n : Nat) : List Char :=
  if n == 0 then [replacement] else if isInvalidCode n then [] else [ofNumber n]

/-- Whether a character can be part of a name in an attribute's value. -/
def continuesName (c : Char) : Bool :=
  !(['\t', '\n', '\x0c', ' ', '<', '&', '#', ';'].contains c)

/-- How long the longest name is that is at the head and needs no semicolon; zero if none is. -/
def leadingName (cs : List Char) : Nat :=
  openNames.foldl (fun n name => if name.toList.isPrefixOf cs then max n name.length else n) 0

/-- What a reference after `&` in an attribute's value means, and how many characters it takes;
none when it is no reference. -/
def referenceInValue? (cs : List Char) : Option (List Char × Nat) :=
  let semicolon (used : Nat) : Nat := if (cs.drop used).head? == some ';' then 1 else 0
  match cs with
  | '#' :: rest =>
    (spanNumber rest).map fun (n, count) => (numberInValue n, count + 1 + semicolon (count + 1))
  | _ =>
    let name := (cs.takeWhile continuesName).take 32
    let closed := if semicolon name.length == 1 then named? name else none
    match closed with
    | some text => some (text, name.length + 1)
    | none => (named? (name.take (leadingName name))).map fun text => (text, leadingName name)

/-- An attribute's value with its references replaced. -/
def unescape (cs : List Char) : List Char :=
  match cs with
  | [] => []
  | c :: rest =>
    if c == '&' then
      match referenceInValue? rest with
      | some (text, used) => text ++ unescape (rest.drop used)
      | none => c :: unescape rest
    else c :: unescape rest
termination_by cs.length
decreasing_by all_goals simp only [List.length_drop, List.length_cons]; omega

/-- How many digits the first reference by a decimal number has that has more than can be read. -/
def longReference? : List Char → Option Nat
  | '&' :: '#' :: rest => (longNumber? rest).orElse fun _ => longReference? rest
  | _ :: rest => longReference? rest
  | [] => none

/-! ## In text -/

/-- A reference in running text after `&`. -/
inductive TextReference where
  /-- It means these characters and takes so many characters. -/
  | found (text : List Char) (used : Nat)
  /-- The text ends before it is clear. -/
  | incomplete
  /-- It is no reference. -/
  | none

/-- A character that can be part of a name in running text. -/
def isReferenceChar (c : Char) : Bool := c.isAlphanum || c == '-' || c == '.'

/-- What a name in running text means. An unknown one stands for itself. -/
def namedText (name : List Char) : List Char :=
  (named? name).getD ('&' :: name)

/-- The name at the head of a text that ends with it: up to the last hyphen or point. -/
def nameBeforeMark (run : List Char) : List Char :=
  ((run.reverse.dropWhile Char.isAlphanum).drop 1).reverse

/-- A reference by name. -/
def namedReference (cs : List Char) : TextReference :=
  let run := cs.takeWhile isReferenceChar
  match cs.drop run.length with
  | c :: _ => .found (namedText run) (run.length + if c == ';' then 1 else 0)
  | [] =>
    let name := nameBeforeMark run
    if name.isEmpty then .incomplete else .found (namedText name) name.length

/-- A reference by number, after `&#`: it has to be followed by something that is no hexadecimal
digit. -/
def numericReference? (cs : List Char) : Option (List Char × Nat) := do
  let (n, used) ← spanNumber cs
  let next ← (cs.drop used).head?
  if isHexDigit next then none
  else some ([ofNumber n], used + if next == ';' then 1 else 0)

end AccessAudit.Markup
