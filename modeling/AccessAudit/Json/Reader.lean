import AccessAudit.Json
import AccessAudit.Number.Reading

/-!
# Reading values from their written form

The written form is the usual one: `null`, `true`, `false`, numbers, texts between double quotes,
lists in square brackets and objects in braces, with blanks, tabs and line breaks between them. A
number is a decimal exactly when it has a point or an exponent. The names of infinity and of no
number are accepted too. When a field is repeated, the last value counts. Reading stops at the first
thing that is wrong; a whole number with too many digits and brackets that are nested too deeply are
told apart from all else (`ReadError`).

Reading goes down the characters with an explicit bound on the number of steps, which the text's own
length always satisfies, and with a count of the brackets that may still be opened inside each
other.
-/

namespace AccessAudit.Json

/-- Why a text writes no value. -/
inductive ReadError where
  /-- It does not have the written form. -/
  | malformed
  /-- A whole number has more digits than can be read. -/
  | longNumeral (digits : Nat)
  /-- Brackets are nested too deeply. -/
  | tooNested
  deriving DecidableEq, Repr

/-- What was read, if it could be. -/
abbrev Read := Except ReadError

/-- A part that has to be there. -/
def expect {α : Type} : Option α → Read α
  | some a => .ok a
  | none => .error .malformed

/-- Blanks of the written form. -/
def isLayout (c : Char) : Bool := c == ' ' || c == '\t' || c == '\n' || c == '\r'

/-- The list without leading blanks. -/
def skipLayout (cs : List Char) : List Char := cs.dropWhile isLayout

/-! ## Texts -/

/-- The value of a hexadecimal digit. -/
def hexValue? (c : Char) : Option Nat :=
  if '0' ≤ c && c ≤ '9' then some (c.toNat - 48)
  else if 'a' ≤ c && c ≤ 'f' then some (c.toNat - 87)
  else if 'A' ≤ c && c ≤ 'F' then some (c.toNat - 55)
  else none

/-- Four hexadecimal digits and what follows them. -/
def readUnit? : List Char → Option (Nat × List Char)
  | a :: b :: c :: d :: rest => do
    let a ← hexValue? a
    let b ← hexValue? b
    let c ← hexValue? c
    let d ← hexValue? d
    pure (((a * 16 + b) * 16 + c) * 16 + d, rest)
  | _ => none

/-- The character that an escape after a backslash stands for. -/
def simpleEscape? : Char → Option Char
  | '"' => some '"'
  | '\\' => some '\\'
  | '/' => some '/'
  | 'b' => some '\x08'
  | 'f' => some '\x0c'
  | 'n' => some '\n'
  | 'r' => some '\r'
  | 't' => some '\t'
  | _ => none

/-- A code point escaped by one or two units of sixteen bits. A unit without its partner stands
for the replacement character. -/
def readEscapedPoint? (cs : List Char) : Option (Char × List Char) := do
  let (high, rest) ← readUnit? cs
  if 0xD800 ≤ high && high < 0xDC00 then
    match rest with
    | '\\' :: 'u' :: more =>
      let (low, after) ← readUnit? more
      if 0xDC00 ≤ low && low < 0xE000 then
        pure (Char.ofNat (0x10000 + (high - 0xD800) * 0x400 + (low - 0xDC00)), after)
      else pure (Char.ofNat 0xFFFD, rest)
    | _ => pure (Char.ofNat 0xFFFD, rest)
  else if 0xDC00 ≤ high && high < 0xE000 then pure (Char.ofNat 0xFFFD, rest)
  else pure (Char.ofNat high, rest)

/-- The rest of a text after its opening quote; `done` has the characters so far in reverse. -/
def readText? (fuel : Nat) (done : List Char) (cs : List Char) : Option (String × List Char) :=
  match fuel, cs with
  | 0, _ => none
  | _, [] => none
  | _ + 1, '"' :: rest => some (String.ofList done.reverse, rest)
  | fuel + 1, '\\' :: 'u' :: rest => do
    let (c, after) ← readEscapedPoint? rest
    readText? fuel (c :: done) after
  | fuel + 1, '\\' :: e :: rest => do
    let c ← simpleEscape? e
    readText? fuel (c :: done) rest
  | fuel + 1, c :: rest =>
    if c.toNat < 0x20 || c == '\\' then none else readText? fuel (c :: done) rest

/-! ## Numbers -/

/-- The value of an ASCII digit. -/
def asciiDigit? (c : Char) : Option Nat := if c.isDigit then some (c.toNat - 48) else none

/-- A run of ASCII digits and what follows it. -/
def spanDigits (cs : List Char) : List Nat × List Char :=
  ((cs.takeWhile Char.isDigit).filterMap asciiDigit?, cs.dropWhile Char.isDigit)

/-- The exponent after its mark, if one is written. -/
def readExponent? : List Char → Option (Int × List Char)
  | c :: rest =>
    if Number.isExponentMark c then
      let (negative, run) := Number.takeSign rest
      match spanDigits run with
      | ([], _) => none
      | (digits, after) =>
        let n : Int := Number.ofDigits digits
        some (if negative then -n else n, after)
    else none
  | [] => none

/-- An unsigned number. -/
def readUnsignedNumber (negative : Bool) (cs : List Char) : Read (Json × List Char) :=
  let (whole, rest) := match cs with
    | '0' :: rest => ([0], rest)
    | _ => spanDigits cs
  if whole.isEmpty then .error .malformed
  else
    let (fraction, afterFraction) := match rest with
      | '.' :: more =>
        let (digits, after) := spanDigits more
        if digits.isEmpty then ([], rest) else (digits, after)
      | _ => ([], rest)
    let magnitude := Number.ofDigits (whole ++ fraction)
    let places : Int := fraction.length
    let decimal (power : Int) : Json :=
      let x := Number.ofDecimal magnitude (power - places)
      .float (if negative then -x else x)
    match readExponent? afterFraction with
    | some (power, after) => .ok (decimal power, after)
    | none =>
      if !fraction.isEmpty then .ok (decimal 0, afterFraction)
      else if Number.digitLimit < whole.length then .error (.longNumeral whole.length)
      else .ok (.int (if negative then -(magnitude : Int) else magnitude), afterFraction)

/-- The rest after a literal word. -/
def dropWord? (word : String) (cs : List Char) : Option (List Char) :=
  if word.toList.isPrefixOf cs then some (cs.drop word.length) else none

/-- A word and the value it stands for. -/
def readWord (word : String) (value : Json) (cs : List Char) : Read (Json × List Char) :=
  expect ((dropWord? word cs).map (value, ·))

/-- A number or a word. -/
def readAtom (cs : List Char) : Read (Json × List Char) :=
  match cs with
  | 'n' :: _ => readWord "null" .null cs
  | 't' :: _ => readWord "true" (.bool true) cs
  | 'f' :: _ => readWord "false" (.bool false) cs
  | 'N' :: _ => readWord "NaN" (.float (Float.ofBits 0x7FF8000000000000)) cs
  | 'I' :: _ => readWord "Infinity" (.float (Float.ofBits 0x7FF0000000000000)) cs
  | '-' :: 'I' :: _ => readWord "-Infinity" (.float (Float.ofBits 0xFFF0000000000000)) cs
  | '-' :: rest => readUnsignedNumber true rest
  | _ => readUnsignedNumber false cs

/-! ## Values -/

mutual

/-- A value at the head of a list of characters, and what follows it. -/
def readValue : Nat → (room : Nat) → List Char → Read (Json × List Char)
  | 0, _, _ => .error .malformed
  | fuel + 1, room, cs =>
    match skipLayout cs with
    | '"' :: rest =>
      expect ((readText? (rest.length + 1) [] rest).map fun (s, after) => (.str s, after))
    | '[' :: rest =>
      match room, skipLayout rest with
      | 0, _ => .error .tooNested
      | _, ']' :: after => .ok (.arr [], after)
      | room + 1, inner => readItems fuel room [] inner
    | '\x7b' :: rest =>
      match room, skipLayout rest with
      | 0, _ => .error .tooNested
      | _, '\x7d' :: after => .ok (.obj [], after)
      | room + 1, inner => readFields fuel room [] inner
    | other => readAtom other

/-- The items of a list up to its closing bracket; `done` has the earlier ones in reverse. -/
def readItems : Nat → (room : Nat) → List Json → List Char → Read (Json × List Char)
  | 0, _, _, _ => .error .malformed
  | fuel + 1, room, done, cs => do
    let (item, rest) ← readValue fuel room cs
    match skipLayout rest with
    | ',' :: more => readItems fuel room (item :: done) more
    | ']' :: after => pure (.arr (item :: done).reverse, after)
    | _ => .error .malformed

/-- The fields of an object up to its closing brace. -/
def readFields : Nat → (room : Nat) → List (String × Json) → List Char → Read (Json × List Char)
  | 0, _, _, _ => .error .malformed
  | fuel + 1, room, done, cs =>
    match skipLayout cs with
    | '"' :: start => do
      let (name, rest) ← expect (readText? (start.length + 1) [] start)
      match skipLayout rest with
      | ':' :: more =>
        let (value, after) ← readValue fuel room more
        let fields := (name, value) :: done
        match skipLayout after with
        | ',' :: next => readFields fuel room fields next
        | '\x7d' :: final => pure (.obj (Entries.ofPairs fields.reverse), final)
        | _ => .error .malformed
      | _ => .error .malformed
    | _ => .error .malformed

end

/-- How many brackets may be open at a time. -/
def depthLimit : Nat := 990

/-- The value a text writes, if it writes one and nothing else. -/
def read (s : String) : Read Json := do
  let cs := s.toList
  let (value, rest) ← readValue (cs.length + 1) depthLimit cs
  if (skipLayout rest).isEmpty then pure value else .error .malformed

end AccessAudit.Json
