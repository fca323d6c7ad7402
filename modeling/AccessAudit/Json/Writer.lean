import AccessAudit.Json

/-!
# Writing values

The compact written form: no blanks between the parts, texts between double quotes with the
quote, the backslash and the control characters escaped.
-/

namespace AccessAudit.Json

/-- A character inside a written text. -/
def writtenChar (c : Char) : List Char :=
  if c == '"' || c == '\\' then ['\\', c]
  else if c == '\n' then ['\\', 'n']
  else if c == '\r' then ['\\', 'r']
  else if c == '\t' then ['\\', 't']
  else if c.toNat < 0x20 || (0x7F ≤ c.toNat && c.toNat ≤ 0x9F) || c.toNat == 0x2028 ||
      c.toNat == 0x2029 then
    '\\' :: 'u' :: Text.hexDigits 4 c.toNat
  else [c]

/-- A text between double quotes. -/
def writtenText (s : String) : String :=
  String.ofList ('"' :: s.toList.flatMap writtenChar ++ ['"'])

mutual

/-- The written form of a value. -/
def write : Json → String
  | null => "null"
  | bool true => "true"
  | bool false => "false"
  | int value => toString value
  | float value => Number.display value
  | str value => writtenText value
  | arr items => "[" ++ ",".intercalate (writeItems items) ++ "]"
  | obj fields => "\x7b" ++ ",".intercalate (writeFields fields) ++ "\x7d"

/-- The written forms of a list's items. -/
def writeItems : List Json → List String
  | [] => []
  | item :: rest => write item :: writeItems rest

/-- The written forms of an object's fields. -/
def writeFields : List (String × Json) → List String
  | [] => []
  | (name, value) :: rest => (writtenText name ++ ":" ++ write value) :: writeFields rest

end

end AccessAudit.Json
