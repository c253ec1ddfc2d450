import DocSchema.Json.Basic
import DocSchema.Double.Text

/-!
# Compact JSON text

No spaces, keys in their order, numbers by their shortest digits. In strings the
quote, the backslash and the control characters below the space are escaped, and
everything else stands as it is.
-/

namespace DocSchema.Json

/-- A hexadecimal digit in lower case. -/
def hexDigit (value : Nat) : Char :=
  Char.ofNat (if value < 10 then '0'.toNat + value else 'a'.toNat + (value - 10))

/-- A character as it stands between the quotes of a JSON string. -/
def escaped (character : Char) : List Char :=
  match character with
  | '"' => ['\\', '"']
  | '\\' => ['\\', '\\']
  | '\x08' => ['\\', 'b']
  | '\x0c' => ['\\', 'f']
  | '\n' => ['\\', 'n']
  | '\r' => ['\\', 'r']
  | '\t' => ['\\', 't']
  | other =>
    if other.toNat < 0x20 then
      ['\\', 'u', '0', '0', hexDigit (other.toNat / 16), hexDigit (other.toNat % 16)]
    else [other]

/-- A JSON string with its quotes. -/
def quoted (text : String) : String :=
  String.ofList ('"' :: text.toList.flatMap escaped ++ ['"'])

def booleanText (value : Bool) : String := if value then "true" else "false"

/-- The decimal text of an integer. -/
def integerText (value : Int) : String :=
  if value < 0 then "-" ++ value.natAbs.repr else value.natAbs.repr

mutual

/-- The compact text of a value. -/
def compact : Json → String
  | .null => "null"
  | .boolean value => booleanText value
  | .integer value => integerText value
  | .number value _ => value.text Double.jsonStyle
  | .string text => quoted text
  | .array items => "[" ++ ",".intercalate (compactItems items) ++ "]"
  | .object fields => "\x7b" ++ ",".intercalate (compactFields fields) ++ "\x7d"

/-- The compact texts of items. -/
def compactItems : List Json → List String
  | [] => []
  | item :: rest => compact item :: compactItems rest

/-- The compact texts of members with their keys. -/
def compactFields : List (String × Json) → List String
  | [] => []
  | (key, value) :: rest => (quoted key ++ ":" ++ compact value) :: compactFields rest

end

end DocSchema.Json
