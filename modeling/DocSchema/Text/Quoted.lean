import DocSchema.Text.LetterCase
import DocSchema.Text.PrintableTable

/-!
# Quoted text

A text in quotes as it stands in tagged values and descriptions. Beside the quote and
the backslash, everything without a visible form of its own is escaped, by its code
point if there is no short form.
-/

namespace DocSchema.Text

/-- The digits of a number in lower-case hexadecimal. -/
def hexadecimal (value : Nat) : List Char := Nat.toDigits 16 value

/-- A character as it stands between quotes. -/
def quotedCharacter (character : Char) : List Char :=
  match character with
  | '\x00' => ['\\', '0']
  | '\t' => ['\\', 't']
  | '\r' => ['\\', 'r']
  | '\n' => ['\\', 'n']
  | '\\' => ['\\', '\\']
  | '"' => ['\\', '"']
  | other =>
    let code := other.toNat
    if 0x20 ≤ code && code < 0x7F then [other]
    else if inRanges extendingRanges code || inRanges unprintableRanges code then
      ['\\', 'u', '\x7b'] ++ hexadecimal code ++ ['\x7d']
    else [other]

/-- A text in quotes. -/
def quoted (text : String) : String :=
  String.ofList ('"' :: text.toList.flatMap quotedCharacter ++ ['"'])

end DocSchema.Text
