import DocSchema.Text.LetterCase
import DocSchema.Text.WidthTable

/-!
# Text as it is shown in a terminal

Controls are shown by their pictures and tabs by spaces, and what would change the
direction of the text is shown as a replacement, so that every character stands in the
columns it is counted for.
-/

namespace DocSchema.Text

/-- Whether a character changes the direction of the text. -/
def isDirectional (character : Char) : Bool :=
  let code := character.toNat
  (0x202A ≤ code && code ≤ 0x202E) || (0x2066 ≤ code && code ≤ 0x2069)

/-- A character as it is shown. Line ends are left to the caller. -/
def shownCharacter (character : Char) : List Char :=
  let code := character.toNat
  if character == '\n' then ['\n']
  else if character == '\t' then [' ', ' ', ' ', ' ']
  else if code < 0x20 then [Char.ofNat (0x2400 + code)]
  else if code == 0x7F then [Char.ofNat 0x2421]
  else if code == 0x200D then []
  else if isDirectional character then [Char.ofNat 0xFFFD]
  else [character]

/-- A text as it is shown. -/
def shown (characters : List Char) : List Char := characters.flatMap shownCharacter

/-- The number of columns a character takes. -/
def columnsOf (character : Char) : Nat :=
  let code := character.toNat
  if character == '\t' then 4
  else if code < 0x300 then (if code == 0xAD then 0 else 1)
  else if isDirectional character then 1
  else if inRanges zeroWidthRanges code then 0
  else if inRanges wideRanges code then 2
  -- A sign that stands for a word of three letters.
  else if code == 0x17D8 then 3
  else 1

/-- The number of columns a text takes. -/
def columns (characters : List Char) : Nat := (characters.map columnsOf).foldl (· + ·) 0

end DocSchema.Text
