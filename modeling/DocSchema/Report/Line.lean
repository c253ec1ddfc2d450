/-!
# Lines of reports

A line of a report is a row of characters, each in a style, so that the same layout can be
written plainly or with terminal styles.
-/

namespace DocSchema.Report

/-- How a character of a report stands out. -/
inductive Style where
  | plain
  /-- The word at the start of a report. -/
  | severity
  | title
  /-- Line numbers and what stands beside them. -/
  | gutter
  /-- Marks and labels. -/
  | mark
deriving DecidableEq, Repr

/-- A character in a style. -/
structure Cell where
  style : Style
  character : Char

/-- The characters of a line. -/
abbrev Line := List Cell

/-- A text all in one style. -/
def Style.line (style : Style) (text : List Char) : Line :=
  text.map fun character => ⟨style, character⟩

def plain (text : List Char) : Line := Style.plain.line text

def spaces (count : Nat) : List Char := List.replicate count ' '

def underscores (count : Nat) : List Char := List.replicate count '_'

/-- What tells that something has been cut. -/
def dots : Line := Style.gutter.line ['.', '.', '.']

namespace Line

/-- Writes over a line from a position on. A line that ends before it is filled up. -/
def overlay (line : Line) (position : Nat) (text : Line) : Line :=
  line.take position ++ plain (spaces (position - line.length)) ++ text
    ++ line.drop (position + text.length)

/-- Puts dots in the place of what stands between two positions. A line that does not reach
so far stays as it is. -/
def cutBetween (line : Line) (first last : Nat) : Line :=
  if last ≤ line.length then line.take first ++ dots ++ line.drop last else line

end Line

end DocSchema.Report
