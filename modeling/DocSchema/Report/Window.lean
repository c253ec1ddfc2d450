import DocSchema.Report.Line
import DocSchema.Text.Shown
import DocSchema.Text.Space

/-!
# Windows

All lines of a report are seen through one window, so that the report fits a terminal if
it can. Of deep indentation only some is shown, and long lines are cut where neither the
span nor its label stands. Dots tell where something has been cut.
-/

namespace DocSchema.Report

/-- The columns that a terminal is taken to have. -/
def terminalColumns : Nat := 140

/-- What there is to see of the lines of a report. -/
structure Extent where
  /-- The indentation that all lines share. -/
  indent : Nat
  /-- The column where the marks begin. -/
  first : Nat
  /-- The column behind the marks. -/
  last : Nat
  /-- The column behind the labels. -/
  labelEnd : Nat
  /-- The columns of the longest line. -/
  longest : Nat

/-- The part of every line that is shown. -/
structure Window where
  start : Nat
  finish : Nat
  /-- The number of columns there are. A line that fits them is not cut at its end. -/
  room : Nat

namespace Window

/-- What is kept free around the marks, so that dots do not cover them. -/
def padding : Nat := 6

/-- Indentation beyond this is cut. -/
def deepIndent : Nat := 20

/-- What is left of an indentation that is cut. -/
def keptIndent : Nat := 4

def startingAt (room start : Nat) : Window := ⟨start, start + room, room⟩

/-- The indentation that lines share. Blank lines do not count. -/
def sharedIndent (lines : List (List Char)) : Nat :=
  let written := lines.filter fun line => line.any fun character => !Text.isSpace character
  (written.map fun line => (line.takeWhile Text.isSpace).length).min?.getD 0

/-- The window that shows an extent in some room. If the lines do not fit as they are, it
gives up the indentation first, then what stands around the marks with their labels, then
the ends of the labels. -/
def fit (room : Nat) (extent : Extent) : Window :=
  let indent := extent.indent - padding
  let first := extent.first - padding
  let last := extent.last + padding
  let labelEnd := extent.labelEnd + padding
  let trimmed := if deepIndent < indent then indent - (deepIndent - keptIndent) else 0
  if extent.longest - trimmed ≤ room then ⟨trimmed, max extent.longest trimmed, room⟩
  else if labelEnd - indent ≤ room then startingAt room indent
  else if labelEnd - first ≤ room then
    startingAt room (first - (room - (labelEnd - first)) / 2)
  else if last - first ≤ room then
    startingAt room (first - (room - (last - first)) / 5 * 2)
  else ⟨first, last, room⟩

/-- The column behind the last one that is shown of a line with so many columns. -/
def endOf (window : Window) (size : Nat) : Nat :=
  if size - window.start ≤ window.room then size else min size window.finish

end Window

/-! ### Columns of a line -/

/-- Drops characters until so many columns are gone, with the columns that really are. -/
def dropColumns : Nat → List Char → Nat × List Char
  | 0, characters => (0, characters)
  | _, [] => (0, [])
  | count, character :: rest =>
    let width := Text.columnsOf character
    let (dropped, left) := dropColumns (count - width) rest
    (width + dropped, left)
termination_by _ characters => characters.length

/-- The characters at the start that fit so many columns. -/
def takeColumns (room : Nat) : List Char → List Char
  | [] => []
  | character :: rest =>
    let width := Text.columnsOf character
    if width ≤ room then character :: takeColumns (room - width) rest else []

/-- What is seen of a line through a window. -/
structure View where
  /-- The columns by which what is seen is shifted. -/
  shift : Nat
  line : Line

/-- Looks at a line. Dots cover the first and the last three columns where it is cut, and
wide characters are covered whole. -/
def Window.view (window : Window) (line : List Char) : View :=
  let text := Text.shown line
  let size := Text.columns text
  let start := min window.start size
  let finish := window.endOf size
  let (shift, rest) := dropColumns start text
  let seen := takeColumns (finish - start) rest
  let (covered, body) := if 0 < window.start then dropColumns dots.length seen else (0, seen)
  let front : Line := if 0 < window.start then dots else []
  let cells := front.overlay covered (plain body)
  let behind := seen.length - (dropColumns dots.length seen.reverse).2.length
  let cells :=
    if finish < size then cells.overlay (covered + body.length - behind) dots else cells
  ⟨shift, cells⟩

end DocSchema.Report
