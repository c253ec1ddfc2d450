import DocSchema.Report.Location
import DocSchema.Report.Window

/-!
# Annotated source

A report shows the lines of a text around a span and marks the span: with carets under it
if it lies within one line, else with a bar along its lines. Of a long span only the
beginning and the end are shown.
-/

namespace DocSchema.Report

/-! ### Places in a text -/

/-- A place between two characters: its line, the characters before it in that line and
their columns. -/
structure Place where
  line : Nat
  before : Nat
  column : Nat

def bytesOf (characters : List Char) : Nat := (characters.map Char.utf8Size).foldl (· + ·) 0

/-- The lines of a text. -/
def linesOf (text : String) : List (List Char) := text.toList.splitOn '\n'

/-- The characters in front of a byte. -/
def charactersBefore : Nat → List Char → List Char
  | _, [] => []
  | offset, character :: rest =>
    if character.utf8Size ≤ offset then
      character :: charactersBefore (offset - character.utf8Size) rest
    else []

/-- The place of a byte in lines, the first of which has the number `number`. A byte behind
the last line counts as its end. -/
def locate (number : Nat) : List (List Char) → Nat → Place
  | [], _ => ⟨number, 0, 0⟩
  | [line], offset =>
    let before := charactersBefore offset line
    ⟨number, before.length, Text.columns before⟩
  | line :: rest, offset =>
    let size := bytesOf line
    if offset ≤ size then
      let before := charactersBefore offset line
      ⟨number, before.length, Text.columns before⟩
    else locate (number + 1) rest (offset - size - 1)

/-- The text of a line by its number, counted from one. -/
def lineAt (lines : List (List Char)) (number : Nat) : List Char :=
  lines[number - 1]?.getD []

/-! ### Lines shown -/

/-- Whether a line holds nothing but a bracket or a comment. -/
def isBare (line : List Char) : Bool :=
  let text := Text.trim line
  [[], ['\x7b'], ['\x7d'], ['('], [')'], ['['], [']']].contains text
    || ['/', '/'].isPrefixOf text

/-- The last line of some, given in reverse, that is not bare. -/
def lastTelling? (lines : List (List Char)) (numbers : List Nat) : Option Nat :=
  numbers.find? fun number => !isBare (lineAt lines number)

/-- The numbers of the lines of which a span from `first` to `last` shows the text: up to
four lines past the first one without bare ones at their end, the line before the last
one unless it is bare, and the last one. -/
def shownLines (lines : List (List Char)) (first last : Nat) : List Nat :=
  let middle := min (first + 4) last
  let head := (List.range (middle - first)).map (first + ·)
  let finish := (lastTelling? lines head.reverse).getD first
  let beforeLast :=
    if middle < last - 1 && !isBare (lineAt lines (last - 1)) then [last - 1] else []
  (List.range (finish + 1 - first)).map (first + ·) ++ beforeLast ++ [last]

/-! ### Rows -/

/-- A line number, or room for one, in front of the gutter. -/
def margin (width : Nat) (number : Option Nat) : Line :=
  match number with
  | some number =>
    let digits := number.repr.toList
    Style.gutter.line (spaces (width - digits.length) ++ digits) ++ plain [' ']
      ++ Style.gutter.line ['|']
  | none => plain (spaces (width + 1)) ++ Style.gutter.line ['|']

/-- The marks under a line with the label after them. -/
def markRow (width indent : Nat) (marks label : List Char) : Line :=
  margin width none ++ plain (spaces (indent + 1)) ++ Style.mark.line marks
    ++ (if label.isEmpty then [] else plain [' '] ++ Style.mark.line label)

/-- The columns left for lines beside line numbers and, in a longer span, the bar. -/
def roomFor (width bar : Nat) : Nat := terminalColumns - (width + 3 + bar)

/-- Takes out the middle of a row with a span wider than two windows, so that a third of a
window is left at both ends. The span is placed by its columns in the row. -/
def cutLongSpan (room first last : Nat) (row : Line) : Line :=
  let kept := max (room / 3) 5
  if 2 * room < last - first then row.cutBetween (first + kept) (last - kept) else row

/-- A span within one line: the line and carets under it. -/
def singleLineRows (width : Nat) (lines : List (List Char)) (start finish : Place)
    (label : List Char) : List Line :=
  let line := lineAt lines start.line
  let room := roomFor width 0
  let view := (Window.fit room
    ⟨Window.sharedIndent [line], start.column, finish.column,
      finish.column + Text.columns label + 1, Text.columns line⟩).view line
  let carets := List.replicate (max 1 (finish.column - start.column)) '^'
  -- Line number, gutter and two blanks stand before the line.
  let first := width + 3 + start.column - view.shift
  let last := width + 3 + finish.column - view.shift
  [margin width (some start.line) ++ plain [' '] ++ view.line,
    markRow width (start.column - view.shift) carets label].map (cutLongSpan room first last)

/-- A line within a span, after the bar. -/
def barredRow (width : Nat) (window : Window) (lines : List (List Char)) (number : Nat) : Line :=
  margin width (some number) ++ plain [' '] ++ Style.mark.line ['|'] ++ plain [' ']
    ++ (window.view (lineAt lines number)).line

/-- What stands between two shown lines: the one line that is hidden, or a sign for more. -/
def gapRows (width : Nat) (window : Window) (lines : List (List Char)) (earlier later : Nat) :
    List Line :=
  if later ≤ earlier + 1 then []
  else if later = earlier + 2 then [barredRow width window lines (earlier + 1)]
  else [dots ++ plain (spaces width) ++ Style.mark.line ['|']]

/-- The lines shown after the first one, with what stands between them. -/
def laterRows (width : Nat) (window : Window) (lines : List (List Char)) (earlier : Nat) :
    List Nat → List Line
  | [] => []
  | number :: rest =>
    gapRows width window lines earlier number ++ barredRow width window lines number
      :: laterRows width window lines number rest

/-- The first line of a longer span. Where nothing but white space stands before the span
the bar begins beside the line, else below it. -/
def firstRows (width : Nat) (window : Window) (lines : List (List Char)) (start : Place) :
    List Line :=
  let line := lineAt lines start.line
  let number := margin width (some start.line)
  let view := window.view line
  if (line.take start.before).all Text.isSpace then
    [number ++ plain [' '] ++ Style.mark.line ['/'] ++ plain [' '] ++ view.line]
  else
    let rule := underscores (start.column + 1 - view.shift)
    [number ++ plain (spaces 3) ++ view.line, markRow width 0 (' ' :: rule ++ ['^']) []]

/-- What there is to see of a span over several lines: where it starts and where it ends.
Lines inside it are marked by the bar alone. -/
def extentOf (lines : List (List Char)) (shown : List Nat) (start finish : Place)
    (label : List Char) : Extent :=
  let texts := shown.map (lineAt lines)
  { indent := Window.sharedIndent texts
    first := min start.column (finish.column - 1)
    last := max (start.column + 1) finish.column
    labelEnd := max (start.column + 1) (finish.column + Text.columns label + 1)
    longest := (texts.map Text.columns).foldl max 0 }

/-- A span over several lines: a bar from its first character to its last one. -/
def multiLineRows (width : Nat) (lines : List (List Char)) (start finish : Place)
    (label : List Char) : List Line :=
  let shown := shownLines lines start.line finish.line
  let window := Window.fit (roomFor width 2) (extentOf lines shown start finish label)
  let rule := underscores (finish.column - (window.view (lineAt lines finish.line)).shift)
  firstRows width window lines start
    ++ laterRows width window lines start.line (shown.drop 1)
    ++ [markRow width 0 ('|' :: rule ++ ['^']) label]

end DocSchema.Report
