import DocSchema.Report.Snippet

/-!
# Rendering reports

The reports of all errors of a tree, each with a title, the place of the error in the
indented text of the tree, and the annotated lines. They are written plainly or with the
styles of a terminal.
-/

namespace DocSchema.Report

/-- The name under which the text of the tree is shown. -/
def sourceName : List Char := "<node>".toList

/-- A report with the places where its span starts and ends. -/
structure Placed where
  located : Located
  start : Place
  finish : Place

/-- Finds the span of a report in the text of a tree. -/
def place (lines : List (List Char)) (spans : SpanMap) (size : Nat) (located : Located) :
    Placed :=
  let span := nearestSpan spans size located.path
  ⟨located, locate 1 lines span.start, locate 1 lines span.finish⟩

/-- The title, its later lines set in. -/
def titleRows (title : String) : List Line :=
  match (Text.shown title.toList).splitOn '\n' with
  | [] => []
  | first :: rest =>
    (Style.severity.line "error".toList ++ Style.title.line (':' :: ' ' :: first))
      :: rest.map fun line => plain (spaces 7) ++ Style.title.line line

/-- The line that names the place. -/
def placeRow (width : Nat) (start : Place) : Line :=
  plain (spaces width) ++ Style.gutter.line "--> ".toList
    ++ plain (sourceName ++ ':' :: start.line.repr.toList ++ ':' :: (start.before + 1).repr.toList)

/-- The lines of one report. -/
def reportRows (width : Nat) (lines : List (List Char)) (placed : Placed) : List Line :=
  let label := placed.located.label.toList
  titleRows placed.located.title ++ [placeRow width placed.start, margin width none]
    ++ (if placed.start.line = placed.finish.line then
      singleLineRows width lines placed.start placed.finish label
    else multiLineRows width lines placed.start placed.finish label)

/-- The lines of all reports. After the first one stands an empty line, if there are
others. -/
def allRows (lines : List (List Char)) (reports : List Placed) : List Line :=
  -- All reports leave room for the largest line number among them.
  let last := (reports.map (·.finish.line)).foldl max 1
  let width := last.repr.length
  match reports with
  | [] => []
  | [only] => reportRows width lines only
  | first :: rest =>
    reportRows width lines first ++ margin width none :: rest.flatMap (reportRows width lines)

/-! ### Styles -/

/-- The terminal codes that begin a style. -/
def Style.codes : Style → String
  | .plain => ""
  | .severity => "\x1b[1m\x1b[91m"
  | .title => "\x1b[1m"
  | .gutter => "\x1b[1m\x1b[94m"
  | .mark => "\x1b[1m\x1b[91m"

/-- Characters of one style, the first of which is given. -/
def writeRun (first : Cell) (rest : Line) : String :=
  let text := String.ofList (first.character :: rest.map (·.character))
  if first.style = .plain then text else first.style.codes ++ text ++ "\x1b[0m"

/-- A line plainly, or each run of characters of one style with its codes. -/
def renderLine (styled : Bool) (line : Line) : String :=
  if styled then
    let runs := line.splitBy fun left right => left.style == right.style
    String.join (runs.map fun
      | [] => ""
      | first :: rest => writeRun first rest)
  else String.ofList (line.map (·.character))

/-- Renders reports against the tree they are about. -/
def renderLocated (reports : List Located) (node : Node) (styled : Bool) : String :=
  let written := node.pretty
  let lines := linesOf written.text
  let placed := reports.map (place lines written.spans written.text.utf8ByteSize)
  "\n".intercalate ((allRows lines placed).map (renderLine styled))

/-- Renders validation errors; nothing if there are none. -/
def renderErrors (errors : List ValidationError) (node : Node) (styled : Bool) : String :=
  renderLocated (errors.map ofValidationError) node styled

/-- Renders a failure of the engine. -/
def renderError (error : EngineError) (node : Node) (styled : Bool) : String :=
  renderLocated (ofEngineError error) node styled

end DocSchema.Report
