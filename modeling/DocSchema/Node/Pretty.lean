import DocSchema.Node.Basic
import DocSchema.Json.Printer

/-!
# Indented text with spans

A tree written over several lines, together with the byte range at which every value
stands. Ranges are listed in the order in which values end, so the values inside an
array or a record come before it. Numbers that are not finite are written plainly, so
every tree can be shown.
-/

namespace DocSchema

/-- A range of bytes, its end not included. -/
structure Span where
  start : Nat
  finish : Nat
deriving DecidableEq, Repr

/-- The place of every value of a tree in a text. -/
abbrev SpanMap := List (Path × Span)

/-- Text with the places of the values in it. -/
structure Written where
  text : String
  spans : SpanMap

/-- Texts that stand one after the other, with the places of the values in them. -/
structure WrittenParts where
  parts : List String
  spans : SpanMap

namespace Node

/-- Two spaces for every level. -/
def indent (level : Nat) : String := String.ofList (List.replicate (2 * level) ' ')

/-- A number as it is shown. -/
def numberText (value : Double) : String :=
  if value.isFinite then value.text Double.jsonStyle else value.plainText

/-- What follows an item: a comma unless it is the last, and the end of the line. -/
def lineEnd {α : Type} (following : List α) : String :=
  if following.isEmpty then "\n" else ",\n"

/-- The text of a value that stands at `start` under `path`. -/
def writtenAs (path : Path) (start : Nat) (text : String) (inner : SpanMap) : Written :=
  ⟨text, inner ++ [(path, ⟨start, start + text.utf8ByteSize⟩)]⟩

mutual

/-- Writes a value found at `path`, from the byte `start` on, `level` deep. -/
def write (level : Nat) (path : Path) (start : Nat) : Node → Written
  | null => writtenAs path start "null" []
  | boolean value => writtenAs path start (Json.booleanText value) []
  | integer value => writtenAs path start (Json.integerText value.toInt) []
  | number value => writtenAs path start (numberText value) []
  | string text => writtenAs path start (Json.quoted text) []
  | array [] => writtenAs path start "[]" []
  | array (first :: rest) =>
    let inner := writeItems level path 0 (start + 2) (first :: rest)
    writtenAs path start ("[\n" ++ String.join inner.parts ++ indent level ++ "]") inner.spans
  | record [] => writtenAs path start "\x7b\x7d" []
  | record (first :: rest) =>
    let inner := writeFields level path (start + 2) (first :: rest)
    writtenAs path start ("\x7b\n" ++ String.join inner.parts ++ indent level ++ "\x7d")
      inner.spans

/-- Writes items, each on lines of its own. -/
def writeItems (level : Nat) (path : Path) (position start : Nat) :
    List Node → WrittenParts
  | [] => ⟨[], []⟩
  | item :: rest =>
    let lead := indent (level + 1)
    let first := write (level + 1) (path.index position) (start + lead.utf8ByteSize) item
    let line := lead ++ first.text ++ lineEnd rest
    let later := writeItems level path (position + 1) (start + line.utf8ByteSize) rest
    ⟨line :: later.parts, first.spans ++ later.spans⟩

/-- Writes fields, each on lines of its own after its key. -/
def writeFields (level : Nat) (path : Path) (start : Nat) :
    List (String × Node) → WrittenParts
  | [] => ⟨[], []⟩
  | (key, value) :: rest =>
    let lead := indent (level + 1) ++ Json.quoted key ++ ": "
    let first := write (level + 1) (path.property key) (start + lead.utf8ByteSize) value
    let line := lead ++ first.text ++ lineEnd rest
    let later := writeFields level path (start + line.utf8ByteSize) rest
    ⟨line :: later.parts, first.spans ++ later.spans⟩

end

/-- The indented text of a tree with the place of every value in it. -/
def pretty (node : Node) : Written := node.write 0 [] 0

end Node

end DocSchema
