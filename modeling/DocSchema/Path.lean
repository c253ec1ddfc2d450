/-!
# Paths

A path addresses a value inside a tree by the properties and positions that lead to
it from the root.
-/

namespace DocSchema

/-- One step down: into a record by property, into an array by position. -/
inductive Segment where
  | property (name : String)
  | index (position : Nat)
deriving DecidableEq, Repr

/-- The steps from the root to a value. -/
abbrev Path := List Segment

namespace Path

/-- A step written at the start of a path. -/
def firstText : Segment → String
  | .property name => name
  | .index position => "[" ++ position.repr ++ "]"

/-- A step written after another one. -/
def nextText : Segment → String
  | .property name => "." ++ name
  | .index position => "[" ++ position.repr ++ "]"

/-- The written form, such as `authors[0].name`. Nothing is escaped. -/
def text : Path → String
  | [] => "(root)"
  | first :: rest =>
    rest.foldl (fun written segment => written ++ nextText segment) (firstText first)

/-- The number of steps. -/
def depth (path : Path) : Nat := path.length

def property (path : Path) (name : String) : Path := path ++ [.property name]

def index (path : Path) (position : Nat) : Path := path ++ [.index position]

theorem append_property (above path : Path) (name : String) :
    above ++ path.property name = (above ++ path).property name := by
  simp only [property, List.append_assoc]

theorem append_index (above path : Path) (position : Nat) :
    above ++ path.index position = (above ++ path).index position := by
  simp only [index, List.append_assoc]

/-- The path of the enclosing value, unless this is the root. -/
def parent? (path : Path) : Option Path :=
  if path.isEmpty then none else some path.dropLast

/-- Whether `other` leads to this value or to one around it. -/
def startsWith (path other : Path) : Bool := other.isPrefixOf path

/-- A path goes on with one segment only. -/
theorem segment_unique {path longer : Path} {left right : Segment}
    (start : path ++ [left] <+: longer) (also : path ++ [right] <+: longer) : left = right := by
  obtain ⟨later, rfl⟩ := start
  obtain ⟨rest, same⟩ := also
  simp only [List.append_assoc, List.cons_append, List.nil_append, List.append_cancel_left_eq,
    List.cons.injEq] at same
  exact same.1.symm

/-- A path does not begin with itself and a further step. -/
theorem not_further_prefix (path : Path) (segment : Segment) : ¬path ++ [segment] <+: path := by
  intro start
  have bound := start.length_le
  simp only [List.length_append, List.length_singleton] at bound
  omega

theorem not_property_prefix (path : Path) (name : String) : ¬path.property name <+: path :=
  path.not_further_prefix (.property name)

end Path

end DocSchema
