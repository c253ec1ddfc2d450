import DocSchema.Node.Basic

/-!
# Values at paths

Looking up the value at a path and replacing it. A replacement keeps the order of keys
and the length of arrays all the way down, and fails exactly where a lookup does; the
error is the shortest part of the path that leads nowhere.
-/

namespace DocSchema.Node

/-- The value one step down. -/
def child? : Node → Segment → Option Node
  | record fields, .property name => Keyed.get? fields name
  | array items, .index position => items[position]?
  | _, _ => none

/-- The value at a path. -/
def get? (node : Node) : Path → Option Node
  | [] => some node
  | segment :: rest => (node.child? segment).bind fun child => child.get? rest

/-- A longer path is followed from the value at its start. -/
theorem get?_append (node : Node) (path below : Path) :
    node.get? (path ++ below) = (node.get? path).bind fun inner => inner.get? below := by
  induction path generalizing node with
  | nil => rfl
  | cons segment rest ih =>
    simp only [List.cons_append, get?]
    cases node.child? segment with
    | none => rfl
    | some child => exact ih child

/-- The same value with the one a step down replaced, if there is one. -/
def withChild : Node → Segment → Node → Node
  | record fields, .property name, value => record (Keyed.insert fields name value)
  | array items, .index position, value => array (items.set position value)
  | node, _, _ => node

/-- Replaces the value at a path below `above`. -/
def replaceBelow (above : Path) (node : Node) (path : Path) (value : Node) :
    Except Path Node :=
  match path with
  | [] => .ok value
  | segment :: rest =>
    match node.child? segment with
    | none => .error (above ++ [segment])
    | some child => do
      let replaced ← child.replaceBelow (above ++ [segment]) rest value
      pure (node.withChild segment replaced)

/-- Replaces the value at a path, or gives the shortest part of the path at which there
is no value. -/
def replace (node : Node) (path : Path) (value : Node) : Except Path Node :=
  node.replaceBelow [] path value

/-- The message for a path that leads nowhere. -/
def missingMessage (path : Path) : String := "no value at path " ++ path.text

end DocSchema.Node
