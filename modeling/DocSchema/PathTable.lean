import DocSchema.Path

/-!
# Tables by path

What a run over a tree finds at its values is filed by their paths. A table is a binary
tree, and some bits of every step of a path lead through it, so that an entry is found as
fast in a long array as in a short one. Paths with the same bits share their entries;
whoever files an entry says in it where it belongs. Main statement: `find_add`, an added
entry comes last among those with its bits and changes no others.
-/

namespace DocSchema

namespace Segment

/-- The lowest bits of a number. -/
def lowBits (count number : Nat) : List Bool := (List.range count).map number.testBit

/-- The bits of a step: all those of a position, some of the size of a name. -/
def bits : Segment → List Bool
  | property name => lowBits 4 name.utf8ByteSize
  | index position => lowBits (position.log2 + 1) position

end Segment

/-- The bits of all steps of a path. -/
def Path.bits (path : Path) : List Bool := path.flatMap Segment.bits

/-- Entries filed by bits. -/
inductive PathTable (α : Type) where
  | empty
  | branch (entries : List α) (zero one : PathTable α)

namespace PathTable

variable {α : Type}

/-- The entries at the root of a table. -/
def entries : PathTable α → List α
  | empty => []
  | branch entries _ _ => entries

/-- The part of a table that a bit leads to. -/
def side : PathTable α → Bool → PathTable α
  | empty, _ => empty
  | branch _ zero _, false => zero
  | branch _ _ one, true => one

/-- The entries that bits lead to. -/
def find : PathTable α → List Bool → List α
  | table, [] => table.entries
  | table, bit :: rest => find (table.side bit) rest

/-- Adds an entry where bits lead. -/
def add (table : PathTable α) (bits : List Bool) (entry : α) : PathTable α :=
  match bits with
  | [] => branch (table.entries ++ [entry]) (table.side false) (table.side true)
  | false :: rest =>
    branch table.entries (add (table.side false) rest entry) (table.side true)
  | true :: rest =>
    branch table.entries (table.side false) (add (table.side true) rest entry)

@[simp] theorem find_empty (bits : List Bool) : find (empty : PathTable α) bits = [] := by
  induction bits with
  | nil => rfl
  | cons bit rest ih => simpa only [find, side] using ih

theorem find_add (table : PathTable α) (bits other : List Bool) (entry : α) :
    (table.add bits entry).find other =
      if bits = other then table.find other ++ [entry] else table.find other := by
  induction bits generalizing table other with
  | nil =>
    cases other with
    | nil => simp [add, find, entries]
    | cons bit rest => cases bit <;> simp [add, find, side]
  | cons bit rest ih =>
    cases other with
    | nil => cases bit <;> simp [add, find, entries]
    | cons first later =>
      cases bit <;> cases first <;> simp [add, find, side, ih]

end PathTable

end DocSchema
