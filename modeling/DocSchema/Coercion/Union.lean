import DocSchema.Coercion.Reshape
import DocSchema.Coercion.Scalar
import DocSchema.PathTable
import DocSchema.Validation.Check

/-!
# Settling unions

A value where a union is expected becomes a value of one alternative, if it can be told
which. What has been settled is remembered by the place of the value, the union and the
number of union types entered, together with the value itself: trials of an enclosing
union bring the same value to the same union, and settling it anew each time would
multiply the work at every level.

The functions here are given the coercion of values as an argument, `Step`, since a union
is settled by coercing the value within its alternatives.
-/

namespace DocSchema

/-- A text found where a decode directive applies. -/
structure DecodeSite where
  path : Path
  format : String
  /-- The shape that the decoded content must have. -/
  shape : Shape

/-- A coerced value with the warnings and the texts left to be decoded, in tree order. -/
structure Coerced where
  node : Node
  warnings : List Warning
  sites : List DecodeSite

namespace Coercion

/-- A value that nothing was done to. -/
def unchanged (node : Node) : Coerced := ⟨node, [], []⟩

/-- The number of properties that were dropped. -/
def dropped (coerced : Coerced) : Nat := coerced.warnings.countP Warning.isDropped

/-! ### Places -/

/-- Where a shape is written: at the start of a run, in a named type or inside another
shape. -/
inductive Place where
  | given
  | property (type name : String)
  | union (type : String)
  | items (outer : Place)
  | inner (outer : Place)
  | alternative (outer : Place) (position : Nat)
deriving DecidableEq, Repr

/-! ### Memory -/

/-- What a settled union is remembered by. Unions without alternatives all count as the
same one. -/
structure UnionKey where
  hops : Nat
  path : Path
  union : Option Place
deriving DecidableEq

/-- The outcome of settling a value. -/
structure Settled where
  key : UnionKey
  input : Node
  outcome : Coerced

/-- The outcomes known so far. A blank memory keeps nothing. -/
inductive UnionMemory where
  | blank
  | settled (outcomes : PathTable Settled)

namespace UnionMemory

/-- A memory to be filled. -/
def empty : UnionMemory := settled .empty

/-- The outcome of the first value that is equal to this one. -/
def known? (memory : UnionMemory) (key : UnionKey) (node : Node) : Option Coerced :=
  match memory with
  | blank => none
  | settled outcomes =>
    ((outcomes.find key.path.bits).find? fun known =>
      known.key == key && known.input.equals node).map (·.outcome)

def remember (memory : UnionMemory) (key : UnionKey) (node : Node) (outcome : Coerced) :
    UnionMemory :=
  match memory with
  | blank => blank
  | settled outcomes => settled (outcomes.add key.path.bits ⟨key, node, outcome⟩)

theorem known?_blank (key : UnionKey) (node : Node) : known? blank key node = none := rfl

theorem known?_empty (key : UnionKey) (node : Node) : known? empty key node = none := by
  simp [known?, empty]

/-- An outcome known after one was remembered was known before or is that one. -/
theorem known?_remember {memory : UnionMemory} {key other : UnionKey} {node input : Node}
    {outcome found : Coerced}
    (known : (memory.remember key node outcome).known? other input = some found) :
    memory.known? other input = some found ∨
      (other = key ∧ node.equals input = true ∧ found = outcome) := by
  cases memory with
  | blank => exact .inl known
  | settled outcomes =>
    simp only [remember, known?, PathTable.find_add] at known ⊢
    split at known
    · cases before : (outcomes.find other.path.bits).find? fun known =>
          known.key == other && known.input.equals input with
      | some settled => exact .inl (by simpa [before] using known)
      | none =>
        obtain ⟨⟨same, equal⟩, rfl⟩ :
            (key = other ∧ node.equals input = true) ∧ outcome = found := by
          simpa [before] using known
        exact .inr ⟨same.symm, equal, rfl⟩
    · exact .inl known

end UnionMemory

/-- The key of a union at a value. -/
def unionKey (place : Place) (alternatives : List Shape) (path : Path) (hops : Nat) : UnionKey :=
  ⟨hops, path, if alternatives.isEmpty then none else some place⟩

/-! ### Settling -/

/-- The coercion of a value where a shape is expected, handing the memory on. Without an
outcome it did not come to an end. -/
abbrev Step :=
  Place → Shape → Path → Nat → Node → UnionMemory → Option (Coerced × UnionMemory)

/-- The alternatives with their positions that a value matches. -/
def matching (set : SchemaSet) (alternatives : List Shape) (node : Node) : List (Shape × Nat) :=
  alternatives.zipIdx.filter fun alternative => Validation.isValid set node alternative.1

/-- The alternative with its position that the value's discriminator names. -/
def namedWithPosition? (alternatives : List Shape) (node : Node) : Option (Shape × Nat) :=
  node.typeName?.bind fun typeName =>
    alternatives.zipIdx.find? fun alternative => alternative.1.namesType typeName

/-- Whether a value matches an alternative and no other one. -/
def isUnique (set : SchemaSet) (alternatives : List Shape) (alternative : Shape) (node : Node) :
    Bool :=
  Validation.isValid set node alternative && (matching set alternatives node).length == 1

/-- Reshapes and coerces a value as one alternative. -/
def trial (set : SchemaSet) (step : Step) (place : Place) (path : Path) (hops : Nat)
    (alternative : Shape) (node : Node) (memory : UnionMemory) :
    Option (Coerced × UnionMemory) :=
  let reshaped := reshape set alternative path node
  match step place alternative path hops reshaped.value memory with
  | none => none
  | some (coerced, memory) =>
    some ({ coerced with warnings := reshaped.warnings ++ coerced.warnings }, memory)

/-- The candidate that dropped fewer properties, the earlier one on a tie. -/
def lessLossy (best : Option Coerced) (candidate : Coerced) : Coerced :=
  match best with
  | none => candidate
  | some current => if dropped candidate < dropped current then candidate else current

/-- Tries the alternatives that are left and keeps the best candidate, that is, an outcome
that matches its own alternative and no other. One that dropped nothing is taken at
once. -/
def tryAlternatives (set : SchemaSet) (step : Step) (place : Place) (alternatives : List Shape)
    (path : Path) (hops : Nat) (node : Node) (best : Option Coerced) :
    List (Shape × Nat) → UnionMemory → Option (Option Coerced × UnionMemory)
  | [], memory => some (best, memory)
  | (alternative, position) :: rest, memory =>
    match trial set step (place.alternative position) path hops alternative node memory with
    | none => none
    | some (candidate, memory) =>
      if isUnique set alternatives alternative candidate.node then
        let best := lessLossy best candidate
        -- No later candidate can drop fewer properties than none.
        if dropped candidate = 0 then some (some best, memory)
        else tryAlternatives set step place alternatives path hops node (some best) rest memory
      else tryAlternatives set step place alternatives path hops node best rest memory

/-- Settles a value. It is coerced within the alternative it matches, if it matches exactly
one, or within the one its discriminator names, if it matches none. Else, matching none,
it becomes the best candidate among the alternatives, and stays as it is if there is
none or if it matches several. -/
def settle (set : SchemaSet) (step : Step) (place : Place) (alternatives : List Shape)
    (path : Path) (hops : Nat) (node : Node) (memory : UnionMemory) :
    Option (Coerced × UnionMemory) :=
  match matching set alternatives node with
  | [(alternative, position)] =>
    step (place.alternative position) alternative path hops node memory
  | [] =>
    match namedWithPosition? alternatives node with
    | some (alternative, position) =>
      step (place.alternative position) alternative path hops node memory
    | none =>
      match tryAlternatives set step place alternatives path hops node none
          alternatives.zipIdx memory with
      | none => none
      | some (best, memory) => some (best.getD (unchanged node), memory)
  -- Which one of several is meant cannot be told.
  | _ => some (unchanged node, memory)

/-- Coerces a value where a union is expected: as remembered, else by settling it. -/
def coerceUnion (set : SchemaSet) (step : Step) (place : Place) (alternatives : List Shape)
    (path : Path) (hops : Nat) (node : Node) (memory : UnionMemory) :
    Option (Coerced × UnionMemory) :=
  let key := unionKey place alternatives path hops
  match memory.known? key node with
  | some outcome => some (outcome, memory)
  | none =>
    match settle set step place alternatives path hops node memory with
    | none => none
    | some (outcome, memory) => some (outcome, memory.remember key node outcome)

end Coercion

end DocSchema
