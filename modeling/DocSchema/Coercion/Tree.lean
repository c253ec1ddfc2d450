import DocSchema.Coercion.Union

/-!
# Coercing trees

Coercion makes of a loosely written tree one of the expected shape, as far as its meaning
is beyond doubt. First the records are reshaped; then values without parts are
converted, single values are put into arrays, unions are settled, and texts with a
decode directive are noted. Whether the result matches the shape is left to the
validator.

Settling a union need not come to an end where a union contains arrays of itself: the
value may be wrapped again and again. Coercion is therefore given fuel and has no
outcome if it runs out.
-/

namespace DocSchema

namespace Coercion

/-- Coerced values in order, with their warnings and sites. -/
structure Gathered (α : Type) where
  values : List α
  warnings : List Warning
  sites : List DecodeSite

/-- Coerces the items of an array, the first of them at `position`. -/
def coerceItems (step : Nat → Node → UnionMemory → Option (Coerced × UnionMemory))
    (position : Nat) : List Node → UnionMemory → Option (Gathered Node × UnionMemory)
  | [], memory => some (⟨[], [], []⟩, memory)
  | value :: rest, memory =>
    match step position value memory with
    | none => none
    | some (first, memory) =>
      match coerceItems step (position + 1) rest memory with
      | none => none
      | some (later, memory) =>
        some (⟨first.node :: later.values, first.warnings ++ later.warnings,
          first.sites ++ later.sites⟩, memory)

/-- Coerces the fields of a record as properties of a type. What is no property of it is
dropped with a warning. -/
def coerceFields (type : TypeSchema) (path : Path)
    (step : String → Property → Node → UnionMemory → Option (Coerced × UnionMemory)) :
    List (String × Node) → UnionMemory → Option (Gathered (String × Node) × UnionMemory)
  | [], memory => some (⟨[], [], []⟩, memory)
  | (key, value) :: rest, memory =>
    match type.property? key with
    | none =>
      match coerceFields type path step rest memory with
      | none => none
      | some (later, memory) =>
        some (⟨later.values, .unknownProperty key path :: later.warnings, later.sites⟩, memory)
    | some property =>
      match step key property value memory with
      | none => none
      | some (first, memory) =>
        match coerceFields type path step rest memory with
        | none => none
        | some (later, memory) =>
          some (⟨(key, first.node) :: later.values, first.warnings ++ later.warnings,
            first.sites ++ later.sites⟩, memory)

/-- The items a value stands for where an array is expected: any other value is the only
one. -/
def itemsOf : Node → List Node
  | .array values => values
  | other => [other]

/-- Coerces a value, already reshaped, where a shape is expected. -/
def coerce (set : SchemaSet) : Nat → Step
  | 0, _, _, _, _, _, _ => none
  | fuel + 1, place, shape, path, hops, node, memory =>
    match shape with
    | .any => some (unchanged node, memory)
    | .scalar kind => some (unchanged (coerceScalar node kind), memory)
    | .object => some (unchanged (unwrapSingleton node), memory)
    | .enum values => some (unchanged (coerceEnum node values), memory)
    | .array items =>
      let step position value := coerce set fuel place.items items (path.index position) 0 value
      match coerceItems step 0 (itemsOf node) memory with
      | none => none
      | some (inside, memory) =>
        some (⟨.array inside.values, inside.warnings, inside.sites⟩, memory)
    | .ref name =>
      match set.find? name with
      | none => some (unchanged node, memory)
      | some type =>
        match type.schema.body with
        | .union alternatives =>
          -- Beyond the limit the value stays, for the validator to report.
          if hops < set.limit then
            coerceUnion set (coerce set fuel) (.union name) alternatives path (hops + 1) node
              memory
          else some (unchanged node, memory)
        | .record _ _ _ =>
          match unwrapSingleton node with
          | .record fields =>
            match recordTarget? set fields name with
            | none => some (unchanged (.record fields), memory)
            | some target =>
              let step key (property : Property) value :=
                coerce set fuel (.property target.schema.name key) property.shape
                  (path.property key) 0 value
              match coerceFields target.schema path step fields memory with
              | none => none
              | some (inside, memory) =>
                some (⟨.record inside.values, inside.warnings, inside.sites⟩, memory)
          | other => some (unchanged other, memory)
    | .oneOf alternatives =>
      coerceUnion set (coerce set fuel) place alternatives path hops node memory
    | .decode format inner =>
      match node with
      | .string content => some (⟨.string content, [], [⟨path, format, inner⟩]⟩, memory)
      | other => coerce set fuel place.inner inner path hops other memory

/-- What is not a text is coerced as the value that the text would stand for. -/
theorem coerce_decode {set : SchemaSet} {fuel : Nat} {place : Place} {format : String}
    {inner : Shape} {path : Path} {hops : Nat} {node : Node} {memory : UnionMemory}
    (coded : node.isString = false) :
    coerce set (fuel + 1) place (.decode format inner) path hops node memory =
      coerce set fuel place.inner inner path hops node memory := by
  cases node with
  | string content => cases coded
  | _ => rfl

/-- Coerces a value found at `path`, already reshaped, where a shape is expected. -/
def coerceReshaped (set : SchemaSet) (fuel : Nat) (memory : UnionMemory) (node : Node)
    (shape : Shape) (path : Path) : Option Coerced :=
  (coerce set fuel .given shape path 0 node memory).map Prod.fst

/-- Reshapes and then coerces a value found at `path`, settling unions with a memory. -/
def coerceTreeWith (set : SchemaSet) (fuel : Nat) (memory : UnionMemory) (node : Node)
    (shape : Shape) (path : Path) : Option Coerced :=
  let reshaped := reshape set shape path node
  (coerceReshaped set fuel memory reshaped.value shape path).map fun coerced =>
    { coerced with warnings := reshaped.warnings ++ coerced.warnings }

/-- Reshapes and then coerces a value found at `path` towards a shape. -/
def coerceTree (set : SchemaSet) (fuel : Nat) (node : Node) (shape : Shape) (path : Path) :
    Option Coerced :=
  coerceTreeWith set fuel .empty node shape path

/-- Reshapes and then coerces a tree towards a named type. -/
def coerceType (set : SchemaSet) (fuel : Nat) (node : Node) (name : String) : Option Coerced :=
  coerceTree set fuel node (.ref name) []

/-- The usual fuel for coercing a tree: every level of the tree may be reached through as many
union types as the limit allows and through the highest shape, and the tree may grow by some
levels. Where it may grow by more, other fuel has to be given. -/
def patience (set : SchemaSet) (node : Node) : Nat :=
  (node.weight + 100) * (set.limit + set.depth + 100)

end Coercion

end DocSchema
