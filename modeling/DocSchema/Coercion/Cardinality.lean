import DocSchema.Schema.SchemaSet

/-!
# Cardinality

How many values a shape holds, seen through references, unions and decode directives.
A union holds what all its alternatives hold, if they agree.
-/

namespace DocSchema

/-- How many values a shape holds. -/
inductive Cardinality where
  | one
  | many
  /-- One or many, as with a union of a scalar and an array. -/
  | either
deriving DecidableEq, Repr

namespace Cardinality

mutual

/-- The cardinality of a shape after `hops` union types have been entered. -/
def ofShape (set : SchemaSet) (hops : Nat) (shape : Shape) : Cardinality :=
  match shape with
  | .any => either
  | .scalar .null => either
  | .scalar _ => one
  | .object => one
  | .enum _ => one
  | .array _ => many
  | .decode _ inner => ofShape set hops inner
  | .oneOf alternatives => ofAlternatives set hops alternatives
  | .ref name =>
    match set.find? name with
    | none => either
    | some type =>
      match type.schema.body with
      | .record _ _ _ => one
      -- A union type entered too often could hold anything.
      | .union alternatives =>
        if hops < set.limit then ofAlternatives set (hops + 1) alternatives else either
termination_by (set.limit - hops, sizeOf shape)

/-- The cardinality that all alternatives have. -/
def ofAlternatives (set : SchemaSet) (hops : Nat) (alternatives : List Shape) : Cardinality :=
  match alternatives with
  | [] => either
  | first :: rest =>
    let cardinality := ofShape set hops first
    if allHave set hops cardinality rest then cardinality else either
termination_by (set.limit - hops, sizeOf alternatives)

/-- Whether all alternatives have a cardinality. -/
def allHave (set : SchemaSet) (hops : Nat) (cardinality : Cardinality)
    (alternatives : List Shape) : Bool :=
  match alternatives with
  | [] => true
  | first :: rest =>
    decide (ofShape set hops first = cardinality) && allHave set hops cardinality rest
termination_by (set.limit - hops, sizeOf alternatives)

end

end Cardinality

end DocSchema
