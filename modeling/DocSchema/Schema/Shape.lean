import DocSchema.Node.Literal

/-!
# Shapes

A shape says what a value must look like. A reference names a type and is looked up in
a schema set only where a value is found, so shapes themselves are finite trees even if
types refer to each other.
-/

namespace DocSchema

/-- The kinds of values without parts. -/
inductive Scalar where
  | null
  | boolean
  | integer
  | number
  | string
deriving DecidableEq, Repr

/-- The shape a value must have. -/
inductive Shape where
  /-- Every value. -/
  | any
  /-- A value without parts. Whole floating-point numbers count as integers, and
  integers and finite numbers as numbers. -/
  | scalar (kind : Scalar)
  /-- A record of any type. -/
  | object
  /-- One of some literal values. -/
  | enum (values : List Node)
  | array (items : Shape)
  /-- A value of a named type. -/
  | ref (name : String)
  /-- A value that exactly one alternative matches. -/
  | oneOf (alternatives : List Shape)
  /-- A text encoded in a format, or the value it stands for. -/
  | decode (format : String) (inner : Shape)

namespace Scalar

def text : Scalar → String
  | null => "null"
  | boolean => "boolean"
  | integer => "integer"
  | number => "number"
  | string => "string"

end Scalar

namespace Shape

mutual

/-- A shape as it is named in messages. -/
def text : Shape → String
  | any => "any"
  | scalar kind => kind.text
  | object => "object"
  | enum values => "one of " ++ Node.literals values
  | array items => "array of " ++ items.text
  | ref name => name
  | oneOf alternatives => textAlternatives alternatives
  | decode format inner => inner.text ++ " (" ++ format ++ "-encoded)"

def textAlternatives : List Shape → String
  | [] => ""
  | [alternative] => alternative.text
  | alternative :: rest => alternative.text ++ " | " ++ textAlternatives rest

end

mutual

/-- The names of all types a shape refers to, in order of appearance. -/
def references : Shape → List String
  | ref name => [name]
  | array items => items.references
  | oneOf alternatives => referencesAll alternatives
  | decode _ inner => inner.references
  | _ => []

def referencesAll : List Shape → List String
  | [] => []
  | alternative :: rest => alternative.references ++ referencesAll rest

end

mutual

/-- How many shapes are written one inside the other. A reference counts for two, since it may
lead to a union type of record types. -/
def height : Shape → Nat
  | ref _ => 2
  | array items => items.height + 1
  | oneOf alternatives => heightAll alternatives + 1
  | decode _ inner => inner.height + 1
  | _ => 1

def heightAll : List Shape → Nat
  | [] => 0
  | alternative :: rest => max alternative.height (heightAll rest)

end

theorem height_le_heightAll {shapes : List Shape} {shape : Shape} (member : shape ∈ shapes) :
    shape.height ≤ heightAll shapes := by
  induction shapes with
  | nil => simp at member
  | cons first rest ih =>
    rw [heightAll]
    rcases List.mem_cons.mp member with rfl | later
    · exact Nat.le_max_left _ _
    · exact Nat.le_trans (ih later) (Nat.le_max_right _ _)

/-- Whether a record with this discriminator selects the shape among alternatives. -/
def namesType (shape : Shape) (typeName : String) : Bool :=
  match shape with
  | ref name => name == typeName
  | _ => false

/-- The alternative that a value's discriminator names, the first one of several. -/
def named? (alternatives : List Shape) (node : Node) : Option Shape :=
  node.typeName?.bind fun typeName => alternatives.find? (·.namesType typeName)

theorem mem_of_named? {alternatives : List Shape} {node : Node} {alternative : Shape}
    (named : named? alternatives node = some alternative) : alternative ∈ alternatives := by
  unfold named? at named
  obtain ⟨typeName, _, found⟩ := Option.bind_eq_some_iff.mp named
  exact List.mem_of_find?_eq_some found

/-! ### Equality -/

mutual

/-- Whether two shapes are written alike. -/
def same : Shape → Shape → Bool
  | any, any => true
  | scalar left, scalar right => left == right
  | object, object => true
  | enum left, enum right => left == right
  | array left, array right => same left right
  | ref left, ref right => left == right
  | oneOf left, oneOf right => sameAll left right
  | decode leftFormat left, decode rightFormat right => leftFormat == rightFormat && same left right
  | _, _ => false

def sameAll : List Shape → List Shape → Bool
  | [], [] => true
  | left :: lefts, right :: rights => same left right && sameAll lefts rights
  | _, _ => false

end

mutual

theorem same_iff : ∀ left right : Shape, same left right = true ↔ left = right
  | any, right => by cases right <;> simp [same]
  | scalar _, right => by cases right <;> simp [same]
  | object, right => by cases right <;> simp [same]
  | enum _, right => by cases right <;> simp [same]
  | array left, right => by cases right <;> simp [same, same_iff left]
  | ref _, right => by cases right <;> simp [same]
  | oneOf left, right => by cases right <;> simp [same, sameAll_iff left]
  | decode _ left, right => by cases right <;> simp [same, same_iff left]

theorem sameAll_iff : ∀ left right : List Shape, sameAll left right = true ↔ left = right
  | [], right => by cases right <;> simp [sameAll]
  | left :: lefts, right => by
    cases right <;> simp [sameAll, same_iff left, sameAll_iff lefts]

end

instance : DecidableEq Shape := fun left right =>
  decidable_of_iff (same left right = true) (same_iff left right)

end Shape

end DocSchema
