import DocSchema.Schema.Shape

/-!
# Types

A type is a record type with properties or a union type, whose values match exactly one
of its alternatives.
-/

namespace DocSchema

/-- A property declared by a record type. -/
structure Property where
  shape : Shape
  /-- The value filled in where the property is required but absent. -/
  default : Option Node
  /-- Other names the property may be given under. -/
  aliases : List String
  description : Option String

/-- What a type consists of. -/
inductive TypeBody where
  /-- Properties, inherited ones first; the names that must be present; and the property
  every alias stands for. -/
  | record (properties : Keyed Property) (required : List String) (aliases : Keyed String)
  | union (alternatives : List Shape)

/-- A named type. -/
structure TypeSchema where
  name : String
  description : Option String
  body : TypeBody

namespace TypeSchema

/-- The properties of a record type; a union type has none. -/
def properties (type : TypeSchema) : Keyed Property :=
  match type.body with
  | .record properties _ _ => properties
  | .union _ => []

def required (type : TypeSchema) : List String :=
  match type.body with
  | .record _ required _ => required
  | .union _ => []

def aliases (type : TypeSchema) : Keyed String :=
  match type.body with
  | .record _ _ aliases => aliases
  | .union _ => []

/-- The alternatives of a union type. -/
def alternatives? (type : TypeSchema) : Option (List Shape) :=
  match type.body with
  | .record _ _ _ => none
  | .union alternatives => some alternatives

def isUnion (type : TypeSchema) : Bool := type.alternatives?.isSome

def property? (type : TypeSchema) (name : String) : Option Property :=
  Keyed.get? type.properties name

def isRequired (type : TypeSchema) (name : String) : Bool := type.required.contains name

/-- The shapes a type is written with. -/
def shapes (type : TypeSchema) : List Shape :=
  type.properties.map (·.2.shape) ++ type.alternatives?.getD []

/-- The names of all types a type refers to, each once, in order of appearance. -/
def references (type : TypeSchema) : List String :=
  (Shape.referencesAll type.shapes).foldl
    (fun names name => if names.contains name then names else names ++ [name]) []

end TypeSchema

end DocSchema
