import DocSchema.Schema.TypeSchema
import DocSchema.Text.CamelCase

/-!
# Names of properties

A property may be given under its own name, an alias, or any spelling that normalizes
like one of these. Exact names count before normalized ones, and of two that normalize
alike the one declared first.
-/

namespace DocSchema

/-- The accepted names of the properties of a type, exact and normalized. -/
structure PropertyNames where
  normalize : String → String
  exact : Keyed String
  normalized : Keyed String

namespace PropertyNames

/-- Adds an entry unless there is one under the key. -/
def addNew (entries : Keyed String) (key value : String) : Keyed String :=
  if Keyed.contains entries key then entries else entries ++ [(key, value)]

/-- Accepts a name for a property. -/
def add (names : PropertyNames) (name property : String) : PropertyNames :=
  { names with
    exact := addNew names.exact name property
    normalized := addNew names.normalized (names.normalize name) property }

/-- All declared names with the property each stands for: properties, then aliases. -/
def declared (type : TypeSchema) : List (String × String) :=
  (Keyed.keys type.properties).map (fun name => (name, name)) ++ type.aliases

/-- The accepted names of a type under a normalization. -/
def build (normalize : String → String) (type : TypeSchema) : PropertyNames :=
  (declared type).foldl (fun names entry => names.add entry.1 entry.2) ⟨normalize, [], []⟩

/-- The property a key stands for. -/
def resolve? (names : PropertyNames) (key : String) : Option String :=
  match Keyed.get? names.exact key with
  | some property => some property
  | none => Keyed.get? names.normalized (names.normalize key)

end PropertyNames

/-- A type together with the accepted names of its properties. -/
structure CompiledType where
  schema : TypeSchema
  names : PropertyNames
  names_eq : names = PropertyNames.build Text.camelCase schema

namespace CompiledType

def ofSchema (schema : TypeSchema) : CompiledType :=
  ⟨schema, PropertyNames.build Text.camelCase schema, rfl⟩

@[simp] theorem schema_ofSchema (schema : TypeSchema) : (ofSchema schema).schema = schema := rfl

end CompiledType

end DocSchema
