import DocSchema.Schema.PropertyNames

/-!
# Schema sets

A schema set holds the types that can be reached from a root type, and the limit on how
many union types may be entered one inside the other at one value.
-/

namespace DocSchema

/-- Types by name. -/
structure SchemaSet where
  root : String
  types : Keyed CompiledType
  limit : Nat

namespace SchemaSet

/-- The limit where none is given. -/
def defaultLimit : Nat := 64

/-- The set of some types; the first one with a name is the root. -/
def ofTypes (types : List TypeSchema) : SchemaSet where
  root := ((types.map (·.name)).find? (· != "")).getD ""
  types := Keyed.ofEntries (types.map fun type => (type.name, CompiledType.ofSchema type))
  limit := defaultLimit

def find? (set : SchemaSet) (name : String) : Option CompiledType := Keyed.get? set.types name

def contains (set : SchemaSet) (name : String) : Bool := Keyed.contains set.types name

/-- The record type of a name. -/
def recordType? (set : SchemaSet) (name : String) : Option CompiledType :=
  (set.find? name).filter fun type => !type.schema.isUnion

/-- The height of the highest shape in a set. -/
def depth (set : SchemaSet) : Nat :=
  Shape.heightAll (set.types.flatMap fun entry => entry.2.schema.shapes)

def withLimit (set : SchemaSet) (limit : Nat) : SchemaSet := { set with limit }

end SchemaSet

end DocSchema
