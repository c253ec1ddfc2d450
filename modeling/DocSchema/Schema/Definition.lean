import DocSchema.Json.Basic
import DocSchema.Keyed

/-!
# Type definitions

A definition is what a schema document says of one type, before it is joined with the
definitions it extends. It is read from a JSON value, whose members are checked one by
one: no other members are allowed, and each must have its own form. An object may also
be given as the array of its members in their fixed order, later ones left out.
-/

namespace DocSchema

/-- What a document says of a shape, and of the property that has it. -/
structure ShapeDefinition where
  kind : Option String := none
  items : Option ShapeDefinition := none
  reference : Option String := none
  oneOf : Option (List ShapeDefinition) := none
  values : Option (List Json) := none
  default : Option Json := none
  aliases : List String := []
  decode : Option String := none
  description : Option String := none

/-- What a document says of a type. -/
structure TypeDefinition where
  title : String
  schemaUri : Option String := none
  description : Option String := none
  parent : Option String := none
  properties : Keyed ShapeDefinition := []
  required : List String := []
  oneOf : Option (List ShapeDefinition) := none

namespace Json

def asString? : Json → Option String
  | string text => some text
  | _ => none

def asStrings? : Json → Option (List String)
  | array items => items.mapM asString?
  | _ => none

/-- A member that may be `null` for being absent. -/
def optional? {α : Type} (read : Json → Option α) : Json → Option (Option α)
  | null => some none
  | value => (read value).map some

/-- The member of an object under a key. -/
def member? : Json → String → Option Json
  | object fields, key => Keyed.get? fields key
  | _, _ => none

end Json

namespace ShapeDefinition

/-- The members of a shape in their fixed order. -/
def memberNames : List String :=
  ["type", "items", "$ref", "oneOf", "enum", "default", "aliases", "decode", "description"]

mutual

/-- Reads a shape. -/
def ofJson? : Json → Option ShapeDefinition
  | .object fields => withMembers? {} fields
  | .array items => withItems? {} memberNames items
  | _ => none
termination_by value => (sizeOf value, 0)

/-- Reads the alternatives of a shape. -/
def ofJsonItems? : List Json → Option (List ShapeDefinition)
  | [] => some []
  | item :: rest => do
    let item ← ofJson? item
    let rest ← ofJsonItems? rest
    pure (item :: rest)
termination_by items => (sizeOf items, 0)

/-- Reads one member into the shape read so far. -/
def withMember? (shape : ShapeDefinition) (name : String) (value : Json) :
    Option ShapeDefinition :=
  match name with
  | "type" => (Json.optional? Json.asString? value).map fun kind => { shape with kind }
  | "items" =>
    match value with
    | .null => some shape
    | given => (ofJson? given).map fun items => { shape with items := some items }
  | "$ref" =>
    (Json.optional? Json.asString? value).map fun reference => { shape with reference }
  | "oneOf" =>
    match value with
    | .null => some shape
    | .array items =>
      (ofJsonItems? items).map fun alternatives => { shape with oneOf := some alternatives }
    | _ => none
  | "enum" =>
    match value with
    | .null => some shape
    | .array values => some { shape with values := some values }
    | _ => none
  | "default" =>
    match value with
    | .null => some shape
    | given => some { shape with default := some given }
  | "aliases" => (Json.asStrings? value).map fun aliases => { shape with aliases }
  | "decode" => (Json.optional? Json.asString? value).map fun decode => { shape with decode }
  | "description" =>
    (Json.optional? Json.asString? value).map fun description => { shape with description }
  | _ => none
termination_by (sizeOf value, 1)

/-- Reads the members of an object. -/
def withMembers? (shape : ShapeDefinition) : List (String × Json) → Option ShapeDefinition
  | [] => some shape
  | (name, value) :: rest => do
    let shape ← withMember? shape name value
    withMembers? shape rest
termination_by fields => (sizeOf fields, 0)

/-- Reads the members given as an array; more of them than there are names are refused. -/
def withItems? (shape : ShapeDefinition) : List String → List Json → Option ShapeDefinition
  | _, [] => some shape
  | [], _ => none
  | name :: names, value :: rest => do
    let shape ← withMember? shape name value
    withItems? shape names rest
termination_by _ items => (sizeOf items, 0)

end

end ShapeDefinition

namespace TypeDefinition

/-- The members of a type in their fixed order. -/
def memberNames : List String :=
  ["title", "$schema", "description", "extends", "properties", "required", "oneOf"]

/-- Reads the properties of a type. -/
def readProperties? : List (String × Json) → Option (Keyed ShapeDefinition)
  | [] => some []
  | (name, value) :: rest => do
    let shape ← ShapeDefinition.ofJson? value
    let rest ← readProperties? rest
    pure ((name, shape) :: rest)

/-- Reads one member into the type read so far. -/
def withMember? (type : TypeDefinition) (name : String) (value : Json) :
    Option TypeDefinition :=
  match name with
  | "title" => value.asString?.map fun title => { type with title }
  | "$schema" =>
    (Json.optional? Json.asString? value).map fun schemaUri => { type with schemaUri }
  | "description" =>
    (Json.optional? Json.asString? value).map fun description => { type with description }
  | "extends" =>
    (Json.optional? Json.asString? value).map fun parent => { type with parent }
  | "properties" =>
    match value with
    | .object fields =>
      (readProperties? fields).map fun properties => { type with properties }
    | _ => none
  | "required" => value.asStrings?.map fun required => { type with required }
  | "oneOf" =>
    match value with
    | .null => some type
    | .array items =>
      (ShapeDefinition.ofJsonItems? items).map fun alternatives =>
        { type with oneOf := some alternatives }
    | _ => none
  | _ => none

/-- Reads members into the type read so far. -/
def withMembers? (type : TypeDefinition) : List (String × Json) → Option TypeDefinition
  | [] => some type
  | (name, value) :: rest => do
    let type ← withMember? type name value
    withMembers? type rest

/-- Reads a definition. It must have a title. -/
def ofJson? : Json → Option TypeDefinition
  | .object fields =>
    if Keyed.contains fields "title" then withMembers? ⟨"", none, none, none, [], [], none⟩ fields
    else none
  | .array items =>
    if items.isEmpty || memberNames.length < items.length then none
    else withMembers? ⟨"", none, none, none, [], [], none⟩ (memberNames.zip items)
  | _ => none

end TypeDefinition

end DocSchema
