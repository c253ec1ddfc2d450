import DocSchema.Node.Json
import DocSchema.Schema.Definition
import DocSchema.Schema.DefinitionError
import DocSchema.Schema.TypeSchema

/-!
# Flattening a chain of definitions

A record type is made of its own definition and of those it extends: the nearest one
decides what a property is, the farthest one where it stands. Every record type has a
discriminator, a required property that holds its name. A union type stands alone.
-/

namespace DocSchema

namespace ShapeDefinition

/-- The type a reference names: what follows its last slash, without the ending of a
schema file. -/
def referenceName (reference : String) : String :=
  let name := ((reference.toList.reverse.takeWhile (· != '/'))).reverse
  let ending := ".schema.json".toList
  if ending.isSuffixOf name then String.ofList (name.take (name.length - ending.length))
  else String.ofList name

/-- The shape wrapped into a decode directive, if there is one. -/
def directed (decode : Option String) (shape : Shape) : Shape :=
  match decode with
  | some format => .decode format shape
  | none => shape

/-- The shape without items that a kind names. -/
def kindShape? : String → Option Shape
  | "any" => some .any
  | "null" => some (.scalar .null)
  | "boolean" => some (.scalar .boolean)
  | "integer" => some (.scalar .integer)
  | "number" => some (.scalar .number)
  | "string" => some (.scalar .string)
  | "object" => some .object
  | _ => none

mutual

/-- The shape a definition describes. A reference counts before alternatives, these
before literal values and these before a kind. -/
def lower (property : String) : ShapeDefinition → Except DefinitionError Shape
  | { kind, items, reference, oneOf, values, decode, .. } => do
    let shape ← match reference, oneOf, values, kind, items with
      | some reference, _, _, _, _ => pure (.ref (referenceName reference))
      | none, some alternatives, _, _, _ => do
        let alternatives ← lowerAll property alternatives
        pure (.oneOf alternatives)
      | none, none, some values, _, _ => pure (.enum (values.map Node.ofJson))
      | none, none, none, none, _ => pure .any
      | none, none, none, some "array", some items => do
        let items ← lower property items
        pure (.array items)
      -- An array without items holds any values.
      | none, none, none, some "array", none => pure (.array .any)
      | none, none, none, some kind, _ =>
        match kindShape? kind with
        | some shape => pure shape
        | none => .error (.unknownKind property kind)
    pure (directed decode shape)

/-- The shapes that definitions describe, or the first fault. -/
def lowerAll (property : String) : List ShapeDefinition → Except DefinitionError (List Shape)
  | [] => .ok []
  | definition :: rest => do
    let shape ← lower property definition
    let rest ← lowerAll property rest
    pure (shape :: rest)

end

/-- The property a definition describes. -/
def lowerProperty (name : String) (definition : ShapeDefinition) :
    Except DefinitionError Property := do
  let shape ← definition.lower name
  pure ⟨shape, definition.default.map Node.ofJson, definition.aliases, definition.description⟩

end ShapeDefinition

namespace TypeSchema

/-- Adds the properties of one definition: a property declared before is replaced in its
place, a new one comes last. -/
def addProperties (properties : Keyed Property) :
    List (String × ShapeDefinition) → Except DefinitionError (Keyed Property)
  | [] => .ok properties
  | (name, definition) :: rest => do
    let property ← definition.lowerProperty name
    addProperties (Keyed.insert properties name property) rest

/-- Adds names that are not listed yet. -/
def addRequired (required names : List String) : List String :=
  names.foldl (fun all name => if all.contains name then all else all ++ [name]) required

/-- Adds the definitions of a chain, the farthest one first. -/
def addDefinitions (properties : Keyed Property) (required : List String) :
    List TypeDefinition → Except DefinitionError (Keyed Property × List String)
  | [] => .ok (properties, required)
  | definition :: rest => do
    let properties ← addProperties properties definition.properties
    addDefinitions properties (addRequired required definition.required) rest

/-- The shape of the discriminator of a type. -/
def discriminatorShape (name : String) : Shape := .enum [.string name]

/-- Lets the discriminator name the type, whatever has been declared for it. -/
def withDiscriminator (name : String) (properties : Keyed Property) : Keyed Property :=
  match Keyed.get? properties Node.typeKey with
  | some declared =>
    Keyed.insert properties Node.typeKey { declared with shape := discriminatorShape name }
  | none => (Node.typeKey, ⟨discriminatorShape name, none, [], none⟩) :: properties

/-- Requires the discriminator. -/
def requireDiscriminator (required : List String) : List String :=
  if required.contains Node.typeKey then required else Node.typeKey :: required

/-- What an alias of a property collides with: a property, or another property that has
the same alias. -/
def collision? (properties : Keyed Property) (known : Keyed String) (property aliasName : String) :
    Option String :=
  if Keyed.contains properties aliasName then some aliasName
  else (Keyed.get? known aliasName).filter (· != property)

/-- Adds the aliases of one property to those known. -/
def addAliases (properties : Keyed Property) (property : String) (known : Keyed String) :
    List String → Except DefinitionError (Keyed String)
  | [] => .ok known
  | aliasName :: rest =>
    match collision? properties known property aliasName with
    | some other => .error (.aliasCollision aliasName property other)
    | none => addAliases properties property (Keyed.insert known aliasName property) rest

/-- Adds the aliases of some properties to those known. -/
def collectAliases (properties : Keyed Property) (known : Keyed String) :
    List (String × Property) → Except DefinitionError (Keyed String)
  | [] => .ok known
  | (name, property) :: rest => do
    let known ← addAliases properties name known property.aliases
    collectAliases properties known rest

/-- The record type of a chain of definitions. -/
def flattenRecord (name : String) (description : Option String) (chain : List TypeDefinition) :
    Except DefinitionError TypeSchema := do
  -- From the farthest definition to the nearest, so that the nearest has the last word.
  let (declared, listed) ← addDefinitions [] [] chain.reverse
  let properties := withDiscriminator name declared
  let required := requireDiscriminator listed
  match required.find? fun property => !Keyed.contains properties property with
  | some property => .error (.undeclaredRequired property)
  | none =>
    let aliases ← collectAliases properties [] properties
    pure ⟨name, description, .record properties required aliases⟩

/-- The union type of a definition. -/
def flattenUnion (name : String) (own : TypeDefinition) (alternatives : List ShapeDefinition) :
    Except DefinitionError TypeSchema := do
  if !own.properties.isEmpty || own.parent.isSome then .error .unionWithProperties
  else
    let alternatives ← ShapeDefinition.lowerAll name alternatives
    pure ⟨name, own.description, .union alternatives⟩

/-- The type of a chain of definitions: its own, its parent's, and so on. -/
def flatten (name : String) (chain : List TypeDefinition) :
    Except DefinitionError TypeSchema :=
  match chain with
  | [] => .error .emptyChain
  | own :: _ =>
    if own.title != name then .error (.titleMismatch name own.title)
    else
      match own.oneOf with
      | some alternatives => flattenUnion name own alternatives
      | none => flattenRecord name own.description chain

end TypeSchema

end DocSchema
