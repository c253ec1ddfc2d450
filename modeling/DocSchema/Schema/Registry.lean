import DocSchema.Schema.Flatten
import DocSchema.Schema.SchemaSet
import DocSchema.Schema.Source

/-!
# The registry

A registry loads types from a store and keeps those it has loaded. Loading a type
follows the parents its definitions name; resolving a root loads every type that can be
reached from it, nearest ones first. Types that fail to load are not kept.
-/

namespace DocSchema

/-- Why a type or a set of types cannot be had. -/
inductive RegistryError where
  | noSchema (name : String)
  | invalid (name : String) (cause : DefinitionError)
  | source (error : SourceError)
  /-- Following the parents of a type does not end. -/
  | endless (name : String)
deriving DecidableEq, Repr

namespace RegistryError

def message : RegistryError → String
  | noSchema name => "no schema for type '" ++ name ++ "'"
  | invalid name cause => "invalid schema for type '" ++ name ++ "': " ++ cause.message
  | source error => error.message
  | endless name => "parents of type '" ++ name ++ "' do not end"

end RegistryError

namespace Store

/-- The definitions from `current` on, each followed by its parent's, after those of
`chain`. A name that is the title of a definition in the chain closes a cycle. Nothing
is answered when the fuel does not last to the end. -/
def definitionsFrom (store : Store) (name : String) :
    Nat → List TypeDefinition → String → Option (Except RegistryError (List TypeDefinition))
  | 0, _, _ => none
  | fuel + 1, chain, current =>
    if chain.any (·.title == current) then
      some (.error (.invalid name (.extendsCycle (chain.map (·.title) ++ [current]))))
    else
      match store.load current with
      | .error error => some (.error (.source error))
      | .ok none =>
        some (.error (if chain.isEmpty then .noSchema name
          else .invalid name (.unknownParent current)))
      | .ok (some document) =>
        match TypeDefinition.ofJson? document with
        | none => some (.error (.invalid current .malformed))
        | some definition =>
          match definition.parent with
          | none => some (.ok (chain ++ [definition]))
          | some parent => definitionsFrom store name fuel (chain ++ [definition]) parent

/-- Enough fuel for every chain that ends: a chain comes back to a name within as many
steps as there are documents, and once around more all titles on its way are known. -/
def chainFuel (store : Store) : Nat := 2 * store.size + 2

/-- Loads the type of a name. -/
def loadType (store : Store) (name : String) : Except RegistryError CompiledType :=
  match store.definitionsFrom name store.chainFuel [] name with
  | none => .error (.endless name)
  | some (.error error) => .error error
  | some (.ok chain) =>
    match TypeSchema.flatten name chain with
    | .error cause => .error (.invalid name cause)
    | .ok schema => .ok (CompiledType.ofSchema schema)

end Store

/-- A store with the types loaded and the sets resolved so far. -/
structure Registry where
  store : Store
  types : Keyed CompiledType
  sets : Keyed SchemaSet

namespace Registry

/-- A registry that has not been asked for anything. -/
def ofStore (store : Store) : Registry := ⟨store, [], []⟩

def ofSource (source : Source) : Registry := ofStore source.store

/-- The type of a name, loaded if it is not kept yet. -/
def get (registry : Registry) (name : String) :
    Except RegistryError CompiledType × Registry :=
  match Keyed.get? registry.types name with
  | some type => (.ok type, registry)
  | none =>
    match registry.store.loadType name with
    | .error error => (.error error, registry)
    | .ok type => (.ok type, { registry with types := Keyed.insert registry.types name type })

/-- Loads the types that wait in a queue and those they refer to. Names without a schema
are passed over. The budget is spent on types not met before. -/
def collect (registry : Registry) (budget : Nat) (found : Keyed CompiledType) (queue : List String) :
    Except RegistryError (Keyed CompiledType) × Registry :=
  match queue with
  | [] => (.ok found, registry)
  | name :: rest =>
    if Keyed.contains found name then registry.collect budget found rest
    else
      match registry.get name with
      -- A missing type is reported only where a value reaches it.
      | (.error (.noSchema _), registry) => registry.collect budget found rest
      | (.error error, registry) => (.error error, registry)
      | (.ok type, registry) =>
        match budget with
        | 0 => (.error (.endless name), registry)
        | budget + 1 =>
          registry.collect budget (found ++ [(name, type)]) (rest ++ type.schema.references)
termination_by (budget, queue.length)

/-- The types that can be reached from a root. -/
def walk (registry : Registry) (root : String) : Except RegistryError SchemaSet × Registry :=
  match registry.get root with
  | (.error error, registry) => (.error error, registry)
  | (.ok type, registry) =>
    let budget := registry.types.length + registry.store.size
    match registry.collect budget [(root, type)] type.schema.references with
    | (.error error, registry) => (.error error, registry)
    | (.ok types, registry) => (.ok ⟨root, types, SchemaSet.defaultLimit⟩, registry)

/-- The set of types that can be reached from a root, kept once it has been resolved. -/
def resolve (registry : Registry) (root : String) :
    Except RegistryError SchemaSet × Registry :=
  match Keyed.get? registry.sets root with
  | some set => (.ok set, registry)
  | none =>
    match registry.walk root with
    | (.error error, registry) => (.error error, registry)
    | (.ok set, registry) =>
      (.ok set, { registry with sets := Keyed.insert registry.sets root set })

/-- Whether the type of a name has been loaded. -/
def isCached (registry : Registry) (name : String) : Bool := Keyed.contains registry.types name

/-- The number of types loaded. -/
def cachedCount (registry : Registry) : Nat := registry.types.length

end Registry

end DocSchema
