import DocSchema.Engine.Expansion

/-!
# The engine

An engine coerces and validates trees against the types of one registry. Coercing a tree
resolves the types it needs, coerces it, expands encoded content if it is told to, and
validates the result. Every operation gives back the engine with what its registry has
loaded on the way.
-/

namespace DocSchema

/-- A registry with decoders and options. -/
structure Engine where
  registry : Registry
  decoders : Decoders
  options : Options

namespace Engine

/-- An engine over a source, without decoders. -/
def ofSource (source : Source) : Engine := ⟨Registry.ofSource source, .empty, {}⟩

/-- The type a tree is to have: the given one, else that of its discriminator. -/
def targetType? (node : Node) (typeName : Option String) : Option String :=
  match typeName with
  | some name => some name
  | none => node.typeName?

/-- The types needed for a type, with the limit of the options. -/
def schemas (engine : Engine) (typeName : String) : Except EngineError SchemaSet × Engine :=
  match engine.registry.resolve typeName with
  | (.error error, registry) => (.error (.ofRegistry error), { engine with registry })
  -- The registry keeps sets with the usual limit, whatever the options say.
  | (.ok set, registry) =>
    (.ok (set.withLimit engine.options.maxReferenceDepth), { engine with registry })

/-- Passes a tree that is valid and reports one that is not. -/
def accept {α : Type} (set : SchemaSet) (typeName : String) (node : Node) (value : α) :
    Except EngineError α :=
  match Validation.validateType set node typeName with
  | [] => .ok value
  | errors => .error (.structuralViolation typeName errors)

/-- Expands a coerced tree if the options say so. -/
def expand (patience : Node → Nat) (engine : Engine) (set : SchemaSet) (typeName : String)
    (coerced : Coerced) : Except EngineError Coercion.Result :=
  if engine.options.expand then
    Expansion.expandWith patience set engine.decoders.get? engine.options.decodeFailure typeName
      coerced
  else .ok ⟨coerced.node, coerced.warnings⟩

/-- Coerces a tree towards a type over a resolved set. Every tree that is coerced on the way has
the fuel that `patience` grants it. -/
def coerceWithin (patience : Node → Nat) (engine : Engine) (set : SchemaSet) (typeName : String)
    (node : Node) : Except EngineError Coercion.Result :=
  match Coercion.coerceType set (patience node) node typeName with
  | none => .error (.endless typeName)
  | some coerced => do
    let result ← engine.expand patience set typeName coerced
    accept set typeName result.node result

/-- Coerces a tree into a valid one of a type, with given fuel for the trees of a set. -/
def coerceWith (patience : SchemaSet → Node → Nat) (engine : Engine) (node : Node)
    (typeName : Option String) : Except EngineError Coercion.Result × Engine :=
  match targetType? node typeName with
  | none => (.error .missingType, engine)
  | some name =>
    match engine.schemas name with
    | (.error error, engine) => (.error error, engine)
    | (.ok set, engine) => (engine.coerceWithin (patience set) set name node, engine)

/-- Coerces a tree into a valid one of a type. -/
def coerce (engine : Engine) (node : Node) (typeName : Option String) :
    Except EngineError Coercion.Result × Engine :=
  engine.coerceWith Coercion.patience node typeName

/-- Checks a tree without changing it. -/
def validate (engine : Engine) (node : Node) (typeName : Option String) :
    Except EngineError Unit × Engine :=
  match targetType? node typeName with
  | none => (.error .missingType, engine)
  | some name =>
    match engine.schemas name with
    | (.error error, engine) => (.error error, engine)
    | (.ok set, engine) => (accept set name node (), engine)

/-- Whether a tree is valid. Every failure counts as not. -/
def isValid (engine : Engine) (node : Node) (typeName : Option String) : Bool × Engine :=
  match engine.validate node typeName with
  | (.ok (), engine) => (true, engine)
  | (.error _, engine) => (false, engine)

/-- The engine in short. -/
def description (engine : Engine) : String :=
  let policy := match engine.options.decodeFailure with
    | .abort => "Abort"
    | .warn => "Warn"
  "Engine \x7b registry: Registry \x7b cached: " ++ engine.registry.cachedCount.repr
    ++ ", .. \x7d, options: EngineOptions \x7b decode_failure: " ++ policy
    ++ ", expand: " ++ Json.booleanText engine.options.expand
    ++ ", max_reference_depth: " ++ engine.options.maxReferenceDepth.repr ++ " \x7d, .. \x7d"

end Engine

end DocSchema
