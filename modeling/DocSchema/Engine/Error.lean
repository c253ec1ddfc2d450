import DocSchema.Schema.Registry
import DocSchema.Validation.Error

/-!
# Failures of the engine
-/

namespace DocSchema

/-- Why a tree cannot be coerced or is not valid. -/
inductive EngineError where
  | noSchema (name : String)
  | missingType
  | invalidSchema (name : String) (cause : DefinitionError)
  | source (error : SourceError)
  | decodeFailure (path : Path) (format message : String)
  | structuralViolation (typeName : String) (errors : List ValidationError)
  /-- Decoded content has no place any more. -/
  | missingPath (path : Path)
  /-- Loading or coercing did not come to an end. -/
  | endless (typeName : String)

namespace EngineError

/-- Errors with their paths in front, in one line. -/
def summary (errors : List ValidationError) : String :=
  "; ".intercalate (errors.map fun error => Path.text error.path ++ ": " ++ error.message)

def message : EngineError → String
  | noSchema name => (RegistryError.noSchema name).message
  | missingType => "no type name given and the node has no string 'type' property"
  | invalidSchema name cause => (RegistryError.invalid name cause).message
  | source error => error.message
  | decodeFailure path format message =>
    "failed to decode " ++ format ++ " content at path " ++ Path.text path ++ ": " ++ message
  | structuralViolation typeName errors => "invalid " ++ typeName ++ ": " ++ summary errors
  | missingPath path => "no value at path " ++ Path.text path
  | endless typeName => "coercion to '" ++ typeName ++ "' does not end"

/-- The structural errors, if there are any. -/
def validationErrors : EngineError → List ValidationError
  | structuralViolation _ errors => errors
  | _ => []

def ofRegistry : RegistryError → EngineError
  | .noSchema name => noSchema name
  | .invalid name cause => invalidSchema name cause
  | .source error => source error
  | .endless name => endless name

end EngineError

end DocSchema
