/-!
# Faults of definitions
-/

namespace DocSchema

/-- Why a type cannot be made of its definitions. -/
inductive DefinitionError where
  /-- The document is not a definition. -/
  | malformed
  /-- There is no definition at all. -/
  | emptyChain
  /-- The definition has another title than the name it was asked for by. -/
  | titleMismatch (name title : String)
  | unknownKind (property kind : String)
  | unknownParent (parent : String)
  /-- Following parents comes back to a title met before, the last of the chain. -/
  | extendsCycle (chain : List String)
  | undeclaredRequired (property : String)
  /-- An alias is also a property or an alias of another property. -/
  | aliasCollision (aliasName property other : String)
  | unionWithProperties
deriving DecidableEq, Repr

namespace DefinitionError

def message : DefinitionError → String
  | malformed => "Malformed schema definition"
  | emptyChain => "Malformed schema definition: empty definition chain"
  | titleMismatch name title =>
    "Definition is titled '" ++ title ++ "' but was loaded as '" ++ name ++ "'"
  | unknownKind property kind =>
    "Unknown type '" ++ kind ++ "' for property '" ++ property ++ "'"
  | unknownParent parent => "Parent type '" ++ parent ++ "' does not exist"
  | extendsCycle chain => "Cycle in extends: " ++ " -> ".intercalate chain
  | undeclaredRequired property => "Required property '" ++ property ++ "' is not declared"
  | aliasCollision aliasName property other =>
    "Alias '" ++ aliasName ++ "' of '" ++ property ++ "' collides with '" ++ other ++ "'"
  | unionWithProperties => "Union type must not declare properties"

end DefinitionError

end DocSchema
