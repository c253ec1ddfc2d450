import DocSchema.Path

/-!
# Validation errors

An error says how a value fails its shape and where. The error of a union that no
alternative matched may carry the alternative that came nearest, with all its errors.
-/

namespace DocSchema

/-- The alternative of a union that came nearest to matching. -/
structure Nearest (ε : Type) where
  variant : String
  /-- The most telling one of its errors. -/
  error : ε
  /-- All its errors, the most telling ones first. -/
  all : List ε
  /-- The depth of the deepest error. -/
  depth : Nat
  count : Nat

/-- How a value fails its shape. -/
inductive ValidationError where
  | typeMismatch (expected actual : String) (path : Path)
  | missingRequired (property : String) (path : Path)
  | unknownProperty (property : String) (path : Path)
  | literalMismatch (expected actual : String) (path : Path)
  /-- No alternative matched; the nearest one is absent if there are none. -/
  | noVariantMatched (path : Path) (nearest : Option (Nearest ValidationError))
  | ambiguousUnion (path : Path) (variants : List String)
  | undefinedReference (name : String) (path : Path)
  | referenceCycle (name : String) (path : Path)

namespace ValidationError

def path : ValidationError → Path
  | typeMismatch _ _ path => path
  | missingRequired _ path => path
  | unknownProperty _ path => path
  | literalMismatch _ _ path => path
  | noVariantMatched path _ => path
  | ambiguousUnion path _ => path
  | undefinedReference _ path => path
  | referenceCycle _ path => path

/-- The depth of the value; deeper errors mean that validation got further. -/
def depth (error : ValidationError) : Nat := error.path.length

/-- How telling an error is; higher is more so. -/
def priority : ValidationError → Nat
  | missingRequired _ _ => 90
  | typeMismatch _ _ _ => 80
  | literalMismatch _ _ _ => 70
  | noVariantMatched _ _ => 60
  | unknownProperty _ _ => 50
  | ambiguousUnion _ _ => 0
  | undefinedReference _ _ => 0
  | referenceCycle _ _ => 0

def isTypeMismatch : ValidationError → Bool
  | typeMismatch _ _ _ => true
  | _ => false

def isNoVariantMatched : ValidationError → Bool
  | noVariantMatched _ _ => true
  | _ => false

/-- What is said of the nearest alternative beside its most telling error: how many other
errors it has, and its name unless that error names an alternative itself. -/
def nearestNote (nearest : Nearest ValidationError) : String :=
  (if 1 < nearest.all.length then
    " (and " ++ (nearest.all.length - 1).repr ++ " more errors)" else "")
  ++ (if nearest.error.isNoVariantMatched then ""
    else " (based on nearest variant '" ++ nearest.variant ++ "')")

/-- The error without its path. -/
def message : ValidationError → String
  | typeMismatch expected actual _ => "Type mismatch: expected " ++ expected ++ ", got " ++ actual
  | missingRequired property _ => "Missing required property '" ++ property ++ "'"
  | unknownProperty property _ => "Unknown property '" ++ property ++ "'"
  | literalMismatch expected actual _ =>
    "Literal mismatch: expected " ++ expected ++ ", got " ++ actual
  | noVariantMatched _ none => "No variant matched"
  | noVariantMatched _ (some ⟨variant, error, all, depth, count⟩) =>
    message error ++ " at path " ++ Path.text error.path
      ++ nearestNote ⟨variant, error, all, depth, count⟩
  | ambiguousUnion _ variants => "Multiple variants matched: " ++ ", ".intercalate variants
  | undefinedReference name _ => "Undefined type reference '" ++ name ++ "'"
  | referenceCycle name _ => "Too many nested references through '" ++ name ++ "'"

/-- The error with its path. -/
def text (error : ValidationError) : String :=
  error.message ++ " at path " ++ Path.text error.path

/-- Whether an error says what was wrong with a value where a union was expected. -/
def isTelling : ValidationError → Bool
  | noVariantMatched _ _ => true
  | typeMismatch _ _ _ => true
  | literalMismatch _ _ _ => true
  | unknownProperty _ _ => true
  | _ => false

/-- The error at the bottom of nested unions. -/
def deepest : ValidationError → ValidationError
  | noVariantMatched path (some ⟨variant, error, all, depth, count⟩) =>
    if error.isTelling then deepest error
    else noVariantMatched path (some ⟨variant, error, all, depth, count⟩)
  | error => error

end ValidationError

end DocSchema
