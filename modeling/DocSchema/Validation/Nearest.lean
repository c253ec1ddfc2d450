import DocSchema.Validation.Error

/-!
# The nearest alternative

Of the alternatives of a union that failed, the nearest one has the right kind of value
at the union's own place, then the deepest error, then the fewest errors, then the most
telling error; of several that are equally near it is the last one.
-/

namespace DocSchema.Validation

/-- The largest of some numbers; zero if there are none. -/
def largest (numbers : List Nat) : Nat := numbers.foldl max 0

/-- The depth of the deepest error. -/
def deepestDepth (errors : List ValidationError) : Nat := largest (errors.map (·.depth))

/-- Whether the alternative expects the kind of value that stands at this depth. -/
def isStructuralMatch (depth : Nat) (errors : List ValidationError) : Bool :=
  !errors.any fun error => error.isTypeMismatch && error.depth == depth

/-- How near an alternative with these errors is. -/
structure Nearness where
  structural : Bool
  depth : Nat
  count : Nat
  priority : Nat
deriving DecidableEq, Repr

namespace Nearness

def ofErrors (depth : Nat) (errors : List ValidationError) : Nearness where
  structural := isStructuralMatch depth errors
  depth := deepestDepth errors
  count := errors.length
  priority := largest (errors.map (·.priority))

/-- Whether `left` is at most as near as `right`. Fewer errors are nearer. -/
def isAtMost (left right : Nearness) : Bool :=
  if left.structural != right.structural then right.structural
  else if left.depth != right.depth then left.depth < right.depth
  else if left.count != right.count then right.count < left.count
  else left.priority ≤ right.priority

end Nearness

/-- The nearest one of some alternatives with their errors, the last one of several. -/
def nearestOf? (depth : Nat) :
    List (String × List ValidationError) → Option (String × List ValidationError)
  | [] => none
  | variant :: rest =>
    match nearestOf? depth rest with
    | none => some variant
    | some other =>
      if (Nearness.ofErrors depth variant.2).isAtMost (Nearness.ofErrors depth other.2) then
        some other
      else some variant

/-- Whether `left` stands before `right` or beside it: more telling errors come first,
then deeper ones. -/
def isBefore (left right : ValidationError) : Bool :=
  if left.priority != right.priority then right.priority < left.priority
  else right.depth ≤ left.depth

/-- Errors with the most telling ones first, equal ones in their order. -/
def ranked (errors : List ValidationError) : List ValidationError :=
  errors.mergeSort isBefore

/-- The nearest alternative of a union at this depth, if some alternative has errors. -/
def selectNearest (variants : List (String × List ValidationError)) (depth : Nat) :
    Option (Nearest ValidationError) :=
  match nearestOf? depth (variants.filter fun variant => !variant.2.isEmpty) with
  | none => none
  | some (variant, errors) =>
    match ranked errors with
    | [] => none
    | first :: rest =>
      some ⟨variant, first, first :: rest, deepestDepth errors, errors.length⟩

end DocSchema.Validation
