import DocSchema.Proofs.Validation.Origins

/-!
# Errors point into the tree

The path of every error that validation finds leads to a value of the tree, and so do the paths of
the errors that it tells of nearest alternatives. An undeclared property is one that the record
there has, a missing one is one that it lacks. Main statement: `pointsInto_of_mem_validateShape`.
-/

namespace DocSchema

namespace ValidationError

/-- Whether an error stands at a value of a tree found at `above`, and that value suits it. -/
def PointsInto (above : Path) (node : Node) (error : ValidationError) : Prop :=
  ∃ below value, error.path = above ++ below ∧ node.get? below = some value ∧ error.Suits value

/-- The error at the bottom of nested unions is one of those told of. -/
theorem tells_deepest : ∀ error : ValidationError, error.Tells error.deepest
  | noVariantMatched path (some ⟨variant, error, all, depth, count⟩) => by
    rw [deepest]
    split
    next => exact .nearest (.inl rfl) (tells_deepest error)
    next => exact .self _
  | noVariantMatched _ none | typeMismatch _ _ _ | missingRequired _ _ | unknownProperty _ _
  | literalMismatch _ _ _ | ambiguousUnion _ _ | undefinedReference _ _ | referenceCycle _ _ =>
    .self _

end ValidationError

namespace Validation

/-- The comparison that an error is traced to has a value of the tree. -/
theorem pointsInto_of_mem_validateShape {set : SchemaSet} {shape : Shape} {node : Node}
    {path : Path} {error inner : ValidationError}
    (found : error ∈ validateShape set node shape path) (tells : error.Tells inner) :
    inner.PointsInto path node := by
  obtain ⟨below, later, reached, -, owns⟩ := traced_of_mem_validateShape found tells
  exact ⟨below, later.node, owns.here, reached, owns.suits⟩

end Validation

end DocSchema
