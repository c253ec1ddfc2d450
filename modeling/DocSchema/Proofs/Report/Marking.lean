import DocSchema.Proofs.Report.Nearest
import DocSchema.Proofs.Schema.Built
import DocSchema.Proofs.Validation.Pointing
import Mathlib

/-!
# Reports mark the value in error

The place that a report gives to an error of a tree is that of a value of the tree, and it is shown
at that value's own span: no error is shown at a value around the one it is about. Main statement:
`marked_of_mem_validateShape`.
-/

namespace DocSchema.Report

open ValidationError (Tells PointsInto)

variable {node : Node} {path : Path} {error : ValidationError}

/-- A report of an error in a tree stands at a value of the tree: where the error at the bottom of
nested unions stands, or at the property that is not declared there. -/
theorem exists_get?_of_pointsInto (points : ∀ inner, error.Tells inner → inner.PointsInto [] node) :
    ∃ value, node.get? (ofValidationError error).path = some value := by
  obtain ⟨below, value, stands, reached, suits⟩ := points _ error.tells_deepest
  rw [List.nil_append] at stands
  unfold ofValidationError
  cases cause : error.deepest with
  | unknownProperty property place =>
    rw [cause] at stands suits
    obtain ⟨fields, rfl, listed⟩ := suits
    obtain ⟨inner, present⟩ := Keyed.mem_keys_iff.mp listed
    subst stands
    have here : node.get? place = some (.record fields) := reached
    refine ⟨inner, ?_⟩
    simp [Path.property, Node.get?_append, here, Node.get?, Node.child?, present]
  | _ =>
    rw [cause] at stands
    subst stands
    exact ⟨value, reached⟩

/-- Every error that validation finds, and every one that it tells of nearest alternatives, points
into the tree; and a report of it is shown at the own span of a value of the tree. -/
theorem marked_of_mem_validateShape {set : SchemaSet} {shape : Shape}
    (found : error ∈ Validation.validateShape set node shape path) :
    (∀ inner, error.Tells inner → inner.PointsInto path node) ∧
      (path = [] → ∃ value span, node.get? (ofValidationError error).path = some value ∧
        node.pretty.spans.lookup (ofValidationError error).path = some span ∧
        span.Covers 0 node.pretty.text (value.shown (ofValidationError error).path.length) ∧
        nearestSpan node.pretty.spans node.pretty.text.utf8ByteSize
          (ofValidationError error).path = span) := by
  have points : ∀ inner, error.Tells inner → inner.PointsInto path node :=
    fun inner tells => Validation.pointsInto_of_mem_validateShape found tells
  refine ⟨points, ?_⟩
  rintro rfl
  obtain ⟨value, reached⟩ := exists_get?_of_pointsInto points
  obtain ⟨span, listed, covers, nearest⟩ := exists_nearestSpan reached
  exact ⟨value, span, reached, listed, covers, nearest⟩

/-- A text, and a record that is neither a text nor a book. -/
def shelf : Node :=
  .array [.string "Emma", .record [("title", .string "Persuasion"), ("pages", .integer 249)]]

/-- The record lacks the discriminator of a book, and books have no pages. -/
def unshelved : ValidationError :=
  .noVariantMatched [.index 1] (some ⟨"Book", .missingRequired "type" [.index 1],
    [.missingRequired "type" [.index 1], .unknownProperty "pages" [.index 1]], 1, 2⟩)

theorem validateShape_shelf :
    Validation.validateShape .library shelf (.array (.ref "Entry")) [] = [unshelved] := by
  cbv

theorem unshelved_marked :
    unshelved ∈ Validation.validateShape .library shelf (.array (.ref "Entry")) [] ∧
      (∀ inner, unshelved.Tells inner → inner.PointsInto [] shelf) ∧
      ∃ value span, shelf.get? (ofValidationError unshelved).path = some value ∧
        shelf.pretty.spans.lookup (ofValidationError unshelved).path = some span ∧
        span.Covers 0 shelf.pretty.text (value.shown (ofValidationError unshelved).path.length) ∧
        nearestSpan shelf.pretty.spans shelf.pretty.text.utf8ByteSize
          (ofValidationError unshelved).path = span := by
  have found : unshelved ∈ Validation.validateShape .library shelf (.array (.ref "Entry")) [] :=
    validateShape_shelf ▸ List.mem_singleton_self _
  obtain ⟨points, marked⟩ := marked_of_mem_validateShape found
  exact ⟨found, points, marked rfl⟩

end DocSchema.Report
