import DocSchema.Engine.Error
import DocSchema.Node.Pretty

/-!
# Where errors are shown

An error of a union is shown where its nearest alternative went wrong. A place that the
tree does not have is shown by the nearest value around it.
-/

namespace DocSchema.Report

/-- What a report says, and where. -/
structure Located where
  title : String
  label : String
  path : Path

/-- The report of a validation error. A property that is not declared is shown itself. -/
def ofValidationError (error : ValidationError) : Located :=
  let cause := error.deepest
  let path := match cause with
    | .unknownProperty property path => path.property property
    | other => other.path
  ⟨error.text, cause.message, path⟩

/-- The reports of an engine error: one for each structural error, else one. -/
def ofEngineError (error : EngineError) : List Located :=
  match error with
  | .structuralViolation _ (first :: rest) => (first :: rest).map ofValidationError
  | .decodeFailure path _ _ => [⟨error.message, "could not be decoded", path⟩]
  | _ => [⟨error.message, error.message, []⟩]

/-- The span of a path, or of the longest part of it that has one. -/
def nearestSpan (spans : SpanMap) (size : Nat) (path : Path) : Span :=
  match spans.lookup path with
  | some span =>
    let start := min span.start size
    ⟨start, max (min span.finish size) start⟩
  | none =>
    if _nonempty : path = [] then ⟨0, size⟩ else nearestSpan spans size path.dropLast
termination_by path.length
decreasing_by
  have := List.length_pos_iff.mpr _nonempty
  simp
  omega

end DocSchema.Report
