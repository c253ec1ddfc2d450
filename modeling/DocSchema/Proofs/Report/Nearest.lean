import DocSchema.Proofs.Node.Placement
import DocSchema.Report.Location
import Mathlib.Data.List.Induction

/-!
# The span shown for a path

A path that leads to a value is shown at the own span of the value, and every other path at that of
the last value on its way. No span has to be cut to the text. Main statement: `pretty_exact`.
-/

namespace DocSchema.Report

variable {node value : Node} {path : Path}

/-- A span inside the text is taken as it is. -/
theorem nearestSpan_of_lookup {spans : SpanMap} {size : Nat} {span : Span}
    (found : spans.lookup path = some span) (ordered : span.start ≤ span.finish)
    (inside : span.finish ≤ size) : nearestSpan spans size path = span := by
  rw [nearestSpan, found]
  have start : min span.start size = span.start := by omega
  have finish : max (min span.finish size) span.start = span.finish := by omega
  simp only [start, finish]

/-- A path that leads to a value is shown at the span of that value's text. -/
theorem exists_nearestSpan (found : node.get? path = some value) :
    ∃ span, node.pretty.spans.lookup path = some span ∧
      span.Covers 0 node.pretty.text (value.shown path.length) ∧
      nearestSpan node.pretty.spans node.pretty.text.utf8ByteSize path = span := by
  obtain ⟨span, listed, covers⟩ := Node.exists_span_write found 0 [] 0
  rw [List.nil_append] at listed
  rw [Nat.zero_add] at covers
  obtain ⟨ordered, inside⟩ := covers.finish_le
  rw [Nat.zero_add] at inside
  exact ⟨span, listed, covers, nearestSpan_of_lookup listed ordered inside⟩

/-- A path without a span of its own is shown like the path to the value around it. -/
theorem nearestSpan_of_lookup_eq_none {spans : SpanMap} {size : Nat} {segment : Segment}
    (absent : spans.lookup (path ++ [segment]) = none) :
    nearestSpan spans size (path ++ [segment]) = nearestSpan spans size path := by
  rw [nearestSpan, absent]
  simp

/-- A part of a path that leads to a value, where no longer part does. -/
structure LongestPart (node : Node) (path known : Path) : Prop where
  part : known <+: path
  present : ∃ value, node.get? known = some value
  longest : ∀ other, other <+: path → (∃ value, node.get? other = some value) → other <+: known

theorem LongestPart.self (found : node.get? path = some value) : LongestPart node path path where
  part := List.prefix_rfl
  present := ⟨value, found⟩
  longest := fun _ before _ => before

theorem LongestPart.further {known : Path} {segment : Segment} (here : LongestPart node path known)
    (absent : ¬∃ value, node.get? (path ++ [segment]) = some value) :
    LongestPart node (path ++ [segment]) known where
  part := here.part.trans (List.prefix_append _ _)
  present := here.present
  longest := by
    intro other before leads
    rcases List.prefix_concat_iff.mp before with rfl | shorter
    · exact absurd leads absent
    · exact here.longest other shorter leads

/-- Every path is shown at the span of the longest part of it that leads to a value. -/
theorem exists_longestPart (distinct : node.distinctKeys = true) (path : Path) :
    ∃ known span, LongestPart node path known ∧ (known, span) ∈ node.pretty.spans ∧
      nearestSpan node.pretty.spans node.pretty.text.utf8ByteSize path = span := by
  have once := (Node.pretty_placed distinct).once
  have shown {value : Node} {path : Path} (found : node.get? path = some value) :
      ∃ span, (path, span) ∈ node.pretty.spans ∧
        nearestSpan node.pretty.spans node.pretty.text.utf8ByteSize path = span := by
    obtain ⟨span, listed, -, nearest⟩ := exists_nearestSpan found
    exact ⟨span, (Node.lookup_eq_some_iff_mem once).mp listed, nearest⟩
  -- A path with nothing at its end is shortened there until it leads somewhere, at the latest to
  -- the tree itself.
  induction path using List.reverseRecOn with
  | nil =>
    have here : node.get? [] = some node := rfl
    obtain ⟨span, listed, nearest⟩ := shown here
    exact ⟨[], span, .self here, listed, nearest⟩
  | append_singleton above segment ih =>
    by_cases present : ∃ value, node.get? (above ++ [segment]) = some value
    · obtain ⟨value, found⟩ := present
      obtain ⟨span, listed, nearest⟩ := shown found
      exact ⟨_, span, .self found, listed, nearest⟩
    · -- Nothing stands there, so the path is shown like the one above it.
      obtain ⟨known, span, here, listed, nearest⟩ := ih
      have absent : node.pretty.spans.lookup (above ++ [segment]) = none := by
        apply Node.lookup_eq_none
        intro entry member same
        have key := List.mem_map.mpr ⟨entry, member, same⟩
        exact present ((Node.mem_keys_spans_iff distinct).mp key)
      refine ⟨known, span, here.further present, listed, ?_⟩
      rw [nearestSpan_of_lookup_eq_none absent, nearest]

/-- The spans of a tree with distinct keys lie as its values do, and a path is shown at the span of
the longest part of it that leads to a value. -/
theorem pretty_exact (distinct : node.distinctKeys = true) :
    node.Placed node.pretty.text node.pretty.spans ∧
      ∀ path, ∃ known span, LongestPart node path known ∧ (known, span) ∈ node.pretty.spans ∧
        nearestSpan node.pretty.spans node.pretty.text.utf8ByteSize path = span :=
  ⟨Node.pretty_placed distinct, exists_longestPart distinct⟩

/-- Parts of parts, an empty record, a key that is escaped and longer in bytes than in characters,
and a number that is not finite. -/
def almanac : Node :=
  .record [("é\n", .array [.record [("name", .string "Jo")], .array [.number .notANumber]]),
    ("meta", .record [])]

theorem almanac_exact :
    almanac.distinctKeys = true ∧ almanac.Placed almanac.pretty.text almanac.pretty.spans ∧
      ∃ known span, LongestPart almanac [.property "é\n", .index 0, .property "born"] known ∧
        (known, span) ∈ almanac.pretty.spans ∧
        nearestSpan almanac.pretty.spans almanac.pretty.text.utf8ByteSize
          [.property "é\n", .index 0, .property "born"] = span := by
  have distinct : almanac.distinctKeys = true := by decide
  obtain ⟨placed, nearest⟩ := pretty_exact distinct
  exact ⟨distinct, placed, nearest _⟩

end DocSchema.Report
