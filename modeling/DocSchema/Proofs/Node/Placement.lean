import DocSchema.Proofs.Node.Deepening
import DocSchema.Proofs.Node.Preorder

/-!
# Where the values of a tree stand

In the text of a tree with distinct keys every value has one span. It stands strictly inside the
span of the value around it and wholly before those of the values that come after it there. Main
statement: `pretty_placed`.
-/

namespace DocSchema.Node

/-- How the spans of a tree lie in its text. -/
structure Placed (node : Node) (text : String) (spans : SpanMap) : Prop where
  /-- No path is listed twice. -/
  once : (spans.map Prod.fst).Nodup
  /-- The listed paths are those that lead to values. -/
  listed : ∀ path, path ∈ spans.map Prod.fst ↔ ∃ value, node.get? path = some value
  /-- At the span of a value stands its own text, moved to the right once for every step. -/
  covers : ∀ path span value, (path, span) ∈ spans → node.get? path = some value →
    span.Covers 0 text (Text.indentedBy (2 * path.depth) value.pretty.text)
  /-- The tree stands at the whole text. -/
  whole : ([], ⟨0, text.utf8ByteSize⟩) ∈ spans
  /-- A value stands strictly inside the one around it. -/
  inside : ∀ path segment outer inner, (path, outer) ∈ spans → (path ++ [segment], inner) ∈ spans →
    outer.start < inner.start ∧ inner.finish < outer.finish
  /-- The parts of a value stand apart, in their order. -/
  ordered : ∀ path value, node.get? path = some value →
    (value.children.map Prod.fst).Pairwise fun left right => ∀ earlier later,
      (path ++ [left], earlier) ∈ spans → (path ++ [right], later) ∈ spans →
        earlier.finish < later.start

variable {node child : Node} {level start : Nat} {path : Path} {entry : Path × Span}
  {children : List (Segment × Node)} {text : String} {spans : SpanMap}

/-! ### Paths -/

theorem child?_of_mem_children (distinct : node.distinctKeys = true) {segment : Segment}
    (part : (segment, child) ∈ node.children) : node.child? segment = some child := by
  cases node with
  | array items =>
    obtain ⟨⟨item, position⟩, placed, same⟩ := List.mem_map.mp part
    cases same
    exact List.mem_zipIdx_iff_getElem?.mp placed
  | record fields =>
    obtain ⟨⟨key, value⟩, listed, same⟩ := List.mem_map.mp part
    cases same
    exact (Keyed.get?_eq_some_iff (distinctKeys_record_iff.mp distinct).1).mpr listed
  | _ => cases part

theorem nodup_segments (distinct : node.distinctKeys = true) :
    (node.children.map Prod.fst).Nodup := by
  cases node with
  | array items =>
    have positions : (items.zipIdx.map Prod.snd).Nodup := by
      rw [List.zipIdx_map_snd]
      exact List.nodup_range'
    have indices := positions.map fun left right same => Segment.index.inj same
    rw [List.map_map] at indices
    rw [children, List.map_map]
    exact indices
  | record fields =>
    have keys : (fields.map Prod.fst).Nodup := (distinctKeys_record_iff.mp distinct).1
    have properties := keys.map fun left right same => Segment.property.inj same
    rw [List.map_map] at properties
    rw [children, List.map_map]
    exact properties
  | _ => exact List.nodup_nil

/-- Spans stand under paths that lead to values. -/
theorem get?_of_mem_spans (distinct : node.distinctKeys = true)
    (member : entry ∈ (node.write level path start).spans) :
    ∃ below inner, entry.1 = path ++ below ∧ node.get? below = some inner := by
  induction node using children_induction generalizing level path start with
  | step node ih =>
    rcases cases_of_mem_spans member with rfl | ⟨segment, child, place, part, inside, -, -⟩
    · exact ⟨[], node, (List.append_nil path).symm, rfl⟩
    · have step := child?_of_mem_children distinct part
      obtain ⟨below, inner, stands, reached⟩ :=
        ih segment child part (distinctKeys_child distinct step) inside
      refine ⟨segment :: below, inner, by simp [stands], ?_⟩
      rw [get?, step, Option.bind_some, reached]

theorem Laid.nodup_keys (laid : Laid level path start children text spans)
    (segments : (children.map Prod.fst).Nodup)
    (each : ∀ segment child, (segment, child) ∈ children → ∀ level path start,
      ((child.write level path start).spans.map Prod.fst).Nodup) :
    (spans.map Prod.fst).Nodup := by
  induction laid with
  | nil => exact List.nodup_nil
  | @cons start first inner others lead ending text spans led ended later ih =>
    obtain ⟨fresh, rest⟩ := List.nodup_cons.mp segments
    have here := each first inner List.mem_cons_self (level + 1) (path ++ [first])
      (start + lead.utf8ByteSize)
    have after := ih rest fun segment child part => each segment child (List.mem_cons_of_mem _ part)
    rw [List.map_append, List.nodup_append]
    refine ⟨here, after, ?_⟩
    rintro key inFirst other inRest rfl
    obtain ⟨left, leftMember, rfl⟩ := List.mem_map.mp inFirst
    obtain ⟨right, rightMember, same⟩ := List.mem_map.mp inRest
    -- Spans of different parts stand under different steps.
    obtain ⟨segment, child, _, part, inside, -, -⟩ := later.cases_of_mem rightMember
    have begins := prefix_of_mem_spans child inside
    rw [same] at begins
    have equal := Path.segment_unique (prefix_of_mem_spans inner leftMember) begins
    exact fresh (List.mem_map.mpr ⟨_, part, equal.symm⟩)

theorem nodup_keys_spans (distinct : node.distinctKeys = true) (level : Nat) (path : Path)
    (start : Nat) : ((node.write level path start).spans.map Prod.fst).Nodup := by
  induction node using children_induction generalizing level path start with
  | step node ih =>
    obtain ⟨opening, lines, closing, inner, -, listed, laid⟩ := exists_laid node level path start
    have parts : (inner.map Prod.fst).Nodup := by
      refine laid.nodup_keys (nodup_segments distinct) fun segment child part => ?_
      have step := child?_of_mem_children distinct part
      exact ih segment child part (distinctKeys_child distinct step)
    rw [listed, List.map_append, List.nodup_append]
    refine ⟨parts, List.nodup_singleton _, ?_⟩
    rintro key inside _ own rfl
    obtain ⟨entry, member, rfl⟩ := List.mem_map.mp inside
    exact laid.ne_of_mem member (List.mem_singleton.mp own)

theorem lookup_eq_some_iff_mem (once : (spans.map Prod.fst).Nodup) {span : Span} :
    spans.lookup path = some span ↔ (path, span) ∈ spans := by
  induction spans with
  | nil => simp
  | cons entry rest ih =>
    obtain ⟨fresh, others⟩ := List.nodup_cons.mp once
    rw [List.lookup_cons, List.mem_cons]
    by_cases same : path = entry.1
    · have absent : (entry.1, span) ∉ rest :=
        fun member => fresh (List.mem_map.mpr ⟨_, member, rfl⟩)
      simp [same, absent, Prod.ext_iff, eq_comm]
    · have other : (path == entry.1) = false := beq_eq_false_iff_ne.mpr same
      rw [other]
      simp [ih others, Prod.ext_iff, same]

/-! ### Bounds -/

theorem bounds_of_mem_spans (member : entry ∈ (node.write level path start).spans) :
    start ≤ entry.2.start ∧ entry.2.finish ≤ start + (node.shown level).utf8ByteSize := by
  induction node using children_induction generalizing level path start with
  | step node ih =>
    rcases cases_of_mem_spans member with rfl | ⟨segment, child, place, part, inside, after, before⟩
    · exact ⟨Nat.le_refl _, Nat.le_refl _⟩
    · -- The part itself stands inside the value.
      have bounds := ih segment child part inside
      omega

/-- All spans but a value's own stand strictly inside it. -/
theorem inside_of_mem_spans (member : entry ∈ (node.write level path start).spans)
    (below : entry.1 ≠ path) :
    start < entry.2.start ∧ entry.2.finish < start + (node.shown level).utf8ByteSize := by
  rcases cases_of_mem_spans member with rfl | ⟨segment, child, place, part, inside, after, before⟩
  · exact absurd rfl below
  · have bounds := bounds_of_mem_spans inside
    omega

theorem Laid.ordered (laid : Laid level path start children text spans)
    (segments : (children.map Prod.fst).Nodup) :
    (children.map Prod.fst).Pairwise fun left right => ∀ earlier ∈ spans, ∀ later ∈ spans,
      path ++ [left] <+: earlier.1 → path ++ [right] <+: later.1 →
        earlier.2.finish < later.2.start := by
  induction laid with
  | nil => exact .nil
  | @cons start first inner others lead ending text spans led ended laid ih =>
    obtain ⟨fresh, rest⟩ := List.nodup_cons.mp segments
    -- Every span stands with the part under whose step it is.
    have own {entry : Path × Span}
        (member : entry ∈ (inner.write (level + 1) (path ++ [first])
          (start + lead.utf8ByteSize)).spans ++ spans)
        (begins : path ++ [first] <+: entry.1) :
        entry ∈ (inner.write (level + 1) (path ++ [first]) (start + lead.utf8ByteSize)).spans := by
      refine (List.mem_append.mp member).resolve_right fun after => ?_
      obtain ⟨segment, child, _, part, inside, -, -⟩ := laid.cases_of_mem after
      have same := Path.segment_unique begins (prefix_of_mem_spans child inside)
      exact fresh (List.mem_map.mpr ⟨_, part, same.symm⟩)
    have foreign {entry : Path × Span} {segment : Segment}
        (member : entry ∈ (inner.write (level + 1) (path ++ [first])
          (start + lead.utf8ByteSize)).spans ++ spans)
        (among : segment ∈ others.map Prod.fst) (begins : path ++ [segment] <+: entry.1) :
        entry ∈ spans := by
      refine (List.mem_append.mp member).resolve_left fun here => ?_
      have same := Path.segment_unique (prefix_of_mem_spans inner here) begins
      exact fresh (same ▸ among)
    refine List.pairwise_cons.mpr ⟨?_, ?_⟩
    · -- The end of the first line stands between the first part and the later ones.
      intro right among earlier before later after underFirst underRight
      have ends := bounds_of_mem_spans (own before underFirst)
      obtain ⟨_, _, place, _, inside, placed, _⟩ :=
        laid.cases_of_mem (foreign after among underRight)
      have begins := bounds_of_mem_spans inside
      simp only [String.utf8ByteSize_append] at placed
      omega
    · refine (ih rest).imp_of_mem fun amongLeft amongRight apart => ?_
      intro earlier before later after underLeft underRight
      exact apart earlier (foreign before amongLeft underLeft) later
        (foreign after amongRight underRight) underLeft underRight

/-- What stands in a part of a value ends before what stands in a later part begins. -/
theorem ordered_spans (distinct : node.distinctKeys = true) (level : Nat) (path : Path)
    (start : Nat) :
    (node.children.map Prod.fst).Pairwise fun left right =>
      ∀ earlier ∈ (node.write level path start).spans,
        ∀ later ∈ (node.write level path start).spans,
          path ++ [left] <+: earlier.1 → path ++ [right] <+: later.1 →
            earlier.2.finish < later.2.start := by
  obtain ⟨opening, lines, closing, inner, -, listed, laid⟩ := exists_laid node level path start
  have within {entry : Path × Span} {segment : Segment}
      (member : entry ∈ (node.write level path start).spans)
      (under : path ++ [segment] <+: entry.1) : entry ∈ inner := by
    rw [listed, List.mem_append, List.mem_singleton] at member
    refine member.resolve_right ?_
    rintro rfl
    exact path.not_further_prefix segment under
  refine (laid.ordered (nodup_segments distinct)).imp fun apart => ?_
  intro earlier before later after underLeft underRight
  exact apart earlier (within before underLeft) later (within after underRight) underLeft
    underRight

/-! ### The text of a tree -/

theorem distinctKeys_get? {value : Node} (distinct : node.distinctKeys = true)
    (found : node.get? path = some value) : value.distinctKeys = true := by
  induction path generalizing node with
  | nil => exact Option.some.inj found ▸ distinct
  | cons segment rest ih =>
    obtain ⟨child, step, reached⟩ := Option.bind_eq_some_iff.mp found
    exact ih (distinctKeys_child distinct step) reached

/-- Where a value of a tree is written: its spans there are those of the tree under its path. -/
theorem exists_place {value : Node} (distinct : node.distinctKeys = true)
    (found : node.get? path = some value) :
    ∃ place, ∀ below span, (path ++ below, span) ∈ node.pretty.spans ↔
      (path ++ below, span) ∈ (value.write path.length path place).spans := by
  obtain ⟨before, after, -, carried⟩ := holds_get? found 0 0 []
  simp only [List.nil_append, Nat.zero_add] at carried
  have once := nodup_keys_spans distinct 0 [] 0
  have onceThere := nodup_keys_spans (distinctKeys_get? distinct found) path.length path
    before.utf8ByteSize
  refine ⟨before.utf8ByteSize, fun below span => ⟨fun listed => ?_, fun written => ?_⟩⟩
  · obtain ⟨_, inner, rfl, reached⟩ := get?_of_mem_spans distinct listed
    rw [get?_append, found, Option.bind_some] at reached
    obtain ⟨other, there, -⟩ := exists_span_write reached path.length path before.utf8ByteSize
    -- The value has a span where it is written, and only one in the tree.
    have here := (lookup_eq_some_iff_mem once).mpr listed
    have same := (carried below other there).symm.trans here
    rw [← Option.some.inj same]
    exact (lookup_eq_some_iff_mem onceThere).mp there
  · have there := (lookup_eq_some_iff_mem onceThere).mpr written
    exact (lookup_eq_some_iff_mem once).mp (carried below span there)

theorem mem_keys_spans_iff (distinct : node.distinctKeys = true) :
    path ∈ node.pretty.spans.map Prod.fst ↔ ∃ value, node.get? path = some value := by
  have once := nodup_keys_spans distinct 0 [] 0
  constructor
  · intro listed
    obtain ⟨entry, member, rfl⟩ := List.mem_map.mp listed
    obtain ⟨below, value, stands, reached⟩ := get?_of_mem_spans distinct member
    exact ⟨value, stands ▸ reached⟩
  · rintro ⟨value, found⟩
    obtain ⟨span, listed, -⟩ := exists_span_write found 0 [] 0
    exact List.mem_map.mpr ⟨_, (lookup_eq_some_iff_mem once).mp listed, rfl⟩

/-- The own span of a value that is written somewhere. -/
theorem span_of_mem_spans (distinct : node.distinctKeys = true) {span : Span}
    (own : (path, span) ∈ (node.write level path start).spans) :
    span = ⟨start, start + (node.shown level).utf8ByteSize⟩ := by
  have found := (lookup_eq_some_iff_mem (nodup_keys_spans distinct level path start)).mpr own
  exact Option.some.inj (found.symm.trans (lookup_spans_self node level path start))

/-- The text of a tree with distinct keys has one span for every value, each in its place. -/
theorem pretty_placed (distinct : node.distinctKeys = true) :
    node.Placed node.pretty.text node.pretty.spans := by
  have once := nodup_keys_spans distinct 0 [] 0
  refine ⟨once, fun path => mem_keys_spans_iff distinct, ?_, ?_, ?_, ?_⟩
  -- What a span covers is the value as it is shown at that level.
  · intro path span value listed found
    obtain ⟨other, here, covers⟩ := exists_span_write found 0 [] 0
    have same := here.symm.trans ((lookup_eq_some_iff_mem once).mpr listed)
    rw [shown_add path.length value 0] at covers
    exact Option.some.inj same ▸ covers
  · have own := (lookup_eq_some_iff_mem once).mp (lookup_spans_self node 0 [] 0)
    rw [Nat.zero_add] at own
    exact own
  -- Inside a value and from child to child, the spans are those of the value written alone.
  · intro path segment outer inner around within
    obtain ⟨value, found⟩ := (mem_keys_spans_iff distinct).mp (List.mem_map_of_mem around)
    obtain ⟨place, there⟩ := exists_place distinct found
    have own := (there [] outer).mp (by simpa using around)
    rw [List.append_nil] at own
    have strictly := inside_of_mem_spans ((there [segment] inner).mp within) (by simp)
    rw [span_of_mem_spans (distinctKeys_get? distinct found) own]
    exact strictly
  · intro path value found
    obtain ⟨place, there⟩ := exists_place distinct found
    have apart := ordered_spans (distinctKeys_get? distinct found) path.length path place
    refine apart.imp fun before earlier later left right => ?_
    exact before _ ((there _ earlier).mp left) _ ((there _ later).mp right) List.prefix_rfl
      List.prefix_rfl

end DocSchema.Node
