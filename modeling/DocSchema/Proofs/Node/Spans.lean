import DocSchema.Node.Address
import DocSchema.Node.Pretty
import DocSchema.Proofs.Node.Equality
import Mathlib.Data.List.Basic

/-!
# The spans of a written tree

The text of a value does not depend on where it is written, but on its level. The parts of a value
are laid out on lines of their own (`Laid`), and what stands in a part has its spans strictly inside
these lines (`cases_of_mem_spans`). So every value of a tree has a span in the text of the tree, and
at that span stands the text of the value. Main statement: `exists_span_write`.
-/

namespace DocSchema

/-- Whether a part of a text that begins at the byte `start` stands at a span. -/
def Span.Covers (span : Span) (start : Nat) (text part : String) : Prop :=
  ∃ before after, text = before ++ part ++ after ∧
    span = ⟨start + before.utf8ByteSize, start + before.utf8ByteSize + part.utf8ByteSize⟩

theorem Span.Covers.finish_le {span : Span} {start : Nat} {text part : String}
    (covers : span.Covers start text part) :
    span.start ≤ span.finish ∧ span.finish ≤ start + text.utf8ByteSize := by
  obtain ⟨before, after, rfl, rfl⟩ := covers
  simp only [String.utf8ByteSize_append]
  omega

namespace Node

/-! ### Text -/

mutual

/-- The text of a value is the same under every path and from every byte on. -/
theorem text_write : ∀ (node : Node) (level : Nat) (path other : Path) (start place : Nat),
    (node.write level path start).text = (node.write level other place).text
  | null, _, _, _, _, _ | boolean _, _, _, _, _, _ | integer _, _, _, _, _, _
  | number _, _, _, _, _, _ | string _, _, _, _, _, _ => by simp only [write, writtenAs]
  | array [], _, _, _, _, _ | record [], _, _, _, _, _ => by simp only [write, writtenAs]
  | array (first :: rest), level, path, other, start, place => by
    have inner := parts_writeItems (first :: rest) level path other 0 0 (start + 2) (place + 2)
    simp only [write, writtenAs, inner]
  | record (first :: rest), level, path, other, start, place => by
    have inner := parts_writeFields (first :: rest) level path other (start + 2) (place + 2)
    simp only [write, writtenAs, inner]

theorem parts_writeItems : ∀ (items : List Node) (level : Nat) (path other : Path)
    (position otherPosition start place : Nat),
    (writeItems level path position start items).parts =
      (writeItems level other otherPosition place items).parts
  | [], _, _, _, _, _, _, _ => by simp only [writeItems]
  | item :: rest, level, path, other, position, otherPosition, start, place => by
    simp only [writeItems, List.cons.injEq, String.append_left_inj, String.append_right_inj]
    exact ⟨text_write item _ _ _ _ _, parts_writeItems rest _ _ _ _ _ _ _⟩

theorem parts_writeFields : ∀ (fields : List (String × Node)) (level : Nat) (path other : Path)
    (start place : Nat),
    (writeFields level path start fields).parts = (writeFields level other place fields).parts
  | [], _, _, _, _, _ => by simp only [writeFields]
  | (key, value) :: rest, level, path, other, start, place => by
    simp only [writeFields, List.cons.injEq, String.append_left_inj, String.append_right_inj]
    exact ⟨text_write value _ _ _ _ _, parts_writeFields rest _ _ _ _ _⟩

end

/-- The text of a value on a level. -/
def shown (level : Nat) (node : Node) : String := (node.write level [] 0).text

theorem text_write_eq_shown (node : Node) (level : Nat) (path : Path) (start : Nat) :
    (node.write level path start).text = node.shown level :=
  text_write node level path [] start 0

theorem shown_array (level : Nat) (path : Path) (start : Nat) (first : Node) (rest : List Node) :
    (array (first :: rest)).shown level =
      "[\n" ++ String.join (writeItems level path 0 start (first :: rest)).parts ++
        (indent level ++ "]") := by
  simp only [shown, write, writtenAs, String.append_assoc,
    parts_writeItems (first :: rest) level [] path 0 0 _ start]

theorem shown_record (level : Nat) (path : Path) (start : Nat) (first : String × Node)
    (rest : List (String × Node)) :
    (record (first :: rest)).shown level =
      "\x7b\n" ++ String.join (writeFields level path start (first :: rest)).parts ++
        (indent level ++ "\x7d") := by
  simp only [shown, write, writtenAs, String.append_assoc,
    parts_writeFields (first :: rest) level [] path _ start]

/-! ### Values line by line -/

/-- The steps down from a value, in their order, with the values to which they lead. -/
def children : Node → List (Segment × Node)
  | array items => items.zipIdx.map fun place => (.index place.2, place.1)
  | record fields => fields.map fun field => (.property field.1, field.2)
  | _ => []

theorem lookup_items (items : List Node) (position place : Nat) :
    ((items.zipIdx position).map fun entry => (Segment.index entry.2, entry.1)).lookup
      (.index (position + place)) = items[place]? := by
  induction items generalizing position place with
  | nil => rfl
  | cons first rest ih =>
    rw [List.zipIdx_cons, List.map_cons, List.lookup_cons]
    cases place with
    | zero => simp
    | succ place =>
      have other : (Segment.index (position + (place + 1)) == .index position) = false := by simp
      rw [other, List.getElem?_cons_succ, ← ih (position + 1) place, Nat.add_right_comm,
        Nat.add_assoc]

theorem lookup_fields (fields : List (String × Node)) (name : String) :
    (fields.map fun field => (Segment.property field.1, field.2)).lookup (.property name) =
      Keyed.get? fields name := by
  induction fields with
  | nil => rfl
  | cons field rest ih =>
    rw [List.map_cons, List.lookup_cons, Keyed.get?, ih]
    by_cases same : field.1 = name
    · simp [same]
    · have other : (Segment.property name == .property field.1) = false :=
        beq_eq_false_iff_ne.mpr fun equal => same (Segment.property.inj equal).symm
      rw [other, if_neg same]

/-- The parts of a value are the values one step down. -/
theorem lookup_children (node : Node) (segment : Segment) :
    node.children.lookup segment = node.child? segment := by
  cases node with
  | array items =>
    cases segment with
    | property name =>
      simp only [children, child?, List.lookup_eq_none_iff, List.mem_map]
      rintro _ ⟨entry, -, rfl⟩
      rfl
    | index position => simpa [children, child?] using lookup_items items 0 position
  | record fields =>
    cases segment with
    | property name => exact lookup_fields fields name
    | index position =>
      simp only [children, child?, List.lookup_eq_none_iff, List.mem_map]
      rintro _ ⟨field, -, rfl⟩
      rfl
  | _ => simp [children, child?]

/-- Values on lines of their own, as parts of the value at `path`: the text of the lines, which
begins at the byte `start`, and the spans of what stands in them. -/
inductive Laid (level : Nat) (path : Path) :
    Nat → List (Segment × Node) → String → SpanMap → Prop
  | nil {start : Nat} : Laid level path start [] "" []
  | cons {start : Nat} {segment : Segment} {child : Node} {others : List (Segment × Node)}
      {lead ending text : String} {spans : SpanMap} (led : 0 < lead.utf8ByteSize)
      (ended : 0 < ending.utf8ByteSize)
      (later : Laid level path (start + (lead ++ child.shown (level + 1) ++ ending).utf8ByteSize)
        others text spans) :
      Laid level path start ((segment, child) :: others)
        (lead ++ child.shown (level + 1) ++ ending ++ text)
        ((child.write (level + 1) (path ++ [segment]) (start + lead.utf8ByteSize)).spans ++ spans)

theorem size_indent_succ_pos (level : Nat) (tail : String) :
    0 < (indent (level + 1) ++ tail).utf8ByteSize := by
  rw [Nat.pos_iff_ne_zero, Ne, String.utf8ByteSize_eq_zero_iff, ← String.toList_inj]
  simp [indent]

theorem size_lineEnd_pos {α : Type} (following : List α) :
    0 < (lineEnd following).utf8ByteSize := by
  unfold lineEnd
  split <;> decide

theorem laid_writeItems (items : List Node) (level : Nat) (path : Path) (position start : Nat) :
    Laid level path start ((items.zipIdx position).map fun place => (.index place.2, place.1))
      (String.join (writeItems level path position start items).parts)
      (writeItems level path position start items).spans := by
  induction items generalizing position start with
  | nil => exact .nil
  | cons item rest ih =>
    have led := size_indent_succ_pos level ""
    rw [String.append_empty] at led
    simp only [writeItems, text_write_eq_shown, String.join_cons]
    exact .cons led (size_lineEnd_pos rest) (ih _ _)

theorem laid_writeFields (fields : List (String × Node)) (level : Nat) (path : Path)
    (start : Nat) :
    Laid level path start (fields.map fun field => (.property field.1, field.2))
      (String.join (writeFields level path start fields).parts)
      (writeFields level path start fields).spans := by
  induction fields generalizing start with
  | nil => exact .nil
  | cons field rest ih =>
    obtain ⟨key, value⟩ := field
    have led := size_indent_succ_pos level (Json.quoted key ++ ": ")
    rw [← String.append_assoc] at led
    simp only [writeFields, text_write_eq_shown, String.join_cons]
    exact .cons led (size_lineEnd_pos rest) (ih _)

/-- What is written of a value are its parts, between brackets, and it stands last among the
spans. -/
theorem exists_laid (node : Node) (level : Nat) (path : Path) (start : Nat) :
    ∃ opening lines closing inner, node.shown level = opening ++ lines ++ closing ∧
      (node.write level path start).spans =
        inner ++ [(path, ⟨start, start + (node.shown level).utf8ByteSize⟩)] ∧
      Laid level path (start + opening.utf8ByteSize) node.children lines inner := by
  have unparted : node.shown level = node.shown level ++ "" ++ "" := by simp
  cases node with
  | array items =>
    cases items with
    | nil => exact ⟨"[]", "", "", [], rfl, rfl, .nil⟩
    | cons first rest =>
      refine ⟨"[\n", _, indent level ++ "]", _, shown_array level path (start + 2) first rest, ?_,
        laid_writeItems (first :: rest) level path 0 _⟩
      rw [← text_write_eq_shown _ level path start]
      rfl
  | record fields =>
    cases fields with
    | nil => exact ⟨"\x7b\x7d", "", "", [], rfl, rfl, .nil⟩
    | cons first rest =>
      refine ⟨"\x7b\n", _, indent level ++ "\x7d", _,
        shown_record level path (start + 2) first rest, ?_,
        laid_writeFields (first :: rest) level path _⟩
      rw [← text_write_eq_shown _ level path start]
      rfl
  | null | boolean _ | integer _ | number _ | string _ =>
    exact ⟨_, "", "", [], unparted, rfl, .nil⟩

/-! ### Entries -/

variable {level start : Nat} {path : Path} {children : List (Segment × Node)} {text : String}
  {spans : SpanMap} {entry : Path × Span}

/-- A span in lines of parts is one of what is written of a part, strictly inside the lines. -/
theorem Laid.cases_of_mem (laid : Laid level path start children text spans)
    (member : entry ∈ spans) :
    ∃ segment child place, (segment, child) ∈ children ∧
      entry ∈ (child.write (level + 1) (path ++ [segment]) place).spans ∧ start < place ∧
      place + (child.shown (level + 1)).utf8ByteSize < start + text.utf8ByteSize := by
  induction laid with
  | nil => cases member
  | cons led ended later ih =>
    rcases List.mem_append.mp member with first | rest
    · -- The lead is in front of the first part, and the end of its line behind it.
      refine ⟨_, _, _, List.mem_cons_self, first, ?_, ?_⟩
      · omega
      · simp only [String.utf8ByteSize_append]
        omega
    · obtain ⟨segment, child, place, listed, inside, after, before⟩ := ih rest
      refine ⟨segment, child, place, List.mem_cons_of_mem _ listed, inside, ?_, ?_⟩
      · omega
      · simp only [String.utf8ByteSize_append] at before ⊢
        omega

/-- A span of what is written of a value is its own or one of what is written of a part, strictly
inside. -/
theorem cases_of_mem_spans {node : Node}
    (member : entry ∈ (node.write level path start).spans) :
    entry = (path, ⟨start, start + (node.shown level).utf8ByteSize⟩) ∨
      ∃ segment child place, (segment, child) ∈ node.children ∧
        entry ∈ (child.write (level + 1) (path ++ [segment]) place).spans ∧ start < place ∧
        place + (child.shown (level + 1)).utf8ByteSize <
          start + (node.shown level).utf8ByteSize := by
  obtain ⟨opening, lines, closing, inner, parted, listed, laid⟩ := exists_laid node level path start
  rw [listed, List.mem_append, List.mem_singleton] at member
  rcases member with inside | own
  · obtain ⟨segment, child, place, part, written, after, before⟩ := laid.cases_of_mem inside
    refine .inr ⟨segment, child, place, part, written, by omega, ?_⟩
    simp only [parted, String.utf8ByteSize_append]
    omega
  · exact .inl own

/-- What follows for a value from its parts holds of every value. -/
@[elab_as_elim]
theorem children_induction {motive : Node → Prop}
    (step : ∀ node : Node, (∀ segment child, (segment, child) ∈ node.children → motive child) →
      motive node) (node : Node) : motive node := by
  induction node using parts_induction with
  | array items ih =>
    refine step _ fun segment child part => ?_
    obtain ⟨⟨item, position⟩, placed, same⟩ := List.mem_map.mp part
    cases same
    exact ih _ (List.mem_of_getElem? (List.mem_zipIdx_iff_getElem?.mp placed))
  | record fields ih =>
    refine step _ fun segment child part => ?_
    obtain ⟨⟨key, value⟩, listed, same⟩ := List.mem_map.mp part
    cases same
    exact ih key _ listed
  | _ => exact step _ fun _ _ part => absurd part List.not_mem_nil

/-- What is written of a value has spans under paths that begin with that of the value. -/
theorem prefix_of_mem_spans (node : Node) (member : entry ∈ (node.write level path start).spans) :
    path <+: entry.1 := by
  induction node using children_induction generalizing level path start with
  | step node ih =>
    rcases cases_of_mem_spans member with rfl | ⟨segment, child, place, part, inside, -, -⟩
    · exact List.prefix_rfl
    · exact (List.prefix_append path [segment]).trans (ih segment child part inside)

/-- No part is under the path of the value itself. -/
theorem Laid.ne_of_mem (laid : Laid level path start children text spans) (member : entry ∈ spans) :
    entry.1 ≠ path := by
  intro same
  obtain ⟨segment, child, place, -, inside, -, -⟩ := laid.cases_of_mem member
  have begins := prefix_of_mem_spans child inside
  rw [same] at begins
  exact path.not_further_prefix segment begins

/-! ### Spans of values -/

theorem lookup_eq_none (others : ∀ entry ∈ spans, entry.1 ≠ path) : spans.lookup path = none := by
  rw [List.lookup_eq_none_iff]
  intro entry member
  simpa using (others entry member).symm

/-- A value's own span is the whole of what is written of it. -/
theorem lookup_spans_self (node : Node) (level : Nat) (path : Path) (start : Nat) :
    (node.write level path start).spans.lookup path =
      some ⟨start, start + (node.shown level).utf8ByteSize⟩ := by
  obtain ⟨opening, lines, closing, inner, -, listed, laid⟩ := exists_laid node level path start
  have others := lookup_eq_none fun entry member => laid.ne_of_mem member
  rw [listed, List.lookup_append, others, Option.none_or]
  simp

/-- Whether a text that begins at the byte `start` holds that of a value, and spans hold those that
the value has there. -/
def Holds (text : String) (spans : SpanMap) (start level : Nat) (path : Path) (child : Node) :
    Prop :=
  ∃ before after, text = before ++ child.shown level ++ after ∧
    ∀ below span, (child.write level path (start + before.utf8ByteSize)).spans.lookup
      (path ++ below) = some span → spans.lookup (path ++ below) = some span

variable {opening closing whole : String} {front back all : SpanMap} {child : Node}

theorem Holds.self (start level : Nat) (path : Path) (child : Node) :
    Holds (child.shown level) (child.write level path start).spans start level path child := by
  refine ⟨"", "", by simp, fun below span found => ?_⟩
  rwa [String.utf8ByteSize_empty, Nat.add_zero] at found

/-- More text around it and spans of other values change nothing. -/
theorem Holds.surround (holds : Holds text spans (start + opening.utf8ByteSize) level path child)
    (apart : ∀ entry ∈ front, ¬path <+: entry.1) (parted : whole = opening ++ text ++ closing)
    (listed : all = front ++ spans ++ back) : Holds whole all start level path child := by
  obtain ⟨before, after, rfl, inside⟩ := holds
  refine ⟨opening ++ before, after ++ closing, ?_, fun below span found => ?_⟩
  · simp only [parted, String.append_assoc]
  · have none : front.lookup (path ++ below) = none := by
      apply lookup_eq_none
      intro entry member same
      exact apart entry member (same ▸ List.prefix_append path below)
    rw [String.utf8ByteSize_append, ← Nat.add_assoc] at found
    rw [listed, List.append_assoc, List.lookup_append, none, Option.none_or, List.lookup_append,
      inside below span found, Option.some_or]

theorem Holds.within (holds : Holds text spans (start + opening.utf8ByteSize) level path child)
    (parted : whole = opening ++ text ++ closing) (listed : all = spans ++ back) :
    Holds whole all start level path child :=
  holds.surround (fun _ member => absurd member List.not_mem_nil) parted listed

theorem Laid.holds {segment : Segment}
    (laid : Laid level path start children text spans)
    (found : children.lookup segment = some child) :
    Holds text spans start (level + 1) (path ++ [segment]) child := by
  induction laid with
  | nil => cases found
  | @cons start first inner others lead ending text spans led ended later ih =>
    rw [List.lookup_cons] at found
    split at found
    next same =>
      cases found
      rw [eq_of_beq same]
      exact (Holds.self _ _ _ child).within (String.append_assoc ..) rfl
    next other =>
      refine (ih found).surround (fun entry member begins => ?_)
        (String.append_empty ..).symm (List.append_nil _).symm
      -- The first part's spans stand under its own step.
      have same := Path.segment_unique (prefix_of_mem_spans inner member) begins
      simp [same] at other

/-- What is written of a value holds what is written of a child. -/
theorem holds_child {node : Node} {segment : Segment} (found : node.child? segment = some child)
    (start level : Nat) (path : Path) :
    Holds (node.shown level) (node.write level path start).spans start (level + 1)
      (path ++ [segment]) child := by
  obtain ⟨opening, lines, closing, inner, parted, listed, laid⟩ := exists_laid node level path start
  rw [← lookup_children] at found
  exact (laid.holds found).within parted listed

/-- What is written of a value holds what is written of every value inside it. -/
theorem holds_get? {node inner : Node} {below : Path} (found : node.get? below = some inner)
    (start level : Nat) (path : Path) :
    Holds (node.shown level) (node.write level path start).spans start (level + below.length)
      (path ++ below) inner := by
  induction below generalizing node level path start with
  | nil =>
    cases found
    rw [List.append_nil]
    exact Holds.self start level path _
  | cons segment rest ih =>
    obtain ⟨child, step, reached⟩ := Option.bind_eq_some_iff.mp found
    obtain ⟨before, after, parted, inside⟩ := holds_child step start level path
    obtain ⟨left, right, within, deeper⟩ :=
      ih reached (start + before.utf8ByteSize) (level + 1) (path ++ [segment])
    -- What the child holds of the rest of the path is held by the value that holds the child.
    have levels : level + 1 + rest.length = level + (segment :: rest).length := by
      rw [List.length_cons]
      omega
    rw [levels] at within deeper
    refine ⟨before ++ left, right ++ after, ?_, fun further span listed => ?_⟩
    · rw [parted, within]
      simp only [String.append_assoc]
    · rw [String.utf8ByteSize_append, ← Nat.add_assoc] at listed
      have carried := inside (rest ++ further) span
      simp only [List.append_assoc, List.cons_append, List.nil_append] at carried deeper listed ⊢
      exact carried (deeper further span listed)

/-- Every value of a tree has a span, and there stands its text. -/
theorem exists_span_write {node inner : Node} {below : Path} (found : node.get? below = some inner)
    (level : Nat) (path : Path) (start : Nat) :
    ∃ span, (node.write level path start).spans.lookup (path ++ below) = some span ∧
      span.Covers start (node.shown level) (inner.shown (level + below.length)) := by
  obtain ⟨before, after, parted, inside⟩ := holds_get? found start level path
  have own := lookup_spans_self inner (level + below.length) (path ++ below)
    (start + before.utf8ByteSize)
  refine ⟨_, ?_, before, after, parted, rfl⟩
  simpa using inside [] _ (by simpa using own)

end Node

end DocSchema
