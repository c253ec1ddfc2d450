import DocSchema.Node.Json
import DocSchema.Proofs.Node.Substitution

/-!
# Looking up and replacing

Looking a value up and replacing it obey the laws of a lens: what is put at a path is found there,
putting back what stands there changes nothing, and of two values put at one path the later one
counts. Whatever stands apart from the path stays, and so do the order of keys and the length of
arrays on the way. Nothing can be put exactly where nothing is found, and then the shortest part of
the path that leads nowhere is named. Main statement: `replace_lens`.
-/

namespace DocSchema.Node

variable {node child value : Node} {segment : Segment} {path : Path}

/-! ### One step down -/

/-- A step leads to an item of an array or to a field of a record. -/
theorem child?_cases (found : node.child? segment = some child) :
    (∃ items position, node = array items ∧ segment = .index position ∧
      items[position]? = some child) ∨
    ∃ fields name, node = record fields ∧ segment = .property name ∧
      Keyed.get? fields name = some child := by
  cases node with
  | array items =>
    cases segment with
    | property name => cases found
    | index position => exact .inl ⟨items, position, rfl, rfl, found⟩
  | record fields =>
    cases segment with
    | property name => exact .inr ⟨fields, name, rfl, rfl, found⟩
    | index position => cases found
  | _ => cases found

theorem child?_withChild_self (found : node.child? segment = some child) (value : Node) :
    (node.withChild segment value).child? segment = some value := by
  rcases child?_cases found with ⟨items, position, rfl, rfl, item⟩ | ⟨fields, name, rfl, rfl, _⟩
  · have inside : position < items.length := (List.getElem?_eq_some_iff.mp item).1
    simp [withChild, child?, inside]
  · exact Keyed.get?_insert_self fields name value

theorem child?_withChild_other (found : node.child? segment = some child) (value : Node)
    {other : Segment} (differs : other ≠ segment) :
    (node.withChild segment value).child? other = node.child? other := by
  rcases child?_cases found with ⟨items, position, rfl, rfl, _⟩ | ⟨fields, name, rfl, rfl, _⟩
  · cases other with
    | property key => rfl
    | index place =>
      have apart : position ≠ place := fun same => differs (same ▸ rfl)
      exact List.getElem?_set_ne apart
  · cases other with
    | property key =>
      have apart : name ≠ key := fun same => differs (same ▸ rfl)
      exact Keyed.get?_insert_other fields name key value apart
    | index place => rfl

theorem withChild_withChild (found : node.child? segment = some child) (first second : Node) :
    (node.withChild segment first).withChild segment second = node.withChild segment second := by
  rcases child?_cases found with ⟨items, position, rfl, rfl, _⟩ | ⟨fields, name, rfl, rfl, _⟩
  · exact congrArg array (List.set_set first)
  · exact congrArg record (Keyed.insert_insert fields name first second)

theorem withChild_of_child? (found : node.child? segment = some child) :
    node.withChild segment child = node := by
  rcases child?_cases found with ⟨items, position, rfl, rfl, item⟩ | ⟨fields, name, rfl, rfl, field⟩
  · obtain ⟨inside, rfl⟩ := List.getElem?_eq_some_iff.mp item
    exact congrArg array (List.set_getElem_self inside)
  · exact congrArg record (Keyed.insert_of_get? field)

theorem sameOutline_withChild (found : node.child? segment = some child) (value : Node) :
    node.SameOutline (node.withChild segment value) := by
  rcases child?_cases found with ⟨items, position, rfl, rfl, _⟩ | ⟨fields, name, rfl, rfl, field⟩
  · exact List.length_set.symm
  · -- The key is there, so none is added.
    have present : name ∈ Keyed.keys fields := Keyed.mem_keys_iff.mpr ⟨child, field⟩
    exact ((Keyed.keys_insert fields name value).trans (if_pos present)).symm

/-! ### Parts of a path -/

theorem get?_cons (found : node.child? segment = some child) (rest : Path) :
    node.get? (segment :: rest) = child.get? rest := by
  rw [get?, found, Option.bind_some]

/-- On the way to a value there are values. -/
theorem exists_get?_of_prefix {upper : Path} (before : upper <+: path)
    (found : node.get? path = some value) : ∃ inner, node.get? upper = some inner := by
  obtain ⟨lower, rfl⟩ := before
  rw [get?_append] at found
  obtain ⟨inner, reached, -⟩ := Option.bind_eq_some_iff.mp found
  exact ⟨inner, reached⟩

/-! ### Putting a value -/

/-- Whether one tree becomes another one by a value that is put at a path. -/
inductive Puts (value : Node) : Path → Node → Node → Prop where
  | root (node : Node) : Puts value [] node value
  | down {segment : Segment} {rest : Path} {node child inner : Node}
      (found : node.child? segment = some child) (inside : Puts value rest child inner) :
      Puts value (segment :: rest) node (node.withChild segment inner)

theorem replaceBelow_eq_ok_iff {above : Path} {replaced : Node} :
    node.replaceBelow above path value = .ok replaced ↔ Puts value path node replaced := by
  induction path generalizing above node replaced with
  | nil =>
    rw [replaceBelow]
    constructor
    · intro put
      cases put
      exact .root node
    · intro put
      cases put
      rfl
  | cons segment rest ih =>
    rw [replaceBelow]
    constructor
    · intro put
      split at put
      next => cases put
      next child found =>
        rw [bind_eq_ok_iff] at put
        obtain ⟨inner, inside, made⟩ := put
        cases made
        exact .down found (ih.mp inside)
    · intro put
      cases put with
      | down found inside =>
        simp only [found, ih.mpr inside]
        rfl

theorem replace_eq_ok_iff {replaced : Node} :
    node.replace path value = .ok replaced ↔ Puts value path node replaced :=
  replaceBelow_eq_ok_iff

theorem exists_puts_iff (value : Node) :
    (∃ replaced, Puts value path node replaced) ↔ ∃ old, node.get? path = some old := by
  induction path generalizing node with
  | nil => exact ⟨fun _ => ⟨node, rfl⟩, fun _ => ⟨value, .root node⟩⟩
  | cons segment rest ih =>
    constructor
    · rintro ⟨_, put⟩
      cases put with
      | down found inside =>
        rw [get?_cons found]
        exact ih.mp ⟨_, inside⟩
    · rintro ⟨old, reached⟩
      obtain ⟨child, found, further⟩ := Option.bind_eq_some_iff.mp reached
      obtain ⟨inner, inside⟩ := ih.mpr ⟨old, further⟩
      exact ⟨_, .down found inside⟩

namespace Puts

variable {replaced : Node}

/-- What is put at a path is found there. -/
theorem get?_self (put : Puts value path node replaced) : replaced.get? path = some value := by
  induction put with
  | root node => rfl
  | down found inside ih => rw [get?_cons (child?_withChild_self found _), ih]

theorem get?_apart (put : Puts value path node replaced) {other : Path}
    (apart : path.Apart other) : replaced.get? other = node.get? other := by
  induction put generalizing other with
  | root node => exact absurd List.nil_prefix apart.1
  | @down segment rest node child inner found inside ih =>
    cases other with
    | nil => exact absurd List.nil_prefix apart.2
    | cons step further =>
      by_cases same : step = segment
      · -- The paths part further down.
        subst same
        have parting : Path.Apart rest further :=
          ⟨fun before => apart.1 (List.cons_prefix_cons.mpr ⟨rfl, before⟩),
            fun before => apart.2 (List.cons_prefix_cons.mpr ⟨rfl, before⟩)⟩
        rw [get?_cons (child?_withChild_self found _), get?_cons found, ih parting]
      · rw [get?, get?, child?_withChild_other found _ same]

/-- Above the path the outlines of all values stay. -/
theorem sameOutline (put : Puts value path node replaced) {upper : Path} {inner : Node}
    (before : upper <+: path) (proper : upper ≠ path) (reached : node.get? upper = some inner) :
    ∃ kept, replaced.get? upper = some kept ∧ inner.SameOutline kept := by
  induction put generalizing upper with
  | root node => exact absurd (List.prefix_nil.mp before) proper
  | @down segment rest node child made found inside ih =>
    cases upper with
    | nil =>
      cases reached
      exact ⟨_, rfl, sameOutline_withChild found made⟩
    | cons step further =>
      obtain ⟨rfl, within⟩ := List.cons_prefix_cons.mp before
      rw [get?_cons found] at reached
      rw [get?_cons (child?_withChild_self found made)]
      exact ih within (fun same => proper (same ▸ rfl)) reached

/-- Of two values put at one path the later one counts. -/
theorem replaceBelow_again (put : Puts value path node replaced) (above : Path) (next : Node) :
    replaced.replaceBelow above path next = node.replaceBelow above path next := by
  induction put generalizing above with
  | root node => rw [replaceBelow, replaceBelow]
  | down found inside ih =>
    rw [replaceBelow, replaceBelow]
    simp only [child?_withChild_self found, found, ih, withChild_withChild found]

end Puts

/-- Putting back what stands at a path changes nothing. -/
theorem puts_of_get? (found : node.get? path = some value) : Puts value path node node := by
  induction path generalizing node with
  | nil =>
    cases found
    exact .root _
  | cons segment rest ih =>
    obtain ⟨child, step, further⟩ := Option.bind_eq_some_iff.mp found
    have put := Puts.down step (ih further)
    rwa [withChild_of_child? step] at put

/-! ### Paths that lead nowhere -/

/-- Where nothing can be put, there is a first step that cannot be taken. -/
theorem replaceBelow_error {above missing : Path}
    (failed : node.replaceBelow above path value = .error missing) :
    ∃ upper segment inner, upper ++ [segment] <+: path ∧ missing = above ++ (upper ++ [segment]) ∧
      node.get? upper = some inner ∧ inner.child? segment = none := by
  induction path generalizing above node with
  | nil => cases failed
  | cons segment rest ih =>
    rw [replaceBelow] at failed
    split at failed
    next absent =>
      cases failed
      exact ⟨[], segment, node, List.prefix_append [segment] rest, rfl, rfl, absent⟩
    next child found =>
      rw [bind_eq_error_iff] at failed
      rcases failed with inside | ⟨_, _, made⟩
      · obtain ⟨upper, last, inner, before, rfl, reached, absent⟩ := ih inside
        have longer := List.cons_prefix_cons.mpr ⟨Eq.refl segment, before⟩
        refine ⟨segment :: upper, last, inner, longer, ?_, ?_, absent⟩
        · simp only [List.append_assoc, List.cons_append, List.nil_append]
        · rw [get?_cons found, reached]
      · cases made

/-- The path that is named leads nowhere, and every part of the path that leads nowhere begins
with it. -/
theorem shortest_of_replace_error {missing : Path}
    (failed : node.replace path value = .error missing) :
    missing <+: path ∧ node.get? missing = none ∧
      ∀ shorter, shorter <+: path → node.get? shorter = none → missing <+: shorter := by
  obtain ⟨upper, segment, inner, before, rfl, reached, absent⟩ := replaceBelow_error failed
  rw [List.nil_append]
  refine ⟨before, ?_, fun shorter within nothing => ?_⟩
  · rw [get?_append, reached, Option.bind_some, get?, absent, Option.bind_none]
  · rcases List.prefix_or_prefix_of_prefix within before with less | more
    · rcases List.prefix_concat_iff.mp less with rfl | above
      · exact List.prefix_rfl
      · -- Above the step that cannot be taken there are values.
        obtain ⟨value, found⟩ := exists_get?_of_prefix above reached
        rw [nothing] at found
        cases found
    · exact more

/-! ### The laws -/

/-- Looking values up and replacing them are a lens, and the errors of replacing are exact. -/
theorem replace_lens (node : Node) (path : Path) (value : Node) :
    ((∃ replaced, node.replace path value = .ok replaced) ↔ ∃ old, node.get? path = some old) ∧
    (∀ replaced, node.replace path value = .ok replaced →
      replaced.get? path = some value ∧
      (∀ other, path.Apart other → replaced.get? other = node.get? other) ∧
      (∀ upper inner, upper <+: path → upper ≠ path → node.get? upper = some inner →
        ∃ kept, replaced.get? upper = some kept ∧ inner.SameOutline kept) ∧
      ∀ next, replaced.replace path next = node.replace path next) ∧
    (node.get? path = some value → node.replace path value = .ok node) ∧
    ∀ missing, node.replace path value = .error missing →
      missing <+: path ∧ node.get? missing = none ∧
        ∀ shorter, shorter <+: path → node.get? shorter = none → missing <+: shorter := by
  refine ⟨?_, fun replaced made => ?_, fun found => replace_eq_ok_iff.mpr (puts_of_get? found),
    fun missing failed => shortest_of_replace_error failed⟩
  · simp only [replace_eq_ok_iff]
    exact exists_puts_iff value
  · have put := replace_eq_ok_iff.mp made
    exact ⟨put.get?_self, fun other apart => put.get?_apart apart,
      fun upper inner before proper reached => put.sameOutline before proper reached,
      fun next => put.replaceBelow_again [] next⟩

/-- A page of two notes, the second one with a mark. -/
def marked (mark : Node) : Node :=
  record [("title", string "Emma"),
    ("notes", array [null, record [("mark", mark), ("line", integer 3)]])]

/-- The path of the mark. -/
def markPath : Path := [.property "notes", .index 1, .property "mark"]

/-- A mark is replaced without touching the line beside it, and a third note cannot be put. -/
theorem marked_replaced :
    (marked null).replace markPath (boolean true) = .ok (marked (boolean true)) ∧
    (marked (boolean true)).get? markPath = some (boolean true) ∧
    markPath.Apart [.property "notes", .index 1, .property "line"] ∧
    (marked (boolean true)).get? [.property "notes", .index 1, .property "line"] =
      (marked null).get? [.property "notes", .index 1, .property "line"] ∧
    (∃ kept, (marked (boolean true)).get? [.property "notes"] = some kept ∧
      (array [null, record [("mark", null), ("line", integer 3)]]).SameOutline kept) ∧
    (marked (boolean true)).replace markPath null = (marked null).replace markPath null ∧
    (marked null).replace markPath null = .ok (marked null) ∧
    (marked null).replace [.property "notes", .index 2, .property "mark"] null =
      .error [.property "notes", .index 2] ∧
    (marked null).get? [.property "notes", .index 2] = none := by
  have made : (marked null).replace markPath (boolean true) = .ok (marked (boolean true)) := rfl
  have failed : (marked null).replace [.property "notes", .index 2, .property "mark"] null =
      .error [.property "notes", .index 2] := rfl
  have apart : markPath.Apart [.property "notes", .index 1, .property "line"] := by
    unfold Path.Apart
    decide
  obtain ⟨found, others, outlines, again⟩ :=
    (replace_lens (marked null) markPath (boolean true)).2.1 _ made
  have back := (replace_lens (marked null) markPath null).2.2.1 rfl
  have missing := (replace_lens (marked null)
    [.property "notes", .index 2, .property "mark"] null).2.2.2 _ failed
  refine ⟨made, found, apart, others _ apart, ?_, again null, back, failed, missing.2.1⟩
  exact outlines [.property "notes"] _ (by decide) (by decide) rfl

end DocSchema.Node
