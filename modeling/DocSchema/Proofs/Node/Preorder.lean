import DocSchema.Node.Address
import Mathlib.Data.List.Nodup

/-!
# The paths of a tree in pre-order

The paths at which the values of a tree pass a test, every value before its parts. Main
statements: `mem_pathsWhere_iff` and `nodup_pathsWhere`, for trees with distinct keys.
-/

namespace DocSchema.Node

/-- The path of a value within itself if it passes a test. -/
def rootWhere (test : Node → Bool) (node : Node) : List Path := if test node then [[]] else []

mutual

/-- The paths of the values in a tree that pass a test, in pre-order. -/
def pathsWhere (test : Node → Bool) : Node → List Path
  | array items => rootWhere test (array items) ++ pathsWhereItems test 0 items
  | record fields => rootWhere test (record fields) ++ pathsWhereFields test fields
  | node => rootWhere test node

def pathsWhereItems (test : Node → Bool) (position : Nat) : List Node → List Path
  | [] => []
  | item :: rest =>
    (pathsWhere test item).map (.index position :: ·) ++ pathsWhereItems test (position + 1) rest

def pathsWhereFields (test : Node → Bool) : List (String × Node) → List Path
  | [] => []
  | (key, value) :: rest =>
    (pathsWhere test value).map (.property key :: ·) ++ pathsWhereFields test rest

end

variable {test : Node → Bool}

/-! ### The first step of a path -/

@[simp] theorem nil_mem_rootWhere_iff {node : Node} :
    [] ∈ rootWhere test node ↔ test node = true := by
  simp [rootWhere]

@[simp] theorem cons_not_mem_rootWhere {node : Node} {segment : Segment} {below : Path} :
    segment :: below ∉ rootWhere test node := by
  simp [rootWhere]

theorem mem_pathsWhereItems_iff {items : List Node} {position : Nat} {path : Path} :
    path ∈ pathsWhereItems test position items ↔
      ∃ place item below, path = .index (position + place) :: below ∧ items[place]? = some item ∧
        below ∈ item.pathsWhere test := by
  induction items generalizing position with
  | nil => simp [pathsWhereItems]
  | cons first rest ih =>
    rw [pathsWhereItems, List.mem_append, List.mem_map, ih]
    constructor
    · rintro (⟨below, member, rfl⟩ | ⟨place, item, below, rfl, found, member⟩)
      · exact ⟨0, first, below, rfl, rfl, member⟩
      · refine ⟨place + 1, item, below, ?_, found, member⟩
        rw [Nat.add_assoc, Nat.add_comm 1]
    · rintro ⟨place, item, below, rfl, found, member⟩
      cases place with
      | zero =>
        cases found
        exact .inl ⟨below, member, rfl⟩
      | succ place =>
        refine .inr ⟨place, item, below, ?_, found, member⟩
        rw [Nat.add_assoc, Nat.add_comm 1]

theorem mem_pathsWhereFields_iff {fields : List (String × Node)} {path : Path} :
    path ∈ pathsWhereFields test fields ↔
      ∃ key value below, path = .property key :: below ∧ (key, value) ∈ fields ∧
        below ∈ value.pathsWhere test := by
  induction fields with
  | nil => simp [pathsWhereFields]
  | cons field rest ih =>
    obtain ⟨key, value⟩ := field
    rw [pathsWhereFields, List.mem_append, List.mem_map, ih]
    constructor
    · rintro (⟨below, member, rfl⟩ | ⟨other, inner, below, rfl, listed, member⟩)
      · exact ⟨key, value, below, rfl, List.mem_cons_self, member⟩
      · exact ⟨other, inner, below, rfl, List.mem_cons_of_mem _ listed, member⟩
    · rintro ⟨other, inner, below, rfl, listed, member⟩
      rcases List.mem_cons.mp listed with same | later
      · cases same
        exact .inl ⟨below, member, rfl⟩
      · exact .inr ⟨other, inner, below, rfl, later, member⟩

/-! ### The values at the paths -/

theorem nil_mem_pathsWhere_iff {node : Node} :
    [] ∈ node.pathsWhere test ↔ test node = true := by
  cases node <;> simp [pathsWhere, mem_pathsWhereItems_iff, mem_pathsWhereFields_iff]

theorem cons_mem_pathsWhere_iff {node : Node} (distinct : node.distinctKeys = true)
    {segment : Segment} {below : Path} :
    segment :: below ∈ node.pathsWhere test ↔
      ∃ child, node.child? segment = some child ∧ below ∈ child.pathsWhere test := by
  cases node with
  | array items =>
    rw [pathsWhere, List.mem_append, mem_pathsWhereItems_iff]
    cases segment with
    | property name => simp [child?]
    | index position =>
      simp only [Nat.zero_add, child?]
      constructor
      · rintro (root | ⟨place, item, rest, same, found, member⟩)
        · exact absurd root cons_not_mem_rootWhere
        · cases same
          exact ⟨item, found, member⟩
      · rintro ⟨item, found, member⟩
        exact .inr ⟨position, item, below, rfl, found, member⟩
  | record fields =>
    rw [distinctKeys_record_iff] at distinct
    rw [pathsWhere, List.mem_append, mem_pathsWhereFields_iff]
    cases segment with
    | property name =>
      -- Distinct keys make the listed field the one that the path leads to.
      simp only [child?, Keyed.get?_eq_some_iff distinct.1]
      constructor
      · rintro (root | ⟨key, value, rest, same, listed, member⟩)
        · exact absurd root cons_not_mem_rootWhere
        · cases same
          exact ⟨value, listed, member⟩
      · rintro ⟨value, listed, member⟩
        exact .inr ⟨name, value, below, rfl, listed, member⟩
    | index position => simp [child?]
  | _ => simp [pathsWhere, child?]

theorem distinctKeys_child {node child : Node} (distinct : node.distinctKeys = true)
    {segment : Segment} (found : node.child? segment = some child) :
    child.distinctKeys = true := by
  cases node with
  | array items =>
    cases segment with
    | property name => cases found
    | index position =>
      exact distinctKeys_array_iff.mp distinct child (List.mem_of_getElem? found)
  | record fields =>
    cases segment with
    | property name =>
      exact (distinctKeys_record_iff.mp distinct).2 name child (Keyed.mem_of_get? found)
    | index position => cases found
  | _ => cases found

theorem mem_pathsWhere_iff {node : Node} (distinct : node.distinctKeys = true) {path : Path} :
    path ∈ node.pathsWhere test ↔ ∃ inner, node.get? path = some inner ∧ test inner = true := by
  induction path generalizing node with
  | nil => simp [nil_mem_pathsWhere_iff, get?]
  | cons segment below ih =>
    rw [cons_mem_pathsWhere_iff distinct]
    simp only [get?, Option.bind_eq_some_iff]
    constructor
    · rintro ⟨child, found, member⟩
      obtain ⟨inner, reached, passes⟩ := (ih (distinctKeys_child distinct found)).mp member
      exact ⟨inner, ⟨child, found, reached⟩, passes⟩
    · rintro ⟨inner, ⟨child, found, reached⟩, passes⟩
      exact ⟨child, found, (ih (distinctKeys_child distinct found)).mpr ⟨inner, reached, passes⟩⟩

/-! ### Order -/

theorem nodup_rootWhere (node : Node) : (rootWhere test node).Nodup := by
  unfold rootWhere
  split
  next => exact List.nodup_singleton []
  next => exact List.nodup_nil

theorem nodup_rootWhere_append (node : Node) {paths : List Path} (absent : [] ∉ paths)
    (nodup : paths.Nodup) : (rootWhere test node ++ paths).Nodup := by
  unfold rootWhere
  split
  next => exact List.nodup_cons.mpr ⟨absent, nodup⟩
  next => exact nodup

mutual

/-- No path is listed twice. -/
theorem nodup_pathsWhere : ∀ {node : Node}, node.distinctKeys = true →
    (node.pathsWhere test).Nodup
  | array items, distinct => by
    have inside := nodup_pathsWhereItems 0 (distinctKeys_array_iff.mp distinct)
    rw [pathsWhere]
    exact nodup_rootWhere_append _ (by simp [mem_pathsWhereItems_iff]) inside
  | record fields, distinct => by
    rw [distinctKeys_record_iff] at distinct
    have inside := nodup_pathsWhereFields distinct.1 distinct.2
    rw [pathsWhere]
    exact nodup_rootWhere_append _ (by simp [mem_pathsWhereFields_iff]) inside
  | null, _ | boolean _, _ | integer _, _ | number _, _ | string _, _ => by
    simpa only [pathsWhere] using nodup_rootWhere _

theorem nodup_pathsWhereItems : ∀ {items : List Node} (position : Nat),
    (∀ item ∈ items, item.distinctKeys = true) → (pathsWhereItems test position items).Nodup
  | [], _, _ => List.nodup_nil
  | first :: rest, position, distinct => by
    have here := nodup_pathsWhere (distinct first List.mem_cons_self)
    have later := nodup_pathsWhereItems (position + 1) fun item member =>
      distinct item (List.mem_cons_of_mem _ member)
    rw [pathsWhereItems, List.nodup_append]
    refine ⟨here.map (List.cons_injective), later, ?_⟩
    rintro path inFirst other inRest rfl
    obtain ⟨below, _, rfl⟩ := List.mem_map.mp inFirst
    -- Paths into different items begin with different positions.
    obtain ⟨place, item, _, same, _⟩ := mem_pathsWhereItems_iff.mp inRest
    simp only [List.cons.injEq, Segment.index.injEq] at same
    omega

theorem nodup_pathsWhereFields : ∀ {fields : List (String × Node)}, Keyed.Distinct fields →
    (∀ key value, (key, value) ∈ fields → value.distinctKeys = true) →
    (pathsWhereFields test fields).Nodup
  | [], _, _ => List.nodup_nil
  | (key, value) :: rest, keys, distinct => by
    have here := nodup_pathsWhere (distinct key value List.mem_cons_self)
    obtain ⟨fresh, others⟩ := List.nodup_cons.mp keys
    have later := nodup_pathsWhereFields others fun other inner member =>
      distinct other inner (List.mem_cons_of_mem _ member)
    rw [pathsWhereFields, List.nodup_append]
    refine ⟨here.map (List.cons_injective), later, ?_⟩
    rintro path inFirst other inRest rfl
    obtain ⟨below, _, rfl⟩ := List.mem_map.mp inFirst
    -- Paths into different fields begin with different keys.
    obtain ⟨name, inner, _, same, listed, _⟩ := mem_pathsWhereFields_iff.mp inRest
    simp only [List.cons.injEq, Segment.property.injEq] at same
    exact fresh (List.mem_map.mpr ⟨_, listed, same.1.symm⟩)

end

theorem rootWhere_sublist {wide : Node → Bool}
    (wider : ∀ node, test node = true → wide node = true) (node : Node) :
    (rootWhere test node).Sublist (rootWhere wide node) := by
  unfold rootWhere
  split
  next passes => rw [if_pos (wider node passes)]
  next => exact List.nil_sublist _

mutual

/-- The paths that pass a stricter test come in the same order. -/
theorem pathsWhere_sublist {wide : Node → Bool}
    (wider : ∀ node, test node = true → wide node = true) :
    ∀ node : Node, (node.pathsWhere test).Sublist (node.pathsWhere wide)
  | array items => by
    rw [pathsWhere, pathsWhere]
    exact (rootWhere_sublist wider _).append (pathsWhereItems_sublist wider items 0)
  | record fields => by
    rw [pathsWhere, pathsWhere]
    exact (rootWhere_sublist wider _).append (pathsWhereFields_sublist wider fields)
  | null | boolean _ | integer _ | number _ | string _ => by
    simpa only [pathsWhere] using rootWhere_sublist wider _

theorem pathsWhereItems_sublist {wide : Node → Bool}
    (wider : ∀ node, test node = true → wide node = true) :
    ∀ (items : List Node) (position : Nat),
      (pathsWhereItems test position items).Sublist (pathsWhereItems wide position items)
  | [], _ => .refl _
  | first :: rest, position =>
    .append ((pathsWhere_sublist wider first).map _)
      (pathsWhereItems_sublist wider rest (position + 1))

theorem pathsWhereFields_sublist {wide : Node → Bool}
    (wider : ∀ node, test node = true → wide node = true) :
    ∀ fields : List (String × Node),
      (pathsWhereFields test fields).Sublist (pathsWhereFields wide fields)
  | [] => .refl _
  | (_, value) :: rest =>
    .append ((pathsWhere_sublist wider value).map _) (pathsWhereFields_sublist wider rest)

end

end DocSchema.Node
