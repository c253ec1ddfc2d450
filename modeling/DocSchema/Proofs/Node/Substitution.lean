import DocSchema.Proofs.Node.Preorder

/-!
# Replacing values at several paths

Replacing values one after another at paths of which none lies within another comes to the same as
replacing them all at once, and then every other value, the order of keys and the length of arrays
are as they were. Main statement: `Node.replace_substitute`.
-/

namespace DocSchema

/-- Whether neither of two paths leads on from the other. -/
def Path.Apart (left right : Path) : Prop := ¬left <+: right ∧ ¬right <+: left

theorem Path.Apart.symm {left right : Path} (apart : left.Apart right) : right.Apart left :=
  ⟨apart.2, apart.1⟩

namespace Node

/-! ### Replacing at once -/

mutual

/-- The tree with other values at some paths. A value that is replaced is not looked into. -/
def substitute (replacement : Path → Option Node) (node : Node) : Node :=
  match replacement [] with
  | some value => value
  | none =>
    match node with
    | array items => array (substituteItems replacement 0 items)
    | record fields => record (substituteFields replacement fields)
    | other => other

/-- The same for the items of an array, the first of them at `position`. -/
def substituteItems (replacement : Path → Option Node) (position : Nat) : List Node → List Node
  | [] => []
  | item :: rest =>
    item.substitute (fun below => replacement (.index position :: below))
      :: substituteItems replacement (position + 1) rest

/-- The same for the fields of a record. -/
def substituteFields (replacement : Path → Option Node) :
    List (String × Node) → List (String × Node)
  | [] => []
  | (key, value) :: rest =>
    (key, value.substitute fun below => replacement (.property key :: below))
      :: substituteFields replacement rest

end

variable {replacement other : Path → Option Node} {node : Node}

theorem substitute_of_some {value : Node} (here : replacement [] = some value) (node : Node) :
    node.substitute replacement = value := by
  cases node <;> simp [substitute, here]

theorem substitute_array (root : replacement [] = none) (items : List Node) :
    (array items).substitute replacement = array (substituteItems replacement 0 items) := by
  simp [substitute, root]

theorem substitute_record (root : replacement [] = none) (fields : List (String × Node)) :
    (record fields).substitute replacement = record (substituteFields replacement fields) := by
  simp [substitute, root]

mutual

/-- Where nothing is replaced, the tree is as it was. -/
theorem substitute_none : ∀ node : Node, node.substitute (fun _ => none) = node
  | array items => by rw [substitute_array rfl, substituteItems_none]
  | record fields => by rw [substitute_record rfl, substituteFields_none]
  | null | boolean _ | integer _ | number _ | string _ => rfl

theorem substituteItems_none :
    ∀ (position : Nat) (items : List Node), substituteItems (fun _ => none) position items = items
  | _, [] => rfl
  | position, item :: rest => by
    rw [substituteItems, substitute_none item, substituteItems_none (position + 1) rest]

theorem substituteFields_none :
    ∀ fields : List (String × Node), substituteFields (fun _ => none) fields = fields
  | [] => rfl
  | (key, value) :: rest => by
    rw [substituteFields, substitute_none value, substituteFields_none rest]

end

/-! ### Outlines -/

/-- Whether two values are the same but for what the items or fields hold. -/
def SameOutline : Node → Node → Prop
  | array items, array others => items.length = others.length
  | record fields, record others => Keyed.keys fields = Keyed.keys others
  | value, other => value = other

theorem length_substituteItems (replacement : Path → Option Node) (position : Nat)
    (items : List Node) : (substituteItems replacement position items).length = items.length := by
  induction items generalizing position with
  | nil => rfl
  | cons item rest ih => rw [substituteItems, List.length_cons, ih, List.length_cons]

theorem keys_substituteFields (replacement : Path → Option Node) (fields : List (String × Node)) :
    Keyed.keys (substituteFields replacement fields) = Keyed.keys fields := by
  induction fields with
  | nil => rfl
  | cons field rest ih => exact congrArg (field.1 :: ·) ih

/-- A value that is not replaced itself keeps its outline. -/
theorem sameOutline_substitute (root : replacement [] = none) (node : Node) :
    node.SameOutline (node.substitute replacement) := by
  cases node with
  | array items =>
    rw [substitute_array root]
    exact (length_substituteItems replacement 0 items).symm
  | record fields =>
    rw [substitute_record root]
    exact (keys_substituteFields replacement fields).symm
  | _ => simp [substitute, root, SameOutline]

/-! ### The values at paths -/

theorem getElem?_substituteItems (replacement : Path → Option Node) (position : Nat)
    (items : List Node) (index : Nat) :
    (substituteItems replacement position items)[index]? =
      items[index]?.map (·.substitute fun below =>
        replacement (.index (position + index) :: below)) := by
  induction items generalizing position index with
  | nil => simp [substituteItems]
  | cons item rest ih =>
    rw [substituteItems]
    cases index with
    | zero => simp
    | succ index => simp [ih, Nat.add_assoc, Nat.add_comm 1]

theorem get?_substituteFields (replacement : Path → Option Node) (fields : List (String × Node))
    (key : String) :
    Keyed.get? (substituteFields replacement fields) key =
      (Keyed.get? fields key).map (·.substitute fun below =>
        replacement (.property key :: below)) := by
  induction fields with
  | nil => rfl
  | cons field rest ih =>
    obtain ⟨present, value⟩ := field
    rw [substituteFields, Keyed.get?, Keyed.get?, ih]
    split
    next same => rw [same, Option.map_some]
    next => rfl

theorem child?_substitute (root : replacement [] = none) (node : Node) (segment : Segment) :
    (node.substitute replacement).child? segment =
      (node.child? segment).map (·.substitute fun below => replacement (segment :: below)) := by
  cases node with
  | array items =>
    rw [substitute_array root]
    cases segment with
    | property name => rfl
    | index position => simp [child?, getElem?_substituteItems]
  | record fields =>
    rw [substitute_record root]
    cases segment with
    | property name => exact get?_substituteFields replacement fields name
    | index position => rfl
  | _ => simp [substitute, root, child?]

/-- What stands at a path is what stood there, with what is replaced within it. -/
theorem get?_substitute (path : Path)
    (above : ∀ upper lower, upper ++ lower = path → lower ≠ [] → replacement upper = none) :
    (node.substitute replacement).get? path =
      (node.get? path).map (·.substitute fun below => replacement (path ++ below)) := by
  induction path generalizing node replacement with
  | nil => rfl
  | cons segment rest ih =>
    have root : replacement [] = none := above [] (segment :: rest) rfl (by simp)
    rw [get?, get?, child?_substitute root]
    cases node.child? segment with
    | none => rfl
    | some child =>
      refine ih fun upper lower same more => above (segment :: upper) lower ?_ more
      rw [List.cons_append, same]

/-! ### Replacing one after another -/

theorem substituteItems_congr {position : Nat} {items : List Node}
    (same : ∀ place, position ≤ place → ∀ below,
      replacement (.index place :: below) = other (.index place :: below)) :
    substituteItems replacement position items = substituteItems other position items := by
  induction items generalizing position with
  | nil => rfl
  | cons item rest ih =>
    have here := funext (same position (Nat.le_refl position))
    rw [substituteItems, substituteItems, here,
      ih fun place later => same place (Nat.le_of_succ_le later)]

theorem substituteFields_congr {fields : List (String × Node)}
    (same : ∀ key ∈ Keyed.keys fields, ∀ below,
      replacement (.property key :: below) = other (.property key :: below)) :
    substituteFields replacement fields = substituteFields other fields := by
  induction fields with
  | nil => rfl
  | cons field rest ih =>
    have here := funext (same field.1 List.mem_cons_self)
    rw [substituteFields, substituteFields, here,
      ih fun key member => same key (List.mem_cons_of_mem _ member)]

/-- Setting one item is replacing within that item. -/
theorem set_substituteItems {position index place : Nat} {items : List Node} {item : Node}
    (sum : position + index = place) (found : items[index]? = some item)
    (same : ∀ sibling, sibling ≠ place → ∀ below,
      replacement (.index sibling :: below) = other (.index sibling :: below)) :
    (substituteItems replacement position items).set index
        (item.substitute fun below => other (.index place :: below)) =
      substituteItems other position items := by
  induction items generalizing position index with
  | nil => cases found
  | cons first rest ih =>
    rw [substituteItems, substituteItems]
    cases index with
    | zero =>
      cases found
      cases sum
      rw [List.set_cons_zero, substituteItems_congr fun place later => same place (by omega)]
      rfl
    | succ index =>
      have here := funext (same position (by omega))
      rw [List.set_cons_succ, here, ih (by omega) found]

/-- Inserting under a key that is there is replacing within that field. -/
theorem insert_substituteFields {fields : List (String × Node)} {key : String} {value : Node}
    (keys : Keyed.Distinct fields) (found : Keyed.get? fields key = some value)
    (same : ∀ name, name ≠ key → ∀ below,
      replacement (.property name :: below) = other (.property name :: below)) :
    Keyed.insert (substituteFields replacement fields) key
        (value.substitute fun below => other (.property key :: below)) =
      substituteFields other fields := by
  induction fields with
  | nil => cases found
  | cons field rest ih =>
    obtain ⟨present, first⟩ := field
    obtain ⟨fresh, others⟩ := List.nodup_cons.mp keys
    rw [substituteFields, substituteFields, Keyed.insert]
    rw [Keyed.get?] at found
    split
    next here =>
      subst here
      rw [if_pos rfl] at found
      cases found
      rw [substituteFields_congr fun name member => same name (ne_of_mem_of_not_mem member fresh)]
    next differs =>
      rw [if_neg differs] at found
      rw [ih others found, funext (same present differs)]

/-- Replacing the value one step down is replacing within that value. -/
theorem withChild_substitute {child : Node} {segment : Segment}
    (distinct : node.distinctKeys = true) (found : node.child? segment = some child)
    (root : replacement [] = none) (still : other [] = none)
    (same : ∀ sibling, sibling ≠ segment → ∀ below,
      replacement (sibling :: below) = other (sibling :: below)) :
    (node.substitute replacement).withChild segment
        (child.substitute fun below => other (segment :: below)) = node.substitute other := by
  cases node with
  | array items =>
    cases segment with
    | property name => cases found
    | index position =>
      rw [substitute_array root, substitute_array still, withChild,
        set_substituteItems (Nat.zero_add position) found
          fun sibling differs => same (.index sibling) (by simpa using differs)]
  | record fields =>
    cases segment with
    | property name =>
      rw [substitute_record root, substitute_record still, withChild,
        insert_substituteFields (distinctKeys_record_iff.mp distinct).1 found
          fun sibling differs => same (.property sibling) (by simpa using differs)]
    | index position => cases found
  | _ => cases found

theorem replaceBelow_substitute {path : Path} {old : Node} (distinct : node.distinctKeys = true)
    (found : node.get? path = some old)
    (apart : ∀ place, replacement place ≠ none → Path.Apart path place) (above : Path)
    (value : Node) :
    (node.substitute replacement).replaceBelow above path value = .ok (node.substitute fun place =>
      if place = path then some value else replacement place) := by
  induction path generalizing node replacement above with
  | nil => rw [replaceBelow, substitute_of_some (if_pos rfl)]
  | cons segment rest ih =>
    have root : replacement [] = none := by
      by_contra replaced
      exact (apart [] replaced).2 List.nil_prefix
    obtain ⟨child, down, further⟩ := Option.bind_eq_some_iff.mp found
    have below : ∀ place, replacement (segment :: place) ≠ none → Path.Apart rest place := by
      intro place replaced
      obtain ⟨here, there⟩ := apart (segment :: place) replaced
      exact ⟨fun inside => here (List.cons_prefix_cons.mpr ⟨rfl, inside⟩),
        fun inside => there (List.cons_prefix_cons.mpr ⟨rfl, inside⟩)⟩
    -- The child is replaced by what the wider replacement makes of it, its siblings not at all.
    have inside := ih (distinctKeys_child distinct down) further below (above ++ [segment])
    let wider (place : Path) := if place = segment :: rest then some value else replacement place
    have narrowed : (fun place => if place = rest then some value else
        replacement (segment :: place)) = fun place => wider (segment :: place) := by
      funext place
      simp [wider]
    have siblings : ∀ sibling, sibling ≠ segment → ∀ below,
        replacement (sibling :: below) = wider (sibling :: below) := by
      intro sibling differs below
      simp [wider, differs]
    rw [narrowed] at inside
    rw [replaceBelow, child?_substitute root, down, Option.map_some]
    simp only [inside]
    exact congrArg Except.ok
      (withChild_substitute distinct down root (by simp [wider, root]) siblings)

/-- A value that stands apart from all those replaced so far is replaced along with them. -/
theorem replace_substitute {path : Path} {old : Node} (distinct : node.distinctKeys = true)
    (found : node.get? path = some old)
    (apart : ∀ place, replacement place ≠ none → Path.Apart path place) (value : Node) :
    (node.substitute replacement).replace path value =
      .ok (node.substitute fun place => if place = path then some value else replacement place) :=
  replaceBelow_substitute distinct found apart [] value

end Node

end DocSchema
