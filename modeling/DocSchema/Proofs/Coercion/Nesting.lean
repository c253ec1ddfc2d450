import DocSchema.Coercion.Tree
import DocSchema.Proofs.Coercion.Reshaping

/-!
# Records inside records

Reshaping puts values into arrays, drops some and fills in others. If no records are filled in,
it nests records no deeper than they were. Main statement: `nesting_reshape`.
-/

namespace DocSchema

/-! ### Nesting -/

namespace Node

mutual

/-- How many records stand one inside the other. -/
def nesting : Node → Nat
  | array items => nestingItems items
  | record fields => nestingFields fields + 1
  | _ => 0

def nestingItems : List Node → Nat
  | [] => 0
  | item :: rest => max item.nesting (nestingItems rest)

def nestingFields : List (String × Node) → Nat
  | [] => 0
  | (_, value) :: rest => max value.nesting (nestingFields rest)

end

theorem nestingItems_le_iff {items : List Node} {bound : Nat} :
    nestingItems items ≤ bound ↔ ∀ item ∈ items, item.nesting ≤ bound := by
  induction items with
  | nil => simp [nestingItems]
  | cons item rest ih => rw [nestingItems, Nat.max_le, ih, List.forall_mem_cons]

theorem nestingFields_le_iff {fields : List (String × Node)} {bound : Nat} :
    nestingFields fields ≤ bound ↔ ∀ key value, (key, value) ∈ fields → value.nesting ≤ bound := by
  induction fields with
  | nil => simp [nestingFields]
  | cons field rest ih =>
    obtain ⟨name, value⟩ := field
    simp only [nestingFields, Nat.max_le, ih, List.mem_cons, Prod.mk.injEq]
    constructor
    · rintro ⟨here, later⟩ key inner (⟨_, rfl⟩ | member)
      · exact here
      · exact later key inner member
    · intro all
      exact ⟨all name value (.inl ⟨rfl, rfl⟩), fun key inner member => all key inner (.inr member)⟩

theorem nesting_le_of_mem_items {items : List Node} {item : Node} (member : item ∈ items) :
    item.nesting ≤ (array items).nesting := by
  rw [nesting]
  exact nestingItems_le_iff.mp (Nat.le_refl _) item member

theorem nesting_lt_of_mem_fields {fields : List (String × Node)} {key : String} {value : Node}
    (member : (key, value) ∈ fields) : value.nesting < (record fields).nesting := by
  rw [nesting]
  exact Nat.lt_succ_of_le (nestingFields_le_iff.mp (Nat.le_refl _) key value member)

end Node

/-- Whether the required properties of all types are filled in with values that contain no
records. -/
def SchemaSet.FillsPlainly (set : SchemaSet) : Prop :=
  ∀ name type key property, set.recordType? name = some type → key ∈ type.schema.required →
    type.schema.property? key = some property →
    (property.default.getD (Coercion.emptyValue set [] property.shape)).nesting = 0

namespace Coercion

variable {set : SchemaSet}

/-! ### Records -/

theorem nesting_fixCardinality {name : String} {value fixed : Node} {shape : Shape} {path : Path}
    (kept : (fixCardinality set name value shape path).value = some fixed) :
    fixed.nesting ≤ value.nesting := by
  rcases fixCardinality_cases kept with rfl | rfl | ⟨items, rfl, member⟩
  · exact Nat.le_refl _
  · rw [Node.nesting, Node.nestingItems_le_iff]
    intro item member
    cases List.mem_singleton.mp member
    exact Nat.le_refl _
  · exact Node.nesting_le_of_mem_items member

theorem mem_of_mem_addFilled {fields : Keyed Node} {name key : String} {value inner : Node}
    (member : (key, inner) ∈ addFilled fields name value) :
    inner = value ∨ (key, inner) ∈ fields := by
  unfold addFilled at member
  split at member
  next =>
    rcases List.mem_cons.mp member with same | left
    · cases same
      exact .inl rfl
    · exact .inr (Keyed.mem_of_mem_erase left)
  next =>
    rcases Keyed.mem_of_mem_insert member with same | present
    · cases same
      exact .inl rfl
    · exact .inr present

theorem nesting_fillRequired {type : TypeSchema} {required : List String}
    (plain : ∀ key property, key ∈ required → type.property? key = some property →
      (property.default.getD (emptyValue set [] property.shape)).nesting = 0)
    (fields : Keyed Node) :
    Node.nestingFields (fillRequired set [] type required fields) ≤ Node.nestingFields fields := by
  induction required generalizing fields with
  | nil => exact Nat.le_of_eq (by rw [fillRequired])
  | cons name rest ih =>
    have later := ih fun key property member => plain key property (List.mem_cons_of_mem _ member)
    rw [fillRequired]
    split
    next => exact later fields
    next =>
      split
      next => exact later fields
      next property declares =>
        have flat := plain name property List.mem_cons_self declares
        refine Nat.le_trans (later _) (Node.nestingFields_le_iff.mpr fun key value member => ?_)
        -- What is filled in contains no records, so only what was there counts.
        rcases mem_of_mem_addFilled member with rfl | before
        · cases given : property.default with
          | some value => simp_all
          | none => simp_all
        · exact Node.nestingFields_le_iff.mp (Nat.le_refl _) key value before

/-! ### Parts -/

theorem nesting_itemsOf {node value : Node} (member : value ∈ itemsOf node) :
    value.nesting ≤ node.nesting := by
  cases node with
  | array values => exact Node.nesting_le_of_mem_items member
  | _ =>
    cases List.mem_singleton.mp member
    exact Nat.le_refl _

theorem nesting_unwrapSingleton (node : Node) : (unwrapSingleton node).nesting ≤ node.nesting := by
  unfold unwrapSingleton
  split
  next => exact Node.nesting_le_of_mem_items (List.mem_singleton_self _)
  next => exact Nat.le_refl _

/-! ### Trees -/

/-- If no records are filled in, reshaping does not nest records deeper. -/
theorem nesting_reshape (plain : set.FillsPlainly) (shape : Shape) (path : Path) (node : Node) :
    (reshape set shape path node).value.nesting ≤ node.nesting := by
  apply reshape_induction set (motive := fun _ node result => result.nesting ≤ node.nesting)
  · exact fun _ _ => Nat.le_refl _
  · intro shape values results related
    rw [Node.nesting, Node.nestingItems_le_iff]
    intro result member
    obtain ⟨value, listed, less⟩ := exists_of_mem_right related member
    exact Nat.le_trans less (Node.nesting_le_of_mem_items listed)
  -- A record that is put into an array is in no more records than before.
  · intro shape fields result less
    rw [Node.nesting, Node.nestingItems_le_iff]
    intro item member
    rw [List.mem_singleton.mp member]
    exact less
  · exact fun _ _ _ _ _ less => less
  · exact fun _ _ _ _ _ less => less
  · intro name target fields path shaped aimed _ each
    obtain ⟨other, known⟩ := recordTarget?_known aimed
    obtain ⟨_, _, only⟩ := canonicalize_distinct target.names path [] fields
    -- Every field was given under some name, and the repair of its cardinality adds no record.
    have kept : Node.nestingFields shaped ≤ Node.nestingFields fields := by
      refine Node.nestingFields_le_iff.mpr fun key result member => ?_
      obtain ⟨value, property, path, fixed, inside, _, kept, less⟩ := each key result member
      obtain ⟨name, given⟩ := only key value inside
      calc result.nesting
        _ ≤ fixed.nesting := less
        _ ≤ value.nesting := nesting_fixCardinality kept
        _ ≤ Node.nestingFields fields :=
          Node.nestingFields_le_iff.mp (Nat.le_refl _) name value given
    have filled := nesting_fillRequired (fun key property member declares =>
      plain other target key property known member declares) shaped
    exact Nat.succ_le_succ (Nat.le_trans filled kept)

end Coercion

end DocSchema
