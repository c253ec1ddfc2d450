import DocSchema.Node.Basic
import DocSchema.Proofs.Double.Whole
import Mathlib.Data.List.Perm.Subperm

/-!
# Equality of values

Equal arrays have equal items at every position, and equal records with distinct keys have equal
values under every key. Equality is transitive, and symmetric where keys are distinct, as they are
in every tree that is read. It is not reflexive: what is not a number equals nothing. Main
statements: `equals_array_iff`, `equals_record_iff`, `equals_trans` and `equals_symm`.
-/

namespace DocSchema

/-! ### Equal numbers -/

namespace Double

theorem units_of_isZero {number : Double} (zero : number.isZero = true) : number.units = 0 := by
  have none : number.magnitude = 0 := by simpa [isZero] using zero
  simp [units, absoluteUnits, significand, none]

theorem isFinite_of_isZero {number : Double} (zero : number.isZero = true) :
    number.isFinite = true := by
  have none : number.magnitude = 0 := by simpa [isZero] using zero
  simp [isFinite, none, infiniteMagnitude]

/-- Equal numbers are one number or the two zeros. -/
theorem eq_or_isZero_of_equals {left right : Double} (alike : left.equals right = true) :
    left = right ∨ left.isZero = true ∧ right.isZero = true := by
  obtain ⟨word⟩ := left
  obtain ⟨other⟩ := right
  simp only [equals, Bool.and_eq_true, Bool.or_eq_true, beq_iff_eq] at alike
  exact alike.2.imp_left fun same => by rw [same]

theorem isFinite_of_equals {left right : Double} (alike : left.equals right = true) :
    left.isFinite = right.isFinite := by
  rcases eq_or_isZero_of_equals alike with rfl | ⟨zero, also⟩
  · rfl
  · rw [isFinite_of_isZero zero, isFinite_of_isZero also]

theorem isIntegral_of_equals {left right : Double} (alike : left.equals right = true) :
    left.isIntegral = right.isIntegral := by
  rcases eq_or_isZero_of_equals alike with rfl | ⟨zero, also⟩
  · rfl
  · simp only [isIntegral, toInt64?, isFinite_of_isZero zero, isFinite_of_isZero also,
      units_of_isZero zero, units_of_isZero also]

end Double

/-! ### Values that may be missing -/

section Related

variable {α : Type} {related : α → α → Prop} {left right : Option α}

theorem rel_swap {back : α → α → Prop} (rel : Option.Rel related left right)
    (each : ∀ value other, left = some value → related value other → back other value) :
    Option.Rel back right left := by
  cases rel with
  | some here => exact .some (each _ _ rfl here)
  | none => exact .none

theorem rel_trans {last : Option α} (start : Option.Rel related left right)
    (next : Option.Rel related right last)
    (each : ∀ value other final, left = some value → related value other →
      related other final → related value final) : Option.Rel related left last := by
  cases start with
  | some here =>
    cases next with
    | some there => exact .some (each _ _ _ rfl here there)
  | none =>
    cases next with
    | none => exact .none

theorem eq_none_iff_of_rel (rel : Option.Rel related left right) : left = none ↔ right = none := by
  cases rel <;> simp

theorem exists_of_rel (rel : Option.Rel related left right) {value : α}
    (found : left = some value) : ∃ other, right = some other ∧ related value other := by
  cases rel with
  | some here =>
    cases found
    exact ⟨_, rfl, here⟩
  | none => cases found

theorem mem_keys_iff_of_rel {fields others : Keyed α} {key : String}
    (rel : Option.Rel related (Keyed.get? fields key) (Keyed.get? others key)) :
    key ∈ Keyed.keys fields ↔ key ∈ Keyed.keys others := by
  rw [← not_iff_not, ← Keyed.get?_eq_none_iff, ← Keyed.get?_eq_none_iff]
  exact eq_none_iff_of_rel rel

/-- What holds alike of related values holds alike of those there are. -/
theorem forall_iff_of_rel {holds also : α → Prop} (rel : Option.Rel related left right)
    (same : ∀ value other, left = some value → related value other →
      (holds value ↔ also other)) :
    (∀ value, left = some value → holds value) ↔ ∀ other, right = some other → also other := by
  cases rel with
  | some here => simpa using same _ _ rfl here
  | none => simp

end Related

namespace Node

/-! ### Induction over parts -/

/-- What follows for a value from its items or from the values of its fields holds of every
value. -/
@[elab_as_elim]
theorem parts_induction {motive : Node → Prop} (null : motive .null)
    (boolean : ∀ value, motive (.boolean value)) (integer : ∀ value, motive (.integer value))
    (number : ∀ value, motive (.number value)) (string : ∀ text, motive (.string text))
    (array : ∀ items, (∀ item ∈ items, motive item) → motive (.array items))
    (record : ∀ fields, (∀ key value, (key, value) ∈ fields → motive value) →
      motive (.record fields))
    (node : Node) : motive node := by
  match node with
  | .null => exact null
  | .boolean value => exact boolean value
  | .integer value => exact integer value
  | .number value => exact number value
  | .string text => exact string text
  | .array items =>
    exact array items fun item member =>
      parts_induction null boolean integer number string array record item
  | .record fields =>
    exact record fields fun key value member =>
      parts_induction null boolean integer number string array record value
termination_by node.weight
decreasing_by
  · have smaller := weight_lt_of_mem_items member
    simp only [weight]
    omega
  · have smaller := weight_lt_of_mem_fields member
    simp only [weight]
    omega

/-! ### Values without parts -/

theorem equals_null_iff {node : Node} : null.equals node = true ↔ null = node := by
  cases node <;> simp [equals]

theorem equals_boolean_iff {value : Bool} {node : Node} :
    (boolean value).equals node = true ↔ boolean value = node := by
  cases node <;> simp [equals]

theorem equals_integer_iff {value : Int64} {node : Node} :
    (integer value).equals node = true ↔ integer value = node := by
  cases node <;> simp [equals]

theorem equals_number_iff {value : Double} {node : Node} :
    (number value).equals node = true ↔
      ∃ other, node = number other ∧ value.equals other = true := by
  cases node <;> simp [equals]

theorem equals_string_iff {text : String} {node : Node} :
    (string text).equals node = true ↔ string text = node := by
  cases node <;> simp [equals]

/-! ### Arrays -/

theorem equalsItems_iff {items others : List Node} :
    equalsItems items others = true ↔
      ∀ position : Nat, Option.Rel (·.equals · = true) items[position]? others[position]? := by
  induction items generalizing others with
  | nil =>
    cases others with
    | nil => simp [equalsItems]
    | cons other rest =>
      simp only [equalsItems, Bool.false_eq_true, false_iff]
      intro all
      have first := all 0
      cases first
  | cons item rest ih =>
    cases others with
    | nil =>
      simp only [equalsItems, Bool.false_eq_true, false_iff]
      intro all
      have first := all 0
      cases first
    | cons other others =>
      rw [equalsItems, Bool.and_eq_true, ih]
      constructor
      · rintro ⟨here, later⟩ position
        cases position with
        | zero => exact .some here
        | succ position => simpa using later position
      · intro all
        exact ⟨by simpa using all 0, fun position => by simpa using all (position + 1)⟩

/-- Arrays are equal if their items are, position by position. -/
theorem equals_array_iff {items : List Node} {node : Node} :
    (array items).equals node = true ↔ ∃ others, node = array others ∧
      ∀ position : Nat, Option.Rel (·.equals · = true) items[position]? others[position]? := by
  cases node with
  | array others => simp only [equals, equalsItems_iff, array.injEq, exists_eq_left']
  | _ => simp [equals]

/-! ### Records -/

theorem equalsFields_iff {fields others : Keyed Node} :
    equalsFields fields others = true ↔ ∀ key value, (key, value) ∈ fields →
      ∃ other, Keyed.get? others key = some other ∧ value.equals other = true := by
  induction fields with
  | nil => simp [equalsFields]
  | cons field rest ih =>
    obtain ⟨name, inner⟩ := field
    have step : equalsFields ((name, inner) :: rest) others = true ↔
        (∃ other, Keyed.get? others name = some other ∧ inner.equals other = true) ∧
          equalsFields rest others = true := by
      rw [equalsFields, Bool.and_eq_true]
      cases Keyed.get? others name <;> simp
    rw [step, ih]
    constructor
    · rintro ⟨first, later⟩ key value member
      rcases List.mem_cons.mp member with same | member
      · cases same
        exact first
      · exact later key value member
    · intro all
      exact ⟨all name inner List.mem_cons_self,
        fun key value member => all key value (List.mem_cons_of_mem _ member)⟩

/-- Records are equal if there are as many fields in both and every field has its equal under the
same key. -/
theorem equals_record_iff {fields : Keyed Node} {node : Node} :
    (record fields).equals node = true ↔ ∃ others, node = record others ∧
      fields.length = others.length ∧ ∀ key value, (key, value) ∈ fields →
        ∃ other, Keyed.get? others key = some other ∧ value.equals other = true := by
  cases node with
  | record others =>
    simp only [equals, Bool.and_eq_true, beq_iff_eq, equalsFields_iff, record.injEq,
      exists_eq_left']
  | _ => simp [equals]

/-- Records with distinct keys are equal if their values are, key by key. -/
theorem equals_record_iff_of_distinct {fields : Keyed Node} (distinct : Keyed.Distinct fields)
    {node : Node} :
    (record fields).equals node = true ↔
      ∃ others, node = record others ∧ Keyed.Distinct others ∧
        ∀ key, Option.Rel (·.equals · = true) (Keyed.get? fields key) (Keyed.get? others key) := by
  rw [equals_record_iff]
  refine exists_congr fun others => and_congr_right fun _ => ?_
  constructor
  · rintro ⟨length, each⟩
    have within : Keyed.keys fields ⊆ Keyed.keys others := by
      intro key member
      obtain ⟨value, found⟩ := Keyed.mem_keys_iff.mp member
      obtain ⟨other, present, _⟩ := each key value (Keyed.mem_of_get? found)
      exact Keyed.mem_keys_iff.mpr ⟨other, present⟩
    -- No key of the other record is left over, since it has no more of them.
    have perm : (Keyed.keys fields).Perm (Keyed.keys others) :=
      (List.subperm_of_subset distinct within).perm_of_length_le (by simp [Keyed.keys, length])
    refine ⟨perm.nodup_iff.mp distinct, fun key => ?_⟩
    cases found : Keyed.get? fields key with
    | some value =>
      obtain ⟨other, present, alike⟩ := each key value (Keyed.mem_of_get? found)
      rw [present]
      exact .some alike
    | none =>
      rw [Keyed.get?_eq_none_iff, perm.mem_iff, ← Keyed.get?_eq_none_iff] at found
      rw [found]
      exact .none
  · rintro ⟨also, each⟩
    have perm := (List.perm_ext_iff_of_nodup distinct also).mpr fun key =>
      mem_keys_iff_of_rel (each key)
    refine ⟨by simpa [Keyed.keys] using perm.length_eq, fun key value member => ?_⟩
    exact exists_of_rel (each key) ((Keyed.get?_eq_some_iff distinct).mpr member)

/-! ### Laws -/

theorem equals_trans {first second third : Node} (start : first.equals second = true)
    (next : second.equals third = true) : first.equals third = true := by
  induction first using parts_induction generalizing second third with
  | null =>
    obtain rfl := equals_null_iff.mp start
    exact next
  | boolean value =>
    obtain rfl := equals_boolean_iff.mp start
    exact next
  | integer value =>
    obtain rfl := equals_integer_iff.mp start
    exact next
  | number value =>
    obtain ⟨other, rfl, before⟩ := equals_number_iff.mp start
    obtain ⟨last, rfl, after⟩ := equals_number_iff.mp next
    exact equals_number_iff.mpr ⟨last, rfl, Double.equals_trans before after⟩
  | string text =>
    obtain rfl := equals_string_iff.mp start
    exact next
  | array items ih =>
    obtain ⟨middle, rfl, before⟩ := equals_array_iff.mp start
    obtain ⟨last, rfl, after⟩ := equals_array_iff.mp next
    refine equals_array_iff.mpr ⟨last, rfl, fun position => ?_⟩
    exact rel_trans (before position) (after position) fun item other final found =>
      ih item (List.mem_of_getElem? found)
  | record fields ih =>
    -- Here keys may be repeated: a literal of a schema need not come from a tree that was read.
    obtain ⟨middle, rfl, length, before⟩ := equals_record_iff.mp start
    obtain ⟨last, rfl, also, after⟩ := equals_record_iff.mp next
    refine equals_record_iff.mpr ⟨last, rfl, length.trans also, fun key value member => ?_⟩
    obtain ⟨other, found, here⟩ := before key value member
    obtain ⟨final, present, there⟩ := after key other (Keyed.mem_of_get? found)
    exact ⟨final, present, ih key value member here there⟩

theorem equals_symm {left right : Node} (distinct : left.distinctKeys = true)
    (alike : left.equals right = true) : right.equals left = true := by
  induction left using parts_induction generalizing right with
  | null =>
    obtain rfl := equals_null_iff.mp alike
    exact alike
  | boolean value =>
    obtain rfl := equals_boolean_iff.mp alike
    exact alike
  | integer value =>
    obtain rfl := equals_integer_iff.mp alike
    exact alike
  | number value =>
    obtain ⟨other, rfl, same⟩ := equals_number_iff.mp alike
    exact equals_number_iff.mpr ⟨value, rfl, (Double.equals_comm other value).trans same⟩
  | string text =>
    obtain rfl := equals_string_iff.mp alike
    exact alike
  | array items ih =>
    obtain ⟨others, rfl, each⟩ := equals_array_iff.mp alike
    refine equals_array_iff.mpr ⟨items, rfl, fun position => ?_⟩
    refine rel_swap (each position) fun item other found => ?_
    have member := List.mem_of_getElem? found
    exact ih item member (distinctKeys_array_iff.mp distinct item member)
  | record fields ih =>
    obtain ⟨single, inside⟩ := distinctKeys_record_iff.mp distinct
    obtain ⟨others, rfl, also, each⟩ := (equals_record_iff_of_distinct single).mp alike
    refine (equals_record_iff_of_distinct also).mpr ⟨fields, rfl, single, fun key => ?_⟩
    refine rel_swap (each key) fun value other found => ?_
    have member := Keyed.mem_of_get? found
    exact ih key value member (inside key value member)

end Node

end DocSchema
