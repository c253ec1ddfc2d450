import DocSchema.Proofs.Coercion.Reshaping

/-!
# Reshaping keeps keys distinct

Whatever keys a record was given under, after reshaping they are distinct, and so are those of
what is filled in. Main statement: `distinctKeys_reshape`.
-/

namespace DocSchema.Coercion

variable {set : SchemaSet}

/-! ### Cardinality -/

theorem distinctKeys_fixCardinality {name : String} {value fixed : Node} {shape : Shape}
    {path : Path} (distinct : value.distinctKeys = true)
    (kept : (fixCardinality set name value shape path).value = some fixed) :
    fixed.distinctKeys = true := by
  rcases fixCardinality_cases kept with rfl | rfl | ⟨items, rfl, member⟩
  · exact distinct
  · rw [Node.distinctKeys_array_iff]
    intro item member
    rw [List.mem_singleton.mp member]
    exact distinct
  · exact Node.distinctKeys_array_iff.mp distinct fixed member

/-! ### Defaults -/

/-- A property is filled in where it was absent, and what was there stays. -/
theorem addFilled_distinct {fields : Keyed Node} {name : String} {value : Node}
    (distinct : (Node.record fields).distinctKeys = true)
    (absent : Keyed.contains fields name = false) (fine : value.distinctKeys = true) :
    (Node.record (addFilled fields name value)).distinctKeys = true := by
  rw [Node.distinctKeys_record_iff] at distinct ⊢
  have missing : name ∉ Keyed.keys fields := by
    rw [← Keyed.get?_eq_none_iff]
    simpa [Keyed.contains] using absent
  unfold addFilled
  split
  next =>
    -- The discriminator is put in front of the other fields.
    rw [Keyed.insertFirst, Keyed.erase_of_absent missing]
    refine ⟨List.nodup_cons.mpr ⟨missing, distinct.1⟩, fun key inner member => ?_⟩
    rcases List.mem_cons.mp member with same | later
    · cases same
      exact fine
    · exact distinct.2 key inner later
  next =>
    refine ⟨Keyed.distinct_insert distinct.1 name value, fun key inner member => ?_⟩
    rcases Keyed.mem_of_mem_insert member with same | before
    · cases same
      exact fine
    · exact distinct.2 key inner before

/-- Whether the literal values that a shape lists are trees with distinct keys. -/
def ListsDistinct (shape : Shape) : Prop := ∀ value ∈ shape.literals, value.distinctKeys = true

/-- If least values have distinct keys, so has a record that they and defaults are filled into. -/
theorem distinctKeys_fillRequired (literals : set.DistinctLiterals)
    {filling : List String} {name : String} {type : CompiledType}
    (found : set.find? name = some type)
    (least : ∀ shape, ListsDistinct shape → (emptyValue set filling shape).distinctKeys = true)
    (required : List String) {fields : Keyed Node}
    (distinct : (Node.record fields).distinctKeys = true) :
    (Node.record (fillRequired set filling type.schema required fields)).distinctKeys = true := by
  induction required generalizing fields with
  | nil =>
    rw [fillRequired]
    exact distinct
  | cons key rest ih =>
    rw [fillRequired]
    split
    next => exact ih distinct
    next absent =>
      split
      next => exact ih distinct
      next property declares =>
        have fine := literals name type key property found declares
        apply ih
        apply addFilled_distinct distinct (by simpa using absent)
        split
        next value given =>
          exact fine value (List.mem_append_left _ (Option.mem_toList.mpr given))
        next =>
          exact least property.shape fun value listed => fine value (List.mem_append_right _ listed)

/-- The induction is on the number of types that are not being filled in yet. -/
theorem distinctKeys_emptyValue (literals : set.DistinctLiterals)
    (filling : List String) (shape : Shape) (lists : ListsDistinct shape) :
    (emptyValue set filling shape).distinctKeys = true := by
  induction count : remaining set filling using Nat.strongRecOn
    generalizing filling shape with
  | ind count ih =>
    cases shape with
    | scalar kind => cases kind <;> rw [emptyValue] <;> rfl
    | enum values =>
      rw [emptyValue]
      cases values with
      | nil => rfl
      | cons first rest => exact lists first List.mem_cons_self
    | ref name =>
      rw [emptyValue]
      split
      next => rfl
      next type known =>
        split
        next fresh =>
          -- What is filled in below this type cannot fill in the type once more.
          have fewer := remaining_lt known fresh
          apply distinctKeys_fillRequired literals (SchemaSet.recordType?_eq_some_iff.mp known).1
          · intro shape lists
            exact ih _ (count ▸ fewer) (name :: filling) shape lists rfl
          · exact Node.distinctKeys_record_iff.mpr ⟨Keyed.distinct_nil, by simp⟩
        next => rfl
    | _ => rw [emptyValue]; rfl

/-! ### Trees -/

theorem distinctKeys_reshape (literals : set.DistinctLiterals) (shape : Shape) (path : Path)
    {node : Node} (distinct : node.distinctKeys = true) :
    (reshape set shape path node).value.distinctKeys = true := by
  have kept : node.distinctKeys = true →
      (reshape set shape path node).value.distinctKeys = true := by
    apply reshape_induction set (motive := fun _ node result =>
      node.distinctKeys = true → result.distinctKeys = true)
    · exact fun _ _ distinct => distinct
    · intro shape values results related distinct
      rw [Node.distinctKeys_array_iff] at distinct ⊢
      intro result member
      obtain ⟨value, listed, made⟩ := exists_of_mem_right related member
      exact made (distinct value listed)
    · intro shape fields result made distinct
      rw [Node.distinctKeys_array_iff]
      intro item member
      rw [List.mem_singleton.mp member]
      exact made distinct
    · exact fun _ _ _ _ _ made => made
    · exact fun _ _ _ _ _ made => made
    -- The names are distinct as they come out of the first loop, and what is filled in was missing.
    · intro name target fields path shaped aimed shapedDistinct each distinct
      obtain ⟨other, known⟩ := recordTarget?_known aimed
      obtain ⟨_, _, only⟩ := canonicalize_distinct target.names path [] fields
      rw [Node.distinctKeys_record_iff] at distinct
      apply distinctKeys_fillRequired literals (SchemaSet.recordType?_eq_some_iff.mp known).1
      · exact fun shape lists => distinctKeys_emptyValue literals [] shape lists
      · refine Node.distinctKeys_record_iff.mpr ⟨shapedDistinct, fun key result member => ?_⟩
        obtain ⟨value, property, path, fixed, inside, _, kept, made⟩ := each key result member
        obtain ⟨name, given⟩ := only key value inside
        exact made (distinctKeys_fixCardinality (distinct.2 name value given) kept)
  exact kept distinct

end DocSchema.Coercion
