import DocSchema.Proofs.Coercion.Reshaping

/-!
# What is filled in

Required properties that a record lacks are filled in with their defaults or with least values, the
discriminator in first place and the others last, in the order in which they are required. Main
statement: `fillRequired_eq`.
-/

namespace DocSchema.Coercion

/-- The shape of a property; anything where none is declared. -/
def shapeOf (type : TypeSchema) (name : String) : Shape :=
  ((type.property? name).map Property.shape).getD .any

/-- The required names that no entry has. -/
def missing (required : List String) (fields : List (String × Node)) : List String :=
  required.filter fun name => !Keyed.contains fields name

/-- A property that is filled in. -/
def filledEntry (set : SchemaSet) (filling : List String) (type : TypeSchema) (name : String) :
    String × Node :=
  (name, ((type.property? name).bind Property.default).getD
    (emptyValue set filling (shapeOf type name)))

section Filling

variable {set : SchemaSet} {filling : List String} {type : TypeSchema}

/-- Of what is filled in the discriminator comes first and all else last. -/
def withFilled (set : SchemaSet) (filling : List String) (type : TypeSchema) (names : List String)
    (fields : List (String × Node)) : List (String × Node) :=
  (names.filter (· = Node.typeKey)).map (filledEntry set filling type) ++ fields ++
    (names.filter (· ≠ Node.typeKey)).map (filledEntry set filling type)

theorem mem_keys_withFilled_iff {names : List String} {fields : List (String × Node)}
    {name : String} :
    name ∈ Keyed.keys (withFilled set filling type names fields) ↔
      name ∈ names ∨ name ∈ Keyed.keys fields := by
  have bare : (filledEntry set filling type · |>.1) = id := rfl
  simp only [withFilled, Keyed.keys, List.map_append, List.map_map, Function.comp_def, bare,
    List.map_id, List.mem_append, List.mem_filter, decide_eq_true_eq]
  by_cases first : name = Node.typeKey <;> simp [first, or_comm]

theorem addFilled_of_absent {fields : Keyed Node} {name : String}
    (absent : name ∉ Keyed.keys fields) (value : Node) :
    addFilled fields name value =
      if name = Node.typeKey then (name, value) :: fields else fields ++ [(name, value)] := by
  unfold addFilled
  split
  next => rw [Keyed.insertFirst, Keyed.erase_of_absent absent]
  next => exact Keyed.insert_of_absent absent value

/-- Adding an entry under another name leaves what is missing. -/
theorem missing_congr {required : List String} {fields others : Keyed Node}
    (same : ∀ name ∈ required, name ∈ Keyed.keys fields ↔ name ∈ Keyed.keys others) :
    missing required fields = missing required others := by
  refine List.filter_congr fun name listed => ?_
  rw [Bool.eq_iff_iff]
  simp only [Bool.not_eq_true', ← Bool.not_eq_true, Keyed.contains_iff, same name listed]

theorem fillRequired_absent {name : String} {rest : List String} {fields : Keyed Node}
    (declared : (type.property? name).isSome = true)
    (absent : Keyed.contains fields name = false) :
    fillRequired set filling type (name :: rest) fields =
      fillRequired set filling type rest
        (addFilled fields name (filledEntry set filling type name).2) := by
  obtain ⟨property, declares⟩ := Option.isSome_iff_exists.mp declared
  rw [fillRequired, if_neg (by simp [absent])]
  cases given : property.default <;> simp [declares, given, filledEntry, shapeOf]

/-- What is required and absent is filled in, in the order in which it is required. -/
theorem fillRequired_eq {required : List String} (nodup : required.Nodup)
    (declared : ∀ name ∈ required, (type.property? name).isSome = true) (fields : Keyed Node) :
    fillRequired set filling type required fields =
      withFilled set filling type (missing required fields) fields := by
  induction required generalizing fields with
  | nil => simp [fillRequired, withFilled, missing]
  | cons name rest ih =>
    obtain ⟨fresh, nodup⟩ := List.nodup_cons.mp nodup
    have later := ih nodup fun other member => declared other (List.mem_cons_of_mem _ member)
    cases present : Keyed.contains fields name with
    | true =>
      rw [fillRequired, if_pos present, later, missing, missing,
        List.filter_cons_of_neg (by simp [present])]
    | false =>
      have outside : name ∉ Keyed.keys fields := by simp [← Keyed.contains_iff, present]
      have added : missing (name :: rest) fields = name :: missing rest fields :=
        List.filter_cons_of_pos (by simp [present])
      -- What is filled in is not required again, so nothing else ceases to be missing.
      have left : missing rest (addFilled fields name (filledEntry set filling type name).2) =
          missing rest fields := by
        refine missing_congr fun other listed => ?_
        have differs : other ≠ name := fun same => fresh (same ▸ listed)
        rw [addFilled_of_absent outside]
        split <;> simp [Keyed.keys, differs]
      rw [fillRequired_absent (declared name List.mem_cons_self) present, later, left, added,
        addFilled_of_absent outside]
      by_cases first : name = Node.typeKey
      · -- The discriminator is required once, so nothing else comes before it.
        have none : (missing rest fields).filter (· = Node.typeKey) = [] := by
          simp only [List.filter_eq_nil_iff, decide_eq_true_eq]
          intro other member same
          exact fresh (first ▸ same ▸ (List.mem_filter.mp member).1)
        simp [withFilled, first, none, filledEntry]
      · simp [withFilled, first, filledEntry]

/-- All that is required is there in the end. -/
theorem mem_keys_fillRequired {required : List String} (nodup : required.Nodup)
    (declared : ∀ name ∈ required, (type.property? name).isSome = true) (fields : Keyed Node)
    {name : String} (listed : name ∈ required) :
    name ∈ Keyed.keys (fillRequired set filling type required fields) := by
  rw [fillRequired_eq nodup declared, mem_keys_withFilled_iff]
  by_cases present : Keyed.contains fields name = true
  · exact .inr (Keyed.contains_iff.mp present)
  · exact .inl (List.mem_filter.mpr ⟨listed, by simp [present]⟩)

end Filling

end DocSchema.Coercion
