import DocSchema.Proofs.Coercion.Unwrapping

/-!
# How properties are spelled

A property may be given under its name, an alias, or anything that normalizes like one of these.
Which of them is written makes no difference for what a record is coerced to. It shows in one place
only: the warning of a property that was given before shows the key as it was written. Main
statement: `coerceTree_respelled`.
-/

namespace DocSchema.Coercion

variable {set : SchemaSet} {name : String} {type : CompiledType} {before after : Keyed Node}
  {key other property : String} {value : Node} {path : Path}

/-! ### What is told -/

/-- Warnings that are the same, or differ in the key of one property that was given before. -/
inductive Retold (key other property : String) (path : Path) :
    List Warning → List Warning → Prop where
  | same (warnings : List Warning) : Retold key other property path warnings warnings
  | dropped (earlier later : List Warning) :
      Retold key other property path (earlier ++ .duplicateProperty key property path :: later)
        (earlier ++ .duplicateProperty other property path :: later)

theorem Retold.append {left right : List Warning}
    (retold : Retold key other property path left right) (last : List Warning) :
    Retold key other property path (left ++ last) (right ++ last) := by
  cases retold with
  | same => exact .same _
  | dropped earlier later =>
    simp only [List.append_assoc, List.cons_append]
    exact .dropped earlier (later ++ last)

/-- A reshaped value that is the same under two spellings of a property. -/
structure Reshaped.Respelled {α : Type} (key other property : String) (path : Path)
    (left right : Reshaped α) : Prop where
  value : left.value = right.value
  warnings : Retold key other property path left.warnings right.warnings

/-- A coerced value that is the same under two spellings of a property. -/
structure Coerced.Respelled (key other property : String) (path : Path) (left right : Coerced) :
    Prop where
  node : left.node = right.node
  sites : left.sites = right.sites
  warnings : Retold key other property path left.warnings right.warnings

/-! ### Names -/

/-- Fields are brought to their names one part after the other, the second part in view of what
the first one gave. -/
theorem canonicalize_append (names : PropertyNames) (path : Path) (seen : List String)
    (fields rest : List (String × Node)) :
    canonicalize names path seen (fields ++ rest) =
      let first := canonicalize names path seen fields
      let later := canonicalize names path (seen ++ Keyed.keys first.value) rest
      ⟨first.value ++ later.value, first.warnings ++ later.warnings⟩ := by
  induction fields generalizing seen with
  | nil => simp [canonicalize, Keyed.keys]
  | cons field fields ih =>
    obtain ⟨key, value⟩ := field
    simp only [List.cons_append, canonicalize]
    split
    · simp [ih]
    · split
      · simp [ih]
      · simp [ih, Keyed.keys]

/-- Two spellings of a property give the same field, or are both dropped. -/
theorem canonicalize_respelled {names : PropertyNames} (stands : names.resolve? key = some property)
    (also : names.resolve? other = some property) (seen : List String) (before after : Keyed Node)
    (value : Node) :
    Reshaped.Respelled key other property path
      (canonicalize names path seen (before ++ (key, value) :: after))
      (canonicalize names path seen (before ++ (other, value) :: after)) := by
  rw [canonicalize_append, canonicalize_append]
  simp only [canonicalize, stands, also]
  -- The fields before are the same, so they gave the property in both runs or in neither.
  split
  next given => exact ⟨rfl, .dropped _ _⟩
  next fresh => exact ⟨rfl, .same _⟩

/-! ### The type of the record -/

/-- The discriminator is read under its own key only. -/
theorem discriminator?_respelled (plain : key ≠ Node.typeKey) (also : other ≠ Node.typeKey) :
    Node.discriminator? (before ++ (key, value) :: after) =
      Node.discriminator? (before ++ (other, value) :: after) := by
  simp only [Node.discriminator?, Keyed.get?_append, Keyed.get?, if_neg plain, if_neg also]

/-- A discriminator that names no other record type leaves a record with the expected one. -/
theorem recordTarget?_of_selected {fields : Keyed Node} (known : set.recordType? name = some type)
    (selected : ∀ typeName, Node.discriminator? fields = some typeName →
      typeName = name ∨ set.recordType? typeName = none) :
    recordTarget? set fields name = some type := by
  unfold recordTarget?
  cases typed : Node.discriminator? fields with
  | none => exact known
  | some typeName =>
    rcases selected typeName typed with rfl | unknown
    · simp [known]
    · simp [unknown, known]

/-! ### Records -/

theorem reshapeRecord_respelled (set : SchemaSet) (path : Path)
    (stands : type.names.resolve? key = some property)
    (also : type.names.resolve? other = some property) (before after : Keyed Node) (value : Node) :
    Reshaped.Respelled key other property path
      (reshapeRecord set type path (before ++ (key, value) :: after))
      (reshapeRecord set type path (before ++ (other, value) :: after)) := by
  obtain ⟨fields, told⟩ := canonicalize_respelled stands also [] before after value
  rw [reshapeRecord, reshapeRecord, fields]
  exact ⟨rfl, told.append _⟩

/-- Where a record type is expected a record that is of it is reshaped as one of it. -/
theorem reshape_of_selected {fields : Keyed Node} (known : set.recordType? name = some type)
    (selected : ∀ typeName, Node.discriminator? fields = some typeName →
      typeName = name ∨ set.recordType? typeName = none) :
    reshape set (.ref name) path (.record fields) =
      ⟨.record (reshapeRecord set type path fields).value,
        (reshapeRecord set type path fields).warnings⟩ := by
  simp only [reshape, recordTarget?_of_selected known selected]

/-- A record is coerced to the same node and sites however its properties are spelled, with the
same warnings but for the key of a property that was given before. -/
theorem coerceTree_respelled (known : set.recordType? name = some type)
    (plain : key ≠ Node.typeKey) (plainToo : other ≠ Node.typeKey)
    (selected : ∀ typeName,
      Node.discriminator? (before ++ (key, value) :: after) = some typeName →
        typeName = name ∨ set.recordType? typeName = none)
    (stands : type.names.resolve? key = some property)
    (also : type.names.resolve? other = some property) (fuel : Nat) (path : Path) :
    Option.Rel (Coerced.Respelled key other property path)
      (coerceTree set fuel (.record (before ++ (key, value) :: after)) (.ref name) path)
      (coerceTree set fuel (.record (before ++ (other, value) :: after)) (.ref name) path) := by
  have selectedToo := selected
  rw [discriminator?_respelled plain plainToo] at selectedToo
  obtain ⟨fields, told⟩ := reshapeRecord_respelled set path stands also before after value
  simp only [coerceTree, coerceTreeWith, reshape_of_selected known selected,
    reshape_of_selected known selectedToo, fields]
  -- The coercer is given the same record in both runs.
  cases coerceReshaped set fuel .empty _ (.ref name) path with
  | none => exact .none
  | some coerced => exact .some ⟨rfl, rfl, told.append coerced.warnings⟩

/-- A note with two texts, of which the second is given under a spelling of the alias. -/
theorem coerceTree_note_respelled :
    (notebook.recordType? "Note" = some (.ofSchema note) ∧
      (CompiledType.ofSchema note).names.resolve? "body" = some "text" ∧
      (CompiledType.ofSchema note).names.resolve? "Body" = some "text") ∧
    Option.Rel (Coerced.Respelled "body" "Body" "text" [])
      (coerceTree notebook 4 (.record ([("type", .string "Note"), ("text", .string "A")] ++
        ("body", .string "B") :: [])) (.ref "Note") [])
      (coerceTree notebook 4 (.record ([("type", .string "Note"), ("text", .string "A")] ++
        ("Body", .string "B") :: [])) (.ref "Note") []) := by
  have known : notebook.recordType? "Note" = some (.ofSchema note) := rfl
  have stands : (CompiledType.ofSchema note).names.resolve? "body" = some "text" := by cbv
  have also : (CompiledType.ofSchema note).names.resolve? "Body" = some "text" := by cbv
  refine ⟨⟨known, stands, also⟩, ?_⟩
  refine coerceTree_respelled known (by decide) (by decide) ?_ stands also 4 []
  intro typeName typed
  cases typed
  exact .inl rfl

end DocSchema.Coercion
