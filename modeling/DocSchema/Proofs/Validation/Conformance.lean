import DocSchema.Proofs.Validation.Fitting

/-!
# What validation decides

A relation between values and shapes is a conformance if for every kind of shape it says what
that shape asks of a value, in terms of itself on the parts. Nothing in this speaks of errors,
of remembered outcomes or of counted hops. Over a set whose union types can be entered one
inside the other no more often than the limit allows there is exactly one such relation, and a
value conforms to a shape if and only if the validator finds no error in it. Main statement:
`validateShape_eq_nil_iff_conforms`.
-/

namespace DocSchema.Validation

/-! ### The declarative rules -/

/-- Whether a value is of a kind of values without parts. -/
def HasKind (node : Node) : Scalar → Prop
  | .null => node = .null
  | .boolean => ∃ value, node = .boolean value
  | .integer => (∃ value, node = .integer value) ∨
      ∃ number, node = .number number ∧ number.isIntegral = true
  | .number => (∃ value, node = .integer value) ∨
      ∃ number, node = .number number ∧ number.isFinite = true
  | .string => ∃ text, node = .string text

/-- Whether a value is a record of a type: all its keys are declared, nothing required is
absent, and what is present conforms. -/
def IsRecordOf (conforms : Node → Shape → Prop) (type : TypeSchema) (node : Node) : Prop :=
  ∃ fields, node = .record fields ∧
    (∀ key ∈ Keyed.keys fields, key ∈ Keyed.keys type.properties) ∧
    (∀ key ∈ type.required, key ∈ Keyed.keys fields) ∧
    ∀ key property value, (key, property) ∈ type.properties →
      Keyed.get? fields key = some value → conforms value property.shape

/-- What a shape asks of a value, given what conforms to the parts. -/
def Rule (set : SchemaSet) (conforms : Node → Shape → Prop) (node : Node) : Shape → Prop
  | .any => True
  | .scalar kind => HasKind node kind
  | .object => ∃ fields, node = .record fields
  | .enum values => ∃ value ∈ values, literalMatches value node = true
  | .array items => ∃ values, node = .array values ∧ ∀ value ∈ values, conforms value items
  | .ref name =>
    match set.find? name with
    | none => False
    | some type =>
      match type.schema.alternatives? with
      | none => IsRecordOf conforms type.schema node
      | some alternatives => MatchesUnion (conforms node) alternatives node
  | .oneOf alternatives => MatchesUnion (conforms node) alternatives node
  | .decode _ inner => (∃ text, node = .string text) ∨ conforms node inner

/-- A relation that obeys the rule of every shape. -/
def Conformance (set : SchemaSet) (conforms : Node → Shape → Prop) : Prop :=
  ∀ node shape, conforms node shape ↔ Rule set conforms node shape

/-! ### Union types entered at one value -/

/-- Names of union types that are entered one inside the other at a value where a shape is
expected, by references, alternatives and decode directives alone. -/
inductive Entered (set : SchemaSet) : Shape → List String → Prop where
  | stay (shape : Shape) : Entered set shape []
  | enter {name : String} {type : CompiledType} {alternatives : List Shape}
      (known : set.find? name = some type)
      (union : type.schema.alternatives? = some alternatives) : Entered set (.ref name) [name]
  | inside {name : String} {type : CompiledType} {alternatives : List Shape}
      {alternative : Shape} {names : List String} (known : set.find? name = some type)
      (union : type.schema.alternatives? = some alternatives)
      (member : alternative ∈ alternatives) (further : Entered set alternative names) :
      Entered set (.ref name) (name :: names)
  | oneOf {alternatives : List Shape} {alternative : Shape} {names : List String}
      (member : alternative ∈ alternatives) (further : Entered set alternative names) :
      Entered set (.oneOf alternatives) names
  | decode {format : String} {inner : Shape} {names : List String}
      (further : Entered set inner names) : Entered set (.decode format inner) names

/-- Whether union types are never entered more often than the limit allows. A union type that
reached itself would be entered any number of times, so there is none. -/
def ChainsWithin (set : SchemaSet) : Prop :=
  ∀ shape names, Entered set shape names → names.length ≤ set.limit

/-- Whether the limit leaves room for the union types still to be entered. -/
def Room (set : SchemaSet) (hops : Nat) (shape : Shape) : Prop :=
  ∀ names, Entered set shape names → hops + names.length ≤ set.limit

theorem ChainsWithin.room {set : SchemaSet} (chains : ChainsWithin set) (shape : Shape) :
    Room set 0 shape := by
  intro names entered
  have bound := chains shape names entered
  omega

section Room

variable {set : SchemaSet} {hops : Nat}

theorem Room.within {name : String} {type : CompiledType} {alternatives : List Shape}
    (room : Room set hops (.ref name)) (known : set.find? name = some type)
    (union : type.schema.alternatives? = some alternatives) : hops < set.limit :=
  room [name] (.enter known union)

theorem Room.inside {name : String} {type : CompiledType} {alternatives : List Shape}
    (room : Room set hops (.ref name)) (known : set.find? name = some type)
    (union : type.schema.alternatives? = some alternatives) {alternative : Shape}
    (member : alternative ∈ alternatives) : Room set (hops + 1) alternative := by
  intro names further
  have bound := room (name :: names) (.inside known union member further)
  rw [List.length_cons] at bound
  omega

theorem Room.alternative {alternatives : List Shape} (room : Room set hops (.oneOf alternatives))
    {alternative : Shape} (member : alternative ∈ alternatives) : Room set hops alternative :=
  fun names further => room names (.oneOf member further)

theorem Room.inner {format : String} {inner : Shape} (room : Room set hops (.decode format inner)) :
    Room set hops inner :=
  fun names further => room names (.decode further)

end Room

/-! ### Fitting obeys the rules -/

theorem scalarMatches_iff_hasKind {kind : Scalar} {node : Node} :
    scalarMatches kind node = true ↔ HasKind node kind := by
  cases kind <;> cases node <;> simp [scalarMatches, HasKind]

/-- Where there is room, the count of hops does not matter. -/
theorem fits_hops {set : SchemaSet} {shape : Shape} {node : Node}
    {hops other : Nat} (room : Room set hops shape) (alsoRoom : Room set other shape) :
    Fits set hops shape node ↔ Fits set other shape node := by
  induction shape, node, hops using validation_induction set generalizing other with
  | any => simp [fits_any]
  | scalar kind node hops => simp [fits_scalar]
  | object node hops => simp [fits_object]
  | enum values node hops => simp [fits_enum]
  | array items node hops ih => simp [fits_array]
  | missing name node hops missing => simp [not_fits_missing missing]
  | record name type properties required aliases node hops known body ih =>
    rw [Fits, Fits, errorsOf_record_eq_nil_iff known body, errorsOf_record_eq_nil_iff known body]
  | union name type alternatives node hops known body ih =>
    have union : type.schema.alternatives? = some alternatives := by
      rw [TypeSchema.alternatives?, body]
    -- There is room for this union type whichever count it is, so the limit decides nothing.
    have within := room.within known union
    have alsoWithin := alsoRoom.within known union
    rw [fits_union known body, fits_union known body]
    simp only [within, alsoWithin, true_and]
    exact matchesUnion_congr fun alternative member =>
      ih within alternative member (room.inside known union member)
        (alsoRoom.inside known union member)
  | oneOf alternatives node hops ih =>
    rw [fits_oneOf, fits_oneOf]
    exact matchesUnion_congr fun alternative member =>
      ih alternative member (room.alternative member) (alsoRoom.alternative member)
  | decode format inner node hops ih =>
    rw [fits_decode, fits_decode, ih room.inner alsoRoom.inner]

/-- Fitting is a conformance. -/
theorem conformance_fits {set : SchemaSet} (built : set.Built) (chains : ChainsWithin set) :
    Conformance set fun node shape => Fits set 0 shape node := by
  intro node shape
  change Fits set 0 shape node ↔ Rule set (fun node shape => Fits set 0 shape node) node shape
  cases shape with
  | any => simp [fits_any, Rule]
  | scalar kind => exact fits_scalar.trans scalarMatches_iff_hasKind
  | object => exact fits_object
  | enum values => simp [fits_enum, Rule, isMember]
  | array items => exact fits_array
  | ref name =>
    cases known : set.find? name with
    | none => simp [Rule, known, not_fits_missing known]
    | some type =>
      cases body : type.schema.body with
      | record properties required aliases =>
        have formed := built.wellFormed known
        rw [fits_record known body formed]
        simp only [Rule, known, TypeSchema.alternatives?, body, IsRecordOf,
          TypeSchema.property?, Keyed.get?_eq_some_iff formed.distinct, Keyed.mem_keys_iff]
      | union alternatives =>
        have union : type.schema.alternatives? = some alternatives := by
          rw [TypeSchema.alternatives?, body]
        -- The limit is no obstacle, and the hop that is counted does not matter below.
        have room := chains.room (.ref name)
        have within := room.within known union
        rw [fits_union known body]
        simp only [Rule, known, union, within, true_and]
        exact matchesUnion_congr fun alternative member =>
          fits_hops (room.inside known union member) (chains.room alternative)
  | oneOf alternatives => exact fits_oneOf
  | decode format inner =>
    rw [fits_decode, isString_iff]
    rfl

/-- Two conformances say the same, since the rules go down along validation. -/
theorem conformance_unique {set : SchemaSet} (chains : ChainsWithin set)
    {left right : Node → Shape → Prop} (leftObeys : Conformance set left)
    (rightObeys : Conformance set right) (node : Node) (shape : Shape) :
    left node shape ↔ right node shape := by
  -- The induction counts hops, which the rules do not mention.
  have below (shape : Shape) (node : Node) (hops : Nat) (room : Room set hops shape) :
      left node shape ↔ right node shape := by
    induction shape, node, hops using validation_induction set with
    | any node hops => simp [leftObeys node .any, rightObeys node .any, Rule]
    | scalar kind node hops => rw [leftObeys, rightObeys]; rfl
    | object node hops => rw [leftObeys, rightObeys]; rfl
    | enum values node hops => rw [leftObeys, rightObeys]; rfl
    | array items node hops ih =>
      rw [leftObeys, rightObeys]
      constructor
      · rintro ⟨values, given, each⟩
        exact ⟨values, given, fun value member =>
          (ih values given value member (chains.room items)).mp (each value member)⟩
      · rintro ⟨values, given, each⟩
        exact ⟨values, given, fun value member =>
          (ih values given value member (chains.room items)).mpr (each value member)⟩
    | missing name node hops missing => rw [leftObeys, rightObeys, Rule, Rule, missing]
    | record name type properties required aliases node hops known body ih =>
      rw [leftObeys, rightObeys]
      simp only [Rule, known, TypeSchema.alternatives?, body]
      constructor
      · rintro ⟨fields, given, declared, present, each⟩
        refine ⟨fields, given, declared, present, fun key property value member found => ?_⟩
        exact (ih fields given key value (Keyed.mem_of_get? found) property.shape
          (chains.room property.shape)).mp (each key property value member found)
      · rintro ⟨fields, given, declared, present, each⟩
        refine ⟨fields, given, declared, present, fun key property value member found => ?_⟩
        exact (ih fields given key value (Keyed.mem_of_get? found) property.shape
          (chains.room property.shape)).mpr (each key property value member found)
    | union name type alternatives node hops known body ih =>
      have union : type.schema.alternatives? = some alternatives := by
        rw [TypeSchema.alternatives?, body]
      rw [leftObeys, rightObeys]
      simp only [Rule, known, union]
      exact matchesUnion_congr fun alternative member =>
        ih (room.within known union) alternative member (room.inside known union member)
    | oneOf alternatives node hops ih =>
      rw [leftObeys, rightObeys]
      exact matchesUnion_congr fun alternative member =>
        ih alternative member (room.alternative member)
    | decode format inner node hops ih =>
      rw [leftObeys, rightObeys]
      simp only [Rule, ih room.inner]
  exact below shape node 0 (chains.room shape)

/-- The rules determine what conforms, and the validator decides it: there is one conformance,
and it holds of a value and a shape exactly if no errors are found. -/
theorem validateShape_eq_nil_iff_conforms {set : SchemaSet} (built : set.Built)
    (chains : ChainsWithin set) :
    (∃! conforms, Conformance set conforms) ∧
      ∀ conforms, Conformance set conforms → ∀ node shape path,
        validateShape set node shape path = [] ↔ conforms node shape := by
  have fitting := conformance_fits built chains
  constructor
  · refine ⟨_, fitting, fun other obeys => ?_⟩
    funext node shape
    exact propext (conformance_unique chains obeys fitting node shape)
  · intro conforms obeys node shape path
    rw [validateShape_eq_nil_iff]
    exact conformance_unique chains fitting obeys node shape

/-- In a library an entry is entered and nothing more, since books are records. -/
theorem chainsWithin_library : ChainsWithin SchemaSet.library := by
  have body {name : String} {type : CompiledType} {alternatives : List Shape}
      (known : SchemaSet.library.find? name = some type)
      (union : type.schema.alternatives? = some alternatives) :
      name = "Entry" ∧ alternatives = [.ref "Book", .scalar .string] := by
    rcases SchemaSet.find?_library known with ⟨rfl, rfl⟩ | ⟨rfl, rfl⟩
    · cases union
    · cases union
      exact ⟨rfl, rfl⟩
  -- Neither alternative of an entry enters a union type.
  have flat {alternative : Shape} {names : List String}
      (member : alternative ∈ [Shape.ref "Book", .scalar .string])
      (entered : Entered SchemaSet.library alternative names) : names = [] := by
    cases entered with
    | stay => rfl
    | enter known union => simp [(body known union).1] at member
    | inside known union => simp [(body known union).1] at member
    | oneOf => simp at member
    | decode => simp at member
  have short {shape : Shape} {names : List String}
      (entered : Entered SchemaSet.library shape names) : names.length ≤ 1 := by
    induction entered with
    | stay => exact Nat.zero_le 1
    | enter => exact Nat.le_refl 1
    | inside known union member further ih =>
      obtain ⟨rfl, rfl⟩ := body known union
      simp [flat member further]
    | oneOf member further ih => exact ih
    | decode further ih => exact ih
  intro shape names entered
  exact Nat.le_trans (short entered) (by decide)

theorem validateShape_library :
    (∃! conforms, Conformance SchemaSet.library conforms) ∧
      ∀ conforms, Conformance SchemaSet.library conforms → ∀ node shape path,
        validateShape SchemaSet.library node shape path = [] ↔ conforms node shape :=
  validateShape_eq_nil_iff_conforms SchemaSet.library_built chainsWithin_library

end DocSchema.Validation
