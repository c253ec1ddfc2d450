import DocSchema.Proofs.Node.Equality
import DocSchema.Proofs.Schema.Built
import DocSchema.Proofs.Validation.Fitting

/-!
# Validity of equal values

Validity is a property of the value: the order of keys and the sign of zero do not matter for it,
at any depth. Main statement: `isValid_eq_of_equals`.
-/

namespace DocSchema

variable {left right : Node}

/-! ### Kinds and discriminators -/

namespace Node

theorem isString_eq_of_equals (alike : left.equals right = true) :
    left.isString = right.isString := by
  cases left <;> cases right <;> simp_all [equals, isString]

theorem exists_array_iff_of_equals (alike : left.equals right = true) :
    (∃ items, left = array items) ↔ ∃ items, right = array items := by
  cases left <;> cases right <;> simp_all [equals]

theorem exists_record_iff_of_equals (alike : left.equals right = true) :
    (∃ fields, left = record fields) ↔ ∃ fields, right = record fields := by
  cases left <;> cases right <;> simp_all [equals]

theorem discriminator?_eq_of_rel {fields others : Keyed Node}
    (rel : Option.Rel (·.equals · = true) (Keyed.get? fields typeKey)
      (Keyed.get? others typeKey)) : discriminator? fields = discriminator? others := by
  unfold discriminator?
  generalize Keyed.get? fields typeKey = value at rel
  generalize Keyed.get? others typeKey = other at rel
  cases rel with
  -- Only a text names a type, and a text equals itself alone.
  | @some value other here => cases value <;> cases other <;> simp_all [equals]
  | none => rfl

theorem typeName?_eq_of_equals (distinct : left.distinctKeys = true)
    (alike : left.equals right = true) : left.typeName? = right.typeName? := by
  have records := exists_record_iff_of_equals alike
  cases left with
  | record fields =>
    have single := (distinctKeys_record_iff.mp distinct).1
    obtain ⟨others, rfl, _, each⟩ := (equals_record_iff_of_distinct single).mp alike
    exact discriminator?_eq_of_rel (each typeKey)
  | _ => cases right <;> simp_all [typeName?]

end Node

namespace Validation

/-! ### Values without parts -/

theorem scalarMatches_eq_of_equals (kind : Scalar) (alike : left.equals right = true) :
    scalarMatches kind left = scalarMatches kind right := by
  cases left with
  | number value =>
    obtain ⟨other, rfl, same⟩ := Node.equals_number_iff.mp alike
    cases kind <;>
      simp [scalarMatches, Double.isIntegral_of_equals same, Double.isFinite_of_equals same]
  | _ => cases right <;> cases kind <;> simp_all [Node.equals, scalarMatches]

theorem literalMatches_of_equals {literal : Node} (alike : left.equals right = true)
    (fine : literalMatches literal left = true) : literalMatches literal right = true := by
  have onward (same : literal.equals left = true) : literal.equals right = true :=
    Node.equals_trans same alike
  cases left with
  | number value =>
    obtain ⟨other, rfl, same⟩ := Node.equals_number_iff.mp alike
    cases literal with
    -- An integer is compared with a number by value, not as a node of its own kind.
    | integer literal => exact Double.equals_trans fine same
    | _ => exact onward fine
  | integer value =>
    obtain rfl := Node.equals_integer_iff.mp alike
    exact fine
  | array items =>
    obtain ⟨others, rfl, _⟩ := Node.equals_array_iff.mp alike
    cases literal <;> exact onward fine
  | record fields =>
    obtain ⟨others, rfl, _⟩ := Node.equals_record_iff.mp alike
    cases literal <;> exact onward fine
  | null =>
    obtain rfl := Node.equals_null_iff.mp alike
    exact fine
  | boolean value =>
    obtain rfl := Node.equals_boolean_iff.mp alike
    exact fine
  | string text =>
    obtain rfl := Node.equals_string_iff.mp alike
    exact fine

theorem isMember_eq_of_equals (values : List Node) (distinct : left.distinctKeys = true)
    (alike : left.equals right = true) : isMember values left = isMember values right := by
  have back := Node.equals_symm distinct alike
  rw [Bool.eq_iff_iff, isMember, isMember, List.any_eq_true, List.any_eq_true]
  exact exists_congr fun literal => and_congr_right fun _ =>
    ⟨literalMatches_of_equals alike, literalMatches_of_equals back⟩

/-! ### Values with parts -/

variable {set : SchemaSet} {hops : Nat}

theorem matchesUnion_iff_of_typeName? {fits also : Shape → Prop} {alternatives : List Shape}
    (named : left.typeName? = right.typeName?)
    (same : ∀ alternative ∈ alternatives, fits alternative ↔ also alternative) :
    MatchesUnion fits alternatives left ↔ MatchesUnion also alternatives right := by
  rw [matchesUnion_congr same, MatchesUnion, MatchesUnion, named]

theorem fits_array_iff_of_equals {items : Shape} (alike : left.equals right = true)
    (each : ∀ values, left = .array values → ∀ value ∈ values, ∀ other,
      value.equals other = true → (Fits set 0 items value ↔ Fits set 0 items other)) :
    Fits set hops (.array items) left ↔ Fits set hops (.array items) right := by
  rw [Fits, Fits, errorsOf_array_eq_nil_iff, errorsOf_array_eq_nil_iff]
  by_cases given : ∃ values, left = .array values
  · obtain ⟨values, rfl⟩ := given
    obtain ⟨others, rfl, related⟩ := Node.equals_array_iff.mp alike
    simp only [Node.array.injEq, exists_eq_left', errorsOf_eq_nil_iff]
    refine forall_congr' fun position => ?_
    exact forall_iff_of_rel (related position) fun value other found =>
      each values rfl value (List.mem_of_getElem? found) other
  · have arrays := Node.exists_array_iff_of_equals alike
    refine iff_of_false ?_ ?_
    · rintro ⟨values, same, _⟩
      exact given ⟨values, same⟩
    · rintro ⟨others, same, _⟩
      exact given (arrays.mpr ⟨others, same⟩)

theorem fits_record_iff_of_equals {name : String} {type : CompiledType}
    {properties : Keyed Property} {required : List String} {aliases : Keyed String}
    (known : set.find? name = some type)
    (body : type.schema.body = .record properties required aliases)
    (distinct : left.distinctKeys = true) (alike : left.equals right = true)
    (each : ∀ fields, left = .record fields → ∀ key value, (key, value) ∈ fields →
      ∀ shape other, value.equals other = true →
        (Fits set 0 shape value ↔ Fits set 0 shape other)) :
    Fits set hops (.ref name) left ↔ Fits set hops (.ref name) right := by
  rw [Fits, Fits, errorsOf_record_eq_nil_iff known body, errorsOf_record_eq_nil_iff known body]
  by_cases given : ∃ fields, left = .record fields
  · obtain ⟨fields, rfl⟩ := given
    have single := (Node.distinctKeys_record_iff.mp distinct).1
    obtain ⟨others, rfl, _, related⟩ := (Node.equals_record_iff_of_distinct single).mp alike
    simp only [Node.record.injEq, exists_eq_left', errorsOf_eq_nil_iff]
    -- No key is undeclared, and every property is present and fits: both are asked key by key.
    refine and_congr ?_ (forall_congr' fun key => forall_congr' fun property =>
      forall_congr' fun _ => and_congr ?_ ?_)
    · exact forall_congr' fun key => by rw [mem_keys_iff_of_rel (related key)]
    · exact forall_iff_of_rel (related key) fun value other found =>
        each fields rfl key value (Keyed.mem_of_get? found) property.shape other
    · rw [eq_none_iff_of_rel (related key)]
  · have records := Node.exists_record_iff_of_equals alike
    refine iff_of_false ?_ ?_
    · rintro ⟨fields, same, _⟩
      exact given ⟨fields, same⟩
    · rintro ⟨others, same, _⟩
      exact given (records.mpr ⟨others, same⟩)

/-- Equal values fit the same shapes. -/
theorem fits_iff_of_equals {shape : Shape} (distinct : left.distinctKeys = true)
    (alike : left.equals right = true) : Fits set hops shape left ↔ Fits set hops shape right := by
  induction shape, left, hops using validation_induction set generalizing right with
  | any => exact iff_of_true fits_any fits_any
  | scalar kind node hops =>
    rw [fits_scalar, fits_scalar, scalarMatches_eq_of_equals kind alike]
  | object node hops => rw [fits_object, fits_object, Node.exists_record_iff_of_equals alike]
  | enum values node hops =>
    rw [fits_enum, fits_enum, isMember_eq_of_equals values distinct alike]
  | array items node hops ih =>
    refine fits_array_iff_of_equals alike fun values given value member other same => ?_
    subst given
    exact ih values rfl value member (Node.distinctKeys_array_iff.mp distinct value member) same
  | missing name node hops unknown =>
    exact iff_of_false (not_fits_missing unknown) (not_fits_missing unknown)
  | record name type properties required aliases node hops known body ih =>
    refine fits_record_iff_of_equals known body distinct alike
      fun fields given key value member shape other same => ?_
    subst given
    exact ih fields rfl key value member shape
      ((Node.distinctKeys_record_iff.mp distinct).2 key value member) same
  | union name type alternatives node hops known body ih =>
    rw [fits_union known body, fits_union known body]
    refine and_congr_right fun within => ?_
    exact matchesUnion_iff_of_typeName? (Node.typeName?_eq_of_equals distinct alike)
      fun alternative member => ih within alternative member distinct alike
  | oneOf alternatives node hops ih =>
    rw [fits_oneOf, fits_oneOf]
    exact matchesUnion_iff_of_typeName? (Node.typeName?_eq_of_equals distinct alike)
      fun alternative member => ih alternative member distinct alike
  | decode format inner node hops ih =>
    rw [fits_decode, fits_decode, Node.isString_eq_of_equals alike, ih distinct alike]

/-- Equal values are valid alike, given that the keys of each record are distinct, as they are in
every tree that is read. -/
theorem isValid_eq_of_equals (set : SchemaSet) (shape : Shape)
    (distinct : left.distinctKeys = true) (alike : left.equals right = true) :
    isValid set left shape = isValid set right shape := by
  rw [Bool.eq_iff_iff, isValid_iff, isValid_iff]
  exact fits_iff_of_equals distinct alike

/-- A book written in two orders, with either zero for its year. -/
def undated : Node := .record [("type", .string "Book"), ("title", .string "Letters"),
  ("year", .number (.zero false)),
  ("related", .array [.record [("type", .string "Book"), ("title", .string "Replies")]])]

def undatedAgain : Node := .record [("year", .number (.zero true)), ("title", .string "Letters"),
  ("related", .array [.record [("title", .string "Replies"), ("type", .string "Book")]]),
  ("type", .string "Book")]

theorem isValid_undated :
    (undated.distinctKeys = true ∧ undated.equals undatedAgain = true) ∧
      isValid SchemaSet.library undated (.ref "Book") =
        isValid SchemaSet.library undatedAgain (.ref "Book") := by
  have distinct : undated.distinctKeys = true := by cbv
  have alike : undated.equals undatedAgain = true := by cbv
  exact ⟨⟨distinct, alike⟩, isValid_eq_of_equals SchemaSet.library (.ref "Book") distinct alike⟩

end Validation

end DocSchema
