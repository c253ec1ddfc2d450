import DocSchema.Proofs.Coercion.Conversion

/-!
# Conservative conversion

Converting a value finds one of the expected kind, or of the literal ones, or does nothing but take
the value out of an array. What was right before stays, and a second conversion has nothing left to
do but to take a value out of one more array. Integers, booleans and null are found again from their
texts. Main statement: `conversion_conservative`.
-/

namespace DocSchema

/-! ### Texts of integers -/

theorem Text.trim_of_visible {characters : List Char}
    (visible : ∀ character ∈ characters, isSpace character = false) :
    trim characters = characters := by
  have kept {some : List Char} (inside : ∀ character ∈ some, character ∈ characters) :
      some.dropWhile isSpace = some := by
    cases some with
    | nil => rfl
    | cons first rest =>
      have shown := visible first (inside first List.mem_cons_self)
      simp [shown]
  rw [trim, kept fun _ member => member, kept fun _ member => List.mem_reverse.mp member,
    List.reverse_reverse]

theorem Text.isSpace_of_isDigit {character : Char} (digit : character.isDigit = true) :
    isSpace character = false := by
  simp only [Char.isDigit, Bool.and_eq_true, decide_eq_true_eq, UInt32.le_iff_toNat_le] at digit
  obtain ⟨low, high⟩ := digit
  have code : 48 ≤ character.toNat ∧ character.toNat ≤ 57 := ⟨low, high⟩
  simp [isSpace]
  omega

theorem Double.readDigits_toDigits (number : Nat) :
    readDigits 0 (Nat.toDigits 10 number) = number := by
  calc
    readDigits 0 (Nat.toDigits 10 number)
        = Nat.ofDigitChars 10 (Nat.toDigits 10 number) 0 := by
      simp only [readDigits, Nat.ofDigitChars_eq_foldl, digitValue, Nat.mul_comm]
    _ = number := Nat.ofDigitChars_ten_toDigits

/-- The text of an integer is its digits, after a sign if it is negative. -/
theorem Json.toList_integerText (value : Int) :
    (integerText value).toList =
      if value < 0 then '-' :: Nat.toDigits 10 value.natAbs else Nat.toDigits 10 value.natAbs := by
  rw [integerText]
  split
  next => simp
  next => simp

theorem Json.trim_integerText (value : Int) :
    Text.trim (integerText value).toList = (integerText value).toList := by
  apply Text.trim_of_visible
  have digits : ∀ character ∈ Nat.toDigits 10 value.natAbs, Text.isSpace character = false :=
    fun character member =>
      Text.isSpace_of_isDigit (Nat.isDigit_of_mem_toDigits (by decide) (by decide) member)
  rw [toList_integerText]
  split
  next =>
    intro character member
    rcases List.mem_cons.mp member with rfl | member
    · decide
    · exact digits character member
  next => exact digits

namespace Coercion

open Validation (isValid isMember literalMatches scalarMatches)

-- Powers of the core library, as in `DocSchema.Double.Basic`.
attribute [local instance(high)] instPowNat

section Digits

variable {digits : List Char} (given : digits ≠ [])
  (each : ∀ character ∈ digits, character.isDigit = true)

include given each

theorem accepted_digits : (digits.isEmpty || !digits.all Char.isDigit) = false := by
  have all : digits.all Char.isDigit = true := List.all_eq_true.mpr each
  simp [given, all]

theorem readInteger?_minus (low : -2 ^ (63 : Nat) ≤ -(Double.readDigits 0 digits : Int)) :
    readInteger? ('-' :: digits) = some (Int64.ofInt (-Double.readDigits 0 digits)) := by
  have accepted := accepted_digits given each
  have high : -(Double.readDigits 0 digits : Int) < 2 ^ (63 : Nat) := by omega
  simp only [readInteger?, accepted, Bool.false_eq_true, if_false, if_true]
  rw [if_pos ⟨low, high⟩]

theorem readInteger?_unsigned (high : (Double.readDigits 0 digits : Int) < 2 ^ (63 : Nat)) :
    readInteger? digits = some (Int64.ofInt (Double.readDigits 0 digits)) := by
  have accepted := accepted_digits given each
  have low : -2 ^ (63 : Nat) ≤ (Double.readDigits 0 digits : Int) := by omega
  unfold readInteger?
  split
  next negative rest read =>
    -- Neither sign is a digit.
    split at read
    next => exact absurd (each '-' List.mem_cons_self) (by decide)
    next => exact absurd (each '+' List.mem_cons_self) (by decide)
    next =>
      cases read
      simp only [accepted, Bool.false_eq_true, if_false]
      rw [if_pos ⟨low, high⟩]

end Digits

theorem readInteger?_integerText (value : Int64) :
    readInteger? (Json.integerText value.toInt).toList = some value := by
  have low := value.le_toInt
  have high := value.toInt_lt
  have each : ∀ character ∈ Nat.toDigits 10 value.toInt.natAbs, character.isDigit = true :=
    fun character member => Nat.isDigit_of_mem_toDigits (by decide) (by decide) member
  have size := Double.readDigits_toDigits value.toInt.natAbs
  rw [Json.toList_integerText]
  split
  next negative =>
    have same : -(value.toInt.natAbs : Int) = value.toInt := by omega
    rw [readInteger?_minus Nat.toDigits_ne_nil each (by omega), size, same, Int64.ofInt_toInt]
  next positive =>
    have same : (value.toInt.natAbs : Int) = value.toInt := by omega
    rw [readInteger?_unsigned Nat.toDigits_ne_nil each (by omega), size, same, Int64.ofInt_toInt]

theorem readNumber?_integerText (value : Int64) :
    readNumber? (Json.integerText value.toInt) = some (.integer value) := by
  simp only [readNumber?, Json.trim_integerText, readInteger?_integerText]

/-! ### What converting conserves -/

/-- Whether a conversion only ever turns a value, or the only item of an array, into a right one,
keeps what is right, and has nothing more to do where it has been applied, but to take a value out
of another array. -/
structure Conservative (right : Node → Bool) (kept : Node → Node → Prop) (convert : Node → Node) :
    Prop where
  outcome (node : Node) : right (convert node) = true ∨ convert node = unwrapSingleton node
  keeps {node : Node} (fine : right node = true) : kept node (convert node)
  again (node : Node) :
    (∃ item, convert node = .array [item]) ∨ convert (convert node) = convert node

/-- What a conversion has made right it must leave. What it has only taken out of an array it would
convert as before, since it does not see whether there was an array. -/
theorem Conservative.of_outcome {right : Node → Bool} {kept : Node → Node → Prop}
    {convert : Node → Node}
    (outcome : ∀ node, right (convert node) = true ∨ convert node = unwrapSingleton node)
    (keeps : ∀ node, right node = true → kept node (convert node))
    (settled : ∀ node, right (convert node) = true → convert (convert node) = convert node)
    (through : ∀ node other, unwrapSingleton node = unwrapSingleton other →
      convert node = convert other) : Conservative right kept convert := by
  refine ⟨outcome, fun fine => keeps _ fine, fun node => ?_⟩
  rcases outcome node with fine | same
  · exact .inr (settled node fine)
  · rcases unwrapSingleton_cases (convert node) with more | stays
    · exact .inl more
    · right
      apply through
      rw [stays, same]

/-! ### Kinds of values -/

/-- Whether a value stays where its kind is expected, or becomes the equal integer. -/
inductive KeptIn (kind : Scalar) : Node → Node → Prop where
  | same (node : Node) : KeptIn kind node node
  | whole {number : Double} {value : Int64} (expected : kind = .integer)
      (finite : number.isFinite = true)
      (equal : number.units = value.toInt * Double.unitsPerOne) :
      KeptIn kind (.number number) (.integer value)

theorem keptIn_coerceScalar {kind : Scalar} {node : Node}
    (fine : scalarMatches kind node = true) : KeptIn kind node (coerceScalar node kind) := by
  rcases coerceScalar_of_matches fine with same | ⟨number, value, expected, rfl, whole, converted⟩
  · rw [same]
    exact .same node
  · obtain ⟨finite, equal⟩ := Double.toInt64?_eq_some_iff.mp whole
    rw [converted]
    exact .whole expected finite equal

theorem isValid_scalar {set : SchemaSet} {kind : Scalar} {node : Node} :
    isValid set node (.scalar kind) = scalarMatches kind node := by
  rw [Bool.eq_iff_iff, Validation.isValid_iff, Validation.fits_scalar]

theorem coerceScalar_conservative (set : SchemaSet) (kind : Scalar) :
    Conservative (isValid set · (.scalar kind)) (KeptIn kind) (coerceScalar · kind) := by
  simp only [isValid_scalar]
  apply Conservative.of_outcome
  · exact fun node => coerceScalar_matches_or_same node kind
  · exact fun node => keptIn_coerceScalar
  · exact fun node => coerceScalar_twice
  · intro node other same
    simp only [coerceScalar, same]

/-! ### Literal values -/

/-- A literal value that is spelled is equal to itself, unless it is a number that is none. -/
theorem literalMatches_self {value : Node} {spelling : String}
    (spelled : spelled? value = some spelling)
    (real : ∀ number, value = .number number → number.isNaN = false) :
    literalMatches value value = true := by
  cases value with
  | array items => cases spelled
  | record fields => cases spelled
  | number number => simp [literalMatches, Node.equals, Double.equals, real number rfl]
  | _ => simp [literalMatches, Node.equals]

theorem coerceEnum_isMember_or_same {values : List Node}
    (real : ∀ number, .number number ∈ values → number.isNaN = false) (node : Node) :
    isMember values (coerceEnum node values) = true ∨
      coerceEnum node values = unwrapSingleton node := by
  simp only [coerceEnum]
  split
  next => exact .inr rfl
  next =>
    split
    next => exact .inr rfl
    next spelling _ =>
      cases found : values.find? fun value => spelled? value == some spelling with
      | none => exact .inr rfl
      | some value =>
        have member := List.mem_of_find?_eq_some found
        have spelled := List.find?_some found
        rw [beq_iff_eq] at spelled
        have alike : literalMatches value value = true := by
          apply literalMatches_self spelled
          rintro number rfl
          exact real number member
        exact .inl (List.any_eq_true.mpr ⟨value, member, alike⟩)

theorem coerceEnum_conservative {values : List Node}
    (unlisted : ∀ items, .array items ∉ values)
    (real : ∀ number, .number number ∈ values → number.isNaN = false) :
    Conservative (isMember values) Eq (coerceEnum · values) := by
  apply Conservative.of_outcome
  · exact coerceEnum_isMember_or_same real
  · exact fun node listed => (coerceEnum_of_isMember unlisted listed).symm
  · exact fun node listed => coerceEnum_of_isMember unlisted listed
  · intro node other same
    simp only [coerceEnum, same]

/-! ### Texts of values -/

/-- Whether a value is converted to a text, and that text is converted back to the value. -/
def Recovered (kind : Scalar) (value : Node) : Prop :=
  ∃ text, coerceScalar value .string = .string text ∧ coerceScalar (.string text) kind = value

theorem recovered_integer (value : Int64) : Recovered .integer (.integer value) := by
  refine ⟨Json.integerText value.toInt, rfl, ?_⟩
  simp only [coerceScalar, unwrapSingleton, toInteger, readNumber?_integerText]

theorem recovered_boolean (value : Bool) : Recovered .boolean (.boolean value) := by
  refine ⟨Json.booleanText value, rfl, ?_⟩
  cases value <;> rfl

theorem recovered_null : Recovered .null .null := ⟨"", rfl, rfl⟩

/-! ### Both conversions -/

/-- Conversion towards a kind of values is conservative, and so is the one towards literal values,
if no array is among them and no number that is none. Integers, booleans and null are found again
from the texts they are converted to. -/
theorem conversion_conservative (set : SchemaSet) :
    (∀ kind, Conservative (isValid set · (.scalar kind)) (KeptIn kind) (coerceScalar · kind)) ∧
    (∀ value, Recovered .integer (.integer value)) ∧
    (∀ value, Recovered .boolean (.boolean value)) ∧
    Recovered .null .null ∧
    ∀ values, (∀ items, .array items ∉ values) →
      (∀ number, .number number ∈ values → number.isNaN = false) →
      Conservative (isMember values) Eq (coerceEnum · values) := by
  exact ⟨coerceScalar_conservative set, recovered_integer, recovered_boolean, recovered_null,
    fun values => coerceEnum_conservative⟩

/-- The literal values two, two and a half, and a text. -/
def amounts : List Node := [.integer 2, .number ⟨0x4004000000000000⟩, .string "many"]

/-- The text of a literal integer stands for it, as does an array of it alone. -/
theorem conversion_conservative_amounts :
    (∀ items, .array items ∉ amounts) ∧
    (∀ number, .number number ∈ amounts → number.isNaN = false) ∧
    Conservative (isMember amounts) Eq (coerceEnum · amounts) ∧
    coerceEnum (.array [.string "2"]) amounts = .integer 2 := by
  have unlisted : ∀ items, .array items ∉ amounts := by simp [amounts]
  have real : ∀ number, .number number ∈ amounts → number.isNaN = false := by
    simp [amounts]
    decide
  obtain ⟨_, _, _, _, literal⟩ := conversion_conservative .library
  exact ⟨unlisted, real, literal amounts unlisted real, by decide⟩

end Coercion

end DocSchema
