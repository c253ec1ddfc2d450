import DocSchema.Double.Basic
import Mathlib.Tactic.ByContra

/-!
# Whole numbers

Converting the integer that a number stands for gives back that number, or the other zero: no
rounding takes place. Main statement: `equals_ofInt`.
-/

namespace DocSchema.Double

-- Powers of the core library, as in `DocSchema.Double.Basic`.
attribute [local instance(high)] instPowNat

/-! ### Equality -/

theorem equals_comm (left right : Double) : left.equals right = right.equals left := by
  simp only [equals, Bool.and_comm, Bool.beq_comm]

theorem equals_trans {first second third : Double} (start : first.equals second = true)
    (next : second.equals third = true) : first.equals third = true := by
  obtain ⟨a⟩ := first
  obtain ⟨b⟩ := second
  obtain ⟨c⟩ := third
  simp only [equals, Bool.and_eq_true, Bool.or_eq_true, beq_iff_eq, Bool.not_eq_true'] at *
  obtain ⟨⟨firstIs, _⟩, same⟩ := start
  obtain ⟨⟨_, thirdIs⟩, also⟩ := next
  refine ⟨⟨firstIs, thirdIs⟩, ?_⟩
  rcases same with rfl | zero
  · exact also
  · rcases also with rfl | other
    · exact .inr zero
    · exact .inr ⟨zero.1, other.2⟩

/-! ### Exact rounding -/

theorem ofMagnitude_self (number : Double) :
    ofMagnitude number.isNegative number.magnitude = number := by
  obtain ⟨word⟩ := number
  have bound := word.toNat_lt
  have same : (if (⟨word⟩ : Double).isNegative then (⟨word⟩ : Double).magnitude + 2 ^ (63 : Nat)
      else (⟨word⟩ : Double).magnitude) = word.toNat := by
    simp only [isNegative, magnitude, decide_eq_true_eq]
    split <;> omega
  rw [ofMagnitude, same, UInt64.ofNat_toNat]

theorem normal_le_unitsPerOne : 2 ^ (52 : Nat) ≤ unitsPerOne := by
  rw [unitsPerOne]
  apply Nat.pow_le_pow_right
  · decide
  · decide

theorem roundHalfEven_mul (whole : Nat) {denominator : Nat} (positive : 0 < denominator) :
    roundHalfEven (whole * denominator) denominator = whole := by
  simp [roundHalfEven, Nat.mul_div_cancel _ positive, positive]

theorem significand_bounds {number : Double} (normal : 2 ^ (52 : Nat) ≤ number.magnitude) :
    2 ^ (52 : Nat) ≤ number.significand ∧ number.significand < 2 ^ (53 : Nat) := by
  rw [significand, if_neg (Nat.not_lt.mpr normal)]
  omega

theorem log2_absoluteUnits {number : Double} (normal : 2 ^ (52 : Nat) ≤ number.magnitude) :
    number.absoluteUnits.log2 = number.scale + 52 := by
  obtain ⟨low, high⟩ := significand_bounds normal
  have unit : 0 < 2 ^ number.scale := Nat.two_pow_pos _
  have lower : 2 ^ (number.scale + 52) ≤ number.absoluteUnits := by
    rw [Nat.pow_add, Nat.mul_comm, absoluteUnits]
    exact Nat.mul_le_mul_right _ low
  have upper : number.absoluteUnits < 2 ^ (number.scale + 52 + 1) := by
    rw [Nat.add_assoc, Nat.pow_add, Nat.mul_comm (2 ^ number.scale), absoluteUnits]
    exact Nat.mul_lt_mul_of_pos_right high unit
  exact (Nat.log2_eq_iff (by omega)).mpr ⟨lower, upper⟩

/-- A whole number of ones that is a normal number is found without rounding. -/
theorem ofRatio_exact {number : Double} (finite : number.isFinite = true)
    (normal : 2 ^ (52 : Nat) ≤ number.magnitude) {count : Nat}
    (equal : count * unitsPerOne = number.absoluteUnits) :
    ofRatio number.isNegative count 1 = number := by
  have below : number.magnitude < infiniteMagnitude := by simpa [isFinite] using finite
  have scaled : (count * unitsPerOne / 1).log2 - 52 = number.scale := by
    rw [Nat.div_one, equal, log2_absoluteUnits normal, Nat.add_sub_cancel]
  have rounded : roundHalfEven (count * unitsPerOne) (1 * 2 ^ number.scale) =
      number.significand := by
    rw [equal, absoluteUnits, Nat.one_mul]
    exact roundHalfEven_mul _ (Nat.two_pow_pos _)
  have whole : number.scale * 2 ^ (52 : Nat) + number.significand = number.magnitude := by
    rw [scale, significand, if_neg (Nat.not_lt.mpr normal)]
    omega
  simp only [ofRatio]
  rw [scaled, rounded, whole, Nat.min_eq_left (Nat.le_of_lt below), ofMagnitude_self]

/-! ### Integers -/

theorem ofInt_zero : ofInt 0 = zero false := by
  simp [ofInt, ofRatio, roundHalfEven, zero]

theorem isNaN_of_isFinite {number : Double} (finite : number.isFinite = true) :
    number.isNaN = false := by
  simp only [isFinite, isNaN, decide_eq_true_eq, decide_eq_false_iff_not] at *
  omega

/-- The number of an integer that a number stands for is that number, or the other zero. -/
theorem equals_ofInt {number : Double} (finite : number.isFinite = true) {value : Int}
    (stands : number.units = value * unitsPerOne) : (ofInt value).equals number = true := by
  have one : (0 : Int) < unitsPerOne := by
    have large := normal_le_unitsPerOne
    omega
  have size : value.natAbs * unitsPerOne = number.absoluteUnits := by
    have same : number.units.natAbs = number.absoluteUnits := by
      rw [units]
      split <;> simp
    rw [← same, stands, Int.natAbs_mul, Int.natAbs_natCast]
  by_cases zero : value = 0
  · subst zero
    have none : number.significand = 0 := by
      have product : number.significand * 2 ^ number.scale = 0 := by
        simpa [absoluteUnits] using size.symm
      exact (Nat.mul_eq_zero.mp product).resolve_right (Nat.ne_of_gt (Nat.two_pow_pos _))
    have empty : number.isZero = true := by
      rw [significand] at none
      rw [isZero, beq_iff_eq]
      split at none <;> omega
    have also : (zero false).isZero = true := by decide
    have real : (zero false).isNaN = false := by decide
    simp [ofInt_zero, equals, empty, also, real, isNaN_of_isFinite finite]
  · have normal : 2 ^ (52 : Nat) ≤ number.magnitude := by
      -- Below the normal numbers all are smaller than one.
      by_contra small
      have low : number.magnitude < 2 ^ (52 : Nat) := Nat.not_le.mp small
      have units : number.absoluteUnits < 2 ^ (52 : Nat) := by
        rw [absoluteUnits, significand, scale, if_pos low, Nat.div_eq_of_lt low]
        simpa using low
      have large := normal_le_unitsPerOne
      have least : 1 * unitsPerOne ≤ value.natAbs * unitsPerOne :=
        Nat.mul_le_mul_right _ (Int.natAbs_pos.mpr zero)
      omega
    have sign : decide (value < 0) = number.isNegative := by
      rw [units] at stands
      cases negative : number.isNegative with
      | true =>
        rw [negative, if_pos rfl] at stands
        have nonpositive : value * unitsPerOne ≤ 0 := by omega
        have below : value ≤ 0 := Int.nonpos_of_mul_nonpos_left nonpositive one
        simp only [decide_eq_true_eq]
        omega
      | false =>
        rw [negative] at stands
        have nonnegative : 0 ≤ value * unitsPerOne := by
          rw [← stands]
          simp
        have above : 0 ≤ value := Int.nonneg_of_mul_nonneg_left nonnegative one
        simp only [decide_eq_false_iff_not]
        omega
    have exact : ofInt value = number := by
      rw [ofInt, sign, ofRatio_exact finite normal size]
    simp [exact, equals, isNaN_of_isFinite finite]

/-- The integers that numbers stand for are found exactly. -/
theorem toInt64?_eq_some_iff {number : Double} {value : Int64} :
    number.toInt64? = some value ↔
      number.isFinite = true ∧ number.units = value.toInt * unitsPerOne := by
  have one : (unitsPerOne : Int) ≠ 0 := by
    have large := normal_le_unitsPerOne
    omega
  constructor
  · intro found
    simp only [toInt64?] at found
    split at found
    next all =>
      simp only [Bool.and_eq_true, beq_iff_eq, decide_eq_true_eq] at all
      obtain ⟨⟨⟨finite, whole⟩, low⟩, high⟩ := all
      cases found
      refine ⟨finite, ?_⟩
      rw [Int64.toInt_ofInt_of_le low high, Int.ediv_mul_cancel (Int.dvd_of_emod_eq_zero whole)]
    next => cases found
  -- An integer of 64 bits is within the bounds that are checked.
  · rintro ⟨finite, stands⟩
    have low := value.le_toInt
    have high := value.toInt_lt
    have quotient : number.units / (unitsPerOne : Int) = value.toInt := by
      rw [stands, Int.mul_ediv_cancel _ one]
    have rest : number.units % (unitsPerOne : Int) = 0 := by
      rw [stands, Int.mul_emod_left]
    simp only [toInt64?, quotient, rest, finite]
    rw [if_pos, Int64.ofInt_toInt]
    simp only [Bool.and_eq_true, decide_eq_true_eq]
    exact ⟨⟨⟨trivial, rfl⟩, low⟩, high⟩

end DocSchema.Double
