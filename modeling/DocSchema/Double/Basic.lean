/-!
# Double-precision numbers

A number is its 64-bit word: a sign, an exponent field of eleven bits and a
fraction field of fifty-two. Everything here is exact integer arithmetic. A
finite number is a whole multiple of the smallest positive one, 2⁻¹⁰⁷⁴, and
`Double.units` is that multiple, so comparisons and divisibility questions need
no rational numbers. All rounding goes through `Double.ofRatio`.
-/

namespace DocSchema

/-- A 64-bit binary floating-point number, held as its word. -/
structure Double where
  word : UInt64
deriving DecidableEq, Repr

namespace Double

-- Powers are those of the core library, whichever libraries are imported. Literal exponents
-- are typed for the same reason.
attribute [local instance(high)] instPowNat

/-- The word without its sign bit. It orders the non-negative numbers. -/
def magnitude (number : Double) : Nat := number.word.toNat % 2 ^ (63 : Nat)

/-- The magnitude of the infinities; larger ones are not numbers. -/
def infiniteMagnitude : Nat := 2047 * 2 ^ (52 : Nat)

def isNegative (number : Double) : Bool := 2 ^ (63 : Nat) ≤ number.word.toNat

def isFinite (number : Double) : Bool := number.magnitude < infiniteMagnitude

def isNaN (number : Double) : Bool := infiniteMagnitude < number.magnitude

def isZero (number : Double) : Bool := number.magnitude == 0

/-- The number with this sign and magnitude. -/
def ofMagnitude (negative : Bool) (magnitude : Nat) : Double :=
  ⟨UInt64.ofNat (if negative then magnitude + 2 ^ (63 : Nat) else magnitude)⟩

def zero (negative : Bool) : Double := ofMagnitude negative 0

def infinity (negative : Bool) : Double := ofMagnitude negative infiniteMagnitude

/-- The quiet value that is not a number. -/
def notANumber : Double := ofMagnitude false (infiniteMagnitude + 2 ^ (51 : Nat))

/-- The integer significand of a finite number, below 2⁵³. -/
def significand (number : Double) : Nat :=
  if number.magnitude < 2 ^ (52 : Nat) then number.magnitude
  else number.magnitude % 2 ^ (52 : Nat) + 2 ^ (52 : Nat)

/-- The power of two that the significand is multiplied with, counted from 2⁻¹⁰⁷⁴. -/
def scale (number : Double) : Nat := number.magnitude / 2 ^ (52 : Nat) - 1

/-- The absolute value of a finite number in multiples of 2⁻¹⁰⁷⁴. -/
def absoluteUnits (number : Double) : Nat := number.significand * 2 ^ number.scale

/-- A finite number in multiples of 2⁻¹⁰⁷⁴. -/
def units (number : Double) : Int :=
  if number.isNegative then -(number.absoluteUnits : Int) else number.absoluteUnits

/-- The number of units in one. -/
def unitsPerOne : Nat := 2 ^ (1074 : Nat)

/-- Numeric equality: both zeros are equal, and what is not a number equals nothing. -/
def equals (left right : Double) : Bool :=
  !left.isNaN && !right.isNaN && (left.word == right.word || (left.isZero && right.isZero))

/-! ### Rounding -/

/-- The quotient rounded to the nearest whole number, a half to the even neighbour. -/
def roundHalfEven (numerator denominator : Nat) : Nat :=
  let whole := numerator / denominator
  let rest := numerator % denominator
  if 2 * rest < denominator || (2 * rest == denominator && whole % 2 == 0) then whole
  else whole + 1

/-- The number nearest to a quotient of naturals, a tie going to the even
significand and too large a quotient to infinity. The significand that rounds up
to 2⁵³ carries into the exponent field by itself. -/
def ofRatio (negative : Bool) (numerator denominator : Nat) : Double :=
  let units := numerator * unitsPerOne
  -- At this scale the quotient has 53 bits, or fewer if it is below the normal numbers.
  let scale := (units / denominator).log2 - 52
  let magnitude := scale * 2 ^ (52 : Nat) + roundHalfEven units (denominator * 2 ^ scale)
  ofMagnitude negative (min magnitude infiniteMagnitude)

/-- The number nearest to an integer. -/
def ofInt (value : Int) : Double := ofRatio (value < 0) value.natAbs 1

/-- The product of two finite non-negative numbers, rounded. -/
def product (left right : Double) : Double :=
  ofRatio false (left.absoluteUnits * right.absoluteUnits) (unitsPerOne * unitsPerOne)

/-- The quotient of two finite non-negative numbers, rounded. -/
def quotient (left right : Double) : Double :=
  ofRatio false left.absoluteUnits right.absoluteUnits

/-- The same number with this sign. -/
def withSign (number : Double) (negative : Bool) : Double :=
  ofMagnitude negative number.magnitude

/-! ### Whole numbers -/

/-- The integer a number stands for, if it is whole and lies in the signed 64-bit
range. -/
def toInt64? (number : Double) : Option Int64 :=
  let value := number.units / (unitsPerOne : Int)
  if number.isFinite && number.units % (unitsPerOne : Int) == 0
      && decide (-2 ^ (63 : Nat) ≤ value) && decide (value < 2 ^ (63 : Nat))
  then some (Int64.ofInt value) else none

/-- Whether a number is whole and lies in the signed 64-bit range. -/
def isIntegral (number : Double) : Bool := number.toInt64?.isSome

end Double

end DocSchema
