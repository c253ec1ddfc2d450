import DocSchema.Double.Basic

/-!
# Shortest decimal digits

The fewest significant decimal digits that are read back as the same number. On
each decimal grid, from the coarsest to the one of seventeen digits, only the two
neighbours of the number can be nearest to it; the first grid on which a neighbour
lies in the interval of reals that round to the number gives the digits. Of two
such neighbours the nearer wins, and `Tie` says what happens half way.
-/

namespace DocSchema

/-- Which of two equally near decimals is taken. -/
inductive Tie where
  | toEven
  | upward
deriving DecidableEq, Repr

/-- The value `digits · 10 ^ exponent`. -/
structure Decimal where
  digits : Nat
  exponent : Int
deriving DecidableEq, Repr

namespace Decimal

/-- The same value without trailing zeros among its digits. -/
def trim (decimal : Decimal) : Decimal :=
  if nonzero : 0 < decimal.digits ∧ decimal.digits % 10 = 0 then
    trim ⟨decimal.digits / 10, decimal.exponent + 1⟩
  else decimal
termination_by decimal.digits

end Decimal

namespace Double

-- Powers of the core library, as in `DocSchema.Double.Basic`.
attribute [local instance(high)] instPowNat

/-- The size in units of one step of the grid `10 ^ exponent`, as a quotient. -/
def gridStep (exponent : Int) : Nat × Nat :=
  if exponent < 0 then (unitsPerOne, 10 ^ exponent.natAbs)
  else (10 ^ exponent.natAbs * unitsPerOne, 1)

/-- Whether `digits` steps of a grid are rounded to the magnitude of `number`. The
ends of the interval belong to it iff the significand is even. Below a power of two
the neighbouring number is only half as far away. -/
def isReadBack (number : Double) (step : Nat × Nat) (digits : Nat) : Bool :=
  let gap := 2 ^ number.scale
  let below := if number.significand == 2 ^ (52 : Nat) && 0 < number.scale then gap else 2 * gap
  let lower := (4 * number.absoluteUnits - below) * step.2
  let upper := (4 * number.absoluteUnits + 2 * gap) * step.2
  -- Everything is counted in quarters of a unit, so that half a gap is a whole number.
  let point := 4 * digits * step.1
  if number.significand % 2 == 0 then lower ≤ point && point ≤ upper
  else lower < point && point < upper

/-- The neighbour of `number` on a grid that is read back as `number`, the nearer one
if both are. -/
def onGrid? (number : Double) (tie : Tie) (exponent : Int) : Option Nat :=
  let step := gridStep exponent
  let place := number.absoluteUnits * step.2
  let lower := place / step.1
  let upper := lower + 1
  match number.isReadBack step lower, number.isReadBack step upper with
  | false, false => none
  | true, false => some lower
  | false, true => some upper
  | true, true =>
    let toLower := place - lower * step.1
    let toUpper := upper * step.1 - place
    if toLower < toUpper then some lower
    else if toUpper < toLower then some upper
    else match tie with
      | .upward => some upper
      | .toEven => some (if lower % 2 == 0 then lower else upper)

/-- Whether `10 ^ exponent` is at most the absolute value of `number`. -/
def isAtLeastPower (number : Double) (exponent : Int) : Bool :=
  let step := gridStep exponent
  step.1 ≤ number.absoluteUnits * step.2

/-- The decimal exponent of the first digit of a finite number other than zero. The
binary exponent gives it up to one. -/
def leadingExponent (number : Double) : Int :=
  let estimate := ((number.absoluteUnits.log2 : Int) - 1074) * 30103 / 100000
  if number.isAtLeastPower (estimate + 1) then estimate + 1
  else if number.isAtLeastPower estimate then estimate
  else estimate - 1

/-- The fewest digits that are read back as the magnitude of a finite number other
than zero, as near to it as that many digits can be. -/
def shortest (number : Double) (tie : Tie) : Decimal :=
  -- Seventeen digits always suffice, so the search ends with an answer.
  let leading := number.leadingExponent
  let found := (List.range 17).findSome? fun (count : Nat) =>
    let exponent := leading - count
    (number.onGrid? tie exponent).map fun digits => Decimal.trim ⟨digits, exponent⟩
  found.getD ⟨0, 0⟩

end Double

end DocSchema
