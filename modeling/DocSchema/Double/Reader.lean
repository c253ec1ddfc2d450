import DocSchema.Double.Basic

/-!
# Reading numbers

Two ways to read a decimal. `Double.ofText?` is correctly rounded: it reads a sign,
digits with an optional point, an optional exponent, or the names of the values that
are not finite. `Double.ofScaledWord?` is the way of JSON text: the significand is
rounded first and then multiplied or divided by a rounded power of ten, so the
result may be one unit in the last place off.
-/

namespace DocSchema.Double

-- Powers of the core library, as in `DocSchema.Double.Basic`.
attribute [local instance(high)] instPowNat

/-- The value of a decimal digit. -/
def digitValue (digit : Char) : Nat := digit.toNat - '0'.toNat

/-- The natural number that decimal digits write, continued from `start`. -/
def readDigits (start : Nat) (digits : List Char) : Nat :=
  digits.foldl (fun total digit => total * 10 + digitValue digit) start

/-! ### Correctly rounded -/

/-- The number nearest to `digits · 10 ^ exponent`. Exponents far outside the range
of the format are answered without computing the power. -/
def ofDecimal (negative : Bool) (digits : Nat) (exponent : Int) : Double :=
  -- The value lies between a tenth of 10 ^ magnitude and 10 ^ magnitude.
  let magnitude : Int := digits.repr.length + exponent
  if digits = 0 || magnitude < -330 then zero negative
  else if 310 < magnitude then infinity negative
  else if exponent < 0 then ofRatio negative digits (10 ^ exponent.natAbs)
  else ofRatio negative (digits * 10 ^ exponent.natAbs) 1

/-- The exponent after its mark: an optional sign and at least one digit, to the end. -/
def readExponent? (characters : List Char) : Option Int :=
  let (negative, digits) := match characters with
    | '-' :: rest => (true, rest)
    | '+' :: rest => (false, rest)
    | rest => (false, rest)
  if digits.isEmpty || !digits.all Char.isDigit then none
  else
    let size : Int := readDigits 0 digits
    some (if negative then -size else size)

/-- Digits with an optional point and an optional exponent. -/
def readUnsigned? (negative : Bool) (characters : List Char) : Option Double :=
  let whole := characters.takeWhile Char.isDigit
  let afterWhole := characters.dropWhile Char.isDigit
  let (fraction, rest) := match afterWhole with
    | '.' :: more => (more.takeWhile Char.isDigit, more.dropWhile Char.isDigit)
    | more => ([], more)
  if whole.isEmpty && fraction.isEmpty then none
  else
    let digits := readDigits (readDigits 0 whole) fraction
    let finish (exponent : Int) := ofDecimal negative digits (exponent - fraction.length)
    match rest with
    | [] => some (finish 0)
    | mark :: more =>
      if mark == 'e' || mark == 'E' then (readExponent? more).map finish else none

/-- A number written in decimal, or `inf`, `infinity` or `nan` in any case. -/
def ofText? (text : String) : Option Double :=
  let (negative, characters) := match text.toList with
    | '-' :: rest => (true, rest)
    | '+' :: rest => (false, rest)
    | rest => (false, rest)
  match readUnsigned? negative characters with
  | some number => some number
  | none =>
    let name := String.ofList (characters.map Char.toLower)
    if name == "nan" then some notANumber
    else if name == "inf" || name == "infinity" then some (infinity negative)
    else none

/-! ### Stepwise rounded -/

/-- The number nearest to a power of ten. -/
def powerOfTen (exponent : Nat) : Double := ofRatio false (10 ^ exponent) 1

/-- The largest power of ten below infinity. -/
def largestPower : Nat := 308

/-- Divides by a power of ten, by at most `largestPower` at a time. -/
def dividedByPower (number : Double) (exponent : Nat) : Double :=
  if exponent ≤ largestPower then number.quotient (powerOfTen exponent)
  else if number.isZero then number
  else dividedByPower (number.quotient (powerOfTen largestPower)) (exponent - largestPower)
termination_by exponent
decreasing_by simp only [largestPower] at *; omega

/-- The rounded significand scaled by a power of ten, each step rounded. Too large a
result is refused. -/
def ofScaledWord? (negative : Bool) (significand : Nat) (exponent : Int) : Option Double :=
  let number := ofRatio false significand 1
  if exponent < 0 then some ((number.dividedByPower exponent.natAbs).withSign negative)
  else if exponent.natAbs ≤ largestPower then
    let scaled := number.product (powerOfTen exponent.natAbs)
    if scaled.isFinite then some (scaled.withSign negative) else none
  else if number.isZero then some (zero negative)
  else none

end DocSchema.Double
