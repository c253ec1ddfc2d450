import DocSchema.Double.Shortest

/-!
# Written forms of numbers

Every written form uses the shortest digits; a `Double.Style` fixes the rest. Three
styles are in use: JSON text, plain text as it stands in messages and converted
strings, and the tagged form of values that JSON cannot hold.
-/

namespace DocSchema.Double

/-- How the digits of a number are laid out. -/
structure Style where
  /-- The decimal exponents of the first digit that are written without an exponent:
  the least, and the first one beyond. All are if absent. -/
  positional : Option (Int × Int)
  /-- Whether a whole number written without exponent ends in `.0`. -/
  pointed : Bool
  /-- Whether a positive exponent carries a sign. -/
  signedExponent : Bool
  tie : Tie

/-- JSON text: `2.0`, `0.00001`, `1e+16`, `1e-6`. -/
def jsonStyle : Style := ⟨some (-5, 16), true, true, .toEven⟩

/-- Text in messages and strings: `2`, `0.0000001`, `10000000000000000`. -/
def plainStyle : Style := ⟨none, false, false, .upward⟩

/-- Text in tagged values: `2.0`, `0.0001`, `1e16`, `1e-5`. -/
def taggedStyle : Style := ⟨some (-4, 16), true, false, .upward⟩

/-- Digits written out around the decimal point, zeros filling both sides. -/
def positionalText (style : Style) (digits : List Char) (exponent : Int) : List Char :=
  if 0 ≤ exponent then
    digits ++ List.replicate exponent.natAbs '0' ++ (if style.pointed then ['.', '0'] else [])
  else
    let places := exponent.natAbs
    if places < digits.length then
      digits.take (digits.length - places) ++ '.' :: digits.drop (digits.length - places)
    else '0' :: '.' :: List.replicate (places - digits.length) '0' ++ digits

/-- One digit, a point if more follow, and the exponent of the first digit. -/
def exponentText (style : Style) (digits : List Char) (leading : Int) : List Char :=
  let fraction := match digits.drop 1 with
    | [] => []
    | more => '.' :: more
  let sign := if leading < 0 then ['-'] else if style.signedExponent then ['+'] else []
  digits.take 1 ++ fraction ++ 'e' :: sign ++ leading.natAbs.repr.toList

/-- The absolute value of a finite number in a style. -/
def absoluteText (style : Style) (number : Double) : List Char :=
  if number.isZero then if style.pointed then ['0', '.', '0'] else ['0']
  else
    let decimal := number.shortest style.tie
    let digits := decimal.digits.repr.toList
    let leading := decimal.exponent + digits.length - 1
    let isPositional := match style.positional with
      | none => true
      | some (least, beyond) => least ≤ leading && leading < beyond
    if isPositional then positionalText style digits decimal.exponent
    else exponentText style digits leading

/-- A number in a style. -/
def text (style : Style) (number : Double) : String :=
  if number.isNaN then "NaN"
  else
    let unsigned := if number.isFinite then absoluteText style number else ['i', 'n', 'f']
    String.ofList (if number.isNegative then '-' :: unsigned else unsigned)

/-- A number as it stands in messages and converted strings. -/
def plainText (number : Double) : String := number.text plainStyle

end DocSchema.Double
