import DocSchema.Double.Reader
import DocSchema.Text.Space
import DocSchema.Validation.Literal

/-!
# Converting values without parts

A value is converted towards a kind where its meaning is beyond doubt. What cannot be
converted stays as it is, for the validator to report.
-/

namespace DocSchema.Coercion

-- Powers of the core library, as in `DocSchema.Double.Basic`.
attribute [local instance(high)] instPowNat

/-- The only item of an array of one item; any other value stays. -/
def unwrapSingleton (node : Node) : Node :=
  match node with
  | .array [item] => item
  | _ => node

/-- The signed 64-bit integer that a decimal text writes, with or without a sign. -/
def readInteger? (characters : List Char) : Option Int64 :=
  let (negative, digits) := match characters with
    | '-' :: rest => (true, rest)
    | '+' :: rest => (false, rest)
    | rest => (false, rest)
  if digits.isEmpty || !digits.all Char.isDigit then none
  else
    let size : Int := Double.readDigits 0 digits
    let value := if negative then -size else size
    if -2 ^ (63 : Nat) ≤ value ∧ value < 2 ^ (63 : Nat) then some (Int64.ofInt value) else none

/-- The finite number that a text writes, as an integer if it can be one. -/
def readNumber? (text : String) : Option Node :=
  let characters := Text.trim text.toList
  match readInteger? characters with
  | some value => some (.integer value)
  | none =>
    match Double.ofText? (String.ofList characters) with
    | some number => if number.isFinite then some (.number number) else none
    | none => none

/-- The integer of a boolean value. -/
def ofBoolean (value : Bool) : Int64 := if value then 1 else 0

def toText (node : Node) : Node :=
  match node with
  | .integer value => .string (Json.integerText value.toInt)
  | .number number => if number.isFinite then .string number.plainText else node
  | .boolean value => .string (Json.booleanText value)
  | .null => .string ""
  | .string _ | .array _ | .record _ => node

def toNumber (node : Node) : Node :=
  match node with
  | .string text => (readNumber? text).getD node
  | .boolean value => .integer (ofBoolean value)
  | .null => .integer 0
  | _ => node

/-- The integer of a whole number; any other number stays. -/
def wholeNumber (node : Node) (number : Double) : Node :=
  match number.toInt64? with
  | some value => .integer value
  | none => node

def toInteger (node : Node) : Node :=
  match node with
  | .string text =>
    match readNumber? text with
    | some (.integer value) => .integer value
    | some (.number number) => wholeNumber node number
    | _ => node
  | .number number => wholeNumber node number
  | .boolean value => .integer (ofBoolean value)
  | .null => .integer 0
  | _ => node

def toBoolean (node : Node) : Node :=
  match node with
  | .string text =>
    if text = "true" then .boolean true else if text = "false" then .boolean false else node
  | .integer value =>
    if value = 0 then .boolean false else if value = 1 then .boolean true else node
  | .null => .boolean false
  | .boolean _ | .number _ | .array _ | .record _ => node

def toNull (node : Node) : Node :=
  match node with
  | .string text => if text = "" then .null else node
  | .integer value => if value = 0 then .null else node
  | .boolean value => if value then node else .null
  | .null | .number _ | .array _ | .record _ => node

/-- Converts a value, or the only item of an array, towards a kind. -/
def coerceScalar (node : Node) (kind : Scalar) : Node :=
  let node := unwrapSingleton node
  match kind with
  | .null => toNull node
  | .boolean => toBoolean node
  | .integer => toInteger node
  | .number => toNumber node
  | .string => toText node

/-- The text by which a value without parts is told among literal values. -/
def spelled? (node : Node) : Option String :=
  match node with
  | .null => some "null"
  | .boolean value => some (Json.booleanText value)
  | .integer value => some (Json.integerText value.toInt)
  | .number number => some number.plainText
  | .string text => some text
  | .array _ => none
  | .record _ => none

/-- Replaces a value, or the only item of an array, by the literal value it spells. -/
def coerceEnum (node : Node) (values : List Node) : Node :=
  let node := unwrapSingleton node
  if Validation.isMember values node then node
  else
    match spelled? node with
    | none => node
    | some spelling => (values.find? fun value => spelled? value == some spelling).getD node

end DocSchema.Coercion
