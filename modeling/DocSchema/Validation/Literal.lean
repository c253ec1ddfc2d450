import DocSchema.Schema.Shape

/-!
# Judging values without parts
-/

namespace DocSchema.Validation

/-- Whether a value is the literal one, an integer and a number being equal if their
values are. -/
def literalMatches (expected actual : Node) : Bool :=
  match expected, actual with
  | .integer value, .number number => (Double.ofInt value.toInt).equals number
  | .number number, .integer value => (Double.ofInt value.toInt).equals number
  | expected, actual => expected.equals actual

/-- Whether a value is one of the literal ones. -/
def isMember (values : List Node) (node : Node) : Bool :=
  values.any fun value => literalMatches value node

/-- Whether a value has a kind of values without parts. -/
def scalarMatches (kind : Scalar) (node : Node) : Bool :=
  match kind, node with
  | .null, .null => true
  | .boolean, .boolean _ => true
  | .integer, .integer _ => true
  | .integer, .number number => number.isIntegral
  | .number, .integer _ => true
  | .number, .number number => number.isFinite
  | .string, .string _ => true
  | _, _ => false

/-- The kind of a value as errors name it. A number that is not finite is shown. -/
def actualKind (node : Node) : String :=
  match node with
  | .number number =>
    if number.isFinite then node.kindName
    else "non-finite number (" ++ number.plainText ++ ")"
  | _ => node.kindName

/-- What errors name as expected of one of some literal values. -/
def expectedLiterals (values : List Node) : String :=
  match values with
  | [single] => single.literal
  | _ => "one of " ++ Node.literals values

end DocSchema.Validation
