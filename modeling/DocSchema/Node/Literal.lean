import DocSchema.Node.Json
import DocSchema.Text.Quoted

/-!
# Literals in messages

A value is named in a message by its compact JSON text. One that holds a number JSON
has no text for is named in tagged form, every value with its kind around it.
-/

namespace DocSchema.Node

mutual

/-- The tagged form of a value. -/
def tagged : Node → String
  | null => "Null"
  | boolean value => "Boolean(" ++ Json.booleanText value ++ ")"
  | integer value => "Integer(" ++ Json.integerText value.toInt ++ ")"
  | number value => "Number(" ++ value.text Double.taggedStyle ++ ")"
  | string text => "String(" ++ Text.quoted text ++ ")"
  | array items => "Array([" ++ ", ".intercalate (taggedItems items) ++ "])"
  | record fields => "Record(Record(\x7b" ++ ", ".intercalate (taggedFields fields) ++ "\x7d))"

def taggedItems : List Node → List String
  | [] => []
  | item :: rest => tagged item :: taggedItems rest

def taggedFields : List (String × Node) → List String
  | [] => []
  | (key, value) :: rest => (Text.quoted key ++ ": " ++ tagged value) :: taggedFields rest

end

/-- A value as it is named in a message. -/
def literal (node : Node) : String :=
  match node.jsonText with
  | .ok text => text
  | .error _ => node.tagged

/-- Values as they are named in a message. -/
def literals (values : List Node) : String :=
  "[" ++ ", ".intercalate (values.map literal) ++ "]"

end DocSchema.Node
