import DocSchema.Double.Basic

/-!
# JSON values

Integers are kept apart from other numbers, and objects keep the order of their keys.
-/

namespace DocSchema

/-- A JSON value. Its numbers are finite, since JSON has no text for others. -/
inductive Json where
  | null
  | boolean (value : Bool)
  | integer (value : Int)
  | number (value : Double) (finite : value.isFinite = true)
  | string (text : String)
  | array (items : List Json)
  | object (fields : List (String × Json))

instance : Inhabited Json := ⟨.null⟩

end DocSchema
