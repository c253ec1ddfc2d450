import DocSchema.Double.Basic
import DocSchema.Keyed
import DocSchema.Path

/-!
# Document trees

A tree is built of scalars, arrays and records. Integers are kept apart from other
numbers so that integer-valued properties can be checked. Two equalities are in use:
`Node.equals` is that of the values (the order of keys does not matter, both zeros
are equal and what is not a number equals nothing, itself included), and `=` is that
of the representation, which is decidable.
-/

namespace DocSchema

/-- A value in a document tree. -/
inductive Node where
  | null
  | boolean (value : Bool)
  | integer (value : Int64)
  | number (value : Double)
  | string (text : String)
  | array (items : List Node)
  | record (fields : List (String × Node))

namespace Node

/-- The kind of a value as it is named in messages. -/
def kindName : Node → String
  | null => "null"
  | boolean _ => "boolean"
  | integer _ => "integer"
  | number _ => "number"
  | string _ => "string"
  | array _ => "array"
  | record _ => "record"

/-- The key of the discriminator, which names the type of a record. -/
def typeKey : String := "type"

/-- The discriminator among the fields of a record, if it is a string. -/
def discriminator? (fields : Keyed Node) : Option String :=
  match Keyed.get? fields typeKey with
  | some (string text) => some text
  | _ => none

/-- The discriminator of a record. -/
def typeName? : Node → Option String
  | record fields => discriminator? fields
  | _ => none

/-- The fields of a record that holds its discriminator only. -/
def typedFields (typeName : String) : Keyed Node := [(typeKey, string typeName)]

def isString : Node → Bool
  | string _ => true
  | _ => false

/-! ### Size -/

mutual

/-- The size of a value. A field counts more than its value, so that a field's value
wrapped into an array is still smaller than the record. -/
def weight : Node → Nat
  | array items => 1 + itemsWeight items
  | record fields => 1 + fieldsWeight fields
  | _ => 1

def itemsWeight : List Node → Nat
  | [] => 0
  | item :: rest => 1 + item.weight + itemsWeight rest

def fieldsWeight : List (String × Node) → Nat
  | [] => 0
  | (_, value) :: rest => 3 + value.weight + fieldsWeight rest

end

theorem weight_lt_of_mem_fields {fields : List (String × Node)} {key : String} {value : Node}
    (member : (key, value) ∈ fields) : value.weight + 3 ≤ fieldsWeight fields := by
  induction fields with
  | nil => simp at member
  | cons field rest ih =>
    rcases List.mem_cons.mp member with rfl | later
    · simp only [fieldsWeight]; omega
    · have := ih later
      simp only [fieldsWeight]; omega

theorem weight_lt_of_mem_items {items : List Node} {item : Node} (member : item ∈ items) :
    item.weight + 1 ≤ itemsWeight items := by
  induction items with
  | nil => simp at member
  | cons first rest ih =>
    rcases List.mem_cons.mp member with rfl | later
    · simp only [itemsWeight]; omega
    · have := ih later
      simp only [itemsWeight]; omega

/-! ### Equality of representations -/

mutual

/-- Whether two values are represented alike. -/
def same : Node → Node → Bool
  | null, null => true
  | boolean left, boolean right => left == right
  | integer left, integer right => left == right
  | number left, number right => left == right
  | string left, string right => left == right
  | array left, array right => sameItems left right
  | record left, record right => sameFields left right
  | _, _ => false

def sameItems : List Node → List Node → Bool
  | [], [] => true
  | left :: lefts, right :: rights => same left right && sameItems lefts rights
  | _, _ => false

def sameFields : List (String × Node) → List (String × Node) → Bool
  | [], [] => true
  | (leftKey, left) :: lefts, (rightKey, right) :: rights =>
    leftKey == rightKey && same left right && sameFields lefts rights
  | _, _ => false

end

mutual

theorem same_iff : ∀ left right : Node, same left right = true ↔ left = right
  | null, right => by cases right <;> simp [same]
  | boolean _, right => by cases right <;> simp [same]
  | integer _, right => by cases right <;> simp [same]
  | number _, right => by cases right <;> simp [same]
  | string _, right => by cases right <;> simp [same]
  | array left, right => by cases right <;> simp [same, sameItems_iff left]
  | record left, right => by cases right <;> simp [same, sameFields_iff left]

theorem sameItems_iff : ∀ left right : List Node, sameItems left right = true ↔ left = right
  | [], right => by cases right <;> simp [sameItems]
  | left :: lefts, right => by
    cases right <;> simp [sameItems, same_iff left, sameItems_iff lefts]

theorem sameFields_iff :
    ∀ left right : List (String × Node), sameFields left right = true ↔ left = right
  | [], right => by cases right <;> simp [sameFields]
  | (key, left) :: lefts, right => by
    cases right <;>
      simp [sameFields, same_iff left, sameFields_iff lefts, Prod.ext_iff]

end

instance : DecidableEq Node := fun left right =>
  decidable_of_iff (same left right = true) (same_iff left right)

/-! ### Equality of values -/

mutual

/-- Whether two values are equal, whatever the order of their keys. -/
def equals : Node → Node → Bool
  | null, null => true
  | boolean left, boolean right => left == right
  | integer left, integer right => left == right
  | number left, number right => left.equals right
  | string left, string right => left == right
  | array left, array right => equalsItems left right
  | record left, record right => left.length == right.length && equalsFields left right
  | _, _ => false

def equalsItems : List Node → List Node → Bool
  | [], [] => true
  | left :: lefts, right :: rights => equals left right && equalsItems lefts rights
  | _, _ => false

/-- Whether every field has its equal under the same key of `others`. -/
def equalsFields : List (String × Node) → List (String × Node) → Bool
  | [], _ => true
  | (key, value) :: rest, others =>
    (match Keyed.get? others key with
      | some other => equals value other
      | none => false) && equalsFields rest others

end

/-! ### Distinct keys -/

mutual

/-- Whether the keys of every record in a tree are distinct. -/
def distinctKeys : Node → Bool
  | array items => distinctKeysItems items
  | record fields => decide (Keyed.Distinct fields) && distinctKeysFields fields
  | _ => true

def distinctKeysItems : List Node → Bool
  | [] => true
  | item :: rest => distinctKeys item && distinctKeysItems rest

def distinctKeysFields : List (String × Node) → Bool
  | [] => true
  | (_, value) :: rest => distinctKeys value && distinctKeysFields rest

end

theorem distinctKeysItems_iff {items : List Node} :
    distinctKeysItems items = true ↔ ∀ item ∈ items, item.distinctKeys = true := by
  induction items with
  | nil => simp [distinctKeysItems]
  | cons item rest ih => simp [distinctKeysItems, ih]

theorem distinctKeysFields_iff {fields : List (String × Node)} :
    distinctKeysFields fields = true ↔
      ∀ key value, (key, value) ∈ fields → value.distinctKeys = true := by
  induction fields with
  | nil => simp [distinctKeysFields]
  | cons field rest ih =>
    obtain ⟨key, value⟩ := field
    simp only [distinctKeysFields, Bool.and_eq_true, ih, List.mem_cons, Prod.mk.injEq]
    constructor
    · rintro ⟨here, later⟩ other inner (⟨_, rfl⟩ | member)
      · exact here
      · exact later other inner member
    · intro all
      exact ⟨all key value (.inl ⟨rfl, rfl⟩), fun other inner member => all other inner (.inr member)⟩

theorem distinctKeys_array_iff {items : List Node} :
    (array items).distinctKeys = true ↔ ∀ item ∈ items, item.distinctKeys = true := by
  rw [distinctKeys, distinctKeysItems_iff]

theorem distinctKeys_record_iff {fields : List (String × Node)} :
    (record fields).distinctKeys = true ↔ Keyed.Distinct fields ∧
      ∀ key value, (key, value) ∈ fields → value.distinctKeys = true := by
  rw [distinctKeys, Bool.and_eq_true, decide_eq_true_iff, distinctKeysFields_iff]

end Node

end DocSchema
