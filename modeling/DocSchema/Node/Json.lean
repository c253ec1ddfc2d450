import DocSchema.Node.Basic
import DocSchema.Json.Printer

/-!
# Trees and JSON values

Reading a JSON value as a tree always succeeds: an integer beyond the signed 64-bit
range becomes the nearest floating-point number. Writing fails at the first number in
the tree that is not finite.
-/

namespace DocSchema

/-- A number that JSON cannot hold, and where it stands. -/
structure NonFinite where
  value : Double
  path : Path
deriving DecidableEq

namespace NonFinite

def message (error : NonFinite) : String :=
  "Invalid number: cannot represent " ++ error.value.plainText
    ++ " as a JSON number at path " ++ Path.text error.path

end NonFinite

section Sequence

variable {ε α β : Type} {run : Except ε α} {next : α → Except ε β}

theorem bind_eq_ok_iff {result : β} :
    (run >>= next) = .ok result ↔ ∃ value, run = .ok value ∧ next value = .ok result := by
  cases run <;> simp [bind, Except.bind]

theorem bind_eq_error_iff {error : ε} :
    (run >>= next) = .error error ↔
      run = .error error ∨ ∃ value, run = .ok value ∧ next value = .error error := by
  cases run <;> simp [bind, Except.bind]

end Sequence

namespace Node

-- Powers of the core library, as in `DocSchema.Double.Basic`.
attribute [local instance(high)] instPowNat

mutual

/-- The tree a JSON value stands for. -/
def ofJson : Json → Node
  | .null => null
  | .boolean value => boolean value
  | .integer value =>
    if -2 ^ (63 : Nat) ≤ value ∧ value < 2 ^ (63 : Nat) then integer (Int64.ofInt value)
    else number (Double.ofInt value)
  | .number value _ => number value
  | .string text => string text
  | .array items => array (ofJsonItems items)
  | .object fields => record (Keyed.ofEntries (ofJsonFields fields))

def ofJsonItems : List Json → List Node
  | [] => []
  | item :: rest => ofJson item :: ofJsonItems rest

def ofJsonFields : List (String × Json) → List (String × Node)
  | [] => []
  | (key, value) :: rest => (key, ofJson value) :: ofJsonFields rest

end

mutual

/-- Of members with one key the tree keeps one. -/
theorem distinctKeys_ofJson : ∀ json : Json, (ofJson json).distinctKeys = true
  | .null => rfl
  | .boolean _ => rfl
  | .integer value => by
    rw [ofJson]
    split <;> rfl
  | .number _ _ => rfl
  | .string _ => rfl
  | .array items => by
    rw [ofJson, distinctKeys_array_iff]
    exact distinctKeys_ofJsonItems items
  | .object fields => by
    rw [ofJson, distinctKeys_record_iff]
    exact ⟨Keyed.distinct_ofEntries _, fun key value member =>
      distinctKeys_ofJsonFields fields key value (Keyed.mem_of_mem_ofEntries member)⟩

theorem distinctKeys_ofJsonItems :
    ∀ items : List Json, ∀ item ∈ ofJsonItems items, item.distinctKeys = true
  | [] => by simp [ofJsonItems]
  | item :: rest => by
    intro node member
    rcases List.mem_cons.mp member with rfl | later
    · exact distinctKeys_ofJson item
    · exact distinctKeys_ofJsonItems rest node later

theorem distinctKeys_ofJsonFields : ∀ fields : List (String × Json), ∀ key value,
    (key, value) ∈ ofJsonFields fields → value.distinctKeys = true
  | [] => by simp [ofJsonFields]
  | (name, json) :: rest => by
    intro key value member
    rcases List.mem_cons.mp member with same | later
    · cases same
      exact distinctKeys_ofJson json
    · exact distinctKeys_ofJsonFields rest key value later

end

mutual

/-- The JSON value of a tree found at `path`, or its first number that is not finite. -/
def toJsonAt (path : Path) : Node → Except NonFinite Json
  | null => .ok .null
  | boolean value => .ok (.boolean value)
  | integer value => .ok (.integer value.toInt)
  | number value =>
    if finite : value.isFinite = true then .ok (.number value finite) else .error ⟨value, path⟩
  | string text => .ok (.string text)
  | array items => do
    let items ← toJsonItems path 0 items
    pure (.array items)
  | record fields => do
    let fields ← toJsonFields path fields
    pure (.object fields)

def toJsonItems (path : Path) (position : Nat) : List Node → Except NonFinite (List Json)
  | [] => .ok []
  | item :: rest => do
    let item ← toJsonAt (path.index position) item
    let rest ← toJsonItems path (position + 1) rest
    pure (item :: rest)

def toJsonFields (path : Path) :
    List (String × Node) → Except NonFinite (List (String × Json))
  | [] => .ok []
  | (key, value) :: rest => do
    let value ← toJsonAt (path.property key) value
    let rest ← toJsonFields path rest
    pure ((key, value) :: rest)

end

/-- The JSON value of a tree. -/
def toJson (node : Node) : Except NonFinite Json := node.toJsonAt []

/-- The compact JSON text of a tree. -/
def jsonText (node : Node) : Except NonFinite String := node.toJson.map Json.compact

end Node

end DocSchema
