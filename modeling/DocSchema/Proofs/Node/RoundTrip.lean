import DocSchema.Node.Json
import DocSchema.Proofs.Node.Preorder

/-!
# Trees and JSON values without loss

A tree is written as a JSON value unless it holds a number that is not finite, and the value is
read as that very tree again; otherwise the first such number in pre-order is named. A JSON value
whose integers lie in the signed 64-bit range is read as a tree that is written as that very value.
Main statement: `toJson_lossless`.
-/

namespace DocSchema

namespace Json

mutual

/-- Whether a value and all values inside it pass a test. -/
def everywhere (test : Json → Bool) : Json → Bool
  | array items => test (array items) && everywhereItems test items
  | object fields => test (object fields) && everywhereFields test fields
  | json => test json

def everywhereItems (test : Json → Bool) : List Json → Bool
  | [] => true
  | item :: rest => everywhere test item && everywhereItems test rest

def everywhereFields (test : Json → Bool) : List (String × Json) → Bool
  | [] => true
  | (_, value) :: rest => everywhere test value && everywhereFields test rest

end

/-- Whether the keys of an object are distinct. -/
def keysDiffer : Json → Bool
  | object fields => decide (Keyed.Distinct fields)
  | _ => true

/-- Whether an integer lies in the signed 64-bit range. -/
def integerFits : Json → Bool
  | integer value => decide (Int64.minValue.toInt ≤ value ∧ value ≤ Int64.maxValue.toInt)
  | _ => true

end Json

namespace Node

/-- Whether a value is a number that JSON has no text for. -/
def isNonFinite : Node → Bool
  | number value => !value.isFinite
  | _ => false

/-! ### Writing and reading -/

theorem ofJson_integer (value : Int64) : ofJson (.integer value.toInt) = integer value := by
  have lower := Int64.le_toInt value
  have upper := Int64.toInt_lt value
  rw [ofJson, if_pos ⟨by simpa using lower, by simpa using upper⟩, Int64.ofInt_toInt]

mutual

/-- A tree that could be written holds no number that is not finite, and is read again as it is. -/
theorem ofJson_of_toJsonAt : ∀ (node : Node) {path : Path} {json : Json},
    node.distinctKeys = true → node.toJsonAt path = .ok json →
      ofJson json = node ∧ node.pathsWhere isNonFinite = []
  | null, _, _, _, written | boolean _, _, _, _, written | string _, _, _, _, written => by
    cases written
    exact ⟨rfl, rfl⟩
  | integer value, _, _, _, written => by
    cases written
    exact ⟨ofJson_integer value, rfl⟩
  | number value, _, _, _, written => by
    rw [toJsonAt] at written
    split at written
    next finite =>
      cases written
      exact ⟨rfl, by simp [pathsWhere, rootWhere, isNonFinite, finite]⟩
    next => cases written
  | array items, path, json, distinct, written => by
    rw [distinctKeys_array_iff] at distinct
    rw [toJsonAt, bind_eq_ok_iff] at written
    obtain ⟨jsons, inside, made⟩ := written
    cases made
    obtain ⟨read, none⟩ := ofJson_of_toJsonItems items distinct inside
    exact ⟨by rw [ofJson, read], by simp [pathsWhere, rootWhere, isNonFinite, none]⟩
  | record fields, path, json, distinct, written => by
    rw [distinctKeys_record_iff] at distinct
    rw [toJsonAt, bind_eq_ok_iff] at written
    obtain ⟨jsons, inside, made⟩ := written
    cases made
    obtain ⟨read, none⟩ := ofJson_of_toJsonFields fields distinct.2 inside
    refine ⟨?_, by simp [pathsWhere, rootWhere, isNonFinite, none]⟩
    rw [ofJson, read, Keyed.ofEntries_of_distinct distinct.1]

theorem ofJson_of_toJsonItems : ∀ (items : List Node) {path : Path} {position : Nat}
    {jsons : List Json}, (∀ item ∈ items, item.distinctKeys = true) →
    toJsonItems path position items = .ok jsons →
      ofJsonItems jsons = items ∧ pathsWhereItems isNonFinite position items = []
  | [], _, _, _, _, written => by
    cases written
    exact ⟨rfl, rfl⟩
  | item :: rest, path, position, jsons, distinct, written => by
    simp only [toJsonItems, bind_eq_ok_iff] at written
    obtain ⟨json, first, others, later, made⟩ := written
    cases made
    obtain ⟨read, none⟩ := ofJson_of_toJsonAt item (distinct item List.mem_cons_self) first
    obtain ⟨readRest, noneRest⟩ := ofJson_of_toJsonItems rest
      (fun other member => distinct other (List.mem_cons_of_mem _ member)) later
    exact ⟨by rw [ofJsonItems, read, readRest], by simp [pathsWhereItems, none, noneRest]⟩

theorem ofJson_of_toJsonFields : ∀ (fields : List (String × Node)) {path : Path}
    {jsons : List (String × Json)},
    (∀ key value, (key, value) ∈ fields → value.distinctKeys = true) →
    toJsonFields path fields = .ok jsons →
      ofJsonFields jsons = fields ∧ pathsWhereFields isNonFinite fields = []
  | [], _, _, _, written => by
    cases written
    exact ⟨rfl, rfl⟩
  | (key, value) :: rest, path, jsons, distinct, written => by
    simp only [toJsonFields, bind_eq_ok_iff] at written
    obtain ⟨json, first, others, later, made⟩ := written
    cases made
    obtain ⟨read, none⟩ := ofJson_of_toJsonAt value (distinct key value List.mem_cons_self) first
    obtain ⟨readRest, noneRest⟩ := ofJson_of_toJsonFields rest
      (fun other inner member => distinct other inner (List.mem_cons_of_mem _ member)) later
    exact ⟨by rw [ofJsonFields, read, readRest], by simp [pathsWhereFields, none, noneRest]⟩

end

/-! ### Numbers that are not finite -/

/-- Whether an error names the first of some paths below `above`, and the number there. -/
def Names (error : NonFinite) (above : Path) (paths : List Path) (value : Path → Option Node) :
    Prop :=
  ∃ below, paths.head? = some below ∧ error.path = above ++ below ∧
    value below = some (number error.value)

mutual

/-- Writing fails at the first number in pre-order that is not finite. -/
theorem names_of_toJsonAt : ∀ (node : Node) {path : Path} {error : NonFinite},
    node.distinctKeys = true → node.toJsonAt path = .error error →
      Names error path (node.pathsWhere isNonFinite) node.get?
  | null, _, _, _, failed | boolean _, _, _, _, failed | integer _, _, _, _, failed
  | string _, _, _, _, failed => by cases failed
  | number value, path, error, _, failed => by
    rw [toJsonAt] at failed
    split at failed
    next => cases failed
    next infinite =>
      cases failed
      refine ⟨[], ?_, (List.append_nil path).symm, rfl⟩
      simp [pathsWhere, rootWhere, isNonFinite, infinite]
  | array items, path, error, distinct, failed => by
    rw [distinctKeys_array_iff] at distinct
    rw [toJsonAt, bind_eq_error_iff] at failed
    obtain inside | ⟨_, _, made⟩ := failed
    · obtain ⟨place, item, below, listed, first, stands, reached⟩ :=
        names_of_toJsonItems items distinct inside
      rw [Nat.zero_add] at first stands
      refine ⟨.index place :: below, ?_, stands, ?_⟩
      · simpa [pathsWhere, rootWhere, isNonFinite] using first
      · simp [get?, child?, listed, reached]
    · cases made
  | record fields, path, error, distinct, failed => by
    rw [distinctKeys_record_iff] at distinct
    rw [toJsonAt, bind_eq_error_iff] at failed
    obtain inside | ⟨_, _, made⟩ := failed
    · obtain ⟨key, value, below, listed, first, stands, reached⟩ :=
        names_of_toJsonFields fields distinct.2 inside
      refine ⟨.property key :: below, ?_, stands, ?_⟩
      · simpa [pathsWhere, rootWhere, isNonFinite] using first
      · simp [get?, child?, (Keyed.get?_eq_some_iff distinct.1).mpr listed, reached]
    · cases made

theorem names_of_toJsonItems : ∀ (items : List Node) {path : Path} {position : Nat}
    {error : NonFinite}, (∀ item ∈ items, item.distinctKeys = true) →
    toJsonItems path position items = .error error →
      ∃ place item below, items[place]? = some item ∧
        (pathsWhereItems isNonFinite position items).head? =
          some (.index (position + place) :: below) ∧
        error.path = path ++ .index (position + place) :: below ∧
        item.get? below = some (number error.value)
  | [], _, _, _, _, failed => by cases failed
  | item :: rest, path, position, error, distinct, failed => by
    simp only [toJsonItems, bind_eq_error_iff] at failed
    obtain here | ⟨json, first, later | ⟨_, _, made⟩⟩ := failed
    · obtain ⟨below, head, stands, reached⟩ :=
        names_of_toJsonAt item (distinct item List.mem_cons_self) here
      refine ⟨0, item, below, rfl, ?_, ?_, reached⟩
      · simp [pathsWhereItems, head]
      · simpa [Path.index] using stands
    · -- The item was written, so the first number that is not finite comes after it.
      have none := (ofJson_of_toJsonAt item (distinct item List.mem_cons_self) first).2
      obtain ⟨place, other, below, listed, head, stands, reached⟩ := names_of_toJsonItems rest
        (fun other member => distinct other (List.mem_cons_of_mem _ member)) later
      have counted : position + 1 + place = position + (place + 1) := by omega
      rw [counted] at head stands
      refine ⟨place + 1, other, below, listed, ?_, stands, reached⟩
      simpa [pathsWhereItems, none] using head
    · cases made

theorem names_of_toJsonFields : ∀ (fields : List (String × Node)) {path : Path}
    {error : NonFinite}, (∀ key value, (key, value) ∈ fields → value.distinctKeys = true) →
    toJsonFields path fields = .error error →
      ∃ key value below, (key, value) ∈ fields ∧
        (pathsWhereFields isNonFinite fields).head? = some (.property key :: below) ∧
        error.path = path ++ .property key :: below ∧
        value.get? below = some (number error.value)
  | [], _, _, _, failed => by cases failed
  | (key, value) :: rest, path, error, distinct, failed => by
    simp only [toJsonFields, bind_eq_error_iff] at failed
    obtain here | ⟨json, first, later | ⟨_, _, made⟩⟩ := failed
    · obtain ⟨below, head, stands, reached⟩ :=
        names_of_toJsonAt value (distinct key value List.mem_cons_self) here
      refine ⟨key, value, below, List.mem_cons_self, ?_, ?_, reached⟩
      · simp [pathsWhereFields, head]
      · simpa [Path.property] using stands
    · -- As with items: the value was written, so it is not the one that fails.
      have none := (ofJson_of_toJsonAt value (distinct key value List.mem_cons_self) first).2
      obtain ⟨other, inner, below, listed, head, stands, reached⟩ := names_of_toJsonFields rest
        (fun other inner member => distinct other inner (List.mem_cons_of_mem _ member)) later
      refine ⟨other, inner, below, List.mem_cons_of_mem _ listed, ?_, stands, reached⟩
      simpa [pathsWhereFields, none] using head
    · cases made

end

/-! ### Reading and writing -/

theorem toJsonAt_ofJson_integer {value : Int} (fits : (Json.integer value).integerFits = true)
    (path : Path) : (ofJson (.integer value)).toJsonAt path = .ok (.integer value) := by
  rw [Json.integerFits, decide_eq_true_eq] at fits
  have largest : Int64.maxValue.toInt = 2 ^ 63 - 1 := by decide
  have low : -2 ^ 63 ≤ value := by simpa using fits.1
  have high : value < 2 ^ 63 := by omega
  rw [ofJson, if_pos ⟨low, high⟩, toJsonAt, Int64.toInt_ofInt_of_le low high]

theorem keys_ofJsonFields (fields : List (String × Json)) :
    Keyed.keys (ofJsonFields fields) = Keyed.keys fields := by
  induction fields with
  | nil => rfl
  | cons field rest ih => exact congrArg (field.1 :: ·) ih

mutual

/-- A JSON value is written again as it was read. -/
theorem toJsonAt_ofJson : ∀ (json : Json) (path : Path),
    json.everywhere Json.keysDiffer = true → json.everywhere Json.integerFits = true →
      (ofJson json).toJsonAt path = .ok json
  | .null, _, _, _ | .boolean _, _, _, _ | .string _, _, _, _ => rfl
  | .integer _, path, _, fits => toJsonAt_ofJson_integer fits path
  | .number value finite, path, _, _ => by
    rw [ofJson, toJsonAt, dif_pos finite]
  | .array items, path, differ, fits => by
    simp only [Json.everywhere, Bool.and_eq_true] at differ fits
    rw [ofJson, toJsonAt, toJsonItems_ofJson items path 0 differ.2 fits.2]
    rfl
  | .object fields, path, differ, fits => by
    simp only [Json.everywhere, Bool.and_eq_true] at differ fits
    have distinct : Keyed.Distinct fields := by simpa [Json.keysDiffer] using differ.1
    rw [Keyed.Distinct, ← keys_ofJsonFields] at distinct
    rw [ofJson, Keyed.ofEntries_of_distinct distinct, toJsonAt,
      toJsonFields_ofJson fields path differ.2 fits.2]
    rfl

theorem toJsonItems_ofJson : ∀ (items : List Json) (path : Path) (position : Nat),
    Json.everywhereItems Json.keysDiffer items = true →
      Json.everywhereItems Json.integerFits items = true →
      toJsonItems path position (ofJsonItems items) = .ok items
  | [], _, _, _, _ => rfl
  | item :: rest, path, position, differ, fits => by
    simp only [Json.everywhereItems, Bool.and_eq_true] at differ fits
    rw [ofJsonItems, toJsonItems, toJsonAt_ofJson item _ differ.1 fits.1,
      toJsonItems_ofJson rest _ _ differ.2 fits.2]
    rfl

theorem toJsonFields_ofJson : ∀ (fields : List (String × Json)) (path : Path),
    Json.everywhereFields Json.keysDiffer fields = true →
      Json.everywhereFields Json.integerFits fields = true →
      toJsonFields path (ofJsonFields fields) = .ok fields
  | [], _, _, _ => rfl
  | (key, value) :: rest, path, differ, fits => by
    simp only [Json.everywhereFields, Bool.and_eq_true] at differ fits
    rw [ofJsonFields, toJsonFields, toJsonAt_ofJson value _ differ.1 fits.1,
      toJsonFields_ofJson rest _ differ.2 fits.2]
    rfl

end

/-! ### Both directions -/

/-- A tree without a number that is not finite, and only such a tree, is written. -/
theorem toJson_isOk_iff {node : Node} (distinct : node.distinctKeys = true) :
    (∃ json, node.toJson = .ok json) ↔
      ∀ path value, node.get? path = some (number value) → value.isFinite = true := by
  constructor
  · rintro ⟨json, written⟩ path value reached
    have none := (ofJson_of_toJsonAt node distinct written).2
    by_contra infinite
    have member : path ∈ node.pathsWhere isNonFinite :=
      (mem_pathsWhere_iff distinct).mpr ⟨_, reached, by simpa [isNonFinite] using infinite⟩
    exact List.not_mem_nil (none ▸ member)
  · intro finite
    cases written : node.toJson with
    | ok json => exact ⟨json, rfl⟩
    | error error =>
      obtain ⟨below, first, -, reached⟩ := names_of_toJsonAt node distinct written
      obtain ⟨value, found, infinite⟩ :=
        (mem_pathsWhere_iff distinct).mp (List.mem_of_head? first)
      rw [found] at reached
      cases reached
      simp [isNonFinite, finite below error.value found] at infinite

/-- What the error names, from the root. -/
theorem first_of_toJson {node : Node} (distinct : node.distinctKeys = true) {error : NonFinite}
    (failed : node.toJson = .error error) :
    (node.pathsWhere isNonFinite).head? = some error.path ∧
      node.get? error.path = some (number error.value) := by
  obtain ⟨below, first, stands, reached⟩ := names_of_toJsonAt node distinct failed
  rw [List.nil_append] at stands
  exact stands ▸ ⟨first, reached⟩

/-- Trees and JSON values convert into each other without loss. -/
theorem toJson_lossless :
    (∀ node : Node, node.distinctKeys = true →
      ((∃ json, node.toJson = .ok json) ↔
        ∀ path value, node.get? path = some (number value) → value.isFinite = true) ∧
      (∀ json, node.toJson = .ok json → ofJson json = node) ∧
      ∀ error, node.toJson = .error error →
        (node.pathsWhere isNonFinite).head? = some error.path ∧
          node.get? error.path = some (number error.value)) ∧
    ∀ json : Json, json.everywhere Json.keysDiffer = true →
      json.everywhere Json.integerFits = true → (ofJson json).toJson = .ok json := by
  refine ⟨fun node distinct => ⟨toJson_isOk_iff distinct, fun json written => ?_,
    fun error failed => first_of_toJson distinct failed⟩, fun json differ fits => ?_⟩
  · exact (ofJson_of_toJsonAt node distinct written).1
  · exact toJsonAt_ofJson json [] differ fits

/-- A negative zero and an integer; an infinity before a value that is not a number. -/
theorem lossless_mixed :
    (ofJson (.object [("n", .number (.zero true) rfl), ("i", .integer (-1))]) =
      record [("n", number (.zero true)), ("i", integer (-1))]) ∧
    ((record [("x", array [null, number (.infinity true)]), ("y", number .notANumber)]).pathsWhere
        isNonFinite).head? = some [.property "x", .index 1] ∧
    (ofJson (.object [("n", .number (.zero true) rfl), ("i", .integer (-1))])).toJson =
      .ok (.object [("n", .number (.zero true) rfl), ("i", .integer (-1))]) := by
  refine ⟨(toJson_lossless.1 _ ?_).2.1 _ rfl,
    ((toJson_lossless.1 _ ?_).2.2 ⟨.infinity true, [.property "x", .index 1]⟩ rfl).1,
    toJson_lossless.2 _ ?_ ?_⟩ <;> decide

end Node

end DocSchema
