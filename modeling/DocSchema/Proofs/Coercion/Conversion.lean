import DocSchema.Coercion.Scalar
import DocSchema.Proofs.Double.Whole
import DocSchema.Proofs.Validation.Discriminated

/-!
# Converting values without parts

A value becomes one of the expected kind, or it is not converted. One that is of the kind already
stays, but for a whole number where an integer is expected, which becomes that integer. Converting
twice is the same as converting once, if the outcome fits. Main statements:
`coerceScalar_matches_or_same`, `coerceScalar_of_matches`, `coerceScalar_twice` and
`coerceEnum_of_isMember`.
-/

namespace DocSchema.Coercion

open Validation (scalarMatches isMember)

theorem unwrapSingleton_cases (node : Node) :
    (∃ item, node = .array [item]) ∨ unwrapSingleton node = node := by
  unfold unwrapSingleton
  split
  next item => exact .inl ⟨item, rfl⟩
  next => exact .inr rfl

theorem unwrapSingleton_of_isPlain {node : Node} (plain : node.IsPlain) :
    unwrapSingleton node = node := by
  cases node with
  | array items => exact plain.elim
  | _ => rfl

/-! ### Kinds of values -/

/-- What a text is read as is a finite number. -/
theorem scalarMatches_of_readNumber? {text : String} {node : Node}
    (read : readNumber? text = some node) : scalarMatches .number node = true := by
  simp only [readNumber?] at read
  split at read
  next =>
    cases read
    rfl
  next =>
    split at read
    next number _ =>
      by_cases finite : number.isFinite = true
      · rw [if_pos finite] at read
        cases read
        exact finite
      · simp [finite] at read
    next => cases read

section Kinds

variable (node : Node)

theorem toNull_matches_or_same :
    scalarMatches .null (toNull node) = true ∨ toNull node = node := by
  cases node with
  | boolean value => cases value <;> simp [toNull, scalarMatches]
  | string text | integer value =>
    rw [toNull]
    split
    next => exact .inl rfl
    next => exact .inr rfl
  | _ => exact .inr rfl

theorem toBoolean_matches_or_same :
    scalarMatches .boolean (toBoolean node) = true ∨ toBoolean node = node := by
  cases node with
  | string text | integer value =>
    rw [toBoolean]
    split
    next => exact .inl rfl
    next =>
      split
      next => exact .inl rfl
      next => exact .inr rfl
  | null => exact .inl rfl
  | _ => exact .inr rfl

theorem wholeNumber_matches_or_same (number : Double) :
    scalarMatches .integer (wholeNumber node number) = true ∨ wholeNumber node number = node := by
  unfold wholeNumber
  split
  next => exact .inl rfl
  next => exact .inr rfl

theorem toInteger_matches_or_same :
    scalarMatches .integer (toInteger node) = true ∨ toInteger node = node := by
  unfold toInteger
  split
  next =>
    split
    next => exact .inl rfl
    next => exact wholeNumber_matches_or_same _ _
    next => exact .inr rfl
  next => exact wholeNumber_matches_or_same _ _
  next => exact .inl rfl
  next => exact .inl rfl
  next => exact .inr rfl

theorem toNumber_matches_or_same :
    scalarMatches .number (toNumber node) = true ∨ toNumber node = node := by
  unfold toNumber
  split
  next text =>
    cases read : readNumber? text with
    | none => exact .inr rfl
    | some value => exact .inl (scalarMatches_of_readNumber? read)
  next => exact .inl rfl
  next => exact .inl rfl
  next => exact .inr rfl

theorem toText_matches_or_same :
    scalarMatches .string (toText node) = true ∨ toText node = node := by
  cases node with
  | number number =>
    rw [toText]
    split
    next => exact .inl rfl
    next => exact .inr rfl
  | array items => exact .inr rfl
  | record fields => exact .inr rfl
  | _ => exact .inl rfl

end Kinds

/-- A value becomes one of the expected kind, or is but taken out of an array. -/
theorem coerceScalar_matches_or_same (node : Node) (kind : Scalar) :
    scalarMatches kind (coerceScalar node kind) = true ∨
      coerceScalar node kind = unwrapSingleton node := by
  cases kind with
  | null => exact toNull_matches_or_same _
  | boolean => exact toBoolean_matches_or_same _
  | integer => exact toInteger_matches_or_same _
  | number => exact toNumber_matches_or_same _
  | string => exact toText_matches_or_same _

/-- Only whole numbers are converted where they are of the expected kind already. -/
theorem coerceScalar_of_matches {kind : Scalar} {node : Node}
    (fine : scalarMatches kind node = true) :
    coerceScalar node kind = node ∨ ∃ number value, kind = .integer ∧ node = .number number ∧
      number.toInt64? = some value ∧ coerceScalar node kind = .integer value := by
  have plain := Validation.isPlain_of_scalarMatches fine
  simp only [coerceScalar, unwrapSingleton_of_isPlain plain]
  cases kind with
  | integer =>
    cases node with
    -- A number is of the kind of integers if it is whole, and then it is converted.
    | number number =>
      obtain ⟨value, whole⟩ := Option.isSome_iff_exists.mp fine
      exact .inr ⟨number, value, rfl, rfl, whole, by simp [toInteger, wholeNumber, whole]⟩
    | integer value => exact .inl rfl
    | _ => cases fine
  | _ =>
    cases node with
    | array items => exact plain.elim
    | record fields => exact plain.elim
    | _ => first | exact .inl rfl | cases fine

/-- No whole number is left where an integer is expected. -/
theorem toInteger_eq_number {node : Node} {number : Double}
    (converted : toInteger node = .number number) : number.toInt64? = none := by
  cases node with
  | number given =>
    simp only [toInteger, wholeNumber] at converted
    split at converted
    next => cases converted
    next none =>
      cases converted
      exact none
  -- A text becomes an integer or stays a text.
  | string text =>
    simp only [toInteger] at converted
    split at converted
    next => cases converted
    next given _ =>
      simp only [wholeNumber] at converted
      split at converted <;> cases converted
    next => cases converted
  | _ => cases converted

theorem coerceScalar_twice {kind : Scalar} {node : Node}
    (fine : scalarMatches kind (coerceScalar node kind) = true) :
    coerceScalar (coerceScalar node kind) kind = coerceScalar node kind := by
  rcases coerceScalar_of_matches fine with same | ⟨number, value, rfl, left, whole, _⟩
  · exact same
  · have none := toInteger_eq_number left
    rw [whole] at none
    cases none

theorem coerceEnum_of_isMember {values : List Node} {node : Node}
    (unlisted : ∀ items, .array items ∉ values) (listed : isMember values node = true) :
    coerceEnum node values = node := by
  rcases unwrapSingleton_cases node with ⟨item, rfl⟩ | same
  · obtain ⟨items, member⟩ := Validation.array_mem_of_isMember listed
    exact absurd member (unlisted items)
  · simp [coerceEnum, same, listed]

/-! ### Distinct keys -/

theorem distinctKeys_of_isPlain {node : Node} (plain : node.IsPlain) :
    node.distinctKeys = true := by
  cases node with
  | array items => exact plain.elim
  | record fields => exact plain.elim
  | _ => rfl

theorem distinctKeys_unwrapSingleton {node : Node} (distinct : node.distinctKeys = true) :
    (unwrapSingleton node).distinctKeys = true := by
  unfold unwrapSingleton
  split
  next => exact Node.distinctKeys_array_iff.mp distinct _ (List.mem_singleton_self _)
  next => exact distinct

theorem distinctKeys_coerceScalar {node : Node} (distinct : node.distinctKeys = true)
    (kind : Scalar) : (coerceScalar node kind).distinctKeys = true := by
  rcases coerceScalar_matches_or_same node kind with fine | same
  · exact distinctKeys_of_isPlain (Validation.isPlain_of_scalarMatches fine)
  · rw [same]
    exact distinctKeys_unwrapSingleton distinct

theorem isPlain_of_spelled {node : Node} {spelling : String}
    (spelled : spelled? node = some spelling) : node.IsPlain := by
  cases node with
  | array items => cases spelled
  | record fields => cases spelled
  | _ => trivial

/-- Only literal values without parts replace another one. -/
theorem distinctKeys_coerceEnum (values : List Node) {node : Node}
    (distinct : node.distinctKeys = true) : (coerceEnum node values).distinctKeys = true := by
  have unwrapped := distinctKeys_unwrapSingleton distinct
  simp only [coerceEnum]
  split
  next => exact unwrapped
  next =>
    split
    next => exact unwrapped
    next spelling _ =>
      cases found : values.find? fun value => spelled? value == some spelling with
      | none => exact unwrapped
      | some value =>
        have spelled := List.find?_some found
        rw [beq_iff_eq] at spelled
        exact distinctKeys_of_isPlain (isPlain_of_spelled spelled)

end DocSchema.Coercion
