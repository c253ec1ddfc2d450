import DocSchema.Proofs.Coercion.FixedPoint
import DocSchema.Proofs.Coercion.Outcome
import DocSchema.Proofs.Engine.Patience
import DocSchema.Proofs.Schema.Resolved
import Mathlib

/-!
# Coercing a tree again

What an engine gives back after coercing a tree is valid. Over a discriminated set of types the
tree is also left as it is by a further coercion, without a warning. Main statement:
`Engine.coerce_again`.
-/

namespace DocSchema

namespace Coercion

variable {set : SchemaSet}

/-- The outcome of a coercion is left by the next one, if it is valid. -/
theorem coerceTree_again (built : set.Built) (discriminated : set.Discriminated) {shape : Shape}
    (obeys : shape.Discriminated set) {node : Node} (distinct : node.distinctKeys = true)
    {fuel : Nat} {path : Path} {coerced : Coerced}
    (returned : coerceTree set fuel node shape path = some coerced)
    (valid : Validation.validateShape set coerced.node shape path = []) {more : Nat}
    (enough : budget set shape coerced.node ≤ more) :
    ∃ sites, coerceTree set more coerced.node shape path = some ⟨coerced.node, [], sites⟩ := by
  -- The first run started from a reshaped tree and an empty memory.
  obtain ⟨inside, ran, rfl⟩ := Option.map_eq_some_iff.mp returned
  obtain ⟨⟨outcome, after⟩, whole, rfl⟩ := Option.map_eq_some_iff.mp ran
  have reshaped := distinctKeys_reshape built.distinctLiterals shape path distinct
  obtain ⟨⟨stillDistinct, steady⟩, _⟩ := coerce_steady built discriminated obeys fuel
    .given shape path 0 _ .empty outcome after rfl reshaped sound_empty whole
  -- Its outcome fits, so the second run has nothing to reshape and nothing to convert.
  have fits := Validation.validateShape_eq_nil_iff.mp valid
  have left := reshape_of_fits built discriminated obeys stillDistinct fits path
  have quiet := (steady fits).quiet discriminated obeys stillDistinct (.inl rfl) enough
  exact coerceTree_of_quiet left quiet

theorem budget_le_patience (set : SchemaSet) (name : String) (node : Node) :
    budget set (.ref name) node ≤ patience set node := by
  have spanned : span set (.ref name) ≤ 2 := by
    rw [span]
    split <;> omega
  have scaled : node.weight * (set.depth + 3) ≤ node.weight * (set.limit + set.depth + 100) :=
    Nat.mul_le_mul_left _ (by omega)
  rw [budget, patience, Nat.add_mul]
  omega

end Coercion

namespace Engine

variable {engine after : Engine} {node : Node} {name : String}

/-- The types that an engine resolves are made of definitions, and are resolved alike again. -/
theorem schemas_again (reached : engine.registry.Reached) {set : SchemaSet}
    (resolved : engine.schemas name = (.ok set, after)) :
    set.Built ∧ after.schemas name = (.ok set, after) ∧ after.registry.Reached ∧
      after.options = engine.options := by
  unfold Engine.schemas at resolved
  split at resolved
  next => cases resolved
  next kept registry ran =>
    cases resolved
    have built := reached.built ran
    have again := Registry.resolve_again ran
    have reachedAfter : registry.Reached := by
      have step := reached.resolved name
      rwa [ran] at step
    exact ⟨built.withLimit _, by simp only [Engine.schemas, again], reachedAfter, rfl⟩

theorem accept_eq_ok_iff {α : Type} {set : SchemaSet} {value result : α} :
    accept set name node value = .ok result ↔
      Validation.validateType set node name = [] ∧ value = result := by
  unfold accept
  split
  next valid => simp [valid]
  next errors invalid =>
    have broken : Validation.validateType set node name ≠ [] := invalid
    simp [broken]

theorem expand_plain (plain : engine.options.expand = false) (patience : Node → Nat)
    (set : SchemaSet) (coerced : Coerced) :
    engine.expand patience set name coerced = .ok ⟨coerced.node, coerced.warnings⟩ := by
  simp only [expand, plain, Bool.false_eq_true, if_false]

section Within

variable {patience : Node → Nat} {set : SchemaSet}

/-- Without expansion a tree is given back if it was coerced to a valid one. -/
theorem coerceWithin_returned {result : Coercion.Result} (plain : engine.options.expand = false)
    (returned : engine.coerceWithin patience set name node = .ok result) :
    ∃ coerced, Coercion.coerceType set (patience node) node name = some coerced ∧
      result = ⟨coerced.node, coerced.warnings⟩ ∧
      Validation.validateType set coerced.node name = [] := by
  unfold coerceWithin at returned
  split at returned
  next => cases returned
  next coerced ran =>
    rw [expand_plain plain] at returned
    obtain ⟨valid, rfl⟩ := accept_eq_ok_iff.mp returned
    exact ⟨coerced, ran, rfl, valid⟩

theorem coerceWithin_of_coerced {coerced : Coerced} (plain : engine.options.expand = false)
    (ran : Coercion.coerceType set (patience node) node name = some coerced) :
    engine.coerceWithin patience set name node =
      accept set name coerced.node ⟨coerced.node, coerced.warnings⟩ := by
  simp only [coerceWithin, ran, expand_plain plain, bind, Except.bind]

end Within

/-- What was coerced without expansion is valid. Over a discriminated set a further coercion gives
it back without a warning, whatever fuel led to it, if the fuel now covers a budget for the tree.
The usual fuel does. -/
theorem coerce_again (reached : engine.registry.Reached) (plain : engine.options.expand = false)
    (distinct : node.distinctKeys = true) {patience : SchemaSet → Node → Nat}
    {result : Coercion.Result}
    (returned : engine.coerceWith patience node (some name) = (.ok result, after)) :
    (after.validate result.node (some name)).1 = .ok () ∧
      ∀ set, (engine.schemas name).1 = .ok set → set.Discriminated →
        (∀ more : SchemaSet → Node → Nat,
          Coercion.budget set (.ref name) result.node ≤ more set result.node →
            (after.coerceWith more result.node (some name)).1 = .ok ⟨result.node, []⟩) ∧
        (after.coerce result.node (some name)).1 = .ok ⟨result.node, []⟩ := by
  simp only [coerceWith, targetType?] at returned
  split at returned
  next => cases returned
  next set between resolved =>
    simp only [Prod.mk.injEq] at returned
    obtain ⟨given, rfl⟩ := returned
    obtain ⟨built, again, _, same⟩ := schemas_again reached resolved
    have stillPlain : between.options.expand = false := by rw [same, plain]
    obtain ⟨coerced, ran, rfl, valid⟩ := coerceWithin_returned stillPlain given
    refine ⟨?_, fun other also discriminated => ?_⟩
    · simp only [Engine.validate, targetType?, again, accept, valid]
    · rw [resolved] at also
      cases also
      have repeats (more : SchemaSet → Node → Nat)
          (enough : Coercion.budget set (.ref name) coerced.node ≤ more set coerced.node) :
          (between.coerceWith more coerced.node (some name)).1 = .ok ⟨coerced.node, []⟩ := by
        have obeys : (Shape.ref name).Discriminated set := trivial
        obtain ⟨sites, second⟩ :=
          Coercion.coerceTree_again built discriminated obeys distinct ran valid enough
        simp only [coerceWith, targetType?, again, coerceWithin_of_coerced stillPlain second,
          accept, valid]
      exact ⟨repeats, repeats _ (Coercion.budget_le_patience set name coerced.node)⟩

/-! ### Notes -/

/-- An engine for notes, whose text is described by a document, that expands nothing. -/
def noteEngine (text : Json) : Engine :=
  { ofSource (.memory [("Note", .object
      [("title", .string "Note"), ("properties", .object [("text", text)])])]) with
    options := { expand := false } }

def note (text : Node) : Node := .record [("type", .string "Note"), ("text", text)]

def textDocument : Json := .object [("type", .string "string")]

/-- The type of notes whose text is a string. -/
def noteType : TypeSchema :=
  ⟨"Note", none, .record
    [("type", ⟨.enum [.string "Note"], none, [], none⟩),
      ("text", ⟨.scalar .string, none, [], none⟩)] ["type"] []⟩

def noteTypes : SchemaSet := ⟨"Note", [("Note", .ofSchema noteType)], SchemaSet.defaultLimit⟩

theorem find?_noteTypes {name : String} {type : CompiledType}
    (found : noteTypes.find? name = some type) : name = "Note" ∧ type = .ofSchema noteType := by
  simpa [noteTypes] using Keyed.mem_of_get? found

/-- Notes are in no union, and no literal value of theirs has parts. -/
theorem noteTypes_discriminated : noteTypes.Discriminated := by
  constructor
  · intro name type key property found declares
    obtain ⟨rfl, rfl⟩ := find?_noteTypes found
    have listed := Keyed.mem_of_get? declares
    simp only [CompiledType.schema_ofSchema, TypeSchema.properties, noteType, List.mem_cons,
      Prod.mk.injEq, List.not_mem_nil, or_false] at listed
    rcases listed with ⟨_, rfl⟩ | ⟨_, rfl⟩
    · simp [Shape.Discriminated, Node.IsPlain]
    · trivial
  · intro name type alternatives alternative found body member
    obtain ⟨rfl, rfl⟩ := find?_noteTypes found
    cases body

/-- A note whose text is a number is coerced to one whose text is a string. -/
theorem coerce_again_note :
    ∃ after, (noteEngine textDocument).coerce (note (.integer 5)) (some "Note") =
        (.ok ⟨note (.string "5"), []⟩, after) ∧
      (after.validate (note (.string "5")) (some "Note")).1 = .ok () ∧
      (∀ more : SchemaSet → Node → Nat, 37 ≤ more noteTypes (note (.string "5")) →
        (after.coerceWith more (note (.string "5")) (some "Note")).1 =
          .ok ⟨note (.string "5"), []⟩) ∧
      (after.coerce (note (.string "5")) (some "Note")).1 = .ok ⟨note (.string "5"), []⟩ := by
  have ran : ((noteEngine textDocument).coerce (note (.integer 5)) (some "Note")).1 =
      .ok ⟨note (.string "5"), []⟩ := by cbv
  have resolved : ((noteEngine textDocument).schemas "Note").1 = .ok noteTypes := by cbv
  have lasts : Coercion.budget noteTypes (.ref "Note") (note (.string "5")) = 37 := by cbv
  obtain ⟨valid, again⟩ := coerce_again (.fresh _) rfl rfl (Prod.ext ran rfl)
  obtain ⟨repeats, unchanged⟩ := again noteTypes resolved noteTypes_discriminated
  exact ⟨_, Prod.ext ran rfl, valid, fun more enough => repeats more (lasts ▸ enough), unchanged⟩

/-- An enumeration of one value, which is an array. -/
def arrayDocument : Json := .object [("enum", .array [.array [.integer 1]])]

/-- The first coercion takes two arrays off the value, which leaves the array that is listed. The
second one takes that apart as well, whatever fuel it is given. -/
theorem enumerated_array_not_again :
    ∃ after, (noteEngine arrayDocument).coerce (note (.array [.array [.array [.integer 1]]]))
        (some "Note") = (.ok ⟨note (.array [.integer 1]), []⟩, after) ∧
      ∀ patience again,
        (after.coerceWith patience (note (.array [.integer 1])) (some "Note")).1 ≠ .ok again := by
  have first : ((noteEngine arrayDocument).coerce
      (note (.array [.array [.array [.integer 1]]])) (some "Note")).1 =
        .ok ⟨note (.array [.integer 1]), []⟩ := by cbv
  have second : (((noteEngine arrayDocument).coerce
      (note (.array [.array [.array [.integer 1]]])) (some "Note")).2.coerce
        (note (.array [.integer 1])) (some "Note")).1 =
          .error (.structuralViolation "Note" [.literalMismatch "[1]" "1" [.property "text"]]) := by
    cbv
  obtain ⟨after, ran⟩ : ∃ after, (noteEngine arrayDocument).coerce
      (note (.array [.array [.array [.integer 1]]])) (some "Note") =
        (.ok ⟨note (.array [.integer 1]), []⟩, after) := ⟨_, Prod.ext first rfl⟩
  rw [ran] at second
  refine ⟨after, ran, fun patience again returned => ?_⟩
  -- Fuel that is enough leads to the answer that the usual fuel leads to.
  have ends (other : String) : (after.coerceWith patience (note (.array [.integer 1]))
      (some "Note")).1 ≠ .error (.endless other) := by
    intro stops
    rw [returned] at stops
    cases stops
  have usual (other : String) : (after.coerce (note (.array [.integer 1]))
      (some "Note")).1 ≠ .error (.endless other) := by
    intro stops
    rw [second] at stops
    cases stops
  have same := congrArg Prod.fst (coerceWith_agree ends usual)
  rw [returned] at same
  cases same.trans second

end Engine

end DocSchema
