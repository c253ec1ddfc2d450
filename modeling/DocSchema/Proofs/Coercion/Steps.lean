import DocSchema.Coercion.Tree
import DocSchema.Proofs.Validation.Discriminated

/-!
# Steps of coercion

What a coercion returns is told here once for every function that it consists of, together with the
calls that it was made of: a list by its first entry, a union by the way it was settled, and a
value by the kind of its shape. What holds of all outcomes is then shown by cases on these
relations, and a run with more fuel or another memory is put together from them again. Main
statements: `settle_iff`, `coerceUnion_iff` and `coerce_succ_iff`.
-/

namespace DocSchema.Coercion

variable {set : SchemaSet}

/-! ### Lists of parts -/

section Parts

variable {memory after : UnionMemory}

theorem coerceItems_cons_iff {step : Nat → Node → UnionMemory → Option (Coerced × UnionMemory)}
    {position : Nat} {value : Node} {rest : List Node} {gathered : Gathered Node} :
    coerceItems step position (value :: rest) memory = some (gathered, after) ↔
      ∃ first between later, step position value memory = some (first, between) ∧
        coerceItems step (position + 1) rest between = some (later, after) ∧
        gathered = ⟨first.node :: later.values, first.warnings ++ later.warnings,
          first.sites ++ later.sites⟩ := by
  rw [coerceItems]
  constructor
  · intro returned
    split at returned
    next => cases returned
    next first between ran =>
      split at returned
      next => cases returned
      next later last others =>
        cases returned
        exact ⟨first, between, later, ran, others, rfl⟩
  · rintro ⟨first, between, later, ran, others, rfl⟩
    simp only [ran, others]

/-- The fields are coerced from the first one on, which is dropped or kept. -/
inductive FieldsStepped (type : TypeSchema) (path : Path)
    (step : String → Property → Node → UnionMemory → Option (Coerced × UnionMemory)) (key : String)
    (value : Node) (rest : List (String × Node)) (memory : UnionMemory) :
    Gathered (String × Node) → UnionMemory → Prop where
  | dropped {later : Gathered (String × Node)} {after : UnionMemory}
      (undeclared : type.property? key = none)
      (others : coerceFields type path step rest memory = some (later, after)) :
      FieldsStepped type path step key value rest memory
        ⟨later.values, .unknownProperty key path :: later.warnings, later.sites⟩ after
  | kept {property : Property} {first : Coerced} {between after : UnionMemory}
      {later : Gathered (String × Node)} (declares : type.property? key = some property)
      (ran : step key property value memory = some (first, between))
      (others : coerceFields type path step rest between = some (later, after)) :
      FieldsStepped type path step key value rest memory
        ⟨(key, first.node) :: later.values, first.warnings ++ later.warnings,
          first.sites ++ later.sites⟩ after

theorem coerceFields_cons_iff {type : TypeSchema} {path : Path}
    {step : String → Property → Node → UnionMemory → Option (Coerced × UnionMemory)} {key : String}
    {value : Node} {rest : List (String × Node)} {gathered : Gathered (String × Node)} :
    coerceFields type path step ((key, value) :: rest) memory = some (gathered, after) ↔
      FieldsStepped type path step key value rest memory gathered after := by
  rw [coerceFields]
  constructor
  · intro returned
    split at returned
    next undeclared =>
      split at returned
      next => cases returned
      next later last others =>
        cases returned
        exact .dropped undeclared others
    next property declares =>
      split at returned
      next => cases returned
      next first between ran =>
        split at returned
        next => cases returned
        next later last others =>
          cases returned
          exact .kept declares ran others
  · intro stepped
    cases stepped with
    | dropped undeclared others => simp only [undeclared, others]
    | kept declares ran others => simp only [declares, ran, others]

end Parts

/-! ### Unions -/

section Unions

variable {step : Step} {place : Place} {alternatives : List Shape} {path : Path} {hops : Nat}
  {node : Node} {memory after : UnionMemory}

/-- A trial coerces the reshaped value, and warns of what reshaping did before. -/
theorem trial_iff {alternative : Shape} {coerced : Coerced} :
    trial set step place path hops alternative node memory = some (coerced, after) ↔
      ∃ outcome, step place alternative path hops (reshape set alternative path node).value
          memory = some (outcome, after) ∧
        coerced = { outcome with
          warnings := (reshape set alternative path node).warnings ++ outcome.warnings } := by
  simp only [trial]
  constructor
  · intro returned
    split at returned
    next => cases returned
    next outcome last stepped =>
      cases returned
      exact ⟨outcome, stepped, rfl⟩
  · rintro ⟨outcome, stepped, rfl⟩
    simp only [stepped]

/-- The search goes on after a trial, with its outcome as a candidate if it is unique, unless the
candidate drops nothing. -/
inductive SearchStepped (set : SchemaSet) (step : Step) (place : Place) (alternatives : List Shape)
    (path : Path) (hops : Nat) (node : Node) (best : Option Coerced) (alternative : Shape)
    (position : Nat) (rest : List (Shape × Nat)) (memory : UnionMemory) :
    Option Coerced → UnionMemory → Prop where
  | lossless {candidate : Coerced} {after : UnionMemory}
      (ran : trial set step (place.alternative position) path hops alternative node memory =
        some (candidate, after))
      (unique : isUnique set alternatives alternative candidate.node = true)
      (lossless : dropped candidate = 0) :
      SearchStepped set step place alternatives path hops node best alternative position rest memory
        (some (lessLossy best candidate)) after
  | lossy {candidate : Coerced} {between after : UnionMemory} {outcome : Option Coerced}
      (ran : trial set step (place.alternative position) path hops alternative node memory =
        some (candidate, between))
      (unique : isUnique set alternatives alternative candidate.node = true)
      (lossy : dropped candidate ≠ 0)
      (others : tryAlternatives set step place alternatives path hops node
        (some (lessLossy best candidate)) rest between = some (outcome, after)) :
      SearchStepped set step place alternatives path hops node best alternative position rest memory
        outcome after
  | refused {candidate : Coerced} {between after : UnionMemory} {outcome : Option Coerced}
      (ran : trial set step (place.alternative position) path hops alternative node memory =
        some (candidate, between))
      (ambiguous : isUnique set alternatives alternative candidate.node = false)
      (others : tryAlternatives set step place alternatives path hops node best rest between =
        some (outcome, after)) :
      SearchStepped set step place alternatives path hops node best alternative position rest memory
        outcome after

theorem tryAlternatives_cons_iff {best outcome : Option Coerced} {alternative : Shape}
    {position : Nat} {rest : List (Shape × Nat)} :
    tryAlternatives set step place alternatives path hops node best
        ((alternative, position) :: rest) memory = some (outcome, after) ↔
      SearchStepped set step place alternatives path hops node best alternative position rest memory
        outcome after := by
  rw [tryAlternatives]
  constructor
  · intro returned
    split at returned
    next => cases returned
    next candidate between ran =>
      split at returned
      next unique =>
        split at returned
        next lossless =>
          cases returned
          exact .lossless ran unique lossless
        next lossy => exact .lossy ran unique lossy returned
      next ambiguous =>
        rw [Bool.not_eq_true] at ambiguous
        exact .refused ran ambiguous returned
  · intro stepped
    cases stepped with
    | lossless ran unique lossless => simp only [ran, unique, lossless, if_true]
    | lossy ran unique lossy others => simp only [ran, unique, lossy, others, if_true, if_false]
    | refused ran ambiguous others =>
      simp only [ran, ambiguous, others, Bool.false_eq_true, if_false]

/-- How a value is settled: within the only alternative it matches, within the one it names, as the
best candidate of a search, or not at all where it matches several. -/
inductive Settles (set : SchemaSet) (step : Step) (place : Place) (alternatives : List Shape)
    (path : Path) (hops : Nat) (node : Node) (memory : UnionMemory) :
    Coerced → UnionMemory → Prop where
  | only {alternative : Shape} {position : Nat} {coerced : Coerced} {after : UnionMemory}
      (only : matching set alternatives node = [(alternative, position)])
      (ran : step (place.alternative position) alternative path hops node memory =
        some (coerced, after)) :
      Settles set step place alternatives path hops node memory coerced after
  | named {alternative : Shape} {position : Nat} {coerced : Coerced} {after : UnionMemory}
      (unmatched : matching set alternatives node = [])
      (named : namedWithPosition? alternatives node = some (alternative, position))
      (ran : step (place.alternative position) alternative path hops node memory =
        some (coerced, after)) :
      Settles set step place alternatives path hops node memory coerced after
  | searched {best : Option Coerced} {after : UnionMemory}
      (unmatched : matching set alternatives node = [])
      (unnamed : namedWithPosition? alternatives node = none)
      (ran : tryAlternatives set step place alternatives path hops node none alternatives.zipIdx
        memory = some (best, after)) :
      Settles set step place alternatives path hops node memory (best.getD (unchanged node)) after
  | several (several : 2 ≤ (matching set alternatives node).length) :
      Settles set step place alternatives path hops node memory (unchanged node) memory

theorem mem_zipIdx_of_only {chosen : Shape × Nat}
    (only : matching set alternatives node = [chosen]) : chosen ∈ alternatives.zipIdx := by
  have listed : chosen ∈ matching set alternatives node := only ▸ List.mem_singleton_self chosen
  exact (List.mem_filter.mp listed).1

theorem mem_zipIdx_of_named {chosen : Shape × Nat}
    (named : namedWithPosition? alternatives node = some chosen) :
    chosen ∈ alternatives.zipIdx := by
  obtain ⟨_, _, found⟩ := Option.bind_eq_some_iff.mp named
  exact List.mem_of_find?_eq_some found

theorem two_le_length {α : Type} {entries : List α} (nonempty : entries ≠ [])
    (several : ∀ entry, entries ≠ [entry]) : 2 ≤ entries.length := by
  match entries with
  | [] => exact absurd rfl nonempty
  | [entry] => exact absurd rfl (several entry)
  | _ :: _ :: _ => simp

theorem settle_several (several : 2 ≤ (matching set alternatives node).length) :
    settle set step place alternatives path hops node memory = some (unchanged node, memory) := by
  unfold settle
  split
  next one => simp [one] at several
  next none => simp [none] at several
  next => rfl

theorem settle_iff {coerced : Coerced} :
    settle set step place alternatives path hops node memory = some (coerced, after) ↔
      Settles set step place alternatives path hops node memory coerced after := by
  constructor
  · intro returned
    unfold settle at returned
    split at returned
    next alternative position only => exact .only only returned
    next unmatched =>
      split at returned
      next alternative position named => exact .named unmatched named returned
      next unnamed =>
        split at returned
        next => cases returned
        next best last ran =>
          cases returned
          exact .searched unmatched unnamed ran
    next several empty =>
      cases returned
      exact .several (two_le_length empty fun (alternative, position) =>
        several alternative position)
  · intro settles
    cases settles with
    | only only ran => simp only [settle, only, ran]
    | named unmatched named ran => simp only [settle, unmatched, named, ran]
    | searched unmatched unnamed ran => simp only [settle, unmatched, unnamed, ran]
    | several several => exact settle_several several

/-- The outcome of a union was remembered, or it was settled anew and is remembered from then
on. -/
theorem coerceUnion_iff {coerced : Coerced} :
    coerceUnion set step place alternatives path hops node memory = some (coerced, after) ↔
      (memory.known? (unionKey place alternatives path hops) node = some coerced ∧
          after = memory) ∨
        memory.known? (unionKey place alternatives path hops) node = none ∧
          ∃ between, settle set step place alternatives path hops node memory =
              some (coerced, between) ∧
            after = between.remember (unionKey place alternatives path hops) node coerced := by
  simp only [coerceUnion]
  constructor
  · intro returned
    split at returned
    next outcome known =>
      cases returned
      exact .inl ⟨known, rfl⟩
    next missed =>
      split at returned
      next => cases returned
      next outcome between settled =>
        cases returned
        exact .inr ⟨missed, between, settled, rfl⟩
  · rintro (⟨known, rfl⟩ | ⟨missed, between, settled, rfl⟩)
    · simp only [known]
    · simp only [missed, settled]

end Unions

/-! ### Values -/

/-- Where a record type is expected every record is shaped as one of some type. -/
theorem exists_recordTarget? {name : String} {type : CompiledType}
    (known : set.recordType? name = some type) (fields : Keyed Node) :
    ∃ target, recordTarget? set fields name = some target := by
  unfold recordTarget?
  split
  next target _ => exact ⟨target, rfl⟩
  next => exact ⟨type, known⟩

/-- What becomes of a value where a shape is expected, if `step` coerces its parts and the value
within alternatives. -/
inductive Stepped (set : SchemaSet) (step : Step) (place : Place) (path : Path) (hops : Nat)
    (node : Node) (memory : UnionMemory) : Shape → Coerced → UnionMemory → Prop where
  | any : Stepped set step place path hops node memory .any (unchanged node) memory
  | scalar (kind : Scalar) :
      Stepped set step place path hops node memory (.scalar kind)
        (unchanged (coerceScalar node kind)) memory
  | object :
      Stepped set step place path hops node memory .object (unchanged (unwrapSingleton node)) memory
  | enum (values : List Node) :
      Stepped set step place path hops node memory (.enum values)
        (unchanged (coerceEnum node values)) memory
  | array {items : Shape} {inside : Gathered Node} {after : UnionMemory}
      (parts : coerceItems (fun position value =>
          step place.items items (path.index position) 0 value) 0 (itemsOf node) memory =
        some (inside, after)) :
      Stepped set step place path hops node memory (.array items)
        ⟨.array inside.values, inside.warnings, inside.sites⟩ after
  | missing {name : String} (missing : set.find? name = none) :
      Stepped set step place path hops node memory (.ref name) (unchanged node) memory
  | union {name : String} {type : CompiledType} {alternatives : List Shape} {coerced : Coerced}
      {after : UnionMemory} (found : set.find? name = some type)
      (body : type.schema.body = .union alternatives) (within : hops < set.limit)
      (ran : coerceUnion set step (.union name) alternatives path (hops + 1) node memory =
        some (coerced, after)) :
      Stepped set step place path hops node memory (.ref name) coerced after
  | beyond {name : String} {type : CompiledType} {alternatives : List Shape}
      (found : set.find? name = some type) (body : type.schema.body = .union alternatives)
      (beyond : ¬hops < set.limit) :
      Stepped set step place path hops node memory (.ref name) (unchanged node) memory
  | record {name : String} {type target : CompiledType} {fields : Keyed Node}
      {inside : Gathered (String × Node)} {after : UnionMemory}
      (known : set.recordType? name = some type) (unwrapped : unwrapSingleton node = .record fields)
      (aimed : recordTarget? set fields name = some target)
      (parts : coerceFields target.schema path (fun key property value =>
          step (.property target.schema.name key) property.shape (path.property key) 0 value) fields
        memory = some (inside, after)) :
      Stepped set step place path hops node memory (.ref name)
        ⟨.record inside.values, inside.warnings, inside.sites⟩ after
  | other {name : String} {type : CompiledType} (known : set.recordType? name = some type)
      (other : ∀ fields, unwrapSingleton node ≠ .record fields) :
      Stepped set step place path hops node memory (.ref name) (unchanged (unwrapSingleton node))
        memory
  | oneOf {alternatives : List Shape} {coerced : Coerced} {after : UnionMemory}
      (ran : coerceUnion set step place alternatives path hops node memory =
        some (coerced, after)) :
      Stepped set step place path hops node memory (.oneOf alternatives) coerced after
  | text {format : String} {inner : Shape} (text : node.isString = true) :
      Stepped set step place path hops node memory (.decode format inner)
        ⟨node, [], [⟨path, format, inner⟩]⟩ memory
  | decode {format : String} {inner : Shape} {coerced : Coerced} {after : UnionMemory}
      (coded : node.isString = false)
      (ran : step place.inner inner path hops node memory = some (coerced, after)) :
      Stepped set step place path hops node memory (.decode format inner) coerced after

section Coerce

variable {fuel : Nat} {place : Place} {path : Path} {hops : Nat} {node : Node}
  {memory after : UnionMemory} {coerced : Coerced}

/-- Where a record type is expected the fields of a record are coerced as those of its target. -/
theorem coerce_record {name : String} {type : CompiledType} {fields : Keyed Node}
    (known : set.recordType? name = some type) (unwrapped : unwrapSingleton node = .record fields)
    (ran : coerce set (fuel + 1) place (.ref name) path hops node memory = some (coerced, after)) :
    ∃ target inside, recordTarget? set fields name = some target ∧
      coerceFields target.schema path (fun key property value =>
          coerce set fuel (.property target.schema.name key) property.shape (path.property key) 0
            value) fields memory = some (inside, after) ∧
      coerced = ⟨.record inside.values, inside.warnings, inside.sites⟩ := by
  obtain ⟨found, _, _, _, body⟩ := SchemaSet.recordType?_eq_some_iff.mp known
  -- There always is a target, since the expected type is one.
  obtain ⟨target, aimed⟩ := exists_recordTarget? known fields
  simp only [coerce, found, body, unwrapped, aimed] at ran
  split at ran
  next => cases ran
  next inside last parts =>
    cases ran
    exact ⟨target, inside, aimed, parts, rfl⟩

theorem stepped_of_ref {name : String}
    (ran : coerce set (fuel + 1) place (.ref name) path hops node memory = some (coerced, after)) :
    Stepped set (coerce set fuel) place path hops node memory (.ref name) coerced after := by
  cases found : set.find? name with
  | none =>
    simp only [coerce, found] at ran
    cases ran
    exact .missing found
  | some type =>
    cases body : type.schema.body with
    | union alternatives =>
      simp only [coerce, found, body] at ran
      split at ran
      next within => exact .union found body within ran
      next beyond =>
        cases ran
        exact .beyond found body beyond
    | record properties required aliases =>
      have known := SchemaSet.recordType?_eq_some_iff.mpr ⟨found, _, _, _, body⟩
      cases unwrapped : unwrapSingleton node with
      | record fields =>
        obtain ⟨target, inside, aimed, parts, rfl⟩ := coerce_record known unwrapped ran
        exact .record known unwrapped aimed parts
      | _ =>
        simp only [coerce, found, body, unwrapped] at ran
        cases ran
        rw [← unwrapped]
        exact .other known (by simp [unwrapped])

theorem stepped_of_coerce {shape : Shape}
    (ran : coerce set (fuel + 1) place shape path hops node memory = some (coerced, after)) :
    Stepped set (coerce set fuel) place path hops node memory shape coerced after := by
  cases shape with
  | any =>
    cases ran
    exact .any
  | scalar kind =>
    cases ran
    exact .scalar kind
  | object =>
    cases ran
    exact .object
  | enum values =>
    cases ran
    exact .enum values
  | array items =>
    simp only [coerce] at ran
    split at ran
    next => cases ran
    next inside last parts =>
      cases ran
      exact .array parts
  | ref name => exact stepped_of_ref ran
  | oneOf alternatives => exact .oneOf ran
  | decode format inner =>
    cases coded : node.isString with
    | true =>
      obtain ⟨content, rfl⟩ := Validation.isString_iff.mp coded
      cases ran
      exact .text coded
    | false =>
      rw [coerce_decode coded] at ran
      exact .decode coded ran

theorem Stepped.coerce {shape : Shape}
    (stepped : Stepped set (coerce set fuel) place path hops node memory shape coerced after) :
    Coercion.coerce set (fuel + 1) place shape path hops node memory = some (coerced, after) := by
  cases stepped with
  | any | scalar | object | enum => rfl
  | array parts => simp only [Coercion.coerce, parts]
  | missing missing => simp only [Coercion.coerce, missing]
  | union found body within ran => simp only [Coercion.coerce, found, body, within, if_true, ran]
  | beyond found body beyond => simp only [Coercion.coerce, found, body, beyond, if_false]
  | record known unwrapped aimed parts =>
    obtain ⟨found, _, _, _, body⟩ := SchemaSet.recordType?_eq_some_iff.mp known
    simp only [Coercion.coerce, found, body, unwrapped, aimed, parts]
  | other known other =>
    obtain ⟨found, _, _, _, body⟩ := SchemaSet.recordType?_eq_some_iff.mp known
    simp only [Coercion.coerce, found, body]
  | oneOf ran => exact ran
  | text text =>
    obtain ⟨content, rfl⟩ := Validation.isString_iff.mp text
    rfl
  | decode coded ran => exact (coerce_decode coded).trans ran

/-- One unit of fuel is spent on the shape itself. -/
theorem coerce_succ_iff {shape : Shape} :
    coerce set (fuel + 1) place shape path hops node memory = some (coerced, after) ↔
      Stepped set (coerce set fuel) place path hops node memory shape coerced after :=
  ⟨stepped_of_coerce, Stepped.coerce⟩

end Coerce

end DocSchema.Coercion
