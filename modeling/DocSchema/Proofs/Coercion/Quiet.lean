import DocSchema.Proofs.Coercion.Memory
import DocSchema.Proofs.Coercion.Steps
import Mathlib.Data.List.Forall2

/-!
# Quiet coercion

Coercion brings a value quietly to another one if it ends in that without a warning, wherever
the value stands and whatever is remembered of other values. For every kind of shape one
statement says how a quiet coercion of a value is made of those of its parts.
-/

namespace DocSchema.Coercion

open UnionMemory (SameOutside)

/-- Whether coercing a value ends without a warning in some value. -/
def Quiet (set : SchemaSet) (fuel : Nat) (shape : Shape) (hops : Nat) (node result : Node) :
    Prop :=
  ∀ place path memory, memory.Fresh path → ∃ sites after,
    coerce set fuel place shape path hops node memory = some (⟨result, [], sites⟩, after) ∧
      SameOutside path memory after

variable {set : SchemaSet} {fuel hops : Nat} {node result : Node}

/-- A step that changes nothing but the value is quiet. -/
theorem Quiet.of_unchanged {shape : Shape}
    (step : ∀ place path memory, coerce set fuel place shape path hops node memory =
      some (unchanged result, memory)) : Quiet set fuel shape hops node result :=
  fun place path memory _ => ⟨[], memory, step place path memory, .refl path memory⟩

theorem quiet_any : Quiet set (fuel + 1) .any hops node node :=
  .of_unchanged fun _ _ _ => rfl

theorem quiet_scalar {kind : Scalar} (converted : coerceScalar node kind = result) :
    Quiet set (fuel + 1) (.scalar kind) hops node result :=
  .of_unchanged fun _ _ _ => by rw [coerce, converted]

theorem quiet_object : Quiet set (fuel + 1) .object hops node (unwrapSingleton node) :=
  .of_unchanged fun _ _ _ => rfl

theorem quiet_enum {values : List Node} (converted : coerceEnum node values = result) :
    Quiet set (fuel + 1) (.enum values) hops node result :=
  .of_unchanged fun _ _ _ => by rw [coerce, converted]

/-! ### Parts -/

theorem quiet_items {items : Shape} {values results : List Node}
    (each : List.Forall₂ (Quiet set fuel items 0) values results) (place : Place) (path : Path)
    (position : Nat) (memory : UnionMemory)
    (fresh : ∀ index, position ≤ index → memory.Fresh (path.index index)) :
    ∃ sites after,
      coerceItems (fun position value =>
          coerce set fuel place.items items (path.index position) 0 value) position values memory =
        some (⟨results, [], sites⟩, after) ∧ SameOutside path memory after := by
  induction each generalizing position memory with
  | nil => exact ⟨[], memory, rfl, .refl path memory⟩
  | cons first _ ih =>
    obtain ⟨sites, between, ran, same⟩ :=
      first place.items (path.index position) memory (fresh position (Nat.le_refl position))
    -- The items that follow stand at other positions, where nothing has been remembered yet.
    obtain ⟨more, after, others, also⟩ :=
      ih (position + 1) between (UnionMemory.fresh_later fresh same)
    exact ⟨sites ++ more, after, coerceItems_cons_iff.mpr ⟨_, between, _, ran, others, rfl⟩,
      same.widen.trans also⟩

theorem quiet_array {items : Shape} {values results : List Node}
    (each : List.Forall₂ (Quiet set fuel items 0) values results) :
    Quiet set (fuel + 1) (.array items) hops (.array values) (.array results) := by
  intro place path memory fresh
  obtain ⟨sites, after, ran, same⟩ := quiet_items each place path 0 memory
    fun index _ => fresh.step (.index index)
  have stepped : Stepped set (coerce set fuel) place path hops (.array values) memory _ _ after :=
    .array ran
  exact ⟨sites, after, stepped.coerce, same⟩

/-- Whether the value of a field is brought quietly to that of another under the same name. -/
def QuietField (set : SchemaSet) (fuel : Nat) (type : TypeSchema) (field result : String × Node) :
    Prop :=
  field.1 = result.1 ∧ ∃ property, type.property? field.1 = some property ∧
    Quiet set fuel property.shape 0 field.2 result.2

theorem quiet_fields {type : TypeSchema} {fields results : List (String × Node)}
    (each : List.Forall₂ (QuietField set fuel type) fields results)
    (distinct : Keyed.Distinct fields) (path : Path) (memory : UnionMemory)
    (fresh : ∀ key ∈ Keyed.keys fields, memory.Fresh (path.property key)) :
    ∃ sites after,
      coerceFields type path (fun key property value =>
          coerce set fuel (.property type.name key) property.shape (path.property key) 0 value)
        fields memory = some (⟨results, [], sites⟩, after) ∧ SameOutside path memory after := by
  induction each generalizing memory with
  | nil => exact ⟨[], memory, rfl, .refl path memory⟩
  | @cons field result rest others first _ ih =>
    obtain ⟨key, value⟩ := field
    obtain ⟨_, outcome⟩ := result
    obtain ⟨rfl, property, declared, quiet⟩ := first
    obtain ⟨absent, distinct⟩ := List.nodup_cons.mp distinct
    obtain ⟨sites, between, ran, same⟩ :=
      quiet (.property type.name key) (path.property key) memory (fresh key List.mem_cons_self)
    have still : ∀ other ∈ Keyed.keys rest, between.Fresh (path.property other) := by
      intro other member
      apply (fresh other (List.mem_cons_of_mem _ member)).beside same
      intro clash
      cases clash
      exact absent member
    obtain ⟨more, after, others, also⟩ := ih distinct between still
    exact ⟨sites ++ more, after, coerceFields_cons_iff.mpr (.kept declared ran others),
      same.widen.trans also⟩

theorem quiet_record {name : String} {type target : CompiledType}
    {fields results : List (String × Node)} (known : set.recordType? name = some type)
    (aimed : recordTarget? set fields name = some target) (distinct : Keyed.Distinct fields)
    (each : List.Forall₂ (QuietField set fuel target.schema) fields results) :
    Quiet set (fuel + 1) (.ref name) hops (.record fields) (.record results) := by
  intro place path memory fresh
  obtain ⟨sites, after, ran, same⟩ := quiet_fields each distinct path memory
    fun key _ => fresh.step (.property key)
  exact ⟨sites, after, coerce_succ_iff.mpr (.record known rfl aimed ran), same⟩

/-! ### Texts to be decoded -/

theorem quiet_text {format : String} {inner : Shape} {content : String} :
    Quiet set (fuel + 1) (.decode format inner) hops (.string content) (.string content) :=
  fun _ path memory _ => ⟨[⟨path, format, inner⟩], memory, rfl, .refl path memory⟩

theorem quiet_decode {format : String} {inner : Shape} (coded : node.isString = false)
    (quiet : Quiet set fuel inner hops node result) :
    Quiet set (fuel + 1) (.decode format inner) hops node result := by
  intro place path memory fresh
  obtain ⟨sites, after, ran, same⟩ := quiet place.inner path memory fresh
  exact ⟨sites, after, coerce_succ_iff.mpr (.decode coded ran), same⟩

/-! ### Unions -/

/-- Whether a union brings a value quietly to another one: within the only alternative it
matches, or leaving it where it matches several. -/
def QuietlySettled (set : SchemaSet) (fuel : Nat) (alternatives : List Shape) (hops : Nat)
    (node result : Node) : Prop :=
  (∃ alternative position, matching set alternatives node = [(alternative, position)] ∧
    Quiet set fuel alternative hops node result) ∨
  (2 ≤ (matching set alternatives node).length ∧ node = result)

theorem quiet_settle {alternatives : List Shape}
    (settled : QuietlySettled set fuel alternatives hops node result) (place : Place) (path : Path)
    (memory : UnionMemory) (fresh : memory.Fresh path) :
    ∃ sites after,
      coerceUnion set (coerce set fuel) place alternatives path hops node memory =
        some (⟨result, [], sites⟩, after) ∧ SameOutside path memory after := by
  have unknown : memory.known? (unionKey place alternatives path hops) node = none :=
    fresh (unionKey place alternatives path hops) node (List.prefix_refl path)
  rcases settled with ⟨alternative, position, only, quiet⟩ | ⟨several, rfl⟩
  · obtain ⟨sites, between, ran, same⟩ := quiet (place.alternative position) path memory fresh
    have settled := settle_iff.mpr (.only only ran)
    exact ⟨sites, _, coerceUnion_iff.mpr (.inr ⟨unknown, between, settled, rfl⟩), same.trans
      (.remember (unionKey place alternatives path hops) node ⟨result, [], sites⟩ between)⟩
  · exact ⟨[], _, coerceUnion_iff.mpr (.inr ⟨unknown, memory, settle_several several, rfl⟩),
      .remember (unionKey place alternatives path hops) node (unchanged node) memory⟩

theorem quiet_oneOf {alternatives : List Shape}
    (settled : QuietlySettled set fuel alternatives hops node result) :
    Quiet set (fuel + 1) (.oneOf alternatives) hops node result :=
  fun place path memory fresh => quiet_settle settled place path memory fresh

theorem quiet_union {name : String} {type : CompiledType} {alternatives : List Shape}
    (found : set.find? name = some type) (body : type.schema.body = .union alternatives)
    (within : hops < set.limit)
    (settled : QuietlySettled set fuel alternatives (hops + 1) node result) :
    Quiet set (fuel + 1) (.ref name) hops node result := by
  intro place path memory fresh
  obtain ⟨sites, after, ran, same⟩ := quiet_settle settled (.union name) path memory fresh
  exact ⟨sites, after, coerce_succ_iff.mpr (.union found body within ran), same⟩

end DocSchema.Coercion
