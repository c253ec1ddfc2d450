import DocSchema.Proofs.Coercion.Quiet
import DocSchema.Proofs.Coercion.Reshaping

/-!
# Values that coercion leaves

A value is steady where a shape is expected if nothing is left to convert in it: its scalars are
of the expected kinds, its records have declared properties only, and its unions can be settled.
Main statement: `Steady.quiet`, coercion leaves a steady value as it is, with fuel that is known
beforehand.
-/

namespace DocSchema

/-! ### Matching alternatives -/

namespace Coercion

open Validation (Fits)

variable {set : SchemaSet} {alternatives : List Shape} {node : Node}

theorem mem_matching_iff {alternative : Shape} {position : Nat} :
    (alternative, position) ∈ matching set alternatives node ↔
      alternatives[position]? = some alternative ∧ Fits set 0 alternative node := by
  rw [matching, List.mem_filter, List.mem_zipIdx_iff_getElem?, Validation.isValid_iff]

theorem mem_of_mem_matching {alternative : Shape} {position : Nat}
    (listed : (alternative, position) ∈ matching set alternatives node) :
    alternative ∈ alternatives ∧ Fits set 0 alternative node := by
  obtain ⟨found, fits⟩ := mem_matching_iff.mp listed
  exact ⟨List.mem_of_getElem? found, fits⟩

theorem exists_mem_matching {alternative : Shape} (member : alternative ∈ alternatives)
    (fits : Fits set 0 alternative node) :
    ∃ position, (alternative, position) ∈ matching set alternatives node := by
  obtain ⟨position, bound, found⟩ := List.getElem_of_mem member
  refine ⟨position, mem_matching_iff.mpr ⟨?_, fits⟩⟩
  rw [List.getElem?_eq_getElem bound, found]

theorem length_matching_eq_one_iff :
    (matching set alternatives node).length = 1 ↔
      Validation.ExactlyOne (fun alternative => Fits set 0 alternative node) alternatives := by
  have counted : (matching set alternatives node).length =
      (alternatives.filter fun alternative => Validation.isValid set node alternative).length := by
    -- Positions are listed along with the alternatives, but do not count.
    rw [← List.countP_eq_length_filter, matching, ← List.countP_eq_length_filter]
    conv_rhs => rw [← List.zipIdx_map_fst 0 alternatives]
    rw [List.countP_map]
    rfl
  rw [counted, Validation.length_filter_eq_one_iff]
  simp only [Validation.isValid_iff]

/-! ### Steady values -/

/-- Whether nothing is left to convert in a value. -/
inductive Steady (set : SchemaSet) : Shape → Node → Prop where
  | any (node : Node) : Steady set .any node
  | scalar {kind : Scalar} {node : Node} (converted : coerceScalar node kind = node) :
      Steady set (.scalar kind) node
  | object (fields : List (String × Node)) : Steady set .object (.record fields)
  | enum {values : List Node} {node : Node} (converted : coerceEnum node values = node) :
      Steady set (.enum values) node
  | array {items : Shape} {values : List Node} (each : ∀ value ∈ values, Steady set items value) :
      Steady set (.array items) (.array values)
  | record {name : String} {type target : CompiledType} {fields : List (String × Node)}
      (known : set.recordType? name = some type)
      (aimed : recordTarget? set fields name = some target)
      (declared : ∀ key value, (key, value) ∈ fields →
        ∃ property, target.schema.property? key = some property)
      (each : ∀ key value property, (key, value) ∈ fields →
        target.schema.property? key = some property → Steady set property.shape value) :
      Steady set (.ref name) (.record fields)
  | union {name : String} {type : CompiledType} {alternatives : List Shape} {node : Node}
      (found : set.find? name = some type) (body : type.schema.body = .union alternatives)
      (within : 0 < set.limit) (matched : matching set alternatives node ≠ [])
      (single : ∀ alternative position,
        matching set alternatives node = [(alternative, position)] → Steady set alternative node) :
      Steady set (.ref name) node
  | oneOf {alternatives : List Shape} {node : Node}
      (matched : matching set alternatives node ≠ [])
      (single : ∀ alternative position,
        matching set alternatives node = [(alternative, position)] → Steady set alternative node) :
      Steady set (.oneOf alternatives) node
  | text {format : String} {inner : Shape} (content : String) :
      Steady set (.decode format inner) (.string content)
  | decode {format : String} {inner : Shape} {node : Node} (coded : node.isString = false)
      (inside : Steady set inner node) : Steady set (.decode format inner) node

/-! ### Fuel -/

/-- How many shapes lie one inside the other on the way to the parts of a value. -/
def span (set : SchemaSet) : Shape → Nat
  | .ref name => if (set.recordType? name).isSome then 1 else 2
  | .array items => span set items + 1
  | .oneOf alternatives => Shape.heightAll alternatives + 1
  | .decode _ inner => span set inner + 1
  | _ => 1

/-- Fuel that lasts for coercing a value over a discriminated set. -/
def budget (set : SchemaSet) (shape : Shape) (node : Node) : Nat :=
  span set shape + node.weight * (set.depth + 3)

theorem span_le_height (set : SchemaSet) : ∀ shape : Shape, span set shape ≤ shape.height
  | .any => Nat.le_refl 1
  | .scalar _ => Nat.le_refl 1
  | .object => Nat.le_refl 1
  | .enum _ => Nat.le_refl 1
  | .array items => Nat.succ_le_succ (span_le_height set items)
  | .ref name => by
    rw [span, Shape.height]
    split <;> omega
  | .oneOf alternatives => Nat.le_refl _
  | .decode _ inner => Nat.succ_le_succ (span_le_height set inner)

theorem span_variant {shape : Shape} (variant : shape.IsVariant set) : span set shape = 1 := by
  cases shape with
  | scalar kind => rfl
  | enum values => rfl
  | ref name =>
    obtain ⟨type, known⟩ := variant
    simp [span, known]
  | _ => exact variant.elim

theorem span_le_depth {name key : String} {type : CompiledType} {property : Property}
    (found : set.find? name = some type) (declared : type.schema.property? key = some property) :
    span set property.shape ≤ set.depth := by
  have listed : property.shape ∈ type.schema.shapes :=
    List.mem_append_left _ (List.mem_map.mpr ⟨_, Keyed.mem_of_get? declared, rfl⟩)
  apply Nat.le_trans (span_le_height set property.shape)
  apply Shape.height_le_heightAll
  exact List.mem_flatMap.mpr ⟨_, Keyed.mem_of_get? found, listed⟩

section Budget

variable {values : List Node} {fields : List (String × Node)} {value : Node}

theorem budget_item (set : SchemaSet) (items : Shape) (member : value ∈ values) :
    budget set items value + 1 ≤ budget set (.array items) (.array values) := by
  have lighter : value.weight ≤ (Node.array values).weight := by
    have smaller := Node.weight_lt_of_mem_items member
    rw [Node.weight]
    omega
  -- Each unit of weight pays for the shapes that may lie one inside the other at a part.
  have scaled := Nat.mul_le_mul_right (set.depth + 3) lighter
  simp only [budget, span]
  omega

theorem budget_field {name key : String} (other : String) {type : CompiledType}
    {property : Property}
    (found : set.find? name = some type) (declared : type.schema.property? key = some property)
    (member : (key, value) ∈ fields) :
    budget set property.shape value + 1 ≤ budget set (.ref other) (.record fields) := by
  have lighter : value.weight + 1 ≤ (Node.record fields).weight := by
    have smaller := Node.weight_lt_of_mem_fields member
    rw [Node.weight]
    omega
  have scaled := Nat.mul_le_mul_right (set.depth + 3) lighter
  have spanned := span_le_depth found declared
  have positive : 1 ≤ span set (.ref other) := by
    rw [span]
    split <;> omega
  rw [Nat.add_mul] at scaled
  simp only [budget]
  omega

theorem budget_alternative (set : SchemaSet) (node : Node) {alternative : Shape}
    (member : alternative ∈ alternatives) :
    budget set alternative node + 1 ≤ budget set (.oneOf alternatives) node := by
  have higher := Shape.height_le_heightAll member
  have spanned := span_le_height set alternative
  simp only [budget, span]
  omega

theorem budget_union (node : Node) {name : String} {type : CompiledType} {alternative : Shape}
    (found : set.find? name = some type) (body : type.schema.body = .union alternatives)
    (variant : alternative.IsVariant set) :
    budget set alternative node + 1 ≤ budget set (.ref name) node := by
  have two : span set (.ref name) = 2 := by
    simp [span, SchemaSet.recordType?_eq_none_of_union found body]
  simp only [budget, two, span_variant variant]
  omega

theorem budget_inner (set : SchemaSet) (format : String) (inner : Shape) (node : Node) :
    budget set inner node + 1 ≤ budget set (.decode format inner) node := by
  simp only [budget, span]
  omega

theorem exists_fuel {shape : Shape} {fuel : Nat} (enough : budget set shape node ≤ fuel) :
    ∃ less, fuel = less + 1 := by
  have positive : 0 < span set shape := by
    cases shape with
    | ref name =>
      rw [span]
      split <;> omega
    | _ => exact Nat.succ_pos _
  rw [budget] at enough
  exact ⟨fuel - 1, by omega⟩

end Budget

/-! ### Coercing steady values -/

/-- Only where no union type has been entered at a value may one be entered. -/
def MayEnter (set : SchemaSet) (hops : Nat) (shape : Shape) : Prop :=
  hops = 0 ∨ shape.IsVariant set

theorem MayEnter.within {hops : Nat} {name : String} {type : CompiledType}
    (may : MayEnter set hops (.ref name)) (found : set.find? name = some type)
    (body : type.schema.body = .union alternatives) (room : 0 < set.limit) :
    hops < set.limit := by
  rcases may with rfl | ⟨record, known⟩
  · exact room
  · simp [SchemaSet.recordType?_eq_none_of_union found body] at known

theorem mem_of_matching_eq {alternative : Shape} {position : Nat}
    (only : matching set alternatives node = [(alternative, position)]) :
    alternative ∈ alternatives ∧ Fits set 0 alternative node := by
  apply mem_of_mem_matching
  rw [only]
  exact List.mem_singleton_self _

/-- Where an alternative is matched, only a single one has to leave the value. -/
theorem quietlySettled_of_matched {fuel hops : Nat} (matched : matching set alternatives node ≠ [])
    (single : ∀ alternative position, matching set alternatives node = [(alternative, position)] →
      Quiet set fuel alternative hops node node) :
    QuietlySettled set fuel alternatives hops node node := by
  cases listed : matching set alternatives node with
  | nil => exact absurd listed matched
  | cons first rest =>
    cases rest with
    | nil => exact .inl ⟨first.1, first.2, listed, single first.1 first.2 listed⟩
    | cons second rest =>
      refine .inr ⟨?_, rfl⟩
      rw [listed, List.length_cons, List.length_cons]
      omega

/-- Nothing is done to a steady value. -/
theorem Steady.quiet (discriminated : set.Discriminated) {shape : Shape} {node : Node}
    (steady : Steady set shape node) (obeys : shape.Discriminated set)
    (distinct : node.distinctKeys = true) {hops : Nat} (may : MayEnter set hops shape) {fuel : Nat}
    (enough : budget set shape node ≤ fuel) : Quiet set fuel shape hops node node := by
  induction steady generalizing hops fuel with
  | any node =>
    obtain ⟨fuel, rfl⟩ := exists_fuel enough
    exact quiet_any
  | scalar converted =>
    obtain ⟨fuel, rfl⟩ := exists_fuel enough
    exact quiet_scalar converted
  | object fields =>
    obtain ⟨fuel, rfl⟩ := exists_fuel enough
    exact quiet_object
  | enum converted =>
    obtain ⟨fuel, rfl⟩ := exists_fuel enough
    exact quiet_enum converted
  | @array items values each ih =>
    obtain ⟨fuel, rfl⟩ := exists_fuel enough
    rw [Node.distinctKeys_array_iff] at distinct
    apply quiet_array
    apply List.forall₂_same.mpr
    intro value member
    have less := budget_item set items member
    -- At a part no union type has been entered yet, so any shape may be met there.
    exact ih value member obeys (distinct value member) (.inl rfl) (by omega)
  | @record name type target fields known aimed declared each ih =>
    obtain ⟨fuel, rfl⟩ := exists_fuel enough
    rw [Node.distinctKeys_record_iff] at distinct
    obtain ⟨other, targeted⟩ := recordTarget?_known aimed
    have found := (SchemaSet.recordType?_eq_some_iff.mp targeted).1
    apply quiet_record known aimed distinct.1
    apply List.forall₂_same.mpr
    rintro ⟨key, value⟩ member
    obtain ⟨property, declares⟩ := declared key value member
    have less := budget_field name found declares member
    exact ⟨rfl, property, declares, ih key value property member declares
      (discriminated.property found declares) (distinct.2 key value member) (.inl rfl) (by omega)⟩
  | @union name type alternatives node found body within matched single ih =>
    obtain ⟨fuel, rfl⟩ := exists_fuel enough
    apply quiet_union found body (may.within found body within)
    apply quietlySettled_of_matched matched
    intro alternative position only
    have member := (mem_of_matching_eq only).1
    -- An alternative of a union type enters no further union type.
    have variant := discriminated.alternative found body member
    have less := budget_union node found body variant
    exact ih alternative position only variant.discriminated distinct (.inr variant) (by omega)
  | @oneOf alternatives node matched single ih =>
    obtain ⟨fuel, rfl⟩ := exists_fuel enough
    apply quiet_oneOf
    apply quietlySettled_of_matched matched
    intro alternative position only
    have member := (mem_of_matching_eq only).1
    have less := budget_alternative set node member
    exact ih alternative position only (obeys alternative member).discriminated distinct
      (.inr (obeys alternative member)) (by omega)
  | text content =>
    obtain ⟨fuel, rfl⟩ := exists_fuel enough
    exact quiet_text
  | @decode format inner node coded inside ih =>
    obtain ⟨fuel, rfl⟩ := exists_fuel enough
    have less := budget_inner set format inner node
    have outermost : MayEnter set hops inner := by
      rcases may with rfl | variant
      · exact .inl rfl
      · exact variant.elim
    exact quiet_decode coded (ih obeys distinct outermost (by omega))

end Coercion

end DocSchema
