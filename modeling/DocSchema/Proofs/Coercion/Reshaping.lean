import DocSchema.Proofs.Coercion.Counting
import DocSchema.Proofs.Schema.Naming
import DocSchema.Proofs.Validation.Discriminated
import Mathlib.Data.List.Forall2

/-!
# Reshaping

What the first pass of coercion makes of a value is made of what it makes of the parts, which
gives an induction. Over a discriminated set it finds nothing to do in a value that fits: its keys
are the names of properties already, every property has as many values as its shape holds, and
nothing required is absent. Main statements: `reshape_induction` and `reshape_of_fits`.
-/

namespace DocSchema

namespace Coercion

open Validation (Fits)

variable {set : SchemaSet}

/-- Distinct keys that stand for themselves are left. -/
theorem canonicalize_of_resolved {names : PropertyNames} {path : Path} {seen : List String}
    {fields : Keyed Node} (distinct : Keyed.Distinct fields)
    (fresh : ∀ key ∈ Keyed.keys fields, key ∉ seen)
    (resolved : ∀ key ∈ Keyed.keys fields, names.resolve? key = some key) :
    canonicalize names path seen fields = ⟨fields, []⟩ := by
  induction fields generalizing seen with
  | nil => rfl
  | cons field rest ih =>
    obtain ⟨key, value⟩ := field
    obtain ⟨absent, distinct⟩ := List.nodup_cons.mp distinct
    -- The key stands for itself and has not been given, so the field is kept.
    have new : seen.contains key = false := by
      simpa using fresh key (by simp [Keyed.keys])
    have unseen : ∀ other ∈ Keyed.keys rest, other ∉ seen ++ [key] := by
      intro other member
      have outside := fresh other (List.mem_cons_of_mem _ member)
      have different : other ≠ key := fun same => absent (same ▸ member)
      simp [outside, different]
    have later := ih distinct unseen fun other member =>
      resolved other (List.mem_cons_of_mem _ member)
    simp only [canonicalize, resolved key (by simp [Keyed.keys]), new, later, Bool.false_eq_true,
      if_false]

/-- Of the fields that stand for one property the first is kept. -/
theorem canonicalize_distinct (names : PropertyNames) (path : Path) (seen : List String)
    (fields : List (String × Node)) :
    Keyed.Distinct (canonicalize names path seen fields).value ∧
      (∀ key ∈ Keyed.keys (canonicalize names path seen fields).value, key ∉ seen) ∧
      ∀ key value, (key, value) ∈ (canonicalize names path seen fields).value →
        ∃ other, (other, value) ∈ fields := by
  induction fields generalizing seen with
  | nil => exact ⟨Keyed.distinct_nil, by simp [canonicalize, Keyed.keys], by simp [canonicalize]⟩
  | cons field rest ih =>
    obtain ⟨key, value⟩ := field
    have weaken {inner : Node} (given : ∃ other, (other, inner) ∈ rest) :
        ∃ other, (other, inner) ∈ (key, value) :: rest :=
      given.imp fun _ member => List.mem_cons_of_mem _ member
    simp only [canonicalize]
    split
    next =>
      obtain ⟨distinct, fresh, only⟩ := ih seen
      exact ⟨distinct, fresh, fun name inner member => weaken (only name inner member)⟩
    next name _ =>
      split
      next =>
        obtain ⟨distinct, fresh, only⟩ := ih seen
        exact ⟨distinct, fresh, fun name inner member => weaken (only name inner member)⟩
      next new =>
        obtain ⟨distinct, fresh, only⟩ := ih (seen ++ [name])
        -- A kept name counts as seen for the fields that follow.
        refine ⟨List.nodup_cons.mpr ⟨?_, distinct⟩, ?_, ?_⟩
        · intro member
          exact fresh name member (by simp)
        · intro other member
          rcases List.mem_cons.mp member with rfl | later
          · simpa using new
          · have outside := fresh other later
            simp only [List.mem_append, not_or] at outside
            exact outside.1
        · intro other inner member
          rcases List.mem_cons.mp member with same | later
          · cases same
            exact ⟨key, List.mem_cons_self⟩
          · exact weaken (only other inner later)

/-! ### Induction along reshaping -/

theorem exists_of_mem_right {α β : Type} {related : α → β → Prop} {items : List α}
    {results : List β} (all : List.Forall₂ related items results) {result : β}
    (member : result ∈ results) : ∃ item ∈ items, related item result := by
  induction all with
  | nil => cases member
  | cons first _ ih =>
    rcases List.mem_cons.mp member with rfl | later
    · exact ⟨_, List.mem_cons_self, first⟩
    · obtain ⟨item, listed, holds⟩ := ih later
      exact ⟨item, List.mem_cons_of_mem _ listed, holds⟩

theorem recordTarget?_known {fields : Keyed Node} {name : String} {target : CompiledType}
    (aimed : recordTarget? set fields name = some target) :
    ∃ other, set.recordType? other = some target := by
  unfold recordTarget? at aimed
  split at aimed
  next type named =>
    cases aimed
    obtain ⟨other, _, known⟩ := Option.bind_eq_some_iff.mp named
    exact ⟨other, known⟩
  next => exact ⟨name, aimed⟩

theorem reshapeItems_related {related : Node → Node → Prop} {items : Shape} {path : Path}
    {values : List Node} (position : Nat)
    (each : ∀ value ∈ values, ∀ path, related value (reshape set items path value).value) :
    List.Forall₂ related values (reshapeItems set items path position values).value := by
  induction values generalizing position with
  | nil =>
    rw [reshapeItems]
    exact .nil
  | cons value rest ih =>
    rw [reshapeItems]
    exact .cons (each value List.mem_cons_self _)
      (ih (position + 1) fun other member => each other (List.mem_cons_of_mem _ member))

/-- A value stays as it is, is put into an array, or is left of one. -/
theorem fixCardinality_cases {name : String} {value fixed : Node} {shape : Shape} {path : Path}
    (kept : (fixCardinality set name value shape path).value = some fixed) :
    fixed = value ∨ fixed = .array [value] ∨ ∃ items, value = .array items ∧ fixed ∈ items := by
  unfold fixCardinality at kept
  split at kept
  next =>
    cases kept
    exact .inl rfl
  next =>
    split at kept
    next =>
      cases kept
      exact .inr (.inl rfl)
    next => cases kept
    next =>
      cases kept
      exact .inr (.inr ⟨_, rfl, List.mem_singleton_self _⟩)
    next =>
      cases kept
      exact .inr (.inr ⟨_, rfl, List.mem_cons_self⟩)
    next =>
      cases kept
      exact .inl rfl

/-- What reshaping makes of the value of a property. -/
def ReshapedField (related : Shape → Node → Node → Prop) (set : SchemaSet) (type : TypeSchema)
    (fields : List (String × Node)) (key : String) (result : Node) : Prop :=
  ∃ value property path fixed, (key, value) ∈ fields ∧ type.property? key = some property ∧
    (fixCardinality set key value property.shape path).value = some fixed ∧
    related property.shape fixed result

theorem reshapeFields_related (related : Shape → Node → Node → Prop) {type : TypeSchema}
    {path : Path} {fields : List (String × Node)}
    (each : ∀ key value shape fixed, (key, value) ∈ fields →
      (fixCardinality set key value shape path).value = some fixed →
      related shape fixed (reshape set shape (path.property key) fixed).value) :
    (Keyed.keys (reshapeFields set type path fields).value).Sublist (Keyed.keys fields) ∧
      ∀ key result, (key, result) ∈ (reshapeFields set type path fields).value →
        ReshapedField related set type fields key result := by
  induction fields with
  | nil =>
    rw [reshapeFields]
    exact ⟨.refl _, by simp⟩
  | cons field rest ih =>
    obtain ⟨name, value⟩ := field
    obtain ⟨order, later⟩ := ih fun key value shape fixed member =>
      each key value shape fixed (List.mem_cons_of_mem _ member)
    have weaken {key : String} {result : Node}
        (given : ReshapedField related set type rest key result) :
        ReshapedField related set type ((name, value) :: rest) key result := by
      obtain ⟨inner, property, path, fixed, member, rest⟩ := given
      exact ⟨inner, property, path, fixed, List.mem_cons_of_mem _ member, rest⟩
    rw [reshapeFields]
    split
    next => exact ⟨order.cons _, fun key result member => weaken (later key result member)⟩
    next property declares =>
      dsimp only
      split
      next => exact ⟨order.cons _, fun key result member => weaken (later key result member)⟩
      next fixed kept =>
        refine ⟨order.cons_cons _, fun key result member => ?_⟩
        rcases List.mem_cons.mp member with same | member
        · cases same
          exact ⟨value, property, path, fixed, List.mem_cons_self, declares, kept,
            each name value property.shape fixed List.mem_cons_self kept⟩
        · exact weaken (later key result member)

/-- Reshaping goes from a value into its items and into the values of its properties, once these
have been brought to the names of a type and to the number of values that their shapes hold.
What follows for a value from all that reshaping meets below it holds of every value. -/
@[elab_as_elim]
theorem reshape_induction (set : SchemaSet) {motive : Shape → Node → Node → Prop}
    (left : ∀ shape node, motive shape node node)
    (items : ∀ shape values results, List.Forall₂ (motive shape) values results →
      motive (.array shape) (.array values) (.array results))
    (wrap : ∀ shape fields result, motive shape (.record fields) result →
      motive (.array shape) (.record fields) (.array [result]))
    (named : ∀ alternatives alternative node result,
      Shape.named? alternatives node = some alternative → motive alternative node result →
      motive (.oneOf alternatives) node result)
    (inner : ∀ format shape node result, node.isString = false → motive shape node result →
      motive (.decode format shape) node result)
    (record : ∀ name target fields path shaped, recordTarget? set fields name = some target →
      Keyed.Distinct shaped →
      (∀ key result, (key, result) ∈ shaped → ReshapedField motive set target.schema
        (canonicalize target.names path [] fields).value key result) →
      motive (.ref name) (.record fields)
        (.record (fillRequired set [] target.schema target.schema.required shaped)))
    (shape : Shape) (path : Path) (node : Node) :
    motive shape node (reshape set shape path node).value := by
  match shape with
  | .array shape =>
    rw [reshape.eq_def]
    cases node with
    | array values =>
      apply items
      apply reshapeItems_related
      intro value member path
      exact reshape_induction set left items wrap named inner record shape path value
    | record fields =>
      apply wrap
      exact reshape_induction set left items wrap named inner record shape (path.index 0)
        (.record fields)
    | null | boolean _ | integer _ | number _ | string _ => exact left _ _
  | .ref name =>
    rw [reshape.eq_def]
    cases node with
    | record fields =>
      dsimp only
      split
      next => exact left _ _
      next target aimed =>
        -- A value that was put into an array or taken from one still weighs less than the record.
        obtain ⟨distinct, _, only⟩ := canonicalize_distinct target.names path [] fields
        obtain ⟨order, each⟩ :=
          reshapeFields_related motive fun key value shape fixed member kept =>
            reshape_induction set left items wrap named inner record shape (path.property key) fixed
        rw [reshapeRecord]
        exact record name target fields path _ aimed (distinct.sublist order) each
    | null | boolean _ | integer _ | number _ | string _ | array _ => exact left _ _
  | .oneOf alternatives =>
    rw [reshape.eq_def]
    cases node with
    | record fields =>
      dsimp only
      split
      next => exact left _ _
      next alternative chosen =>
        have listed := Shape.mem_of_named? chosen
        exact named alternatives alternative (.record fields) _ chosen
          (reshape_induction set left items wrap named inner record alternative path
            (.record fields))
    | null | boolean _ | integer _ | number _ | string _ | array _ => exact left _ _
  | .decode format shape =>
    rw [reshape]
    split
    next => exact left _ _
    next coded =>
      exact inner format shape node _ (by simpa using coded)
        (reshape_induction set left items wrap named inner record shape path node)
  | .any | .scalar _ | .object | .enum _ =>
    rw [reshape.eq_def]
    exact left _ _
termination_by (node.weight, sizeOf shape)
decreasing_by
  · have smaller := Node.weight_lt_of_mem_items member
    exact Prod.Lex.left _ _ (by simp only [Node.weight]; omega)
  · exact Prod.Lex.right _ (by simp only [Shape.array.sizeOf_spec]; omega)
  · obtain ⟨other, inside⟩ := only key value member
    have smaller := Node.weight_lt_of_mem_fields inside
    have fixedSmaller := weight_fixCardinality kept
    exact Prod.Lex.left _ _ (by simp only [Node.weight]; omega)
  · have smaller := List.sizeOf_lt_of_mem listed
    exact Prod.Lex.right _ (by simp only [Shape.oneOf.sizeOf_spec]; omega)
  · exact Prod.Lex.right _ (by simp only [Shape.decode.sizeOf_spec]; omega)

/-! ### Cardinality -/

/-- Over a discriminated set no literal value has parts, so none is an array. -/
theorem listsNoArray_of_discriminated (discriminated : set.Discriminated) {shape : Shape}
    (obeys : shape.Discriminated set) : set.ListsNoArray shape := by
  intro values enumerates
  induction enumerates with
  | enum values => exact fun items member => obeys _ member
  | union known body member _ ih =>
    exact ih (discriminated.alternative known body member).discriminated
  | oneOf member _ ih => exact ih (obeys _ member).discriminated
  | decode _ ih => exact ih obeys

/-! ### Defaults -/

/-- Nothing is filled in where nothing is absent. -/
theorem fillRequired_of_present {filling : List String} {type : TypeSchema}
    {required : List String} {fields : Keyed Node}
    (present : ∀ name ∈ required, Keyed.contains fields name = true) :
    fillRequired set filling type required fields = fields := by
  induction required with
  | nil => rw [fillRequired]
  | cons name rest ih =>
    rw [fillRequired, if_pos (present name List.mem_cons_self)]
    exact ih fun other member => present other (List.mem_cons_of_mem _ member)

/-! ### Trees -/

theorem reshapeItems_of_untouched {items : Shape} (path : Path) {values : List Node}
    (position : Nat)
    (untouched : ∀ value ∈ values, ∀ path, reshape set items path value = ⟨value, []⟩) :
    reshapeItems set items path position values = ⟨values, []⟩ := by
  induction values generalizing position with
  | nil => rw [reshapeItems]
  | cons value rest ih =>
    have later := ih (position + 1) fun other member =>
      untouched other (List.mem_cons_of_mem _ member)
    rw [reshapeItems, later, untouched value List.mem_cons_self]
    rfl

/-- Whether a property's value is left by the repair of cardinality and by reshaping. -/
def Untouched (set : SchemaSet) (path : Path) (name : String) (property : Property) (value : Node) :
    Prop :=
  fixCardinality set name value property.shape path = ⟨some value, []⟩ ∧
    reshape set property.shape (path.property name) value = ⟨value, []⟩

theorem reshapeFields_kept {type : TypeSchema} {path : Path} {name : String} {value fixed : Node}
    {rest : Keyed Node} {property : Property} {warnings : List Warning}
    (declared : type.property? name = some property)
    (kept : fixCardinality set name value property.shape path = ⟨some fixed, warnings⟩) :
    reshapeFields set type path ((name, value) :: rest) =
      ⟨(name, (reshape set property.shape (path.property name) fixed).value) ::
          (reshapeFields set type path rest).value,
        warnings ++ (reshape set property.shape (path.property name) fixed).warnings ++
          (reshapeFields set type path rest).warnings⟩ := by
  rw [reshapeFields]
  simp only [declared]
  split
  next dropped => simp [kept] at dropped
  next other same =>
    rw [kept] at same
    cases same
    rw [kept]

theorem reshapeFields_dropped {type : TypeSchema} {path : Path} {name : String} {value : Node}
    {rest : Keyed Node} {property : Property} (declared : type.property? name = some property)
    (dropped : (fixCardinality set name value property.shape path).value = none) :
    reshapeFields set type path ((name, value) :: rest) =
      ⟨(reshapeFields set type path rest).value,
        (fixCardinality set name value property.shape path).warnings ++
          (reshapeFields set type path rest).warnings⟩ := by
  rw [reshapeFields]
  simp only [declared]
  split
  next => rfl
  next other kept => simp [dropped] at kept

theorem reshapeFields_of_untouched {type : TypeSchema} {path : Path} {fields : Keyed Node}
    (untouched : ∀ name value, (name, value) ∈ fields →
      ∃ property, type.property? name = some property ∧ Untouched set path name property value) :
    reshapeFields set type path fields = ⟨fields, []⟩ := by
  induction fields with
  | nil => rw [reshapeFields]
  | cons field rest ih =>
    obtain ⟨name, value⟩ := field
    obtain ⟨property, declared, fixed, inside⟩ := untouched name value List.mem_cons_self
    have later := ih fun other value member => untouched other value (List.mem_cons_of_mem _ member)
    rw [reshapeFields_kept declared fixed, inside, later]
    rfl

/-- A record whose properties are all left, with what its type requires, is left. -/
theorem reshapeRecord_of_untouched {type : CompiledType} {path : Path} {fields : Keyed Node}
    (distinct : Keyed.Distinct fields)
    (present : ∀ name ∈ type.schema.required, Keyed.contains fields name = true)
    (untouched : ∀ name value, (name, value) ∈ fields →
      ∃ property, type.schema.property? name = some property ∧
        Untouched set path name property value) :
    reshapeRecord set type path fields = ⟨fields, []⟩ := by
  have canonical : canonicalize type.names path [] fields = ⟨fields, []⟩ := by
    apply canonicalize_of_resolved distinct
    · simp
    · intro key member
      obtain ⟨⟨name, value⟩, listed, rfl⟩ := List.mem_map.mp member
      obtain ⟨property, declared, _⟩ := untouched name value listed
      rw [type.names_eq]
      exact PropertyNames.resolve?_property declared
  simp only [reshapeRecord, canonical, reshapeFields_of_untouched untouched,
    fillRequired_of_present present, List.nil_append]

/-- The discriminator of a record decides what it is shaped as. -/
theorem recordTarget?_of_typed {fields : Keyed Node} {name : String} {type : CompiledType}
    (typed : Node.discriminator? fields = some name) (known : set.recordType? name = some type)
    (expected : String) : recordTarget? set fields expected = some type := by
  simp [recordTarget?, typed, known]

/-- What fits is left as it is. -/
theorem reshape_of_fits (built : set.Built) (discriminated : set.Discriminated) {shape : Shape}
    {node : Node} {hops : Nat} (obeys : shape.Discriminated set)
    (distinct : node.distinctKeys = true) (fits : Fits set hops shape node) (path : Path) :
    reshape set shape path node = ⟨node, []⟩ := by
  induction shape, node, hops using Validation.validation_induction set generalizing path with
  | any => simp [reshape]
  | scalar => simp [reshape]
  | object => simp [reshape]
  | enum => simp [reshape]
  | array items node hops ih =>
    obtain ⟨values, rfl, each⟩ := Validation.fits_array.mp fits
    rw [Node.distinctKeys_array_iff] at distinct
    have inside := reshapeItems_of_untouched path 0 fun value member path =>
      ih values rfl value member obeys (distinct value member) (each value member) path
    simp [reshape, inside]
  | missing name node hops missing => exact absurd fits (Validation.not_fits_missing missing)
  | record name type properties required aliases node hops found body ih =>
    have known := SchemaSet.recordType?_eq_some_iff.mpr ⟨found, _, _, _, body⟩
    obtain ⟨fields, rfl, typed⟩ := Validation.fits_typed built known fits
    rw [Node.distinctKeys_record_iff] at distinct
    obtain ⟨_, same, declared, present, each⟩ :=
      (Validation.fits_record found body (built.wellFormed found)).mp fits
    cases same
    have untouched : ∀ key value, (key, value) ∈ fields →
        ∃ property, type.schema.property? key = some property ∧
          Untouched set path key property value := by
      intro key value member
      obtain ⟨property, declares⟩ := declared key (List.mem_map.mpr ⟨_, member, rfl⟩)
      have fitting := each key property value declares
        ((Keyed.get?_eq_some_iff distinct.1).mpr member)
      have shaped := discriminated.property found declares
      have unlisted := listsNoArray_of_discriminated discriminated shaped
      exact ⟨property, declares, fixCardinality_of_fits unlisted fitting key path,
        ih fields rfl key value member property.shape shaped (distinct.2 key value member) fitting
          (path.property key)⟩
    have kept := reshapeRecord_of_untouched distinct.1
      (fun key listed => Option.isSome_iff_exists.mpr (present key listed)) untouched
    simp [reshape, recordTarget?_of_typed typed known, kept]
  | union name type alternatives node hops found body ih =>
    obtain ⟨within, matched⟩ := (Validation.fits_union found body).mp fits
    obtain ⟨alternative, member, fitting⟩ := matched.exists_fits
    have variant := discriminated.alternative found body member
    cases node with
    | record fields =>
      -- The record is of the alternative that its discriminator names, and shaped as that.
      obtain ⟨other, target, rfl, known, typed⟩ :=
        Validation.fits_variant_record built variant fitting
      have inside := ih within _ member trivial distinct fitting path
      simp only [reshape, recordTarget?_of_typed typed known] at inside ⊢
      exact inside
    | _ => simp [reshape]
  | oneOf alternatives node hops ih =>
    cases node with
    | record fields =>
      have matched := Validation.fits_oneOf.mp fits
      rw [reshape]
      split
      next => rfl
      next alternative named =>
        -- Reshaping and validation go by the same discriminator.
        obtain ⟨name, typed, member, rfl⟩ := Validation.named?_eq_some_iff.mp named
        exact ih _ member trivial distinct (matched.1 name typed member) path
    | _ => simp [reshape]
  | decode format inner node hops ih =>
    rw [reshape]
    rcases Validation.fits_decode.mp fits with text | fitting
    · simp [text]
    · simp [ih obeys distinct fitting path]

end Coercion

end DocSchema
