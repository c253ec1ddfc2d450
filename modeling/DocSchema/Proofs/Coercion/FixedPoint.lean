import DocSchema.Proofs.Coercion.Conversion
import DocSchema.Proofs.Coercion.Reshaping
import DocSchema.Proofs.Coercion.Steady

/-!
# Valid trees are fixed points

Over a discriminated set coercion finds little to do in a valid tree: reshaping leaves it, and
then nothing happens but that whole numbers become integers, which keeps the tree valid. The
outcome is left by a further coercion. Main statement: `coerceTree_of_valid`.
-/

namespace DocSchema

/-- Whether two trees are equal but for some numbers that have become the equal integers. -/
inductive Integerized : Node → Node → Prop where
  | same (node : Node) : Integerized node node
  | whole {number : Double} {value : Int64} (finite : number.isFinite = true)
      (equal : number.units = value.toInt * Double.unitsPerOne) :
      Integerized (.number number) (.integer value)
  | array {items results : List Node} (each : List.Forall₂ Integerized items results) :
      Integerized (.array items) (.array results)
  | record {fields results : List (String × Node)}
      (keys : fields.map Prod.fst = results.map Prod.fst)
      (each : List.Forall₂ Integerized (fields.map Prod.snd) (results.map Prod.snd)) :
      Integerized (.record fields) (.record results)

namespace Coercion

open Validation (Fits MatchesUnion)

variable {set : SchemaSet}

/-! ### Alternatives of an integer -/

theorem isMember_of_whole {values : List Node} {number : Double} {value : Int64}
    (whole : number.toInt64? = some value)
    (listed : Validation.isMember values (.integer value) = true) :
    Validation.isMember values (.number number) = true := by
  obtain ⟨finite, stands⟩ := Double.toInt64?_eq_some_iff.mp whole
  have exact := Double.equals_ofInt finite stands
  rw [Validation.isMember, List.any_eq_true] at listed ⊢
  obtain ⟨literal, member, same⟩ := listed
  refine ⟨literal, member, ?_⟩
  -- Literals are compared as numbers, and the number equals its integer exactly.
  cases literal with
  | integer other =>
    have equal : other = value := by simpa [Validation.literalMatches, Node.equals] using same
    rw [Validation.literalMatches, equal]
    exact exact
  | number other =>
    have also : other.equals (Double.ofInt value.toInt) = true := by
      rw [Double.equals_comm]
      exact same
    simpa only [Validation.literalMatches, Node.equals] using Double.equals_trans also exact
  | _ => cases same

/-- An integer fits no alternative that the number it stands for did not fit. -/
theorem fits_of_whole (built : set.Built) {alternative : Shape}
    (variant : alternative.IsVariant set) {number : Double} {value : Int64}
    (whole : number.toInt64? = some value) (fits : Fits set 0 alternative (.integer value)) :
    Fits set 0 alternative (.number number) := by
  cases alternative with
  | scalar kind =>
    rw [Validation.fits_scalar] at fits ⊢
    cases kind with
    | integer => simp [Validation.scalarMatches, Double.isIntegral, whole]
    | number => exact (Double.toInt64?_eq_some_iff.mp whole).1
    | _ => cases fits
  | enum values =>
    rw [Validation.fits_enum] at fits ⊢
    exact isMember_of_whole whole fits
  | ref name =>
    obtain ⟨type, known⟩ := variant
    obtain ⟨fields, same, _⟩ := Validation.fits_typed built known fits
    cases same
  | _ => exact variant.elim

/-! ### What coercion makes of a value that fits -/

/-- Whether a value may become another one by coercion: it still fits, and nothing is left to
convert. -/
structure Becomes (set : SchemaSet) (shape : Shape) (node result : Node) : Prop where
  integerized : Integerized node result
  distinct : result.distinctKeys = true
  fits : Fits set 0 shape result
  steady : Steady set shape result

/-- Whether coercion quietly makes of a value one that it may become. -/
def Coerces (set : SchemaSet) (shape : Shape) (hops : Nat) (node : Node) : Prop :=
  ∃ result, (∀ fuel, budget set shape node ≤ fuel → Quiet set fuel shape hops node result) ∧
    Becomes set shape node result

/-- What is coerced in a single step is so with any fuel. -/
theorem Coerces.of_quiet {shape : Shape} {hops : Nat} {node result : Node}
    (quiet : ∀ fuel, Quiet set (fuel + 1) shape hops node result)
    (becomes : Becomes set shape node result) : Coerces set shape hops node := by
  refine ⟨result, fun fuel enough => ?_, becomes⟩
  obtain ⟨fuel, rfl⟩ := exists_fuel enough
  exact quiet fuel

theorem coerces_scalar {kind : Scalar} {hops : Nat} {node : Node}
    (fine : Validation.scalarMatches kind node = true) (distinct : node.distinctKeys = true) :
    Coerces set (.scalar kind) hops node := by
  apply Coerces.of_quiet fun fuel => quiet_scalar rfl
  rcases coerceScalar_of_matches fine with same | ⟨number, value, rfl, rfl, whole, converted⟩
  · rw [same]
    exact ⟨.same node, distinct, Validation.fits_scalar.mpr fine, .scalar same⟩
  · obtain ⟨finite, equal⟩ := Double.toInt64?_eq_some_iff.mp whole
    rw [converted]
    exact ⟨.whole finite equal, rfl, Validation.fits_scalar.mpr rfl, .scalar rfl⟩

theorem coerces_enum {values : List Node} {hops : Nat} {node : Node}
    (plain : ∀ value ∈ values, value.IsPlain)
    (listed : Validation.isMember values node = true) (distinct : node.distinctKeys = true) :
    Coerces set (.enum values) hops node := by
  have same := coerceEnum_of_isMember (fun items => plain (.array items)) listed
  exact .of_quiet (fun fuel => quiet_enum same)
    ⟨.same node, distinct, Validation.fits_enum.mpr listed, .enum same⟩

theorem exists_forall₂ {α β : Type} {related : α → β → Prop} {items : List α}
    (each : ∀ item ∈ items, ∃ result, related item result) :
    ∃ results, List.Forall₂ (fun item result => item ∈ items ∧ related item result)
      items results := by
  have some : ∃ results, List.Forall₂ related items results := by
    induction items with
    | nil => exact ⟨[], .nil⟩
    | cons item rest ih =>
      obtain ⟨result, first⟩ := each item List.mem_cons_self
      obtain ⟨results, later⟩ := ih fun other member => each other (List.mem_cons_of_mem _ member)
      exact ⟨result :: results, .cons first later⟩
  obtain ⟨results, all⟩ := some
  exact ⟨results, (List.forall₂_and_left items results).mpr ⟨fun _ member => member, all⟩⟩

theorem coerces_array {items : Shape} {hops : Nat} {values : List Node}
    (each : ∀ value ∈ values, Coerces set items 0 value) :
    Coerces set (.array items) hops (.array values) := by
  obtain ⟨results, related⟩ := exists_forall₂ each
  have quiet : ∀ fuel, budget set (.array items) (.array values) ≤ fuel →
      Quiet set fuel (.array items) hops (.array values) (.array results) := by
    intro fuel enough
    obtain ⟨fuel, rfl⟩ := exists_fuel enough
    apply quiet_array
    refine related.imp fun value result made => ?_
    have less := budget_item set items made.1
    exact made.2.1 fuel (by omega)
  have becomes {result : Node} (member : result ∈ results) :
      ∃ value, Becomes set items value result := by
    obtain ⟨value, _, made⟩ := exists_of_mem_right related member
    exact ⟨value, made.2.2⟩
  refine ⟨.array results, quiet, .array (related.imp fun _ _ made => made.2.2.integerized),
    ?_, ?_, ?_⟩
  · rw [Node.distinctKeys_array_iff]
    intro result member
    obtain ⟨value, made⟩ := becomes member
    exact made.distinct
  · refine Validation.fits_array.mpr ⟨results, rfl, fun result member => ?_⟩
    obtain ⟨value, made⟩ := becomes member
    exact made.fits
  · refine .array fun result member => ?_
    obtain ⟨value, made⟩ := becomes member
    exact made.steady

/-- Whether coercion may make one field of another: the key stays. -/
def FieldBecomes (set : SchemaSet) (type : TypeSchema) (field result : String × Node) : Prop :=
  field.1 = result.1 ∧ ∃ property, type.property? field.1 = some property ∧
    (∀ fuel, budget set property.shape field.2 ≤ fuel →
      Quiet set fuel property.shape 0 field.2 result.2) ∧
    Becomes set property.shape field.2 result.2

theorem keys_eq_of_fieldBecomes {type : TypeSchema} {fields results : List (String × Node)}
    (related : List.Forall₂ (FieldBecomes set type) fields results) :
    fields.map Prod.fst = results.map Prod.fst := by
  induction related with
  | nil => rfl
  | cons first _ ih => rw [List.map_cons, List.map_cons, first.1, ih]

theorem integerized_of_fieldBecomes {type : TypeSchema} {fields results : List (String × Node)}
    (related : List.Forall₂ (FieldBecomes set type) fields results) :
    Integerized (.record fields) (.record results) := by
  refine .record (keys_eq_of_fieldBecomes related) ?_
  rw [List.forall₂_map_left_iff, List.forall₂_map_right_iff]
  exact related.imp fun _ _ ⟨_, _, _, _, made⟩ => made.integerized

theorem becomes_of_mem {type : TypeSchema} {fields results : List (String × Node)}
    (related : List.Forall₂ (FieldBecomes set type) fields results) {key : String} {result : Node}
    (member : (key, result) ∈ results) :
    ∃ property value, type.property? key = some property ∧
      Becomes set property.shape value result := by
  obtain ⟨⟨_, value⟩, _, rfl, property, declares, _, made⟩ := exists_of_mem_right related member
  exact ⟨property, value, declares, made⟩

/-- A record becomes one of the same type if its fields do: the keys are the same, so it has what
is required and nothing undeclared. -/
theorem becomes_record (built : set.Built) {name : String} {type : CompiledType}
    (known : set.recordType? name = some type) {hops : Nat} {fields results : Keyed Node}
    (distinct : Keyed.Distinct fields) (fits : Fits set hops (.ref name) (.record fields))
    (related : List.Forall₂ (FieldBecomes set type.schema) fields results) :
    Becomes set (.ref name) (.record fields) (.record results) := by
  obtain ⟨found, properties, required, aliases, body⟩ := SchemaSet.recordType?_eq_some_iff.mp known
  have formed := built.wellFormed found
  obtain ⟨_, same, declared, present, -⟩ := (Validation.fits_record found body formed).mp fits
  cases same
  have keys := keys_eq_of_fieldBecomes related
  have alsoDistinct : Keyed.Distinct results := by
    rw [Keyed.Distinct, Keyed.keys, ← keys]
    exact distinct
  have stillFits : Fits set 0 (.ref name) (.record results) := by
    refine (Validation.fits_record found body formed).mpr ⟨results, rfl, ?_, ?_, ?_⟩
    · intro key member
      apply declared key
      rwa [Keyed.keys, keys]
    · intro key listed
      rw [← Keyed.mem_keys_iff, Keyed.keys, ← keys]
      exact Keyed.mem_keys_iff.mpr (present key listed)
    · intro key property result declares here
      obtain ⟨other, value, also, made⟩ := becomes_of_mem related (Keyed.mem_of_get? here)
      rw [declares] at also
      cases also
      exact made.fits
  refine ⟨integerized_of_fieldBecomes related, ?_, stillFits, ?_⟩
  · rw [Node.distinctKeys_record_iff]
    refine ⟨alsoDistinct, fun key result member => ?_⟩
    obtain ⟨property, value, _, made⟩ := becomes_of_mem related member
    exact made.distinct
  · obtain ⟨_, same, stillTyped⟩ := Validation.fits_typed built known stillFits
    cases same
    refine .record known (recordTarget?_of_typed stillTyped known name) ?_ ?_
    · intro key result member
      obtain ⟨property, value, declares, _⟩ := becomes_of_mem related member
      exact ⟨property, declares⟩
    · intro key result property member declares
      obtain ⟨other, value, also, made⟩ := becomes_of_mem related member
      rw [declares] at also
      cases also
      exact made.steady

theorem coerces_record (built : set.Built) {name : String}
    {type : CompiledType} (known : set.recordType? name = some type) {hops : Nat}
    {fields : Keyed Node} (distinct : Keyed.Distinct fields)
    (fits : Fits set hops (.ref name) (.record fields))
    (each : ∀ key value property, (key, value) ∈ fields →
      type.schema.property? key = some property → Fits set 0 property.shape value →
      Coerces set property.shape 0 value) :
    Coerces set (.ref name) hops (.record fields) := by
  obtain ⟨found, properties, required, aliases, body⟩ := SchemaSet.recordType?_eq_some_iff.mp known
  obtain ⟨_, same, typed⟩ := Validation.fits_typed built known fits
  cases same
  obtain ⟨_, same, declared, -, fitting⟩ :=
    (Validation.fits_record found body (built.wellFormed found)).mp fits
  cases same
  -- Every field is declared, and its value fits the shape of the property.
  have parts : ∀ field ∈ fields, ∃ result, FieldBecomes set type.schema field result := by
    rintro ⟨key, value⟩ member
    obtain ⟨property, declares⟩ := declared key (List.mem_map.mpr ⟨_, member, rfl⟩)
    obtain ⟨result, quiet, becomes⟩ := each key value property member declares
      (fitting key property value declares ((Keyed.get?_eq_some_iff distinct).mpr member))
    exact ⟨(key, result), rfl, property, declares, quiet, becomes⟩
  obtain ⟨results, related⟩ := exists_forall₂ parts
  have fieldwise := related.imp fun _ _ made => made.2
  refine ⟨.record results, fun fuel enough => ?_,
    becomes_record built known distinct fits fieldwise⟩
  obtain ⟨fuel, rfl⟩ := exists_fuel enough
  apply quiet_record known (recordTarget?_of_typed typed known name) distinct
  refine related.imp fun field result made => ?_
  obtain ⟨member, same, property, declares, runs, _⟩ := made
  have less := budget_field name found declares member
  exact ⟨same, property, declares, runs fuel (by omega)⟩

/-! ### Unions -/

/-- What a value that has found its only alternative becomes there fits the union. -/
structure UnionBecomes (set : SchemaSet) (alternatives : List Shape) (node result : Node) :
    Prop where
  integerized : Integerized node result
  distinct : result.distinctKeys = true
  fits : MatchesUnion (fun alternative => Fits set 0 alternative result) alternatives result
  matched : matching set alternatives result ≠ []
  single : ∀ alternative position,
    matching set alternatives result = [(alternative, position)] → Steady set alternative result

/-- A record that has found the alternative it names is of that type still. -/
theorem Becomes.union_record (built : set.Built) {alternatives : List Shape}
    (variants : ∀ alternative ∈ alternatives, alternative.IsVariant set)
    {fields : Keyed Node} {result : Node} {alternative : Shape}
    (member : alternative ∈ alternatives)
    (fitting : Fits set 0 alternative (.record fields))
    (becomes : Becomes set alternative (.record fields) result) :
    UnionBecomes set alternatives (.record fields) result := by
  obtain ⟨name, type, rfl, known, _⟩ :=
    Validation.fits_variant_record built (variants alternative member) fitting
  obtain ⟨results, rfl, typed⟩ := Validation.fits_typed built known becomes.fits
  refine ⟨becomes.integerized, becomes.distinct, ⟨?_, ?_⟩, ?_, ?_⟩
  · intro other same _
    rw [Node.typeName?, typed] at same
    cases same
    exact becomes.fits
  · intro absent
    exact absurd member (absent name typed)
  · obtain ⟨position, listed⟩ := exists_mem_matching member becomes.fits
    exact List.ne_nil_of_mem listed
  · intro other position only
    obtain ⟨listed, also⟩ := mem_of_matching_eq only
    obtain ⟨named, _, rfl, _, same⟩ :=
      Validation.fits_variant_record built (variants other listed) also
    rw [typed] at same
    cases same
    exact becomes.steady

/-- An integer that a number has become matches the same alternatives. -/
theorem Becomes.union_plain (built : set.Built) {alternatives : List Shape}
    (variants : ∀ alternative ∈ alternatives, alternative.IsVariant set) {node result : Node}
    (plain : node.IsPlain) {alternative : Shape} {position : Nat}
    (fits : MatchesUnion (fun alternative => Fits set 0 alternative node) alternatives node)
    (only : matching set alternatives node = [(alternative, position)])
    (becomes : Becomes set alternative node result) :
    UnionBecomes set alternatives node result := by
  obtain ⟨member, fitting⟩ := mem_of_matching_eq only
  have unique {other : Shape} (listed : other ∈ alternatives) (also : Fits set 0 other node) :
      other = alternative := by
    obtain ⟨place, found⟩ := exists_mem_matching listed also
    rw [only] at found
    cases List.mem_singleton.mp found
    rfl
  have stillPlain : result.IsPlain := by
    cases becomes.integerized with
    | same => exact plain
    | whole => trivial
    | array => exact plain
    | record => exact plain
  -- Becoming an integer cannot make the value fit an alternative that it did not fit.
  have back {other : Shape} (listed : other ∈ alternatives) (also : Fits set 0 other result) :
      Fits set 0 other node := by
    cases becomes.integerized with
    | same => exact also
    | whole finite equal =>
      exact fits_of_whole built (variants other listed)
        (Double.toInt64?_eq_some_iff.mpr ⟨finite, equal⟩) also
    | array => exact plain.elim
    | record => exact plain.elim
  have same : ∀ other ∈ alternatives, Fits set 0 other node ↔ Fits set 0 other result := by
    intro other listed
    constructor
    · intro also
      rw [unique listed also]
      exact becomes.fits
    · exact back listed
  refine ⟨becomes.integerized, becomes.distinct, ?_, ?_, ?_⟩
  · rw [Validation.matchesUnion_plain_iff stillPlain, ← Validation.exactlyOne_congr same,
      ← Validation.matchesUnion_plain_iff plain]
    exact fits
  · obtain ⟨place, listed⟩ := exists_mem_matching member becomes.fits
    exact List.ne_nil_of_mem listed
  · intro other place single
    obtain ⟨listed, also⟩ := mem_of_matching_eq single
    rw [unique listed (back listed also)]
    exact becomes.steady

/-- What fits a union is coerced within its only alternative, or left if it matches several. -/
theorem exists_unionBecomes (built : set.Built) {alternatives : List Shape}
    (variants : ∀ alternative ∈ alternatives, alternative.IsVariant set) {node : Node} (hops : Nat)
    (distinct : node.distinctKeys = true)
    (fits : MatchesUnion (fun alternative => Fits set 0 alternative node) alternatives node)
    (each : ∀ alternative ∈ alternatives, Fits set 0 alternative node →
      Coerces set alternative hops node) :
    ∃ result, (∀ fuel, (∀ alternative ∈ alternatives, budget set alternative node ≤ fuel) →
      QuietlySettled set fuel alternatives hops node result) ∧
      UnionBecomes set alternatives node result := by
  obtain ⟨some, someMember, someFits⟩ := fits.exists_fits
  obtain ⟨place, someListed⟩ := exists_mem_matching someMember someFits
  have matched := List.ne_nil_of_mem someListed
  cases listed : matching set alternatives node with
  | nil => exact absurd listed matched
  | cons first rest =>
    -- Within a single match the value is coerced; where there are several it is left.
    cases rest with
    | nil =>
      obtain ⟨alternative, position⟩ := first
      obtain ⟨member, fitting⟩ := mem_of_matching_eq listed
      obtain ⟨result, quiet, becomes⟩ := each alternative member fitting
      refine ⟨result, fun fuel enough => ?_, ?_⟩
      · exact .inl ⟨alternative, position, listed, quiet fuel (enough alternative member)⟩
      · cases node with
        | array items =>
          have variant := variants alternative member
          exact absurd fitting (Validation.not_fits_variant_array built variant items)
        | record fields => exact becomes.union_record built variants member fitting
        | _ => exact becomes.union_plain built variants trivial fits listed
    | cons second rest =>
      have several : 2 ≤ (matching set alternatives node).length := by
        rw [listed, List.length_cons, List.length_cons]
        omega
      refine ⟨node, fun fuel _ => .inr ⟨several, rfl⟩, .same node, distinct, fits, matched, ?_⟩
      intro alternative position only
      rw [only] at several
      simp at several

theorem coerces_union (built : set.Built) {name : String} {type : CompiledType}
    {alternatives : List Shape} {hops : Nat} {node : Node} (found : set.find? name = some type)
    (body : type.schema.body = .union alternatives)
    (variants : ∀ alternative ∈ alternatives, alternative.IsVariant set)
    (distinct : node.distinctKeys = true) (fits : Fits set hops (.ref name) node)
    (each : ∀ alternative ∈ alternatives, Fits set 0 alternative node →
      Coerces set alternative (hops + 1) node) : Coerces set (.ref name) hops node := by
  obtain ⟨within, matched⟩ := (Validation.fits_union_variants variants found body).mp fits
  obtain ⟨result, quiet, becomes⟩ :=
    exists_unionBecomes built variants (hops + 1) distinct matched each
  have room : 0 < set.limit := by omega
  refine ⟨result, fun fuel enough => ?_, becomes.integerized, becomes.distinct,
    (Validation.fits_union_variants variants found body).mpr ⟨room, becomes.fits⟩,
    .union found body room becomes.matched becomes.single⟩
  obtain ⟨fuel, rfl⟩ := exists_fuel enough
  apply quiet_union found body within
  apply quiet
  intro alternative member
  have less := budget_union node found body (variants alternative member)
  omega

theorem coerces_oneOf (built : set.Built) {alternatives : List Shape} {hops : Nat} {node : Node}
    (variants : ∀ alternative ∈ alternatives, alternative.IsVariant set)
    (distinct : node.distinctKeys = true) (fits : Fits set hops (.oneOf alternatives) node)
    (each : ∀ alternative ∈ alternatives, Fits set 0 alternative node →
      Coerces set alternative hops node) : Coerces set (.oneOf alternatives) hops node := by
  have matched := (Validation.fits_oneOf_variants variants).mp fits
  obtain ⟨result, quiet, becomes⟩ := exists_unionBecomes built variants hops distinct matched each
  refine ⟨result, fun fuel enough => ?_, becomes.integerized, becomes.distinct,
    Validation.fits_oneOf.mpr becomes.fits, .oneOf becomes.matched becomes.single⟩
  obtain ⟨fuel, rfl⟩ := exists_fuel enough
  apply quiet_oneOf
  apply quiet
  intro alternative member
  have less := budget_alternative set node member
  omega

theorem coerces_decode {format : String} {inner : Shape} {hops : Nat} {node : Node}
    (text : node.isString = false) (coerces : Coerces set inner hops node) :
    Coerces set (.decode format inner) hops node := by
  obtain ⟨result, quiet, becomes⟩ := coerces
  -- Only numbers change, so what was no text is none afterwards.
  have stillCoded : result.isString = false := by
    cases becomes.integerized with
    | same => exact text
    | _ => rfl
  refine ⟨result, fun fuel enough => ?_, becomes.integerized, becomes.distinct,
    Validation.fits_decode.mpr (.inr becomes.fits), .decode stillCoded becomes.steady⟩
  obtain ⟨fuel, rfl⟩ := exists_fuel enough
  have less := budget_inner set format inner node
  exact quiet_decode text (quiet fuel (by omega))

/-! ### Whole trees -/

/-- What fits is coerced without a warning to what it may become. -/
theorem coerces_of_fits (built : set.Built) (discriminated : set.Discriminated) {shape : Shape}
    {node : Node} {hops : Nat} (obeys : shape.Discriminated set)
    (distinct : node.distinctKeys = true) (fits : Fits set hops shape node) :
    Coerces set shape hops node := by
  induction shape, node, hops using Validation.validation_induction set with
  | any node hops =>
    exact .of_quiet (fun fuel => quiet_any) ⟨.same node, distinct, Validation.fits_any, .any node⟩
  | scalar kind node hops => exact coerces_scalar (Validation.fits_scalar.mp fits) distinct
  | object node hops =>
    obtain ⟨fields, rfl⟩ := Validation.fits_object.mp fits
    exact .of_quiet (fun fuel => quiet_object)
      ⟨.same _, distinct, Validation.fits_object.mpr ⟨fields, rfl⟩, .object fields⟩
  | enum values node hops => exact coerces_enum obeys (Validation.fits_enum.mp fits) distinct
  | array items node hops ih =>
    obtain ⟨values, rfl, each⟩ := Validation.fits_array.mp fits
    rw [Node.distinctKeys_array_iff] at distinct
    apply coerces_array
    intro value member
    exact ih values rfl value member obeys (distinct value member) (each value member)
  | missing name node hops missing => exact absurd fits (Validation.not_fits_missing missing)
  | record name type properties required aliases node hops found body ih =>
    have known := SchemaSet.recordType?_eq_some_iff.mpr ⟨found, _, _, _, body⟩
    obtain ⟨fields, rfl, _⟩ := Validation.fits_typed built known fits
    rw [Node.distinctKeys_record_iff] at distinct
    apply coerces_record built known distinct.1 fits
    intro key value property member declares fitting
    exact ih fields rfl key value member property.shape (discriminated.property found declares)
      (distinct.2 key value member) fitting
  | union name type alternatives node hops found body ih =>
    have variants : ∀ alternative ∈ alternatives, alternative.IsVariant set :=
      fun alternative member => discriminated.alternative found body member
    have within := ((Validation.fits_union found body).mp fits).1
    apply coerces_union built found body variants distinct fits
    intro alternative member fitting
    have variant := variants alternative member
    -- An alternative enters no union type, so it is fitted whatever the hops are.
    exact ih within alternative member variant.discriminated distinct
      ((Validation.fits_variant_iff variant).mpr fitting)
  | oneOf alternatives node hops ih =>
    apply coerces_oneOf built obeys distinct fits
    intro alternative member fitting
    have variant := obeys alternative member
    exact ih alternative member variant.discriminated distinct
      ((Validation.fits_variant_iff variant).mpr fitting)
  | decode format inner node hops ih =>
    cases text : node.isString with
    | true =>
      obtain ⟨content, rfl⟩ := Validation.isString_iff.mp text
      exact .of_quiet (fun fuel => quiet_text)
        ⟨.same _, rfl, Validation.fits_decode.mpr (.inl rfl), .text content⟩
    | false =>
      have fitting := (Validation.fits_decode.mp fits).resolve_left (by simp [text])
      exact coerces_decode text (ih obeys distinct fitting)

/-- A run with an empty memory that reshaping has nothing to do in ends as quietly. -/
theorem coerceTree_of_quiet {shape : Shape} {node result : Node} {fuel : Nat} {path : Path}
    (left : reshape set shape path node = ⟨node, []⟩) (quiet : Quiet set fuel shape 0 node result) :
    ∃ sites, coerceTree set fuel node shape path = some ⟨result, [], sites⟩ := by
  obtain ⟨sites, after, ran, _⟩ :=
    quiet .given path .empty (UnionMemory.fresh_empty path)
  exact ⟨sites, by simp [coerceTree, coerceTreeWith, coerceReshaped, left, ran]⟩

/-- A valid tree is left by reshaping; coercion makes of it without a warning a valid tree that
differs from it only in whole numbers having become integers; and that tree it leaves. -/
theorem coerceTree_of_valid (built : set.Built) (discriminated : set.Discriminated) {shape : Shape}
    (obeys : shape.Discriminated set) {node : Node} (distinct : node.distinctKeys = true)
    {path : Path} (valid : Validation.validateShape set node shape path = []) :
    reshape set shape path node = ⟨node, []⟩ ∧
      ∃ result, Integerized node result ∧
        Validation.validateShape set result shape path = [] ∧
        ∃ enough, ∀ fuel, enough ≤ fuel →
          (∃ sites, coerceTree set fuel node shape path = some ⟨result, [], sites⟩) ∧
          ∃ sites, coerceTree set fuel result shape path = some ⟨result, [], sites⟩ := by
  have fits := Validation.validateShape_eq_nil_iff.mp valid
  have left := reshape_of_fits built discriminated obeys distinct fits path
  obtain ⟨result, quiet, becomes⟩ := coerces_of_fits built discriminated obeys distinct fits
  have alsoLeft := reshape_of_fits built discriminated obeys becomes.distinct becomes.fits path
  refine ⟨left, result, becomes.integerized, Validation.validateShape_eq_nil_iff.mpr becomes.fits,
    max (budget set shape node) (budget set shape result), fun fuel enough => ⟨?_, ?_⟩⟩
  · apply coerceTree_of_quiet left
    exact quiet fuel (Nat.le_trans (Nat.le_max_left _ _) enough)
  · apply coerceTree_of_quiet alsoLeft
    exact becomes.steady.quiet discriminated obeys becomes.distinct (.inl rfl)
      (Nat.le_trans (Nat.le_max_right _ _) enough)

/-- A book whose year is written as a floating-point number. -/
def notes : Node := .record [("type", .string "Book"), ("title", .string "Notes"),
  ("year", .number ⟨0x409F3C0000000000⟩), ("related", .array [.string "Index"])]

theorem notes_valid : Validation.validateShape SchemaSet.library notes (.ref "Book") [] = [] := by
  have year : Double.toInt64? ⟨0x409F3C0000000000⟩ = some 1999 := by decide +kernel
  rw [Validation.validateShape_eq]
  simp [Validation.errorsOf, Validation.errorsOfProperties, Validation.errorsOfItems,
    Validation.errorsOfUnion, Validation.outcomesOf, Validation.unionErrors,
    Validation.undeclaredErrors, Validation.isMember, Validation.literalMatches,
    Validation.scalarMatches, Double.isIntegral, year, notes, SchemaSet.library, SchemaSet.book,
    SchemaSet.entry, SchemaSet.find?, SchemaSet.defaultLimit, Keyed.get?, Keyed.keys,
    Keyed.contains, TypeSchema.properties, Node.equals, Node.typeName?, Shape.named?]

theorem coerceTree_notes :
    Validation.validateShape SchemaSet.library notes (.ref "Book") [] = [] ∧
      reshape SchemaSet.library (.ref "Book") [] notes = ⟨notes, []⟩ ∧
      ∃ result, Integerized notes result ∧
        Validation.validateShape SchemaSet.library result (.ref "Book") [] = [] ∧
        ∃ enough, ∀ fuel, enough ≤ fuel →
          (∃ sites, coerceTree SchemaSet.library fuel notes (.ref "Book") [] =
            some ⟨result, [], sites⟩) ∧
          ∃ sites, coerceTree SchemaSet.library fuel result (.ref "Book") [] =
            some ⟨result, [], sites⟩ :=
  have obeys : (Shape.ref "Book").Discriminated SchemaSet.library := trivial
  ⟨notes_valid, coerceTree_of_valid SchemaSet.library_built SchemaSet.library_discriminated
    obeys rfl notes_valid⟩

end Coercion

end DocSchema
