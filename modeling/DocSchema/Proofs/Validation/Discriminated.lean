import DocSchema.Proofs.Validation.Fitting

/-!
# Discriminated schema sets

In a discriminated set the alternatives of unions are kinds of values without parts, literal
values without parts, and record types, which are told apart by the discriminator. Main
statements: `fits_typed`, a record that fits a record type bears its name, and
`fits_variant_record`, no other alternative is fitted by it.
-/

namespace DocSchema

/-- Whether a value has no parts. -/
def Node.IsPlain : Node → Prop
  | .array _ => False
  | .record _ => False
  | _ => True

namespace Shape

/-- Whether a shape may be an alternative of a union in a discriminated set. -/
def IsVariant (set : SchemaSet) : Shape → Prop
  | .scalar _ => True
  | .enum values => ∀ value ∈ values, value.IsPlain
  | .ref name => ∃ type, set.recordType? name = some type
  | _ => False

/-- Whether the unions and literal values inside a shape obey the rule of discriminated sets. -/
def Discriminated (set : SchemaSet) : Shape → Prop
  | .enum values => ∀ value ∈ values, value.IsPlain
  | .array items => items.Discriminated set
  | .oneOf alternatives => ∀ alternative ∈ alternatives, alternative.IsVariant set
  | .decode _ inner => inner.Discriminated set
  | _ => True

theorem IsVariant.discriminated {set : SchemaSet} {shape : Shape} (variant : shape.IsVariant set) :
    shape.Discriminated set := by
  cases shape with
  | enum values => exact variant
  | scalar kind => trivial
  | ref name => trivial
  | _ => exact variant.elim

end Shape

/-- Whether all shapes of a set, and the alternatives of its union types, obey the rule. -/
structure SchemaSet.Discriminated (set : SchemaSet) : Prop where
  property : ∀ {name type key property}, set.find? name = some type →
    type.schema.property? key = some property → property.shape.Discriminated set
  alternative : ∀ {name type alternatives alternative}, set.find? name = some type →
    type.schema.body = .union alternatives → alternative ∈ alternatives →
    alternative.IsVariant set

namespace SchemaSet

/-- A record type is a type of the set that is no union type. -/
theorem recordType?_eq_some_iff {set : SchemaSet} {name : String} {type : CompiledType} :
    set.recordType? name = some type ↔ set.find? name = some type ∧
      ∃ properties required aliases, type.schema.body = .record properties required aliases := by
  simp only [recordType?, Option.filter_eq_some_iff, TypeSchema.isUnion, TypeSchema.alternatives?]
  cases type.schema.body <;> simp

theorem recordType?_eq_none_of_union {set : SchemaSet} {name : String} {type : CompiledType}
    {alternatives : List Shape} (known : set.find? name = some type)
    (body : type.schema.body = .union alternatives) : set.recordType? name = none := by
  simp [recordType?, known, TypeSchema.isUnion, TypeSchema.alternatives?, body]

/-- In a library only entries are of several kinds: books, which are records, and texts. -/
theorem library_discriminated : library.Discriminated := by
  constructor
  · intro name type key property found declares
    have listed := Keyed.mem_of_get? declares
    rcases find?_library found with ⟨rfl, rfl⟩ | ⟨rfl, rfl⟩
    · simp only [CompiledType.schema_ofSchema, TypeSchema.properties, book, List.mem_cons,
        Prod.mk.injEq, List.not_mem_nil, or_false] at listed
      rcases listed with ⟨_, rfl⟩ | ⟨_, rfl⟩ | ⟨_, rfl⟩ | ⟨_, rfl⟩
      · simp [Shape.Discriminated, Node.IsPlain]
      · trivial
      · trivial
      · trivial
    · cases listed
  · intro name type alternatives alternative found body member
    rcases find?_library found with ⟨rfl, rfl⟩ | ⟨rfl, rfl⟩
    · cases body
    · cases body
      rcases List.mem_cons.mp member with rfl | member
      · exact ⟨.ofSchema book, rfl⟩
      · cases List.mem_singleton.mp member
        trivial

end SchemaSet

namespace Validation

variable {set : SchemaSet} {hops : Nat}

/-! ### Values that fit a record type -/

/-- A record that fits a record type bears its name. -/
theorem fits_typed (built : set.Built) {name : String} {type : CompiledType} {node : Node}
    (known : set.recordType? name = some type) (fits : Fits set hops (.ref name) node) :
    ∃ fields, node = .record fields ∧ Node.discriminator? fields = some name := by
  obtain ⟨found, properties, required, aliases, body⟩ := SchemaSet.recordType?_eq_some_iff.mp known
  have formed := built.wellFormed found
  have isRecord : type.schema.isUnion = false := by
    simp [TypeSchema.isUnion, TypeSchema.alternatives?, body]
  obtain ⟨fields, rfl, _, present, each⟩ := (fits_record found body formed).mp fits
  refine ⟨fields, rfl, ?_⟩
  -- The discriminator is required, and only the name of the type fits it.
  obtain ⟨value, here⟩ := present _ (formed.required isRecord)
  obtain ⟨property, declared, shape⟩ := formed.discriminator isRecord
  have member := each _ property value declared here
  rw [shape, TypeSchema.discriminatorShape, fits_enum] at member
  have same : value = .string name := by
    cases value <;> simp_all [isMember, literalMatches, Node.equals]
  rw [Node.discriminator?, here, same]

/-! ### Values that fit an alternative -/

theorem isPlain_of_scalarMatches {kind : Scalar} {node : Node}
    (fine : scalarMatches kind node = true) : node.IsPlain := by
  cases node with
  | array items => cases kind <;> simp [scalarMatches] at fine
  | record fields => cases kind <;> simp [scalarMatches] at fine
  | _ => trivial

/-- Only values without parts are equal to literal values without parts. -/
theorem isPlain_of_isMember {values : List Node} {node : Node}
    (plain : ∀ value ∈ values, value.IsPlain) (listed : isMember values node = true) :
    node.IsPlain := by
  obtain ⟨value, member, same⟩ := List.any_eq_true.mp listed
  have also := plain value member
  cases node with
  | array items => cases value <;> simp_all [literalMatches, Node.equals, Node.IsPlain]
  | record fields => cases value <;> simp_all [literalMatches, Node.equals, Node.IsPlain]
  | _ => trivial

/-- The hops do not matter to an alternative, since it enters no union type. -/
theorem fits_variant_iff {shape : Shape} (variant : shape.IsVariant set) {node : Node} :
    Fits set hops shape node ↔ Fits set 0 shape node := by
  cases shape with
  | scalar kind => rw [fits_scalar, fits_scalar]
  | enum values => rw [fits_enum, fits_enum]
  | ref name =>
    obtain ⟨type, known⟩ := variant
    obtain ⟨found, properties, required, aliases, body⟩ :=
      SchemaSet.recordType?_eq_some_iff.mp known
    rw [Fits, Fits, errorsOf_record_eq_nil_iff found body, errorsOf_record_eq_nil_iff found body]
  | _ => exact variant.elim

section Unions

variable {alternatives : List Shape}
  (variants : ∀ alternative ∈ alternatives, alternative.IsVariant set) {node : Node}
include variants

theorem matchesUnion_variants_iff :
    MatchesUnion (fun alternative => Fits set hops alternative node) alternatives node ↔
      MatchesUnion (fun alternative => Fits set 0 alternative node) alternatives node :=
  matchesUnion_congr fun alternative member => fits_variant_iff (variants alternative member)

/-- In a discriminated set the hops count for the limit only. -/
theorem fits_union_variants {name : String} {type : CompiledType}
    (found : set.find? name = some type) (body : type.schema.body = .union alternatives) :
    Fits set hops (.ref name) node ↔ hops < set.limit ∧
      MatchesUnion (fun alternative => Fits set 0 alternative node) alternatives node := by
  rw [fits_union found body, matchesUnion_variants_iff variants]

theorem fits_oneOf_variants :
    Fits set hops (.oneOf alternatives) node ↔
      MatchesUnion (fun alternative => Fits set 0 alternative node) alternatives node :=
  fits_oneOf.trans (matchesUnion_variants_iff variants)

end Unions

/-- A record fits no alternative but the record type whose name it bears. -/
theorem fits_variant_record (built : set.Built) {shape : Shape} (variant : shape.IsVariant set)
    {fields : Keyed Node} (fits : Fits set hops shape (.record fields)) :
    ∃ name type, shape = .ref name ∧ set.recordType? name = some type ∧
      Node.discriminator? fields = some name := by
  cases shape with
  | scalar kind => exact (isPlain_of_scalarMatches (fits_scalar.mp fits)).elim
  | enum values => exact (isPlain_of_isMember variant (fits_enum.mp fits)).elim
  | ref name =>
    obtain ⟨type, known⟩ := variant
    obtain ⟨others, same, typed⟩ := fits_typed built known fits
    cases same
    exact ⟨name, type, rfl, known, typed⟩
  | _ => exact variant.elim

/-- No array fits an alternative. -/
theorem not_fits_variant_array (built : set.Built) {shape : Shape} (variant : shape.IsVariant set)
    (items : List Node) : ¬Fits set hops shape (.array items) := by
  intro fits
  cases shape with
  | scalar kind => exact (isPlain_of_scalarMatches (fits_scalar.mp fits)).elim
  | enum values => exact (isPlain_of_isMember variant (fits_enum.mp fits)).elim
  | ref name =>
    obtain ⟨type, known⟩ := variant
    obtain ⟨fields, same, _⟩ := fits_typed built known fits
    cases same
  | _ => exact variant.elim

/-! ### Values that fit a union -/

/-- What matches a union fits one of the alternatives. -/
theorem MatchesUnion.exists_fits {fits : Shape → Prop} {alternatives : List Shape} {node : Node}
    (matched : MatchesUnion fits alternatives node) :
    ∃ alternative ∈ alternatives, fits alternative := by
  by_cases named : ∃ name, node.typeName? = some name ∧ .ref name ∈ alternatives
  · obtain ⟨name, typed, member⟩ := named
    exact ⟨.ref name, member, matched.1 name typed member⟩
  · have unnamed : ∀ name, node.typeName? = some name → .ref name ∉ alternatives := by
      intro name typed member
      exact named ⟨name, typed, member⟩
    obtain ⟨position, ⟨alternative, found, fits⟩, _⟩ := matched.2 unnamed
    exact ⟨alternative, List.mem_of_getElem? found, fits⟩

theorem typeName?_of_isPlain {node : Node} (plain : node.IsPlain) : node.typeName? = none := by
  cases node with
  | record fields => exact plain.elim
  | _ => rfl

/-- A value without parts that fits a union fits one alternative only. -/
theorem matchesUnion_plain_iff {node : Node} (plain : node.IsPlain) {fits : Shape → Prop}
    {alternatives : List Shape} :
    MatchesUnion fits alternatives node ↔ ExactlyOne fits alternatives := by
  simp [MatchesUnion, typeName?_of_isPlain plain]

end Validation

end DocSchema
