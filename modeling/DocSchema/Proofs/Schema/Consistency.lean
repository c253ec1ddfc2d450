import DocSchema.Proofs.Coercion.Fates
import DocSchema.Proofs.Schema.Aliases
import DocSchema.Proofs.Schema.Declared

/-!
# Consistent types

A type that is made of a chain is consistent: it requires only what it declares, once each, an
alias stands for the one property that is written with it, and a key stands for declared properties
only, so the passes over trees never come across a property that is not declared. A chain that is
fine otherwise is refused exactly if its aliases collide. Main statement: `flatten_consistent`.
-/

namespace DocSchema

namespace TypeDefinition

/-- Whether the type of a chain has a property. -/
def HasProperty (chain : List TypeDefinition) (name : String) : Prop :=
  name = Node.typeKey ∨ ∃ definition ∈ chain, name ∈ Keyed.keys definition.properties

/-- Whether a property of the type of a chain has an alias. -/
def HasAlias (chain : List TypeDefinition) (property aliasName : String) : Prop :=
  ∃ declared, declared? chain property = some declared ∧ aliasName ∈ declared.aliases

/-- Whether an alias of a property is a property itself, or an alias of another one. -/
def Collides (chain : List TypeDefinition) : Prop :=
  ∃ property aliasName, HasAlias chain property aliasName ∧
    (HasProperty chain aliasName ∨ ∃ other ≠ property, HasAlias chain other aliasName)

/-- A chain for a record type in which nothing but the aliases may be at fault. -/
structure RecordChain (name : String) (chain : List TypeDefinition) : Prop where
  titled : ∃ own ancestors, chain = own :: ancestors ∧ own.title = name ∧ own.oneOf = none
  kinds : ∀ definition ∈ chain, ∀ entry ∈ definition.properties,
    ∃ shape, entry.2.lower entry.1 = .ok shape
  required : ∀ definition ∈ chain, ∀ property ∈ definition.required, HasProperty chain property

end TypeDefinition

namespace TypeSchema

open TypeDefinition

/-- What the passes over trees rely on in a type of some name. -/
structure Consistent (name : String) (type : TypeSchema) : Prop where
  union : type.isUnion = true → type.properties = [] ∧ type.required = [] ∧ type.aliases = []
  discriminator : type.isUnion = false → ∃ property,
    type.property? Node.typeKey = some property ∧ property.shape = .enum [.string name]
  typed : type.isUnion = false → Node.typeKey ∈ type.required
  once : type.required.Nodup
  declared : ∀ property ∈ type.required, property ∈ Keyed.keys type.properties
  distinct : Keyed.Distinct type.aliases
  /-- An alias stands for the property that is written with it, and there are no others. -/
  aliases : ∀ aliasName name, Keyed.get? type.aliases aliasName = some name ↔
    ∃ property, type.property? name = some property ∧ aliasName ∈ property.aliases
  apart : ∀ aliasName ∈ Keyed.keys type.aliases, aliasName ∉ Keyed.keys type.properties
  unshared : ∀ first second one other aliasName, type.property? first = some one →
    type.property? second = some other → aliasName ∈ one.aliases → aliasName ∈ other.aliases →
    first = second
  /-- A key stands for declared properties only, however names are normalized. -/
  resolved : ∀ normalize key property,
    (PropertyNames.build normalize type).resolve? key = some property →
    property ∈ Keyed.keys type.properties
  /-- So no entry of a record is given the name of a property that is not declared. -/
  reached : ∀ normalize path fields,
    ∀ entry ∈ (Coercion.canonicalize (.build normalize type) path [] fields).value,
      (type.property? entry.1).isSome = true

/-! ### Consistency -/

theorem writes_iff {properties : Keyed Property} (distinct : Keyed.Distinct properties)
    {name aliasName : String} :
    Writes properties name aliasName ↔
      ∃ property, Keyed.get? properties name = some property ∧ aliasName ∈ property.aliases := by
  simp only [Writes, Keyed.get?_eq_some_iff distinct]

/-- Where names are resolved to declared properties, entries come under no others. -/
theorem declared_of_mem_canonicalize {type : TypeSchema} {names : PropertyNames} {path : Path}
    (resolved : ∀ key property, names.resolve? key = some property →
      property ∈ Keyed.keys type.properties)
    {fields : List (String × Node)} {entry : String × Node}
    (member : entry ∈ (Coercion.canonicalize names path [] fields).value) :
    (type.property? entry.1).isSome = true := by
  rw [Coercion.canonicalize_eq_fates (Coercion.tracks_nil names)] at member
  obtain ⟨key, -, stands⟩ := Coercion.resolved_of_mem_keptOf member
  exact Option.isSome_iff_exists.mpr (Keyed.mem_keys_iff.mp (resolved key entry.1 stands))

/-- Aliases that are recorded for the properties of a type, none of which they name. -/
theorem flatten_records {name : String} {chain : List TypeDefinition} {type : TypeSchema}
    (built : flatten name chain = .ok type) :
    Records type.properties type.aliases ∧ ∀ property aliasName,
      Writes type.properties property aliasName → aliasName ∉ Keyed.keys type.properties := by
  obtain ⟨own, ancestors, -, -, ⟨alternatives, -, union⟩ | ⟨-, record⟩⟩ := flatten_cases built
  · obtain ⟨shapes, -, rfl⟩ := flattenUnion_eq_ok union
    exact ⟨records_nil, by simp [Writes, properties]⟩
  · obtain ⟨declared, listed, aliases, -, -, collected, rfl⟩ := flattenRecord_eq_ok record
    exact collectAliases_ok collected

theorem consistent_of_flatten {name : String} {chain : List TypeDefinition} {type : TypeSchema}
    (built : flatten name chain = .ok type) : type.Consistent name := by
  have formed := flatten_wellFormed built
  have named := flatten_wellNamed built
  obtain ⟨records, fresh⟩ := flatten_records built
  have owner : ∀ aliasName name, Keyed.get? type.aliases aliasName = some name ↔
      ∃ property, type.property? name = some property ∧ aliasName ∈ property.aliases := by
    intro aliasName name
    rw [records.owner, writes_iff formed.distinct]
    rfl
  refine ⟨fun union => ?_, formed.discriminator, formed.required, named.required,
    fun property listed => Keyed.contains_iff.mp (formed.declared property listed),
    records.distinct, owner, fun aliasName listed => ?_, ?_,
    fun normalize key property => named.declared_of_resolve?, ?_⟩
  · unfold isUnion alternatives? at union
    split at union
    next => cases union
    next shapes body => simp [properties, required, aliases, body]
  · obtain ⟨property, found⟩ := Keyed.mem_keys_iff.mp listed
    exact fresh property aliasName ((records.owner aliasName property).mp found)
  · intro first second one other aliasName declaresOne declaresOther inOne inOther
    -- Both are what the alias is recorded for.
    have found := (owner aliasName first).mpr ⟨one, declaresOne, inOne⟩
    rw [(owner aliasName second).mpr ⟨other, declaresOther, inOther⟩] at found
    exact (Option.some.inj found).symm
  · intro normalize path fields entry member
    exact declared_of_mem_canonicalize (fun key property => named.declared_of_resolve?) member

/-! ### Collisions -/

section Chain

variable {name : String} {chain : List TypeDefinition} {declared : Keyed Property}
  {listed : List String}

theorem hasProperty_iff (name : String)
    (added : addDefinitions [] [] chain.reverse = .ok (declared, listed)) {property : String} :
    property ∈ Keyed.keys (withDiscriminator name declared) ↔ HasProperty chain property := by
  rw [mem_keys_withDiscriminator_iff, mem_keys_declared_iff added, exists_declared?_iff,
    HasProperty]

/-- The properties of a type have the aliases that their nearest declarations give. -/
theorem hasAlias_iff (name : String)
    (added : addDefinitions [] [] chain.reverse = .ok (declared, listed))
    {property aliasName : String} :
    Writes (withDiscriminator name declared) property aliasName ↔
      HasAlias chain property aliasName := by
  have none : Tidy [] := ⟨List.nodup_nil, by simp⟩
  have tidy := tidy_withDiscriminator name (tidy_addDefinitions none added)
  have related := rel_declared? added property
  rw [writes_iff tidy.distinct, HasAlias]
  by_cases same : property = Node.typeKey
  · -- The discriminator keeps the aliases that have been declared for it.
    subst same
    rw [get?_withDiscriminator_self]
    generalize declared? chain Node.typeKey = nearest, Keyed.get? declared Node.typeKey = found
      at related ⊢
    cases related with
    | some made => simp [discriminatorOf, made.aliases]
    | none => simp [discriminatorOf]
  · rw [get?_withDiscriminator_other _ _ same]
    generalize declared? chain property = nearest, Keyed.get? declared property = found
      at related ⊢
    cases related with
    | some made => simp [made.aliases]
    | none => simp

/-- Nothing but its aliases decides whether a type is made of such a chain. -/
theorem flatten_recordChain (fine : RecordChain name chain) :
    ∃ declared listed description,
      addDefinitions [] [] chain.reverse = .ok (declared, listed) ∧
      flatten name chain =
        (collectAliases (withDiscriminator name declared) []
          (withDiscriminator name declared)).map fun aliases =>
            ⟨name, description,
              .record (withDiscriminator name declared) (requireDiscriminator listed) aliases⟩ := by
  obtain ⟨own, ancestors, rfl, rfl, record⟩ := fine.titled
  have lowered : ∀ entry ∈ declarations (own :: ancestors),
      ∃ shape, entry.2.lower entry.1 = .ok shape := by
    intro entry member
    obtain ⟨definition, inChain, listed⟩ := List.mem_flatMap.mp member
    exact fine.kinds definition (List.mem_reverse.mp inChain) entry listed
  obtain ⟨declared, read⟩ := exists_addProperties lowered []
  have added := addDefinitions_eq_ok_iff.mpr
    ⟨read, (rfl : addRequired [] (requirements (own :: ancestors)) = _)⟩
  refine ⟨declared, _, own.description, added, ?_⟩
  -- Every name that is required is declared somewhere in the chain, or is the discriminator.
  have checked : (requireDiscriminator (addRequired [] (requirements (own :: ancestors)))).find?
      (fun property => !Keyed.contains (withDiscriminator own.title declared) property) = none := by
    rw [List.find?_eq_none]
    intro property required
    have has : HasProperty (own :: ancestors) property := by
      rcases mem_requireDiscriminator_iff.mp required with rfl | member
      · exact .inl rfl
      · have given : property ∈ requirements (own :: ancestors) := by
          simpa using mem_addRequired_iff.mp member
        obtain ⟨definition, inChain, listed⟩ := List.mem_flatMap.mp given
        exact fine.required definition (List.mem_reverse.mp inChain) property listed
    have present := Keyed.contains_iff.mpr ((hasProperty_iff own.title added).mpr has)
    simpa using present
  simp only [flatten, bne_self_eq_false, Bool.false_eq_true, if_false, record, flattenRecord, added,
    bind, Except.bind, checked]
  cases collectAliases (withDiscriminator own.title declared) []
    (withDiscriminator own.title declared) <;> rfl

theorem collides_iff (name : String)
    (added : addDefinitions [] [] chain.reverse = .ok (declared, listed)) :
    (∃ property aliasName other, Writes (withDiscriminator name declared) property aliasName ∧
        StandsFor (withDiscriminator name declared) property aliasName other) ↔
      Collides chain := by
  simp only [StandsFor, hasAlias_iff name added, hasProperty_iff name added, Collides]
  constructor
  · rintro ⟨property, aliasName, other, given, ⟨has, -⟩ | ⟨differs, shared⟩⟩
    · exact ⟨property, aliasName, given, .inl has⟩
    · exact ⟨property, aliasName, given, .inr ⟨other, differs, shared⟩⟩
  · rintro ⟨property, aliasName, given, has | ⟨other, differs, shared⟩⟩
    · exact ⟨property, aliasName, aliasName, given, .inl ⟨has, rfl⟩⟩
    · exact ⟨property, aliasName, other, given, .inr ⟨differs, shared⟩⟩

end Chain

/-- A type made of a chain is consistent, and a chain for a record type that is fine otherwise is
refused exactly if its aliases collide. -/
theorem flatten_consistent (name : String) (chain : List TypeDefinition) :
    (∀ type, flatten name chain = .ok type → type.Consistent name) ∧
      (RecordChain name chain →
        ((∃ aliasName property other,
            flatten name chain = .error (.aliasCollision aliasName property other)) ↔
          Collides chain) ∧
        (¬Collides chain → ∃ type, flatten name chain = .ok type)) := by
  refine ⟨fun type built => consistent_of_flatten built, fun fine => ?_⟩
  obtain ⟨declared, listed, description, added, made⟩ := flatten_recordChain fine
  rw [← collides_iff name added, ← collectAliases_error_iff, made]
  cases collected : collectAliases (withDiscriminator name declared) []
      (withDiscriminator name declared) with
  | ok aliases => simp [Except.map]
  | error error =>
    obtain ⟨property, aliasName, other, rfl, -⟩ := collectAliases_error collected
    simp [Except.map]

/-- A memo has a body that it may also be given as its text. -/
def memoDefinition : TypeDefinition where
  title := "Memo"
  properties := [("body", { kind := some "string", aliases := ["text"] })]
  required := ["body"]

/-- A letter is a memo with an opening, which it may be given as its text as well. -/
def letterDefinition : TypeDefinition where
  title := "Letter"
  parent := some "Memo"
  properties := [("opening", { kind := some "string", aliases := ["text"] })]

theorem letter_recordChain : RecordChain "Letter" [letterDefinition, memoDefinition] where
  titled := ⟨letterDefinition, [memoDefinition], rfl, rfl, rfl⟩
  kinds := by
    simp only [List.mem_cons, List.not_mem_nil, or_false, forall_eq_or_imp, forall_eq,
      letterDefinition, memoDefinition]
    exact ⟨⟨_, rfl⟩, ⟨_, rfl⟩⟩
  required := by
    simp [HasProperty, letterDefinition, memoDefinition, Keyed.keys]

/-- Books can be made, and letters cannot, since a text would be the body or the opening. -/
theorem book_consistent_letter_refused :
    SchemaSet.book.Consistent "Book" ∧ ∃ aliasName property other,
      flatten "Letter" [letterDefinition, memoDefinition] =
        .error (.aliasCollision aliasName property other) := by
  constructor
  · exact (flatten_consistent "Book" [SchemaSet.bookDefinition]).1 _ SchemaSet.flatten_book
  · refine ((flatten_consistent "Letter" _).2 letter_recordChain).1.mpr ?_
    refine ⟨"opening", "text", ⟨_, rfl, List.mem_singleton_self _⟩, .inr ⟨"body", by decide, ?_⟩⟩
    exact ⟨_, rfl, List.mem_singleton_self _⟩

end TypeSchema

end DocSchema
