import DocSchema.Proofs.Schema.Built

/-!
# What a chain declares

The definitions of a chain are read from the farthest to the nearest, and a later declaration of a
property takes the place of an earlier one. So what the nearest definition says of a property is
what its type has. Main statements: `addDefinitions_eq`, reading definition by definition is reading
all their declarations in a row, and `rel_declared?`, of which the nearest counts.
-/

namespace DocSchema

namespace TypeDefinition

/-- What the nearest definition that declares a property says of it. A definition that declares it
more than once means the last time. -/
def declared? : List TypeDefinition → String → Option ShapeDefinition
  | [], _ => none
  | own :: ancestors, name => (Keyed.get? own.properties.reverse name).or (declared? ancestors name)

/-- The declarations of a chain in the order in which they are read. -/
def declarations (chain : List TypeDefinition) : List (String × ShapeDefinition) :=
  chain.reverse.flatMap (·.properties)

/-- The names that a chain requires in the order in which they are read. -/
def requirements (chain : List TypeDefinition) : List String :=
  chain.reverse.flatMap (·.required)

theorem get?_declarations (chain : List TypeDefinition) (name : String) :
    Keyed.get? (declarations chain).reverse name = declared? chain name := by
  induction chain with
  | nil => rfl
  | cons own ancestors ih =>
    have last : declarations (own :: ancestors) = declarations ancestors ++ own.properties := by
      simp [declarations]
    rw [last, List.reverse_append, Keyed.get?_append, ih, declared?]

/-- A property is declared by some definition if it is declared at all. -/
theorem exists_declared?_iff {chain : List TypeDefinition} {name : String} :
    (∃ shape, declared? chain name = some shape) ↔
      ∃ definition ∈ chain, name ∈ Keyed.keys definition.properties := by
  rw [← get?_declarations, ← Keyed.mem_keys_iff]
  simp only [Keyed.keys, declarations, List.map_reverse, List.mem_reverse, List.mem_map,
    List.mem_flatMap]
  constructor
  · rintro ⟨entry, ⟨definition, listed, member⟩, same⟩
    exact ⟨definition, listed, entry, member, same⟩
  · rintro ⟨definition, listed, entry, member, same⟩
    exact ⟨entry, ⟨definition, listed, member⟩, same⟩

end TypeDefinition

namespace TypeSchema

open TypeDefinition

/-! ### Reading a chain -/

theorem addProperties_append (properties : Keyed Property)
    (first second : List (String × ShapeDefinition)) :
    addProperties properties (first ++ second) =
      addProperties properties first >>= fun between => addProperties between second := by
  induction first generalizing properties with
  | nil => rfl
  | cons entry rest ih =>
    rw [List.cons_append, addProperties, addProperties, bind_assoc]
    exact congrArg _ (funext fun property => ih _)

theorem addRequired_append (required first second : List String) :
    addRequired required (first ++ second) = addRequired (addRequired required first) second :=
  List.foldl_append

theorem mem_addRequired_iff {required names : List String} {name : String} :
    name ∈ addRequired required names ↔ name ∈ required ∨ name ∈ names := by
  induction names generalizing required with
  | nil => simp [addRequired]
  | cons first rest ih =>
    rw [addRequired, List.foldl_cons, ← addRequired, ih, List.mem_cons]
    split
    next listed =>
      have given : first ∈ required := List.contains_iff_mem.mp listed
      constructor
      · exact Or.imp_right .inr
      · rintro (before | rfl | later)
        · exact .inl before
        · exact .inl given
        · exact .inr later
    next => simp [or_assoc]

/-- Reading definition by definition is reading all their declarations in a row. -/
theorem addDefinitions_eq (properties : Keyed Property) (required : List String)
    (chain : List TypeDefinition) :
    addDefinitions properties required chain =
      (addProperties properties (chain.flatMap (·.properties))).map fun declared =>
        (declared, addRequired required (chain.flatMap (·.required))) := by
  induction chain generalizing properties required with
  | nil => rfl
  | cons definition rest ih =>
    rw [addDefinitions, List.flatMap_cons, List.flatMap_cons, addProperties_append,
      addRequired_append]
    -- Required names are read without fail, so both fail at the same declaration.
    cases added : addProperties properties definition.properties with
    | error error => rfl
    | ok between => exact ih _ _

/-- A chain can be read if every shape that it declares can be. -/
theorem exists_addProperties {definitions : List (String × ShapeDefinition)}
    (lowered : ∀ entry ∈ definitions, ∃ shape, entry.2.lower entry.1 = .ok shape)
    (properties : Keyed Property) :
    ∃ result, addProperties properties definitions = .ok result := by
  induction definitions generalizing properties with
  | nil => exact ⟨properties, rfl⟩
  | cons entry rest ih =>
    obtain ⟨shape, made⟩ := lowered entry List.mem_cons_self
    obtain ⟨result, added⟩ := ih (fun other member => lowered other (List.mem_cons_of_mem _ member))
      (Keyed.insert properties entry.1
        ⟨shape, entry.2.default.map Node.ofJson, entry.2.aliases, entry.2.description⟩)
    refine ⟨result, ?_⟩
    rw [addProperties, ShapeDefinition.lowerProperty, made]
    exact added

/-! ### The nearest declaration -/

/-- Whether a property is what a declaration of it says. -/
def DeclaredAs (name : String) (definition : ShapeDefinition) (property : Property) : Prop :=
  definition.lowerProperty name = .ok property

theorem DeclaredAs.aliases {name : String} {definition : ShapeDefinition} {property : Property}
    (declared : DeclaredAs name definition property) : property.aliases = definition.aliases := by
  obtain ⟨shape, -, made⟩ := bind_eq_ok_iff.mp declared
  cases made
  rfl

theorem DeclaredAs.default {name : String} {definition : ShapeDefinition} {property : Property}
    (declared : DeclaredAs name definition property) :
    property.default = definition.default.map Node.ofJson := by
  obtain ⟨shape, -, made⟩ := bind_eq_ok_iff.mp declared
  cases made
  rfl

/-- Of the declarations of a property the one read last counts. -/
theorem rel_addProperties {before definitions : List (String × ShapeDefinition)}
    {properties result : Keyed Property}
    (start : ∀ name, Option.Rel (DeclaredAs name) (Keyed.get? before.reverse name)
      (Keyed.get? properties name))
    (added : addProperties properties definitions = .ok result) (name : String) :
    Option.Rel (DeclaredAs name) (Keyed.get? (before ++ definitions).reverse name)
      (Keyed.get? result name) := by
  induction definitions generalizing before properties with
  | nil =>
    cases added
    simpa using start name
  | cons entry rest ih =>
    rw [addProperties, bind_eq_ok_iff] at added
    obtain ⟨property, lowered, later⟩ := added
    rw [List.append_cons]
    -- The entry takes the place of an earlier one of its name, and leaves all others.
    refine ih (fun other => ?_) later
    rw [List.reverse_append, List.reverse_singleton, List.singleton_append, Keyed.get?]
    split
    next same =>
      subst same
      rw [Keyed.get?_insert_self]
      exact .some lowered
    next differs =>
      rw [Keyed.get?_insert_other _ _ _ _ differs]
      exact start other

section Chain

variable {chain : List TypeDefinition} {declared : Keyed Property} {listed : List String}

theorem addDefinitions_eq_ok_iff :
    addDefinitions [] [] chain.reverse = .ok (declared, listed) ↔
      addProperties [] (declarations chain) = .ok declared ∧
        listed = addRequired [] (requirements chain) := by
  rw [addDefinitions_eq, ← declarations, ← requirements]
  cases addProperties [] (declarations chain) <;> simp [Except.map, eq_comm]

/-- A chain that has been read makes a property of its nearest declaration. -/
theorem rel_declared? (added : addDefinitions [] [] chain.reverse = .ok (declared, listed))
    (name : String) :
    Option.Rel (DeclaredAs name) (declared? chain name) (Keyed.get? declared name) := by
  have none : ∀ name, Option.Rel (DeclaredAs name)
      (Keyed.get? ([] : List (String × ShapeDefinition)).reverse name) (Keyed.get? [] name) :=
    fun _ => .none
  have related := rel_addProperties none (addDefinitions_eq_ok_iff.mp added).1 name
  rwa [List.nil_append, get?_declarations] at related

theorem mem_keys_declared_iff
    (added : addDefinitions [] [] chain.reverse = .ok (declared, listed)) {name : String} :
    name ∈ Keyed.keys declared ↔ ∃ definition, declared? chain name = some definition := by
  have related := rel_declared? added name
  rw [Keyed.mem_keys_iff]
  cases first : declared? chain name <;> cases second : Keyed.get? declared name <;>
    rw [first, second] at related <;> cases related <;> simp

end Chain

/-! ### The discriminator -/

/-- The discriminator of a type: what has been declared for it, apart from the shape. -/
def discriminatorOf (name : String) (declared : Option Property) : Property :=
  { declared.getD ⟨discriminatorShape name, none, [], none⟩ with shape := discriminatorShape name }

/-- The value that a chain declares to be filled in for the discriminator. -/
def discriminatorDefault? (chain : List TypeDefinition) : Option Node :=
  (declared? chain Node.typeKey).bind fun definition => definition.default.map Node.ofJson

theorem get?_withDiscriminator_self (name : String) (properties : Keyed Property) :
    Keyed.get? (withDiscriminator name properties) Node.typeKey =
      some (discriminatorOf name (Keyed.get? properties Node.typeKey)) := by
  unfold withDiscriminator
  cases Keyed.get? properties Node.typeKey with
  | some declared => exact Keyed.get?_insert_self _ _ _
  | none => simp [Keyed.get?, discriminatorOf]

theorem get?_withDiscriminator_other (name : String) (properties : Keyed Property)
    {property : String} (differs : property ≠ Node.typeKey) :
    Keyed.get? (withDiscriminator name properties) property = Keyed.get? properties property := by
  unfold withDiscriminator
  cases Keyed.get? properties Node.typeKey with
  | some declared => exact Keyed.get?_insert_other _ _ _ _ (Ne.symm differs)
  | none => simp [Keyed.get?, Ne.symm differs]

theorem mem_requireDiscriminator_iff {required : List String} {property : String} :
    property ∈ requireDiscriminator required ↔ property = Node.typeKey ∨ property ∈ required := by
  unfold requireDiscriminator
  split
  next listed =>
    have given : Node.typeKey ∈ required := List.contains_iff_mem.mp listed
    refine ⟨.inr, ?_⟩
    rintro (rfl | member)
    · exact given
    · exact member
  next => exact List.mem_cons

theorem mem_keys_withDiscriminator_iff {name property : String} {properties : Keyed Property} :
    property ∈ Keyed.keys (withDiscriminator name properties) ↔
      property = Node.typeKey ∨ property ∈ Keyed.keys properties := by
  simp only [Keyed.mem_keys_iff]
  by_cases same : property = Node.typeKey
  · simp [same, get?_withDiscriminator_self]
  · simp [same, get?_withDiscriminator_other name properties same]

/-- A record type has a discriminator of its own name, with the default declared for it. -/
theorem discriminator_of_flatten {name : String} {chain : List TypeDefinition} {type : TypeSchema}
    (built : flatten name chain = .ok type) (record : type.isUnion = false) :
    ∃ property, type.property? Node.typeKey = some property ∧
      property.shape = discriminatorShape name ∧
      property.default = discriminatorDefault? chain := by
  obtain ⟨own, ancestors, -, -, ⟨alternatives, -, union⟩ | ⟨-, made⟩⟩ := flatten_cases built
  · obtain ⟨shapes, -, rfl⟩ := flattenUnion_eq_ok union
    cases record
  · obtain ⟨declared, listed, aliases, added, -, -, rfl⟩ := flattenRecord_eq_ok made
    refine ⟨_, get?_withDiscriminator_self name declared, rfl, ?_⟩
    have related := rel_declared? added Node.typeKey
    rw [discriminatorDefault?]
    generalize declared? chain Node.typeKey = nearest, Keyed.get? declared Node.typeKey = found
      at related ⊢
    cases related with
    | some given => exact given.default
    | none => rfl

end TypeSchema

end DocSchema
