import DocSchema.Proofs.Schema.Consistency

/-!
# Overriding along a chain

A type takes every property from the nearest definition of its chain that declares it. The
properties stand in the order in which they are first declared, read from the farthest definition
on, and so do the names that are required. Only the discriminator has a shape of its own, and it
comes first where it is not mentioned. Main statement: `flatten_overrides`.
-/

namespace DocSchema

namespace TypeDefinition

/-- Whether the definition at a position of a chain is the nearest one that declares a property, and
what it says of it. A definition that declares it more than once means the last time. -/
structure NearestAt (chain : List TypeDefinition) (position : Nat) (property : String)
    (declaration : ShapeDefinition) : Prop where
  declares : ∃ definition, chain[position]? = some definition ∧
    Keyed.get? definition.properties.reverse property = some declaration
  nearest : ∀ nearer < position, ∀ definition, chain[nearer]? = some definition →
    property ∉ Keyed.keys definition.properties

theorem NearestAt.declared? {chain : List TypeDefinition} {position : Nat} {property : String}
    {declaration : ShapeDefinition} (nearest : NearestAt chain position property declaration) :
    declared? chain property = some declaration := by
  induction chain generalizing position with
  | nil =>
    obtain ⟨definition, listed, -⟩ := nearest.declares
    cases listed
  | cons own ancestors ih =>
    rw [TypeDefinition.declared?]
    cases position with
    | zero =>
      obtain ⟨definition, listed, found⟩ := nearest.declares
      cases listed
      rw [found, Option.some_or]
    | succ position =>
      -- The own definition does not declare the property, so the ancestors decide.
      have silent := nearest.nearest 0 (Nat.zero_lt_succ position) own rfl
      rw [Keyed.get?_reverse_eq_none_iff.mpr silent, Option.none_or]
      exact ih ⟨nearest.declares, fun nearer before definition listed =>
        nearest.nearest (nearer + 1) (Nat.succ_lt_succ before) definition listed⟩

/-- Names in the order in which they are first mentioned, beginning with the discriminator unless it
is mentioned as well. -/
def inOrder (mentioned : List String) : List String :=
  if Node.typeKey ∈ mentioned then mentioned.eraseDups else Node.typeKey :: mentioned.eraseDups

end TypeDefinition

namespace TypeSchema

open TypeDefinition

/-! ### The order of names -/

theorem addRequired_cons (required : List String) (first : String) (rest : List String) :
    addRequired required (first :: rest) =
      addRequired (if first ∈ required then required else required ++ [first]) rest := by
  rw [addRequired, List.foldl_cons, ← addRequired]
  simp only [List.contains_iff_mem]

/-- Names that are listed already are passed over, and so is every repetition. -/
theorem addRequired_eq (required names : List String) :
    addRequired required names =
      required ++ (names.filter fun name => !required.contains name).eraseDups := by
  induction names generalizing required with
  | nil => simp [addRequired]
  | cons first rest ih =>
    rw [addRequired_cons, ih]
    by_cases listed : first ∈ required
    · simp [listed]
    · have unlisted : (!required.contains first) = true := by simpa using listed
      have fresh : (fun name => !(required ++ [first]).contains name) =
          fun name => !name == first && !required.contains name := by
        funext name
        rw [List.contains_append, Bool.not_or, Bool.and_comm, List.contains_cons, List.contains_nil,
          Bool.or_false]
      rw [if_neg listed, fresh, List.filter_cons, if_pos unlisted, List.eraseDups_cons,
        List.filter_filter, List.append_assoc, List.singleton_append]

theorem addRequired_nil (names : List String) : addRequired [] names = names.eraseDups := by
  simp [addRequired_eq]

/-- A property that is declared again stays where it is, a new one comes last, just as with names
that are required. -/
theorem keys_addProperties {properties result : Keyed Property}
    {definitions : List (String × ShapeDefinition)}
    (added : addProperties properties definitions = .ok result) :
    Keyed.keys result = addRequired (Keyed.keys properties) (Keyed.keys definitions) := by
  induction definitions generalizing properties with
  | nil =>
    cases added
    rfl
  | cons entry rest ih =>
    rw [addProperties, bind_eq_ok_iff] at added
    obtain ⟨property, -, later⟩ := added
    rw [ih later, Keyed.keys_insert]
    exact (addRequired_cons _ _ _).symm

theorem keys_withDiscriminator (name : String) (properties : Keyed Property) :
    Keyed.keys (withDiscriminator name properties) =
      requireDiscriminator (Keyed.keys properties) := by
  unfold withDiscriminator requireDiscriminator
  cases found : Keyed.get? properties Node.typeKey with
  | some declared =>
    have present := Keyed.mem_keys_iff.mpr ⟨declared, found⟩
    rw [if_pos (List.contains_iff_mem.mpr present)]
    exact (Keyed.keys_insert _ _ _).trans (if_pos present)
  | none =>
    have absent := Keyed.get?_eq_none_iff.mp found
    rw [if_neg fun listed => absent (List.contains_iff_mem.mp listed)]
    rfl

theorem requireDiscriminator_eraseDups (mentioned : List String) :
    requireDiscriminator mentioned.eraseDups = inOrder mentioned := by
  simp only [requireDiscriminator, inOrder, List.contains_iff_mem, List.mem_eraseDups]

/-! ### The nearest declaration -/

/-- What the type of a chain takes from the definitions of the chain. -/
structure Overrides (name : String) (chain : List TypeDefinition) (type : TypeSchema) : Prop where
  properties : ∀ property, property ∈ Keyed.keys type.properties ↔
    property = Node.typeKey ∨ ∃ definition ∈ chain, property ∈ Keyed.keys definition.properties
  /-- A property is as the nearest definition says, but for the shape of the discriminator. -/
  nearest : ∀ position property declaration, NearestAt chain position property declaration →
    ∃ shape, declaration.lower property = .ok shape ∧ type.property? property = some
      ⟨if property = Node.typeKey then .enum [.string name] else shape,
        declaration.default.map Node.ofJson, declaration.aliases, declaration.description⟩
  undeclared : (∀ definition ∈ chain, Node.typeKey ∉ Keyed.keys definition.properties) →
    type.property? Node.typeKey = some ⟨.enum [.string name], none, [], none⟩
  order : Keyed.keys type.properties =
    inOrder (chain.reverse.flatMap fun definition => Keyed.keys definition.properties)
  required : type.required = inOrder (chain.reverse.flatMap fun definition => definition.required)

section Chain

variable {chain : List TypeDefinition} {declared : Keyed Property} {listed : List String}
  (added : addDefinitions [] [] chain.reverse = .ok (declared, listed))
include added

theorem property_of_nearestAt (name : String) {position : Nat} {property : String}
    {declaration : ShapeDefinition} (nearest : NearestAt chain position property declaration) :
    ∃ shape, declaration.lower property = .ok shape ∧
      Keyed.get? (withDiscriminator name declared) property = some
        ⟨if property = Node.typeKey then .enum [.string name] else shape,
          declaration.default.map Node.ofJson, declaration.aliases, declaration.description⟩ := by
  have related := rel_declared? added property
  rw [nearest.declared?] at related
  cases found : Keyed.get? declared property with
  | none =>
    rw [found] at related
    cases related
  | some made =>
    rw [found] at related
    cases related with
    | some lowering =>
      obtain ⟨shape, lowered, result⟩ := bind_eq_ok_iff.mp lowering
      cases result
      refine ⟨shape, lowered, ?_⟩
      split
      next same =>
        subst same
        rw [get?_withDiscriminator_self, found]
        rfl
      next differs => rw [get?_withDiscriminator_other _ _ differs, found]

theorem property_of_undeclared (name : String)
    (silent : ∀ definition ∈ chain, Node.typeKey ∉ Keyed.keys definition.properties) :
    Keyed.get? (withDiscriminator name declared) Node.typeKey =
      some ⟨.enum [.string name], none, [], none⟩ := by
  have absent : Keyed.get? declared Node.typeKey = none := by
    rw [Keyed.get?_eq_none_iff, mem_keys_declared_iff added, exists_declared?_iff]
    rintro ⟨definition, member, given⟩
    exact silent definition member given
  rw [get?_withDiscriminator_self, absent]
  rfl

theorem keys_declared :
    Keyed.keys declared =
      (chain.reverse.flatMap fun definition => Keyed.keys definition.properties).eraseDups := by
  have read := keys_addProperties (addDefinitions_eq_ok_iff.mp added).1
  rw [read, Keyed.keys, List.map_nil, addRequired_nil, declarations, Keyed.keys, List.map_flatMap]
  rfl

end Chain

/-- Flattening a chain lets the nearest definition decide what a property is, and the farthest one
where it stands. -/
theorem flatten_overrides {name : String} {chain : List TypeDefinition} {type : TypeSchema}
    (built : flatten name chain = .ok type) (record : type.isUnion = false) :
    Overrides name chain type := by
  obtain ⟨own, ancestors, -, -, ⟨alternatives, -, union⟩ | ⟨-, made⟩⟩ := flatten_cases built
  · obtain ⟨shapes, -, rfl⟩ := flattenUnion_eq_ok union
    cases record
  · obtain ⟨declared, listed, aliases, added, -, -, rfl⟩ := flattenRecord_eq_ok made
    refine ⟨fun property => hasProperty_iff name added,
      fun position property declaration nearest => property_of_nearestAt added name nearest,
      property_of_undeclared added name, ?_, ?_⟩
    · rw [← requireDiscriminator_eraseDups, ← keys_declared added]
      exact keys_withDiscriminator name declared
    · rw [← requireDiscriminator_eraseDups, ← addRequired_nil]
      exact congrArg requireDiscriminator (addDefinitions_eq_ok_iff.mp added).2

/-! ### A chain of three definitions -/

/-- A work has a title, and a year that is a number. -/
def workDefinition : TypeDefinition where
  title := "Work"
  properties := [("title", { kind := some "string" }),
    ("year", { kind := some "integer", aliases := ["date"] })]
  required := ["title"]

/-- A volume has pages, and says that its kind is free. -/
def volumeDefinition : TypeDefinition where
  title := "Volume"
  parent := some "Work"
  properties := [("pages", { kind := some "integer" }), ("type", { kind := some "string" })]
  required := ["pages", "title"]

/-- The year of an atlas is a text, which is filled in. -/
def atlasDefinition : TypeDefinition where
  title := "Atlas"
  parent := some "Volume"
  properties := [("year", { kind := some "string", default := some (.string "undated") })]
  required := ["year"]

def atlas : TypeSchema where
  name := "Atlas"
  description := none
  body := .record [("title", ⟨.scalar .string, none, [], none⟩),
    ("year", ⟨.scalar .string, some (.string "undated"), [], none⟩),
    ("pages", ⟨.scalar .integer, none, [], none⟩),
    ("type", ⟨.enum [.string "Atlas"], none, [], none⟩)]
    ["type", "title", "pages", "year"] []

theorem atlas_overrides :
    flatten "Atlas" [atlasDefinition, volumeDefinition, workDefinition] = .ok atlas ∧
      atlas.isUnion = false ∧
      Overrides "Atlas" [atlasDefinition, volumeDefinition, workDefinition] atlas :=
  ⟨rfl, rfl, flatten_overrides rfl rfl⟩

end TypeSchema

end DocSchema
