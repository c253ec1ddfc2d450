import DocSchema.Schema.Flatten
import DocSchema.Schema.SchemaSet

/-!
# What flattening guarantees

Every type that is made of a chain of definitions is well formed: it bears the name it was
made for, the names of its properties are distinct, it declares what it requires, its literal
values are trees with distinct keys, and a record type requires a discriminator that holds the
name of the type. The passes over trees rely on this of every type in a schema set. Main
statement: `flatten_wellFormed`.
-/

namespace DocSchema

/-! ### Literal values -/

/-- The literal values that a shape lists. -/
def Shape.literals : Shape → List Node
  | .enum values => values
  | _ => []

/-- The literal values a property is written with: its default and those its shape lists. -/
def Property.literals (property : Property) : List Node :=
  property.default.toList ++ property.shape.literals

namespace ShapeDefinition

theorem distinctKeys_of_lower {name : String} {definition : ShapeDefinition} {shape : Shape}
    (lowered : definition.lower name = .ok shape) {value : Node}
    (member : value ∈ shape.literals) : value.distinctKeys = true := by
  have undirected {decode : Option String} {inner : Shape}
      (inside : value ∈ (directed decode inner).literals) : value ∈ inner.literals := by
    cases decode with
    | none => exact inside
    | some format => cases inside
  -- Only an enumeration has literals of its own, and those are read from JSON.
  rw [lower.eq_def] at lowered
  simp only [bind, Except.bind, pure, Except.pure] at lowered
  split at lowered
  next =>
    split at lowered
    next => cases lowered; cases undirected member
    next =>
      split at lowered
      next => cases lowered
      next => cases lowered; cases undirected member
    next values _ _ _ =>
      cases lowered
      obtain ⟨json, _, rfl⟩ := List.mem_map.mp (undirected member)
      exact Node.distinctKeys_ofJson json
    next => cases lowered; cases undirected member
    next =>
      split at lowered
      next => cases lowered
      next => cases lowered; cases undirected member
    next => cases lowered; cases undirected member
    next =>
      split at lowered
      next shape known =>
        cases lowered
        have inside := undirected member
        unfold kindShape? at known
        split at known <;> cases known <;> cases inside
      next => cases lowered

theorem distinctKeys_of_lowerProperty {name : String} {definition : ShapeDefinition}
    {property : Property} (lowered : definition.lowerProperty name = .ok property) (value : Node)
    (member : value ∈ property.literals) : value.distinctKeys = true := by
  rw [lowerProperty, bind_eq_ok_iff] at lowered
  obtain ⟨shape, shaped, made⟩ := lowered
  cases made
  rcases List.mem_append.mp member with given | listed
  · obtain ⟨json, _, rfl⟩ := Option.map_eq_some_iff.mp (Option.mem_toList.mp given)
    exact Node.distinctKeys_ofJson json
  · exact distinctKeys_of_lower shaped listed

end ShapeDefinition

namespace TypeSchema

/-- What the other passes rely on in a type of some name. -/
structure WellFormed (name : String) (type : TypeSchema) : Prop where
  named : type.name = name
  distinct : Keyed.Distinct type.properties
  declared : ∀ property ∈ type.required, Keyed.contains type.properties property = true
  literals : ∀ key property, type.property? key = some property →
    ∀ value ∈ property.literals, value.distinctKeys = true
  required : type.isUnion = false → Node.typeKey ∈ type.required
  discriminator : type.isUnion = false → ∃ property,
    type.property? Node.typeKey = some property ∧ property.shape = discriminatorShape name

/-! ### Properties of a record type -/

/-- Properties with distinct names whose literal values are trees with distinct keys. -/
structure Tidy (properties : Keyed Property) : Prop where
  distinct : Keyed.Distinct properties
  literals : ∀ entry ∈ properties, ∀ value ∈ entry.2.literals, value.distinctKeys = true

theorem Tidy.insert {properties : Keyed Property} (tidy : Tidy properties) (name : String)
    {property : Property} (fine : ∀ value ∈ property.literals, value.distinctKeys = true) :
    Tidy (Keyed.insert properties name property) := by
  refine ⟨Keyed.distinct_insert tidy.distinct name property, fun entry member => ?_⟩
  rcases Keyed.mem_of_mem_insert member with rfl | before
  · exact fine
  · exact tidy.literals entry before

theorem tidy_addProperties {properties result : Keyed Property}
    {definitions : List (String × ShapeDefinition)} (tidy : Tidy properties)
    (added : addProperties properties definitions = .ok result) : Tidy result := by
  induction definitions generalizing properties with
  | nil =>
    cases added
    exact tidy
  | cons entry rest ih =>
    obtain ⟨name, definition⟩ := entry
    rw [addProperties, bind_eq_ok_iff] at added
    obtain ⟨property, lowered, later⟩ := added
    exact ih (tidy.insert name (ShapeDefinition.distinctKeys_of_lowerProperty lowered)) later

theorem tidy_addDefinitions {properties declared : Keyed Property}
    {required listed : List String} {chain : List TypeDefinition} (tidy : Tidy properties)
    (added : addDefinitions properties required chain = .ok (declared, listed)) :
    Tidy declared := by
  induction chain generalizing properties required with
  | nil =>
    cases added
    exact tidy
  | cons definition rest ih =>
    rw [addDefinitions, bind_eq_ok_iff] at added
    obtain ⟨between, first, later⟩ := added
    exact ih (tidy_addProperties tidy first) later

theorem distinctKeys_of_discriminatorShape {name : String} {value : Node}
    (member : value ∈ (discriminatorShape name).literals) : value.distinctKeys = true := by
  rw [List.mem_singleton.mp member]
  rfl

theorem tidy_withDiscriminator (name : String) {properties : Keyed Property}
    (tidy : Tidy properties) : Tidy (withDiscriminator name properties) := by
  unfold withDiscriminator
  cases found : Keyed.get? properties Node.typeKey with
  | some declared =>
    -- A declared discriminator keeps its default, but its shape is replaced.
    have fine := tidy.literals _ (Keyed.mem_of_get? found)
    refine tidy.insert _ fun value member => ?_
    rcases List.mem_append.mp member with given | listed
    · exact fine value (List.mem_append_left _ given)
    · exact distinctKeys_of_discriminatorShape listed
  | none =>
    have absent : Node.typeKey ∉ Keyed.keys properties := Keyed.get?_eq_none_iff.mp found
    refine ⟨List.nodup_cons.mpr ⟨absent, tidy.distinct⟩, fun entry member value given => ?_⟩
    rcases List.mem_cons.mp member with rfl | before
    · exact distinctKeys_of_discriminatorShape given
    · exact tidy.literals entry before value given

theorem get?_withDiscriminator (name : String) (properties : Keyed Property) :
    ∃ property, Keyed.get? (withDiscriminator name properties) Node.typeKey = some property ∧
      property.shape = discriminatorShape name := by
  unfold withDiscriminator
  cases Keyed.get? properties Node.typeKey with
  | some declared => exact ⟨_, Keyed.get?_insert_self _ _ _, rfl⟩
  | none => exact ⟨⟨discriminatorShape name, none, [], none⟩, by simp [Keyed.get?], rfl⟩

theorem mem_requireDiscriminator (required : List String) :
    Node.typeKey ∈ requireDiscriminator required := by
  unfold requireDiscriminator
  split
  next listed => exact List.contains_iff_mem.mp listed
  next => exact List.mem_cons_self

/-! ### Whole types -/

/-- What a record type is made of, and what has been checked. -/
theorem flattenRecord_eq_ok {name : String} {description : Option String}
    {chain : List TypeDefinition} {type : TypeSchema}
    (built : flattenRecord name description chain = .ok type) :
    ∃ declared listed aliases, addDefinitions [] [] chain.reverse = .ok (declared, listed) ∧
      (∀ property ∈ requireDiscriminator listed,
        Keyed.contains (withDiscriminator name declared) property = true) ∧
      collectAliases (withDiscriminator name declared) [] (withDiscriminator name declared) =
        .ok aliases ∧
      type = ⟨name, description,
        .record (withDiscriminator name declared) (requireDiscriminator listed) aliases⟩ := by
  rw [flattenRecord, bind_eq_ok_iff] at built
  obtain ⟨⟨declared, listed⟩, added, built⟩ := built
  dsimp only at built
  split at built
  next => cases built
  next all =>
    obtain ⟨aliases, collected, made⟩ := bind_eq_ok_iff.mp built
    cases made
    refine ⟨declared, listed, aliases, added, fun property member => ?_, collected, rfl⟩
    simpa using List.find?_eq_none.mp all property member

theorem flattenRecord_wellFormed {name : String} {description : Option String}
    {chain : List TypeDefinition} {type : TypeSchema}
    (built : flattenRecord name description chain = .ok type) : type.WellFormed name := by
  obtain ⟨declared, listed, aliases, added, checked, -, rfl⟩ := flattenRecord_eq_ok built
  -- The chain starts from no properties, and every step keeps them tidy.
  have none : Tidy [] := ⟨List.nodup_nil, by simp⟩
  have tidy := tidy_withDiscriminator name (tidy_addDefinitions none added)
  exact ⟨rfl, tidy.distinct, checked,
    fun key property found => tidy.literals _ (Keyed.mem_of_get? found),
    fun _ => mem_requireDiscriminator listed, fun _ => get?_withDiscriminator name declared⟩

theorem flattenUnion_eq_ok {name : String} {own : TypeDefinition}
    {alternatives : List ShapeDefinition} {type : TypeSchema}
    (built : flattenUnion name own alternatives = .ok type) :
    ∃ shapes, ShapeDefinition.lowerAll name alternatives = .ok shapes ∧
      type = ⟨name, own.description, .union shapes⟩ := by
  unfold flattenUnion at built
  split at built
  next => cases built
  next =>
    obtain ⟨shapes, lowered, made⟩ := bind_eq_ok_iff.mp built
    cases made
    exact ⟨shapes, lowered, rfl⟩

theorem flattenUnion_wellFormed {name : String} {own : TypeDefinition}
    {alternatives : List ShapeDefinition} {type : TypeSchema}
    (built : flattenUnion name own alternatives = .ok type) : type.WellFormed name := by
  obtain ⟨shapes, -, rfl⟩ := flattenUnion_eq_ok built
  exact ⟨rfl, by simp [Keyed.Distinct, Keyed.keys, properties], by simp [TypeSchema.required],
    by simp [property?, properties], by simp [isUnion, alternatives?],
    by simp [isUnion, alternatives?]⟩

/-- A type is made of the nearest definition alone if that is of a union, else of the whole
chain. -/
theorem flatten_cases {name : String} {chain : List TypeDefinition} {type : TypeSchema}
    (built : flatten name chain = .ok type) :
    ∃ own ancestors, chain = own :: ancestors ∧ own.title = name ∧
      ((∃ alternatives, own.oneOf = some alternatives ∧
          flattenUnion name own alternatives = .ok type) ∨
        own.oneOf = none ∧ flattenRecord name own.description chain = .ok type) := by
  unfold flatten at built
  split at built
  next => cases built
  next own ancestors =>
    split at built
    next => cases built
    next titled =>
      refine ⟨own, ancestors, rfl, by simpa using titled, ?_⟩
      split at built
      next alternatives union => exact .inl ⟨alternatives, union, built⟩
      next record => exact .inr ⟨record, built⟩

/-- Whatever the chain declares, the type made of it is well formed. -/
theorem flatten_wellFormed {name : String} {chain : List TypeDefinition} {type : TypeSchema}
    (built : flatten name chain = .ok type) : type.WellFormed name := by
  obtain ⟨own, ancestors, -, -, ⟨alternatives, -, union⟩ | ⟨-, record⟩⟩ := flatten_cases built
  · exact flattenUnion_wellFormed union
  · exact flattenRecord_wellFormed record

end TypeSchema

namespace SchemaSet

/-- Whether every type of a set is made of a chain of definitions for the name it has there. -/
def Built (set : SchemaSet) : Prop :=
  ∀ name type, set.find? name = some type →
    ∃ chain, TypeSchema.flatten name chain = .ok type.schema

theorem Built.wellFormed {set : SchemaSet} (built : set.Built) {name : String}
    {type : CompiledType} (known : set.find? name = some type) :
    type.schema.WellFormed name := by
  obtain ⟨chain, flattened⟩ := built name type known
  exact TypeSchema.flatten_wellFormed flattened

/-- Whether the literal values that the properties of a set are written with are trees with
distinct keys, whatever they were made of. -/
def DistinctLiterals (set : SchemaSet) : Prop :=
  ∀ name type key property, set.find? name = some type →
    type.schema.property? key = some property →
    ∀ value ∈ property.literals, value.distinctKeys = true

theorem Built.distinctLiterals {set : SchemaSet} (built : set.Built) : set.DistinctLiterals :=
  fun _ _ key property known declares => (built.wellFormed known).literals key property declares

/-! ### A set of two types -/

/-- A book has a title and refers to other entries. -/
def bookDefinition : TypeDefinition where
  title := "Book"
  properties := [("title", { kind := some "string" }), ("year", { kind := some "integer" }),
    ("related", { kind := some "array", items := some { reference := some "Entry" } })]
  required := ["title"]

/-- An entry is a book or a text. -/
def entryDefinition : TypeDefinition where
  title := "Entry"
  oneOf := some [{ reference := some "Book" }, { kind := some "string" }]

def book : TypeSchema where
  name := "Book"
  description := none
  body := .record [("type", ⟨.enum [.string "Book"], none, [], none⟩),
    ("title", ⟨.scalar .string, none, [], none⟩), ("year", ⟨.scalar .integer, none, [], none⟩),
    ("related", ⟨.array (.ref "Entry"), none, [], none⟩)] ["type", "title"] []

def entry : TypeSchema where
  name := "Entry"
  description := none
  body := .union [.ref "Book", .scalar .string]

/-- Books and the entries they refer to. -/
def library : SchemaSet where
  root := "Book"
  types := [("Book", .ofSchema book), ("Entry", .ofSchema entry)]
  limit := defaultLimit

theorem flatten_book : TypeSchema.flatten "Book" [bookDefinition] = .ok book := rfl

theorem flatten_entry : TypeSchema.flatten "Entry" [entryDefinition] = .ok entry := rfl

theorem find?_library {name : String} {type : CompiledType}
    (known : library.find? name = some type) :
    (name = "Book" ∧ type = .ofSchema book) ∨ (name = "Entry" ∧ type = .ofSchema entry) := by
  have member := Keyed.mem_of_get? known
  simpa [library] using member

theorem library_built : library.Built := by
  intro name type known
  rcases find?_library known with ⟨rfl, rfl⟩ | ⟨rfl, rfl⟩
  · exact ⟨[bookDefinition], flatten_book⟩
  · exact ⟨[entryDefinition], flatten_entry⟩

end SchemaSet

end DocSchema
