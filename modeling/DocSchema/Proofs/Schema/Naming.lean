import DocSchema.Proofs.Schema.Built
import Mathlib.Data.List.Nodup

/-!
# The names of a type

A key stands for a property of its type: an alias is recorded for a declared property, and the
spellings that a type accepts are those of its properties and aliases. What a type requires is
listed once. Main statements: `TypeSchema.flatten_wellNamed` and
`SchemaSet.Built.declared_of_resolve?`.
-/

namespace DocSchema

/-! ### Accepted spellings -/

namespace PropertyNames

variable {normalize : String → String} {type : TypeSchema}

theorem get?_addNew (entries : Keyed String) (name property key : String) :
    Keyed.get? (addNew entries name property) key =
      (Keyed.get? entries key).or (if name = key then some property else none) := by
  unfold addNew
  split
  next present =>
    by_cases same : name = key
    · subst same
      obtain ⟨value, found⟩ := Option.isSome_iff_exists.mp present
      simp [found]
    · simp [same]
  next => rw [Keyed.get?_append]; rfl

/-- Of the declared names that are spelled alike the first one counts. -/
theorem get?_exact_build (normalize : String → String) (type : TypeSchema) (key : String) :
    Keyed.get? (build normalize type).exact key = Keyed.get? (declared type) key := by
  have added (entries : List (String × String)) (names : PropertyNames) :
      Keyed.get? (entries.foldl (fun names entry => names.add entry.1 entry.2) names).exact key =
        (Keyed.get? names.exact key).or (Keyed.get? entries key) := by
    induction entries generalizing names with
    | nil => simp
    | cons entry rest ih =>
      rw [List.foldl_cons, ih]
      simp only [add, get?_addNew, Keyed.get?]
      by_cases same : entry.1 = key
      · simp [same]
      · simp [same]
  exact added (declared type) ⟨normalize, [], []⟩

/-- A property stands for itself, whatever aliases there are. -/
theorem resolve?_property {name : String} {property : Property}
    (declares : type.property? name = some property) :
    (build normalize type).resolve? name = some name := by
  have listed (properties : Keyed Property) (found : Keyed.get? properties name = some property) :
      Keyed.get? ((Keyed.keys properties).map fun name => (name, name)) name = some name := by
    induction properties with
    | nil => simp at found
    | cons entry rest ih =>
      simp only [Keyed.get?, Keyed.keys, List.map_cons] at found ih ⊢
      by_cases same : entry.1 = name
      · simp [same]
      · simp only [same, if_false] at found ⊢
        exact ih found
  simp [resolve?, get?_exact_build, declared, Keyed.get?_append, listed _ declares]

/-- The first of the declared names that are normalized alike counts. -/
theorem get?_normalized_build (normalize : String → String) (type : TypeSchema) (key : String) :
    Keyed.get? (build normalize type).normalized key =
      Keyed.get? ((declared type).map fun entry => (normalize entry.1, entry.2)) key := by
  have added (entries : List (String × String)) (names : PropertyNames) :
      Keyed.get? (entries.foldl (fun names entry => names.add entry.1 entry.2) names).normalized
          key =
        (Keyed.get? names.normalized key).or
          (Keyed.get? (entries.map fun entry => (names.normalize entry.1, entry.2)) key) := by
    induction entries generalizing names with
    | nil => simp
    | cons entry rest ih =>
      rw [List.foldl_cons, ih]
      simp only [add, get?_addNew, Keyed.get?, List.map_cons]
      by_cases same : names.normalize entry.1 = key
      · simp [same]
      · simp [same]
  exact added (declared type) ⟨normalize, [], []⟩

/-- A key stands for what some declared name stands for. -/
theorem mem_declared_of_resolve? {key name : String}
    (resolved : (build normalize type).resolve? key = some name) :
    ∃ spelling, (spelling, name) ∈ declared type := by
  unfold resolve? at resolved
  split at resolved
  next property exact =>
    cases resolved
    rw [get?_exact_build] at exact
    exact ⟨key, Keyed.mem_of_get? exact⟩
  next =>
    rw [get?_normalized_build] at resolved
    obtain ⟨⟨spelling, property⟩, member, same⟩ := List.mem_map.mp (Keyed.mem_of_get? resolved)
    rw [Prod.mk.injEq] at same
    exact ⟨spelling, same.2 ▸ member⟩

end PropertyNames

namespace TypeSchema

variable {properties : Keyed Property}

/-! ### Aliases -/

theorem mem_addAliases {property : String} {names : List String} {known result : Keyed String}
    (added : addAliases properties property known names = .ok result) {entry : String × String}
    (member : entry ∈ result) : entry ∈ known ∨ entry.2 = property := by
  induction names generalizing known with
  | nil =>
    cases added
    exact .inl member
  | cons aliasName rest ih =>
    rw [addAliases] at added
    split at added
    next => cases added
    next =>
      rcases ih added with inserted | same
      · rcases Keyed.mem_of_mem_insert inserted with rfl | before
        · exact .inr rfl
        · exact .inl before
      · exact .inr same

theorem mem_collectAliases {entries : List (String × Property)} {known result : Keyed String}
    (collected : collectAliases properties known entries = .ok result) {entry : String × String}
    (member : entry ∈ result) : entry ∈ known ∨ entry.2 ∈ Keyed.keys entries := by
  induction entries generalizing known with
  | nil =>
    cases collected
    exact .inl member
  | cons first rest ih =>
    obtain ⟨name, property⟩ := first
    rw [collectAliases, bind_eq_ok_iff] at collected
    obtain ⟨later, added, collected⟩ := collected
    rcases ih collected with before | listed
    · refine (mem_addAliases added before).imp_right fun same => ?_
      rw [same]
      exact List.mem_cons_self
    · exact .inr (List.mem_cons_of_mem _ listed)

/-! ### Requirements -/

theorem nodup_addRequired {required : List String} (nodup : required.Nodup)
    (names : List String) : (addRequired required names).Nodup := by
  induction names generalizing required with
  | nil => exact nodup
  | cons name rest ih =>
    rw [addRequired, List.foldl_cons]
    split
    next => exact ih nodup
    next new =>
      have absent : name ∉ required := by simpa using new
      exact ih (List.nodup_append.mpr ⟨nodup, List.nodup_singleton name, by grind⟩)

theorem nodup_addDefinitions {chain : List TypeDefinition} {declared : Keyed Property}
    {required listed : List String} (nodup : required.Nodup)
    (added : addDefinitions properties required chain = .ok (declared, listed)) :
    listed.Nodup := by
  induction chain generalizing properties required with
  | nil =>
    cases added
    exact nodup
  | cons definition rest ih =>
    rw [addDefinitions, bind_eq_ok_iff] at added
    obtain ⟨later, -, added⟩ := added
    exact ih (nodup_addRequired nodup definition.required) added

theorem nodup_requireDiscriminator {required : List String} (nodup : required.Nodup) :
    (requireDiscriminator required).Nodup := by
  unfold requireDiscriminator
  split
  next => exact nodup
  next new => exact List.nodup_cons.mpr ⟨by simpa using new, nodup⟩

/-! ### Whole types -/

/-- What a type made of a chain says about names. -/
structure WellNamed (type : TypeSchema) : Prop where
  aliases : ∀ entry ∈ type.aliases, entry.2 ∈ Keyed.keys type.properties
  required : type.required.Nodup

theorem flatten_wellNamed {name : String} {chain : List TypeDefinition} {type : TypeSchema}
    (built : flatten name chain = .ok type) : type.WellNamed := by
  obtain ⟨own, ancestors, -, -, ⟨alternatives, -, union⟩ | ⟨-, record⟩⟩ := flatten_cases built
  · obtain ⟨shapes, -, rfl⟩ := flattenUnion_eq_ok union
    exact ⟨by simp [TypeSchema.aliases], by simp [TypeSchema.required]⟩
  · obtain ⟨declared, listed, aliases, added, -, collected, rfl⟩ := flattenRecord_eq_ok record
    refine ⟨fun entry member => ?_,
      nodup_requireDiscriminator (nodup_addDefinitions List.nodup_nil added)⟩
    -- The search for aliases starts from none.
    exact (mem_collectAliases collected member).resolve_left List.not_mem_nil

/-- A key stands for declared properties only. -/
theorem WellNamed.declared_of_resolve? {type : TypeSchema} (named : type.WellNamed)
    {normalize : String → String} {key property : String}
    (resolved : (PropertyNames.build normalize type).resolve? key = some property) :
    property ∈ Keyed.keys type.properties := by
  obtain ⟨spelling, member⟩ := PropertyNames.mem_declared_of_resolve? resolved
  rcases List.mem_append.mp member with own | given
  · obtain ⟨same, listed, paired⟩ := List.mem_map.mp own
    cases paired
    exact listed
  · exact named.aliases _ given

end TypeSchema

namespace SchemaSet

variable {set : SchemaSet} {name : String} {type : CompiledType}

theorem Built.wellNamed (built : set.Built) (known : set.find? name = some type) :
    type.schema.WellNamed := by
  obtain ⟨chain, flattened⟩ := built name type known
  exact TypeSchema.flatten_wellNamed flattened

theorem Built.declared_of_resolve? (built : set.Built) (known : set.find? name = some type)
    {key property : String} (resolved : type.names.resolve? key = some property) :
    property ∈ Keyed.keys type.schema.properties := by
  rw [type.names_eq] at resolved
  exact (built.wellNamed known).declared_of_resolve? resolved

end SchemaSet

end DocSchema
