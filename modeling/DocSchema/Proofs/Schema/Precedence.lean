import DocSchema.Proofs.Schema.Consistency

/-!
# Which property a key stands for

A key stands for the property of that name. If there is none, it stands for the property that it is
an alias of, and otherwise for the owner of the first declared spelling that is normalized like it,
properties coming before aliases. So neither an alias nor a spelling that is normalized alike takes
a name from its own property, and a property stands for itself. All this holds of any normalization.
Main statement: `flatten_resolves`.
-/

namespace DocSchema

namespace PropertyNames

/-- What a key stands for in a type. -/
inductive Resolves (normalize : String → String) (type : TypeSchema) (key : String) :
    Option String → Prop where
  | property (declared : key ∈ Keyed.keys type.properties) : Resolves normalize type key (some key)
  | aliased {owner : String} {property : Property} (undeclared : key ∉ Keyed.keys type.properties)
      (owns : type.property? owner = some property) (given : key ∈ property.aliases) :
      Resolves normalize type key (some owner)
  | alike {spelling owner : String} {before after : List (String × String)}
      (undeclared : key ∉ Keyed.keys type.properties)
      (unaliased : ∀ owner property, type.property? owner = some property →
        key ∉ property.aliases)
      (listed : (Keyed.keys type.properties).map (fun name => (name, name)) ++ type.aliases =
        before ++ (spelling, owner) :: after)
      (same : normalize spelling = normalize key)
      (first : ∀ entry ∈ before, normalize entry.1 ≠ normalize key) :
      Resolves normalize type key (some owner)
  | unknown (unlike : ∀ spelling ∈ Keyed.keys type.properties ++ Keyed.keys type.aliases,
      normalize spelling ≠ normalize key) : Resolves normalize type key none

variable {normalize : String → String} {type : TypeSchema} {key : String}

/-! ### Declared spellings -/

theorem keys_declared (type : TypeSchema) :
    Keyed.keys (declared type) = Keyed.keys type.properties ++ Keyed.keys type.aliases := by
  simp [declared, Keyed.keys]

/-- Only an alias can be declared beside the properties. -/
theorem get?_declared_of_not_mem (undeclared : key ∉ Keyed.keys type.properties) :
    Keyed.get? (declared type) key = Keyed.get? type.aliases key := by
  have none :
      Keyed.get? ((Keyed.keys type.properties).map fun name => (name, name)) key = none := by
    rw [Keyed.get?_eq_none_iff]
    simpa [Keyed.keys] using undeclared
  rw [declared, Keyed.get?_append, none, Option.none_or]

/-- Of spellings that are normalized alike the first one is found. -/
theorem get?_normalized_of_first {spelling owner : String} {before after : List (String × String)}
    (listed : declared type = before ++ (spelling, owner) :: after)
    (same : normalize spelling = normalize key)
    (first : ∀ entry ∈ before, normalize entry.1 ≠ normalize key) :
    Keyed.get? (build normalize type).normalized (normalize key) = some owner := by
  have none : Keyed.get? (before.map fun entry => (normalize entry.1, entry.2)) (normalize key) =
      none := by
    rw [Keyed.get?_eq_none_iff]
    simpa [Keyed.keys] using first
  rw [get?_normalized_build, listed, List.map_append, Keyed.get?_append, none, Option.none_or,
    List.map_cons, Keyed.get?, if_pos same]

theorem get?_normalized_of_unlike
    (unlike : ∀ spelling ∈ Keyed.keys (declared type), normalize spelling ≠ normalize key) :
    Keyed.get? (build normalize type).normalized (normalize key) = none := by
  rw [get?_normalized_build, Keyed.get?_eq_none_iff]
  simpa [Keyed.keys] using unlike

/-! ### Resolving -/

theorem resolve?_of_exact {property : String}
    (exact : Keyed.get? (declared type) key = some property) :
    (build normalize type).resolve? key = some property := by
  rw [resolve?, get?_exact_build, exact]

theorem resolve?_of_inexact (inexact : Keyed.get? (declared type) key = none) :
    (build normalize type).resolve? key =
      Keyed.get? (build normalize type).normalized (normalize key) := by
  have kept : (build normalize type).normalize = normalize := by
    have still (entries : List (String × String)) (names : PropertyNames) :
        (entries.foldl (fun names entry => names.add entry.1 entry.2) names).normalize =
          names.normalize := by
      induction entries generalizing names with
      | nil => rfl
      | cons entry rest ih => exact ih (names.add entry.1 entry.2)
    exact still (declared type) ⟨normalize, [], []⟩
  rw [resolve?, get?_exact_build, inexact, kept]

/-- There is something that a key stands for, if only nothing. -/
theorem exists_resolves (normalize : String → String) (type : TypeSchema) (key : String) :
    ∃ result, Resolves normalize type key result := by
  by_cases declares : key ∈ Keyed.keys type.properties
  · exact ⟨_, .property declares⟩
  by_cases aliased : ∃ owner property, type.property? owner = some property ∧
      key ∈ property.aliases
  · obtain ⟨owner, property, owns, given⟩ := aliased
    exact ⟨_, .aliased declares owns given⟩
  cases found : (declared type).find? fun entry => normalize entry.1 == normalize key with
  | some entry =>
    obtain ⟨same, before, after, listed, first⟩ := List.find?_eq_some_iff_append.mp found
    refine ⟨some entry.2, .alike declares ?_ listed (by simpa using same) (by simpa using first)⟩
    exact fun owner property owns given => aliased ⟨owner, property, owns, given⟩
  | none =>
    refine ⟨_, .unknown fun spelling member => ?_⟩
    rw [← keys_declared] at member
    obtain ⟨entry, listed, rfl⟩ := List.mem_map.mp member
    simpa using List.find?_eq_none.mp found entry listed

end PropertyNames

namespace TypeSchema

open PropertyNames (Resolves)

variable {name : String} {type : TypeSchema} {normalize : String → String} {key : String}

/-- In a consistent type a key is resolved to what it stands for. -/
theorem Consistent.resolve?_of_resolves (consistent : type.Consistent name)
    {result : Option String} (resolves : Resolves normalize type key result) :
    (PropertyNames.build normalize type).resolve? key = result := by
  -- What is no property and no alias is found among the normalized spellings only.
  have inexact (undeclared : key ∉ Keyed.keys type.properties)
      (unaliased : key ∉ Keyed.keys type.aliases) :
      Keyed.get? (PropertyNames.declared type) key = none := by
    rw [PropertyNames.get?_declared_of_not_mem undeclared, Keyed.get?_eq_none_iff]
    exact unaliased
  cases resolves with
  | property declared =>
    obtain ⟨property, declares⟩ := Keyed.mem_keys_iff.mp declared
    exact PropertyNames.resolve?_property declares
  | @aliased owner property undeclared owns given =>
    apply PropertyNames.resolve?_of_exact
    rw [PropertyNames.get?_declared_of_not_mem undeclared]
    exact (consistent.aliases key owner).mpr ⟨property, owns, given⟩
  | alike undeclared unaliased listed same first =>
    have free : key ∉ Keyed.keys type.aliases := by
      intro member
      obtain ⟨owner, found⟩ := Keyed.mem_keys_iff.mp member
      obtain ⟨property, owns, given⟩ := (consistent.aliases key owner).mp found
      exact unaliased owner property owns given
    rw [PropertyNames.resolve?_of_inexact (inexact undeclared free)]
    exact PropertyNames.get?_normalized_of_first listed same first
  | unknown unlike =>
    rw [← PropertyNames.keys_declared] at unlike
    have undeclared : key ∉ Keyed.keys (PropertyNames.declared type) :=
      fun member => unlike key member rfl
    rw [PropertyNames.resolve?_of_inexact (Keyed.get?_eq_none_iff.mpr undeclared)]
    exact PropertyNames.get?_normalized_of_unlike unlike

theorem Consistent.resolve?_eq_iff (consistent : type.Consistent name) {result : Option String} :
    (PropertyNames.build normalize type).resolve? key = result ↔
      Resolves normalize type key result := by
  refine ⟨?_, consistent.resolve?_of_resolves⟩
  rintro rfl
  obtain ⟨result, resolves⟩ := PropertyNames.exists_resolves normalize type key
  exact (consistent.resolve?_of_resolves resolves).symm ▸ resolves

/-- Whatever the normalization, a type that is made of a chain resolves a key to what it stands
for: its own properties and aliases are never hidden, and resolving again changes nothing. -/
theorem flatten_resolves {chain : List TypeDefinition} (built : flatten name chain = .ok type)
    (normalize : String → String) :
    (∀ key result, (PropertyNames.build normalize type).resolve? key = result ↔
      Resolves normalize type key result) ∧
    (∀ key ∈ Keyed.keys type.properties,
      (PropertyNames.build normalize type).resolve? key = some key) ∧
    (∀ owner property, type.property? owner = some property → ∀ key ∈ property.aliases,
      (PropertyNames.build normalize type).resolve? key = some owner) ∧
    ∀ key property, (PropertyNames.build normalize type).resolve? key = some property →
      (PropertyNames.build normalize type).resolve? property = some property := by
  have consistent := consistent_of_flatten built
  have own : ∀ key ∈ Keyed.keys type.properties,
      (PropertyNames.build normalize type).resolve? key = some key :=
    fun key declared => consistent.resolve?_of_resolves (.property declared)
  refine ⟨fun key result => consistent.resolve?_eq_iff, own, ?_, ?_⟩
  · intro owner property owns key given
    have recorded := (consistent.aliases key owner).mpr ⟨property, owns, given⟩
    have undeclared := consistent.apart key (Keyed.mem_keys_iff.mpr ⟨owner, recorded⟩)
    exact consistent.resolve?_of_resolves (.aliased undeclared owns given)
  · intro key property resolved
    exact own property (consistent.resolved normalize key property resolved)

/-- A desk has a phone, also given as its `TEL`, and a line of that name. -/
def deskDefinition : TypeDefinition where
  title := "Desk"
  properties := [("phone", { kind := some "string", aliases := ["TEL"] }),
    ("tel", { kind := some "string" })]

def desk : TypeSchema where
  name := "Desk"
  description := none
  body := .record [("type", ⟨.enum [.string "Desk"], none, [], none⟩),
    ("phone", ⟨.scalar .string, none, ["TEL"], none⟩),
    ("tel", ⟨.scalar .string, none, [], none⟩)] ["type"] [("TEL", "phone")]

theorem flatten_desk : flatten "Desk" [deskDefinition] = .ok desk := rfl

def lowerCase (spelling : String) : String := String.ofList (spelling.toList.map Char.toLower)

/-- The alias and the property are spelled alike but for the case of letters. Each is kept, and a
third spelling stands for the property, which is declared first. -/
theorem desk_resolves :
    flatten "Desk" [deskDefinition] = .ok desk ∧
    Resolves lowerCase desk "Tel" (some "tel") ∧
    (PropertyNames.build lowerCase desk).resolve? "TEL" = some "phone" ∧
    (PropertyNames.build lowerCase desk).resolve? "tel" = some "tel" := by
  obtain ⟨resolves, own, given, again⟩ := flatten_resolves flatten_desk lowerCase
  have found : (PropertyNames.build lowerCase desk).resolve? "Tel" = some "tel" := by decide
  exact ⟨flatten_desk, (resolves "Tel" _).mp found,
    given "phone" _ rfl "TEL" (List.mem_singleton_self _), again "Tel" "tel" found⟩

end TypeSchema

end DocSchema
