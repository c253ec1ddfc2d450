import DocSchema.Proofs.Schema.Closure
import DocSchema.Proofs.Validation.Origins

/-!
# Names without a type

Validation reports a name as undefined only if the set has no type for it, and then the shape or
one of the types of the set names it. That holds of the errors found and of those that they tell of
the nearest alternatives of unions. Main statement: `lacks_of_mem_validateShape`.
-/

namespace DocSchema

/-- Whether an error tells of a name without a type, by itself or as one of those of the nearest
alternative. -/
inductive ValidationError.Misses : ValidationError → String → Prop where
  | reference (name : String) (path : Path) : Misses (.undefinedReference name path) name
  | nearest {path : Path} {nearest : Nearest ValidationError} {error : ValidationError}
      {name : String} (among : error = nearest.error ∨ error ∈ nearest.all)
      (inside : Misses error name) : Misses (.noVariantMatched path (some nearest)) name

/-- Whether a set has no type for a name that a shape or one of its types mentions. -/
def SchemaSet.Lacks (set : SchemaSet) (shape : Shape) (name : String) : Prop :=
  set.find? name = none ∧
    (shape.Mentions name ∨
      ∃ owner type, set.find? owner = some type ∧ type.schema.RefersTo name)

/-- A name that an error tells of is that of an undefined reference that it tells of. -/
theorem ValidationError.Misses.tells {error : ValidationError} {name : String}
    (misses : error.Misses name) : ∃ path, error.Tells (.undefinedReference name path) := by
  induction misses with
  | reference name path => exact ⟨path, .self _⟩
  | nearest among _ ih =>
    obtain ⟨path, tells⟩ := ih
    exact ⟨path, .nearest among tells⟩

namespace TypeSchema

variable {type : TypeSchema} {name : String}

theorem refersTo_of_alternative {alternatives : List Shape} (body : type.body = .union alternatives)
    {alternative : Shape} (member : alternative ∈ alternatives)
    (mentions : alternative.Mentions name) : type.RefersTo name :=
  ⟨alternative, by simp [shapes, alternatives?, body, member], mentions⟩

theorem refersTo_of_property {properties : Keyed Property} {required : List String}
    {aliases : Keyed String} (body : type.body = .record properties required aliases)
    {key : String} {property : Property} (declared : (key, property) ∈ properties)
    (mentions : property.shape.Mentions name) : type.RefersTo name := by
  refine ⟨property.shape, ?_, mentions⟩
  simp only [shapes, TypeSchema.properties, body, List.mem_append, List.mem_map]
  exact .inl ⟨(key, property), declared, rfl⟩

end TypeSchema

namespace Validation

open Comparison (ComesTo)

variable {set : SchemaSet} {name : String}

/-! ### The names on the course of validation -/

/-- One step of validation goes on inside the shape or into a type that the shape names. -/
theorem mentions_of_leads {place later : Comparison} (leads : place.Leads set later)
    (mentions : later.shape.Mentions name) :
    place.shape.Mentions name ∨
      ∃ owner type, place.shape.Mentions owner ∧ set.find? owner = some type ∧
        type.schema.RefersTo name := by
  cases leads with
  | alternative offers considered =>
    -- A union written out in the shape names its alternatives itself, a union type stands between.
    cases offers with
    | oneOf => exact .inl (.alternative considered.mem mentions)
    | union known body =>
      exact .inr ⟨_, _, .ref _, known,
        TypeSchema.refersTo_of_alternative body considered.mem mentions⟩
  | inner => exact .inl (.inner mentions)
  | item => exact .inl (.items mentions)
  | property _ known body declared =>
    exact .inr ⟨_, _, .ref _, known, TypeSchema.refersTo_of_property body declared mentions⟩

/-- What is mentioned further on is mentioned by the shape or by a type of the set. -/
theorem lacks_of_comesTo {place later : Comparison} (comes : ComesTo set place later)
    (mentions : later.shape.Mentions name) (unknown : set.find? name = none) :
    set.Lacks place.shape name := by
  refine ⟨unknown, ?_⟩
  induction comes using Relation.ReflTransGen.head_induction_on with
  | refl => exact .inl mentions
  | head leads _ ih =>
    rcases ih with named | referred
    · refine (mentions_of_leads leads named).imp_right ?_
      rintro ⟨owner, type, -, known, refers⟩
      exact ⟨owner, type, known, refers⟩
    · exact .inr referred

theorem lacks_of_mem_validateShape {shape : Shape} {node : Node} {path : Path}
    {error : ValidationError} {missing : String}
    (found : error ∈ validateShape set node shape path) (misses : error.Misses missing) :
    set.Lacks shape missing := by
  obtain ⟨place, tells⟩ := misses.tells
  obtain ⟨below, later, -, comes, owns⟩ := traced_of_mem_validateShape found tells
  have here : place = path ++ below := owns.here
  obtain ⟨named, unknown⟩ := owns.undefined missing (here ▸ rfl)
  exact lacks_of_comesTo comes (named ▸ .ref missing) unknown

end Validation

end DocSchema
