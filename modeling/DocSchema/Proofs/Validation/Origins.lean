import DocSchema.Proofs.Validation.Course
import DocSchema.Proofs.Validation.Provenance

/-!
# The comparisons that errors come from

Every error that validation finds, and every one that it tells of nearest alternatives, is an error
of its own of some comparison that validation comes to: it stands where the compared value does and
suits that value, a name is undefined only where the shape names it, and the nearest alternative
has been selected from the outcomes of the union expected there. Main statement:
`traced_of_mem_errorsOf`.
-/

namespace DocSchema

namespace ValidationError

/-- Whether an error tells of another one: of itself, or of one of those of the nearest
alternative. -/
inductive Tells : ValidationError → ValidationError → Prop where
  | self (error : ValidationError) : Tells error error
  | nearest {path : Path} {nearest : Nearest ValidationError} {among inner : ValidationError}
      (listed : among = nearest.error ∨ among ∈ nearest.all) (inside : Tells among inner) :
      Tells (.noVariantMatched path (some nearest)) inner

/-- Whether a value is such a one as an error speaks of: a record that has the property which is
not declared, or that lacks the one which is required. -/
def Suits (error : ValidationError) (value : Node) : Prop :=
  match error with
  | unknownProperty property _ => ∃ fields, value = .record fields ∧ property ∈ Keyed.keys fields
  | missingRequired property _ => ∃ fields, value = .record fields ∧ property ∉ Keyed.keys fields
  | _ => True

/-- Whether an error is about the value alone: not about a name without a type, and not about the
alternatives of a union that nothing matched. -/
def IsPlain (error : ValidationError) : Prop :=
  match error with
  | undefinedReference _ _ | noVariantMatched _ _ => False
  | _ => True

end ValidationError

namespace Validation

open ValidationError (Tells)

/-- Whether an error is one that a comparison comes to by itself, and not through others. -/
structure Owns (set : SchemaSet) (place : Comparison) (path : Path) (error : ValidationError) :
    Prop where
  here : error.path = path
  suits : error.Suits place.node
  undefined : ∀ name, error = .undefinedReference name path →
    place.shape = .ref name ∧ set.find? name = none
  unmatched : ∀ nearest, error = .noVariantMatched path nearest → ∃ alternatives hops,
    place.Offers set alternatives hops ∧ Shape.named? alternatives place.node = none ∧
    nearest = selectNearest (outcomesOf set alternatives place.node path hops) path.length ∧
    ∀ outcome ∈ outcomesOf set alternatives place.node path hops, outcome.2 ≠ []

/-- Whether an error is one of a comparison that is come to from another one, and stands where the
value has been come to. -/
def TracedFrom (set : SchemaSet) (place : Comparison) (path : Path) (error : ValidationError) :
    Prop :=
  ∃ below later, place.node.get? below = some later.node ∧ place.ComesTo set later ∧
    Owns set later (path ++ below) error

variable {set : SchemaSet} {place : Comparison} {path : Path} {error inner : ValidationError}

/-- A plain error is owned wherever it stands with a value that it suits. -/
theorem Owns.of_isPlain (plain : error.IsPlain) (here : error.path = path)
    (suits : error.Suits place.node) : Owns set place path error where
  here := here
  suits := suits
  undefined := by
    rintro name rfl
    exact plain.elim
  unmatched := by
    rintro nearest rfl
    exact plain.elim

theorem TracedFrom.self (owns : Owns set place path error) : TracedFrom set place path error :=
  ⟨[], place, rfl, .refl, (List.append_nil path).symm ▸ owns⟩

/-- What is traced from the next comparison is traced from the one before. -/
theorem TracedFrom.step {next : Comparison} {further : Path}
    (traced : TracedFrom set next (path ++ further) error) (leads : place.Leads set next)
    (found : place.node.get? further = some next.node) : TracedFrom set place path error := by
  obtain ⟨below, later, reached, comes, owns⟩ := traced
  refine ⟨further ++ below, later, ?_, comes.head leads, List.append_assoc .. ▸ owns⟩
  rw [Node.get?_append, found, Option.bind_some, reached]

/-- At the same value the path is the same. -/
theorem TracedFrom.stay {next : Comparison} (traced : TracedFrom set next path error)
    (leads : place.Leads set next) (same : next.node = place.node) :
    TracedFrom set place path error := by
  have traced : TracedFrom set next (path ++ []) error := by rwa [List.append_nil]
  exact traced.step leads (congrArg some same.symm)

/-! ### Errors of single comparisons -/

/-- An error that is no union's tells of itself only. -/
theorem traced_of_mem_singleton {only : ValidationError} (found : error ∈ [only])
    (tells : error.Tells inner) (unnested : only.isNoVariantMatched = false)
    (owns : Owns set place path only) : TracedFrom set place path inner := by
  rw [List.mem_singleton] at found
  subst found
  cases tells with
  | self => exact .self owns
  | nearest => cases unnested

theorem traced_of_mem_plain {only : ValidationError} (found : error ∈ [only])
    (tells : error.Tells inner) (plain : only.IsPlain) (here : only.path = path)
    (suits : only.Suits place.node) : TracedFrom set place path inner := by
  refine traced_of_mem_singleton found tells ?_ (.of_isPlain plain here suits)
  cases only with
  | noVariantMatched => exact plain.elim
  | _ => rfl

/-- The error of a union that nothing matched tells of errors under its alternatives. -/
theorem traced_of_mem_errorsOfUnion {alternatives : List Shape} {hops : Nat}
    (offers : place.Offers set alternatives hops)
    (under : ∀ alternative, Considered alternatives place.node alternative →
      ∀ error ∈ errorsOf set alternative place.node path hops, error.Tells inner →
        TracedFrom set ⟨alternative, place.node, hops⟩ path inner)
    (found : error ∈ errorsOfUnion set alternatives place.node path hops)
    (tells : error.Tells inner) : TracedFrom set place path inner := by
  have step (alternative : Shape) (considered : Considered alternatives place.node alternative)
      (error : ValidationError) (inside : error ∈ errorsOf set alternative place.node path hops)
      (tells : error.Tells inner) : TracedFrom set place path inner :=
    (under alternative considered error inside tells).stay (.alternative offers considered) rfl
  rcases errorsOfUnion_cases found with
    ⟨alternative, named, inside⟩ | ⟨unnamed, ⟨_, rfl⟩ | ⟨rfl, failed⟩⟩
  · exact step alternative (.inl named) error inside tells
  · exact traced_of_mem_plain (List.mem_singleton_self _) tells trivial rfl trivial
  · generalize selected : selectNearest _ _ = nearest at tells
    cases tells with
    | self =>
      refine .self ⟨rfl, trivial, fun name same => ?_, fun other same => ?_⟩
      · cases same
      · cases same
        exact ⟨alternatives, hops, offers, unnamed, selected.symm, failed⟩
    | nearest listed inside =>
      obtain ⟨outcome, member, found⟩ := mem_of_selectNearest selected listed
      rw [outcomesOf_eq_map] at member
      obtain ⟨alternative, among, rfl⟩ := List.mem_map.mp member
      exact step alternative (.inr ⟨unnamed, among⟩) _ found inside

/-- An error of a record comes from one of its properties, or tells of a key that is missing or
undeclared. -/
theorem traced_of_mem_record {name : String} {type : CompiledType}
    {properties : Keyed Property} {required : List String} {aliases : Keyed String}
    {fields : Keyed Node} {hops : Nat} (known : set.find? name = some type)
    (body : type.schema.body = .record properties required aliases)
    (under : ∀ key value, (key, value) ∈ fields → ∀ (property : Property),
      ∀ error ∈ errorsOf set property.shape value (path.property key) 0, error.Tells inner →
        TracedFrom set ⟨property.shape, value, 0⟩ (path.property key) inner)
    (found : error ∈ errorsOf set (.ref name) (.record fields) path hops)
    (tells : error.Tells inner) : TracedFrom set ⟨.ref name, .record fields, hops⟩ path inner := by
  rw [errorsOf_record known body] at found
  rcases List.mem_append.mp found with inside | extra
  · rcases mem_errorsOfProperties inside with
      ⟨key, property, value, declared, present, below⟩ | ⟨key, absent, rfl⟩
    · have traced := under key value (Keyed.mem_of_get? present) property error below tells
      refine traced.step (.property hops known body declared present) ?_
      exact (congrArg (Option.bind · _) present).trans rfl
    · have lacks : key ∉ Keyed.keys fields := Keyed.get?_eq_none_iff.mp absent
      exact traced_of_mem_plain (List.mem_singleton_self _) tells trivial rfl ⟨fields, rfl, lacks⟩
  · obtain ⟨key, undeclared, rfl⟩ := List.mem_map.mp extra
    have has : key ∈ Keyed.keys fields := (List.mem_filter.mp undeclared).1
    exact traced_of_mem_plain (List.mem_singleton_self _) tells trivial rfl ⟨fields, rfl, has⟩

/-! ### Errors of whole values -/

/-- The induction follows the validator. A comparison either raises a plain error of its own, or
hands on one that has been traced from a comparison it leads to. -/
theorem traced_of_mem_errorsOf (shape : Shape) (node : Node) (path : Path) (hops : Nat)
    (error : ValidationError) (found : error ∈ errorsOf set shape node path hops)
    (tells : error.Tells inner) : TracedFrom set ⟨shape, node, hops⟩ path inner := by
  induction shape, node, hops using validation_induction set generalizing path error with
  | any => simp [errorsOf] at found
  | scalar kind node hops =>
    rw [errorsOf] at found
    split at found
    next => cases found
    next => exact traced_of_mem_plain found tells trivial rfl trivial
  | object node hops =>
    rw [errorsOf.eq_def] at found
    cases node with
    | record fields => cases found
    | _ => exact traced_of_mem_plain found tells trivial rfl trivial
  | enum values node hops =>
    rw [errorsOf] at found
    split at found
    next => cases found
    next => exact traced_of_mem_plain found tells trivial rfl trivial
  | array items node hops ih =>
    rw [errorsOf.eq_def] at found
    cases node with
    | array values =>
      obtain ⟨position, value, listed, inside⟩ := mem_errorsOfItems found
      rw [Nat.zero_add] at inside
      have member := List.mem_of_getElem? listed
      have traced := ih values rfl value member _ error inside tells
      refine traced.step (.item items hops member) ?_
      exact (congrArg (Option.bind · _) listed).trans rfl
    | _ => exact traced_of_mem_plain found tells trivial rfl trivial
  | missing name node hops unknown =>
    rw [errorsOf_missing unknown] at found
    refine traced_of_mem_singleton found tells rfl
      ⟨rfl, trivial, fun other same => ?_, fun nearest same => ?_⟩
    · cases same
      exact ⟨rfl, unknown⟩
    · cases same
  | record name type properties required aliases node hops known body ih =>
    cases node with
    | record fields =>
      exact traced_of_mem_record known body (fun key value member property error below tells =>
        ih fields rfl key value member property.shape _ error below tells) found tells
    | _ =>
      rw [errorsOf_unrecorded known body (by simp)] at found
      exact traced_of_mem_plain found tells trivial rfl trivial
  | union name type alternatives node hops known body ih =>
    rw [errorsOf_union known body] at found
    split at found
    -- Beyond the limit the chain of unions is the error.
    next within =>
      exact traced_of_mem_errorsOfUnion (.union known body within node)
        (fun alternative considered => ih within alternative considered.mem path) found tells
    next => exact traced_of_mem_plain found tells trivial rfl trivial
  | oneOf alternatives node hops ih =>
    rw [errorsOf] at found
    exact traced_of_mem_errorsOfUnion (.oneOf alternatives node hops)
      (fun alternative considered => ih alternative considered.mem path) found tells
  | decode format inner node hops ih =>
    rw [errorsOf] at found
    cases coded : node.isString with
    | true => simp [coded] at found
    | false =>
      simp only [coded, Bool.false_eq_true, if_false] at found
      exact (ih path error found tells).stay (.inner format inner hops coded) rfl

theorem traced_of_mem_validateShape {shape : Shape} {node : Node}
    (found : error ∈ validateShape set node shape path) (tells : error.Tells inner) :
    TracedFrom set ⟨shape, node, 0⟩ path inner := by
  rw [validateShape_eq] at found
  exact traced_of_mem_errorsOf shape node path 0 error found tells

end Validation

end DocSchema
