import DocSchema.Proofs.Coercion.Steps

/-!
# Places and parts

The place of a shape says where it is written, so a union that is met again at its place has the
same alternatives. When the coercion of an array or of a record has returned, so have those of
the parts, each with the memory that the parts before it have left; and so have the alternatives
that a union was settled by. Main statements: `coerceItems_returned`, `coerceFields_returned` and
`coerceUnion_returned`.
-/

namespace DocSchema

/-! ### The shapes written at places -/

/-- The alternatives that a shape stands for. -/
def Shape.alternativesIn? (set : SchemaSet) : Shape → Option (List Shape)
  | .oneOf alternatives => some alternatives
  | .ref name => (set.find? name).bind fun type => type.schema.alternatives?
  | _ => none

namespace Coercion

/-- The shape written at a place, in a run that starts with a given shape. -/
def Place.shape? (set : SchemaSet) (given : Shape) : Place → Option Shape
  | .given => some given
  | .property type name =>
    (set.find? type).bind fun type => (type.schema.property? name).map (·.shape)
  | .union type => some (.ref type)
  | .items outer =>
    match outer.shape? set given with
    | some (.array shape) => some shape
    | _ => none
  | .inner outer =>
    match outer.shape? set given with
    | some (.decode _ shape) => some shape
    | _ => none
  | .alternative outer position =>
    ((outer.shape? set given).bind (Shape.alternativesIn? set)).bind (·[position]?)

variable {set : SchemaSet} {given : Shape}

theorem shape?_discriminated (discriminated : set.Discriminated) (obeys : given.Discriminated set)
    {place : Place} {shape : Shape} (written : place.shape? set given = some shape) :
    shape.Discriminated set := by
  -- The rule holds of the given shape and of all that a type declares, and passes on to the shapes
  -- inside one.
  induction place generalizing shape with
  | given =>
    cases written
    exact obeys
  | property type name =>
    simp only [Place.shape?, Option.bind_eq_some_iff, Option.map_eq_some_iff] at written
    obtain ⟨found, known, property, declares, rfl⟩ := written
    exact discriminated.property known declares
  | union type =>
    cases written
    trivial
  | items outer ih =>
    simp only [Place.shape?] at written
    split at written
    next inside =>
      cases written
      have around := ih inside
      exact around
    next => cases written
  | inner outer ih =>
    simp only [Place.shape?] at written
    split at written
    next inside =>
      cases written
      have around := ih inside
      exact around
    next => cases written
  | alternative outer position ih =>
    simp only [Place.shape?, Option.bind_eq_some_iff] at written
    obtain ⟨alternatives, ⟨around, inside, stands⟩, found⟩ := written
    have member := List.mem_of_getElem? found
    cases around with
    | oneOf others =>
      cases stands
      exact (ih inside shape member).discriminated
    | ref name =>
      simp only [Shape.alternativesIn?, Option.bind_eq_some_iff] at stands
      obtain ⟨type, known, union⟩ := stands
      cases body : type.schema.body with
      | record properties required aliases => simp [TypeSchema.alternatives?, body] at union
      | union others =>
        simp only [TypeSchema.alternatives?, body, Option.some.injEq] at union
        exact (discriminated.alternative known body (union ▸ member)).discriminated
    | _ => cases stands

theorem shape?_alternative {place : Place} {shape alternative : Shape} {alternatives : List Shape}
    {position : Nat} (written : place.shape? set given = some shape)
    (stands : shape.alternativesIn? set = some alternatives)
    (found : alternatives[position]? = some alternative) :
    (place.alternative position).shape? set given = some alternative := by
  simp [Place.shape?, written, stands, found]

/-! ### Parts -/

theorem distinctKeys_itemsOf {node value : Node} (distinct : node.distinctKeys = true)
    (member : value ∈ itemsOf node) : value.distinctKeys = true := by
  cases node with
  | array values => exact Node.distinctKeys_array_iff.mp distinct value member
  | _ =>
    rw [List.mem_singleton.mp member]
    exact distinct

theorem coerceItems_returned {step : Nat → Node → UnionMemory → Option (Coerced × UnionMemory)}
    {values : List Node} {holds : UnionMemory → Prop} {good : Node → Prop}
    (each : ∀ position value memory coerced after, value ∈ values → holds memory →
      step position value memory = some (coerced, after) → good coerced.node ∧ holds after)
    {position : Nat} {memory after : UnionMemory} {gathered : Gathered Node} (start : holds memory)
    (returned : coerceItems step position values memory = some (gathered, after)) :
    (∀ result ∈ gathered.values, good result) ∧ holds after := by
  induction values generalizing position memory after gathered with
  | nil =>
    cases returned
    exact ⟨by simp, start⟩
  | cons value rest ih =>
    obtain ⟨first, between, later, ran, others, rfl⟩ := coerceItems_cons_iff.mp returned
    obtain ⟨fine, held⟩ := each position value memory first between List.mem_cons_self start ran
    obtain ⟨all, still⟩ := ih (fun position other memory coerced after member =>
      each position other memory coerced after (List.mem_cons_of_mem _ member)) held others
    exact ⟨List.forall_mem_cons.mpr ⟨fine, all⟩, still⟩

/-- What is known of the fields that properties were coerced to: the order of the keys is kept,
every field comes of one, and every declared field has its outcome. -/
structure FieldsCoerced (type : TypeSchema) (good : String → Property → Node → Node → Prop)
    (fields results : List (String × Node)) : Prop where
  order : (Keyed.keys results).Sublist (Keyed.keys fields)
  source : ∀ key result, (key, result) ∈ results → ∃ value property,
    (key, value) ∈ fields ∧ type.property? key = some property ∧ good key property value result
  outcome : ∀ key value property, (key, value) ∈ fields → type.property? key = some property →
    ∃ result, (key, result) ∈ results ∧ good key property value result

section Fields

variable {type : TypeSchema} {good : String → Property → Node → Node → Prop} {key : String}
  {value result : Node} {rest results : List (String × Node)}

/-- An undeclared field is left out, and nothing is claimed of it. -/
theorem FieldsCoerced.dropped (made : FieldsCoerced type good rest results)
    (undeclared : type.property? key = none) :
    FieldsCoerced type good ((key, value) :: rest) results := by
  refine ⟨made.order.cons _, ?_, ?_⟩
  · intro other result member
    obtain ⟨value, property, listed, known⟩ := made.source other result member
    exact ⟨value, property, List.mem_cons_of_mem _ listed, known⟩
  · intro other inner property member declares
    rcases List.mem_cons.mp member with same | listed
    · cases same
      rw [undeclared] at declares
      cases declares
    · exact made.outcome other inner property listed declares

theorem FieldsCoerced.kept {property : Property} (made : FieldsCoerced type good rest results)
    (declares : type.property? key = some property) (fine : good key property value result) :
    FieldsCoerced type good ((key, value) :: rest) ((key, result) :: results) := by
  refine ⟨made.order.cons_cons _, ?_, ?_⟩
  · intro other outcome member
    rcases List.mem_cons.mp member with same | listed
    · cases same
      exact ⟨value, property, List.mem_cons_self, declares, fine⟩
    · obtain ⟨value, property, given, known⟩ := made.source other outcome listed
      exact ⟨value, property, List.mem_cons_of_mem _ given, known⟩
  · intro other inner declared member also
    rcases List.mem_cons.mp member with same | listed
    · cases same
      rw [declares] at also
      cases also
      exact ⟨result, List.mem_cons_self, fine⟩
    · obtain ⟨outcome, made, known⟩ := made.outcome other inner declared listed also
      exact ⟨outcome, List.mem_cons_of_mem _ made, known⟩

end Fields

theorem coerceFields_returned {type : TypeSchema} {path : Path}
    {step : String → Property → Node → UnionMemory → Option (Coerced × UnionMemory)}
    {fields : List (String × Node)} {holds : UnionMemory → Prop}
    (good : String → Property → Node → Node → Prop)
    (each : ∀ key property value memory coerced after, (key, value) ∈ fields →
      type.property? key = some property → holds memory →
      step key property value memory = some (coerced, after) →
      good key property value coerced.node ∧ holds after)
    {memory after : UnionMemory} {gathered : Gathered (String × Node)} (start : holds memory)
    (returned : coerceFields type path step fields memory = some (gathered, after)) :
    FieldsCoerced type good fields gathered.values ∧ holds after := by
  induction fields generalizing memory after gathered with
  | nil =>
    cases returned
    exact ⟨⟨.refl _, by simp, by simp⟩, start⟩
  | cons field rest ih =>
    obtain ⟨key, value⟩ := field
    have later {memory last : UnionMemory} {others : Gathered (String × Node)} (held : holds memory)
        (ran : coerceFields type path step rest memory = some (others, last)) :=
      ih (fun key property value memory coerced after member =>
        each key property value memory coerced after (List.mem_cons_of_mem _ member)) held ran
    cases coerceFields_cons_iff.mp returned with
    | dropped undeclared others =>
      obtain ⟨made, still⟩ := later start others
      exact ⟨made.dropped undeclared, still⟩
    | kept declares ran others =>
      obtain ⟨fine, held⟩ := each key _ value memory _ _ List.mem_cons_self declares start ran
      obtain ⟨made, still⟩ := later held others
      exact ⟨made.kept declares fine, still⟩

/-- Whatever is made of the values, the keys are those that are declared. -/
theorem coerceFields_keys {type : TypeSchema} {path : Path}
    {step : String → Property → Node → UnionMemory → Option (Coerced × UnionMemory)}
    {fields : List (String × Node)} {memory after : UnionMemory}
    {gathered : Gathered (String × Node)}
    (returned : coerceFields type path step fields memory = some (gathered, after)) :
    FieldsCoerced type (fun _ _ _ _ => True) fields gathered.values := by
  have every : ∀ key property value memory coerced after, (key, value) ∈ fields →
      type.property? key = some property → True →
      step key property value memory = some (coerced, after) → True ∧ True := by
    intros
    exact ⟨trivial, trivial⟩
  exact (coerceFields_returned (fun _ _ _ _ => True) every trivial returned).1

/-! ### Unions -/

section Union

variable {step : Step} {place : Place} {alternatives : List Shape} {path : Path} {hops : Nat}
  {node : Node} {good : Coerced → Prop} {holds : UnionMemory → Prop} {memory after : UnionMemory}

/-- What is good stays so when a candidate is compared with it. -/
theorem lessLossy_good {best : Option Coerced} {candidate : Coerced} (found : good candidate)
    (fine : ∀ current, best = some current → good current) : good (lessLossy best candidate) := by
  unfold lessLossy
  split
  next => exact found
  next current =>
    split
    next => exact found
    next => exact fine current rfl

/-- Only a candidate that matches its own alternative and no other one is kept. -/
theorem tryAlternatives_returned {untried : List (Shape × Nat)} {best outcome : Option Coerced}
    (tried : ∀ alternative position memory coerced after, (alternative, position) ∈ untried →
      holds memory → trial set step (place.alternative position) path hops alternative node memory =
        some (coerced, after) →
      (isUnique set alternatives alternative coerced.node = true → good coerced) ∧ holds after)
    (fine : ∀ candidate, best = some candidate → good candidate) (start : holds memory)
    (returned : tryAlternatives set step place alternatives path hops node best untried memory =
      some (outcome, after)) :
    (∀ candidate, outcome = some candidate → good candidate) ∧ holds after := by
  induction untried generalizing best memory with
  | nil =>
    cases returned
    exact ⟨fine, start⟩
  | cons first rest ih =>
    obtain ⟨alternative, position⟩ := first
    have later := fun other place memory coerced after member =>
      tried other place memory coerced after (List.mem_cons_of_mem _ member)
    have better {candidate : Coerced} (found : good candidate) :
        ∀ other, some (lessLossy best candidate) = some other → good other := by
      rintro _ ⟨⟩
      exact lessLossy_good found fine
    cases tryAlternatives_cons_iff.mp returned with
    | lossless ran unique lossless =>
      obtain ⟨found, held⟩ := tried alternative position memory _ _ List.mem_cons_self start ran
      exact ⟨better (found unique), held⟩
    | lossy ran unique lossy others =>
      obtain ⟨found, held⟩ := tried alternative position memory _ _ List.mem_cons_self start ran
      exact ih later (better (found unique)) held others
    | refused ran ambiguous others =>
      obtain ⟨-, held⟩ := tried alternative position memory _ _ List.mem_cons_self start ran
      exact ih later fine held others

theorem settle_returned (stays : good (unchanged node))
    (within : ∀ alternative position memory coerced after, (alternative, position) ∈
      alternatives.zipIdx → holds memory →
      step (place.alternative position) alternative path hops node memory =
        some (coerced, after) → good coerced ∧ holds after)
    (tried : ∀ alternative position memory coerced after, (alternative, position) ∈
      alternatives.zipIdx → holds memory →
      trial set step (place.alternative position) path hops alternative node memory =
        some (coerced, after) → good coerced ∧ holds after)
    {coerced : Coerced} (start : holds memory)
    (returned : settle set step place alternatives path hops node memory =
      some (coerced, after)) : good coerced ∧ holds after := by
  cases settle_iff.mp returned with
  | only only ran => exact within _ _ _ _ _ (mem_zipIdx_of_only only) start ran
  | named unmatched named ran => exact within _ _ _ _ _ (mem_zipIdx_of_named named) start ran
  | @searched best _ unmatched unnamed ran =>
    have kept : ∀ alternative position memory coerced after,
        (alternative, position) ∈ alternatives.zipIdx → holds memory →
        trial set step (place.alternative position) path hops alternative node memory =
          some (coerced, after) →
        (isUnique set alternatives alternative coerced.node = true → good coerced) ∧
          holds after := by
      intro alternative position memory coerced after member held ran
      obtain ⟨fine, still⟩ := tried alternative position memory coerced after member held ran
      exact ⟨fun _ => fine, still⟩
    obtain ⟨candidates, held⟩ := tryAlternatives_returned kept (by simp) start ran
    refine ⟨?_, held⟩
    cases best with
    | some candidate => exact candidates candidate rfl
    | none => exact stays
  | several => exact ⟨stays, start⟩

/-- What a union was coerced to was remembered, or is the value itself, or was returned for an
alternative, the value being reshaped before or not. -/
theorem coerceUnion_returned (stays : good (unchanged node))
    (within : ∀ alternative position memory coerced after, (alternative, position) ∈
      alternatives.zipIdx → holds memory →
      step (place.alternative position) alternative path hops node memory =
        some (coerced, after) → good coerced ∧ holds after)
    (tried : ∀ alternative position memory coerced after, (alternative, position) ∈
      alternatives.zipIdx → holds memory →
      trial set step (place.alternative position) path hops alternative node memory =
        some (coerced, after) → good coerced ∧ holds after)
    (recalled : ∀ memory outcome, holds memory →
      memory.known? (unionKey place alternatives path hops) node = some outcome → good outcome)
    (filed : ∀ memory outcome, holds memory → good outcome →
      holds (memory.remember (unionKey place alternatives path hops) node outcome))
    {coerced : Coerced} (start : holds memory)
    (returned : coerceUnion set step place alternatives path hops node memory =
      some (coerced, after)) : good coerced ∧ holds after := by
  rcases coerceUnion_iff.mp returned with ⟨known, rfl⟩ | ⟨-, between, settled, rfl⟩
  · exact ⟨recalled _ coerced start known, start⟩
  · obtain ⟨fine, held⟩ := settle_returned stays within tried start settled
    exact ⟨fine, filed between coerced held fine⟩

end Union

end Coercion

end DocSchema
