import DocSchema.Proofs.Coercion.Steps

/-!
# Runs that follow each other

A run is followed by another one, which is given enough fuel and starts with a related memory, if
the other returns the same outcome and leaves a related memory. Whether a run is followed is
decided at its unions, where the memory is asked; everything else goes through the parts of a
value. Main statement: `coerce_followed`. With equal memories it says that more fuel changes
nothing: `coerce_eventually`.
-/

namespace DocSchema.Coercion

variable {set : SchemaSet} {related : UnionMemory → UnionMemory → Prop}

/-! ### Outcomes under enough fuel -/

/-- Whether a run that is given enough fuel returns an outcome and leaves a memory that is
related to a given one. -/
def Eventually {α : Type} (related : UnionMemory → UnionMemory → Prop) (outcome : α)
    (after : UnionMemory) (run : Nat → Option (α × UnionMemory)) : Prop :=
  ∃ last, related after last ∧ ∃ enough, ∀ fuel, enough ≤ fuel → run fuel = some (outcome, last)

section Eventually

variable {α β : Type} {outcome : α} {result : β} {between after last : UnionMemory}
  {run : Nat → Option (α × UnionMemory)} {more : Nat → Option (β × UnionMemory)}

theorem Eventually.now (kept : related after last)
    (ran : ∀ fuel, run fuel = some (outcome, last)) : Eventually related outcome after run :=
  ⟨last, kept, 0, fun fuel _ => ran fuel⟩

/-- What is made of an outcome at once is returned as well. -/
theorem Eventually.map (first : Eventually related outcome after run)
    (next : ∀ fuel last, run fuel = some (outcome, last) → more fuel = some (result, last)) :
    Eventually related result after more := by
  obtain ⟨last, kept, enough, ran⟩ := first
  exact ⟨last, kept, enough, fun fuel bound => next fuel last (ran fuel bound)⟩

/-- Of two runs in a row both return with the fuel that is enough for either. -/
theorem Eventually.bind {γ : Type} {value : γ}
    {second : UnionMemory → Nat → Option (γ × UnionMemory)}
    (first : Eventually related outcome between run)
    (next : ∀ middle, related between middle → Eventually related value after (second middle))
    (joins : ∀ fuel middle last, run fuel = some (outcome, middle) →
      second middle fuel = some (value, last) → more fuel = some (result, last)) :
    Eventually related result after more := by
  obtain ⟨middle, kept, enough, ran⟩ := first
  obtain ⟨last, still, later, continued⟩ := next middle kept
  -- The fuel is handed to both runs as it is, so the larger need decides.
  refine ⟨last, still, max enough later, fun fuel bound => ?_⟩
  exact joins fuel middle last (ran fuel (by omega)) (continued fuel (by omega))

/-- The outcome is the one that any sufficient fuel gives. -/
theorem Eventually.unique {other : α} {also : UnionMemory}
    (first : Eventually related outcome after run) (second : Eventually related other also run) :
    outcome = other := by
  obtain ⟨_, _, enough, ran⟩ := first
  obtain ⟨_, _, later, again⟩ := second
  -- With the fuel that is enough for either, both statements are about one run.
  have same := (ran (max enough later) (by omega)).symm.trans (again _ (by omega))
  simp only [Option.some.injEq, Prod.mk.injEq] at same
  exact same.1

end Eventually

/-! ### Parts -/

theorem coerceItems_followed
    {step : Nat → Node → UnionMemory → Option (Coerced × UnionMemory)}
    {steps : Nat → Nat → Node → UnionMemory → Option (Coerced × UnionMemory)} {values : List Node}
    {position : Nat}
    (each : ∀ place value memory other coerced after, values[place]? = some value →
      related memory other → step (position + place) value memory = some (coerced, after) →
      Eventually related coerced after fun fuel => steps fuel (position + place) value other)
    {memory other after : UnionMemory} {gathered : Gathered Node} (start : related memory other)
    (returned : coerceItems step position values memory = some (gathered, after)) :
    Eventually related gathered after fun fuel =>
      coerceItems (steps fuel) position values other := by
  induction values generalizing position memory other after gathered with
  | nil =>
    cases returned
    exact .now start fun _ => rfl
  | cons value rest ih =>
    obtain ⟨first, between, later, ran, others, rfl⟩ := coerceItems_cons_iff.mp returned
    -- The first item leaves related memories, and the others start from these.
    have here := each 0 value memory other first between rfl start ran
    have shifted : ∀ place inner memory other coerced after, rest[place]? = some inner →
        related memory other →
        step (position + 1 + place) inner memory = some (coerced, after) →
        Eventually related coerced after fun fuel =>
          steps fuel (position + 1 + place) inner other := by
      intro place
      rw [Nat.add_assoc, Nat.add_comm 1]
      exact each (place + 1)
    exact here.bind (fun middle kept => ih shifted kept others)
      fun fuel middle last stepped gathered =>
        coerceItems_cons_iff.mpr ⟨first, middle, later, stepped, gathered, rfl⟩

theorem coerceFields_followed {type : TypeSchema} {path : Path}
    {step : String → Property → Node → UnionMemory → Option (Coerced × UnionMemory)}
    {steps : Nat → String → Property → Node → UnionMemory → Option (Coerced × UnionMemory)}
    {fields : List (String × Node)}
    (each : ∀ key property value memory other coerced after, (key, value) ∈ fields →
      type.property? key = some property → related memory other →
      step key property value memory = some (coerced, after) →
      Eventually related coerced after fun fuel => steps fuel key property value other)
    {memory other after : UnionMemory} {gathered : Gathered (String × Node)}
    (start : related memory other)
    (returned : coerceFields type path step fields memory = some (gathered, after)) :
    Eventually related gathered after fun fuel =>
      coerceFields type path (steps fuel) fields other := by
  induction fields generalizing memory other after gathered with
  | nil =>
    cases returned
    exact .now start fun _ => rfl
  | cons field rest ih =>
    obtain ⟨key, value⟩ := field
    have later {memory other last : UnionMemory} {others : Gathered (String × Node)}
        (kept : related memory other)
        (ran : coerceFields type path step rest memory = some (others, last)) :=
      ih (fun key property value memory other coerced after member =>
        each key property value memory other coerced after (List.mem_cons_of_mem _ member)) kept ran
    cases coerceFields_cons_iff.mp returned with
    | dropped undeclared others =>
      -- Undeclared fields are dropped without a step.
      exact (later start others).map fun fuel last gathered =>
        coerceFields_cons_iff.mpr (.dropped undeclared gathered)
    | kept declares ran others =>
      have here := each key _ value memory other _ _ List.mem_cons_self declares start ran
      exact here.bind (fun middle kept => later kept others)
        fun fuel middle last stepped gathered =>
          coerceFields_cons_iff.mpr (.kept declares stepped gathered)

/-! ### Unions -/

/-- The calls that a run may make for values and for unions, as far as they matter: from a call
that is allowed only allowed ones are made. -/
structure Closed (set : SchemaSet) (allowed : Place → Shape → Path → Nat → Node → Prop)
    (asked : Place → List Shape → Path → Nat → Node → Prop) : Prop where
  item : ∀ place items path hops node position value, allowed place (.array items) path hops node →
    (itemsOf node)[position]? = some value →
    allowed place.items items (path.index position) 0 value
  field : ∀ place name path hops node type fields target key value property,
    allowed place (.ref name) path hops node → set.recordType? name = some type →
    unwrapSingleton node = .record fields → recordTarget? set fields name = some target →
    (key, value) ∈ fields → target.schema.property? key = some property →
    allowed (.property target.schema.name key) property.shape (path.property key) 0 value
  inner : ∀ place format inner path hops node, allowed place (.decode format inner) path hops node →
    node.isString = false → allowed place.inner inner path hops node
  union : ∀ place name path hops node type alternatives, allowed place (.ref name) path hops node →
    set.find? name = some type → type.schema.body = .union alternatives → hops < set.limit →
    asked (.union name) alternatives path (hops + 1) node
  oneOf : ∀ place alternatives path hops node, allowed place (.oneOf alternatives) path hops node →
    asked place alternatives path hops node
  only : ∀ place alternatives path hops node alternative position,
    asked place alternatives path hops node →
    matching set alternatives node = [(alternative, position)] →
    allowed (place.alternative position) alternative path hops node
  named : ∀ place alternatives path hops node alternative position,
    asked place alternatives path hops node → matching set alternatives node = [] →
    namedWithPosition? alternatives node = some (alternative, position) →
    allowed (place.alternative position) alternative path hops node
  tried : ∀ place alternatives path hops node alternative position,
    asked place alternatives path hops node → matching set alternatives node = [] →
    namedWithPosition? alternatives node = none → (alternative, position) ∈ alternatives.zipIdx →
    allowed (place.alternative position) alternative path hops
      (reshape set alternative path node).value

theorem closed_everything : Closed set (fun _ _ _ _ _ => True) (fun _ _ _ _ _ => True) := by
  constructor <;> intros <;> trivial

/-- Whether the outcomes of a step are those of others that are given enough fuel. -/
def Followed (related : UnionMemory → UnionMemory → Prop)
    (allowed : Place → Shape → Path → Nat → Node → Prop) (step : Step) (steps : Nat → Step) :
    Prop :=
  ∀ place shape path hops node memory other coerced after, allowed place shape path hops node →
    related memory other → step place shape path hops node memory = some (coerced, after) →
    Eventually related coerced after fun fuel => steps fuel place shape path hops node other

section Union

variable {allowed : Place → Shape → Path → Nat → Node → Prop}
  {asked : Place → List Shape → Path → Nat → Node → Prop} {step : Step} {steps : Nat → Step}
  {place : Place} {alternatives : List Shape} {path : Path} {hops : Nat} {node : Node}
  {memory other after : UnionMemory}

theorem trial_followed (followed : Followed related allowed step steps) {alternative : Shape}
    (allows : allowed place alternative path hops (reshape set alternative path node).value)
    {coerced : Coerced} (start : related memory other)
    (returned : trial set step place path hops alternative node memory = some (coerced, after)) :
    Eventually related coerced after fun fuel =>
      trial set (steps fuel) place path hops alternative node other := by
  obtain ⟨outcome, stepped, rfl⟩ := trial_iff.mp returned
  have here := followed _ _ _ _ _ _ _ _ _ allows start stepped
  exact here.map fun fuel last ran => trial_iff.mpr ⟨outcome, ran, rfl⟩

theorem tryAlternatives_followed (followed : Followed related allowed step steps)
    {untried : List (Shape × Nat)}
    (allows : ∀ alternative position, (alternative, position) ∈ untried →
      allowed (place.alternative position) alternative path hops
        (reshape set alternative path node).value)
    {best outcome : Option Coerced} (start : related memory other)
    (returned : tryAlternatives set step place alternatives path hops node best untried memory =
      some (outcome, after)) :
    Eventually related outcome after fun fuel =>
      tryAlternatives set (steps fuel) place alternatives path hops node best untried other := by
  induction untried generalizing best memory other with
  | nil =>
    cases returned
    exact .now start fun _ => rfl
  | cons first rest ih =>
    obtain ⟨alternative, position⟩ := first
    have later := fun other place member => allows other place (List.mem_cons_of_mem _ member)
    have tried {candidate : Coerced} {between : UnionMemory}
        (ran : trial set step (place.alternative position) path hops alternative node memory =
          some (candidate, between)) :=
      trial_followed followed (allows alternative position List.mem_cons_self) start ran
    -- Both runs have the same candidate, so they go the same way from here.
    cases tryAlternatives_cons_iff.mp returned with
    | lossless ran unique lossless =>
      exact (tried ran).map fun fuel last ran =>
        tryAlternatives_cons_iff.mpr (.lossless ran unique lossless)
    | lossy ran unique lossy others =>
      exact (tried ran).bind (fun middle kept => ih later kept others)
        fun fuel middle last ran found =>
          tryAlternatives_cons_iff.mpr (.lossy ran unique lossy found)
    | refused ran ambiguous others =>
      exact (tried ran).bind (fun middle kept => ih later kept others)
        fun fuel middle last ran found =>
          tryAlternatives_cons_iff.mpr (.refused ran ambiguous found)

theorem settle_followed (closed : Closed set allowed asked)
    (followed : Followed related allowed step steps)
    (asks : asked place alternatives path hops node) {coerced : Coerced}
    (start : related memory other)
    (returned : settle set step place alternatives path hops node memory =
      some (coerced, after)) :
    Eventually related coerced after fun fuel =>
      settle set (steps fuel) place alternatives path hops node other := by
  -- Which alternatives are looked at depends on the value, not on the memory.
  cases settle_iff.mp returned with
  | only only ran =>
    have allows := closed.only _ _ _ _ _ _ _ asks only
    have here := followed _ _ _ _ _ _ _ _ _ allows start ran
    exact here.map fun fuel last ran => settle_iff.mpr (.only only ran)
  | named unmatched named ran =>
    have allows := closed.named _ _ _ _ _ _ _ asks unmatched named
    have here := followed _ _ _ _ _ _ _ _ _ allows start ran
    exact here.map fun fuel last ran => settle_iff.mpr (.named unmatched named ran)
  | searched unmatched unnamed ran =>
    have here := tryAlternatives_followed followed (fun alternative position member =>
      closed.tried _ _ _ _ _ _ _ asks unmatched unnamed member) start ran
    exact here.map fun fuel last ran => settle_iff.mpr (.searched unmatched unnamed ran)
  | several several => exact .now start fun fuel => settle_several several

end Union

/-! ### Whole values -/

/-- Whether unions are settled alike, if values are coerced alike. -/
def UnionsFollowed (set : SchemaSet) (related : UnionMemory → UnionMemory → Prop)
    (allowed : Place → Shape → Path → Nat → Node → Prop)
    (asked : Place → List Shape → Path → Nat → Node → Prop) : Prop :=
  ∀ fuel, Followed related allowed (coerce set fuel) (coerce set) →
    ∀ place alternatives path hops node memory other coerced after,
      asked place alternatives path hops node → related memory other →
      coerceUnion set (coerce set fuel) place alternatives path hops node memory =
        some (coerced, after) →
      Eventually related coerced after fun fuel =>
        coerceUnion set (coerce set fuel) place alternatives path hops node other

/-- One unit of fuel is spent on the shape itself. -/
theorem Eventually.later {outcome : Coerced} {after : UnionMemory}
    {run : Nat → Option (Coerced × UnionMemory)}
    (first : Eventually related outcome after fun fuel => run (fuel + 1)) :
    Eventually related outcome after run := by
  obtain ⟨last, kept, enough, ran⟩ := first
  refine ⟨last, kept, enough + 1, fun fuel bound => ?_⟩
  obtain ⟨less, rfl⟩ := Nat.exists_eq_add_of_le' (Nat.le_trans (Nat.le_add_left 1 enough) bound)
  exact ran less (by omega)

/-- The induction is on the fuel of the run that is followed. -/
theorem coerce_followed {allowed : Place → Shape → Path → Nat → Node → Prop}
    {asked : Place → List Shape → Path → Nat → Node → Prop} (closed : Closed set allowed asked)
    (unions : UnionsFollowed set related allowed asked) (fuel : Nat) :
    Followed related allowed (coerce set fuel) (coerce set) := by
  induction fuel with
  | zero =>
    intro place shape path hops node memory other coerced after _ _ ran
    cases ran
  | succ fuel ih =>
    intro place shape path hops node memory other coerced after allows start ran
    apply Eventually.later
    cases coerce_succ_iff.mp ran with
    | any | scalar | object | enum => exact .now start fun _ => rfl
    | @array items inside _ parts =>
      have gathered : Eventually related inside after fun fuel => coerceItems
          (fun position value => coerce set fuel place.items items (path.index position) 0 value)
          0 (itemsOf node) other := by
        refine coerceItems_followed (fun position value memory other coerced after found kept
          stepped => ?_) start parts
        rw [Nat.zero_add] at stepped ⊢
        have allowsItem := closed.item _ _ _ _ _ _ _ allows found
        exact ih _ _ _ _ _ _ _ _ _ allowsItem kept stepped
      exact gathered.map fun fuel last done => coerce_succ_iff.mpr (.array done)
    | missing missing => exact .now start fun _ => coerce_succ_iff.mpr (.missing missing)
    -- Unions are the only place where the memories are looked at.
    | union found body within ran =>
      have asks := closed.union _ _ _ _ _ _ _ allows found body within
      have settled := unions _ ih _ _ _ _ _ _ _ _ _ asks start ran
      exact settled.map fun fuel last done => coerce_succ_iff.mpr (.union found body within done)
    | beyond found body beyond =>
      exact .now start fun _ => coerce_succ_iff.mpr (.beyond found body beyond)
    -- The memory is handed through the fields; the rest is decided by the types.
    | @record _ _ target fields inside _ known unwrapped aimed parts =>
      have gathered : Eventually related inside after fun fuel =>
          coerceFields target.schema path (fun key property value =>
            coerce set fuel (.property target.schema.name key) property.shape
              (path.property key) 0 value) fields other := by
        refine coerceFields_followed (fun key property value memory other coerced after
          member declares kept stepped => ?_) start parts
        have allowsField := closed.field _ _ _ _ _ _ _ _ _ _ _ allows known unwrapped
          aimed member declares
        exact ih _ _ _ _ _ _ _ _ _ allowsField kept stepped
      exact gathered.map fun fuel last done =>
        coerce_succ_iff.mpr (.record known unwrapped aimed done)
    | other known different =>
      exact .now start fun _ => coerce_succ_iff.mpr (.other known different)
    | oneOf ran =>
      have asks := closed.oneOf _ _ _ _ _ allows
      exact unions _ ih _ _ _ _ _ _ _ _ _ asks start ran
    | text text => exact .now start fun _ => coerce_succ_iff.mpr (.text text)
    | decode coded ran =>
      have allowsInner := closed.inner _ _ _ _ _ _ allows coded
      have here := ih _ _ _ _ _ _ _ _ _ allowsInner start ran
      exact here.map fun fuel last done => coerce_succ_iff.mpr (.decode coded done)

/-! ### More fuel -/

theorem unionsFollowed_same :
    UnionsFollowed set Eq (fun _ _ _ _ _ => True) (fun _ _ _ _ _ => True) := by
  intro fuel followed place alternatives path hops node memory other coerced after _ same ran
  subst same
  rcases coerceUnion_iff.mp ran with ⟨known, rfl⟩ | ⟨missed, between, settled, rfl⟩
  · exact .now rfl fun _ => coerceUnion_iff.mpr (.inl ⟨known, rfl⟩)
  · obtain ⟨_, rfl, enough, returned⟩ :=
      settle_followed closed_everything followed trivial rfl settled
    exact ⟨_, rfl, enough, fun fuel bound =>
      coerceUnion_iff.mpr (.inr ⟨missed, between, returned fuel bound, rfl⟩)⟩

/-- A run that returns does so with any fuel that is large enough. -/
theorem coerce_eventually {fuel : Nat} {place : Place} {shape : Shape} {path : Path} {hops : Nat}
    {node : Node} {memory after : UnionMemory} {coerced : Coerced}
    (ran : coerce set fuel place shape path hops node memory = some (coerced, after)) :
    Eventually Eq coerced after fun fuel => coerce set fuel place shape path hops node memory :=
  coerce_followed closed_everything unionsFollowed_same fuel _ _ _ _ _ _ _ _ _ trivial rfl ran

/-- A union that was settled is settled so with any fuel that is large enough. -/
theorem settle_eventually {fuel : Nat} {place : Place} {alternatives : List Shape} {path : Path}
    {hops : Nat} {node : Node} {memory after : UnionMemory} {coerced : Coerced}
    (ran : settle set (coerce set fuel) place alternatives path hops node memory =
      some (coerced, after)) :
    Eventually Eq coerced after fun fuel =>
      settle set (coerce set fuel) place alternatives path hops node memory :=
  settle_followed closed_everything
    (coerce_followed closed_everything unionsFollowed_same fuel) trivial rfl ran

/-- The outcome of a coercion does not depend on the fuel. -/
theorem coerceTreeWith_unique {fuel more : Nat} {memory : UnionMemory} {node : Node} {shape : Shape}
    {path : Path} {coerced other : Coerced}
    (ran : coerceTreeWith set fuel memory node shape path = some coerced)
    (again : coerceTreeWith set more memory node shape path = some other) : coerced = other := by
  simp only [coerceTreeWith, coerceReshaped, Option.map_eq_some_iff] at ran again
  obtain ⟨outcome, ⟨⟨inside, after⟩, ran, rfl⟩, rfl⟩ := ran
  obtain ⟨outcome, ⟨⟨inside, after⟩, again, rfl⟩, rfl⟩ := again
  rw [(coerce_eventually ran).unique (coerce_eventually again)]

theorem coerceTree_unique {fuel more : Nat} {node : Node} {shape : Shape} {path : Path}
    {coerced other : Coerced} (ran : coerceTree set fuel node shape path = some coerced)
    (again : coerceTree set more node shape path = some other) : coerced = other :=
  coerceTreeWith_unique ran again

/-- A tree that was coerced is coerced so with any fuel that is large enough. -/
theorem coerceTree_eventually {fuel : Nat} {node : Node} {shape : Shape} {path : Path}
    {coerced : Coerced} (ran : coerceTree set fuel node shape path = some coerced) :
    ∃ enough, ∀ more, enough ≤ more → coerceTree set more node shape path = some coerced := by
  simp only [coerceTree, coerceTreeWith, coerceReshaped, Option.map_eq_some_iff] at ran
  obtain ⟨outcome, ⟨⟨inside, after⟩, ran, rfl⟩, rfl⟩ := ran
  obtain ⟨last, _, enough, returned⟩ := coerce_eventually ran
  refine ⟨enough, fun more bound => ?_⟩
  simp only [coerceTree, coerceTreeWith, coerceReshaped, returned more bound, Option.map_some]

end DocSchema.Coercion
