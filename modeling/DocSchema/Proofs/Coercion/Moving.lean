import DocSchema.Proofs.Coercion.Memory
import DocSchema.Coercion.Tree
import DocSchema.Proofs.Coercion.Reshaping

/-!
# Values that stand elsewhere

A run that starts at another path, with a shape that is written at another place, does the same to
its value; only what it tells of has the path in front. Both runs keep outcomes under keys that
correspond to each other, so either finds one exactly where the other does. Main statements:
`reshape_under`, `coerce_moved` and `coerceTree_under`.
-/

namespace DocSchema

/-! ### What is reported -/

/-- The warning about a tree that is found at a path and not at the root. -/
def Warning.under (above : Path) : Warning → Warning
  | unknownProperty property path => unknownProperty property (above ++ path)
  | duplicateProperty property canonical path =>
    duplicateProperty property canonical (above ++ path)
  | cardinalityReduced property discarded path =>
    cardinalityReduced property discarded (above ++ path)
  | decodeUnavailable format path => decodeUnavailable format (above ++ path)
  | decodeFailed format message path => decodeFailed format message (above ++ path)

theorem Warning.isDropped_under (above : Path) (warning : Warning) :
    (warning.under above).isDropped = warning.isDropped := by
  cases warning <;> rfl

/-- The site in a tree that is found at a path and not at the root. -/
def DecodeSite.under (above : Path) (site : DecodeSite) : DecodeSite :=
  { site with path := above ++ site.path }

/-- What a tree becomes that is found at a path and not at the root. -/
def Coerced.under (above : Path) (coerced : Coerced) : Coerced :=
  ⟨coerced.node, coerced.warnings.map (·.under above), coerced.sites.map (·.under above)⟩

namespace Coercion

def Reshaped.under {α : Type} (above : Path) (reshaped : Reshaped α) : Reshaped α :=
  ⟨reshaped.value, reshaped.warnings.map (·.under above)⟩

def Gathered.under {α : Type} (above : Path) (gathered : Gathered α) : Gathered α :=
  ⟨gathered.values, gathered.warnings.map (·.under above), gathered.sites.map (·.under above)⟩

variable {set : SchemaSet} (above : Path)

/-! ### Reshaping -/

theorem canonicalize_under (names : PropertyNames) (path : Path) (seen : List String)
    (fields : List (String × Node)) :
    canonicalize names (above ++ path) seen fields =
      (canonicalize names path seen fields).under above := by
  induction fields generalizing seen with
  | nil => rfl
  | cons field rest ih =>
    obtain ⟨key, value⟩ := field
    simp only [canonicalize]
    split
    next => rw [ih]; rfl
    next =>
      split
      next => rw [ih]; rfl
      next => rw [ih]; rfl

theorem fixCardinality_under (name : String) (value : Node) (shape : Shape) (path : Path) :
    fixCardinality set name value shape (above ++ path) =
      (fixCardinality set name value shape path).under above := by
  unfold fixCardinality
  split
  next => rfl
  next =>
    split <;> simp only [Reshaped.under, List.map_cons, List.map_nil, Warning.under,
      Path.append_property]

/-- Reshaping does the same to a value wherever it is found. -/
theorem reshape_under (set : SchemaSet) (shape : Shape) (path : Path) (node : Node) :
    reshape set shape (above ++ path) node = (reshape set shape path node).under above := by
  revert shape path node
  refine (reshape.mutual_induct set
    (fun shape path node =>
      reshape set shape (above ++ path) node = (reshape set shape path node).under above)
    (fun items path position values => reshapeItems set items (above ++ path) position values =
      (reshapeItems set items path position values).under above)
    (fun type path fields => reshapeRecord set type (above ++ path) fields =
      (reshapeRecord set type path fields).under above)
    (fun type path fields => reshapeFields set type (above ++ path) fields =
      (reshapeFields set type path fields).under above)
    ?_ ?_ ?_ ?_ ?_ ?_ ?_ ?_ ?_ ?_ ?_ ?_ ?_ ?_ ?_ ?_).1
  -- A record where a type is expected.
  · intro path name fields aimed
    simp [reshape, aimed, Reshaped.under]
  · intro path name fields type aimed ih
    simp [reshape, aimed, ih, Reshaped.under]
  -- A record where one of several shapes is expected.
  · intro path alternatives fields named
    rw [reshape, reshape]
    split <;> simp_all [Reshaped.under]
  · intro path alternatives fields alternative named ih
    rw [reshape, reshape]
    split <;> simp_all
  -- Items.
  · intro path items values ih
    simp [reshape, ih, Reshaped.under]
  · intro path items fields ih
    rw [reshape, reshape, ← Path.append_index, ih]
    rfl
  -- Text and other values under a decode directive.
  · intro path format inner node text
    simp [reshape, text, Reshaped.under]
  · intro path format inner node other ih
    simpa [reshape, other] using ih
  · intro shape path node record union array single coded
    rw [reshape.eq_def, reshape.eq_def]
    split <;> simp_all [Reshaped.under]
  · intro items path position
    rw [reshapeItems, reshapeItems]
    rfl
  · intro items path position value rest first later
    rw [reshapeItems, reshapeItems, ← Path.append_index, first, later]
    simp only [Reshaped.under, List.map_append]
  -- Properties, under their names.
  · intro type path fields canonical ih
    have inside : reshapeFields set type.schema (above ++ path) canonical.value =
        (reshapeFields set type.schema path canonical.value).under above := ih
    rw [reshapeRecord, reshapeRecord, canonicalize_under]
    simp only [Reshaped.under] at inside ⊢
    rw [inside, List.map_append]
  · intro type path
    rw [reshapeFields, reshapeFields]
    rfl
  · intro type path name value rest undeclared ih
    rw [reshapeFields, reshapeFields]
    split <;> simp_all
  · intro type path name value rest property declares fixed dropped ih
    have alsoDropped :
        (fixCardinality set name value property.shape (above ++ path)).value = none := by
      rw [fixCardinality_under]
      exact dropped
    rw [reshapeFields_dropped declares alsoDropped, reshapeFields_dropped declares dropped,
      fixCardinality_under, ih]
    simp only [Reshaped.under, List.map_append]
  · intro type path name value rest property declares fixed inner kept inside later
    have made : fixed = ⟨some inner, fixed.warnings⟩ := by rw [← kept]
    have alsoMade : fixCardinality set name value property.shape (above ++ path) =
        ⟨some inner, fixed.warnings.map (·.under above)⟩ := by
      rw [fixCardinality_under]
      exact congrArg (Reshaped.under above) made
    rw [reshapeFields_kept declares alsoMade, reshapeFields_kept declares made,
      ← Path.append_property, inside, later]
    simp only [Reshaped.under, List.map_append]

/-! ### Places and keys -/

namespace Place

/-- Where a shape is written, seen from a run whose own shape is written at an outer place: named
types stay where they are. -/
def within : Place → Place → Place
  | given, outer => outer
  | property type name, _ => property type name
  | union type, _ => union type
  | items place, outer => items (place.within outer)
  | inner place, outer => inner (place.within outer)
  | alternative place position, outer => alternative (place.within outer) position

theorem within_given (place : Place) : place.within given = place := by
  induction place with
  | items place ih => rw [within, ih]
  | inner place ih => rw [within, ih]
  | alternative place position ih => rw [within, ih]
  | _ => rfl

/-- Whether different places stay different seen from an outer place. -/
def Separates (outer : Place) : Prop :=
  ∀ first second : Place, first.within outer = second.within outer → first = second

theorem separates_given : Separates given := by
  intro first second same
  rwa [within_given, within_given] at same

theorem within_items_ne_given (place : Place) : place.within (items given) ≠ given := by
  cases place <;> exact nofun

theorem separates_items : Separates (items given) := by
  intro first second same
  -- Only the given place is moved into another constructor, and nothing else is moved onto it.
  induction first generalizing second with
  | given =>
    cases second with
    | given => rfl
    | items other => exact absurd (items.inj same).symm (within_items_ne_given other)
    | _ => cases same
  | items place ih =>
    cases second with
    | given => exact absurd (items.inj same) (within_items_ne_given place)
    | items other => rw [ih other (items.inj same)]
    | _ => cases same
  | inner place ih =>
    cases second with
    | inner other => rw [ih other (inner.inj same)]
    | _ => cases same
  | alternative place position ih =>
    cases second with
    | alternative other also =>
      obtain ⟨outer, rfl⟩ := alternative.inj same
      rw [ih other outer]
    | _ => cases same
  | property type name | union type =>
    cases second <;> cases same
    rfl

end Place

/-- The key of a union at a value that stands elsewhere. -/
def UnionKey.moved (outer : Place) (key : UnionKey) : UnionKey :=
  ⟨key.hops, above ++ key.path, key.union.map (·.within outer)⟩

theorem unionKey_moved (outer place : Place) (alternatives : List Shape) (path : Path)
    (hops : Nat) : unionKey (place.within outer) alternatives (above ++ path) hops =
      (unionKey place alternatives path hops).moved above outer := by
  unfold unionKey UnionKey.moved
  split <;> rfl

theorem UnionKey.moved_inj {outer : Place} (separates : outer.Separates) {first second : UnionKey} :
    first.moved above outer = second.moved above outer ↔ first = second := by
  refine ⟨fun same => ?_, fun same => same ▸ rfl⟩
  simp only [moved, mk.injEq, List.append_cancel_left_eq] at same
  obtain ⟨hops, path, union⟩ := same
  have place : first.union = second.union :=
    Option.map_injective (fun first second => separates first second) union
  cases first
  cases second
  cases hops
  cases path
  cases place
  rfl

/-! ### Memories -/

/-- Whether a memory finds for values that stand elsewhere what another one finds for values where
they stand. -/
structure Moved (outer : Place) (memory other : UnionMemory) : Prop where
  keeps : memory ≠ .blank
  alsoKeeps : other ≠ .blank
  known : ∀ key node, other.known? (key.moved above outer) node =
    (memory.known? key node).map (·.under above)

/-- Before anything is settled at a path or below, it is as if nothing had been settled at all. -/
theorem moved_of_fresh (outer : Place) {other : UnionMemory} (keeps : other ≠ .blank)
    (fresh : other.Fresh above) : Moved above outer .empty other := by
  refine ⟨nofun, keeps, fun key node => ?_⟩
  rw [UnionMemory.known?_empty, fresh _ node (List.prefix_append above key.path)]
  rfl

variable {above} {outer : Place}

theorem Moved.remember (separates : outer.Separates) {memory other : UnionMemory}
    (moved : Moved above outer memory other) (key : UnionKey) (node : Node) (outcome : Coerced) :
    Moved above outer (memory.remember key node outcome)
      (other.remember (key.moved above outer) node (outcome.under above)) := by
  refine ⟨UnionMemory.remember_ne_blank moved.keeps _ _ _,
    UnionMemory.remember_ne_blank moved.alsoKeeps _ _ _, fun asked input => ?_⟩
  rw [UnionMemory.known?_remember_eq moved.keeps, UnionMemory.known?_remember_eq moved.alsoKeeps,
    moved.known, Option.map_or]
  -- The keys correspond to each other, so both memories have filed the outcome under this one.
  congr 1
  simp only [UnionKey.moved_inj above separates]
  split <;> rfl

/-! ### Runs -/

/-- Whether of two runs either none returns, or the second one returns what the first one does,
changed in some way, and leaves a memory that corresponds to the first one's. -/
def MovedRun {α : Type} (above : Path) (outer : Place) (change : α → α)
    (run other : Option (α × UnionMemory)) : Prop :=
  Option.Rel (fun result also => also.1 = change result.1 ∧ Moved above outer result.2 also.2)
    run other

theorem MovedRun.cases {α : Type} {change : α → α} {run other : Option (α × UnionMemory)}
    (moved : MovedRun above outer change run other) :
    (run = none ∧ other = none) ∨ ∃ result after last, run = some (result, after) ∧
      other = some (change result, last) ∧ Moved above outer after last := by
  cases moved with
  | none => exact .inl ⟨rfl, rfl⟩
  | @some result also related =>
    obtain ⟨result, after⟩ := result
    obtain ⟨_, last⟩ := also
    obtain ⟨rfl, kept⟩ := related
    exact .inr ⟨result, after, last, rfl, rfl, kept⟩

theorem MovedRun.some {α : Type} {change : α → α} {result : α} {after last : UnionMemory}
    (moved : Moved above outer after last) :
    MovedRun above outer change (some (result, after)) (some (change result, last)) :=
  Option.Rel.some ⟨rfl, moved⟩

section Parts

variable {memory other : UnionMemory}

theorem coerceItems_moved
    {step steps : Nat → Node → UnionMemory → Option (Coerced × UnionMemory)}
    (each : ∀ position value memory other, Moved above outer memory other →
      MovedRun above outer (·.under above) (step position value memory)
        (steps position value other))
    (position : Nat) (values : List Node) (start : Moved above outer memory other) :
    MovedRun above outer (·.under above) (coerceItems step position values memory)
      (coerceItems steps position values other) := by
  induction values generalizing position memory other with
  | nil => exact .some start
  | cons value rest ih =>
    obtain ⟨ran, also⟩ | ⟨first, between, middle, ran, also, kept⟩ :=
      (each position value _ _ start).cases
    · simp only [coerceItems, ran, also]
      exact .none
    obtain ⟨more, others⟩ | ⟨later, after, last, more, others, still⟩ :=
      (ih (position + 1) kept).cases
    · simp only [coerceItems, ran, also, more, others]
      exact .none
    simp only [coerceItems, ran, also, more, others]
    refine Option.Rel.some ⟨?_, still⟩
    simp only [Coerced.under, Gathered.under, List.map_append]

theorem coerceFields_moved (type : TypeSchema) (path : Path)
    {step steps : String → Property → Node → UnionMemory → Option (Coerced × UnionMemory)}
    (each : ∀ key property value memory other, Moved above outer memory other →
      MovedRun above outer (·.under above) (step key property value memory)
        (steps key property value other))
    (fields : List (String × Node)) (start : Moved above outer memory other) :
    MovedRun above outer (·.under above) (coerceFields type path step fields memory)
      (coerceFields type (above ++ path) steps fields other) := by
  induction fields generalizing memory other with
  | nil => exact .some start
  | cons field rest ih =>
    obtain ⟨key, value⟩ := field
    cases declares : type.property? key with
    | none =>
      obtain ⟨more, others⟩ | ⟨later, after, last, more, others, still⟩ := (ih start).cases
      · simp only [coerceFields, declares, more, others]
        exact .none
      simp only [coerceFields, declares, more, others]
      exact Option.Rel.some ⟨rfl, still⟩
    | some property =>
      obtain ⟨ran, also⟩ | ⟨first, between, middle, ran, also, kept⟩ :=
        (each key property value _ _ start).cases
      · simp only [coerceFields, declares, ran, also]
        exact .none
      obtain ⟨more, others⟩ | ⟨later, after, last, more, others, still⟩ := (ih kept).cases
      · simp only [coerceFields, declares, ran, also, more, others]
        exact .none
      simp only [coerceFields, declares, ran, also, more, others]
      refine Option.Rel.some ⟨?_, still⟩
      simp only [Coerced.under, Gathered.under, List.map_append]

end Parts

/-! ### Unions -/

/-- Whether a step does elsewhere what another one does where a value stands. -/
def StepMoved (above : Path) (outer : Place) (step steps : Step) : Prop :=
  ∀ place shape path hops node memory other, Moved above outer memory other →
    MovedRun above outer (·.under above) (step place shape path hops node memory)
      (steps (place.within outer) shape (above ++ path) hops node other)

theorem dropped_under (coerced : Coerced) : dropped (coerced.under above) = dropped coerced := by
  simp only [dropped, Coerced.under, List.countP_map, Function.comp_def, Warning.isDropped_under]

theorem lessLossy_under (best : Option Coerced) (candidate : Coerced) :
    lessLossy (best.map (·.under above)) (candidate.under above) =
      (lessLossy best candidate).under above := by
  cases best with
  | none => rfl
  | some current =>
    simp only [lessLossy, Option.map_some, dropped_under]
    split <;> rfl

section Unions

variable {step steps : Step} {memory other : UnionMemory}
  (stepMoved : StepMoved above outer step steps) (set : SchemaSet) (place : Place) (path : Path)
  (hops : Nat) (node : Node)
include stepMoved

theorem trial_moved (alternative : Shape) (start : Moved above outer memory other) :
    MovedRun above outer (·.under above) (trial set step place path hops alternative node memory)
      (trial set steps (place.within outer) (above ++ path) hops alternative node other) := by
  unfold trial
  rw [reshape_under]
  obtain ⟨ran, also⟩ | ⟨outcome, after, last, ran, also, kept⟩ :=
    (stepMoved place alternative path hops (reshape set alternative path node).value _ _
      start).cases
  · simp only [Reshaped.under, ran, also]
    exact .none
  simp only [Reshaped.under, ran, also]
  refine Option.Rel.some ⟨?_, kept⟩
  simp only [Coerced.under, List.map_append]

theorem tryAlternatives_moved (alternatives : List Shape) (best : Option Coerced)
    (untried : List (Shape × Nat)) (start : Moved above outer memory other) :
    MovedRun above outer (Option.map (·.under above))
      (tryAlternatives set step place alternatives path hops node best untried memory)
      (tryAlternatives set steps (place.within outer) alternatives (above ++ path) hops node
        (best.map (·.under above)) untried other) := by
  induction untried generalizing best memory other with
  | nil => exact .some start
  | cons first rest ih =>
    obtain ⟨alternative, position⟩ := first
    have tried := trial_moved stepMoved set (place.alternative position) path hops node alternative
      start
    obtain ⟨ran, also⟩ | ⟨candidate, between, middle, ran, also, kept⟩ := tried.cases
    · rw [Place.within] at also
      simp only [tryAlternatives, ran, also]
      exact .none
    rw [Place.within] at also
    simp only [tryAlternatives, ran, also]
    -- Both candidates are the same value and dropped as much, so they fare alike.
    rw [dropped_under, lessLossy_under]
    change MovedRun above outer _ _ (if isUnique set alternatives alternative candidate.node = true
      then _ else _)
    split
    next =>
      split
      next => exact .some kept
      next => exact ih (some (lessLossy best candidate)) kept
    next => exact ih best kept

theorem settle_moved (alternatives : List Shape) (start : Moved above outer memory other) :
    MovedRun above outer (·.under above)
      (settle set step place alternatives path hops node memory)
      (settle set steps (place.within outer) alternatives (above ++ path) hops node other) := by
  unfold settle
  split
  next alternative position only =>
    exact stepMoved (place.alternative position) alternative path hops node _ _ start
  next unmatched =>
    split
    next alternative position named =>
      exact stepMoved (place.alternative position) alternative path hops node _ _ start
    next unnamed =>
      obtain ⟨ran, also⟩ | ⟨best, after, last, ran, also, kept⟩ :=
        (tryAlternatives_moved stepMoved set place path hops node alternatives none
          alternatives.zipIdx start).cases
      · rw [Option.map_none] at also
        rw [ran, also]
        exact .none
      rw [Option.map_none] at also
      rw [ran, also]
      refine Option.Rel.some ⟨?_, kept⟩
      cases best <;> rfl
  next => exact .some start

theorem coerceUnion_moved (separates : outer.Separates) (alternatives : List Shape)
    (start : Moved above outer memory other) :
    MovedRun above outer (·.under above)
      (coerceUnion set step place alternatives path hops node memory)
      (coerceUnion set steps (place.within outer) alternatives (above ++ path) hops node
        other) := by
  simp only [coerceUnion, unionKey_moved, start.known]
  cases memory.known? (unionKey place alternatives path hops) node with
  | some outcome => exact .some start
  | none =>
    obtain ⟨ran, also⟩ | ⟨outcome, after, last, ran, also, kept⟩ :=
      (settle_moved stepMoved set place path hops node alternatives start).cases
    · simp only [Option.map_none, ran, also]
      exact .none
    simp only [Option.map_none, ran, also]
    exact .some (kept.remember separates _ node outcome)

end Unions

/-! ### Whole values -/

section Shapes

variable {set : SchemaSet} {fuel : Nat} {memory other : UnionMemory}
  (stepMoved : StepMoved above outer (coerce set fuel) (coerce set fuel)) (place : Place)
  (path : Path) (hops : Nat) (node : Node) (start : Moved above outer memory other)
include stepMoved start

theorem array_moved (items : Shape) :
    MovedRun above outer (·.under above)
      (coerce set (fuel + 1) place (.array items) path hops node memory)
      (coerce set (fuel + 1) (place.within outer) (.array items) (above ++ path) hops node
        other) := by
  have parts := coerceItems_moved (fun position value =>
    stepMoved place.items items (path.index position) 0 value) 0 (itemsOf node) start
  simp only [Path.append_index, Place.within] at parts
  obtain ⟨ran, also⟩ | ⟨inside, after, last, ran, also, kept⟩ := parts.cases
  · simp only [coerce, ran, also]
    exact .none
  simp only [coerce, ran, also]
  exact .some kept

/-- Which type a name stands for, and which target a record has, does not depend on the place. -/
theorem ref_moved (separates : outer.Separates) (name : String) :
    MovedRun above outer (·.under above)
      (coerce set (fuel + 1) place (.ref name) path hops node memory)
      (coerce set (fuel + 1) (place.within outer) (.ref name) (above ++ path) hops node
        other) := by
  simp only [coerce]
  split
  next => exact .some start
  next type found =>
    split
    next alternatives body =>
      split
      next =>
        exact coerceUnion_moved stepMoved set (.union name) path (hops + 1) node separates
          alternatives start
      next => exact .some start
    next =>
      split
      next fields unwrapped =>
        split
        next => exact .some start
        next target aimed =>
          have parts := coerceFields_moved target.schema path (fun key property value =>
            stepMoved (.property target.schema.name key) property.shape (path.property key) 0
              value) fields start
          simp only [Path.append_property, Place.within] at parts
          obtain ⟨ran, also⟩ | ⟨inside, after, last, ran, also, kept⟩ := parts.cases
          · rw [ran, also]
            exact .none
          rw [ran, also]
          exact .some kept
      next => exact .some start

end Shapes

/-- A run elsewhere does what a run does where the value stands. The induction is on the fuel, of
which both have the same. -/
theorem coerce_moved (set : SchemaSet) (separates : outer.Separates) (fuel : Nat) :
    StepMoved above outer (coerce set fuel) (coerce set fuel) := by
  induction fuel with
  | zero => exact fun _ _ _ _ _ _ _ _ => .none
  | succ fuel ih =>
    intro place shape path hops node memory other start
    cases shape with
    | any | scalar kind | object | enum values => exact .some start
    | array items => exact array_moved ih place path hops node start items
    | ref name => exact ref_moved ih place path hops node start separates name
    | oneOf alternatives =>
      exact coerceUnion_moved ih set place path hops node separates alternatives start
    | decode format inner =>
      cases coded : node.isString with
      | true =>
        -- A text is left to be decoded, and its site moves with it.
        obtain ⟨content, rfl⟩ := Validation.isString_iff.mp coded
        exact .some start
      | false =>
        rw [coerce_decode coded, coerce_decode coded]
        exact ih place.inner inner path hops node memory other start

/-- Where nothing has been settled at a path and below, a value that stands there is coerced as it
is at the root of a tree. -/
theorem coerce_elsewhere (set : SchemaSet) (separates : outer.Separates) (fuel : Nat)
    (shape : Shape) (node : Node) {memory : UnionMemory} (keeps : memory ≠ .blank)
    (fresh : memory.Fresh above) :
    MovedRun above outer (·.under above) (coerce set fuel .given shape [] 0 node .empty)
      (coerce set fuel outer shape above 0 node memory) := by
  have moved := coerce_moved set separates fuel .given shape [] 0 node _ _
    (moved_of_fresh above outer keeps fresh)
  rwa [List.append_nil] at moved

theorem coerceReshaped_under (set : SchemaSet) (fuel : Nat) (node : Node) (shape : Shape)
    (path : Path) :
    coerceReshaped set fuel .empty node shape path =
      (coerceReshaped set fuel .empty node shape []).map (·.under path) := by
  have moved := coerce_elsewhere set Place.separates_given fuel shape node
    UnionMemory.empty_ne_blank (UnionMemory.fresh_empty path)
  obtain ⟨ran, also⟩ | ⟨outcome, after, last, ran, also, -⟩ := moved.cases
  · rw [coerceReshaped, coerceReshaped, ran, also]
    rfl
  · rw [coerceReshaped, coerceReshaped, ran, also]
    rfl

/-- The path given to coercion only stands in front of what is reported. -/
theorem coerceTree_under (set : SchemaSet) (fuel : Nat) (node : Node) (shape : Shape)
    (path : Path) :
    coerceTree set fuel node shape path =
      (coerceTree set fuel node shape []).map (·.under path) := by
  have shaped := reshape_under path set shape [] node
  rw [List.append_nil] at shaped
  simp only [coerceTree, coerceTreeWith, shaped, Reshaped.under]
  rw [coerceReshaped_under]
  simp only [Option.map_map, Function.comp_def, Coerced.under, List.map_append]

end Coercion

end DocSchema
