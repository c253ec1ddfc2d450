import DocSchema.Schema.Registry
import Mathlib

/-!
# Following parents

Loading a type follows the parents that definitions name. The loop that does so looks for the name
it has come to among the titles of the definitions it has met, so where definitions are stored
under other names than their titles it may stop at a name it has not been at, or never stop. Main
statement: `Store.loadType_extendsCycle_iff`, which says when a cycle is reported and when loading
does not end, and that where titles are names a cycle is reported exactly when there is one.
-/

namespace DocSchema

/-- Whether an error tells of parents that come back or do not end. -/
def RegistryError.Loops : RegistryError → Prop
  | .invalid _ (.extendsCycle _) => True
  | .endless _ => True
  | _ => False

namespace Store

/-- Whether there is a document under a name. -/
def Holds (store : Store) (name : String) : Prop :=
  ∃ document, store.load name = .ok (some document)

/-! ### Ancestors -/

/-- The definition under a name, if there is one that can be read. -/
def definition? (store : Store) (name : String) : Option TypeDefinition :=
  match store.load name with
  | .ok (some document) => TypeDefinition.ofJson? document
  | _ => none

theorem holds_of_definition? {store : Store} {name : String} {definition : TypeDefinition}
    (found : store.definition? name = some definition) : store.Holds name := by
  unfold definition? at found
  split at found
  next document loaded => exact ⟨document, loaded⟩
  next => cases found

/-- The parent that the definition under a name has. -/
def parent? (store : Store) (name : String) : Option String :=
  (store.definition? name).bind (·.parent)

/-- The name that following parents leads to in so many steps. -/
def ancestor? (store : Store) (name : String) : Nat → Option String
  | 0 => some name
  | steps + 1 => (store.ancestor? name steps).bind store.parent?

variable {store : Store} {name : String}

theorem ancestor?_add (steps more : Nat) :
    store.ancestor? name (steps + more) =
      (store.ancestor? name steps).bind fun ancestor => store.ancestor? ancestor more := by
  induction more with
  | zero => simp [ancestor?]
  | succ more ih =>
    rw [← Nat.add_assoc, ancestor?, ih, Option.bind_assoc]
    rfl

/-- Nothing comes after an end. -/
theorem ancestor?_none_of_le {steps later : Nat} (order : steps ≤ later)
    (ended : store.ancestor? name steps = none) : store.ancestor? name later = none := by
  obtain ⟨more, rfl⟩ := Nat.exists_eq_add_of_le order
  rw [ancestor?_add, ended]
  rfl

theorem exists_ancestor?_of_le {steps later : Nat} (order : steps ≤ later) {ancestor : String}
    (reached : store.ancestor? name later = some ancestor) :
    ∃ before, store.ancestor? name steps = some before := by
  cases found : store.ancestor? name steps with
  | none => simp [ancestor?_none_of_le order found] at reached
  | some before => exact ⟨before, rfl⟩

/-- From one name onwards everything is the same, whenever it is come to. -/
theorem ancestor?_add_of_eq {steps other : Nat}
    (same : store.ancestor? name steps = store.ancestor? name other) (more : Nat) :
    store.ancestor? name (steps + more) = store.ancestor? name (other + more) := by
  rw [ancestor?_add, ancestor?_add, same]

/-- What has been passed on the way has a definition. -/
theorem exists_definition? {steps later : Nat} (order : steps < later) {ancestor last : String}
    (here : store.ancestor? name steps = some ancestor)
    (reached : store.ancestor? name later = some last) :
    ∃ definition, store.definition? ancestor = some definition := by
  obtain ⟨next, followed⟩ := exists_ancestor?_of_le (Nat.succ_le_of_lt order) reached
  rw [ancestor?, here, Option.bind_some, parent?] at followed
  obtain ⟨definition, found, _⟩ := Option.bind_eq_some_iff.mp followed
  exact ⟨definition, found⟩

/-- Whether no name is come to twice up to some number of steps. -/
def Straight (store : Store) (name : String) (steps : Nat) : Prop :=
  ∀ earlier later, earlier < later → later ≤ steps →
    store.ancestor? name earlier ≠ store.ancestor? name later

/-- Names that differ from each other are no more than there are documents. -/
theorem le_size_of_straight {steps : Nat} (straight : store.Straight name steps)
    {ancestor : String} (reached : store.ancestor? name steps = some ancestor) :
    steps ≤ store.size := by
  -- The names passed on the way differ, and each of them has a document.
  let passed := (List.range steps).map fun step => (store.ancestor? name step).getD name
  have each {step : Nat} (before : step < steps) :
      ∃ other, store.ancestor? name step = some other ∧ store.Holds other := by
    obtain ⟨other, here⟩ := exists_ancestor?_of_le (Nat.le_of_lt before) reached
    obtain ⟨definition, found⟩ := exists_definition? before here reached
    exact ⟨other, here, holds_of_definition? found⟩
  have nodup : passed.Nodup := by
    refine List.Nodup.map_on (fun left inLeft right inRight same => ?_) List.nodup_range
    obtain ⟨leftName, atLeft, _⟩ := each (List.mem_range.mp inLeft)
    obtain ⟨rightName, atRight, _⟩ := each (List.mem_range.mp inRight)
    have equal : store.ancestor? name left = store.ancestor? name right := by
      simpa [atLeft, atRight] using same
    rcases Nat.lt_trichotomy left right with before | rfl | after
    · exact absurd equal (straight left right before (Nat.le_of_lt (List.mem_range.mp inRight)))
    · rfl
    · exact absurd equal.symm (straight right left after (Nat.le_of_lt (List.mem_range.mp inLeft)))
  have stored : ∀ other ∈ passed, store.Holds other := by
    intro other member
    obtain ⟨step, inRange, rfl⟩ := List.mem_map.mp member
    obtain ⟨found, here, stores⟩ := each (List.mem_range.mp inRange)
    simpa [here] using stores
  simpa [passed] using store.length_le_size _ nodup stored

/-- A name that is come to at all is come to within as many steps as there are documents. -/
theorem exists_ancestor?_le_size {steps : Nat} {ancestor : String}
    (reached : store.ancestor? name steps = some ancestor) :
    ∃ early ≤ store.size, store.ancestor? name early = some ancestor := by
  induction steps using Nat.strongRecOn with
  | ind steps ih =>
    by_cases straight : store.Straight name steps
    · exact ⟨steps, le_size_of_straight straight reached, reached⟩
    -- What lies between two visits of one name is left out.
    · unfold Straight at straight
      push Not at straight
      obtain ⟨earlier, later, order, within, same⟩ := straight
      have shorter : earlier + (steps - later) < steps := by omega
      refine ih _ shorter ?_
      rw [ancestor?_add_of_eq same, Nat.add_sub_cancel' within]
      exact reached

/-! ### The loop -/

/-- The definitions met in so many steps. -/
def lineage (store : Store) (name : String) : Nat → List TypeDefinition
  | 0 => []
  | steps + 1 =>
    store.lineage name steps ++ ((store.ancestor? name steps).bind store.definition?).toList

/-- Whether the name come to in so many steps is the title of a definition met before. -/
def MeetsTitle (store : Store) (name : String) (steps : Nat) : Prop :=
  ∃ definition ∈ store.lineage name steps,
    store.ancestor? name steps = some definition.title

theorem mem_lineage_iff {steps : Nat} {definition : TypeDefinition} :
    definition ∈ store.lineage name steps ↔
      ∃ earlier < steps, (store.ancestor? name earlier).bind store.definition? =
        some definition := by
  induction steps with
  | zero => simp [lineage]
  | succ steps ih =>
    rw [lineage, List.mem_append, ih, Option.mem_toList]
    constructor
    · rintro (⟨earlier, before, found⟩ | found)
      · exact ⟨earlier, Nat.lt_succ_of_lt before, found⟩
      · exact ⟨steps, Nat.lt_succ_self steps, found⟩
    · rintro ⟨earlier, before, found⟩
      rcases Nat.lt_succ_iff_lt_or_eq.mp before with sooner | rfl
      · exact .inl ⟨earlier, sooner, found⟩
      · exact .inr found

variable {current : String} {steps fuel : Nat}

theorem any_title_lineage (reached : store.ancestor? name steps = some current) :
    (store.lineage name steps).any (·.title == current) = true ↔
      store.MeetsTitle name steps := by
  rw [MeetsTitle, reached, List.any_eq_true]
  constructor
  · rintro ⟨definition, member, same⟩
    exact ⟨definition, member, congrArg some (eq_of_beq same).symm⟩
  · rintro ⟨definition, member, same⟩
    exact ⟨definition, member, beq_iff_eq.mpr (Option.some.inj same).symm⟩

/-- The loop stops where a name is the title of a definition met before. -/
theorem definitionsFrom_of_meetsTitle (reached : store.ancestor? name steps = some current)
    (meets : store.MeetsTitle name steps) :
    ∃ titles, ∀ fuel, store.definitionsFrom name (fuel + 1) (store.lineage name steps) current =
      some (.error (.invalid name (.extendsCycle titles))) := by
  refine ⟨(store.lineage name steps).map (·.title) ++ [current], fun fuel => ?_⟩
  rw [definitionsFrom, if_pos ((any_title_lineage reached).mpr meets)]

/-- Else it goes on to the parent. -/
theorem definitionsFrom_of_parent (reached : store.ancestor? name steps = some current)
    (meets : ¬store.MeetsTitle name steps) {parent : String}
    (followed : store.parent? current = some parent) :
    store.definitionsFrom name (fuel + 1) (store.lineage name steps) current =
      store.definitionsFrom name fuel (store.lineage name (steps + 1)) parent := by
  obtain ⟨definition, found, named⟩ := Option.bind_eq_some_iff.mp followed
  have longer : store.lineage name (steps + 1) = store.lineage name steps ++ [definition] := by
    simp [lineage, reached, found]
  have unmet := (any_title_lineage reached).not.mpr meets
  rw [definitionsFrom, if_neg unmet, longer]
  unfold definition? at found
  split at found
  next document loaded => simp only [loaded, found, named]
  next => cases found

/-- Without a parent it stops as well, but not because of a cycle. -/
theorem definitionsFrom_of_no_parent (reached : store.ancestor? name steps = some current)
    (meets : ¬store.MeetsTitle name steps) (ended : store.parent? current = none) :
    ∃ outcome, (∀ fuel, store.definitionsFrom name (fuel + 1) (store.lineage name steps) current =
      some outcome) ∧ ∀ error, outcome = .error error → ¬error.Loops := by
  have unmet := (any_title_lineage reached).not.mpr meets
  simp only [definitionsFrom, if_neg unmet]
  cases loaded : store.load current with
  | error error => exact ⟨_, fun _ => rfl, by simp [RegistryError.Loops]⟩
  | ok stored =>
    cases stored with
    | none => exact ⟨_, fun _ => rfl, by split <;> simp [RegistryError.Loops]⟩
    | some document =>
      cases read : TypeDefinition.ofJson? document with
      | none =>
        simp only [read]
        exact ⟨_, fun _ => rfl, by simp [RegistryError.Loops]⟩
      | some definition =>
        have childless : definition.parent = none := by
          simpa [parent?, definition?, loaded, read] using ended
        simp only [read, childless]
        exact ⟨_, fun _ => rfl, by simp⟩

/-- Until it stops, the loop has come as far as following parents. -/
theorem definitionsFrom_start (reached : store.ancestor? name steps = some current)
    (unmet : ∀ earlier < steps, ¬store.MeetsTitle name earlier) (fuel : Nat) :
    store.definitionsFrom name (fuel + steps) [] name =
      store.definitionsFrom name fuel (store.lineage name steps) current := by
  induction steps generalizing current fuel with
  | zero =>
    cases reached
    rfl
  | succ steps ih =>
    obtain ⟨before, here, followed⟩ := Option.bind_eq_some_iff.mp reached
    have sooner : ∀ earlier < steps, ¬store.MeetsTitle name earlier :=
      fun earlier order => unmet earlier (Nat.lt_succ_of_lt order)
    rw [← Nat.succ_add_eq_add_succ, ih here sooner]
    exact definitionsFrom_of_parent here (unmet steps (Nat.lt_succ_self steps)) followed

/-! ### When the loop stops -/

/-- Where the title of a definition is come to at all, this happens while there is still fuel: every
definition on the way is met within as many steps as there are documents, and from then on every
name on the way is come to again within as many. -/
theorem exists_meetsTitle_le (meets : store.MeetsTitle name steps) :
    ∃ early ≤ 2 * store.size + 1, store.MeetsTitle name early := by
  by_cases small : steps ≤ 2 * store.size + 1
  · exact ⟨steps, small, meets⟩
  obtain ⟨definition, member, reached⟩ := meets
  obtain ⟨earlier, before, found⟩ := mem_lineage_iff.mp member
  obtain ⟨owner, here, stored⟩ := Option.bind_eq_some_iff.mp found
  obtain ⟨first, within, there⟩ := exists_ancestor?_le_size here
  -- The rest of the way is that from the first name after all definitions have been met.
  obtain ⟨restart, halfway⟩ := exists_ancestor?_of_le
    (by omega : store.size + 1 ≤ steps) reached
  have onward (more : Nat) : store.ancestor? name (store.size + 1 + more) =
      store.ancestor? restart more := by
    rw [ancestor?_add, halfway, Option.bind_some]
  have again : store.ancestor? restart (steps - (store.size + 1)) = some definition.title := by
    rw [← onward, Nat.add_sub_cancel' (by omega), reached]
  obtain ⟨second, alsoWithin, after⟩ := exists_ancestor?_le_size again
  refine ⟨store.size + 1 + second, by omega, definition, mem_lineage_iff.mpr ?_, ?_⟩
  · exact ⟨first, by omega, by rw [there, Option.bind_some, stored]⟩
  · rw [onward, after]

/-- A way that ends does so within as many steps as there are documents. -/
theorem exists_last (ended : store.ancestor? name steps = none) :
    ∃ last ≤ store.size, ∃ ancestor, store.ancestor? name last = some ancestor ∧
      store.parent? ancestor = none := by
  induction steps with
  | zero => cases ended
  | succ steps ih =>
    cases here : store.ancestor? name steps with
    | none => exact ih here
    | some ancestor =>
      obtain ⟨last, within, there⟩ := exists_ancestor?_le_size here
      refine ⟨last, within, ancestor, there, ?_⟩
      simpa [ancestor?, here] using ended

/-- There are three ways in which the loop can go, whatever fuel it is given beyond its own. -/
theorem definitionsFrom_cases (store : Store) (name : String) :
    ((∃ steps, store.MeetsTitle name steps) ∧ ∃ titles, ∀ fuel, store.chainFuel ≤ fuel →
      store.definitionsFrom name fuel [] name =
        some (.error (.invalid name (.extendsCycle titles)))) ∨
    ((∀ steps, ¬store.MeetsTitle name steps) ∧ (∃ steps, store.ancestor? name steps = none) ∧
      ∃ outcome, (∀ fuel, store.chainFuel ≤ fuel →
        store.definitionsFrom name fuel [] name = some outcome) ∧
        ∀ error, outcome = .error error → ¬error.Loops) ∨
    ((∀ steps, ¬store.MeetsTitle name steps) ∧ (∀ steps, store.ancestor? name steps ≠ none) ∧
      ∀ fuel, store.definitionsFrom name fuel [] name = none) := by
  classical
  by_cases meets : ∃ steps, store.MeetsTitle name steps
  -- The loop stops the first time that a title is met, which there is fuel for.
  · refine .inl ⟨meets, ?_⟩
    have unmet : ∀ earlier < Nat.find meets, ¬store.MeetsTitle name earlier :=
      fun _ => Nat.find_min meets
    obtain ⟨early, within, also⟩ := exists_meetsTitle_le (Nat.find_spec meets)
    have small := Nat.find_min' meets also
    obtain ⟨_, _, reached⟩ := Nat.find_spec meets
    obtain ⟨titles, stops⟩ := definitionsFrom_of_meetsTitle reached (Nat.find_spec meets)
    refine ⟨titles, fun fuel enough => ?_⟩
    unfold chainFuel at enough
    obtain ⟨more, rfl⟩ := Nat.exists_eq_add_of_le (by omega : Nat.find meets + 1 ≤ fuel)
    rw [(by omega : Nat.find meets + 1 + more = more + 1 + Nat.find meets),
      definitionsFrom_start reached unmet, stops]
  · have unmet := not_exists.mp meets
    by_cases ends : ∃ steps, store.ancestor? name steps = none
    -- Else it goes on to the last name that there is.
    · refine .inr (.inl ⟨unmet, ends, ?_⟩)
      obtain ⟨_, ended⟩ := ends
      obtain ⟨last, within, ancestor, reached, childless⟩ := exists_last ended
      obtain ⟨outcome, stops, other⟩ :=
        definitionsFrom_of_no_parent reached (unmet last) childless
      refine ⟨outcome, fun fuel enough => ?_, other⟩
      unfold chainFuel at enough
      obtain ⟨more, rfl⟩ := Nat.exists_eq_add_of_le (by omega : last + 1 ≤ fuel)
      rw [(by omega : last + 1 + more = more + 1 + last),
        definitionsFrom_start reached (fun earlier _ => unmet earlier), stops]
    -- If there is none, all fuel is used up on the way.
    · refine .inr (.inr ⟨unmet, not_exists.mp ends, fun fuel => ?_⟩)
      obtain ⟨current, reached⟩ := Option.ne_none_iff_exists'.mp (not_exists.mp ends fuel)
      have start := definitionsFrom_start reached (fun earlier _ => unmet earlier) 0
      rw [Nat.zero_add] at start
      rw [start, definitionsFrom]

end Store

/-! ### Faults of the definitions themselves -/

/-- Whether something can be made of definitions, or cannot for another reason than a cycle. -/
def Acyclic {α : Type} (made : Except DefinitionError α) : Prop :=
  ∀ titles, made ≠ .error (.extendsCycle titles)

theorem acyclic_ok {α : Type} (value : α) : Acyclic (.ok value) := by
  intro titles same
  cases same

theorem Acyclic.bind {α β : Type} {made : Except DefinitionError α}
    {next : α → Except DefinitionError β} (first : Acyclic made)
    (rest : ∀ value, Acyclic (next value)) : Acyclic (made >>= next) := by
  cases made with
  | error cause =>
    intro titles same
    cases same
    exact first titles rfl
  | ok value => exact rest value

namespace ShapeDefinition

mutual

theorem acyclic_lower (property : String) :
    ∀ definition : ShapeDefinition, Acyclic (definition.lower property)
  | { kind, items, reference, oneOf, values, decode, .. } => by
    rw [lower.eq_def]
    dsimp only
    split
    next => exact acyclic_ok _
    next alternatives => exact (acyclic_lowerAll property alternatives).bind fun _ => acyclic_ok _
    next => exact acyclic_ok _
    next => exact acyclic_ok _
    next items => exact (acyclic_lower property items).bind fun _ => acyclic_ok _
    next => exact acyclic_ok _
    next =>
      split
      next => exact acyclic_ok _
      next => exact fun _ same => by cases same

theorem acyclic_lowerAll (property : String) :
    ∀ definitions : List ShapeDefinition, Acyclic (lowerAll property definitions)
  | [] => acyclic_ok _
  | definition :: rest => by
    rw [lowerAll]
    refine (acyclic_lower property definition).bind fun _ => ?_
    exact (acyclic_lowerAll property rest).bind fun _ => acyclic_ok _

end

end ShapeDefinition

namespace TypeSchema

theorem acyclic_addProperties (properties : Keyed Property)
    (definitions : List (String × ShapeDefinition)) :
    Acyclic (addProperties properties definitions) := by
  induction definitions generalizing properties with
  | nil => exact acyclic_ok _
  | cons entry rest ih =>
    rw [addProperties, ShapeDefinition.lowerProperty]
    have shaped := ShapeDefinition.acyclic_lower entry.1 entry.2
    exact (shaped.bind fun _ => acyclic_ok _).bind fun _ => ih _

theorem acyclic_addDefinitions (properties : Keyed Property) (required : List String)
    (chain : List TypeDefinition) : Acyclic (addDefinitions properties required chain) := by
  induction chain generalizing properties required with
  | nil => exact acyclic_ok _
  | cons definition rest ih =>
    rw [addDefinitions]
    exact (acyclic_addProperties properties definition.properties).bind fun _ => ih _ _

theorem acyclic_addAliases (properties : Keyed Property) (property : String)
    (known : Keyed String) (aliases : List String) :
    Acyclic (addAliases properties property known aliases) := by
  induction aliases generalizing known with
  | nil => exact acyclic_ok _
  | cons aliasName rest ih =>
    rw [addAliases]
    split
    next => exact fun _ same => by cases same
    next => exact ih _

theorem acyclic_collectAliases (properties : Keyed Property) (known : Keyed String)
    (entries : List (String × Property)) : Acyclic (collectAliases properties known entries) := by
  induction entries generalizing known with
  | nil => exact acyclic_ok _
  | cons entry rest ih =>
    rw [collectAliases]
    exact (acyclic_addAliases properties entry.1 known entry.2.aliases).bind fun _ => ih _

/-- Only following parents finds cycles. -/
theorem acyclic_flatten (name : String) (chain : List TypeDefinition) :
    Acyclic (flatten name chain) := by
  -- None of the errors raised on the way is one of a cycle.
  unfold flatten
  split
  next => exact fun _ same => by cases same
  next own _ =>
    split
    next => exact fun _ same => by cases same
    next =>
      split
      next alternatives _ =>
        unfold flattenUnion
        split
        next => exact fun _ same => by cases same
        next =>
          have lowered := ShapeDefinition.acyclic_lowerAll name alternatives
          exact lowered.bind fun _ => acyclic_ok _
      next =>
        unfold flattenRecord
        refine (acyclic_addDefinitions _ _ _).bind fun added => ?_
        dsimp only
        split
        next => exact fun _ same => by cases same
        next => exact (acyclic_collectAliases _ _ _).bind fun _ => acyclic_ok _

end TypeSchema

namespace Store

variable {store : Store} {name : String}

/-! ### Loading -/

/-- Whether the loop ends, as it then does with any fuel that is no less than its own. -/
def ParentsEnd (store : Store) (name : String) : Prop :=
  ∃ outcome, ∀ fuel, store.chainFuel ≤ fuel →
    store.definitionsFrom name fuel [] name = some outcome

/-- The same three ways for the type that is loaded. -/
theorem loadType_cases (store : Store) (name : String) :
    ((∃ steps, store.MeetsTitle name steps) ∧ store.ParentsEnd name ∧
      ∃ titles, store.loadType name = .error (.invalid name (.extendsCycle titles))) ∨
    ((∀ steps, ¬store.MeetsTitle name steps) ∧ (∃ steps, store.ancestor? name steps = none) ∧
      store.ParentsEnd name ∧ ∀ error, store.loadType name = .error error → ¬error.Loops) ∨
    ((∀ steps, ¬store.MeetsTitle name steps) ∧ (∀ steps, store.ancestor? name steps ≠ none) ∧
      (∀ fuel, store.definitionsFrom name fuel [] name = none) ∧
      store.loadType name = .error (.endless name)) := by
  rcases definitionsFrom_cases store name with
    ⟨meets, titles, stops⟩ | ⟨unmet, ends, outcome, stops, plain⟩ | ⟨unmet, goesOn, never⟩
  · exact .inl ⟨meets, ⟨_, stops⟩, titles, by rw [loadType, stops _ (Nat.le_refl _)]⟩
  · refine .inr (.inl ⟨unmet, ends, ⟨_, stops⟩, fun error failed => ?_⟩)
    rw [loadType, stops _ (Nat.le_refl _)] at failed
    cases outcome with
    | error other =>
      cases failed
      exact plain _ rfl
    | ok chain =>
      dsimp only at failed
      split at failed
      next cause flattened =>
        cases failed
        -- What is made of the definitions afterwards can fail as well, but not in these ways.
        cases cause with
        | extendsCycle titles =>
          exact absurd flattened (TypeSchema.acyclic_flatten name chain titles)
        | _ => exact id
      next => cases failed
  · exact .inr (.inr ⟨unmet, goesOn, never, by rw [loadType, never]⟩)

/-- Whether following parents comes back to a name. -/
def ComesBack (store : Store) (name : String) : Prop :=
  ∃ earlier later ancestor, earlier < later ∧ store.ancestor? name earlier = some ancestor ∧
    store.ancestor? name later = some ancestor

/-- Whether all definitions have the titles that they are stored under. -/
def Titled (store : Store) : Prop :=
  ∀ name definition, store.definition? name = some definition → definition.title = name

/-- Whether those have that are met from a name on. -/
def TitledFrom (store : Store) (name : String) : Prop :=
  ∀ steps ancestor definition, store.ancestor? name steps = some ancestor →
    store.definition? ancestor = some definition → definition.title = ancestor

theorem Titled.titledFrom (titled : store.Titled) (name : String) : store.TitledFrom name :=
  fun _ ancestor definition _ found => titled ancestor definition found

theorem TitledFrom.meetsTitle_iff (titled : store.TitledFrom name) :
    (∃ steps, store.MeetsTitle name steps) ↔ store.ComesBack name := by
  constructor
  · rintro ⟨later, definition, member, reached⟩
    obtain ⟨earlier, before, found⟩ := mem_lineage_iff.mp member
    obtain ⟨owner, here, stored⟩ := Option.bind_eq_some_iff.mp found
    -- The title met is the name that the definition was met under.
    rw [titled earlier owner definition here stored] at reached
    exact ⟨earlier, later, owner, before, here, reached⟩
  · rintro ⟨earlier, later, ancestor, before, here, reached⟩
    obtain ⟨definition, found⟩ := exists_definition? before here reached
    have same := titled earlier ancestor definition here found
    exact ⟨later, definition, mem_lineage_iff.mpr ⟨earlier, before, by simp [here, found]⟩,
      by rw [same, reached]⟩

/-- A way that does not end comes back. -/
theorem comesBack_of_endless (goesOn : ∀ steps, store.ancestor? name steps ≠ none) :
    store.ComesBack name := by
  obtain ⟨ancestor, reached⟩ := Option.ne_none_iff_exists'.mp (goesOn (store.size + 1))
  obtain ⟨early, within, here⟩ := exists_ancestor?_le_size reached
  exact ⟨early, store.size + 1, ancestor, Nat.lt_succ_of_le within, here, reached⟩

theorem TitledFrom.parentsEnd (titled : store.TitledFrom name) : store.ParentsEnd name := by
  rcases loadType_cases store name with ⟨_, ends, _⟩ | ⟨_, _, ends, _⟩ | ⟨unmet, goesOn, _⟩
  · exact ends
  · exact ends
  · obtain ⟨steps, meets⟩ := titled.meetsTitle_iff.mpr (comesBack_of_endless goesOn)
    exact absurd meets (unmet steps)

theorem Titled.loadType_ne_endless (titled : store.Titled) (name other : String) :
    store.loadType name ≠ .error (.endless other) := by
  obtain ⟨_, ends⟩ := (titled.titledFrom name).parentsEnd
  rcases loadType_cases store name with
    ⟨_, _, titles, cycle⟩ | ⟨_, _, _, plain⟩ | ⟨_, _, never, _⟩
  · rw [cycle]
    simp
  · exact fun endless => plain _ endless trivial
  · have := ends _ (Nat.le_refl _)
    rw [never] at this
    cases this

theorem reported_iff_meetsTitle (store : Store) (name : String) :
    (∃ titles, store.loadType name = .error (.invalid name (.extendsCycle titles))) ↔
      ∃ steps, store.MeetsTitle name steps := by
  rcases loadType_cases store name with
    ⟨meets, _, cycle⟩ | ⟨unmet, _, _, plain⟩ | ⟨unmet, _, _, endless⟩
  · exact ⟨fun _ => meets, fun _ => cycle⟩
  · refine ⟨fun ⟨titles, cycle⟩ => ?_, fun ⟨steps, meets⟩ => absurd meets (unmet steps)⟩
    exact absurd trivial (plain _ cycle)
  · refine ⟨fun ⟨titles, cycle⟩ => ?_, fun ⟨steps, meets⟩ => absurd meets (unmet steps)⟩
    rw [endless] at cycle
    cases cycle

theorem never_iff_goesOn (store : Store) (name : String) :
    (∀ fuel, store.definitionsFrom name fuel [] name = none) ↔
      (∀ steps, store.ancestor? name steps ≠ none) ∧
        ∀ steps, ¬store.MeetsTitle name steps := by
  rcases loadType_cases store name with
    ⟨⟨steps, meets⟩, ⟨_, ends⟩, _⟩ | ⟨_, ⟨steps, ended⟩, ⟨_, ends⟩, _⟩ | ⟨unmet, goesOn, never, _⟩
  · refine ⟨fun never => ?_, fun ⟨_, unmet⟩ => absurd meets (unmet steps)⟩
    simpa [never] using ends _ (Nat.le_refl _)
  · refine ⟨fun never => ?_, fun ⟨goesOn, _⟩ => absurd ended (goesOn steps)⟩
    simpa [never] using ends _ (Nat.le_refl _)
  · exact ⟨fun _ => ⟨goesOn, unmet⟩, fun _ => never⟩

theorem endless_iff_never (store : Store) (name : String) :
    store.loadType name = .error (.endless name) ↔
      ∀ fuel, store.definitionsFrom name fuel [] name = none := by
  rcases loadType_cases store name with
    ⟨_, ⟨_, ends⟩, titles, cycle⟩ | ⟨_, _, ⟨_, ends⟩, plain⟩ | ⟨_, _, never, endless⟩
  · refine ⟨fun endless => ?_, fun never => ?_⟩
    · rw [endless] at cycle
      cases cycle
    · simpa [never] using ends _ (Nat.le_refl _)
  · refine ⟨fun endless => absurd trivial (plain _ endless), fun never => ?_⟩
    simpa [never] using ends _ (Nat.le_refl _)
  · exact ⟨fun _ => never, fun _ => endless⟩

/-- A cycle is reported exactly where parents lead to the title of a definition met before, and
loading does not end exactly where they lead on for ever without that. Where definitions are
stored under their titles it ends, and reports a cycle exactly where parents come back to a
name. -/
theorem loadType_extendsCycle_iff (store : Store) (name : String) :
    ((∃ titles, store.loadType name = .error (.invalid name (.extendsCycle titles))) ↔
      ∃ steps, store.MeetsTitle name steps) ∧
    (store.loadType name = .error (.endless name) ↔
      ∀ fuel, store.definitionsFrom name fuel [] name = none) ∧
    ((∀ fuel, store.definitionsFrom name fuel [] name = none) ↔
      (∀ steps, store.ancestor? name steps ≠ none) ∧ ∀ steps, ¬store.MeetsTitle name steps) ∧
    (store.TitledFrom name → store.ParentsEnd name ∧
      ((∃ titles, store.loadType name = .error (.invalid name (.extendsCycle titles))) ↔
        store.ComesBack name)) := by
  refine ⟨reported_iff_meetsTitle store name, endless_iff_never store name,
    never_iff_goesOn store name, fun titled => ⟨titled.parentsEnd, ?_⟩⟩
  rw [reported_iff_meetsTitle, titled.meetsTitle_iff]

/-- A document that has only a title and perhaps a parent. -/
def documentOf (title : String) (parent : Option String) : Json :=
  match parent with
  | none => .object [("title", .string title)]
  | some parent => .object [("title", .string title), ("extends", .string parent)]

/-- Two definitions that extend each other. -/
def knot : Store :=
  (Source.memory [("Left", documentOf "Left" (some "Right")),
    ("Right", documentOf "Right" (some "Left"))]).store

theorem titled_memory {documents : Keyed Json}
    (each : documents.all fun entry =>
      (TypeDefinition.ofJson? entry.2).all (·.title == entry.1)) :
    (Source.memory documents).store.Titled := by
  intro name definition found
  unfold definition? at found
  split at found
  next document loaded =>
    have present : Keyed.get? documents name = some document := by
      simpa [Source.store, Source.load] using loaded
    have fine := List.all_eq_true.mp each _ (Keyed.mem_of_get? present)
    rw [found] at fine
    exact eq_of_beq fine
  next => cases found

theorem knot_titled : knot.Titled := titled_memory (by cbv)

theorem loadType_knot :
    ((∃ titles, knot.loadType "Left" = .error (.invalid "Left" (.extendsCycle titles))) ↔
      ∃ steps, knot.MeetsTitle "Left" steps) ∧
    (knot.loadType "Left" = .error (.endless "Left") ↔
      ∀ fuel, knot.definitionsFrom "Left" fuel [] "Left" = none) ∧
    ((∀ fuel, knot.definitionsFrom "Left" fuel [] "Left" = none) ↔
      (∀ steps, knot.ancestor? "Left" steps ≠ none) ∧ ∀ steps, ¬knot.MeetsTitle "Left" steps) ∧
    knot.ParentsEnd "Left" ∧ knot.ComesBack "Left" := by
  obtain ⟨reported, endless, never, titled⟩ := loadType_extendsCycle_iff knot "Left"
  obtain ⟨ends, comesBack⟩ := titled (knot_titled.titledFrom "Left")
  exact ⟨reported, endless, never, ends, comesBack.mp ⟨["Left", "Right", "Left"], by cbv⟩⟩

/-! ### Definitions that are stored under other names -/

/-- A definition that extends the very name it is stored under is loaded again and again if that
is not its title. -/
theorem definitionsFrom_of_own_parent {definition : TypeDefinition}
    (found : store.definition? name = some definition) (extended : definition.parent = some name)
    (titled : definition.title ≠ name) (fuel : Nat) :
    store.definitionsFrom name fuel [] name = none := by
  have stays (steps : Nat) : store.ancestor? name steps = some name := by
    induction steps with
    | zero => rfl
    | succ steps ih =>
      rw [ancestor?, ih, Option.bind_some, parent?, found, Option.bind_some, extended]
  have unmet (steps : Nat) : ¬store.MeetsTitle name steps := by
    rintro ⟨other, member, reached⟩
    obtain ⟨earlier, _, stored⟩ := mem_lineage_iff.mp member
    rw [stays, Option.bind_some, found] at stored
    cases stored
    rw [stays] at reached
    exact titled (Option.some.inj reached).symm
  exact (never_iff_goesOn store name).mpr ⟨fun steps => by simp [stays], unmet⟩ fuel

/-- What is stored as `Copy` calls itself by the name of its parent. -/
def misfiled : Store :=
  (Source.memory [("Draft", documentOf "Draft" (some "Copy")),
    ("Copy", documentOf "Base" (some "Base")), ("Base", documentOf "Base" none)]).store

/-- Parents lead from `Draft` over `Copy` to `Base`, which has none, and still a cycle is
reported. -/
theorem misfiled_reported :
    misfiled.loadType "Draft" =
        .error (.invalid "Draft" (.extendsCycle ["Draft", "Base", "Base"])) ∧
      ¬misfiled.ComesBack "Draft" := by
  have ends : misfiled.ancestor? "Draft" 3 = none := by cbv
  refine ⟨by cbv, ?_⟩
  rintro ⟨earlier, later, ancestor, before, here, reached⟩
  have early : later < 3 := by
    by_contra late
    rw [ancestor?_none_of_le (Nat.le_of_not_lt late) ends] at reached
    cases reached
  have first : misfiled.ancestor? "Draft" 0 = some "Draft" := rfl
  have second : misfiled.ancestor? "Draft" 1 = some "Copy" := by cbv
  have third : misfiled.ancestor? "Draft" 2 = some "Base" := by cbv
  obtain ⟨rfl, rfl⟩ | ⟨rfl, rfl⟩ | ⟨rfl, rfl⟩ :
      (earlier = 0 ∧ later = 1) ∨ (earlier = 0 ∧ later = 2) ∨ (earlier = 1 ∧ later = 2) := by
    omega
  · simp_all
  · simp_all
  · simp_all

end Store

end DocSchema
