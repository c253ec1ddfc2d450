import DocSchema.Proofs.Schema.Closure

/-!
# Walking over references

A registry that is asked for a root works off a queue of names, takes what it has kept and loads
the rest. Whatever it has kept, the outcome is that of loading what the root reaches one name
after another in breadth-first order, and what it keeps in addition are the types that were loaded
before the first failure. Main statements: `Registry.Mirrors.get` and `Registry.Mirrors.resolve`.
-/

namespace DocSchema

namespace Store

/-! ### Loading names one after another -/

/-- The types of some names, or the first error among them. -/
def loadAll (store : Store) : List String → Except RegistryError (Keyed CompiledType)
  | [] => .ok []
  | name :: rest =>
    match store.loadType name with
    | .error error => .error error
    | .ok type => (store.loadAll rest).map ((name, type) :: ·)

/-- The set of the types that are reached from a root. -/
def closure (store : Store) (root : String) : Except RegistryError SchemaSet :=
  (store.loadAll (store.breadthFirst root)).map (⟨root, ·, SchemaSet.defaultLimit⟩)

variable {store : Store} {name root : String} {names more seen : List String}
  {found types : Keyed CompiledType} {error : RegistryError}

theorem loadAll_append (store : Store) (names more : List String) :
    store.loadAll (names ++ more) =
      (store.loadAll names).bind fun types => (store.loadAll more).map (types ++ ·) := by
  induction names with
  | nil =>
    rw [List.nil_append, loadAll, Except.bind]
    cases store.loadAll more <;> rfl
  | cons name rest ih =>
    rw [List.cons_append, loadAll, loadAll, ih]
    cases store.loadType name with
    | error error => rfl
    | ok type =>
      cases store.loadAll rest with
      | error error => rfl
      | ok types => cases store.loadAll more <;> rfl

theorem loadAll_append_of_ok (loaded : store.loadAll names = .ok types) :
    store.loadAll (names ++ more) = (store.loadAll more).map (types ++ ·) := by
  rw [loadAll_append, loaded]
  rfl

theorem loadAll_append_of_error (failed : store.loadAll names = .error error) :
    store.loadAll (names ++ more) = .error error := by
  rw [loadAll_append, failed]
  rfl

theorem loadAll_cons_of_ok {type : CompiledType} (loaded : store.loadType name = .ok type) :
    store.loadAll (name :: names) = (store.loadAll names).map ((name, type) :: ·) := by
  rw [loadAll, loaded]

theorem loadAll_cons_of_error (failed : store.loadType name = .error error) :
    store.loadAll (name :: names) = .error error := by
  rw [loadAll, failed]

theorem loadAll_cons_ok (loaded : store.loadAll (name :: names) = .ok types) :
    ∃ type later, store.loadType name = .ok type ∧ store.loadAll names = .ok later ∧
      types = (name, type) :: later := by
  rw [loadAll] at loaded
  split at loaded
  next => cases loaded
  next type here =>
    cases rest : store.loadAll names with
    | error error => simp [rest, Except.map] at loaded
    | ok later =>
      rw [rest] at loaded
      cases loaded
      exact ⟨type, later, here, rfl, rfl⟩

theorem keys_of_loadAll (loaded : store.loadAll names = .ok types) : Keyed.keys types = names := by
  induction names generalizing types with
  | nil =>
    cases loaded
    rfl
  | cons name rest ih =>
    obtain ⟨type, later, _, after, rfl⟩ := loadAll_cons_ok loaded
    exact congrArg (name :: ·) (ih after)

theorem loads_of_loadAll (loaded : store.loadAll names = .ok types) :
    ∀ name ∈ names, store.loads name = true := by
  induction names generalizing types with
  | nil => simp
  | cons first rest ih =>
    obtain ⟨type, later, here, after, _⟩ := loadAll_cons_ok loaded
    exact List.forall_mem_cons.mpr ⟨loads_iff.mpr ⟨type, here⟩, ih after⟩

/-- What is found under a name is the type that is loaded for it. -/
theorem loadType_of_loadAll (loaded : store.loadAll names = .ok types) {type : CompiledType}
    (known : Keyed.get? types name = some type) : store.loadType name = .ok type := by
  induction names generalizing types with
  | nil =>
    cases loaded
    cases known
  | cons first rest ih =>
    obtain ⟨loadedType, later, here, after, rfl⟩ := loadAll_cons_ok loaded
    rw [Keyed.get?] at known
    split at known
    next same =>
      cases known
      exact same ▸ here
    next => exact ih after known

/-- An error is that of the first name that cannot be loaded. -/
theorem loadAll_error_iff :
    store.loadAll names = .error error ↔
      ∃ before name after, names = before ++ name :: after ∧
        (∀ other ∈ before, store.loads other = true) ∧ store.loadType name = .error error := by
  induction names with
  | nil => simp [loadAll]
  | cons first rest ih =>
    cases here : store.loadType first with
    -- The first name decides alone if it cannot be loaded, and not at all if it can.
    | error other =>
      rw [loadAll_cons_of_error here]
      constructor
      · intro same
        cases same
        exact ⟨[], first, rest, rfl, by simp, here⟩
      · rintro ⟨before, name, after, split, loads, failed⟩
        cases before with
        | nil =>
          cases split
          cases here.symm.trans failed
          rfl
        | cons head tail =>
          cases split
          simp [loads_eq_false_of_error here] at loads
    | ok type =>
      have loaded : store.loads first = true := loads_iff.mpr ⟨type, here⟩
      have shorter : store.loadAll (first :: rest) = .error error ↔
          store.loadAll rest = .error error := by
        rw [loadAll_cons_of_ok here]
        cases store.loadAll rest <;> simp [Except.map]
      rw [shorter, ih]
      constructor
      · rintro ⟨before, name, after, rfl, loads, failed⟩
        exact ⟨first :: before, name, after, rfl, List.forall_mem_cons.mpr ⟨loaded, loads⟩, failed⟩
      · rintro ⟨before, name, after, split, loads, failed⟩
        cases before with
        | nil =>
          cases split
          rw [here] at failed
          cases failed
        | cons head tail =>
          cases split
          exact ⟨tail, name, after, rfl, (List.forall_mem_cons.mp loads).2, failed⟩

theorem closure_ok {set : SchemaSet} (closed : store.closure root = .ok set) :
    ∃ types, store.loadAll (store.breadthFirst root) = .ok types ∧
      set = ⟨root, types, SchemaSet.defaultLimit⟩ := by
  rw [closure] at closed
  cases loaded : store.loadAll (store.breadthFirst root) with
  | error error => simp [loaded, Except.map] at closed
  | ok types =>
    rw [loaded] at closed
    cases closed
    exact ⟨types, rfl, rfl⟩

/-- The types of a closure are those that are loaded for their names. -/
theorem loadType_of_closure {set : SchemaSet} (closed : store.closure root = .ok set)
    {type : CompiledType} (known : set.find? name = some type) :
    store.loadType name = .ok type := by
  obtain ⟨types, loaded, rfl⟩ := closure_ok closed
  exact loadType_of_loadAll loaded known

theorem closure_error_iff :
    store.closure root = .error error ↔
      ∃ before name after, store.breadthFirst root = before ++ name :: after ∧
        (∀ other ∈ before, store.loads other = true) ∧ store.loadType name = .error error := by
  rw [← loadAll_error_iff, closure]
  cases store.loadAll (store.breadthFirst root) <;> simp [Except.map]

/-- Where definitions have the titles that they are stored under, resolving ends. -/
theorem Titled.closure_ne_endless (titled : store.Titled) (root name : String) :
    store.closure root ≠ .error (.endless name) := by
  intro failed
  obtain ⟨_, member, _, _, _, stuck⟩ := closure_error_iff.mp failed
  exact titled.loadType_ne_endless member name stuck

/-- Of the names in breadth-first order, those before the first that cannot be loaded. -/
def closureLoaded (store : Store) (root : String) : List String :=
  (store.breadthFirst root).takeWhile store.loads

theorem takeWhile_loads_append_of_ok (loaded : store.loadAll names = .ok types)
    (more : List String) :
    (names ++ more).takeWhile store.loads = names ++ more.takeWhile store.loads :=
  List.takeWhile_append_of_pos (loads_of_loadAll loaded)

theorem takeWhile_loads_of_ok (loaded : store.loadAll names = .ok types) :
    names.takeWhile store.loads = names := by
  simpa using takeWhile_loads_append_of_ok loaded []

/-- What comes after a failure is not loaded. -/
theorem takeWhile_loads_append_of_error (failed : store.loadAll names = .error error) :
    (names ++ more).takeWhile store.loads = names.takeWhile store.loads := by
  obtain ⟨before, name, after, rfl, loads, stuck⟩ := loadAll_error_iff.mp failed
  have fails : ¬store.loads name = true := by simp [loads_eq_false_of_error stuck]
  rw [List.append_assoc, List.takeWhile_append_of_pos loads, List.takeWhile_append_of_pos loads,
    List.cons_append, List.takeWhile_cons_of_neg fails, List.takeWhile_cons_of_neg fails]

/-- A failure in a layer is the outcome, whatever comes after the layer. -/
theorem loadAll_visit_of_error (known : store.loadAll seen = .ok found)
    (failed : store.loadAll names = .error error) (rounds : Nat) :
    store.loadAll (store.visit rounds seen names) = .error error ∧
      (store.visit rounds seen names).takeWhile store.loads =
        seen ++ names.takeWhile store.loads := by
  obtain ⟨more, visited⟩ := prefix_visit store rounds seen names
  have both : store.loadAll (seen ++ names) = .error error := by
    rw [loadAll_append_of_ok known, failed]
    rfl
  rw [← visited]
  exact ⟨loadAll_append_of_error both,
    by rw [takeWhile_loads_append_of_error both, takeWhile_loads_append_of_ok known]⟩

theorem subset_takeWhile_visit (known : store.loadAll seen = .ok found) (rounds : Nat)
    (names : List String) : seen ⊆ (store.visit rounds seen names).takeWhile store.loads := by
  obtain ⟨more, visited⟩ := prefix_visit store rounds seen names
  rw [← visited, List.append_assoc, takeWhile_loads_append_of_ok known]
  exact List.subset_append_left _ _

end Store

namespace Registry

variable {store : Store} {registry between after : Registry} {name root : String}
  {names more seen : List String} {found : Keyed CompiledType}

/-! ### What a registry keeps of a store -/

/-- Whether a registry keeps nothing but what its store gives. -/
structure Mirrors (registry : Registry) (store : Store) : Prop where
  same : registry.store = store
  distinct : Keyed.Distinct registry.types
  types : ∀ name type, Keyed.get? registry.types name = some type →
    store.loadType name = .ok type
  sets : ∀ root set, Keyed.get? registry.sets root = some set →
    store.closure root = .ok set ∧ ∀ name ∈ store.closureLoaded root, registry.isCached name = true

theorem mirrors_ofStore (store : Store) : (ofStore store).Mirrors store where
  same := rfl
  distinct := Keyed.distinct_nil
  types name type kept := by cases kept
  sets root set kept := by cases kept

/-- Whether a registry has come to keep the types of some more names. -/
structure Grows (registry : Registry) (store : Store) (names : List String) (after : Registry) :
    Prop where
  mirrors : after.Mirrors store
  cached : ∀ name, after.isCached name = true ↔ registry.isCached name = true ∨ name ∈ names

theorem Mirrors.grows_self (mirrors : registry.Mirrors store)
    (kept : ∀ name ∈ names, registry.isCached name = true) :
    registry.Grows store names registry where
  mirrors := mirrors
  cached name := ⟨.inl, fun either => either.elim id (kept name)⟩

theorem Grows.trans (first : registry.Grows store names between)
    (second : between.Grows store more after) : registry.Grows store (names ++ more) after where
  mirrors := second.mirrors
  cached name := by rw [second.cached, first.cached, List.mem_append, or_assoc]

theorem Grows.absorb (first : registry.Grows store names between)
    (second : between.Grows store more after) (inside : names ⊆ more) :
    registry.Grows store more after where
  mirrors := second.mirrors
  cached name := by
    rw [second.cached, first.cached, or_assoc, or_iff_right_of_imp (@inside name)]

theorem isCached_iff : registry.isCached name = true ↔
    ∃ type, Keyed.get? registry.types name = some type := by
  rw [isCached, Keyed.contains, Option.isSome_iff_exists]

theorem isCached_insert (type : CompiledType) (other : String) :
    isCached { registry with types := Keyed.insert registry.types name type } other = true ↔
      registry.isCached other = true ∨ other = name := by
  by_cases same : name = other
  · subst same
    simp [isCached, Keyed.contains, Keyed.get?_insert_self]
  · simp [isCached, Keyed.contains, Keyed.get?_insert_other _ _ _ _ same, Ne.symm same]

/-- A type is that which its store gives, and is kept from then on. -/
theorem Mirrors.get {outcome : Except RegistryError CompiledType} (mirrors : registry.Mirrors store)
    (ran : registry.get name = (outcome, after)) :
    outcome = store.loadType name ∧ registry.Grows store ([name].takeWhile store.loads) after := by
  obtain rfl := mirrors.same
  unfold Registry.get at ran
  split at ran
  -- What is kept is what the store would give.
  next type kept =>
    cases ran
    have loaded := mirrors.types name type kept
    refine ⟨loaded.symm, mirrors.grows_self fun other member => ?_⟩
    rw [List.mem_singleton.mp (List.takeWhile_subset _ member)]
    exact isCached_iff.mpr ⟨type, kept⟩
  next =>
    split at ran
    -- A type that fails to load leaves nothing behind.
    next error failed =>
      cases ran
      exact ⟨failed.symm, mirrors.grows_self (by simp [Store.loads_eq_false_of_error failed])⟩
    next type loaded =>
      cases ran
      have loads : registry.store.loads name = true := Store.loads_iff.mpr ⟨type, loaded⟩
      refine ⟨loaded.symm, ⟨rfl, Keyed.distinct_insert mirrors.distinct _ _, ?_, ?_⟩, ?_⟩
      · intro other kept known
        by_cases same : name = other
        · subst same
          rw [Keyed.get?_insert_self] at known
          cases known
          exact loaded
        · rw [Keyed.get?_insert_other _ _ _ _ same] at known
          exact mirrors.types other kept known
      · intro other set known
        obtain ⟨closed, kept⟩ := mirrors.sets other set known
        refine ⟨closed, fun member listed => ?_⟩
        exact (isCached_insert type member).mpr (.inl (kept member listed))
      · intro other
        rw [isCached_insert]
        simp [loads]

/-! ### One layer -/

section Collect

variable {budget : Nat} {later : List String}

theorem collect_cons_of_known (known : name ∈ Keyed.keys found) :
    registry.collect budget found (name :: names) = registry.collect budget found names := by
  rw [collect, if_pos (Keyed.contains_iff.mpr known)]

theorem collect_cons_of_noSchema {other : String} (unknown : name ∉ Keyed.keys found)
    (ran : registry.get name = (.error (.noSchema other), between)) :
    registry.collect budget found (name :: names) = between.collect budget found names := by
  rw [collect, if_neg (Keyed.contains_iff.not.mpr unknown), ran]

theorem collect_cons_of_error {error : RegistryError} (unknown : name ∉ Keyed.keys found)
    (ran : registry.get name = (.error error, between))
    (serious : ∀ other, error ≠ .noSchema other) :
    registry.collect budget found (name :: names) = (.error error, between) := by
  rw [collect, if_neg (Keyed.contains_iff.not.mpr unknown), ran]
  cases error with
  | noSchema other => exact absurd rfl (serious other)
  | _ => rfl

theorem collect_cons_of_ok {type : CompiledType} (unknown : name ∉ Keyed.keys found)
    (ran : registry.get name = (.ok type, between)) (room : 0 < budget) :
    registry.collect budget found (name :: names) =
      between.collect (budget - 1) (found ++ [(name, type)]) (names ++ type.schema.references) := by
  rw [collect, if_neg (Keyed.contains_iff.not.mpr unknown), ran]
  cases budget with
  | zero => exact absurd room (Nat.lt_irrefl 0)
  | succ budget => rfl

/-- A registry on its way: some names have been seen, their types have been found and kept, and the
budget suffices for all others. -/
structure Underway (store : Store) (registry : Registry) (budget : Nat) (seen : List String)
    (found : Keyed CompiledType) : Prop where
  mirrors : registry.Mirrors store
  known : store.loadAll seen = .ok found
  nodup : seen.Nodup
  kept : ∀ name ∈ seen, registry.isCached name = true
  room : store.size ≤ budget + seen.length

namespace Underway

/-- Different types have different documents, so there is budget for another one. -/
theorem budget_pos (underway : Underway store registry budget seen found) (unseen : name ∉ seen)
    (loads : store.loads name = true) : 0 < budget := by
  have each : ∀ other ∈ name :: seen, store.Holds other := List.forall_mem_cons.mpr
    ⟨Store.holds_of_loads loads,
      fun other member => Store.holds_of_loads (Store.loads_of_loadAll underway.known other member)⟩
  have few := store.length_le_size _ (List.nodup_cons.mpr ⟨unseen, underway.nodup⟩) each
  have room := underway.room
  rw [List.length_cons] at few
  omega

theorem skip (underway : Underway store registry budget seen found)
    (grows : registry.Grows store [] between) : Underway store between budget seen found where
  mirrors := grows.mirrors
  known := underway.known
  nodup := underway.nodup
  kept name member := (grows.cached name).mpr (.inl (underway.kept name member))
  room := underway.room

theorem add {type : CompiledType} (underway : Underway store registry budget seen found)
    (unseen : name ∉ seen) (loaded : store.loadType name = .ok type)
    (grows : registry.Grows store [name] between) :
    Underway store between (budget - 1) (seen ++ [name]) (found ++ [(name, type)]) where
  mirrors := grows.mirrors
  known := by
    rw [Store.loadAll_append_of_ok underway.known, Store.loadAll_cons_of_ok loaded]
    rfl
  nodup := by
    simpa [List.nodup_append, underway.nodup] using
      fun other member => ne_of_mem_of_not_mem member unseen
  kept other member := (grows.cached other).mpr
    ((List.mem_append.mp member).imp_left (underway.kept other))
  room := by
    have pos := underway.budget_pos unseen (Store.loads_iff.mpr ⟨type, loaded⟩)
    have room := underway.room
    rw [List.length_append, List.length_singleton]
    omega

/-- The names that wait up to some point are loaded one after another, and what the loaded ones
refer to comes after everything else that waits. -/
theorem collect_layer (underway : Underway store registry budget seen found)
    (names later : List String) :
    ∃ between, registry.Grows store ((store.layer seen names).takeWhile store.loads) between ∧
      match store.loadAll (store.layer seen names) with
      | .error error => registry.collect budget found (names ++ later) = (.error error, between)
      | .ok types => ∃ left,
        Underway store between left (seen ++ store.layer seen names) (found ++ types) ∧
        registry.collect budget found (names ++ later) = between.collect left (found ++ types)
          (later ++ (store.layer seen names).flatMap store.references) := by
  induction names generalizing registry seen found budget later with
  | nil =>
    refine ⟨registry, underway.mirrors.grows_self (by simp [Store.layer]), ?_⟩
    exact ⟨budget, by simpa [Store.layer] using underway, by simp [Store.layer]⟩
  | cons name rest ih =>
    have keys := Store.keys_of_loadAll underway.known
    by_cases old : name ∈ seen
    -- What has been found is left out.
    · rw [Store.layer_cons_of_stale (.inl old), List.cons_append,
        collect_cons_of_known (keys ▸ old)]
      exact ih underway later
    have unknown : name ∉ Keyed.keys found := keys ▸ old
    obtain ⟨outcome, next, ran⟩ : ∃ outcome next, registry.get name = (outcome, next) := ⟨_, _, rfl⟩
    obtain ⟨rfl, grows⟩ := underway.mirrors.get ran
    cases defined : store.defines name with
    -- So is what the store does not define.
    | false =>
      have missing := Store.loadType_noSchema_iff.mpr ⟨Store.defines_eq_false_iff.mp defined, rfl⟩
      have none : [name].takeWhile store.loads = [] := by
        simp [Store.loads_eq_false_of_error missing]
      rw [missing] at ran
      rw [none] at grows
      rw [Store.layer_cons_of_stale (.inr defined), List.cons_append,
        collect_cons_of_noSchema unknown ran]
      obtain ⟨last, more, collected⟩ := ih (underway.skip grows) later
      exact ⟨last, grows.trans more, collected⟩
    | true =>
      rw [Store.layer_cons_of_fresh old defined, List.cons_append]
      cases loaded : store.loadType name with
      -- An error ends the walk, unless it is that there is no schema, which it cannot be here.
      | error error =>
        rw [loaded] at ran
        have fails := Store.loads_eq_false_of_error loaded
        have serious (other : String) : error ≠ .noSchema other := by
          rintro rfl
          have missing := (Store.loadType_noSchema_iff.mp loaded).1
          rw [Store.defines_eq_false_iff.mpr missing] at defined
          cases defined
        refine ⟨next, by simpa [fails] using grows, ?_⟩
        rw [Store.loadAll_cons_of_error loaded]
        exact collect_cons_of_error unknown ran serious
      -- A new type is added, and what it refers to waits behind all the rest.
      | ok type =>
        rw [loaded] at ran
        have loads : store.loads name = true := Store.loads_iff.mpr ⟨type, loaded⟩
        have refers : store.references name = type.schema.references := by
          rw [Store.references, loaded]
        rw [List.takeWhile_cons_of_pos loads, List.takeWhile_nil] at grows
        obtain ⟨last, more, collected⟩ :=
          ih (underway.add old loaded grows) (later ++ type.schema.references)
        refine ⟨last, by simpa [loads] using grows.trans more, ?_⟩
        rw [collect_cons_of_ok unknown ran (underway.budget_pos old loads), List.append_assoc,
          Store.loadAll_cons_of_ok loaded]
        cases rest : store.loadAll (store.layer (seen ++ [name]) rest) with
        | error error => simpa [rest, Except.map] using collected
        | ok types => simpa [rest, Except.map, refers] using collected

/-! ### All layers -/

theorem collect_of_error {error : RegistryError}
    (underway : Underway store registry budget seen found)
    (failed : store.loadAll (store.layer seen names) = .error error) (rounds : Nat) :
    ∃ last, registry.Grows store
        ((store.visit rounds seen (store.layer seen names)).takeWhile store.loads) last ∧
      registry.collect budget found names =
        (store.loadAll (store.visit rounds seen (store.layer seen names)), last) := by
  obtain ⟨last, grows, collected⟩ := underway.collect_layer names []
  obtain ⟨overall, before⟩ := Store.loadAll_visit_of_error underway.known failed rounds
  rw [failed, List.append_nil] at collected
  rw [overall, before]
  exact ⟨last, (underway.mirrors.grows_self underway.kept).trans grows, collected⟩

theorem collect_of_ok {types : Keyed CompiledType}
    (underway : Underway store registry budget seen found)
    (loaded : store.loadAll (store.layer seen names) = .ok types) :
    ∃ between left, registry.Grows store (seen ++ store.layer seen names) between ∧
      Underway store between left (seen ++ store.layer seen names) (found ++ types) ∧
      registry.collect budget found names = between.collect left (found ++ types)
        ((store.layer seen names).flatMap store.references) := by
  obtain ⟨between, grows, collected⟩ := underway.collect_layer names []
  rw [loaded, List.append_nil] at collected
  rw [Store.takeWhile_loads_of_ok loaded] at grows
  obtain ⟨left, still, rest⟩ := collected
  exact ⟨between, left, (underway.mirrors.grows_self underway.kept).trans grows, still, rest⟩

/-- The queue is worked off layer by layer until nothing new can be loaded. -/
theorem collect {rounds : Nat} (underway : Underway store registry budget seen found)
    (enough : store.Enough rounds seen (store.layer seen names)) :
    ∃ last, registry.Grows store
        ((store.visit rounds seen (store.layer seen names)).takeWhile store.loads) last ∧
      registry.collect budget found names =
        (store.loadAll (store.visit rounds seen (store.layer seen names)), last) := by
  induction rounds generalizing registry seen found budget names with
  | zero =>
    cases loaded : store.loadAll (store.layer seen names) with
    | error error => exact underway.collect_of_error loaded 0
    | ok types =>
      -- With no rounds left nothing in the layer can be loaded, and yet all of it has been.
      have empty : store.layer seen names = [] := by
        refine List.eq_nil_iff_forall_not_mem.mpr fun name member => ?_
        have loads := Store.loads_of_loadAll loaded name member
        rw [enough.idle (Store.nodup_append_layer underway.nodup) name member] at loads
        cases loads
      obtain ⟨last, left, grows, still, collected⟩ := underway.collect_of_ok loaded
      have visited : store.visit 0 seen (store.layer seen names) = seen ++ store.layer seen names :=
        rfl
      rw [visited, still.known, Store.takeWhile_loads_of_ok still.known, collected, empty,
        List.flatMap_nil, Registry.collect]
      exact ⟨last, empty ▸ grows, rfl⟩
  | succ rounds ih =>
    cases loaded : store.loadAll (store.layer seen names) with
    | error error => exact underway.collect_of_error loaded (rounds + 1)
    | ok types =>
      obtain ⟨between, left, grows, still, collected⟩ := underway.collect_of_ok loaded
      obtain ⟨last, more, rest⟩ := ih still enough.next
      rw [collected, Store.visit]
      exact ⟨last, grows.absorb more (Store.subset_takeWhile_visit still.known rounds _), rest⟩

end Underway

end Collect

/-! ### The whole walk -/

theorem Mirrors.walk {outcome : Except RegistryError SchemaSet} (mirrors : registry.Mirrors store)
    (ran : registry.walk root = (outcome, after)) :
    outcome = store.closure root ∧ registry.Grows store (store.closureLoaded root) after := by
  unfold Registry.walk at ran
  obtain ⟨first, next, got⟩ : ∃ first next, registry.get root = (first, next) := ⟨_, _, rfl⟩
  obtain ⟨rfl, grows⟩ := mirrors.get got
  rw [got] at ran
  have none : store.loadAll [] = .ok [] := rfl
  cases loaded : store.loadType root with
  | error error =>
    rw [loaded] at ran
    cases ran
    obtain ⟨failed, before⟩ :=
      Store.loadAll_visit_of_error none (Store.loadAll_cons_of_error loaded) store.size
    rw [Store.closure, Store.closureLoaded, Store.breadthFirst, failed, before]
    exact ⟨rfl, grows⟩
  | ok type =>
    rw [loaded] at ran
    have loads : store.loads root = true := Store.loads_iff.mpr ⟨type, loaded⟩
    obtain ⟨rounds, visited, enough⟩ := Store.breadthFirst_of_loads loads
    rw [List.takeWhile_cons_of_pos loads, List.takeWhile_nil] at grows
    -- The root alone is the first layer, and the queue holds what it refers to.
    have underway : Underway store next (next.types.length + next.store.size) [root]
        [(root, type)] :=
      { mirrors := grows.mirrors
        known := by rw [Store.loadAll_cons_of_ok loaded, none]; rfl
        nodup := List.nodup_singleton root
        kept := fun name member => (grows.cached name).mpr (.inr member)
        room := by rw [grows.mirrors.same]; omega }
    have refers : type.schema.references = store.references root := by
      rw [Store.references, loaded]
    obtain ⟨last, more, collected⟩ := underway.collect enough
    have before := Store.subset_takeWhile_visit underway.known rounds
      (store.layer [root] (store.references root))
    rw [← visited] at more collected before
    have kept := grows.absorb more before
    simp only [refers, collected] at ran
    rw [Store.closure]
    cases overall : store.loadAll (store.breadthFirst root) with
    | error error =>
      rw [overall] at ran
      cases ran
      exact ⟨rfl, kept⟩
    | ok types =>
      rw [overall] at ran
      cases ran
      exact ⟨rfl, kept⟩

theorem Mirrors.resolve {outcome : Except RegistryError SchemaSet}
    (mirrors : registry.Mirrors store) (ran : registry.resolve root = (outcome, after)) :
    outcome = store.closure root ∧ registry.Grows store (store.closureLoaded root) after := by
  unfold Registry.resolve at ran
  split at ran
  -- A set that is kept has been walked over before, so its types are kept as well.
  next set kept =>
    cases ran
    obtain ⟨closed, cached⟩ := mirrors.sets root set kept
    exact ⟨closed.symm, mirrors.grows_self cached⟩
  next =>
    split at ran
    next error between walked =>
      cases ran
      exact mirrors.walk walked
    next set between walked =>
      cases ran
      obtain ⟨closed, grows⟩ := mirrors.walk walked
      have still := grows.mirrors
      refine ⟨closed, ⟨⟨still.same, still.distinct, still.types, ?_⟩, grows.cached⟩⟩
      intro other kept known
      by_cases same : root = other
      · subst same
        rw [Keyed.get?_insert_self] at known
        cases known
        exact ⟨closed.symm, fun name listed => (grows.cached name).mpr (.inr listed)⟩
      · rw [Keyed.get?_insert_other _ _ _ _ same] at known
        exact still.sets other kept known

end Registry

end DocSchema
