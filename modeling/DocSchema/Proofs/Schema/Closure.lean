import DocSchema.Proofs.Schema.Lineage

/-!
# What a root refers to

The types that a root needs are those it refers to, those that these refer to, and so on, as far as
the store has anything under their names. They can be listed in breadth-first order, layer by
layer. Main statements: `Store.mem_breadthFirst_iff` and `Store.exists_prefix_breadthFirst`.
-/

namespace DocSchema

/-! ### References of a type -/

/-- Whether a shape names a type at any depth. -/
inductive Shape.Mentions : Shape → String → Prop where
  | ref (name : String) : Mentions (.ref name) name
  | items {items : Shape} {name : String} (inside : Mentions items name) :
      Mentions (.array items) name
  | alternative {alternatives : List Shape} {alternative : Shape} {name : String}
      (member : alternative ∈ alternatives) (inside : Mentions alternative name) :
      Mentions (.oneOf alternatives) name
  | inner {format : String} {inner : Shape} {name : String} (inside : Mentions inner name) :
      Mentions (.decode format inner) name

namespace Shape

mutual

theorem mem_references_iff {name : String} :
    ∀ {shape : Shape}, name ∈ shape.references ↔ shape.Mentions name
  | .any | .scalar _ | .object | .enum _ => by
    simp only [references, List.not_mem_nil, false_iff]
    rintro ⟨⟩
  | .ref other => by
    simp only [references, List.mem_singleton]
    exact ⟨fun same => same ▸ .ref name, fun mentions => by cases mentions; rfl⟩
  | .array items => by
    rw [references, mem_references_iff]
    exact ⟨.items, fun mentions => by cases mentions; assumption⟩
  | .oneOf alternatives => by
    rw [references, mem_referencesAll_iff]
    exact ⟨fun ⟨_, member, inside⟩ => .alternative member inside,
      fun mentions => by cases mentions; exact ⟨_, ‹_›, ‹_›⟩⟩
  | .decode format inner => by
    rw [references, mem_references_iff]
    exact ⟨.inner, fun mentions => by cases mentions; assumption⟩

theorem mem_referencesAll_iff {name : String} :
    ∀ {shapes : List Shape}, name ∈ referencesAll shapes ↔ ∃ shape ∈ shapes, shape.Mentions name
  | [] => by simp [referencesAll]
  | shape :: rest => by
    rw [referencesAll, List.mem_append, mem_references_iff, mem_referencesAll_iff]
    simp

end

end Shape

namespace TypeSchema

/-- Whether a property or an alternative of a type names another type. -/
def RefersTo (type : TypeSchema) (name : String) : Prop :=
  ∃ shape ∈ type.shapes, shape.Mentions name

theorem mem_references_iff {type : TypeSchema} {name : String} :
    name ∈ type.references ↔ type.RefersTo name := by
  have added (names known : List String) :
      name ∈ names.foldl (fun all name => if all.contains name then all else all ++ [name]) known ↔
        name ∈ known ∨ name ∈ names := by
    induction names generalizing known with
    | nil => simp
    | cons first rest ih =>
      rw [List.foldl_cons, ih]
      split
      -- A name that is listed already is not listed again.
      next listed =>
        have present : first ∈ known := List.contains_iff_mem.mp listed
        rw [List.mem_cons]
        exact ⟨fun found => found.imp_right .inr, fun found => found.elim .inl fun later =>
          later.elim (fun same => .inl (same ▸ present)) .inr⟩
      next => simp [or_assoc]
  rw [references, added, RefersTo, ← Shape.mem_referencesAll_iff]
  simp

end TypeSchema

namespace Store

/-! ### Names of a store -/

/-- Whether a store has anything under a name, be it readable or not. -/
def defines (store : Store) (name : String) : Bool :=
  match store.load name with
  | .ok none => false
  | _ => true

/-- Whether the type of a name can be loaded. -/
def loads (store : Store) (name : String) : Bool := (store.loadType name).isOk

/-- The names that the type of a name refers to, if it can be loaded. -/
def references (store : Store) (name : String) : List String :=
  match store.loadType name with
  | .ok type => type.schema.references
  | .error _ => []

variable {store : Store} {name root : String}

theorem loads_iff : store.loads name = true ↔ ∃ type, store.loadType name = .ok type := by
  unfold loads
  cases store.loadType name <;> simp [Except.isOk, Except.toBool]

theorem loads_eq_false_of_error {error : RegistryError}
    (failed : store.loadType name = .error error) : store.loads name = false := by
  simp [loads, failed, Except.isOk, Except.toBool]

theorem defines_eq_false_iff : store.defines name = false ↔ store.load name = .ok none := by
  unfold defines
  split
  next missing => simp [missing]
  next other => simpa using other

/-- Only the first definition of a chain can be missing without being a parent. -/
theorem definitionsFrom_ne_noSchema {fuel : Nat} {chain : List TypeDefinition}
    {current other : String} (begun : chain ≠ []) :
    store.definitionsFrom name fuel chain current ≠ some (.error (.noSchema other)) := by
  induction fuel generalizing chain current with
  | zero => simp [definitionsFrom]
  | succ fuel ih =>
    rw [definitionsFrom]
    split
    next => simp
    next =>
      split
      next => simp
      next => simp [begun]
      next =>
        split
        next => simp
        next =>
          split
          next => simp
          next => exact ih (by simp)

theorem definitionsFrom_noSchema_iff (fuel : Nat) {other : String} :
    store.definitionsFrom name (fuel + 1) [] name = some (.error (.noSchema other)) ↔
      store.load name = .ok none ∧ other = name := by
  rw [definitionsFrom]
  cases loaded : store.load name with
  | error error => simp
  | ok stored =>
    cases stored with
    | none => simp [eq_comm]
    | some document =>
      cases read : TypeDefinition.ofJson? document with
      | none => simp [read]
      | some definition =>
        cases extended : definition.parent with
        | none => simp [read, extended]
        | some parent => simp [read, extended, definitionsFrom_ne_noSchema]

/-- A type has no schema exactly where nothing is stored under its name. -/
theorem loadType_noSchema_iff {other : String} :
    store.loadType name = .error (.noSchema other) ↔
      store.load name = .ok none ∧ other = name := by
  rw [← definitionsFrom_noSchema_iff (2 * store.size + 1), loadType, chainFuel]
  cases store.definitionsFrom name (2 * store.size + 1 + 1) [] name with
  | none => simp
  | some outcome =>
    cases outcome with
    | error error => simp
    | ok chain =>
      dsimp only
      split <;> simp

theorem holds_of_loads (loads : store.loads name = true) : store.Holds name := by
  obtain ⟨type, loaded⟩ := loads_iff.mp loads
  rw [loadType, chainFuel, definitionsFrom] at loaded
  cases answered : store.load name with
  | error error => simp [answered] at loaded
  | ok stored =>
    cases stored with
    | none => simp [answered] at loaded
    | some document => exact ⟨document, answered⟩

theorem loads_of_mem_references {other : String} (listed : other ∈ store.references name) :
    store.loads name = true := by
  unfold references at listed
  split at listed
  next type loaded => exact loads_iff.mpr ⟨type, loaded⟩
  next => cases listed

theorem mem_references_iff {type : CompiledType} (loaded : store.loadType name = .ok type)
    {other : String} : other ∈ store.references name ↔ type.schema.RefersTo other := by
  rw [references, loaded]
  exact TypeSchema.mem_references_iff

/-! ### Reaching names -/

/-- The names that are come to from a root by following references. Only those that the store
defines count, other than the root. -/
inductive Reachable (store : Store) (root : String) : String → Prop where
  | root : Reachable store root root
  | step {name other : String} {type : CompiledType} (reached : Reachable store root name)
      (loaded : store.loadType name = .ok type) (refers : type.schema.RefersTo other)
      (defined : store.defines other = true) : Reachable store root other

/-- The names that are come to in no more than so many steps. -/
inductive ReachableWithin (store : Store) (root : String) : Nat → String → Prop where
  | root (steps : Nat) : ReachableWithin store root steps root
  | step {steps : Nat} {name other : String} {type : CompiledType}
      (reached : ReachableWithin store root steps name) (loaded : store.loadType name = .ok type)
      (refers : type.schema.RefersTo other) (defined : store.defines other = true) :
      ReachableWithin store root (steps + 1) other

theorem ReachableWithin.reachable {steps : Nat} (reached : store.ReachableWithin root steps name) :
    store.Reachable root name := by
  induction reached with
  | root => exact .root
  | step _ loaded refers defined ih => exact ih.step loaded refers defined

theorem ReachableWithin.mono {steps more : Nat} (reached : store.ReachableWithin root steps name)
    (order : steps ≤ more) : store.ReachableWithin root more name := by
  induction reached generalizing more with
  | root => exact .root more
  | step _ loaded refers defined ih =>
    obtain ⟨fewer, rfl⟩ := Nat.exists_eq_add_of_le' (Nat.one_le_of_lt order)
    exact (ih (Nat.le_of_succ_le_succ order)).step loaded refers defined

/-- Of some names, those that the store defines and that have not been seen, each once. -/
def layer (store : Store) (seen : List String) : List String → List String
  | [] => []
  | name :: rest =>
    if store.defines name && !seen.contains name then
      name :: store.layer (seen ++ [name]) rest
    else store.layer seen rest

/-- What has been seen, then a layer, and then in so many rounds what that refers to, what this
refers to, and so on. -/
def visit (store : Store) : Nat → List String → List String → List String
  | 0, seen, layer => seen ++ layer
  | rounds + 1, seen, layer =>
    store.visit rounds (seen ++ layer)
      (store.layer (seen ++ layer) (layer.flatMap store.references))

/-- A root and what is reached from it in breadth-first order. -/
def breadthFirst (store : Store) (root : String) : List String :=
  store.visit store.size [] [root]

variable {seen names : List String}

theorem layer_cons_of_stale (stale : name ∈ seen ∨ store.defines name = false) :
    store.layer seen (name :: names) = store.layer seen names := by
  rw [layer, if_neg]
  rcases stale with old | missing
  · simp [old]
  · simp [missing]

theorem layer_cons_of_fresh (fresh : name ∉ seen) (defined : store.defines name = true) :
    store.layer seen (name :: names) = name :: store.layer (seen ++ [name]) names := by
  rw [layer, if_pos]
  simp [fresh, defined]

theorem mem_layer_iff {other : String} :
    other ∈ store.layer seen names ↔
      other ∈ names ∧ store.defines other = true ∧ other ∉ seen := by
  induction names generalizing seen with
  | nil => simp [layer]
  | cons first rest ih =>
    by_cases stale : first ∈ seen ∨ store.defines first = false
    · rw [layer_cons_of_stale stale, ih, List.mem_cons]
      refine ⟨fun ⟨later, fine⟩ => ⟨.inr later, fine⟩, ?_⟩
      rintro ⟨rfl | later, defined, unseen⟩
      · exact absurd stale (by simp [unseen, defined])
      · exact ⟨later, defined, unseen⟩
    · rw [not_or, Bool.not_eq_false] at stale
      rw [layer_cons_of_fresh stale.1 stale.2, List.mem_cons, List.mem_cons, ih, List.mem_append,
        List.mem_singleton, not_or]
      constructor
      · rintro (rfl | ⟨later, defined, unseen, _⟩)
        · exact ⟨.inl rfl, stale.2, stale.1⟩
        · exact ⟨.inr later, defined, unseen⟩
      · rintro ⟨rfl | later, defined, unseen⟩
        · exact .inl rfl
        · by_cases same : other = first
          · exact .inl same
          · exact .inr ⟨later, defined, unseen, same⟩

/-- The names of the next layer are referred to by types of this one. -/
theorem refers_of_mem_layer {other : String}
    (fresh : other ∈ store.layer seen (names.flatMap store.references)) :
    ∃ owner ∈ names, ∃ type, store.loadType owner = .ok type ∧ type.schema.RefersTo other ∧
      store.defines other = true := by
  obtain ⟨referred, defined, _⟩ := mem_layer_iff.mp fresh
  obtain ⟨owner, member, listed⟩ := List.mem_flatMap.mp referred
  obtain ⟨type, loaded⟩ := loads_iff.mp (loads_of_mem_references listed)
  exact ⟨owner, member, type, loaded, (mem_references_iff loaded).mp listed, defined⟩

theorem nodup_layer (seen names : List String) : (store.layer seen names).Nodup := by
  induction names generalizing seen with
  | nil => exact List.nodup_nil
  | cons first rest ih =>
    rw [layer]
    split
    next => exact List.nodup_cons.mpr ⟨by simp [mem_layer_iff], ih _⟩
    next => exact ih _

theorem nodup_append_layer (nodup : seen.Nodup) : (seen ++ store.layer seen names).Nodup := by
  refine List.nodup_append.mpr ⟨nodup, nodup_layer _ _, fun old before new fresh same => ?_⟩
  exact (mem_layer_iff.mp fresh).2.2 (same ▸ before)

/-! ### The invariant of the rounds -/

/-- What has been seen and the layer after it, none twice: both are reached, and what has been seen
refers to nothing else. -/
structure Spread (store : Store) (root : String) (seen layer : List String) : Prop where
  nodup : (seen ++ layer).Nodup
  reachable : ∀ name ∈ seen ++ layer, store.Reachable root name
  closed : ∀ name ∈ seen, ∀ other ∈ store.references name, store.defines other = true →
    other ∈ seen ++ layer

variable {layer : List String}

theorem spread_root (store : Store) (root : String) : store.Spread root [] [root] where
  nodup := List.nodup_singleton root
  reachable name member := by
    rw [List.mem_singleton.mp member]
    exact .root
  closed name member := by cases member

theorem Spread.next (spread : store.Spread root seen layer) :
    store.Spread root (seen ++ layer)
      (store.layer (seen ++ layer) (layer.flatMap store.references)) where
  nodup := nodup_append_layer spread.nodup
  reachable name member := by
    rcases List.mem_append.mp member with before | fresh
    · exact spread.reachable name before
    · obtain ⟨owner, inLayer, type, loaded, refers, defined⟩ := refers_of_mem_layer fresh
      have reached := spread.reachable owner (List.mem_append_right _ inLayer)
      exact reached.step loaded refers defined
  closed name member other listed defined := by
    by_cases old : other ∈ seen ++ layer
    · exact List.mem_append_left _ old
    -- Only types of the last layer can refer to something new.
    · rcases List.mem_append.mp member with before | inLayer
      · exact absurd (spread.closed name before other listed defined) old
      · have referred : other ∈ layer.flatMap store.references :=
          List.mem_flatMap.mpr ⟨name, inLayer, listed⟩
        exact List.mem_append_right _ (mem_layer_iff.mpr ⟨referred, defined, old⟩)

/-- Every round goes one step further. -/
theorem Spread.within_next {steps : Nat} (spread : store.Spread root seen layer)
    (within : ∀ name, name ∈ seen ++ layer ↔ store.ReachableWithin root steps name)
    (name : String) :
    name ∈ (seen ++ layer) ++ store.layer (seen ++ layer) (layer.flatMap store.references) ↔
      store.ReachableWithin root (steps + 1) name := by
  constructor
  · intro listed
    rcases List.mem_append.mp listed with before | fresh
    · exact ((within name).mp before).mono (Nat.le_succ steps)
    · obtain ⟨owner, inLayer, type, loaded, refers, defined⟩ := refers_of_mem_layer fresh
      have reached := (within owner).mp (List.mem_append_right _ inLayer)
      exact reached.step loaded refers defined
  · intro reached
    cases reached with
    | root => exact List.mem_append_left _ ((within root).mpr (.root steps))
    | @step _ owner _ _ reached loaded refers defined =>
      have listed := (mem_references_iff loaded).mpr refers
      exact spread.next.closed owner ((within owner).mpr reached) name listed defined

theorem Spread.mem_visit_iff {steps : Nat} (spread : store.Spread root seen layer)
    (within : ∀ name, name ∈ seen ++ layer ↔ store.ReachableWithin root steps name)
    (rounds : Nat) :
    name ∈ store.visit rounds seen layer ↔ store.ReachableWithin root (steps + rounds) name := by
  induction rounds generalizing seen layer steps with
  | zero => exact within name
  | succ rounds ih =>
    rw [(by omega : steps + (rounds + 1) = steps + 1 + rounds)]
    exact ih spread.next (spread.within_next within)

/-- Whether the rounds left suffice, since each loads a type or is the last one. -/
def Enough (store : Store) (rounds : Nat) (seen layer : List String) : Prop :=
  (∀ name ∈ layer, store.loads name = false) ∨
    store.size ≤ rounds + (seen.filter store.loads).length

theorem Enough.next {rounds : Nat} (enough : store.Enough (rounds + 1) seen layer) :
    store.Enough rounds (seen ++ layer)
      (store.layer (seen ++ layer) (layer.flatMap store.references)) := by
  by_cases idle : ∀ name ∈ layer, store.loads name = false
  -- A layer of which nothing can be loaded refers to nothing.
  · left
    intro name member
    obtain ⟨owner, inLayer, type, loaded, _⟩ := refers_of_mem_layer member
    exact absurd (loads_iff.mpr ⟨type, loaded⟩) (by simp [idle owner inLayer])
  -- Any other one makes up for the round that is spent on it.
  · right
    have bound := enough.resolve_left idle
    push Not at idle
    obtain ⟨name, member, loaded⟩ := idle
    have some : 0 < (layer.filter store.loads).length :=
      List.length_pos_of_mem (List.mem_filter.mpr ⟨member, by simpa using loaded⟩)
    rw [List.filter_append, List.length_append]
    omega

/-- When no rounds are left nothing new can be loaded. -/
theorem Enough.idle (enough : store.Enough 0 seen layer) (nodup : (seen ++ layer).Nodup) :
    ∀ name ∈ layer, store.loads name = false := by
  refine enough.elim id fun bound name member => Bool.eq_false_iff.mpr fun loaded => ?_
  have stored : ∀ other ∈ (seen ++ layer).filter store.loads, store.Holds other :=
    fun other filtered => holds_of_loads (List.mem_filter.mp filtered).2
  have few := store.length_le_size _ (nodup.filter store.loads) stored
  have some : 0 < (layer.filter store.loads).length :=
    List.length_pos_of_mem (List.mem_filter.mpr ⟨member, loaded⟩)
  rw [List.filter_append, List.length_append] at few
  omega

theorem prefix_visit (store : Store) (rounds : Nat) (seen layer : List String) :
    seen ++ layer <+: store.visit rounds seen layer := by
  induction rounds generalizing seen layer with
  | zero => exact List.prefix_refl _
  | succ rounds ih => exact (List.prefix_append _ _).trans (ih _ _)

/-- More rounds only add names behind. -/
theorem visit_prefix_visit (store : Store) (rounds more : Nat) (seen layer : List String) :
    store.visit rounds seen layer <+: store.visit (rounds + more) seen layer := by
  induction rounds generalizing seen layer with
  | zero => exact prefix_visit store _ seen layer
  | succ rounds ih =>
    rw [Nat.succ_add]
    exact ih _ _

/-- After enough rounds what has been visited refers to nothing else. -/
theorem Spread.visit {rounds : Nat} (spread : store.Spread root seen layer)
    (enough : store.Enough rounds seen layer) :
    store.Spread root (store.visit rounds seen layer) [] := by
  induction rounds generalizing seen layer with
  -- With no rounds left the last layer is closed too, since nothing in it can be loaded.
  | zero =>
    have idle := enough.idle spread.nodup
    rw [Store.visit]
    refine ⟨by simpa using spread.nodup, by simpa using spread.reachable, ?_⟩
    intro name member other listed defined
    rw [List.append_nil]
    rcases List.mem_append.mp member with before | inLayer
    · exact spread.closed name before other listed defined
    · have loaded := loads_of_mem_references listed
      rw [idle name inLayer] at loaded
      cases loaded
  | succ rounds ih => exact ih spread.next enough.next

/-- If the root can be loaded there is a round for it. -/
theorem breadthFirst_of_loads (loads : store.loads root = true) :
    ∃ rounds, store.breadthFirst root =
        store.visit rounds [root] (store.layer [root] (store.references root)) ∧
      store.Enough rounds [root] (store.layer [root] (store.references root)) := by
  have some : 1 ≤ store.size :=
    store.length_le_size [root] (List.nodup_singleton root)
      (List.forall_mem_singleton.mpr (holds_of_loads loads))
  obtain ⟨rounds, size⟩ := Nat.exists_eq_add_of_le' some
  have enough : store.Enough (rounds + 1) [] [root] := .inr (by simp [size])
  exact ⟨rounds, by simp [breadthFirst, size, visit], by simpa using enough.next⟩

theorem spread_breadthFirst (store : Store) (root : String) :
    store.Spread root (store.breadthFirst root) [] :=
  (spread_root store root).visit (.inr (Nat.le_add_right _ _))

theorem nodup_breadthFirst (store : Store) (root : String) : (store.breadthFirst root).Nodup := by
  simpa using (spread_breadthFirst store root).nodup

/-- The list holds what is reached from the root and nothing else. -/
theorem mem_breadthFirst_iff : name ∈ store.breadthFirst root ↔ store.Reachable root name := by
  have spread := spread_breadthFirst store root
  refine ⟨fun listed => spread.reachable name (List.mem_append_left _ listed), fun reached => ?_⟩
  induction reached with
  | root => exact (prefix_visit store store.size [] [root]).subset (List.mem_singleton_self root)
  | step _ loaded refers defined ih =>
    have listed := (mem_references_iff loaded).mpr refers
    simpa using spread.closed _ ih _ listed defined

theorem mem_visit_root_iff {rounds : Nat} :
    name ∈ store.visit rounds [] [root] ↔ store.ReachableWithin root rounds name := by
  have start (name : String) : name ∈ [] ++ [root] ↔ store.ReachableWithin root 0 name := by
    rw [List.nil_append, List.mem_singleton]
    refine ⟨?_, fun reached => ?_⟩
    · rintro rfl
      exact .root 0
    · cases reached
      rfl
  rw [(spread_root store root).mem_visit_iff start, Nat.zero_add]

/-- What is nearer comes first: the names reached in so many steps are those up to some place in
the list. -/
theorem exists_prefix_breadthFirst (store : Store) (root : String) (steps : Nat) :
    ∃ near, near <+: store.breadthFirst root ∧
      ∀ name, name ∈ near ↔ store.ReachableWithin root steps name := by
  rcases Nat.le_total steps store.size with early | late
  · obtain ⟨more, size⟩ := Nat.exists_eq_add_of_le early
    refine ⟨store.visit steps [] [root], ?_, fun name => mem_visit_root_iff⟩
    rw [breadthFirst, size]
    exact visit_prefix_visit store steps more [] [root]
  · refine ⟨store.breadthFirst root, List.prefix_refl _, fun name => ⟨fun listed => ?_, ?_⟩⟩
    · exact (mem_visit_root_iff.mp listed).mono late
    · exact fun reached => mem_breadthFirst_iff.mpr reached.reachable

/-! ### A store for examples -/

/-- A shape that is nothing but a reference. -/
def referenceTo (name : String) : Json := .object [("$ref", .string name)]

/-- A release is a track, which extends an item, or an album, which is not a definition. -/
def releases : Store :=
  (Source.memory [("Release", .object [("title", .string "Release"),
      ("oneOf", .array [referenceTo "Track", referenceTo "Album"])]),
    ("Track", documentOf "Track" (some "Item")), ("Item", documentOf "Item" none),
    ("Album", .null)]).store

theorem releases_titled : releases.Titled := titled_memory (by cbv)

/-- The union type of a release. -/
def release : TypeSchema := ⟨"Release", none, .union [.ref "Track", .ref "Album"]⟩

theorem loadType_release : releases.loadType "Release" = .ok (CompiledType.ofSchema release) := by
  let own : TypeDefinition :=
    { title := "Release"
      oneOf := some [{ reference := some "Track" }, { reference := some "Album" }] }
  have found : releases.definitionsFrom "Release" releases.chainFuel [] "Release" =
      some (.ok [own]) := by cbv
  have flattened : TypeSchema.flatten "Release" [own] = .ok release := by rfl
  rw [loadType, found]
  simp only [flattened]

theorem breadthFirst_release :
    releases.breadthFirst "Release" = ["Release", "Track", "Album"] := by
  have size : releases.size = 4 := rfl
  have unions : releases.references "Release" = ["Track", "Album"] := by
    rw [references, loadType_release]
    cbv
  have records : releases.references "Track" = [] := by cbv
  have faults : releases.references "Album" = [] := by cbv
  have first : releases.defines "Track" = true := by cbv
  have second : releases.defines "Album" = true := by cbv
  simp [breadthFirst, visit, layer, size, unions, records, faults, first, second]

end Store

end DocSchema
