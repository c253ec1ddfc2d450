import DocSchema.Proofs.Schema.Resolved
import DocSchema.Proofs.Validation.Undefined

/-!
# Resolving a root

A root resolves to the types that are reached from it. It does not if one of these cannot be
loaded; then the error is that of the first such type in breadth-first order. So a value is said to
need an undefined type only where the store has none. Main statement: `Registry.resolve_ofStore`.
-/

namespace DocSchema

namespace Store

variable {store : Store} {root name : String} {set : SchemaSet} {error : RegistryError}

/-! ### The set of a root -/

theorem contains_closure_iff (closed : store.closure root = .ok set) :
    set.contains name = true ↔ store.Reachable root name := by
  obtain ⟨types, loaded, rfl⟩ := closure_ok closed
  rw [SchemaSet.contains, Keyed.contains_iff, keys_of_loadAll loaded, mem_breadthFirst_iff]

/-- What a set of a root lacks is not in the store either. -/
theorem load_of_lacks (closed : store.closure root = .ok set) {missing : String}
    (lacks : set.Lacks (.ref root) missing) : store.load missing = .ok none := by
  have reachable {other : String} : (set.find? other).isSome = true ↔ store.Reachable root other :=
    contains_closure_iff closed
  have unreached : ¬store.Reachable root missing := by
    rw [← reachable, lacks.1]
    exact Bool.false_ne_true
  rw [← defines_eq_false_iff, ← Bool.not_eq_true]
  intro defined
  -- If the store had it, it would be reached from whatever names it.
  rcases lacks.2 with mentions | ⟨owner, type, known, refers⟩
  · cases mentions
    exact unreached .root
  · have reached := reachable.mp (Option.isSome_iff_exists.mpr ⟨type, known⟩)
    exact unreached (reached.step (loadType_of_closure closed known) refers defined)

/-! ### The error of a root -/

theorem closure_noSchema_iff :
    store.closure root = .error (.noSchema root) ↔ store.load root = .ok none := by
  rw [closure_error_iff]
  constructor
  · rintro ⟨_, name, _, _, _, failed⟩
    obtain ⟨missing, rfl⟩ := loadType_noSchema_iff.mp failed
    exact missing
  · intro missing
    obtain ⟨more, order⟩ := prefix_visit store store.size [] [root]
    exact ⟨[], root, more, order.symm, by simp, loadType_noSchema_iff.mpr ⟨missing, rfl⟩⟩

theorem closure_fails_iff :
    (∃ error, store.closure root = .error error) ↔
      store.load root = .ok none ∨ ∃ name error, store.Reachable root name ∧
        store.loadType name = .error error ∧ ∀ other, error ≠ .noSchema other := by
  constructor
  · rintro ⟨error, failed⟩
    obtain ⟨before, name, after, order, _, stuck⟩ := closure_error_iff.mp failed
    have reached : store.Reachable root name := mem_breadthFirst_iff.mp (by simp [order])
    by_cases absent : store.load name = .ok none
    -- What is reached over references is defined, so only the root can be absent.
    · left
      cases reached with
      | root => exact absent
      | step _ _ _ defined =>
        rw [defines_eq_false_iff.mpr absent] at defined
        cases defined
    · right
      refine ⟨name, error, reached, stuck, fun other same => absent ?_⟩
      exact (loadType_noSchema_iff.mp (same ▸ stuck)).1
  · rintro (absent | ⟨name, error, reached, stuck, _⟩)
    · exact ⟨_, closure_noSchema_iff.mpr absent⟩
    · cases closed : store.closure root with
      | error other => exact ⟨other, rfl⟩
      | ok set =>
        obtain ⟨types, loaded, _⟩ := closure_ok closed
        have loads := loads_of_loadAll loaded name (mem_breadthFirst_iff.mpr reached)
        rw [loads_eq_false_of_error stuck] at loads
        cases loads

end Store

/-- Resolving a root fails with the error of the first type in breadth-first order, among those
that are reached from it, that cannot be loaded, and otherwise gives exactly these types. That order
has every type once, and those reached in fewer steps first. Values then lack no type that the store
has. -/
theorem Registry.resolve_ofStore (store : Store) (root : String) :
    (∀ set, ((ofStore store).resolve root).1 = .ok set →
      set.root = root ∧
      (∀ name, set.contains name = true ↔ store.Reachable root name) ∧
      (∀ name type, set.find? name = some type →
        type.schema.name = name ∧ store.loadType name = .ok type) ∧
      ∀ limit node, ∀ error ∈ Validation.validateType (set.withLimit limit) node root,
        ∀ missing, error.Misses missing → store.load missing = .ok none) ∧
    (((ofStore store).resolve root).1 = .error (.noSchema root) ↔
      store.load root = .ok none) ∧
    ((∃ error, ((ofStore store).resolve root).1 = .error error) ↔
      store.load root = .ok none ∨ ∃ name error, store.Reachable root name ∧
        store.loadType name = .error error ∧ ∀ other, error ≠ .noSchema other) ∧
    (∀ error, ((ofStore store).resolve root).1 = .error error ↔
      ∃ before name after, store.breadthFirst root = before ++ name :: after ∧
        (∀ other ∈ before, store.loads other = true) ∧ store.loadType name = .error error) ∧
    ((store.breadthFirst root).Nodup ∧
      (∀ name, name ∈ store.breadthFirst root ↔ store.Reachable root name) ∧
      ∀ steps, ∃ near, near <+: store.breadthFirst root ∧
        ∀ name, name ∈ near ↔ store.ReachableWithin root steps name) ∧
    (store.Titled → ∀ name, ((ofStore store).resolve root).1 ≠ .error (.endless name)) := by
  have outcome : ((ofStore store).resolve root).1 = store.closure root :=
    ((mirrors_ofStore store).resolve (Prod.eta _).symm).1
  rw [outcome]
  refine ⟨fun set closed => ⟨?_, fun name => Store.contains_closure_iff closed, ?_, ?_⟩,
    Store.closure_noSchema_iff, Store.closure_fails_iff, fun error => Store.closure_error_iff,
    ⟨Store.nodup_breadthFirst store root, fun name => Store.mem_breadthFirst_iff,
      Store.exists_prefix_breadthFirst store root⟩,
    fun titled => titled.closure_ne_endless root⟩
  · obtain ⟨types, _, rfl⟩ := Store.closure_ok closed
    rfl
  · intro name type known
    have loaded := Store.loadType_of_closure closed known
    obtain ⟨chain, made⟩ := Store.loadType_made loaded
    exact ⟨(TypeSchema.flatten_wellFormed made).named, loaded⟩
  · intro limit node error reported missing misses
    have lacks := Validation.lacks_of_mem_validateShape reported misses
    exact Store.load_of_lacks closed lacks

open Store in
theorem Registry.resolve_releases :
    ((ofStore releases).resolve "Release").1 = .error (.invalid "Album" .malformed) ∧
      ∀ name, ((ofStore releases).resolve "Release").1 ≠ .error (.endless name) := by
  obtain ⟨_, _, _, first, _, ends⟩ := resolve_ofStore releases "Release"
  refine ⟨(first _).mpr ⟨["Release", "Track"], "Album", [], breadthFirst_release, ?_, by cbv⟩,
    ends releases_titled⟩
  have union : releases.loads "Release" = true := loads_iff.mpr ⟨_, loadType_release⟩
  have record : releases.loads "Track" = true := by cbv
  simp [union, record]

end DocSchema
