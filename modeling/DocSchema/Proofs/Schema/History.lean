import DocSchema.Proofs.Schema.Walking

/-!
# Histories of a registry

A registry answers a request as if it were the first one, whatever it has been asked for before
and however that went. What it has kept in the end are the types that were loaded on the way, each
once. Main statement: `Registry.performAll_ofStore`.
-/

namespace DocSchema

/-- What a registry can be asked for. -/
inductive Request where
  | get (name : String)
  | resolve (root : String)

/-- What a registry answers to a request. -/
inductive Answer where
  | type (outcome : Except RegistryError CompiledType)
  | set (outcome : Except RegistryError SchemaSet)

namespace Answer

/-- The error, if a request has failed. -/
def error? : Answer → Option RegistryError
  | type (.error error) => some error
  | set (.error error) => some error
  | _ => none

end Answer

namespace Store

/-- What a store has to say to a request when nothing is kept. -/
def answer (store : Store) : Request → Answer
  | .get name => .type (store.loadType name)
  | .resolve root => .set (store.closure root)

/-- The names of the types that are loaded to answer a request: that which is asked for, and for a
root the types that are reached from it, as far as none before them failed. -/
def loadedFor (store : Store) : Request → List String
  | .get name => [name].takeWhile store.loads
  | .resolve root => store.closureLoaded root

variable {store : Store} {name : String} {request : Request}

theorem loads_of_mem_loadedFor (member : name ∈ store.loadedFor request) :
    store.loads name = true := by
  cases request with
  | get asked => exact List.mem_takeWhile_imp member
  | resolve root => exact List.mem_takeWhile_imp member

/-- What is loaded is what is asked for or reached from it. -/
theorem asked_of_mem_loadedFor (member : name ∈ store.loadedFor request) :
    request = .get name ∨ ∃ root, request = .resolve root ∧ store.Reachable root name := by
  cases request with
  | get asked =>
    rw [List.mem_singleton.mp (List.takeWhile_subset _ member)]
    exact .inl rfl
  | resolve root =>
    exact .inr ⟨root, rfl, mem_breadthFirst_iff.mp (List.takeWhile_subset _ member)⟩

/-- Where definitions have the titles that they are stored under every request is answered. -/
theorem Titled.answer_ne_endless (titled : store.Titled) (request : Request) (name : String) :
    (store.answer request).error? ≠ some (.endless name) := by
  cases request with
  | get asked =>
    intro failed
    cases loaded : store.loadType asked with
    | error error =>
      rw [answer, loaded] at failed
      cases failed
      exact titled.loadType_ne_endless asked name loaded
    | ok type =>
      rw [answer, loaded] at failed
      cases failed
  | resolve root =>
    intro failed
    cases closed : store.closure root with
    | error error =>
      rw [answer, closed] at failed
      cases failed
      exact titled.closure_ne_endless root name closed
    | ok set =>
      rw [answer, closed] at failed
      cases failed

end Store

namespace Registry

variable {store : Store} {registry after : Registry}

/-- Answers one request. -/
def perform (registry : Registry) : Request → Answer × Registry
  | .get name => ((registry.get name).map .type id)
  | .resolve root => ((registry.resolve root).map .set id)

/-- Answers requests one after another. -/
def performAll (registry : Registry) : List Request → List Answer × Registry
  | [] => ([], registry)
  | request :: rest =>
    ((registry.perform request).1 :: ((registry.perform request).2.performAll rest).1,
      ((registry.perform request).2.performAll rest).2)

/-- One request is answered as by the store alone, and what is loaded for it is kept. -/
theorem Mirrors.perform (mirrors : registry.Mirrors store) (request : Request) :
    (registry.perform request).1 = store.answer request ∧
      registry.Grows store (store.loadedFor request) (registry.perform request).2 := by
  cases request with
  | get name =>
    obtain ⟨same, grows⟩ := mirrors.get (Prod.eta (registry.get name)).symm
    exact ⟨congrArg Answer.type same, grows⟩
  | resolve root =>
    obtain ⟨same, grows⟩ := mirrors.resolve (Prod.eta (registry.resolve root)).symm
    exact ⟨congrArg Answer.set same, grows⟩

theorem Mirrors.performAll (mirrors : registry.Mirrors store) (requests : List Request) :
    (registry.performAll requests).1 = requests.map store.answer ∧
      registry.Grows store (requests.flatMap store.loadedFor) (registry.performAll requests).2 := by
  induction requests generalizing registry with
  | nil => exact ⟨rfl, mirrors.grows_self (by simp)⟩
  | cons request rest ih =>
    obtain ⟨same, grows⟩ := mirrors.perform request
    obtain ⟨others, more⟩ := ih grows.mirrors
    refine ⟨?_, ?_⟩
    · rw [Registry.performAll, same, others, List.map_cons]
    · rw [List.flatMap_cons]
      exact grows.trans more

/-- The number of types kept is the number of different names that they were loaded for. -/
theorem Grows.cachedCount {names : List String} (grows : (ofStore store).Grows store names after) :
    after.cachedCount = names.dedup.length := by
  have same : (Keyed.keys after.types).Perm names.dedup := by
    refine (List.perm_ext_iff_of_nodup grows.mirrors.distinct names.nodup_dedup).mpr fun name => ?_
    rw [List.mem_dedup, ← Keyed.contains_iff]
    exact (grows.cached name).trans (or_iff_right (by simp [isCached, ofStore, Keyed.contains]))
  rw [Registry.cachedCount, ← same.length_eq, Keyed.keys, List.length_map]

/-- Each request is answered as on a registry of its own. In the end the types are kept that were
loaded for one of the requests, and no others. -/
theorem performAll_ofStore (store : Store) (requests : List Request) :
    ((ofStore store).performAll requests).1 =
        requests.map (fun request => ((ofStore store).perform request).1) ∧
      (∀ name, ((ofStore store).performAll requests).2.isCached name = true ↔
        ∃ request ∈ requests, name ∈ store.loadedFor request) ∧
      ((ofStore store).performAll requests).2.cachedCount =
        (requests.flatMap store.loadedFor).dedup.length ∧
      (∀ name, ((ofStore store).performAll requests).2.isCached name = true →
        store.loads name = true ∧
          (.get name ∈ requests ∨ ∃ root, .resolve root ∈ requests ∧ store.Reachable root name)) ∧
      (store.Titled → ∀ answer ∈ ((ofStore store).performAll requests).1, ∀ name,
        answer.error? ≠ some (.endless name)) := by
  have fresh := mirrors_ofStore store
  obtain ⟨answers, grows⟩ := fresh.performAll requests
  have kept (name : String) : ((ofStore store).performAll requests).2.isCached name = true ↔
      ∃ request ∈ requests, name ∈ store.loadedFor request := by
    rw [grows.cached, List.mem_flatMap]
    exact or_iff_right (by simp [isCached, ofStore, Keyed.contains])
  refine ⟨?_, kept, grows.cachedCount, fun name cached => ?_, fun titled answer member name => ?_⟩
  · rw [answers]
    exact List.map_congr_left fun request _ => (fresh.perform request).1.symm
  · obtain ⟨request, asked, member⟩ := (kept name).mp cached
    refine ⟨Store.loads_of_mem_loadedFor member, ?_⟩
    rcases Store.asked_of_mem_loadedFor member with rfl | ⟨root, rfl, reached⟩
    · exact .inl asked
    · exact .inr ⟨root, asked, reached⟩
  · rw [answers] at member
    obtain ⟨request, _, rfl⟩ := List.mem_map.mp member
    exact titled.answer_ne_endless request name

/-- A request that fails, one that fails on its way, one that is fulfilled, and one made before. -/
def errands : List Request :=
  [.get "Album", .resolve "Release", .get "Track", .resolve "Release"]

open Store in
theorem performAll_releases :
    (∀ name, ((ofStore releases).performAll errands).2.isCached name = true ↔
      name = "Release" ∨ name = "Track") ∧
    ((ofStore releases).performAll errands).2.cachedCount = 2 ∧
    ∀ answer ∈ ((ofStore releases).performAll errands).1, ∀ name,
      answer.error? ≠ some (.endless name) := by
  have album : releases.loads "Album" = false := by cbv
  have track : releases.loads "Track" = true := by cbv
  have union : releases.loads "Release" = true := loads_iff.mpr ⟨_, loadType_release⟩
  have reached : releases.closureLoaded "Release" = ["Release", "Track"] := by
    simp [closureLoaded, breadthFirst_release, album, track, union]
  obtain ⟨_, kept, count, _, ends⟩ := performAll_ofStore releases errands
  refine ⟨fun name => ?_, ?_, ends releases_titled⟩
  · have listed : name = "Track" ∨ name = "Release" ∨ name = "Track" →
        name = "Release" ∨ name = "Track" := fun either => either.elim .inr id
    rw [kept]
    simpa [errands, loadedFor, album, track, reached] using listed
  · rw [count]
    simp [errands, loadedFor, album, track, reached]

end Registry

end DocSchema
