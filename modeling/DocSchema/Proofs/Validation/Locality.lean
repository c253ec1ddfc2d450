import DocSchema.Proofs.Schema.Resolution
import DocSchema.Proofs.Validation.Course

/-!
# What a verdict depends on

Validation looks up no other types than those that are reached from the shape over references, so
sets that have these in common judge alike. All sets that roots of one store resolve to have in
common whatever is reached from a type that they share. Main statement: `validateShape_reached`.
-/

namespace DocSchema

/-- The names that are come to from a shape over the references of the types of a set. -/
inductive SchemaSet.Reaches (set : SchemaSet) (shape : Shape) : String → Prop where
  | mentioned {name : String} (mentions : shape.Mentions name) : Reaches set shape name
  | referred {owner name : String} {type : CompiledType} (reached : Reaches set shape owner)
      (known : set.find? owner = some type) (refers : type.schema.RefersTo name) :
      Reaches set shape name

namespace SchemaSet

variable {set : SchemaSet} {shape : Shape} {name : String}

theorem Reaches.of_withLimit {limit : Nat} (reaches : (set.withLimit limit).Reaches shape name) :
    set.Reaches shape name := by
  induction reaches with
  | mentioned mentions => exact .mentioned mentions
  | referred _ known refers ih => exact ih.referred known refers

end SchemaSet

namespace Validation

variable {set other : SchemaSet} {name : String}

/-! ### The names on the course of validation -/

theorem reaches_of_comesTo {place later : Comparison} (comes : place.ComesTo set later)
    (mentions : later.shape.Mentions name) : set.Reaches place.shape name := by
  -- The last step comes first: what its end mentions is traced back to where it started.
  induction comes generalizing name with
  | refl => exact .mentioned mentions
  | tail _ leads ih =>
    rcases mentions_of_leads leads mentions with inside | ⟨owner, type, named, known, refers⟩
    · exact ih inside
    · exact (ih named).referred known refers

theorem errorsOf_congr_of_reaches (limits : set.limit = other.limit) {shape : Shape}
    (agree : ∀ name, set.Reaches shape name → set.find? name = other.find? name) (node : Node)
    (path : Path) (hops : Nat) :
    errorsOf set shape node path hops = errorsOf other shape node path hops := by
  refine errorsOf_congr (fun later comes name expected => ⟨?_, fun _ _ _ _ => ?_⟩) path
  · exact agree name (reaches_of_comesTo comes (expected ▸ .ref name))
  · rw [limits]

end Validation

/-! ### Sets resolved over one store -/

namespace Store

variable {store : Store} {root otherRoot name later : String} {set other : SchemaSet}

theorem find?_of_reachable (closed : store.closure root = .ok set)
    (reached : store.Reachable root name) :
    ∃ type, set.find? name = some type ∧ store.loadType name = .ok type := by
  obtain ⟨type, known⟩ := Option.isSome_iff_exists.mp ((contains_closure_iff closed).mpr reached)
  exact ⟨type, known, loadType_of_closure closed known⟩

theorem loadType_of_flatten {chain : List TypeDefinition} {type : TypeSchema}
    (found : store.definitionsFrom name store.chainFuel [] name = some (.ok chain))
    (flattened : TypeSchema.flatten name chain = .ok type) :
    store.loadType name = .ok (.ofSchema type) := by
  simp only [loadType, found, flattened]

theorem exists_closure (loads : ∀ name ∈ store.breadthFirst root, store.loads name = true) :
    ∃ set, store.closure root = .ok set := by
  cases closed : store.closure root with
  | ok set => exact ⟨set, rfl⟩
  | error error =>
    obtain ⟨before, name, after, order, -, failed⟩ := closure_error_iff.mp closed
    have loaded := loads name (by simp [order])
    rw [loads_eq_false_of_error failed] at loaded
    cases loaded

theorem defines_of_loadType {type : CompiledType} (loaded : store.loadType name = .ok type) :
    store.defines name = true := by
  obtain ⟨document, stored⟩ := holds_of_loads (loads_iff.mpr ⟨type, loaded⟩)
  simp [defines, stored]

theorem find?_of_undefined (closed : store.closure root = .ok set)
    (missing : store.defines name = false) : set.find? name = none := by
  cases known : set.find? name with
  | none => rfl
  | some type =>
    rw [defines_of_loadType (loadType_of_closure closed known)] at missing
    cases missing

/-- Where two roots reach a name, what is reached from it is the same for both. -/
theorem find?_closures_of_reaches (closed : store.closure root = .ok set)
    (alsoClosed : store.closure otherRoot = .ok other) (reached : store.Reachable root name)
    (alsoReached : store.Reachable otherRoot name) (reaches : set.Reaches (.ref name) later) :
    set.find? later = other.find? later := by
  -- A name that the store defines is reached from both roots, any other is in neither set.
  have shared : store.defines later = true →
      store.Reachable root later ∧ store.Reachable otherRoot later := by
    induction reaches with
    | mentioned mentions =>
      cases mentions
      exact fun _ => ⟨reached, alsoReached⟩
    | referred _ known refers ih =>
      intro defined
      have loaded := loadType_of_closure closed known
      obtain ⟨first, second⟩ := ih (defines_of_loadType loaded)
      exact ⟨first.step loaded refers defined, second.step loaded refers defined⟩
  cases defined : store.defines later with
  | false => rw [find?_of_undefined closed defined, find?_of_undefined alsoClosed defined]
  | true =>
    obtain ⟨first, second⟩ := shared defined
    obtain ⟨type, known, loaded⟩ := find?_of_reachable closed first
    obtain ⟨also, alsoKnown, alsoLoaded⟩ := find?_of_reachable alsoClosed second
    rw [loaded] at alsoLoaded
    cases alsoLoaded
    rw [known, alsoKnown]

end Store

namespace Validation

/-- Sets with the same limit that agree on all names reached from a shape find the same errors. So a
type is judged alike in the sets that any two roots resolve to over a store, whatever the registries
have been asked for before, if both roots reach the type. -/
theorem validateShape_reached :
    (∀ (set other : SchemaSet) (shape : Shape), set.limit = other.limit →
      (∀ name, set.Reaches shape name → set.find? name = other.find? name) →
      ∀ node path, validateShape set node shape path = validateShape other node shape path) ∧
    ∀ (store : Store) (first second : Registry), first.Mirrors store → second.Mirrors store →
      ∀ root otherRoot set other, (first.resolve root).1 = .ok set →
        (second.resolve otherRoot).1 = .ok other →
      ∀ name, store.Reachable root name → store.Reachable otherRoot name →
      ∀ limit node path,
        validateShape (set.withLimit limit) node (.ref name) path =
          validateShape (other.withLimit limit) node (.ref name) path := by
  constructor
  · intro set other shape limits agree node path
    rw [validateShape_eq, validateShape_eq, errorsOf_congr_of_reaches limits agree]
  · intro store first second mirrors alsoMirrors root otherRoot set other resolved alsoResolved name
      reached alsoReached limit node path
    -- Whatever a registry has in store already, it resolves a root to the closure over its store.
    have closed := (mirrors.resolve (Prod.eta (first.resolve root)).symm).1.symm.trans resolved
    have alsoClosed :=
      (alsoMirrors.resolve (Prod.eta (second.resolve otherRoot)).symm).1.symm.trans alsoResolved
    have agree (later : String) (reaches : (set.withLimit limit).Reaches (.ref name) later) :
        (set.withLimit limit).find? later = (other.withLimit limit).find? later := by
      have same : set.find? later = other.find? later :=
        Store.find?_closures_of_reaches closed alsoClosed reached alsoReached reaches.of_withLimit
      exact same
    have limits : (set.withLimit limit).limit = (other.withLimit limit).limit := rfl
    rw [validateShape_eq, validateShape_eq, errorsOf_congr_of_reaches limits agree]

end Validation

/-! ### A set and a store for examples -/

/-- A library with a type of its own for shelves, to which books do not refer. -/
def SchemaSet.shelved : SchemaSet where
  root := "Shelf"
  types := library.types ++ [("Shelf", .ofSchema ⟨"Shelf", none, .union [.ref "Book"]⟩)]
  limit := library.limit

/-- Only books and entries are reached from a book. -/
theorem SchemaSet.find?_shelved {name : String} (reaches : library.Reaches (.ref "Book") name) :
    library.find? name = shelved.find? name := by
  have inside : name = "Book" ∨ name = "Entry" := by
    cases reaches with
    | mentioned mentions =>
      cases mentions
      exact .inl rfl
    | referred _ known refers =>
      rw [← TypeSchema.mem_references_iff] at refers
      rcases find?_library known with ⟨-, rfl⟩ | ⟨-, rfl⟩
      · exact .inr (List.mem_singleton.mp refers)
      · exact .inl (List.mem_singleton.mp refers)
  rcases inside with rfl | rfl <;> rfl

namespace Store

/-- Singles and records consist of tracks. What else a record consists of is not defined. -/
def catalogue : Store :=
  (Source.memory [
    ("Single", .object [("title", .string "Single"), ("oneOf", .array [referenceTo "Track"])]),
    ("Record", .object [("title", .string "Record"),
      ("oneOf", .array [referenceTo "Track", referenceTo "Sleeve"])]),
    ("Track", documentOf "Track" (some "Item")), ("Item", documentOf "Item" none)]).store

theorem loadType_single :
    catalogue.loadType "Single" = .ok (.ofSchema ⟨"Single", none, .union [.ref "Track"]⟩) := by
  let own : TypeDefinition := { title := "Single", oneOf := some [{ reference := some "Track" }] }
  have found : catalogue.definitionsFrom "Single" catalogue.chainFuel [] "Single" =
      some (.ok [own]) := by cbv
  exact loadType_of_flatten found rfl

theorem loadType_record :
    catalogue.loadType "Record" =
      .ok (.ofSchema ⟨"Record", none, .union [.ref "Track", .ref "Sleeve"]⟩) := by
  let own : TypeDefinition :=
    { title := "Record"
      oneOf := some [{ reference := some "Track" }, { reference := some "Sleeve" }] }
  have found : catalogue.definitionsFrom "Record" catalogue.chainFuel [] "Record" =
      some (.ok [own]) := by cbv
  exact loadType_of_flatten found rfl

theorem breadthFirst_single : catalogue.breadthFirst "Single" = ["Single", "Track"] := by
  have size : catalogue.size = 4 := rfl
  have unions : catalogue.references "Single" = ["Track"] := by
    rw [references, loadType_single]
    cbv
  have records : catalogue.references "Track" = [] := by cbv
  have defined : catalogue.defines "Track" = true := by cbv
  simp [breadthFirst, visit, layer, size, unions, records, defined]

theorem breadthFirst_record : catalogue.breadthFirst "Record" = ["Record", "Track"] := by
  have size : catalogue.size = 4 := rfl
  have unions : catalogue.references "Record" = ["Track", "Sleeve"] := by
    rw [references, loadType_record]
    cbv
  have records : catalogue.references "Track" = [] := by cbv
  have defined : catalogue.defines "Track" = true := by cbv
  have missing : catalogue.defines "Sleeve" = false := by cbv
  simp [breadthFirst, visit, layer, size, unions, records, defined, missing]

theorem exists_closure_catalogue :
    (∃ set, catalogue.closure "Single" = .ok set) ∧
      ∃ set, catalogue.closure "Record" = .ok set := by
  have single : catalogue.loads "Single" = true := loads_iff.mpr ⟨_, loadType_single⟩
  have record : catalogue.loads "Record" = true := loads_iff.mpr ⟨_, loadType_record⟩
  have track : catalogue.loads "Track" = true := by cbv
  constructor
  · exact exists_closure (by simp [breadthFirst_single, single, track])
  · exact exists_closure (by simp [breadthFirst_record, record, track])

end Store

/-- Shelves do not matter to books, nor what singles and records are to tracks. -/
theorem Validation.validateShape_book_and_track :
    ((∀ name, SchemaSet.library.Reaches (.ref "Book") name →
        SchemaSet.library.find? name = SchemaSet.shelved.find? name) ∧
      ∀ node path, validateShape SchemaSet.library node (.ref "Book") path =
        validateShape SchemaSet.shelved node (.ref "Book") path) ∧
    ∃ set other, ((Registry.ofStore Store.catalogue).resolve "Single").1 = .ok set ∧
      ((Registry.ofStore Store.catalogue).resolve "Record").1 = .ok other ∧
      ∀ limit node path, validateShape (set.withLimit limit) node (.ref "Track") path =
        validateShape (other.withLimit limit) node (.ref "Track") path := by
  obtain ⟨overSets, overStores⟩ := validateShape_reached
  obtain ⟨⟨set, single⟩, other, record⟩ := Store.exists_closure_catalogue
  have mirrors := Registry.mirrors_ofStore Store.catalogue
  have resolved := (mirrors.resolve (Prod.eta _).symm).1.trans single
  have alsoResolved := (mirrors.resolve (Prod.eta _).symm).1.trans record
  have reached : Store.catalogue.Reachable "Single" "Track" :=
    Store.mem_breadthFirst_iff.mp (by simp [Store.breadthFirst_single])
  have alsoReached : Store.catalogue.Reachable "Record" "Track" :=
    Store.mem_breadthFirst_iff.mp (by simp [Store.breadthFirst_record])
  have agree (name : String) (reaches : SchemaSet.library.Reaches (.ref "Book") name) :=
    SchemaSet.find?_shelved reaches
  refine ⟨⟨agree, overSets _ _ _ rfl agree⟩, set, other, resolved, alsoResolved, ?_⟩
  exact overStores _ _ _ mirrors mirrors _ _ set other resolved alsoResolved _ reached alsoReached

end DocSchema
