import DocSchema.Engine.Expansion
import DocSchema.Proofs.Coercion.Simulation
import DocSchema.Proofs.Coercion.Sites
import DocSchema.Proofs.Node.Substitution
import Mathlib.Data.List.Pairwise

/-!
# Expansion all at once

Expansion replaces the texts at the sites of a coerced tree one after another in a tree that changes
on the way. Since the sites are paths of different texts this comes to the same as replacing all of
them at once, and a site is never missed. Main statement: `expandWith_coerced`.
-/

namespace DocSchema

namespace Expansion

/-! ### What is done at one site -/

/-- What expansion does at a site. -/
inductive Effect where
  | stop (error : EngineError)
  /-- The text stays. -/
  | keep (warnings : List Warning)
  | put (coerced : Coerced)

namespace Effect

def error? : Effect → Option EngineError
  | stop error => some error
  | _ => none

def node? : Effect → Option Node
  | put coerced => some coerced.node
  | _ => none

def warnings : Effect → List Warning
  | stop _ => []
  | keep warnings => warnings
  | put coerced => coerced.warnings

end Effect

/-- What is done at a site whose text came to an outcome. -/
def effectOf (patience : Node → Nat) (set : SchemaSet) (policy : FailurePolicy)
    (typeName : String) (site : DecodeSite) : Outcome → Effect
  | .gone => .keep []
  | .unavailable => .keep [.decodeUnavailable site.format site.path]
  | .failed message =>
    match policy with
    | .abort => .stop (.decodeFailure site.path site.format message)
    | .warn => .keep [.decodeFailed site.format message site.path]
  | .decoded decoded =>
    match Coercion.coerceTree set (patience decoded) decoded site.shape site.path with
    | none => .stop (.endless typeName)
    | some coerced => .put coerced

/-- What is done at the sites of a coerced tree. -/
def effects (patience : Node → Nat) (set : SchemaSet) (resolver : Resolver)
    (policy : FailurePolicy) (typeName : String) (tree : Node) (sites : List DecodeSite) :
    List (DecodeSite × Effect) :=
  sites.map fun site =>
    (site, effectOf patience set policy typeName site (decodeSite resolver tree site))

/-- What is to stand at a path once some effects are there. -/
def replacementOf (effects : List (DecodeSite × Effect)) (place : Path) : Option Node :=
  effects.findSome? fun entry => if entry.1.path = place then entry.2.node? else none

/-- All effects at once: the error of the first one that stops, or else the tree with what is put
at each site. -/
def atOnce (tree : Node) (warnings : List Warning) (effects : List (DecodeSite × Effect)) :
    Except EngineError Coercion.Result :=
  match effects.findSome? (·.2.error?) with
  | some error => .error error
  | none => .ok ⟨tree.substitute (replacementOf effects),
      warnings ++ effects.flatMap (·.2.warnings)⟩

section Splice

variable {patience : Node → Nat} {set : SchemaSet} {policy : FailurePolicy} {typeName : String}
  {resolver : Resolver} {node tree : Node} {warnings : List Warning} {site : DecodeSite}
  {sites : List DecodeSite}

theorem splice_cons (outcome : Outcome) (rest : List (DecodeSite × Outcome)) :
    splice patience set policy typeName node warnings ((site, outcome) :: rest) =
      match effectOf patience set policy typeName site outcome with
      | .stop error => .error error
      | .keep more => splice patience set policy typeName node (warnings ++ more) rest
      | .put coerced =>
        match node.replace site.path coerced.node with
        | .error path => .error (.missingPath path)
        | .ok node =>
          splice patience set policy typeName node (warnings ++ coerced.warnings) rest := by
  cases outcome with
  | gone => simp [splice, effectOf]
  | unavailable => rfl
  | failed message => cases policy <;> rfl
  | decoded decoded =>
    rw [splice, effectOf]
    cases Coercion.coerceTree set (patience decoded) decoded site.shape site.path <;> rfl

theorem replacementOf_cons (effect : Effect) (rest : List (DecodeSite × Effect)) (place : Path) :
    replacementOf ((site, effect) :: rest) place =
      (if site.path = place then effect.node? else none).or (replacementOf rest place) := by
  simp only [replacementOf, List.findSome?_cons]
  cases (if site.path = place then effect.node? else none) <;> rfl

theorem effects_cons : effects patience set resolver policy typeName tree (site :: sites) =
    (site, effectOf patience set policy typeName site (decodeSite resolver tree site)) ::
      effects patience set resolver policy typeName tree sites := rfl

/-- Whether sites are paths of texts of a tree, none within another. -/
structure Texts (tree : Node) (sites : List DecodeSite) : Prop where
  stands : ∀ site ∈ sites, ∃ content, tree.get? site.path = some (.string content)
  apart : sites.Pairwise fun earlier later => Path.Apart earlier.path later.path

/-- What has been replaced before stands apart from the sites that are left, so the text of the
next one is where it was. -/
theorem splice_substitute (distinct : tree.distinctKeys = true) (texts : Texts tree sites)
    {replaced : Path → Option Node}
    (free : ∀ site ∈ sites, ∀ place, replaced place ≠ none → Path.Apart site.path place) :
    splice patience set policy typeName (tree.substitute replaced) warnings
        (sites.map fun site => (site, decodeSite resolver tree site)) =
      match (effects patience set resolver policy typeName tree sites).findSome? (·.2.error?) with
      | some error => .error error
      | none => .ok
        ⟨tree.substitute fun place => (replaced place).or (replacementOf
            (effects patience set resolver policy typeName tree sites) place),
          warnings ++ (effects patience set resolver policy typeName tree sites).flatMap
            (·.2.warnings)⟩ := by
  induction sites generalizing replaced warnings with
  | nil => simp [splice, effects, replacementOf]
  | cons site rest ih =>
    obtain ⟨apart, others⟩ := List.pairwise_cons.mp texts.apart
    obtain ⟨content, found⟩ := texts.stands site List.mem_cons_self
    have later : Texts tree rest :=
      ⟨fun other member => texts.stands other (List.mem_cons_of_mem _ member), others⟩
    have still := fun other member => free other (List.mem_cons_of_mem site member)
    simp only [effects_cons, List.map_cons, splice_cons, List.findSome?_cons,
      List.flatMap_cons, replacementOf_cons]
    cases effectOf patience set policy typeName site (decodeSite resolver tree site) with
    | stop error => rfl
    | keep more =>
      simp [Effect.error?, Effect.node?, Effect.warnings, ih later still, List.append_assoc]
    | put inner =>
      -- What is put here joins what has been replaced, and the sites that are left stand apart from
      -- it as well.
      have fresh : replaced site.path = none := by
        by_contra taken
        exact (free site List.mem_cons_self site.path taken).1 (List.prefix_refl _)
      have onward : ∀ other ∈ rest, ∀ place,
          (if place = site.path then some inner.node else replaced place) ≠ none →
            Path.Apart other.path place := by
        intro other member place taken
        split at taken
        next here => exact here ▸ (apart other member).symm
        next => exact still other member place taken
      have merged (more : Path → Option Node) :
          (fun place => (if place = site.path then some inner.node else replaced place).or
            (more place)) = fun place =>
          (replaced place).or ((if site.path = place then some inner.node else none).or
            (more place)) := by
        funext place
        by_cases here : site.path = place
        · subst here
          simp [fresh]
        · simp [here, Ne.symm here]
      dsimp only
      rw [Node.replace_substitute distinct found (free site List.mem_cons_self)]
      dsimp only
      rw [ih later onward, merged, List.append_assoc]
      rfl

/-- Expansion at texts of which none lies within another has all its effects at once. -/
theorem expandWith_eq_atOnce {coerced : Coerced} (distinct : coerced.node.distinctKeys = true)
    (texts : Texts coerced.node coerced.sites) :
    expandWith patience set resolver policy typeName coerced =
      atOnce coerced.node coerced.warnings
        (effects patience set resolver policy typeName coerced.node coerced.sites) := by
  calc expandWith patience set resolver policy typeName coerced
      = splice patience set policy typeName (coerced.node.substitute fun _ => none)
          coerced.warnings
          (coerced.sites.map fun site => (site, decodeSite resolver coerced.node site)) := by
        rw [Node.substitute_none, expandWith]
    _ = atOnce coerced.node coerced.warnings
          (effects patience set resolver policy typeName coerced.node coerced.sites) := by
        rw [splice_substitute distinct texts fun _ _ _ taken => absurd rfl taken, atOnce]
        simp only [Option.none_or]

end Splice

/-! ### The sites of a coerced tree -/

theorem texts_of_located {coerced : Coerced} (located : Coercion.Located [] coerced) :
    Texts coerced.node coerced.sites := by
  obtain ⟨distinct, sublist⟩ := located
  simp only [List.nil_append, List.map_id'] at sublist
  have stands : ∀ site ∈ coerced.sites, ∃ content,
      coerced.node.get? site.path = some (.string content) := by
    intro site member
    have listed := sublist.subset (List.mem_map_of_mem member)
    obtain ⟨inner, found, isText⟩ := (Node.mem_pathsWhere_iff distinct).mp listed
    obtain ⟨content, rfl⟩ := Validation.isString_iff.mp isText
    exact ⟨content, found⟩
  have differ : coerced.sites.Pairwise fun earlier later => earlier.path ≠ later.path :=
    List.pairwise_map.mp ((Node.nodup_pathsWhere distinct).sublist sublist)
  -- Nothing lies below a text, so paths that differ lead apart.
  refine ⟨stands, differ.imp_of_mem fun {earlier later} first second different => ?_⟩
  obtain ⟨_, here⟩ := stands earlier first
  obtain ⟨_, there⟩ := stands later second
  exact ⟨fun below => different (Coercion.eq_of_get?_string here there below),
    fun below => different (Coercion.eq_of_get?_string there here below).symm⟩

/-! ### Errors -/

section Errors

variable {patience : Node → Nat} {set : SchemaSet} {policy : FailurePolicy} {typeName : String}
  {resolver : Resolver} {tree : Node} {site : DecodeSite} {sites : List DecodeSite}
  {outcome : Outcome} {error : EngineError}

/-- A site stops because its decoder failed, or because coercing what was decoded did not end. -/
theorem effectOf_error?
    (stops : (effectOf patience set policy typeName site outcome).error? = some error) :
    (∃ message, outcome = .failed message ∧ policy = .abort ∧
      error = .decodeFailure site.path site.format message) ∨
    ∃ decoded, outcome = .decoded decoded ∧ error = .endless typeName ∧
      Coercion.coerceTree set (patience decoded) decoded site.shape site.path = none := by
  cases outcome with
  | gone => cases stops
  | unavailable => cases stops
  | failed message =>
    cases policy with
    | abort =>
      cases stops
      exact .inl ⟨message, rfl, rfl, rfl⟩
    | warn => cases stops
  | decoded decoded =>
    cases ran : Coercion.coerceTree set (patience decoded) decoded site.shape site.path with
    | none =>
      simp only [effectOf, ran, Effect.error?] at stops
      cases stops
      exact .inr ⟨decoded, rfl, rfl, ran⟩
    | some coerced => simp [effectOf, ran, Effect.error?] at stops

/-- Only what was decoded is put in place of a text. -/
theorem decoded_of_effectOf_node? {value : Node}
    (put : (effectOf patience set policy typeName site outcome).node? = some value) :
    ∃ decoded, outcome = .decoded decoded := by
  cases outcome with
  | decoded decoded => exact ⟨decoded, rfl⟩
  | failed message => cases policy <;> cases put
  | _ => cases put

/-- Unless a site stops, nothing depends on the policy. -/
theorem effectOf_warn (goes : (effectOf patience set .abort typeName site outcome).error? = none) :
    effectOf patience set .warn typeName site outcome =
      effectOf patience set .abort typeName site outcome := by
  cases outcome with
  | failed message => cases goes
  | _ => rfl

/-- If what was decoded can be coerced, a site stops exactly if its decoder failed and failures are
not to be passed over. -/
theorem effectOf_error?_iff (ends : ∀ decoded, outcome = .decoded decoded →
      Coercion.coerceTree set (patience decoded) decoded site.shape site.path ≠ none) :
    (effectOf patience set policy typeName site outcome).error? = some error ↔
      ∃ message, outcome = .failed message ∧ policy = .abort ∧
        error = .decodeFailure site.path site.format message := by
  constructor
  · intro stops
    rcases effectOf_error? stops with failed | ⟨decoded, same, _, never⟩
    · exact failed
    · exact absurd never (ends decoded same)
  · rintro ⟨message, rfl, rfl, rfl⟩
    rfl

theorem atOnce_error_iff {warnings : List Warning} {effects : List (DecodeSite × Effect)} :
    atOnce tree warnings effects = .error error ↔ effects.findSome? (·.2.error?) = some error := by
  unfold atOnce
  split
  next other found => simp [found]
  next found => simp [found]

theorem atOnce_ok_iff {warnings : List Warning} {effects : List (DecodeSite × Effect)}
    {result : Coercion.Result} :
    atOnce tree warnings effects = .ok result ↔
      (∀ entry ∈ effects, entry.2.error? = none) ∧
        result = ⟨tree.substitute (replacementOf effects),
          warnings ++ effects.flatMap (·.2.warnings)⟩ := by
  rw [← List.findSome?_eq_none_iff]
  unfold atOnce
  split
  next other found => simp [found]
  next found => simp [found, eq_comm]

end Errors

/-! ### Values -/

section Values

variable {tree value : Node} {effects : List (DecodeSite × Effect)} {place : Path}

theorem exists_of_replacementOf (replaced : replacementOf effects place = some value) :
    ∃ entry ∈ effects, entry.1.path = place ∧ entry.2.node? = some value := by
  obtain ⟨entry, member, found⟩ := List.exists_of_findSome?_eq_some replaced
  split at found
  next here => exact ⟨entry, member, here, found⟩
  next => cases found

theorem replacementOf_of_mem
    (apart : effects.Pairwise fun earlier later => Path.Apart earlier.1.path later.1.path)
    {site : DecodeSite} {inner : Coerced} (member : (site, .put inner) ∈ effects) :
    replacementOf effects site.path = some inner.node := by
  induction effects with
  | nil => cases member
  | cons entry rest ih =>
    obtain ⟨before, others⟩ := List.pairwise_cons.mp apart
    rw [replacementOf_cons]
    rcases List.mem_cons.mp member with rfl | later
    · rw [if_pos rfl]
      rfl
    · have differs : entry.1.path ≠ site.path := fun same =>
        (before _ later).1 (same ▸ List.prefix_refl _)
      rw [if_neg differs, Option.none_or]
      exact ih others later

section Standing

variable (stands : ∀ entry ∈ effects, ∃ content, tree.get? entry.1.path = some (.string content))
  (found : tree.get? place = some value)

include stands found

/-- Nothing is put above a value, since what is put takes the place of a text. -/
theorem replacementOf_above (upper lower : Path) (same : upper ++ lower = place)
    (further : lower ≠ []) : replacementOf effects upper = none := by
  by_contra taken
  obtain ⟨_, replaced⟩ := Option.ne_none_iff_exists'.mp taken
  obtain ⟨entry, member, rfl, _⟩ := exists_of_replacementOf replaced
  obtain ⟨content, here⟩ := stands entry member
  have equal := Coercion.eq_of_get?_string here found ⟨lower, same⟩
  exact further (List.append_right_eq_self.mp (same.trans equal.symm))

/-- Where something is put it stands in the end. -/
theorem get?_of_replaced {inner : Node} (replaced : replacementOf effects place = some inner) :
    (tree.substitute (replacementOf effects)).get? place = some inner := by
  rw [Node.get?_substitute place (replacementOf_above stands found), found, Option.map_some,
    Node.substitute_of_some]
  rw [List.append_nil, replaced]

/-- Everything else keeps its outline. -/
theorem get?_of_kept (kept : replacementOf effects place = none) :
    ∃ other, (tree.substitute (replacementOf effects)).get? place = some other ∧
      value.SameOutline other := by
  rw [Node.get?_substitute place (replacementOf_above stands found), found, Option.map_some]
  exact ⟨_, rfl, Node.sameOutline_substitute (by rw [List.append_nil, kept]) value⟩

end Standing

/-- What stands apart from all sites stays. -/
theorem get?_of_apart (apart : ∀ entry ∈ effects, Path.Apart entry.1.path place) :
    (tree.substitute (replacementOf effects)).get? place = tree.get? place := by
  have untouched (other : Path) (near : other <+: place ∨ place <+: other) :
      replacementOf effects other = none := by
    by_contra taken
    obtain ⟨value, replaced⟩ := Option.ne_none_iff_exists'.mp taken
    obtain ⟨entry, member, rfl, _⟩ := exists_of_replacementOf replaced
    exact near.elim (apart entry member).1 (apart entry member).2
  have inside : (fun below => replacementOf effects (place ++ below)) = fun _ => none :=
    funext fun below => untouched _ (.inr (List.prefix_append place below))
  rw [Node.get?_substitute, inside]
  · simp only [Node.substitute_none, Option.map_id']
  · intro upper lower same _
    exact untouched upper (.inl ⟨lower, same⟩)

end Values

/-! ### Coerced trees -/

section Coerced

variable {set : SchemaSet} {fuel : Nat} {node : Node} {shape : Shape} {coerced : Coerced}
  {resolver : Resolver} {typeName : String}

/-- If what is decoded at some sites can be coerced at all, one amount of fuel does for all. -/
theorem exists_patience {tree : Node} {sites : List DecodeSite}
    (settles : ∀ site ∈ sites, ∀ decoded, decodeSite resolver tree site = .decoded decoded →
      ∃ fuel inner, Coercion.coerceTree set fuel decoded site.shape site.path = some inner) :
    ∃ bound, ∀ fuel, bound ≤ fuel → ∀ site ∈ sites, ∀ decoded,
      decodeSite resolver tree site = .decoded decoded →
        Coercion.coerceTree set fuel decoded site.shape site.path ≠ none := by
  induction sites with
  | nil => exact ⟨0, by simp⟩
  | cons site rest ih =>
    obtain ⟨bound, others⟩ := ih fun other member => settles other (List.mem_cons_of_mem _ member)
    obtain ⟨enough, here⟩ : ∃ enough, ∀ fuel, enough ≤ fuel → ∀ decoded,
        decodeSite resolver tree site = .decoded decoded →
          Coercion.coerceTree set fuel decoded site.shape site.path ≠ none := by
      cases outcome : decodeSite resolver tree site with
      | decoded decoded =>
        obtain ⟨fuel, inner, ran⟩ := settles site List.mem_cons_self decoded outcome
        obtain ⟨enough, lasts⟩ := Coercion.coerceTree_eventually ran
        refine ⟨enough, fun more within other same => ?_⟩
        cases same
        simp [lasts more within]
      | _ => exact ⟨0, by simp⟩
    -- Fuel beyond what a tree needs changes nothing, so the greater amount does for both.
    refine ⟨max bound enough, fun fuel within => List.forall_mem_cons.mpr ⟨?_, ?_⟩⟩
    · exact here fuel (by omega)
    · exact others fuel (by omega)

variable {patience : Node → Nat} {policy : FailurePolicy} {tree : Node} {warnings : List Warning}
  {sites : List DecodeSite} {error : EngineError} {result : Coercion.Result}

/-- The first site that stops decides how expansion fails. -/
theorem effects_error_iff :
    (effects patience set resolver policy typeName tree sites).findSome? (·.2.error?) =
        some error ↔
      ∃ before site after, sites = before ++ site :: after ∧
        (effectOf patience set policy typeName site (decodeSite resolver tree site)).error? =
          some error ∧
        ∀ other ∈ before, (effectOf patience set policy typeName other
          (decodeSite resolver tree other)).error? = none := by
  rw [effects, List.findSome?_map, List.findSome?_eq_some_iff]
  simp only [Function.comp_apply]

theorem pairwise_effects (texts : Texts tree sites) :
    (effects patience set resolver policy typeName tree sites).Pairwise fun earlier later =>
      Path.Apart earlier.1.path later.1.path :=
  List.pairwise_map.mpr texts.apart

/-- If there is a result, it has what was decoded at the sites, and all else is as it was: values
that were not decoded keep their outline, and whatever holds no site stays the same. -/
theorem values_of_atOnce (texts : Texts tree sites)
    (returned : atOnce tree warnings (effects patience set resolver policy typeName tree sites) =
      .ok result) :
    (∀ site ∈ sites, ∀ decoded, decodeSite resolver tree site = .decoded decoded →
      ∃ inner, Coercion.coerceTree set (patience decoded) decoded site.shape site.path =
        some inner ∧ result.node.get? site.path = some inner.node) ∧
    (∀ place value, tree.get? place = some value →
      (∀ site ∈ sites, site.path = place → ∀ decoded,
        decodeSite resolver tree site ≠ .decoded decoded) →
      ∃ other, result.node.get? place = some other ∧ value.SameOutline other) ∧
    ∀ place, (∀ site ∈ sites, Path.Apart site.path place) →
      result.node.get? place = tree.get? place := by
  obtain ⟨goes, rfl⟩ := atOnce_ok_iff.mp returned
  have stands : ∀ entry ∈ effects patience set resolver policy typeName tree sites,
      ∃ content, tree.get? entry.1.path = some (.string content) := by
    intro entry listed
    obtain ⟨site, member, rfl⟩ := List.mem_map.mp listed
    exact texts.stands site member
  refine ⟨?_, ?_, ?_⟩
  -- A value that could not be coerced would have ended the expansion, and there is a result.
  · intro site member decoded outcome
    have listed : (site, effectOf patience set policy typeName site (.decoded decoded)) ∈
        effects patience set resolver policy typeName tree sites :=
      List.mem_map.mpr ⟨site, member, by rw [outcome]⟩
    cases ran : Coercion.coerceTree set (patience decoded) decoded site.shape site.path with
    | none =>
      have stops := goes _ listed
      simp [effectOf, ran, Effect.error?] at stops
    | some inner =>
      obtain ⟨content, found⟩ := texts.stands site member
      rw [effectOf, ran] at listed
      have replaced := replacementOf_of_mem (pairwise_effects texts) listed
      exact ⟨inner, rfl, get?_of_replaced stands found replaced⟩
  -- Whatever is put at a place comes of a site there whose text was decoded.
  · intro place value found plain
    refine get?_of_kept stands found ?_
    by_contra taken
    obtain ⟨_, replaced⟩ := Option.ne_none_iff_exists'.mp taken
    obtain ⟨entry, listed, here, put⟩ := exists_of_replacementOf replaced
    obtain ⟨site, member, rfl⟩ := List.mem_map.mp listed
    obtain ⟨decoded, outcome⟩ := decoded_of_effectOf_node? put
    exact plain site member here decoded outcome
  · intro place apart
    refine get?_of_apart fun entry listed => ?_
    obtain ⟨site, member, rfl⟩ := List.mem_map.mp listed
    exact apart site member

theorem atOnce_ne_missingPath (path : Path) :
    atOnce tree warnings (effects patience set resolver policy typeName tree sites) ≠
      .error (.missingPath path) := by
  intro failed
  obtain ⟨_, site, _, _, stops, _⟩ := effects_error_iff.mp (atOnce_error_iff.mp failed)
  rcases effectOf_error? stops with ⟨_, _, _, same⟩ | ⟨_, _, same, _⟩ <;> cases same

/-- What aborting lets pass comes out the same with warnings. -/
theorem atOnce_warn
    (returned : atOnce tree warnings (effects patience set resolver .abort typeName tree sites) =
      .ok result) :
    atOnce tree warnings (effects patience set resolver .warn typeName tree sites) =
      .ok result := by
  have goes := (atOnce_ok_iff.mp returned).1
  have same : effects patience set resolver .warn typeName tree sites =
      effects patience set resolver .abort typeName tree sites := by
    refine List.map_congr_left fun site member => ?_
    rw [effectOf_warn (goes _ (List.mem_map_of_mem member))]
  rw [same, returned]

section Settled

variable (ends : ∀ site ∈ sites, ∀ decoded, decodeSite resolver tree site = .decoded decoded →
  Coercion.coerceTree set (patience decoded) decoded site.shape site.path ≠ none)

include ends

theorem exists_atOnce_warn :
    ∃ result, atOnce tree warnings (effects patience set resolver .warn typeName tree sites) =
      .ok result := by
  refine ⟨_, atOnce_ok_iff.mpr ⟨fun entry listed => ?_, rfl⟩⟩
  obtain ⟨site, member, rfl⟩ := List.mem_map.mp listed
  refine Option.eq_none_iff_forall_ne_some.mpr fun error stops => ?_
  dsimp only at stops
  obtain ⟨_, _, aborts, _⟩ := (effectOf_error?_iff (ends site member)).mp stops
  cases aborts

theorem atOnce_abort_error_iff :
    atOnce tree warnings (effects patience set resolver .abort typeName tree sites) =
        .error error ↔
      ∃ before site after message, sites = before ++ site :: after ∧
        (∀ other ∈ before, ∀ reason, decodeSite resolver tree other ≠ .failed reason) ∧
        decodeSite resolver tree site = .failed message ∧
        error = .decodeFailure site.path site.format message := by
  rw [atOnce_error_iff, effects_error_iff]
  constructor
  · rintro ⟨before, site, after, rfl, stops, goes⟩
    obtain ⟨message, outcome, _, same⟩ := (effectOf_error?_iff (ends site (by simp))).mp stops
    refine ⟨before, site, after, message, rfl, fun other member reason failed => ?_, outcome, same⟩
    -- An earlier decoder that failed would have stopped the expansion there.
    have never := goes other member
    rw [failed] at never
    cases never
  · rintro ⟨before, site, after, message, rfl, goes, outcome, rfl⟩
    refine ⟨before, site, after, rfl, by rw [outcome]; rfl, fun other member => ?_⟩
    refine Option.eq_none_iff_forall_ne_some.mpr fun error stops => ?_
    have within : other ∈ before ++ site :: after := List.mem_append_left _ member
    obtain ⟨reason, failed, _⟩ := (effectOf_error?_iff (ends other within)).mp stops
    exact goes other member reason failed

end Settled

/-- Expansion of a coerced tree finds a text at every site and has all effects at once: it stops
with the error of the first site that stops, or else every site holds what was decoded there once
this is coerced. Every other value is as it was, and so are the lengths of arrays and the order of
keys around what was decoded. No place is missed, and what aborting lets pass comes out the same
with warnings. If what is decoded can be coerced, warning gives a result and aborting fails with the
first decoder that does. -/
theorem expandWith_coerced (literals : set.DistinctLiterals) (distinct : node.distinctKeys = true)
    (ran : Coercion.coerceTree set fuel node shape [] = some coerced) (resolver : Resolver)
    (typeName : String) :
    (∀ site ∈ coerced.sites, ∃ content,
      coerced.node.get? site.path = some (.string content)) ∧
    (∀ patience policy, expandWith patience set resolver policy typeName coerced =
      atOnce coerced.node coerced.warnings
        (effects patience set resolver policy typeName coerced.node coerced.sites)) ∧
    (∀ patience policy result,
      expandWith patience set resolver policy typeName coerced = .ok result →
        (∀ site ∈ coerced.sites, ∀ decoded,
          decodeSite resolver coerced.node site = .decoded decoded →
            ∃ inner, Coercion.coerceTree set (patience decoded) decoded site.shape site.path =
              some inner ∧ result.node.get? site.path = some inner.node) ∧
        (∀ place value, coerced.node.get? place = some value →
          (∀ site ∈ coerced.sites, site.path = place → ∀ decoded,
            decodeSite resolver coerced.node site ≠ .decoded decoded) →
          ∃ other, result.node.get? place = some other ∧ value.SameOutline other) ∧
        ∀ place, (∀ site ∈ coerced.sites, Path.Apart site.path place) →
          result.node.get? place = coerced.node.get? place) ∧
    (∀ patience policy path,
      expandWith patience set resolver policy typeName coerced ≠ .error (.missingPath path)) ∧
    (∀ patience result,
      expandWith patience set resolver .abort typeName coerced = .ok result →
        expandWith patience set resolver .warn typeName coerced = .ok result) ∧
    ((∀ site ∈ coerced.sites, ∀ decoded,
        decodeSite resolver coerced.node site = .decoded decoded →
          ∃ fuel inner, Coercion.coerceTree set fuel decoded site.shape site.path = some inner) →
      ∃ bound, ∀ patience, (∀ decoded, bound ≤ patience decoded) →
        (∃ result, expandWith patience set resolver .warn typeName coerced = .ok result) ∧
        ∀ error, expandWith patience set resolver .abort typeName coerced = .error error ↔
          ∃ before site after message, coerced.sites = before ++ site :: after ∧
            (∀ other ∈ before, ∀ reason,
              decodeSite resolver coerced.node other ≠ .failed reason) ∧
            decodeSite resolver coerced.node site = .failed message ∧
            error = .decodeFailure site.path site.format message) := by
  have located := Coercion.coerceTree_located literals distinct ran
  have texts := texts_of_located located
  have equal (patience : Node → Nat) (policy : FailurePolicy) :
      expandWith patience set resolver policy typeName coerced =
        atOnce coerced.node coerced.warnings
          (effects patience set resolver policy typeName coerced.node coerced.sites) :=
    expandWith_eq_atOnce located.1 texts
  refine ⟨texts.stands, equal, fun patience policy result returned => ?_,
    fun patience policy path => ?_, fun patience result returned => ?_, fun settles => ?_⟩
  · rw [equal] at returned
    exact values_of_atOnce texts returned
  · rw [equal]
    exact atOnce_ne_missingPath path
  · rw [equal] at returned ⊢
    exact atOnce_warn returned
  · obtain ⟨bound, ends⟩ := exists_patience settles
    refine ⟨bound, fun patience enough => ?_⟩
    have ends : ∀ site ∈ coerced.sites, ∀ decoded,
        decodeSite resolver coerced.node site = .decoded decoded →
          Coercion.coerceTree set (patience decoded) decoded site.shape site.path ≠ none :=
      fun site member decoded => ends (patience decoded) (enough decoded) site member decoded
    simp only [equal]
    exact ⟨exists_atOnce_warn ends, fun error => atOnce_abort_error_iff ends⟩

/-- A decoder that makes a number of every text but one. -/
def numbering : Resolver := fun format =>
  if format = "markdown" then
    some fun content => if content = "last" then .error "cut off" else .ok (.integer 1)
  else none

theorem expandWith_remarked :
    expandWith (fun _ => 1) .library numbering .abort "Remarks" Coercion.remarked =
        .error (.decodeFailure [.index 2] "markdown" "cut off") ∧
      expandWith (fun _ => 1) .library numbering .warn "Remarks" Coercion.remarked =
        .ok ⟨.array [.integer 1, .null, .string "last"],
          [.decodeFailed "markdown" "cut off" [.index 2]]⟩ := by
  obtain ⟨_, equal, _⟩ := expandWith_coerced SchemaSet.library_built.distinctLiterals rfl
    Coercion.coerceTree_remarks numbering "Remarks"
  have inside : Coercion.coerceTree .library 1 (.integer 1) .any [.index 0] =
      some ⟨.integer 1, [], []⟩ := by
    have shaped : Coercion.reshape .library .any [.index 0] (.integer 1) = ⟨.integer 1, []⟩ := by
      simp [Coercion.reshape]
    rw [Coercion.coerceTree, Coercion.coerceTreeWith, shaped]
    rfl
  have first : decodeSite numbering Coercion.remarks ⟨[.index 0], "markdown", .any⟩ =
      .decoded (.integer 1) := rfl
  have last : decodeSite numbering Coercion.remarks ⟨[.index 2], "markdown", .any⟩ =
      .failed "cut off" := rfl
  rw [equal, equal]
  simp only [effects, Coercion.remarked, List.map_cons, List.map_nil, first, last, effectOf, inside]
  exact ⟨rfl, rfl⟩

end Coerced

end Expansion

end DocSchema
