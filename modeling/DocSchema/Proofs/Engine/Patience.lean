import DocSchema.Engine.Basic
import DocSchema.Proofs.Coercion.Halting
import DocSchema.Proofs.Engine.Expanding

/-!
# The fuel of an engine

An engine that is not given enough fuel answers that coercion does not end. Otherwise the fuel
cannot be told from the answer: `Engine.coerceWith_agree`. Over a layered set that fills in no
records some fuel is enough for a tree and all that is decoded in it: `Engine.coerceWith_ends`.
-/

namespace DocSchema

variable {set : SchemaSet}

namespace Expansion

variable {patience more : Node → Nat} {resolver : Resolver} {policy : FailurePolicy}
  {typeName : String} {node : Node} {warnings : List Warning} {coerced : Coerced}

/-- Each decoded tree has the same outcome with either fuel, so both expansions go on alike. -/
theorem splice_agree {sites : List (DecodeSite × Outcome)}
    (ends : splice patience set policy typeName node warnings sites ≠ .error (.endless typeName))
    (alsoEnds : splice more set policy typeName node warnings sites ≠
      .error (.endless typeName)) :
    splice patience set policy typeName node warnings sites =
      splice more set policy typeName node warnings sites := by
  induction sites generalizing node warnings with
  | nil => rfl
  | cons entry rest ih =>
    obtain ⟨site, outcome⟩ := entry
    cases outcome with
    | gone => exact ih ends alsoEnds
    | unavailable => exact ih ends alsoEnds
    | failed message =>
      cases policy with
      | abort => rfl
      | warn => exact ih ends alsoEnds
    | decoded decoded =>
      cases ran : Coercion.coerceTree set (patience decoded) decoded site.shape site.path with
      | none => simp [splice, ran] at ends
      | some inner =>
        cases again : Coercion.coerceTree set (more decoded) decoded site.shape site.path with
        | none => simp [splice, again] at alsoEnds
        | some other =>
          -- Where both fuels lead to an outcome it is the same, and so is the tree to go on with.
          obtain rfl := Coercion.coerceTree_unique ran again
          simp only [splice, ran, again] at ends alsoEnds ⊢
          cases put : node.replace site.path inner.node with
          | error path => rfl
          | ok replaced =>
            simp only [put] at ends alsoEnds
            exact ih ends alsoEnds

/-- Nothing but a decoded tree can keep an expansion from coming to an end. -/
theorem splice_ends {sites : List (DecodeSite × Outcome)}
    (settles : ∀ site decoded, (site, .decoded decoded) ∈ sites →
      Coercion.coerceTree set (patience decoded) decoded site.shape site.path ≠ none)
    (name : String) :
    splice patience set policy typeName node warnings sites ≠ .error (.endless name) := by
  induction sites generalizing node warnings with
  | nil =>
    intro stops
    cases stops
  | cons entry rest ih =>
    have later := fun site decoded member =>
      settles site decoded (List.mem_cons_of_mem entry member)
    obtain ⟨site, outcome⟩ := entry
    cases outcome with
    | gone => exact ih later
    | unavailable => exact ih later
    | failed message =>
      cases policy with
      | abort =>
        intro stops
        cases stops
      | warn => exact ih later
    | decoded decoded =>
      obtain ⟨inner, ran⟩ := Option.ne_none_iff_exists'.mp (settles site decoded List.mem_cons_self)
      simp only [splice, ran]
      cases node.replace site.path inner.node with
      | error path =>
        intro stops
        cases stops
      | ok replaced => exact ih later

theorem expandWith_ends {levels : String → Nat} (layered : set.Layered levels)
    (plain : set.FillsPlainly) (resolver : Resolver) (policy : FailurePolicy) (typeName : String)
    (coerced : Coerced) :
    ∃ enough, ∀ patience : Node → Nat, (∀ tree, enough ≤ patience tree) → ∀ name,
      expandWith patience set resolver policy typeName coerced ≠ .error (.endless name) := by
  have settles : ∀ site ∈ coerced.sites, ∀ decoded,
      decodeSite resolver coerced.node site = .decoded decoded →
        ∃ fuel inner, Coercion.coerceTree set fuel decoded site.shape site.path = some inner := by
    intro site _ decoded _
    obtain ⟨enough, inner, ran⟩ :=
      Coercion.coerceTree_halts layered plain decoded site.shape site.path
    exact ⟨enough, inner, ran enough (Nat.le_refl _)⟩
  obtain ⟨enough, ends⟩ := exists_patience settles
  refine ⟨enough, fun patience bound => splice_ends fun site decoded member => ?_⟩
  obtain ⟨other, listed, same⟩ := List.mem_map.mp member
  obtain ⟨rfl, outcome⟩ := Prod.mk.inj same
  exact ends (patience decoded) (bound decoded) other listed decoded outcome

end Expansion

namespace Engine

variable {engine : Engine} {node : Node} {name : String}

theorem accept_ne_endless {α : Type} {value : α} (other : String) :
    accept set name node value ≠ .error (.endless other) := by
  intro stops
  unfold accept at stops
  split at stops
  next => cases stops
  next => cases stops

section Agree

variable {patience more : Node → Nat}

theorem expand_agree {coerced : Coerced}
    (ends : engine.expand patience set name coerced ≠ .error (.endless name))
    (alsoEnds : engine.expand more set name coerced ≠ .error (.endless name)) :
    engine.expand patience set name coerced = engine.expand more set name coerced := by
  unfold expand at ends alsoEnds ⊢
  by_cases expands : engine.options.expand = true
  · simp only [expands, if_true] at ends alsoEnds ⊢
    exact Expansion.splice_agree ends alsoEnds
  · simp only [expands, Bool.false_eq_true, if_false]

theorem coerceWithin_agree
    (ends : engine.coerceWithin patience set name node ≠ .error (.endless name))
    (alsoEnds : engine.coerceWithin more set name node ≠ .error (.endless name)) :
    engine.coerceWithin patience set name node = engine.coerceWithin more set name node := by
  unfold coerceWithin at ends alsoEnds ⊢
  cases ran : Coercion.coerceType set (patience node) node name with
  | none => simp [ran] at ends
  | some coerced =>
    cases again : Coercion.coerceType set (more node) node name with
    | none => simp [again] at alsoEnds
    | some other =>
      obtain rfl := Coercion.coerceTree_unique ran again
      simp only [ran, again] at ends alsoEnds ⊢
      have expanded : engine.expand patience set name coerced =
          engine.expand more set name coerced := by
        apply expand_agree
        · intro stops
          exact ends (by rw [stops]; rfl)
        · intro stops
          exact alsoEnds (by rw [stops]; rfl)
      rw [expanded]

end Agree

/-- Two amounts of fuel that are both enough lead to the same answer. -/
theorem coerceWith_agree {patience more : SchemaSet → Node → Nat} {typeName : Option String}
    (ends : ∀ other, (engine.coerceWith patience node typeName).1 ≠ .error (.endless other))
    (alsoEnds : ∀ other, (engine.coerceWith more node typeName).1 ≠ .error (.endless other)) :
    engine.coerceWith patience node typeName = engine.coerceWith more node typeName := by
  unfold coerceWith at ends alsoEnds ⊢
  split
  next => rfl
  next name aimed =>
    simp only [aimed] at ends alsoEnds
    split
    next => rfl
    next set after resolved =>
      simp only [resolved] at ends alsoEnds
      rw [coerceWithin_agree (ends name) (alsoEnds name)]

section Ends

variable {levels : String → Nat} (layered : set.Layered levels) (plain : set.FillsPlainly)

include layered plain

theorem coerceWithin_ends (engine : Engine) (name : String) (node : Node) :
    ∃ enough, ∀ patience : Node → Nat, (∀ tree, enough ≤ patience tree) → ∀ other,
      engine.coerceWithin patience set name node ≠ .error (.endless other) := by
  obtain ⟨first, coerced, ran⟩ := Coercion.coerceTree_halts layered plain node (.ref name) []
  -- With enough fuel the tree has one outcome, so what is decoded in it can be told beforehand.
  obtain ⟨second, ends⟩ := Expansion.expandWith_ends layered plain engine.decoders.get?
    engine.options.decodeFailure name coerced
  refine ⟨max first second, fun patience bound other stops => ?_⟩
  have here : Coercion.coerceType set (patience node) node name = some coerced :=
    ran _ (Nat.le_trans (Nat.le_max_left _ _) (bound node))
  have inside := ends patience fun tree => Nat.le_trans (Nat.le_max_right _ _) (bound tree)
  simp only [coerceWithin, here] at stops
  rcases bind_eq_error_iff.mp stops with failed | ⟨result, _, rejected⟩
  · unfold expand at failed
    split at failed
    next => exact inside other failed
    next => cases failed
  · exact accept_ne_endless other rejected

/-- Over a layered set that fills in no records there is enough fuel for every tree. -/
theorem coerceWith_ends (resolved : (engine.schemas name).1 = .ok set) (node : Node) :
    ∃ enough, ∀ patience : SchemaSet → Node → Nat, (∀ tree, enough ≤ patience set tree) →
      ∀ other, (engine.coerceWith patience node (some name)).1 ≠ .error (.endless other) := by
  match answered : engine.schemas name, resolved with
  | (.ok _, after), rfl =>
    obtain ⟨enough, ends⟩ := coerceWithin_ends layered plain after name node
    refine ⟨enough, fun patience bound other => ?_⟩
    simp only [coerceWith, targetType?, answered]
    exact ends (patience set) bound other

end Ends

end Engine

end DocSchema
