import DocSchema.Proofs.Schema.Built
import DocSchema.Proofs.Schema.Walking

/-!
# What a registry keeps

Whatever a registry has been asked for since it was made, the types of the sets that it resolves are
made of chains of definitions. A set that was resolved once is given again. Main statements:
`Registry.Reached.built` and `Registry.resolve_again`.
-/

namespace DocSchema

/-- Whether a type is made of a chain of definitions for a name. -/
def CompiledType.MadeFor (type : CompiledType) (name : String) : Prop :=
  ∃ chain, TypeSchema.flatten name chain = .ok type.schema

namespace Store

theorem loadType_made {store : Store} {name : String} {type : CompiledType}
    (loaded : store.loadType name = .ok type) : type.MadeFor name := by
  unfold loadType at loaded
  split at loaded
  next => cases loaded
  next => cases loaded
  next chain _ =>
    split at loaded
    next => cases loaded
    next schema flattened =>
      cases loaded
      exact ⟨chain, by rw [flattened, CompiledType.schema_ofSchema]⟩

theorem closure_built {store : Store} {root : String} {set : SchemaSet}
    (closed : store.closure root = .ok set) : set.Built :=
  fun _ _ known => loadType_made (loadType_of_closure closed known)

end Store

namespace SchemaSet

theorem Built.withLimit {set : SchemaSet} (built : set.Built) (limit : Nat) :
    (set.withLimit limit).Built :=
  fun name type known => built name type known

end SchemaSet

namespace Registry

variable {registry after : Registry} {root : String} {set : SchemaSet}

/-- A set that has been resolved is kept, so it is given again without another walk. -/
theorem resolve_again (resolved : registry.resolve root = (.ok set, after)) :
    after.resolve root = (.ok set, after) := by
  unfold Registry.resolve at resolved
  split at resolved
  next kept found =>
    cases resolved
    rw [Registry.resolve, found]
  next =>
    split at resolved
    next => cases resolved
    next =>
      cases resolved
      rw [Registry.resolve, Keyed.get?_insert_self]

/-- The registries that come about by asking one for types and for sets. -/
inductive Reached : Registry → Prop where
  | fresh (source : Source) : Reached (ofSource source)
  | got {registry : Registry} (reached : Reached registry) (name : String) :
      Reached (registry.get name).2
  | resolved {registry : Registry} (reached : Reached registry) (root : String) :
      Reached (registry.resolve root).2

theorem Reached.mirrors (reached : registry.Reached) : ∃ store, registry.Mirrors store := by
  induction reached with
  | fresh source => exact ⟨source.store, mirrors_ofStore source.store⟩
  | got _ name ih =>
    obtain ⟨store, mirrors⟩ := ih
    exact ⟨store, (mirrors.get rfl).2.mirrors⟩
  | resolved _ root ih =>
    obtain ⟨store, mirrors⟩ := ih
    exact ⟨store, (mirrors.resolve rfl).2.mirrors⟩

theorem Reached.built (reached : registry.Reached)
    (resolved : registry.resolve root = (.ok set, after)) : set.Built := by
  obtain ⟨store, mirrors⟩ := reached.mirrors
  exact Store.closure_built (mirrors.resolve resolved).1.symm

end Registry

end DocSchema
