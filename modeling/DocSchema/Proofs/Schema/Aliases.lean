import DocSchema.Proofs.Schema.Built

/-!
# Collecting aliases

The aliases of a type are collected property by property, and each is compared with what has been
collected so far. This finds out about all aliases whether one is also the name of a property or
an alias of another one, for of two properties that share an alias one comes later. Main
statements: `collectAliases_ok` and `collectAliases_error_iff`.
-/

namespace DocSchema

namespace TypeSchema

/-- Whether a property among some is written with an alias. -/
def Writes (properties : List (String × Property)) (name aliasName : String) : Prop :=
  ∃ property, (name, property) ∈ properties ∧ aliasName ∈ property.aliases

theorem writes_append_iff {before after : List (String × Property)} {name aliasName : String} :
    Writes (before ++ after) name aliasName ↔
      Writes before name aliasName ∨ Writes after name aliasName := by
  simp only [Writes, List.mem_append, or_and_right, exists_or]

theorem writes_singleton_iff {entry : String × Property} {name aliasName : String} :
    Writes [entry] name aliasName ↔ name = entry.1 ∧ aliasName ∈ entry.2.aliases := by
  constructor
  · rintro ⟨property, member, given⟩
    cases List.mem_singleton.mp member
    exact ⟨rfl, given⟩
  · rintro ⟨rfl, given⟩
    exact ⟨entry.2, List.mem_singleton_self _, given⟩

/-- What the alias of a property stands for besides: a property of that name, or another one that
is written with it too. -/
def StandsFor (properties : Keyed Property) (name aliasName other : String) : Prop :=
  (aliasName ∈ Keyed.keys properties ∧ other = aliasName) ∨
    (other ≠ name ∧ Writes properties other aliasName)

/-- Whether some aliases are those that some properties are written with. -/
structure Records (properties : List (String × Property)) (known : Keyed String) : Prop where
  distinct : Keyed.Distinct known
  owner : ∀ aliasName name,
    Keyed.get? known aliasName = some name ↔ Writes properties name aliasName

theorem records_nil : Records [] [] :=
  ⟨Keyed.distinct_nil, by simp [Writes]⟩

/-- An alias is recorded for one property only. -/
theorem Records.unshared {properties : List (String × Property)} {known : Keyed String}
    (records : Records properties known) {first second aliasName : String}
    (one : Writes properties first aliasName) (other : Writes properties second aliasName) :
    first = second := by
  have found := (records.owner aliasName first).mpr one
  rw [(records.owner aliasName second).mpr other] at found
  exact (Option.some.inj found).symm

variable {properties : Keyed Property} {known : Keyed String} {name : String}

/-! ### The aliases of one property -/

theorem collision?_eq_none_iff {aliasName : String} :
    collision? properties known name aliasName = none ↔
      aliasName ∉ Keyed.keys properties ∧
        ∀ owner, Keyed.get? known aliasName = some owner → owner = name := by
  unfold collision?
  split
  next declared => simp [Keyed.contains_iff.mp declared]
  next undeclared =>
    have absent : aliasName ∉ Keyed.keys properties := mt Keyed.contains_iff.mpr undeclared
    simp [absent, Option.filter_eq_none_iff]

theorem of_collision?_eq_some {aliasName other : String}
    (collides : collision? properties known name aliasName = some other) :
    (aliasName ∈ Keyed.keys properties ∧ other = aliasName) ∨
      (other ≠ name ∧ Keyed.get? known aliasName = some other) := by
  unfold collision? at collides
  split at collides
  next declared =>
    cases collides
    exact .inl ⟨Keyed.contains_iff.mp declared, rfl⟩
  next =>
    obtain ⟨found, differs⟩ := Option.filter_eq_some_iff.mp collides
    exact .inr ⟨by simpa using differs, found⟩

/-- Aliases that collide with nothing are added to those known. -/
theorem addAliases_ok {names : List String} {result : Keyed String}
    (distinct : Keyed.Distinct known)
    (added : addAliases properties name known names = .ok result) :
    Keyed.Distinct result ∧ (∀ aliasName ∈ names, aliasName ∉ Keyed.keys properties) ∧
      ∀ aliasName owner, Keyed.get? result aliasName = some owner ↔
        Keyed.get? known aliasName = some owner ∨ (owner = name ∧ aliasName ∈ names) := by
  induction names generalizing known with
  | nil =>
    cases added
    exact ⟨distinct, by simp, by simp⟩
  | cons first rest ih =>
    rw [addAliases] at added
    split at added
    next => cases added
    next free =>
      obtain ⟨absent, owned⟩ := collision?_eq_none_iff.mp free
      obtain ⟨stillDistinct, fresh, found⟩ := ih (Keyed.distinct_insert distinct first name) added
      refine ⟨stillDistinct, ?_, fun aliasName owner => ?_⟩
      · rintro aliasName member
        rcases List.mem_cons.mp member with rfl | later
        · exact absent
        · exact fresh aliasName later
      · rw [found]
        by_cases same : first = aliasName
        · subst same
          rw [Keyed.get?_insert_self]
          -- If the alias was known before, it was as one of this property.
          have before := owned owner
          simp only [Option.some.injEq, List.mem_cons, true_or, and_true]
          grind
        · rw [Keyed.get?_insert_other _ _ _ _ same]
          simp [Ne.symm same]

/-- An alias that is refused names a property or is known as an alias of another one. -/
theorem addAliases_error {names : List String} {error : DefinitionError}
    (failed : addAliases properties name known names = .error error) :
    ∃ aliasName ∈ names, ∃ other, error = .aliasCollision aliasName name other ∧
      ((aliasName ∈ Keyed.keys properties ∧ other = aliasName) ∨
        (other ≠ name ∧ Keyed.get? known aliasName = some other)) := by
  induction names generalizing known with
  | nil => cases failed
  | cons first rest ih =>
    rw [addAliases] at failed
    split at failed
    next other collides =>
      cases failed
      exact ⟨first, List.mem_cons_self, other, rfl, of_collision?_eq_some collides⟩
    next =>
      obtain ⟨aliasName, member, other, rfl, cause⟩ := ih failed
      refine ⟨aliasName, List.mem_cons_of_mem _ member, other, rfl, cause.imp_right ?_⟩
      rintro ⟨differs, found⟩
      refine ⟨differs, ?_⟩
      by_cases same : first = aliasName
      · -- What this property has just added does not stand in its own way.
        subst same
        rw [Keyed.get?_insert_self] at found
        exact absurd (Option.some.inj found).symm differs
      · rwa [Keyed.get?_insert_other _ _ _ _ same] at found

/-! ### The aliases of all properties -/

/-- The aliases of one more property are recorded. -/
theorem Records.add {before : List (String × Property)} {entry : String × Property}
    {grown : Keyed String} (records : Records before known)
    (added : addAliases properties entry.1 known entry.2.aliases = .ok grown) :
    Records (before ++ [entry]) grown := by
  obtain ⟨distinct, -, found⟩ := addAliases_ok records.distinct added
  refine ⟨distinct, fun aliasName name => ?_⟩
  rw [found, records.owner, writes_append_iff, writes_singleton_iff]

/-- Collected aliases are those written, and none of them is the name of a property. -/
theorem collectAliases_records {before entries : List (String × Property)} {result : Keyed String}
    (records : Records before known)
    (collected : collectAliases properties known entries = .ok result) :
    Records (before ++ entries) result ∧
      ∀ name aliasName, Writes entries name aliasName → aliasName ∉ Keyed.keys properties := by
  induction entries generalizing before known with
  | nil =>
    cases collected
    exact ⟨by simpa using records, by simp [Writes]⟩
  | cons entry rest ih =>
    rw [collectAliases, bind_eq_ok_iff] at collected
    obtain ⟨grown, added, later⟩ := collected
    obtain ⟨-, fresh, -⟩ := addAliases_ok records.distinct added
    obtain ⟨all, others⟩ := ih (records.add added) later
    refine ⟨by simpa using all, fun name aliasName writes => ?_⟩
    rw [← List.singleton_append, writes_append_iff, writes_singleton_iff] at writes
    rcases writes with ⟨-, here⟩ | there
    · exact fresh aliasName here
    · exact others name aliasName there

/-- Collecting fails at an alias that stands for something else too. -/
theorem collectAliases_refuses {before entries : List (String × Property)}
    {error : DefinitionError} (records : Records before known)
    (failed : collectAliases properties known entries = .error error) :
    ∃ name aliasName other, error = .aliasCollision aliasName name other ∧
      Writes entries name aliasName ∧
      ((aliasName ∈ Keyed.keys properties ∧ other = aliasName) ∨
        (other ≠ name ∧ Writes (before ++ entries) other aliasName)) := by
  induction entries generalizing before known with
  | nil => cases failed
  | cons entry rest ih =>
    rw [collectAliases, bind_eq_error_iff] at failed
    rcases failed with refused | ⟨grown, added, failed⟩
    · -- What is known of an alias has been written before.
      obtain ⟨aliasName, member, other, rfl, cause⟩ := addAliases_error refused
      refine ⟨entry.1, aliasName, other, rfl, ⟨entry.2, List.mem_cons_self, member⟩,
        cause.imp_right fun ⟨differs, found⟩ => ⟨differs, ?_⟩⟩
      exact writes_append_iff.mpr (.inl ((records.owner aliasName other).mp found))
    · obtain ⟨name, aliasName, other, told, ⟨property, member, given⟩, cause⟩ :=
        ih (records.add added) failed
      refine ⟨name, aliasName, other, told, ⟨property, List.mem_cons_of_mem _ member, given⟩, ?_⟩
      simpa using cause

theorem collectAliases_ok {aliases : Keyed String}
    (collected : collectAliases properties [] properties = .ok aliases) :
    Records properties aliases ∧
      ∀ name aliasName, Writes properties name aliasName → aliasName ∉ Keyed.keys properties := by
  simpa using collectAliases_records records_nil collected

theorem collectAliases_error {error : DefinitionError}
    (failed : collectAliases properties [] properties = .error error) :
    ∃ name aliasName other, error = .aliasCollision aliasName name other ∧
      Writes properties name aliasName ∧ StandsFor properties name aliasName other := by
  simpa [StandsFor] using collectAliases_refuses records_nil failed

/-- Collecting fails exactly if an alias of a property stands for something else too. -/
theorem collectAliases_error_iff :
    (∃ error, collectAliases properties [] properties = .error error) ↔
      ∃ name aliasName other, Writes properties name aliasName ∧
        StandsFor properties name aliasName other := by
  constructor
  · rintro ⟨error, failed⟩
    obtain ⟨name, aliasName, other, -, collides⟩ := collectAliases_error failed
    exact ⟨name, aliasName, other, collides⟩
  · rintro ⟨name, aliasName, other, writes, collides⟩
    cases collected : collectAliases properties [] properties with
    | error error => exact ⟨error, rfl⟩
    | ok aliases =>
      -- Of what has been collected nothing is a property, and nothing belongs to two.
      obtain ⟨records, fresh⟩ := collectAliases_ok collected
      rcases collides with ⟨declared, -⟩ | ⟨differs, shared⟩
      · exact absurd declared (fresh name aliasName writes)
      · exact absurd (records.unshared shared writes) differs

end TypeSchema

end DocSchema
