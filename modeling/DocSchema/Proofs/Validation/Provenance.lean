import DocSchema.Proofs.Validation.Fitting

/-!
# Where errors come from

An error found in a value is one of its own or was found in a part of it: in an item, in a
property, or under an alternative of a union. The error of a union that nothing matched tells of
errors found under one of its alternatives. Main statements: `mem_errorsOfItems`,
`mem_errorsOfProperties` and `errorsOfUnion_cases`.
-/

namespace DocSchema.Validation

variable {set : SchemaSet} {path : Path} {hops : Nat} {node : Node} {error : ValidationError}

/-! ### Parts -/

theorem mem_errorsOfItems {items : Shape} {position : Nat} {values : List Node}
    (found : error ∈ errorsOfItems set items position values path) :
    ∃ place value, values[place]? = some value ∧
      error ∈ errorsOf set items value (path.index (position + place)) 0 := by
  induction values generalizing position with
  | nil => simp [errorsOfItems] at found
  | cons first rest ih =>
    rw [errorsOfItems] at found
    rcases List.mem_append.mp found with here | later
    · exact ⟨0, first, rfl, here⟩
    · obtain ⟨place, value, listed, inside⟩ := ih later
      refine ⟨place + 1, value, listed, ?_⟩
      rwa [Nat.add_assoc, Nat.add_comm 1] at inside

/-- Beside the errors of properties that are present there are only those of absent ones. -/
theorem mem_errorsOfProperties {type : TypeSchema} {fields : Keyed Node}
    {properties : Keyed Property}
    (found : error ∈ errorsOfProperties set type fields properties path) :
    (∃ name property value, (name, property) ∈ properties ∧ Keyed.get? fields name = some value ∧
      error ∈ errorsOf set property.shape value (path.property name) 0) ∨
    ∃ name, Keyed.get? fields name = none ∧ error = .missingRequired name path := by
  induction properties with
  | nil => simp [errorsOfProperties] at found
  | cons entry rest ih =>
    obtain ⟨name, property⟩ := entry
    have later (found : error ∈ errorsOfProperties set type fields rest path) :
        (∃ other declared value, (other, declared) ∈ (name, property) :: rest ∧
          Keyed.get? fields other = some value ∧
          error ∈ errorsOf set declared.shape value (path.property other) 0) ∨
        ∃ other, Keyed.get? fields other = none ∧ error = .missingRequired other path := by
      refine (ih found).imp_left ?_
      rintro ⟨other, declared, value, listed, inside⟩
      exact ⟨other, declared, value, List.mem_cons_of_mem _ listed, inside⟩
    cases present : Keyed.get? fields name with
    | some value =>
      rw [errorsOfProperties_present present] at found
      rcases List.mem_append.mp found with here | further
      · exact .inl ⟨name, property, value, List.mem_cons_self, present, here⟩
      · exact later further
    | none =>
      rw [errorsOfProperties_absent present] at found
      rcases List.mem_append.mp found with here | further
      · unfold missingErrors at here
        split at here
        next => exact .inr ⟨name, present, List.mem_singleton.mp here⟩
        next => cases here
      · exact later further

/-! ### Unions -/

theorem mem_of_nearestOf? {depth : Nat} {variants : List (String × List ValidationError)}
    {variant : String × List ValidationError} (found : nearestOf? depth variants = some variant) :
    variant ∈ variants := by
  induction variants generalizing variant with
  | nil => cases found
  | cons first rest ih =>
    rw [nearestOf?] at found
    split at found
    next =>
      cases found
      exact List.mem_cons_self
    next other later =>
      split at found
      next =>
        cases found
        exact List.mem_cons_of_mem _ (ih later)
      next =>
        cases found
        exact List.mem_cons_self

/-- What the nearest alternative is said to fail with are errors of an alternative. -/
theorem mem_of_selectNearest {outcomes : List (String × List ValidationError)} {depth : Nat}
    {nearest : Nearest ValidationError} (selected : selectNearest outcomes depth = some nearest)
    (among : error = nearest.error ∨ error ∈ nearest.all) :
    ∃ outcome ∈ outcomes, error ∈ outcome.2 := by
  unfold selectNearest at selected
  split at selected
  next => cases selected
  next variant errors found =>
    have member := (List.mem_filter.mp (mem_of_nearestOf? found)).1
    split at selected
    next => cases selected
    next first rest order =>
      cases selected
      have listed : error ∈ ranked errors := by
        rw [order]
        exact among.elim (fun same => same ▸ List.mem_cons_self) id
      exact ⟨(variant, errors), member, List.mem_mergeSort.mp listed⟩

/-- Where an alternative is named, a union has its errors; else it has at most one of its own, which
says that several alternatives matched or that none did. -/
theorem errorsOfUnion_cases {alternatives : List Shape}
    (found : error ∈ errorsOfUnion set alternatives node path hops) :
    (∃ alternative, Shape.named? alternatives node = some alternative ∧
      error ∈ errorsOf set alternative node path hops) ∨
    Shape.named? alternatives node = none ∧
      ((∃ variants, error = .ambiguousUnion path variants) ∨
        error = .noVariantMatched path
          (selectNearest (outcomesOf set alternatives node path hops) path.length) ∧
        ∀ outcome ∈ outcomesOf set alternatives node path hops, outcome.2 ≠ []) := by
  cases named : Shape.named? alternatives node with
  | some alternative =>
    rw [errorsOfUnion_named named] at found
    exact .inl ⟨alternative, rfl, found⟩
  | none =>
    rw [errorsOfUnion_unnamed named, unionErrors] at found
    refine .inr ⟨rfl, ?_⟩
    split at found
    next unmatched =>
      refine .inr ⟨List.mem_singleton.mp found, fun outcome member empty => ?_⟩
      rw [List.map_eq_nil_iff, List.filter_eq_nil_iff] at unmatched
      exact unmatched outcome member (List.isEmpty_iff.mpr empty)
    next => cases found
    next => exact .inl ⟨_, List.mem_singleton.mp found⟩

end DocSchema.Validation
