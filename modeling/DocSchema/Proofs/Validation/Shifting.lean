import DocSchema.Proofs.Validation.Provenance

/-!
# Errors of a value that stands elsewhere

The path at which a value is found only stands in front of what is reported of it. Depths are
compared with each other and with the depth of the union itself, so all of them may grow by the
same number: the nearest alternative remains the nearest, and errors keep their order. Main
statements: `selectNearest_under` and `validateShape_under`.
-/

namespace DocSchema

namespace ValidationError

mutual

/-- The error of a tree that is found at a path and not at the root. -/
def under (above : Path) : ValidationError → ValidationError
  | typeMismatch expected actual path => typeMismatch expected actual (above ++ path)
  | missingRequired property path => missingRequired property (above ++ path)
  | unknownProperty property path => unknownProperty property (above ++ path)
  | literalMismatch expected actual path => literalMismatch expected actual (above ++ path)
  | noVariantMatched path none => noVariantMatched (above ++ path) none
  | noVariantMatched path (some ⟨variant, error, all, depth, count⟩) =>
    noVariantMatched (above ++ path) (some
      ⟨variant, under above error, underAll above all, above.length + depth, count⟩)
  | ambiguousUnion path variants => ambiguousUnion (above ++ path) variants
  | undefinedReference name path => undefinedReference name (above ++ path)
  | referenceCycle name path => referenceCycle name (above ++ path)

/-- The errors of a tree that is found at a path and not at the root. -/
def underAll (above : Path) : List ValidationError → List ValidationError
  | [] => []
  | error :: rest => under above error :: underAll above rest

end

end ValidationError

/-- What is said of the nearest alternative of a union that is found at a path and not at the
root. -/
def Nearest.under (above : Path) (nearest : Nearest ValidationError) : Nearest ValidationError :=
  ⟨nearest.variant, nearest.error.under above, nearest.all.map (·.under above),
    above.length + nearest.depth, nearest.count⟩

namespace ValidationError

variable (above : Path)

theorem underAll_eq_map (errors : List ValidationError) :
    underAll above errors = errors.map (under above) := by
  induction errors with
  | nil => rfl
  | cons error rest ih => rw [underAll, ih, List.map_cons]

/-- Only path and depths of an error change. -/
theorem under_noVariantMatched (path : Path) (nearest : Option (Nearest ValidationError)) :
    under above (.noVariantMatched path nearest) =
      .noVariantMatched (above ++ path) (nearest.map (Nearest.under above)) := by
  cases nearest with
  | none => rfl
  | some best =>
    rw [under, underAll_eq_map, Option.map_some]
    rfl

@[simp] theorem path_under (error : ValidationError) :
    (error.under above).path = above ++ error.path := by
  cases error with
  | noVariantMatched path nearest =>
    rw [under_noVariantMatched]
    rfl
  | _ => rfl

@[simp] theorem depth_under (error : ValidationError) :
    (error.under above).depth = above.length + error.depth := by
  rw [depth, path_under, List.length_append, depth]

@[simp] theorem priority_under (error : ValidationError) :
    (error.under above).priority = error.priority := by
  cases error with
  | noVariantMatched path nearest =>
    rw [under_noVariantMatched]
    rfl
  | _ => rfl

@[simp] theorem isTypeMismatch_under (error : ValidationError) :
    (error.under above).isTypeMismatch = error.isTypeMismatch := by
  cases error with
  | noVariantMatched path nearest =>
    rw [under_noVariantMatched]
    rfl
  | _ => rfl

end ValidationError

namespace Validation

open ValidationError (under)

variable (above : Path)

/-! ### The nearest alternative -/

theorem foldl_max_add (shift start : Nat) (numbers : List Nat) :
    (numbers.map (shift + ·)).foldl max (shift + start) = shift + numbers.foldl max start := by
  induction numbers generalizing start with
  | nil => rfl
  | cons first rest ih =>
    rw [List.map_cons, List.foldl_cons, List.foldl_cons, Nat.add_max_add_left, ih]

theorem largest_map_add (shift : Nat) {numbers : List Nat} (nonempty : numbers ≠ []) :
    largest (numbers.map (shift + ·)) = shift + largest numbers := by
  cases numbers with
  | nil => exact absurd rfl nonempty
  | cons first rest =>
    rw [largest, largest, List.map_cons, List.foldl_cons, List.foldl_cons, Nat.zero_max,
      Nat.zero_max, foldl_max_add]

/-- Only errors have a deepest one among them. -/
theorem deepestDepth_under {errors : List ValidationError} (failed : errors ≠ []) :
    deepestDepth (errors.map (under above)) = above.length + deepestDepth errors := by
  have depths : (errors.map (under above)).map (·.depth) =
      (errors.map (·.depth)).map (above.length + ·) := by
    simp only [List.map_map, Function.comp_def, ValidationError.depth_under]
  rw [deepestDepth, depths, largest_map_add _ (by simpa using failed), deepestDepth]

/-- How near an alternative is whose errors are all deeper by the same number. -/
def Nearness.lowered (shift : Nat) (nearness : Nearness) : Nearness :=
  { nearness with depth := shift + nearness.depth }

/-- Depths are equal if they are so after both have grown by the same number. -/
theorem add_beq_add (shift left right : Nat) : (shift + left == shift + right) = (left == right) :=
  Bool.eq_iff_iff.mpr (by simp only [beq_iff_eq, Nat.add_left_cancel_iff])

theorem Nearness.ofErrors_under (depth : Nat) {errors : List ValidationError}
    (failed : errors ≠ []) :
    Nearness.ofErrors (above.length + depth) (errors.map (under above)) =
      (Nearness.ofErrors depth errors).lowered above.length := by
  simp only [ofErrors, lowered, deepestDepth_under above failed, isStructuralMatch, List.any_map,
    List.map_map, List.length_map, Function.comp_def, ValidationError.isTypeMismatch_under,
    ValidationError.depth_under, ValidationError.priority_under, add_beq_add]

/-- Which of two alternatives is nearer is decided by how much deeper one of them got. -/
theorem Nearness.isAtMost_lowered (shift : Nat) (left right : Nearness) :
    (left.lowered shift).isAtMost (right.lowered shift) = left.isAtMost right := by
  have apart : (shift + left.depth != shift + right.depth) = (left.depth != right.depth) := by
    rw [bne, add_beq_add, bne]
  unfold isAtMost
  rw [lowered, lowered, apart]
  split
  next => rfl
  next =>
    split
    next => simp only [Nat.add_lt_add_iff_left]
    next => rfl

/-- The outcome of an alternative at a value that is found at a path and not at the root. -/
def outcomeUnder (outcome : String × List ValidationError) : String × List ValidationError :=
  (outcome.1, outcome.2.map (under above))

theorem nearestOf?_under (depth : Nat) {variants : List (String × List ValidationError)}
    (failed : ∀ variant ∈ variants, variant.2 ≠ []) :
    nearestOf? (above.length + depth) (variants.map (outcomeUnder above)) =
      (nearestOf? depth variants).map (outcomeUnder above) := by
  induction variants with
  | nil => rfl
  | cons first rest ih =>
    have later := ih fun variant member => failed variant (List.mem_cons_of_mem _ member)
    rw [List.map_cons, nearestOf?, later, nearestOf?]
    cases found : nearestOf? depth rest with
    | none => rfl
    | some other =>
      -- Both alternatives have errors, so both got deeper by the length of the path.
      have here := failed first List.mem_cons_self
      have there := failed other (List.mem_cons_of_mem _ (mem_of_nearestOf? found))
      simp only [Option.map_some, outcomeUnder, Nearness.ofErrors_under above depth here,
        Nearness.ofErrors_under above depth there, Nearness.isAtMost_lowered]
      split <;> rfl

theorem isBefore_under (left right : ValidationError) :
    isBefore (left.under above) (right.under above) = isBefore left right := by
  simp only [isBefore, ValidationError.priority_under, ValidationError.depth_under,
    Nat.add_le_add_iff_left]

theorem ranked_under (errors : List ValidationError) :
    ranked (errors.map (under above)) = (ranked errors).map (under above) :=
  (List.map_mergeSort fun left _ right _ => (isBefore_under above left right).symm).symm

/-- The same alternative is the nearest one, and its errors are ranked in the same order. -/
theorem selectNearest_under (outcomes : List (String × List ValidationError)) (depth : Nat) :
    selectNearest (outcomes.map (outcomeUnder above)) (above.length + depth) =
      (selectNearest outcomes depth).map (Nearest.under above) := by
  have failing : (outcomes.map (outcomeUnder above)).filter (fun variant => !variant.2.isEmpty) =
      (outcomes.filter fun variant => !variant.2.isEmpty).map (outcomeUnder above) := by
    rw [List.filter_map]
    simp only [Function.comp_def, outcomeUnder, List.isEmpty_map]
  have failed : ∀ variant ∈ outcomes.filter fun variant => !variant.2.isEmpty, variant.2 ≠ [] := by
    intro variant member
    simpa using (List.mem_filter.mp member).2
  rw [selectNearest, selectNearest, failing, nearestOf?_under above depth failed]
  cases found : nearestOf? depth (outcomes.filter fun variant => !variant.2.isEmpty) with
  | none => rfl
  | some variant =>
    obtain ⟨text, errors⟩ := variant
    have nonempty := failed _ (mem_of_nearestOf? found)
    simp only [Option.map_some, outcomeUnder, ranked_under, List.length_map,
      deepestDepth_under above nonempty]
    cases ranked errors <;> rfl

/-! ### Errors -/

theorem unionErrors_under (path : Path) (outcomes : List (String × List ValidationError)) :
    unionErrors (above ++ path) (outcomes.map (outcomeUnder above)) =
      (unionErrors path outcomes).map (under above) := by
  have matched : (outcomes.map (outcomeUnder above)).filter (fun outcome => outcome.2.isEmpty) =
      (outcomes.filter fun outcome => outcome.2.isEmpty).map (outcomeUnder above) := by
    rw [List.filter_map]
    simp only [Function.comp_def, outcomeUnder, List.isEmpty_map]
  have texts : ((outcomes.map (outcomeUnder above)).filter fun outcome => outcome.2.isEmpty).map
      Prod.fst = (outcomes.filter fun outcome => outcome.2.isEmpty).map Prod.fst := by
    rw [matched, List.map_map]
    rfl
  rw [unionErrors, unionErrors, texts, List.length_append, selectNearest_under]
  split
  next => rw [List.map_singleton, ValidationError.under_noVariantMatched]
  next => rfl
  next => rfl

theorem missingErrors_under (type : TypeSchema) (name : String) (path : Path) :
    missingErrors type name (above ++ path) = (missingErrors type name path).map (under above) := by
  unfold missingErrors
  split <;> rfl

theorem undeclaredErrors_under (type : TypeSchema) (fields : Keyed Node) (path : Path) :
    undeclaredErrors type fields (above ++ path) =
      (undeclaredErrors type fields path).map (under above) := by
  rw [undeclaredErrors, undeclaredErrors, List.map_map]
  rfl

variable {set : SchemaSet}

theorem errorsOfItems_under {items : Shape} {values : List Node} (position : Nat) (path : Path)
    (each : ∀ value ∈ values, ∀ path, errorsOf set items value (above ++ path) 0 =
      (errorsOf set items value path 0).map (under above)) :
    errorsOfItems set items position values (above ++ path) =
      (errorsOfItems set items position values path).map (under above) := by
  induction values generalizing position with
  | nil => rw [errorsOfItems, errorsOfItems, List.map_nil]
  | cons value rest ih =>
    have later := ih (position + 1) fun other member => each other (List.mem_cons_of_mem _ member)
    rw [errorsOfItems, errorsOfItems, List.map_append, later, ← Path.append_index,
      each value List.mem_cons_self]

theorem errorsOfProperties_under (type : TypeSchema) {fields : Keyed Node}
    (properties : Keyed Property) (path : Path)
    (each : ∀ key value, (key, value) ∈ fields → ∀ shape path,
      errorsOf set shape value (above ++ path) 0 =
        (errorsOf set shape value path 0).map (under above)) :
    errorsOfProperties set type fields properties (above ++ path) =
      (errorsOfProperties set type fields properties path).map (under above) := by
  induction properties with
  | nil => rw [errorsOfProperties, errorsOfProperties, List.map_nil]
  | cons entry rest ih =>
    obtain ⟨name, property⟩ := entry
    cases present : Keyed.get? fields name with
    | some value =>
      rw [errorsOfProperties_present present, errorsOfProperties_present present, List.map_append,
        ih, ← Path.append_property, each name value (Keyed.mem_of_get? present)]
    | none =>
      rw [errorsOfProperties_absent present, errorsOfProperties_absent present, List.map_append, ih,
        missingErrors_under]

theorem errorsOfUnion_under {alternatives : List Shape} {node : Node} {hops : Nat} (path : Path)
    (each : ∀ alternative ∈ alternatives, ∀ path,
      errorsOf set alternative node (above ++ path) hops =
        (errorsOf set alternative node path hops).map (under above)) :
    errorsOfUnion set alternatives node (above ++ path) hops =
      (errorsOfUnion set alternatives node path hops).map (under above) := by
  cases named : Shape.named? alternatives node with
  | some alternative =>
    rw [errorsOfUnion_named named, errorsOfUnion_named named,
      each alternative (Shape.mem_of_named? named)]
  | none =>
    have outcomes : outcomesOf set alternatives node (above ++ path) hops =
        (outcomesOf set alternatives node path hops).map (outcomeUnder above) := by
      rw [outcomesOf_eq_map, outcomesOf_eq_map, List.map_map]
      refine List.map_congr_left fun alternative member => ?_
      rw [each alternative member]
      rfl
    rw [errorsOfUnion_unnamed named, errorsOfUnion_unnamed named, outcomes, unionErrors_under]

/-- The induction follows validation from a value into its parts and through its unions. -/
theorem errorsOf_under (shape : Shape) (node : Node) (path : Path) (hops : Nat) :
    errorsOf set shape node (above ++ path) hops =
      (errorsOf set shape node path hops).map (under above) := by
  induction shape, node, hops using validation_induction set generalizing path with
  | any => rw [errorsOf, errorsOf, List.map_nil]
  | scalar kind node hops =>
    rw [errorsOf, errorsOf]
    split <;> rfl
  | object node hops =>
    rw [errorsOf.eq_def, errorsOf.eq_def]
    cases node <;> rfl
  | enum values node hops =>
    rw [errorsOf, errorsOf]
    split <;> rfl
  | array items node hops ih =>
    rw [errorsOf.eq_def, errorsOf.eq_def]
    cases node with
    | array values =>
      exact errorsOfItems_under above 0 path fun value member => ih values rfl value member
    | _ => rfl
  | missing name node hops unknown =>
    rw [errorsOf_missing unknown, errorsOf_missing unknown]
    rfl
  | record name type properties required aliases node hops known body ih =>
    cases node with
    | record fields =>
      rw [errorsOf_record known body, errorsOf_record known body]
      have inside := errorsOfProperties_under above type.schema properties path
        fun key value member shape path => ih fields rfl key value member shape path
      simp only [inside, undeclaredErrors_under, List.map_append]
    | _ =>
      rw [errorsOf_unrecorded known body (by simp), errorsOf_unrecorded known body (by simp)]
      rfl
  | union name type alternatives node hops known body ih =>
    rw [errorsOf_union known body, errorsOf_union known body]
    -- Whether the limit is reached depends on the hops, which the path does not change.
    split
    next within =>
      exact errorsOfUnion_under above path fun alternative member path =>
        ih within alternative member path
    next => rfl
  | oneOf alternatives node hops ih =>
    rw [errorsOf, errorsOf]
    exact errorsOfUnion_under above path fun alternative member path => ih alternative member path
  | decode format inner node hops ih =>
    rw [errorsOf, errorsOf]
    split
    next => rfl
    next => exact ih path

/-- The path given to validation only stands in front of what is reported. -/
theorem validateShape_under (set : SchemaSet) (node : Node) (shape : Shape) (path : Path) :
    validateShape set node shape path = (validateShape set node shape []).map (under path) := by
  have shifted : errorsOf set shape node (path ++ []) 0 =
      (errorsOf set shape node [] 0).map (under path) := errorsOf_under path shape node [] 0
  rwa [List.append_nil, ← validateShape_eq, ← validateShape_eq] at shifted

end Validation

end DocSchema
