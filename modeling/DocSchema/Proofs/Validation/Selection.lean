import DocSchema.Proofs.Validation.Origins
import Mathlib

/-!
# The selection of the nearest alternative

Alternatives are compared by whether they expect the right kind of value, by how deep they got, by
how few errors they have and by how telling these are, in this order; of those that are nearest the
last one is selected. It is summarized by its errors, the most telling and the deepest ones first
and those that are equally so in their order. A union that nothing matched selects one unless it has
no alternatives. Main statement: `selectNearest_nearest`.
-/

namespace DocSchema.Validation

open ValidationError (Tells)

variable {base : Nat} {errors : List ValidationError}
  {variants : List (String × List ValidationError)}

/-! ### How near an alternative is -/

theorem isGreatest_largest {numbers : List Nat} (nonempty : numbers ≠ []) :
    IsGreatest {number | number ∈ numbers} (largest numbers) := by
  have found : numbers.max? = some (largest numbers) := by
    cases numbers with
    | nil => exact absurd rfl nonempty
    | cons first rest => rw [List.max?_cons', largest, List.foldl_cons, Nat.zero_max]
  obtain ⟨member, above⟩ := List.max?_eq_some_iff.mp found
  exact ⟨member, fun number listed => above number listed⟩

/-- What the nearness of an alternative is made of, where the union stands at the depth `base`. -/
structure Measures (base : Nat) (errors : List ValidationError) (nearness : Nearness) : Prop where
  structural : nearness.structural = true ↔
    ∀ error ∈ errors, error.isTypeMismatch = true → error.depth ≠ base
  depth : IsGreatest {depth | ∃ error ∈ errors, error.depth = depth} nearness.depth
  count : nearness.count = errors.length
  priority : IsGreatest {priority | ∃ error ∈ errors, error.priority = priority} nearness.priority

theorem isGreatest_largest_map (measure : ValidationError → Nat) (failed : errors ≠ []) :
    IsGreatest {number | ∃ error ∈ errors, measure error = number}
      (largest (errors.map measure)) := by
  have nonempty : errors.map measure ≠ [] := by simpa using failed
  have greatest := isGreatest_largest nonempty
  simpa only [List.mem_map] using greatest

theorem measures_ofErrors (base : Nat) (failed : errors ≠ []) :
    Measures base errors (.ofErrors base errors) where
  structural := by simp [Nearness.ofErrors, isStructuralMatch]
  depth := isGreatest_largest_map _ failed
  count := rfl
  priority := isGreatest_largest_map _ failed

/-- Nearness as it is compared: its parts one after the other, fewer errors being nearer. -/
def Nearness.key (nearness : Nearness) : Bool ×ₗ Nat ×ₗ Natᵒᵈ ×ₗ Nat :=
  toLex (nearness.structural,
    toLex (nearness.depth, toLex (OrderDual.toDual nearness.count, nearness.priority)))

theorem Nearness.isAtMost_iff {left right : Nearness} :
    left.isAtMost right = true ↔ left.key ≤ right.key := by
  simp only [key, Prod.Lex.toLex_le_toLex, OrderDual.toDual_lt_toDual, OrderDual.toDual_inj]
  -- The first part in which the two differ decides.
  unfold isAtMost
  by_cases kinds : left.structural = right.structural
  · by_cases depths : left.depth = right.depth
    · by_cases counts : left.count = right.count
      · simp [kinds, depths, counts]
      · simp [kinds, depths, counts]
    · simp [kinds, depths]
  · cases kind : left.structural <;> simp_all

/-! ### The last of the nearest ones -/

/-- The key of an alternative with some errors. -/
def keyOf (base : Nat) (errors : List ValidationError) : Bool ×ₗ Nat ×ₗ Natᵒᵈ ×ₗ Nat :=
  (Nearness.ofErrors base errors).key

/-- Whether no alternative with errors is nearer than one among some, nor as near and later. -/
def LastNearest (base : Nat) (variants : List (String × List ValidationError))
    (variant : String × List ValidationError) : Prop :=
  variant.2 ≠ [] ∧ ∃ before after, variants = before ++ variant :: after ∧
    (∀ other ∈ before, other.2 ≠ [] → keyOf base other.2 ≤ keyOf base variant.2) ∧
    ∀ other ∈ after, other.2 ≠ [] → keyOf base other.2 < keyOf base variant.2

theorem nearestOf?_eq_none_iff : nearestOf? base variants = none ↔ variants = [] := by
  cases variants with
  | nil => simp [nearestOf?]
  | cons first rest =>
    rw [nearestOf?]
    split
    next => simp
    next => split <;> simp

/-- The one that is found stands behind none that are nearer, and before farther ones only. -/
theorem nearestOf?_split {variant : String × List ValidationError}
    (found : nearestOf? base variants = some variant) :
    ∃ before after, variants = before ++ variant :: after ∧
      (∀ other ∈ before, keyOf base other.2 ≤ keyOf base variant.2) ∧
      ∀ other ∈ after, keyOf base other.2 < keyOf base variant.2 := by
  induction variants generalizing variant with
  | nil => cases found
  | cons first rest ih =>
    rw [nearestOf?] at found
    split at found
    next nothing =>
      cases found
      rw [nearestOf?_eq_none_iff] at nothing
      exact ⟨[], [], by rw [nothing, List.nil_append], by simp, by simp⟩
    next other later =>
      obtain ⟨before, after, rfl, upTo, beyond⟩ := ih later
      by_cases nearer : keyOf base first.2 ≤ keyOf base other.2
      · rw [if_pos (Nearness.isAtMost_iff.mpr nearer)] at found
        cases found
        exact ⟨first :: before, after, rfl, List.forall_mem_cons.mpr ⟨nearer, upTo⟩, beyond⟩
      · rw [if_neg (mt Nearness.isAtMost_iff.mp nearer)] at found
        cases found
        -- All that follow are at most as near as the best of them, which is farther.
        have farther := not_le.mp nearer
        refine ⟨[], before ++ other :: after, rfl, by simp, fun one member => ?_⟩
        rcases List.mem_append.mp member with inFront | behind
        · exact (upTo one inFront).trans_lt farther
        · rcases List.mem_cons.mp behind with rfl | further
          · exact farther
          · exact (beyond one further).trans farther

/-- Alternatives without errors do not count. -/
theorem lastNearest_of_filter {variant : String × List ValidationError}
    (found : nearestOf? base (variants.filter fun variant => !variant.2.isEmpty) = some variant) :
    LastNearest base variants variant := by
  obtain ⟨before, after, split, upTo, beyond⟩ := nearestOf?_split found
  obtain ⟨front, back, rfl, rfl, rest⟩ := List.filter_eq_append_iff.mp split
  obtain ⟨skipped, tail, rfl, none, failed, rfl⟩ := List.filter_eq_cons_iff.mp rest
  have kept {others : List (String × List ValidationError)}
      {other : String × List ValidationError} (member : other ∈ others) (errors : other.2 ≠ []) :
      other ∈ others.filter fun variant => !variant.2.isEmpty :=
    List.mem_filter.mpr ⟨member, by simpa using errors⟩
  refine ⟨by simpa using failed, front ++ skipped, tail, by simp, ?_, ?_⟩
  · intro other member errors
    rcases List.mem_append.mp member with inFront | passed
    · exact upTo other (kept inFront errors)
    · exact absurd errors (by simpa using none other passed)
  · exact fun other member errors => beyond other (kept member errors)

/-! ### The summary -/

/-- How telling and how deep an error is. -/
def rankOf (error : ValidationError) : Nat ×ₗ Nat := toLex (error.priority, error.depth)

theorem isBefore_iff {left right : ValidationError} :
    isBefore left right = true ↔ rankOf right ≤ rankOf left := by
  rw [rankOf, rankOf, Prod.Lex.toLex_le_toLex, isBefore]
  by_cases same : left.priority = right.priority
  · simp [same]
  · simp [same, Ne.symm same]

theorem isBefore_trans (first second third : ValidationError)
    (left : isBefore first second = true) (right : isBefore second third = true) :
    isBefore first third = true :=
  isBefore_iff.mpr ((isBefore_iff.mp right).trans (isBefore_iff.mp left))

theorem isBefore_total (left right : ValidationError) :
    (isBefore left right || isBefore right left) = true := by
  rw [Bool.or_eq_true, isBefore_iff, isBefore_iff]
  exact le_total _ _

theorem ranked_perm (errors : List ValidationError) : (ranked errors).Perm errors :=
  List.mergeSort_perm errors isBefore

theorem ranked_pairwise (errors : List ValidationError) :
    (ranked errors).Pairwise fun left right => rankOf right ≤ rankOf left :=
  (List.pairwise_mergeSort isBefore_trans isBefore_total errors).imp isBefore_iff.mp

/-- Errors of one rank keep their order. -/
theorem filter_ranked (errors : List ValidationError) (rank : Nat ×ₗ Nat) :
    (ranked errors).filter (fun error => rankOf error = rank) =
      errors.filter fun error => rankOf error = rank := by
  have equal : (errors.filter fun error => rankOf error = rank).Pairwise
      fun left right => isBefore left right = true := by
    refine List.pairwise_of_forall_mem_list fun left inLeft right inRight => ?_
    have leftRank := of_decide_eq_true (List.mem_filter.mp inLeft).2
    have rightRank := of_decide_eq_true (List.mem_filter.mp inRight).2
    exact isBefore_iff.mpr (le_of_eq (rightRank.trans leftRank.symm))
  -- What is sorted already is found in its order among the sorted errors, and there are no more.
  have within := (List.sublist_mergeSort isBefore_trans isBefore_total equal
    List.filter_sublist).filter fun error => decide (rankOf error = rank)
  rw [List.filter_filter, funext fun error => Bool.and_self _] at within
  have lengths := ((ranked_perm errors).filter fun error => decide (rankOf error = rank)).length_eq
  exact (within.eq_of_length lengths.symm).symm

/-- Whether the nearest alternative is described by its errors. -/
structure Summarizes (errors : List ValidationError) (nearest : Nearest ValidationError) :
    Prop where
  all : nearest.all.Perm errors
  ordered : nearest.all.Pairwise fun left right => rankOf right ≤ rankOf left
  stable : ∀ rank, nearest.all.filter (fun error => rankOf error = rank) =
    errors.filter fun error => rankOf error = rank
  first : nearest.all.head? = some nearest.error
  count : nearest.count = nearest.all.length
  depth : IsGreatest {depth | ∃ error ∈ errors, error.depth = depth} nearest.depth

/-! ### Selecting -/

theorem selectNearest_eq_none_iff :
    selectNearest variants base = none ↔ ∀ variant ∈ variants, variant.2 = [] := by
  unfold selectNearest
  split
  next nothing =>
    rw [nearestOf?_eq_none_iff, List.filter_eq_nil_iff] at nothing
    simpa using nothing
  next variant errors found =>
    obtain ⟨failed, before, after, rfl, -⟩ := lastNearest_of_filter found
    have nonempty : ¬∀ other ∈ before ++ (variant, errors) :: after, other.2 = [] :=
      fun all => failed (all (variant, errors) (by simp))
    split
    next order => exact absurd (List.nil_perm.mp (order ▸ ranked_perm errors)) failed
    next => simpa using nonempty

theorem summarizes_of_selectNearest {nearest : Nearest ValidationError}
    (selected : selectNearest variants base = some nearest) :
    ∃ errors, LastNearest base variants (nearest.variant, errors) ∧ Summarizes errors nearest := by
  unfold selectNearest at selected
  split at selected
  next => cases selected
  next variant errors found =>
    have last := lastNearest_of_filter found
    split at selected
    next => cases selected
    next first rest order =>
      cases selected
      have permuted := ranked_perm errors
      have sorted := ranked_pairwise errors
      have stable := filter_ranked errors
      rw [order] at permuted sorted stable
      exact ⟨errors, last, permuted, sorted, stable, rfl, permuted.length_eq.symm,
        isGreatest_largest_map _ last.1⟩

/-! ### Unions that nothing matched -/

/-- Whether the error at a path tells of what was selected from the alternatives of a union that
validation came to there. -/
structure SelectedAt (set : SchemaSet) (start : Comparison) (above place : Path)
    (alternatives : List Shape) (nearest : Option (Nearest ValidationError)) : Prop where
  unmatched : ∃ below later hops, place = above ++ below ∧
    start.node.get? below = some later.node ∧ start.ComesTo set later ∧
    later.Offers set alternatives hops ∧ Shape.named? alternatives later.node = none ∧
    nearest = selectNearest (outcomesOf set alternatives later.node place hops) place.length ∧
    ∀ alternative ∈ alternatives, errorsOf set alternative later.node place hops ≠ []
  absent : nearest = none ↔ alternatives = []

theorem exists_selectedAt {set : SchemaSet} {start : Comparison} {above place : Path}
    {nearest : Option (Nearest ValidationError)}
    (traced : TracedFrom set start above (.noVariantMatched place nearest)) :
    ∃ alternatives, SelectedAt set start above place alternatives nearest := by
  obtain ⟨below, later, reached, comes, owns⟩ := traced
  obtain rfl : place = above ++ below := owns.here
  obtain ⟨alternatives, hops, offers, unnamed, rfl, failed⟩ := owns.unmatched nearest rfl
  rw [outcomesOf_eq_map, List.forall_mem_map] at failed
  refine ⟨alternatives, ⟨below, later, hops, rfl, reached, comes, offers, unnamed, rfl, failed⟩, ?_⟩
  rw [selectNearest_eq_none_iff, outcomesOf_eq_map, List.forall_mem_map]
  constructor
  · intro matched
    by_contra nonempty
    obtain ⟨alternative, member⟩ := List.exists_mem_of_ne_nil alternatives nonempty
    exact failed alternative member (matched alternative member)
  · rintro rfl
    exact fun alternative member => absurd member List.not_mem_nil

/-- The nearest alternative is the last one that is nearest, summarized by its errors, and unless a
union that nothing matched has no alternatives, its error tells of one. -/
theorem selectNearest_nearest :
    (∀ base errors, errors ≠ [] → Measures base errors (.ofErrors base errors)) ∧
    (∀ variants base, (selectNearest variants base = none ↔ ∀ variant ∈ variants, variant.2 = []) ∧
      ∀ nearest, selectNearest variants base = some nearest →
        ∃ errors, LastNearest base variants (nearest.variant, errors) ∧
          Summarizes errors nearest) ∧
    ∀ set node shape path, ∀ error ∈ validateShape set node shape path, ∀ place nearest,
      error.Tells (.noVariantMatched place nearest) →
        ∃ alternatives, SelectedAt set ⟨shape, node, 0⟩ path place alternatives nearest := by
  refine ⟨fun base errors failed => measures_ofErrors base failed, fun variants base =>
    ⟨selectNearest_eq_none_iff, fun nearest selected => summarizes_of_selectNearest selected⟩, ?_⟩
  intro set node shape path error found place nearest tells
  exact exists_selectedAt (traced_of_mem_validateShape found tells)

/-- Outcomes of four alternatives at the root. The first one expects another kind of value, the
third one has no errors, and the others are equally near. -/
def fourOutcomes : List (String × List ValidationError) :=
  [("string", [.typeMismatch "string" "record" []]),
    ("Book", [.missingRequired "type" [], .unknownProperty "scale" []]), ("object", []),
    ("Map", [.unknownProperty "pages" [], .missingRequired "type" []])]

/-- A leaflet is neither a book nor a text. -/
def leaflet : Node := .record [("type", .string "Leaflet"), ("title", .string "Emma")]

theorem fourOutcomes_nearest :
    (∃ nearest errors, selectNearest fourOutcomes 0 = some nearest ∧ nearest.variant = "Map" ∧
      LastNearest 0 fourOutcomes (nearest.variant, errors) ∧ Summarizes errors nearest) ∧
    ∃ place nearest alternatives,
      validateShape .library leaflet (.ref "Entry") [] = [.noVariantMatched place nearest] ∧
      SelectedAt .library ⟨.ref "Entry", leaflet, 0⟩ [] place alternatives nearest := by
  obtain ⟨-, selects, tells⟩ := selectNearest_nearest
  constructor
  · have selected : selectNearest fourOutcomes 0 = some ⟨"Map", .missingRequired "type" [],
        [.missingRequired "type" [], .unknownProperty "pages" []], 0, 2⟩ := by cbv
    obtain ⟨errors, last, summarizes⟩ := (selects fourOutcomes 0).2 _ selected
    exact ⟨_, errors, selected, rfl, last, summarizes⟩
  · have found : ∃ nearest, validateShape .library leaflet (.ref "Entry") [] =
        [.noVariantMatched [] nearest] := ⟨_, by cbv⟩
    obtain ⟨nearest, found⟩ := found
    obtain ⟨alternatives, selected⟩ := tells .library leaflet (.ref "Entry") []
      (.noVariantMatched [] nearest) (found ▸ List.mem_singleton_self _) [] nearest (.self _)
    exact ⟨[], nearest, alternatives, found, selected⟩

end DocSchema.Validation
