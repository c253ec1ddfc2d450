import DocSchema.Proofs.Coercion.Parts
import DocSchema.Proofs.Coercion.Simulation
import DocSchema.Proofs.Coercion.Steady
import Mathlib

/-!
# Records that name their alternative

Reshaping, settling and validation all look at the discriminator of a record where a union is
expected, but not with one priority: a value that matches an alternative already is settled by
that. If this does not pass over the alternative that the discriminator names, the record is
coerced in the union as it is coerced in that alternative. Main statement:
`coerceTree_union_of_typed`.
-/

namespace DocSchema.Coercion

open Validation (Fits MatchesUnion)

variable {set : SchemaSet} {alternatives : List Shape} {name : String} {type : CompiledType}
  {node : Node}

/-! ### The alternative that a discriminator names -/

theorem matchesUnion_of_typed {fits : Shape → Prop} (typed : node.typeName? = some name)
    (member : .ref name ∈ alternatives) (good : fits (.ref name)) :
    MatchesUnion fits alternatives node := by
  constructor
  · intro other also _
    rw [typed] at also
    cases also
    exact good
  · intro absent
    exact absurd member (absent name typed)

theorem fits_union_of_typed {union : Shape} (stands : union.alternativesIn? set = some alternatives)
    (room : ∀ other, union = .ref other → 0 < set.limit) (member : .ref name ∈ alternatives)
    (known : set.recordType? name = some type) (typed : node.typeName? = some name)
    (fits : Fits set 0 (.ref name) node) : Fits set 0 union node := by
  have variant : (Shape.ref name).IsVariant set := ⟨type, known⟩
  cases union with
  | oneOf others =>
    cases stands
    exact Validation.fits_oneOf.mpr (matchesUnion_of_typed typed member fits)
  | ref other =>
    simp only [Shape.alternativesIn?, Option.bind_eq_some_iff] at stands
    obtain ⟨union, found, listed⟩ := stands
    -- One union type is entered, and a limit above 0 leaves room for it.
    cases body : union.schema.body with
    | record properties required aliases => simp [TypeSchema.alternatives?, body] at listed
    | union others =>
      simp only [TypeSchema.alternatives?, body, Option.some.injEq] at listed
      subst listed
      refine (Validation.fits_union found body).mpr ⟨room other rfl, ?_⟩
      exact matchesUnion_of_typed typed member ((Validation.fits_variant_iff variant).mpr fits)
  | _ => cases stands

theorem namedWithPosition?_of_typed (typed : node.typeName? = some name)
    (member : .ref name ∈ alternatives) :
    ∃ position, namedWithPosition? alternatives node = some (.ref name, position) := by
  obtain ⟨place, bound, found⟩ := List.getElem_of_mem member
  have listed : (Shape.ref name, place) ∈ alternatives.zipIdx := by
    rw [List.mem_zipIdx_iff_getElem?, List.getElem?_eq_getElem bound, found]
  have some : (alternatives.zipIdx.find? fun other => other.1.namesType name).isSome = true := by
    rw [List.find?_isSome]
    exact ⟨_, listed, by simp [Shape.namesType]⟩
  obtain ⟨⟨other, position⟩, chosen⟩ := Option.isSome_iff_exists.mp some
  refine ⟨position, ?_⟩
  have names := List.find?_some chosen
  cases other with
  | ref same =>
    have equal : same = name := by simpa [Shape.namesType] using names
    rw [namedWithPosition?, typed, Option.bind_some, chosen, equal]
  | _ => cases names

/-- Reshaping goes by the discriminator of a record whatever is expected. -/
theorem reshape_union_of_typed {union : Shape} {fields : Keyed Node}
    (stands : union.alternativesIn? set = some alternatives) (member : .ref name ∈ alternatives)
    (known : set.recordType? name = some type) (typed : Node.discriminator? fields = some name)
    (path : Path) :
    reshape set union path (.record fields) = reshape set (.ref name) path (.record fields) := by
  cases union with
  | oneOf others =>
    cases stands
    -- An inline union is reshaped as the alternative that the discriminator names.
    have named : Shape.named? alternatives (.record fields) = some (.ref name) :=
      Validation.named?_eq_some_iff.mpr ⟨name, typed, member, rfl⟩
    conv_lhs => rw [reshape]
    split
    next unnamed =>
      rw [named] at unnamed
      cases unnamed
    next alternative chosen =>
      rw [named] at chosen
      cases chosen
      rfl
  | ref other => simp only [reshape, recordTarget?_of_typed typed known]
  | _ => cases stands

/-- Neither the place nor the union types entered matter where a record type is expected. -/
theorem coerce_recordType (known : set.recordType? name = some type) (fuel : Nat)
    (place other : Place) (path : Path) (hops fewer : Nat) (node : Node) (memory : UnionMemory) :
    coerce set fuel place (.ref name) path hops node memory =
      coerce set fuel other (.ref name) path fewer node memory := by
  obtain ⟨found, properties, required, aliases, body⟩ := SchemaSet.recordType?_eq_some_iff.mp known
  cases fuel with
  | zero => rfl
  | succ fuel => simp only [coerce, found, body]

/-! ### The outcome in a union -/

/-- A record that names an alternative is settled by that, or it fits it and stays. -/
theorem settle_of_typed {place : Place} {path : Path} {hops : Nat} {memory after : UnionMemory}
    {inside : Coerced} (typed : node.typeName? = some name) (member : .ref name ∈ alternatives)
    (known : set.recordType? name = some type)
    (ran : Eventually Eq inside after fun fuel =>
      coerce set fuel place (.ref name) path hops node memory)
    (prefers : ∀ alternative ∈ alternatives, Fits set 0 alternative node →
      Fits set 0 (.ref name) node) (union : Place) (entered : Nat) :
    ∃ outcome last, (outcome = inside ∨ outcome = unchanged node ∧ Fits set 0 (.ref name) node) ∧
      Eventually Eq outcome last fun fuel =>
        settle set (coerce set fuel) union alternatives path entered node memory := by
  have within (position : Nat) : Eventually Eq inside after fun fuel =>
      coerce set fuel (union.alternative position) (.ref name) path entered node memory :=
    ran.map fun fuel last returned => (coerce_recordType known _ _ _ _ _ _ _ _).trans returned
  -- The discriminator decides only where nothing matches yet.
  cases matched : matching set alternatives node with
  | nil =>
    obtain ⟨position, named⟩ := namedWithPosition?_of_typed typed member
    exact ⟨inside, after, .inl rfl, (within position).map fun fuel last returned =>
      settle_iff.mpr (.named matched named returned)⟩
  | cons first rest =>
    obtain ⟨alternative, place⟩ := first
    have listed : (alternative, place) ∈ matching set alternatives node := by simp [matched]
    obtain ⟨present, fitting⟩ := mem_of_mem_matching listed
    have fits := prefers alternative present fitting
    cases rest with
    | nil =>
      -- The only match is the named alternative, since that matches whenever another one does.
      obtain ⟨position, also⟩ := exists_mem_matching member fits
      rw [matched] at also
      cases List.mem_singleton.mp also
      exact ⟨inside, after, .inl rfl, (within place).map fun fuel last returned =>
        settle_iff.mpr (.only matched returned)⟩
    | cons second others =>
      exact ⟨unchanged node, memory, .inr ⟨rfl, fits⟩, .now rfl fun fuel =>
        settle_several (by simp [matched])⟩

/-- With nothing remembered a value is coerced in a union by settling it. -/
theorem coerce_union_of_settled {union : Shape}
    (stands : union.alternativesIn? set = some alternatives)
    (room : ∀ other, union = .ref other → 0 < set.limit) :
    ∃ place entered, ∀ fuel path node outcome last,
      settle set (coerce set fuel) place alternatives path entered node .empty =
        some (outcome, last) →
      ∃ after, coerce set (fuel + 1) .given union path 0 node .empty = some (outcome, after) := by
  have settled (step : Step) (place : Place) (path : Path) (entered : Nat) (node : Node)
      (outcome : Coerced) (last : UnionMemory)
      (ran : settle set step place alternatives path entered node .empty = some (outcome, last)) :
      coerceUnion set step place alternatives path entered node .empty = some (outcome,
        last.remember (unionKey place alternatives path entered) node outcome) :=
    coerceUnion_iff.mpr (.inr ⟨UnionMemory.known?_empty _ node, last, ran, rfl⟩)
  cases union with
  | oneOf others =>
    cases stands
    exact ⟨.given, 0, fun fuel path node outcome last ran => ⟨_, settled _ _ _ _ _ _ _ ran⟩⟩
  | ref other =>
    simp only [Shape.alternativesIn?, Option.bind_eq_some_iff] at stands
    obtain ⟨type, found, listed⟩ := stands
    cases body : type.schema.body with
    | record properties required aliases => simp [TypeSchema.alternatives?, body] at listed
    | union others =>
      simp only [TypeSchema.alternatives?, body, Option.some.injEq] at listed
      subst listed
      exact ⟨.union other, 1, fun fuel path node outcome last ran => ⟨_, coerce_succ_iff.mpr
        (.union found body (room other rfl) (settled _ _ _ _ _ _ _ ran))⟩⟩
  | _ => cases stands

/-- A record is coerced to what matches the union if it is coerced to what matches the alternative
that its discriminator names, it keeps the discriminator on the way, and it does not match another
alternative without this one once it is reshaped. -/
theorem coerceTree_union_of_typed {union : Shape} {fields : Keyed Node} {path : Path} {fuel : Nat}
    {coerced : Coerced} (stands : union.alternativesIn? set = some alternatives)
    (room : ∀ other, union = .ref other → 0 < set.limit) (member : .ref name ∈ alternatives)
    (known : set.recordType? name = some type) (typed : Node.discriminator? fields = some name)
    (ran : coerceTree set fuel (.record fields) (.ref name) path = some coerced)
    (valid : Validation.validateShape set coerced.node (.ref name) path = [])
    (keeps : (reshape set (.ref name) path (.record fields)).value.typeName? = some name ∧
      coerced.node.typeName? = some name)
    (prefers : ∀ alternative ∈ alternatives,
      Validation.validateShape set (reshape set (.ref name) path (.record fields)).value
        alternative path = [] →
      Validation.validateShape set (reshape set (.ref name) path (.record fields)).value
        (.ref name) path = []) :
    ∃ outcome enough,
      (∀ more, enough ≤ more → coerceTree set more (.record fields) union path = some outcome) ∧
      Validation.validateShape set outcome.node union path = [] := by
  simp only [coerceTree, coerceTreeWith, coerceReshaped, Option.map_eq_some_iff] at ran
  obtain ⟨outcome, ⟨⟨inside, after⟩, ran, rfl⟩, rfl⟩ := ran
  obtain ⟨place, entered, unfolds⟩ := coerce_union_of_settled stands room
  simp only [Validation.validateShape_eq_nil_iff] at valid prefers ⊢
  obtain ⟨outcome, last, made, _, _, enough, settled⟩ :=
    settle_of_typed keeps.1 member known (coerce_eventually ran) prefers place entered
  refine ⟨{ outcome with
      warnings := (reshape set (.ref name) path (.record fields)).warnings ++ outcome.warnings },
    enough + 1, fun more bound => ?_, ?_⟩
  · obtain ⟨fuel, rfl⟩ := Nat.exists_eq_add_of_le' (Nat.le_trans (Nat.le_add_left 1 enough) bound)
    obtain ⟨memory, returned⟩ := unfolds fuel path _ _ _ (settled fuel (by omega))
    simp only [coerceTree, coerceTreeWith, coerceReshaped, returned, Option.map_some,
      reshape_union_of_typed stands member known typed]
  · rcases made with rfl | ⟨rfl, fits⟩
    · exact fits_union_of_typed stands room member known keeps.2 valid
    · exact fits_union_of_typed stands room member known keeps.1 fits

/-! ### A book that is written loosely -/

/-- A book with its title. -/
def titled (title : Node) : Node := .record [("type", .string "Book"), ("title", title)]

theorem coerceTree_union_titled :
    coerceTree .library 2 (titled (.integer 5)) (.ref "Book") [] =
        some ⟨titled (.string "5"), [], []⟩ ∧
      ∃ outcome enough,
        (∀ more, enough ≤ more →
          coerceTree .library more (titled (.integer 5)) (.ref "Entry") [] = some outcome) ∧
        Validation.validateShape .library outcome.node (.ref "Entry") [] = [] := by
  have ran : coerceTree .library 2 (titled (.integer 5)) (.ref "Book") [] =
      some ⟨titled (.string "5"), [], []⟩ := by cbv
  have reshaped : (reshape .library (.ref "Book") [] (titled (.integer 5))).value =
      titled (.integer 5) := by cbv
  have stands : (Shape.ref "Entry").alternativesIn? .library =
      some [.ref "Book", .scalar .string] := rfl
  refine ⟨ran, coerceTree_union_of_typed stands ?_ List.mem_cons_self rfl rfl ran ?_ ⟨?_, rfl⟩ ?_⟩
  · intro _ _
    decide
  · cbv
  · rw [← titled, reshaped]
    rfl
  · rw [← titled, reshaped]
    intro alternative member fits
    simp only [List.mem_cons, List.not_mem_nil, or_false] at member
    rcases member with rfl | rfl
    · exact fits
    · have noText : (Validation.validateShape .library (titled (.integer 5)) (.scalar .string)
          []).isEmpty = false := by cbv
      rw [fits] at noText
      cases noText

/-- A title that is a number becomes a text in a book, but the union with any record, which the
book matches as it is, leaves it, and is then not matched. -/
theorem object_or_book_not_matched :
    coerceTree .library 2 (titled (.integer 5)) (.ref "Book") [] =
        some ⟨titled (.string "5"), [], []⟩ ∧
      Validation.validateShape .library (titled (.string "5")) (.ref "Book") [] = [] ∧
      ∀ fuel outcome,
        coerceTree .library fuel (titled (.integer 5)) (.oneOf [.object, .ref "Book"]) [] =
          some outcome →
        Validation.validateShape .library outcome.node (.oneOf [.object, .ref "Book"]) [] ≠ [] := by
  refine ⟨by cbv, by cbv, fun fuel outcome ran valid => ?_⟩
  have left : coerceTree .library 2 (titled (.integer 5)) (.oneOf [.object, .ref "Book"]) [] =
      some ⟨titled (.integer 5), [], []⟩ := by cbv
  have unmatched : (Validation.validateShape .library (titled (.integer 5))
      (.oneOf [.object, .ref "Book"]) []).isEmpty = false := by cbv
  rw [coerceTree_unique ran left] at valid
  rw [valid] at unmatched
  cases unmatched

/-- A book whose discriminator comes second to another spelling of the key. -/
def displaced : Node :=
  .record [("Type", .array [.array [.string "Book"]]), ("type", .string "Book"),
    ("title", .string "Emma")]

/-- As a book it is coerced to a valid one. Reshaping keeps the first of the two, which is no text,
so no alternative of a union is named any more; and every trial ends in a book, which both
alternatives match, so that the value is left as it is. -/
theorem displaced_not_matched :
    coerceTree .library 3 displaced (.ref "Book") [] =
        some ⟨titled (.string "Emma"), [.duplicateProperty "type" "type" []], []⟩ ∧
      Validation.validateShape .library (titled (.string "Emma")) (.ref "Book") [] = [] ∧
      (reshape .library (.ref "Book") [] displaced).value.typeName? = none ∧
      ∀ fuel outcome,
        coerceTree .library fuel displaced (.oneOf [.ref "Book", .ref "Entry"]) [] = some outcome →
        Validation.validateShape .library outcome.node (.oneOf [.ref "Book", .ref "Entry"]) [] ≠
          [] := by
  refine ⟨by cbv, by cbv, by cbv, fun fuel outcome ran valid => ?_⟩
  have left : coerceTree .library 6 displaced (.oneOf [.ref "Book", .ref "Entry"]) [] =
      some ⟨.record [("type", .array [.string "Book"]), ("title", .string "Emma")],
        [.duplicateProperty "type" "type" []], []⟩ := by cbv
  have unmatched : (Validation.validateShape .library
      (.record [("type", .array [.string "Book"]), ("title", .string "Emma")])
      (.oneOf [.ref "Book", .ref "Entry"]) []).isEmpty = false := by cbv
  rw [coerceTree_unique ran left] at valid
  rw [valid] at unmatched
  cases unmatched

end DocSchema.Coercion
