import DocSchema.Proofs.Validation.Course
import Mathlib

/-!
# The limit on union types

A union type beyond the limit is not entered, so an alternative that needs it does not match. With a
higher limit it may match, next to the one that matched before, and then the value is rejected as
ambiguous. This is the only way in which a higher limit costs a value its validity, and where
nothing is cut off the limit is not seen at all. Main statements: `errorsOf_withLimit` and
`validateShape_withLimit`.
-/

namespace DocSchema.Validation

variable {set : SchemaSet} {lower higher : Nat}

/-! ### What the limit cuts off -/

/-- Whether a union type is expected that may not be entered any more. -/
def Comparison.Beyond (set : SchemaSet) (place : Comparison) : Prop :=
  ∃ name type alternatives, place.shape = .ref name ∧ set.find? name = some type ∧
    type.schema.body = .union alternatives ∧ set.limit ≤ place.hops

/-- Whether the limit keeps validation from a union type somewhere on its course. -/
def Comparison.CutOff (set : SchemaSet) (place : Comparison) : Prop :=
  ∃ later, place.ComesTo set later ∧ later.Beyond set

/-- Where nothing is cut off a higher limit makes no difference. -/
theorem errorsOf_withLimit (raised : lower ≤ higher) {shape : Shape} {node : Node} {hops : Nat}
    (uncut : ¬Comparison.CutOff (set.withLimit lower) ⟨shape, node, hops⟩) (path : Path) :
    errorsOf (set.withLimit lower) shape node path hops =
      errorsOf (set.withLimit higher) shape node path hops := by
  have alike (later : Comparison)
      (comes : Comparison.ComesTo (set.withLimit lower) ⟨shape, node, hops⟩ later) :
      later.Alike (set.withLimit lower) (set.withLimit higher) := by
    refine fun name expected => ⟨rfl, fun type alternatives known body => ?_⟩
    have within : later.hops < lower := by
      by_contra beyond
      exact uncut ⟨later, comes, name, type, alternatives, expected, known, body,
        Nat.le_of_not_lt beyond⟩
    exact iff_of_true within (Nat.lt_of_lt_of_le within raised)
  exact errorsOf_congr alike path

/-- What fits with the higher limit only was cut off by the lower one. -/
theorem cutOff_of_fits (raised : lower ≤ higher) {shape : Shape} {node : Node} {hops : Nat}
    (failed : ¬Fits (set.withLimit lower) hops shape node)
    (fits : Fits (set.withLimit higher) hops shape node) :
    Comparison.CutOff (set.withLimit lower) ⟨shape, node, hops⟩ := by
  by_contra uncut
  exact failed ((errorsOf_withLimit raised uncut []).trans fits)

/-! ### What a higher limit spoils -/

theorem exists_other_of_not_exactlyOne {α : Type} {holds : α → Prop} {items : List α}
    {position : Nat} {item : α} (found : items[position]? = some item) (held : holds item)
    (several : ¬ExactlyOne holds items) :
    ∃ second other, second ≠ position ∧ items[second]? = some other ∧ holds other := by
  by_contra alone
  refine several ⟨position, ⟨item, found, held⟩, fun second also => ?_⟩
  obtain ⟨other, there, too⟩ := also
  by_contra apart
  exact alone ⟨second, other, apart, there, too⟩

/-- Whether a value matches exactly one alternative of a union with the lower limit, but with the
higher one that and another alternative, which the lower limit cuts off. -/
inductive Comparison.Gains (set : SchemaSet) (lower higher : Nat) (place : Comparison) : Prop where
  | intro {alternatives : List Shape} {hops : Nat}
      (offers : place.Offers (set.withLimit lower) alternatives hops)
      (unnamed : Shape.named? alternatives place.node = none)
      (one : ExactlyOne (Fits (set.withLimit lower) hops · place.node) alternatives)
      {first second : Nat} (apart : second ≠ first) {matched late : Shape}
      (here : alternatives[first]? = some matched) (there : alternatives[second]? = some late)
      (before : Fits (set.withLimit lower) hops matched place.node)
      (still : Fits (set.withLimit higher) hops matched place.node)
      (cut : Comparison.CutOff (set.withLimit lower) ⟨late, place.node, hops⟩)
      (also : Fits (set.withLimit higher) hops late place.node)

/-- A match is kept with its alternative unless the union gains another match. -/
theorem matchesUnion_withLimit (raised : lower ≤ higher) {place : Comparison}
    {alternatives : List Shape} {hops : Nat}
    (offers : place.Offers (set.withLimit lower) alternatives hops)
    (steady : ¬place.Gains set lower higher)
    (each : ∀ alternative, Considered alternatives place.node alternative →
      Fits (set.withLimit lower) hops alternative place.node →
      Fits (set.withLimit higher) hops alternative place.node)
    (matched : MatchesUnion (Fits (set.withLimit lower) hops · place.node) alternatives
      place.node) :
    MatchesUnion (Fits (set.withLimit higher) hops · place.node) alternatives place.node := by
  rw [matchesUnion_iff_considered] at matched ⊢
  refine ⟨fun alternative named => each alternative (.inl named) (matched.1 alternative named),
    fun unnamed => ?_⟩
  have one := matched.2 unnamed
  obtain ⟨first, ⟨alternative, here, before⟩, only⟩ := one
  have still := each alternative (.inr ⟨unnamed, List.mem_of_getElem? here⟩) before
  by_contra several
  obtain ⟨second, late, apart, there, also⟩ := exists_other_of_not_exactlyOne here still several
  -- With the lower limit nothing but the first one matches, so the second one was cut off.
  have failed : ¬Fits (set.withLimit lower) hops late place.node :=
    fun fits => apart (only second ⟨late, there, fits⟩)
  exact steady (.intro offers unnamed (matched.2 unnamed) apart here there before still
    (cutOff_of_fits raised failed also) also)

/-- What fits goes on to fit with a higher limit if no union on the course of validation gains a
match. -/
theorem fits_withLimit (raised : lower ≤ higher) {shape : Shape} {node : Node} {hops : Nat}
    (steady : ∀ later, Comparison.ComesTo (set.withLimit lower) ⟨shape, node, hops⟩ later →
      ¬later.Gains set lower higher)
    (fits : Fits (set.withLimit lower) hops shape node) :
    Fits (set.withLimit higher) hops shape node := by
  induction shape, node, hops using validation_induction (set.withLimit lower) with
  | any => exact fits_any
  | scalar kind node hops => exact fits_scalar.mpr (fits_scalar.mp fits)
  | object node hops => exact fits_object.mpr (fits_object.mp fits)
  | enum values node hops => exact fits_enum.mpr (fits_enum.mp fits)
  | array items node hops ih =>
    obtain ⟨values, rfl, each⟩ := fits_array.mp fits
    refine fits_array.mpr ⟨values, rfl, fun value member => ?_⟩
    exact ih values rfl value member
      (fun later comes => steady later (comes.head (.item items hops member))) (each value member)
  | missing name node hops unknown => exact absurd fits (not_fits_missing unknown)
  | record name type properties required aliases node hops known body ih =>
    have still : (set.withLimit higher).find? name = some type := known
    obtain ⟨fields, rfl, declared, each⟩ :=
      (errorsOf_record_eq_nil_iff known body node [] hops).mp fits
    refine (errorsOf_record_eq_nil_iff still body _ [] hops).mpr
      ⟨fields, rfl, declared, fun key property member => ⟨fun value present => ?_,
        (each key property member).2⟩⟩
    have inside := errorsOf_eq_nil_iff.mp ((each key property member).1 value present)
    exact errorsOf_eq_nil_iff.mpr (ih fields rfl key value (Keyed.mem_of_get? present)
      property.shape
      (fun later comes => steady later (comes.head (.property hops known body member present)))
      inside)
  | union name type alternatives node hops known body ih =>
    -- The type was entered with the lower limit already, so the higher one only matters inside.
    have still : (set.withLimit higher).find? name = some type := known
    obtain ⟨within, matched⟩ := (fits_union known body).mp fits
    have offers := Comparison.Offers.union known body within node
    refine (fits_union still body).mpr ⟨Nat.lt_of_lt_of_le within raised, ?_⟩
    exact matchesUnion_withLimit raised offers (steady _ .refl)
      (fun alternative considered => ih within alternative considered.mem fun later comes =>
        steady later (comes.head (.alternative offers considered))) matched
  | oneOf alternatives node hops ih =>
    have offers : Comparison.Offers (set.withLimit lower) ⟨.oneOf alternatives, node, hops⟩
        alternatives hops := .oneOf alternatives node hops
    refine fits_oneOf.mpr ?_
    exact matchesUnion_withLimit raised offers (steady _ .refl)
      (fun alternative considered => ih alternative considered.mem fun later comes =>
        steady later (comes.head (.alternative offers considered))) (fits_oneOf.mp fits)
  | decode format inner node hops ih =>
    cases coded : node.isString with
    | true => exact fits_decode.mpr (.inl coded)
    | false =>
      have inside := (fits_decode.mp fits).resolve_left (by simp [coded])
      exact fits_decode.mpr (.inr (ih
        (fun later comes => steady later (comes.head (.inner format inner hops coded))) inside))

/-- What is valid with a limit is valid with every higher one, unless validation comes to a value
that matched one alternative of a union and now matches another one too, which had been cut off. -/
theorem validateShape_withLimit (raised : lower ≤ higher) {node : Node} {shape : Shape}
    {path : Path} (valid : validateShape (set.withLimit lower) node shape path = []) :
    validateShape (set.withLimit higher) node shape path = [] ∨
      ∃ later, Comparison.ComesTo (set.withLimit lower) ⟨shape, node, 0⟩ later ∧
        later.Gains set lower higher := by
  -- If no union gains a match on the way, nothing that fits is lost.
  by_cases gained : ∃ later, Comparison.ComesTo (set.withLimit lower) ⟨shape, node, 0⟩ later ∧
      later.Gains set lower higher
  · exact .inr gained
  · left
    rw [validateShape_eq_nil_iff] at valid ⊢
    exact fits_withLimit raised (fun later comes gains => gained ⟨later, comes, gains⟩) valid

/-! ### A union type of itself -/

/-- A flag is a flag or a truth value. -/
def flagDefinition : TypeDefinition where
  title := "Flag"
  oneOf := some [{ reference := some "Flag" }, { kind := some "boolean" }]

def flag : TypeSchema where
  name := "Flag"
  description := none
  body := .union [.ref "Flag", .scalar .boolean]

def flags : SchemaSet where
  root := "Flag"
  types := [("Flag", .ofSchema flag)]
  limit := SchemaSet.defaultLimit

theorem flags_built : flags.Built := by
  intro name type known
  have member := Keyed.mem_of_get? known
  obtain ⟨rfl, rfl⟩ : name = "Flag" ∧ type = .ofSchema flag := by simpa [flags] using member
  exact ⟨[flagDefinition], rfl⟩

/-- The flag inside the flag is not entered. -/
theorem validateShape_flag_once :
    validateShape (flags.withLimit 1) (.boolean true) (.ref "Flag") [] = [] := by cbv

theorem validateShape_flag_twice :
    validateShape (flags.withLimit 2) (.boolean true) (.ref "Flag") [] =
      [.ambiguousUnion [] ["Flag", "boolean"]] := by cbv

theorem flag_gains :
    1 ≤ 2 ∧ validateShape (flags.withLimit 1) (.boolean true) (.ref "Flag") [] = [] ∧
      ∃ later, Comparison.ComesTo (flags.withLimit 1) ⟨.ref "Flag", .boolean true, 0⟩ later ∧
        later.Gains flags 1 2 := by
  refine ⟨by decide, validateShape_flag_once, ?_⟩
  exact (validateShape_withLimit (by decide) validateShape_flag_once).resolve_left
    (by simp [validateShape_flag_twice])

/-- So a higher limit may cost a value its validity. -/
theorem flag_ambiguous_beyond :
    ¬∀ (set : SchemaSet) (node : Node) (shape : Shape) (path : Path) (lower higher : Nat),
      set.Built → lower ≤ higher → validateShape (set.withLimit lower) node shape path = [] →
      validateShape (set.withLimit higher) node shape path = [] := by
  intro kept
  have valid := kept flags (.boolean true) (.ref "Flag") [] 1 2 flags_built (by decide)
    validateShape_flag_once
  rw [validateShape_flag_twice] at valid
  cases valid

end DocSchema.Validation
