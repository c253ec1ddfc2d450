import DocSchema.Coercion.Reshape
import DocSchema.Proofs.Validation.Course

/-!
# How many values fit

The cardinality of a shape agrees with the validator, whatever the hops that either of them has
counted: what fits a shape of many values is an array, or a text that is still to be decoded, and
what fits a shape of one value is no array. Only literal arrays are an exception, since all literal
values count as one. So the repair of cardinality leaves what fits. Main statement:
`cardinality_sound`.
-/

namespace DocSchema

/-! ### Literal arrays -/

/-- The lists of literal values that a value may have to be one of where a shape is expected, by
references to union types, alternatives and decode directives alone. -/
inductive SchemaSet.Enumerates (set : SchemaSet) : Shape → List Node → Prop where
  | enum (values : List Node) : Enumerates set (.enum values) values
  | union {name : String} {type : CompiledType} {alternatives : List Shape} {alternative : Shape}
      {values : List Node} (known : set.find? name = some type)
      (body : type.schema.body = .union alternatives) (member : alternative ∈ alternatives)
      (further : Enumerates set alternative values) : Enumerates set (.ref name) values
  | oneOf {alternatives : List Shape} {alternative : Shape} {values : List Node}
      (member : alternative ∈ alternatives) (further : Enumerates set alternative values) :
      Enumerates set (.oneOf alternatives) values
  | decode {format : String} {inner : Shape} {values : List Node}
      (further : Enumerates set inner values) : Enumerates set (.decode format inner) values

/-- Whether no literal value where a shape is expected is an array. Items and properties may be
literal arrays: they are other values. -/
def SchemaSet.ListsNoArray (set : SchemaSet) (shape : Shape) : Prop :=
  ∀ values, set.Enumerates shape values → ∀ items, .array items ∉ values

namespace SchemaSet.ListsNoArray

variable {set : SchemaSet}

theorem union {name : String} {type : CompiledType} {alternatives : List Shape}
    (unlisted : set.ListsNoArray (.ref name)) (known : set.find? name = some type)
    (body : type.schema.body = .union alternatives) {alternative : Shape}
    (member : alternative ∈ alternatives) : set.ListsNoArray alternative :=
  fun values further => unlisted values (.union known body member further)

theorem alternative {alternatives : List Shape} (unlisted : set.ListsNoArray (.oneOf alternatives))
    {alternative : Shape} (member : alternative ∈ alternatives) : set.ListsNoArray alternative :=
  fun values further => unlisted values (.oneOf member further)

theorem inner {format : String} {inner : Shape}
    (unlisted : set.ListsNoArray (.decode format inner)) : set.ListsNoArray inner :=
  fun values further => unlisted values (.decode further)

end SchemaSet.ListsNoArray

/-! ### What alternatives have in common -/

namespace Cardinality

variable {set : SchemaSet} {count : Nat} {alternatives : List Shape}

theorem allHave_iff {cardinality : Cardinality} :
    allHave set count cardinality alternatives = true ↔
      ∀ alternative ∈ alternatives, ofShape set count alternative = cardinality := by
  induction alternatives with
  | nil => simp [allHave]
  | cons first rest ih => simp [allHave, ih]

/-- Alternatives that do not agree could be any number of values. -/
theorem ofAlternatives_cases (set : SchemaSet) (count : Nat) (alternatives : List Shape) :
    ofAlternatives set count alternatives = either ∨
      ∀ alternative ∈ alternatives,
        ofShape set count alternative = ofAlternatives set count alternatives := by
  cases alternatives with
  | nil =>
    left
    rw [ofAlternatives]
  | cons first rest =>
    rw [ofAlternatives]
    by_cases agree : allHave set count (ofShape set count first) rest = true
    · right
      simpa [agree] using allHave_iff.mp agree
    · left
      simp [agree]

end Cardinality

namespace Coercion

open Validation

variable {set : SchemaSet}

/-! ### Values and their number -/

/-- Whether a value is several ones. -/
def IsArray (node : Node) : Prop := ∃ items, node = .array items

/-- Whether a value is a text that validation leaves as it is, since it comes to a decode directive
with it. -/
def Undecoded (set : SchemaSet) (place : Comparison) : Prop :=
  (∃ text, place.node = .string text) ∧
    ∃ format inner hops, place.ComesTo set ⟨.decode format inner, place.node, hops⟩

/-- What a cardinality says of a value that fits. -/
def Describes (set : SchemaSet) (place : Comparison) : Cardinality → Prop
  | .one => ¬IsArray place.node
  | .many => IsArray place.node ∨ Undecoded set place
  | .either => True

theorem Undecoded.head {place later : Comparison} (leads : place.Leads set later)
    (same : later.node = place.node) (undecoded : Undecoded set later) :
    Undecoded set place := by
  obtain ⟨text, format, inner, hops, comes⟩ := undecoded
  rw [same] at text comes
  exact ⟨text, format, inner, hops, comes.head leads⟩

/-- What is said of a value at a later comparison is said of it where that is led to. -/
theorem Describes.head {place later : Comparison} {cardinality : Cardinality}
    (leads : place.Leads set later) (same : later.node = place.node)
    (describes : Describes set later cardinality) : Describes set place cardinality := by
  cases cardinality with
  | one => rwa [Describes, same] at describes
  | many =>
    rw [Describes, same] at describes
    exact describes.imp_right (Undecoded.head leads same)
  | either => trivial

/-- A union says of a value no more than the alternative that the value fits. -/
theorem Describes.union {place : Comparison} {alternatives : List Shape} {alternative : Shape}
    {hops count : Nat} (offers : place.Offers set alternatives hops)
    (considered : Considered alternatives place.node alternative)
    (describes : Describes set ⟨alternative, place.node, hops⟩
      (Cardinality.ofShape set count alternative)) :
    Describes set place (Cardinality.ofAlternatives set count alternatives) := by
  rcases Cardinality.ofAlternatives_cases set count alternatives with unsure | agree
  · rw [unsure]
    trivial
  · rw [agree alternative considered.mem] at describes
    exact describes.head (.alternative offers considered) rfl

/-- A text under a decode directive is one value, and may stand for many. -/
theorem describes_text (format : String) (inner : Shape) (text : String) (hops : Nat)
    (cardinality : Cardinality) :
    Describes set ⟨.decode format inner, .string text, hops⟩ cardinality := by
  cases cardinality with
  | one => simp [Describes, IsArray]
  | many => exact .inr ⟨⟨text, rfl⟩, format, inner, hops, .refl⟩
  | either => trivial

/-! ### Cardinality and validation -/

/-- The cardinality of a shape is right for every value that fits it. The hops that the cardinality
is counted with need not be those of validation. -/
theorem describes_of_fits {shape : Shape} {node : Node} {hops : Nat}
    (unlisted : set.ListsNoArray shape) (fits : Fits set hops shape node) (count : Nat) :
    Describes set ⟨shape, node, hops⟩ (Cardinality.ofShape set count shape) := by
  induction shape, node, hops using validation_induction set generalizing count with
  | any => simp [Cardinality.ofShape, Describes]
  | scalar kind node hops =>
    rw [fits_scalar] at fits
    cases kind with
    | null => simp [Cardinality.ofShape, Describes]
    | _ => cases node <;> simp [scalarMatches, Cardinality.ofShape, Describes, IsArray] at fits ⊢
  | object node hops =>
    obtain ⟨fields, rfl⟩ := fits_object.mp fits
    simp [Cardinality.ofShape, Describes, IsArray]
  | enum values node hops =>
    rw [Cardinality.ofShape]
    rintro ⟨items, rfl⟩
    obtain ⟨others, member⟩ := array_mem_of_isMember (fits_enum.mp fits)
    exact unlisted values (.enum values) others member
  | array items node hops =>
    obtain ⟨values, rfl, _⟩ := fits_array.mp fits
    simp [Cardinality.ofShape, Describes, IsArray]
  | missing name node hops missing => exact absurd fits (not_fits_missing missing)
  | record name type properties required aliases node hops known body =>
    obtain ⟨fields, rfl, _⟩ := (errorsOf_record_eq_nil_iff known body node [] hops).mp fits
    simp [Cardinality.ofShape, known, body, Describes, IsArray]
  | union name type alternatives node hops known body ih =>
    obtain ⟨within, matched⟩ := (fits_union known body).mp fits
    obtain ⟨alternative, considered, fitting⟩ := matched.exists_considered
    simp only [Cardinality.ofShape, known, body]
    split
    next =>
      have inside := ih within alternative considered.mem
        (unlisted.union known body considered.mem) fitting (count + 1)
      exact inside.union (.union known body within node) considered
    -- Beyond the limit nothing is said, though validation may have counted fewer hops.
    next => trivial
  | oneOf alternatives node hops ih =>
    obtain ⟨alternative, considered, fitting⟩ := (fits_oneOf.mp fits).exists_considered
    rw [Cardinality.ofShape]
    have inside := ih alternative considered.mem (unlisted.alternative considered.mem) fitting count
    exact inside.union (.oneOf alternatives node hops) considered
  | decode format inner node hops ih =>
    rw [Cardinality.ofShape]
    by_cases coded : node.isString = true
    · obtain ⟨text, rfl⟩ := isString_iff.mp coded
      exact describes_text format inner text hops _
    · have fitting := (fits_decode.mp fits).resolve_left coded
      have step : Comparison.Leads set ⟨.decode format inner, node, hops⟩ ⟨inner, node, hops⟩ :=
        .inner format inner hops (by simpa using coded)
      exact (ih unlisted.inner fitting count).head step rfl

/-- The repair of cardinality leaves what fits. -/
theorem fixCardinality_of_fits {shape : Shape} {value : Node} {hops : Nat}
    (unlisted : set.ListsNoArray shape) (fits : Fits set hops shape value) (name : String)
    (path : Path) : fixCardinality set name value shape path = ⟨some value, []⟩ := by
  have described := describes_of_fits unlisted fits 0
  have noRecord (many : Cardinality.ofShape set 0 shape = .many) (fields : Keyed Node) :
      value ≠ .record fields := by
    rintro rfl
    rw [many] at described
    simp [Describes, IsArray, Undecoded] at described
  have noArray (one : Cardinality.ofShape set 0 shape = .one) (items : List Node) :
      value ≠ .array items := by
    rintro rfl
    rw [one] at described
    exact described ⟨items, rfl⟩
  unfold fixCardinality
  split
  next => rfl
  next =>
    split
    next many _ => exact absurd rfl (noRecord many _)
    next one _ => exact absurd rfl (noArray one _)
    next one _ => exact absurd rfl (noArray one _)
    next one _ => exact absurd rfl (noArray one _)
    next => rfl

/-- A run that records nothing has found that the value fits. -/
theorem fits_of_check {shape : Shape} {node : Node} {context : Context}
    (faithful : Faithful set (valueAt context.path node) context.trials)
    (valid : (check set shape node context).errors = context.errors) :
    Fits set context.hops shape node := by
  rw [errors_check shape node context faithful] at valid
  exact errorsOf_eq_nil_iff.mp (List.append_right_eq_self.mp valid)

/-- Where no literal array is listed, a value that validation has nothing to say against, whatever
it stands at and has recorded before, is an array or undecoded text if its shape holds many values,
is no array if its shape holds one, and is left by the repair of cardinality. -/
theorem cardinality_sound {shape : Shape} (unlisted : set.ListsNoArray shape) (count : Nat)
    {node : Node} {context : Context}
    (faithful : Faithful set (valueAt context.path node) context.trials)
    (valid : (check set shape node context).errors = context.errors) :
    (Cardinality.ofShape set count shape = .many →
      IsArray node ∨ Undecoded set ⟨shape, node, context.hops⟩) ∧
    (Cardinality.ofShape set count shape = .one → ¬IsArray node) ∧
    ∀ name path, fixCardinality set name node shape path = ⟨some node, []⟩ := by
  have fits := fits_of_check faithful valid
  have described := describes_of_fits unlisted fits count
  refine ⟨fun many => ?_, fun one => ?_, fixCardinality_of_fits unlisted fits⟩
  · rwa [many] at described
  · rwa [one] at described

end Coercion

/-! ### A set for examples -/

namespace SchemaSet

/-- A body is given by its lines, or by the numbers that a text in Markdown stands for. -/
def body : TypeSchema where
  name := "Body"
  description := none
  body := .union [.array (.scalar .string), .decode "md" (.array (.scalar .integer))]

def bodies : SchemaSet where
  root := "Body"
  types := [("Body", .ofSchema body)]
  limit := defaultLimit

theorem find?_bodies {name : String} {type : CompiledType}
    (known : bodies.find? name = some type) : name = "Body" ∧ type = .ofSchema body := by
  have member := Keyed.mem_of_get? known
  simpa [bodies] using member

theorem bodies_listsNoArray : bodies.ListsNoArray (.ref "Body") := by
  intro values enumerates
  cases enumerates with
  | union known union member further =>
    obtain ⟨-, rfl⟩ := find?_bodies known
    cases union
    rcases List.mem_cons.mp member with rfl | member
    · cases further
    · cases List.mem_singleton.mp member
      cases further with
      | decode inner => cases inner

end SchemaSet

/-- A text is a body, though bodies are many values. -/
theorem Coercion.cardinality_sound_body :
    SchemaSet.bodies.ListsNoArray (.ref "Body") ∧
      (Validation.check SchemaSet.bodies (.ref "Body") (.string "# One")
        ⟨[.property "body"], 1, [.unknownProperty "note" []], .empty⟩).errors =
        [.unknownProperty "note" []] ∧
      Cardinality.ofShape SchemaSet.bodies 7 (.ref "Body") = .many ∧
      Undecoded SchemaSet.bodies ⟨.ref "Body", .string "# One", 1⟩ ∧
      fixCardinality SchemaSet.bodies "body" (.string "# One") (.ref "Body") [] =
        ⟨some (.string "# One"), []⟩ := by
  let context : Validation.Context :=
    ⟨[.property "body"], 1, [.unknownProperty "note" []], .empty⟩
  have faithful : Validation.Faithful SchemaSet.bodies
      (Validation.valueAt context.path (.string "# One")) context.trials := .empty _ _
  have fits : Validation.Fits SchemaSet.bodies 1 (.ref "Body") (.string "# One") := by
    -- The text is no array of lines, and so fits the second alternative alone.
    refine (Validation.fits_union rfl rfl).mpr ⟨by decide, by simp [Node.typeName?], fun _ => ?_⟩
    simp [Validation.exactlyOne_cons, Validation.not_exactlyOne_nil, Validation.fits_array,
      Validation.fits_decode, Node.isString]
  have valid : (Validation.check SchemaSet.bodies (.ref "Body") (.string "# One") context).errors =
      context.errors := by
    rw [Validation.errors_check _ _ context faithful, Validation.errorsOf_eq_nil_iff.mpr fits,
      List.append_nil]
  have many : Cardinality.ofShape SchemaSet.bodies 7 (.ref "Body") = .many := by
    have known : SchemaSet.bodies.find? "Body" = some (.ofSchema SchemaSet.body) := rfl
    have below : 7 < SchemaSet.bodies.limit := by decide
    simp [Cardinality.ofShape, Cardinality.ofAlternatives, Cardinality.allHave, known, below,
      SchemaSet.body]
  obtain ⟨several, -, left⟩ := cardinality_sound SchemaSet.bodies_listsNoArray 7 faithful valid
  refine ⟨SchemaSet.bodies_listsNoArray, valid, many, ?_, left "body" []⟩
  rcases several many with ⟨items, same⟩ | undecoded
  · cases same
  · exact undecoded

end DocSchema
