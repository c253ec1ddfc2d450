import DocSchema.Proofs.Validation.Fitting
import Mathlib.Logic.Relation

/-!
# The course of validation

A comparison is a value with the shape expected of it and the number of union types entered at it.
Validation leads from one comparison to others: those of items and properties, and at the same
value those of the alternatives of a union. The errors of a value depend on a schema set only
through what is looked up in it at the comparisons that are come to. Main statement:
`errorsOf_congr`.
-/

namespace DocSchema.Validation

/-- A value to be compared with a shape after so many union types have been entered at it. -/
structure Comparison where
  shape : Shape
  node : Node
  hops : Nat

/-! ### Alternatives -/

/-- Whether a value is compared with an alternative: the one its discriminator names, or any if it
names none. -/
def Considered (alternatives : List Shape) (node : Node) (alternative : Shape) : Prop :=
  Shape.named? alternatives node = some alternative ∨
    Shape.named? alternatives node = none ∧ alternative ∈ alternatives

theorem Considered.mem {alternatives : List Shape} {node : Node} {alternative : Shape}
    (considered : Considered alternatives node alternative) : alternative ∈ alternatives :=
  considered.elim Shape.mem_of_named? And.right

/-- A value matches a union as it fits the alternatives that are considered. -/
theorem matchesUnion_iff_considered {fits : Shape → Prop} {alternatives : List Shape}
    {node : Node} :
    MatchesUnion fits alternatives node ↔
      (∀ alternative, Shape.named? alternatives node = some alternative → fits alternative) ∧
      (Shape.named? alternatives node = none → ExactlyOne fits alternatives) := by
  rw [MatchesUnion, named?_eq_none_iff]
  refine and_congr_left fun _ => ?_
  simp only [named?_eq_some_iff]
  constructor
  · rintro fine _ ⟨name, typed, member, rfl⟩
    exact fine name typed member
  · intro fine name typed member
    exact fine _ ⟨name, typed, member, rfl⟩

/-- What matches a union fits one of the alternatives that are considered. -/
theorem MatchesUnion.exists_considered {fits : Shape → Prop} {alternatives : List Shape}
    {node : Node} (matched : MatchesUnion fits alternatives node) :
    ∃ alternative, Considered alternatives node alternative ∧ fits alternative := by
  obtain ⟨fine, one⟩ := matchesUnion_iff_considered.mp matched
  cases named : Shape.named? alternatives node with
  | some alternative => exact ⟨alternative, .inl named, fine alternative named⟩
  | none =>
    obtain ⟨position, ⟨alternative, found, fits⟩, _⟩ := one named
    exact ⟨alternative, .inr ⟨named, List.mem_of_getElem? found⟩, fits⟩

namespace Comparison

/-- The alternatives a value is compared with where a union is expected, and the number of union
types entered by then. -/
inductive Offers (set : SchemaSet) : Comparison → List Shape → Nat → Prop where
  | oneOf (alternatives : List Shape) (node : Node) (hops : Nat) :
      Offers set ⟨.oneOf alternatives, node, hops⟩ alternatives hops
  | union {name : String} {type : CompiledType} {alternatives : List Shape} {hops : Nat}
      (known : set.find? name = some type) (body : type.schema.body = .union alternatives)
      (within : hops < set.limit) (node : Node) :
      Offers set ⟨.ref name, node, hops⟩ alternatives (hops + 1)

/-- One step of validation. -/
inductive Leads (set : SchemaSet) : Comparison → Comparison → Prop where
  | alternative {place : Comparison} {alternatives : List Shape} {hops : Nat} {alternative : Shape}
      (offers : place.Offers set alternatives hops)
      (considered : Considered alternatives place.node alternative) :
      Leads set place ⟨alternative, place.node, hops⟩
  | inner (format : String) (inner : Shape) {node : Node} (hops : Nat)
      (coded : node.isString = false) :
      Leads set ⟨.decode format inner, node, hops⟩ ⟨inner, node, hops⟩
  | item (items : Shape) {values : List Node} {value : Node} (hops : Nat)
      (member : value ∈ values) : Leads set ⟨.array items, .array values, hops⟩ ⟨items, value, 0⟩
  | property {name : String} {type : CompiledType} {properties : Keyed Property}
      {required : List String} {aliases : Keyed String} {key : String} {property : Property}
      {fields : Keyed Node} {value : Node} (hops : Nat) (known : set.find? name = some type)
      (body : type.schema.body = .record properties required aliases)
      (declared : (key, property) ∈ properties) (present : Keyed.get? fields key = some value) :
      Leads set ⟨.ref name, .record fields, hops⟩ ⟨property.shape, value, 0⟩

/-- Whether validation comes from one comparison to another. -/
def ComesTo (set : SchemaSet) : Comparison → Comparison → Prop :=
  Relation.ReflTransGen (Leads set)

/-- Whether two sets have the same type at a comparison, and both or neither enters it. -/
def Alike (set other : SchemaSet) (place : Comparison) : Prop :=
  ∀ name, place.shape = .ref name → set.find? name = other.find? name ∧
    ∀ type alternatives, set.find? name = some type → type.schema.body = .union alternatives →
      (place.hops < set.limit ↔ place.hops < other.limit)

end Comparison

open Comparison

/-! ### Errors over two sets -/

section Congruence

variable {set other : SchemaSet}

theorem errorsOfItems_congr {items : Shape} {values : List Node}
    (each : ∀ value ∈ values, ∀ path,
      errorsOf set items value path 0 = errorsOf other items value path 0)
    (position : Nat) (path : Path) :
    errorsOfItems set items position values path =
      errorsOfItems other items position values path := by
  induction values generalizing position with
  | nil => rw [errorsOfItems, errorsOfItems]
  | cons value rest ih =>
    rw [errorsOfItems, errorsOfItems, each value List.mem_cons_self,
      ih fun later member => each later (List.mem_cons_of_mem _ member)]

theorem errorsOfProperties_congr (type : TypeSchema) {fields : Keyed Node}
    {properties : Keyed Property}
    (each : ∀ key property value, (key, property) ∈ properties →
      Keyed.get? fields key = some value → ∀ path,
      errorsOf set property.shape value path 0 = errorsOf other property.shape value path 0)
    (path : Path) :
    errorsOfProperties set type fields properties path =
      errorsOfProperties other type fields properties path := by
  induction properties with
  | nil => rw [errorsOfProperties, errorsOfProperties]
  | cons entry rest ih =>
    obtain ⟨name, property⟩ := entry
    have later := ih fun key property value member =>
      each key property value (List.mem_cons_of_mem _ member)
    cases present : Keyed.get? fields name with
    | some value =>
      rw [errorsOfProperties_present present, errorsOfProperties_present present,
        each name property value List.mem_cons_self present, later]
    | none => rw [errorsOfProperties_absent present, errorsOfProperties_absent present, later]

theorem errorsOfUnion_congr {alternatives : List Shape} {node : Node} {path : Path} {hops : Nat}
    (each : ∀ alternative, Considered alternatives node alternative →
      errorsOf set alternative node path hops = errorsOf other alternative node path hops) :
    errorsOfUnion set alternatives node path hops =
      errorsOfUnion other alternatives node path hops := by
  cases named : Shape.named? alternatives node with
  | some alternative =>
    rw [errorsOfUnion_named named, errorsOfUnion_named named, each alternative (.inl named)]
  | none =>
    have outcomes : outcomesOf set alternatives node path hops =
        outcomesOf other alternatives node path hops := by
      rw [outcomesOf_eq_map, outcomesOf_eq_map]
      refine List.map_congr_left fun alternative member => ?_
      rw [each alternative (.inr ⟨named, member⟩)]
    rw [errorsOfUnion_unnamed named, errorsOfUnion_unnamed named, outcomes]

/-- Two sets that are alike wherever validation comes to find the same errors. -/
theorem errorsOf_congr {shape : Shape} {node : Node} {hops : Nat}
    (alike : ∀ later, ComesTo set ⟨shape, node, hops⟩ later → later.Alike set other)
    (path : Path) : errorsOf set shape node path hops = errorsOf other shape node path hops := by
  induction shape, node, hops using validation_induction set generalizing path with
  | any => rw [errorsOf, errorsOf]
  | scalar kind node hops => rw [errorsOf, errorsOf]
  | object node hops => rw [errorsOf.eq_def, errorsOf.eq_def]
  | enum values node hops => rw [errorsOf, errorsOf]
  | array items node hops ih =>
    rw [errorsOf.eq_def, errorsOf.eq_def]
    cases node with
    | array values =>
      exact errorsOfItems_congr (fun value member => ih values rfl value member
        fun later comes => alike later (comes.head (.item items hops member))) 0 path
    | _ => rfl
  | missing name node hops unknown =>
    have unknownToo := (alike _ .refl name rfl).1.symm.trans unknown
    rw [errorsOf_missing unknown, errorsOf_missing unknownToo]
  | record name type properties required aliases node hops known body ih =>
    have knownToo := (alike _ .refl name rfl).1.symm.trans known
    cases node with
    | record fields =>
      have inside := errorsOfProperties_congr type.schema
        (fun key property value declared present =>
          ih fields rfl key value (Keyed.mem_of_get? present) property.shape fun later comes =>
            alike later (comes.head (.property hops known body declared present))) path
      rw [errorsOf_record known body, errorsOf_record knownToo body, inside]
    | _ =>
      rw [errorsOf_unrecorded known body (by simp), errorsOf_unrecorded knownToo body (by simp)]
  | union name type alternatives node hops known body ih =>
    obtain ⟨same, limits⟩ := alike _ .refl name rfl
    have knownToo := same.symm.trans known
    -- Either both sets enter the union type or both report that it was entered too often.
    rw [errorsOf_union known body, errorsOf_union knownToo body]
    simp only [← limits type alternatives known body]
    split
    next within =>
      exact errorsOfUnion_congr fun alternative considered =>
        ih within alternative considered.mem
          (fun later comes => alike later
            (comes.head (.alternative (.union known body within node) considered))) path
    next => rfl
  | oneOf alternatives node hops ih =>
    rw [errorsOf, errorsOf]
    exact errorsOfUnion_congr fun alternative considered =>
      ih alternative considered.mem (fun later comes => alike later
        (comes.head (.alternative (.oneOf alternatives node hops) considered))) path
  | decode format inner node hops ih =>
    rw [errorsOf, errorsOf]
    cases coded : node.isString with
    | true => rfl
    | false =>
      simpa using ih (fun later comes => alike later (comes.head (.inner format inner hops coded)))
        path

end Congruence

end DocSchema.Validation
