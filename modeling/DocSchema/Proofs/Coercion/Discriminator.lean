import DocSchema.Proofs.Coercion.Fates
import DocSchema.Proofs.Coercion.Filling
import DocSchema.Proofs.Schema.Declared
import Mathlib

/-!
# The discriminator that is filled in

A record that is given no discriminator gets one in first place. Its shape admits nothing but the
name of the type, but a default that the chain declares for it is what is filled in, whatever it
is. Main statements: `reshapeRecord_typed` and `misnamed_draft`.
-/

namespace DocSchema.Coercion

open TypeSchema (discriminatorDefault? flatten)

/-- Of distinct names the discriminator is one. -/
theorem filter_typeKey {names : List String} (nodup : names.Nodup)
    (listed : Node.typeKey ∈ names) : names.filter (· = Node.typeKey) = [Node.typeKey] := by
  rw [List.filter_eq, List.count_eq_one_of_mem nodup listed, List.replicate_one]

section Typed

variable {set : SchemaSet} {name : String} {chain : List TypeDefinition} {type : CompiledType}
  {path : Path} {fields : List (String × Node)}

/-- A property that no key stands for is not among what is made of a record's entries. -/
theorem not_mem_keys_reshapeFields {property : String}
    (unnamed : ∀ entry ∈ fields, type.names.resolve? entry.1 ≠ some property) :
    property ∉ Keyed.keys (reshapeFields set type.schema path
      (canonicalize type.names path [] fields).value).value := by
  intro member
  obtain ⟨order, -⟩ := reshapeFields_related (fun _ _ _ => True)
    fun key value shape fixed _ _ => trivial
  obtain ⟨⟨same, value⟩, listed, rfl⟩ := List.mem_map.mp (order.subset member)
  rw [canonicalize_eq_fates (tracks_nil type.names)] at listed
  obtain ⟨key, inside, stands⟩ := resolved_of_mem_keptOf listed
  exact unnamed _ inside stands

/-- What is filled in for the discriminator of a type. -/
theorem filledEntry_typeKey (built : flatten name chain = .ok type.schema)
    (record : type.schema.isUnion = false) (filling : List String) :
    filledEntry set filling type.schema Node.typeKey =
      (Node.typeKey, (discriminatorDefault? chain).getD (.string name)) := by
  obtain ⟨property, declares, shape, default⟩ := TypeSchema.discriminator_of_flatten built record
  simp [filledEntry, shapeOf, declares, shape, default, TypeSchema.discriminatorShape, emptyValue]

/-- A record none of whose keys stands for the discriminator gets it in first place: with the
default declared for it, else with the name of the type. -/
theorem reshapeRecord_typed (built : flatten name chain = .ok type.schema)
    (record : type.schema.isUnion = false)
    (untyped : ∀ entry ∈ fields, type.names.resolve? entry.1 ≠ some Node.typeKey)
    (set : SchemaSet) (path : Path) :
    ∃ rest, (reshapeRecord set type path fields).value =
        (Node.typeKey, (discriminatorDefault? chain).getD (.string name)) :: rest ∧
      Node.typeKey ∉ Keyed.keys rest := by
  have formed := TypeSchema.flatten_wellFormed built
  have named := TypeSchema.flatten_wellNamed built
  rw [reshapeRecord]
  dsimp only
  rw [fillRequired_eq named.required formed.declared]
  have absent : Node.typeKey ∉ Keyed.keys (reshapeFields set type.schema path
      (canonicalize type.names path [] fields).value).value := not_mem_keys_reshapeFields untyped
  generalize (reshapeFields set type.schema path _).value = shaped at absent ⊢
  -- The discriminator is required and absent, so it is filled in, and in first place.
  have lacking : Node.typeKey ∈ missing type.schema.required shaped := by
    refine List.mem_filter.mpr ⟨formed.required record, ?_⟩
    simpa [← Keyed.contains_iff] using absent
  have first : (missing type.schema.required shaped).filter (· = Node.typeKey) = [Node.typeKey] :=
    filter_typeKey (named.required.filter _) lacking
  refine ⟨shaped ++ ((missing type.schema.required shaped).filter (· ≠ Node.typeKey)).map
    (filledEntry set [] type.schema), ?_, ?_⟩
  · rw [withFilled, first, List.map_singleton, filledEntry_typeKey built record,
      List.singleton_append, List.cons_append]
  · simp only [Keyed.keys, List.map_append, List.mem_append, not_or]
    refine ⟨absent, ?_⟩
    rintro filled
    obtain ⟨entry, member, same⟩ := List.mem_map.mp filled
    obtain ⟨other, listed, rfl⟩ := List.mem_map.mp member
    have differs := (List.mem_filter.mp listed).2
    exact absurd same (by simpa [filledEntry] using differs)

end Typed

/-- A draft declares that its discriminator is filled in with another name. -/
def draftDefinition : TypeDefinition where
  title := "Draft"
  properties := [("type", { default := some (.string "Note") })]

def draft : TypeSchema where
  name := "Draft"
  description := none
  body := .record [("type", ⟨.enum [.string "Draft"], some (.string "Note"), [], none⟩)] ["type"] []

theorem flatten_draft :
    flatten "Draft" [draftDefinition] = .ok (CompiledType.ofSchema draft).schema := rfl

/-- An empty record becomes a book as a book, and is typed as a note as a draft. -/
theorem typed_book_and_draft :
    (∃ rest, (reshapeRecord .library (.ofSchema SchemaSet.book) [] []).value =
        (Node.typeKey, .string "Book") :: rest ∧ Node.typeKey ∉ Keyed.keys rest) ∧
      ∃ rest, (reshapeRecord .library (.ofSchema draft) [] []).value =
        (Node.typeKey, .string "Note") :: rest ∧ Node.typeKey ∉ Keyed.keys rest := by
  have untyped (type : CompiledType) : ∀ entry ∈ ([] : List (String × Node)),
      type.names.resolve? entry.1 ≠ some Node.typeKey := by simp
  have flattened : flatten "Book" [SchemaSet.bookDefinition] =
      .ok (CompiledType.ofSchema SchemaSet.book).schema := SchemaSet.flatten_book
  have book := reshapeRecord_typed flattened rfl (untyped _) .library []
  have draft := reshapeRecord_typed flatten_draft rfl (untyped _) .library []
  exact ⟨book, draft⟩

/-- So a discriminator that is filled in need not name the type that the record is shaped as. -/
theorem misnamed_draft :
    ¬∀ (name : String) (chain : List TypeDefinition) (type : CompiledType) (fields : Keyed Node),
      flatten name chain = .ok type.schema → type.schema.isUnion = false →
      (∀ entry ∈ fields, type.names.resolve? entry.1 ≠ some Node.typeKey) →
      (reshapeRecord .library type [] fields).value.head? = some (Node.typeKey, .string name) := by
  intro named
  have filled := named "Draft" [draftDefinition] (.ofSchema draft) [] flatten_draft rfl (by simp)
  have shaped : (reshapeRecord .library (.ofSchema draft) [] []).value =
      [(Node.typeKey, .string "Note")] := by cbv
  rw [shaped] at filled
  exact absurd filled (by decide)

end DocSchema.Coercion
