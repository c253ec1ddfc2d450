import DocSchema.Schema.Definition
import DocSchema.Json.Reader
import DocSchema.FileTree

/-!
# Sources of definitions

A source gives the document stored under a type name. Documents are held in memory or
in the files of a directory, one for each type, or in any other store of finitely many.
What is needed of all of them is a `Store`.
-/

namespace DocSchema

/-- Why a source cannot answer. -/
inductive SourceError where
  | unreadable (name : String)
  | notJson (name : String)
  | missingTitle (position : Nat)
deriving DecidableEq, Repr

namespace SourceError

def message : SourceError → String
  | unreadable name => "failed to read schema '" ++ name ++ "'"
  | notJson name => "schema '" ++ name ++ "' is not valid JSON"
  | missingTitle position =>
    "schema definition #" ++ position.repr ++ " has no string title"

end SourceError

/-- A store of documents by type name, of which there are finitely many. -/
structure Store where
  /-- The document stored under a name, if there is one. -/
  load : String → Except SourceError (Option Json)
  /-- A bound on the number of documents. -/
  size : Nat
  length_le_size : ∀ names : List String, names.Nodup →
    (∀ name ∈ names, ∃ document, load name = .ok (some document)) → names.length ≤ size

/-- The stores there are: documents in memory, and the files of a directory. -/
inductive Source where
  | memory (documents : Keyed Json)
  | directory (tree : FileTree)

namespace Source

/-- Adds documents under their titles; a later one replaces an earlier one. -/
def addTitled (documents : Keyed Json) (position : Nat) :
    List Json → Except SourceError (Keyed Json)
  | [] => .ok documents
  | document :: rest =>
    match (document.member? "title").bind Json.asString? with
    | none => .error (.missingTitle position)
    | some title => addTitled (Keyed.insert documents title document) (position + 1) rest

/-- A source in memory of documents under their titles. -/
def ofDocuments (documents : List Json) : Except SourceError Source :=
  (addTitled [] 0 documents).map memory

/-- Whether a name can be that of a schema file: ASCII letters, digits, `_` and `-`. -/
def isPlainName (name : String) : Bool :=
  name != "" && name.toList.all fun character =>
    character.isAlphanum || character == '_' || character == '-'

/-- The name of the file that holds the document of a type. -/
def fileName (name : String) : String := name ++ ".schema.json"

/-- The document stored under a name, if there is one. -/
def load (source : Source) (name : String) : Except SourceError (Option Json) :=
  match source with
  | memory documents => .ok (Keyed.get? documents name)
  | directory tree =>
    if !isPlainName name then .ok none
    -- A file whose name is too long cannot even be looked for.
    else if FileTree.longestName < (fileName name).utf8ByteSize then .error (.unreadable name)
    else
      match Keyed.get? tree (fileName name) with
      | none => .ok none
      | some (.folder _) => .error (.unreadable name)
      | some (.file text) =>
        match Json.ofText? text with
        | some document => .ok (some document)
        | none => .error (.notJson name)

/-- A bound on the number of documents. -/
def size : Source → Nat
  | memory documents => documents.length
  | directory tree => tree.length

theorem fileName_injective {left right : String} (same : fileName left = fileName right) :
    left = right :=
  (String.append_left_inj _).mp same

theorem length_le_size (source : Source) (names : List String) (nodup : names.Nodup)
    (stored : ∀ name ∈ names, ∃ document, source.load name = .ok (some document)) :
    names.length ≤ source.size := by
  cases source with
  | memory documents =>
    refine Keyed.length_le_of_subset_keys nodup fun name member => ?_
    obtain ⟨document, loaded⟩ := stored name member
    exact Keyed.mem_keys_iff.mpr ⟨document, by simpa [load] using loaded⟩
  | directory tree =>
    -- Different names have different files.
    have files : (names.map fileName).Nodup :=
      List.pairwise_map.mpr (nodup.imp fun differ same => differ (fileName_injective same))
    rw [← List.length_map fileName]
    refine Keyed.length_le_of_subset_keys files fun file member => ?_
    obtain ⟨name, inside, rfl⟩ := List.mem_map.mp member
    obtain ⟨document, loaded⟩ := stored name inside
    cases found : Keyed.get? tree (fileName name) with
    | none =>
      simp only [load, found] at loaded
      split at loaded
      next => cases loaded
      next => split at loaded <;> cases loaded
    | some entry => exact Keyed.mem_keys_iff.mpr ⟨entry, found⟩

/-- A source as a store. -/
def store (source : Source) : Store := ⟨source.load, source.size, source.length_le_size⟩

end Source

end DocSchema
