import DocSchema.Proofs.Coercion.Filling
import DocSchema.Proofs.Coercion.Parts
import DocSchema.Proofs.Schema.Naming
import Mathlib

/-!
# Records alone in an array

Where a record type is expected an array of one record is unwrapped, but only after reshaping has
passed the array by. What has been reshaped already loses nothing by being put into an array; any
other record keeps its aliases, which are then dropped as unknown, and is not filled in. Main
statement: `coerceTree_singleton`.
-/

namespace DocSchema.Coercion

variable {set : SchemaSet} {name : String} {type : CompiledType} {fields : Keyed Node} {path : Path}

/-! ### Arrays and reshaping -/

theorem reshape_array (values : List Node) :
    reshape set (.ref name) path (.array values) = ⟨.array values, []⟩ := by
  rw [reshape] <;> simp

theorem exists_reshape_record (known : set.recordType? name = some type) (fields : Keyed Node)
    (path : Path) :
    ∃ target, recordTarget? set fields name = some target ∧
      (reshape set (.ref name) path (.record fields)).value =
        .record (reshapeRecord set target path fields).value := by
  obtain ⟨target, aimed⟩ := exists_recordTarget? known fields
  refine ⟨target, aimed, ?_⟩
  simp only [reshape, aimed]

/-! ### Unwrapping -/

theorem coerce_singleton (known : set.recordType? name = some type) (fuel : Nat) (place : Place)
    (hops : Nat) (memory : UnionMemory) :
    coerce set fuel place (.ref name) path hops (.array [.record fields]) memory =
      coerce set fuel place (.ref name) path hops (.record fields) memory := by
  obtain ⟨found, properties, required, aliases, body⟩ := SchemaSet.recordType?_eq_some_iff.mp known
  cases fuel with
  | zero => rfl
  | succ fuel => simp only [coerce, found, body, unwrapSingleton]

/-- A record in an array is coerced as it stands. -/
theorem coerceTree_wrapped (known : set.recordType? name = some type) (fuel : Nat)
    (fields : Keyed Node) (path : Path) :
    coerceTree set fuel (.array [.record fields]) (.ref name) path =
      coerceReshaped set fuel .empty (.record fields) (.ref name) path := by
  -- Reshaping an array tells of nothing, so the warnings are those of coercing the record.
  simp only [coerceTree, coerceTreeWith, reshape_array, coerceReshaped, coerce_singleton known,
    List.nil_append]
  exact congrFun Option.map_id _

/-- The warnings of reshaping apart, a record alone is coerced as what it is reshaped to. -/
theorem node_coerceTree {shaped : Keyed Node} (fuel : Nat)
    (made : (reshape set (.ref name) path (.record fields)).value = .record shaped) :
    (coerceTree set fuel (.record fields) (.ref name) path).map Coerced.node =
      (coerceReshaped set fuel .empty (.record shaped) (.ref name) path).map Coerced.node := by
  simp only [coerceTree, coerceTreeWith, made, Option.map_map, Function.comp_def]

/-! ### What is left out -/

/-- A record that is coerced gets no new keys, and keeps those of its type's properties. -/
theorem coerceReshaped_record {fuel : Nat} {memory : UnionMemory} {coerced : Coerced}
    (known : set.recordType? name = some type)
    (ran : coerceReshaped set fuel memory (.record fields) (.ref name) path = some coerced) :
    ∃ target results, recordTarget? set fields name = some target ∧
      coerced.node = .record results ∧ (∀ key ∈ Keyed.keys results, key ∈ Keyed.keys fields) ∧
      ∀ key ∈ Keyed.keys fields, (target.schema.property? key).isSome = true →
        key ∈ Keyed.keys results := by
  obtain ⟨⟨made, after⟩, returned, rfl⟩ := Option.map_eq_some_iff.mp ran
  cases fuel with
  | zero => cases returned
  | succ fuel =>
    obtain ⟨target, inside, aimed, parts, rfl⟩ := coerce_record known rfl returned
    have made := coerceFields_keys parts
    refine ⟨target, inside.values, aimed, rfl, made.order.subset, fun key member declared => ?_⟩
    obtain ⟨⟨same, value⟩, listed, rfl⟩ := List.mem_map.mp member
    obtain ⟨property, declares⟩ := Option.isSome_iff_exists.mp declared
    obtain ⟨result, outcome, -⟩ := made.outcome same value property listed declares
    exact List.mem_map.mpr ⟨(same, result), outcome, rfl⟩

/-- A property that a record has only once it is reshaped is missing from what the record becomes
in an array. -/
theorem node_ne_of_gained {fuel : Nat} {shaped : Keyed Node} {target : CompiledType} {key : String}
    (known : set.recordType? name = some type)
    (made : (reshape set (.ref name) path (.record fields)).value = .record shaped)
    (aimed : recordTarget? set shaped name = some target)
    (declared : (target.schema.property? key).isSome = true) (gained : key ∈ Keyed.keys shaped)
    (lacking : key ∉ Keyed.keys fields) {wrapped bare : Coerced}
    (inside : coerceTree set fuel (.array [.record fields]) (.ref name) path = some wrapped)
    (alone : coerceTree set fuel (.record fields) (.ref name) path = some bare) :
    wrapped.node ≠ bare.node := by
  -- In the array no key is added to those of the record.
  rw [coerceTree_wrapped known] at inside
  obtain ⟨_, left, -, leftIs, within, -⟩ := coerceReshaped_record known inside
  -- Alone the record is coerced with the key, which is declared and so is kept.
  have both := node_coerceTree fuel made
  rw [alone, Option.map_some] at both
  obtain ⟨coerced, ran, same⟩ := Option.map_eq_some_iff.mp both.symm
  obtain ⟨also, right, aimedAlso, rightIs, -, kept⟩ := coerceReshaped_record known ran
  rw [aimed] at aimedAlso
  cases aimedAlso
  have present : key ∈ Keyed.keys right := kept key gained declared
  intro equal
  rw [leftIs, ← same, rightIs] at equal
  cases equal
  exact lacking (within key present)

/-- Every reshaped record has what its type requires. -/
theorem mem_keys_reshapeRecord (built : set.Built) (known : set.find? name = some type)
    {property : String} (required : property ∈ type.schema.required) :
    property ∈ Keyed.keys (reshapeRecord set type path fields).value := by
  rw [reshapeRecord]
  apply mem_keys_fillRequired (built.wellNamed known).required (built.wellFormed known).declared
  exact required

/-- The target of a record is a record type of the set, so that it requires and declares the
discriminator. -/
theorem typeKey_of_target (built : set.Built) {target : CompiledType}
    (aimed : recordTarget? set fields name = some target) (path : Path) :
    Node.typeKey ∈ Keyed.keys (reshapeRecord set target path fields).value ∧
      (target.schema.property? Node.typeKey).isSome = true := by
  obtain ⟨other, known⟩ := recordTarget?_known aimed
  obtain ⟨found, record⟩ := Option.filter_eq_some_iff.mp known
  have isRecord : target.schema.isUnion = false := by simpa using record
  have formed := built.wellFormed found
  obtain ⟨property, declares, -⟩ := formed.discriminator isRecord
  constructor
  · exact mem_keys_reshapeRecord built found (formed.required isRecord)
  · rw [declares]
    rfl

/-- Where a record type is expected a record in an array is coerced without being reshaped. If it
has been reshaped before, the array makes no difference. If reshaping fills a property in or brings
it in under another key, the outcomes differ; so they do for every record without a
discriminator. -/
theorem coerceTree_singleton (known : set.recordType? name = some type) (fuel : Nat) (path : Path)
    (fields : Keyed Node) :
    coerceTree set fuel (.array [.record fields]) (.ref name) path =
      coerceReshaped set fuel .empty (.record fields) (.ref name) path ∧
    ∃ shaped target, (reshape set (.ref name) path (.record fields)).value = .record shaped ∧
      recordTarget? set shaped name = some target ∧
      (coerceTree set fuel (.array [.record shaped]) (.ref name) path).map Coerced.node =
        (coerceTree set fuel (.record fields) (.ref name) path).map Coerced.node ∧
      ∀ wrapped bare,
        coerceTree set fuel (.array [.record fields]) (.ref name) path = some wrapped →
        coerceTree set fuel (.record fields) (.ref name) path = some bare →
        (∀ key ∈ Keyed.keys shaped, (target.schema.property? key).isSome = true →
          key ∉ Keyed.keys fields → wrapped.node ≠ bare.node) ∧
        (set.Built → Node.typeKey ∉ Keyed.keys fields → wrapped.node ≠ bare.node) := by
  -- A discriminator that comes in under an alias may name another target than the record had.
  obtain ⟨first, aimedFirst, made⟩ := exists_reshape_record known fields path
  obtain ⟨target, aimed⟩ := exists_recordTarget? known (reshapeRecord set first path fields).value
  refine ⟨coerceTree_wrapped known fuel fields path, _, target, made, aimed, ?_,
    fun wrapped bare inside alone => ⟨?_, fun built untyped => ?_⟩⟩
  · rw [coerceTree_wrapped known, node_coerceTree fuel made]
  · intro key gained declared lacking
    exact node_ne_of_gained known made aimed declared gained lacking inside alone
  · have gained := (typeKey_of_target built aimedFirst path).1
    have declared := (typeKey_of_target built aimed path).2
    exact node_ne_of_gained known made aimed declared gained untyped inside alone

/-- The text of a note may be given as its body. -/
def noteDefinition : TypeDefinition where
  title := "Note"
  properties := [("text", { kind := some "string", aliases := ["body"] })]

def note : TypeSchema where
  name := "Note"
  description := none
  body := .record [("type", ⟨.enum [.string "Note"], none, [], none⟩),
    ("text", ⟨.scalar .string, none, ["body"], none⟩)] ["type"] [("body", "text")]

def notebook : SchemaSet where
  root := "Note"
  types := [("Note", .ofSchema note)]
  limit := SchemaSet.defaultLimit

theorem notebook_built : notebook.Built := by
  intro name type known
  have member := Keyed.mem_of_get? known
  obtain ⟨rfl, rfl⟩ : name = "Note" ∧ type = .ofSchema note := by simpa [notebook] using member
  exact ⟨[noteDefinition], rfl⟩

/-- A note whose text is given as its body. -/
def said : Keyed Node := [("body", .string "A")]

theorem coerceTree_said : coerceTree notebook 4 (.record said) (.ref "Note") [] =
    some ⟨.record [("type", .string "Note"), ("text", .string "A")], [], []⟩ := by cbv

theorem coerceTree_said_wrapped :
    coerceTree notebook 4 (.array [.record said]) (.ref "Note") [] =
      some ⟨.record [], [.unknownProperty "body" []], []⟩ := by cbv

theorem said_differs :
    ∃ wrapped bare,
      coerceTree notebook 4 (.array [.record said]) (.ref "Note") [] = some wrapped ∧
      coerceTree notebook 4 (.record said) (.ref "Note") [] = some bare ∧
      wrapped.node ≠ bare.node := by
  have known : notebook.recordType? "Note" = some (.ofSchema note) := rfl
  obtain ⟨-, shaped, target, -, -, -, differ⟩ := coerceTree_singleton known 4 [] said
  refine ⟨_, _, coerceTree_said_wrapped, coerceTree_said, ?_⟩
  exact (differ _ _ coerceTree_said_wrapped coerceTree_said).2 notebook_built (by decide)

/-- So the array that a note is put into may cost it its text. -/
theorem said_lost :
    ¬∀ (set : SchemaSet) (name : String) (type : CompiledType) (fuel : Nat) (path : Path)
      (fields : Keyed Node) (wrapped bare : Coerced), set.Built →
      set.recordType? name = some type →
      coerceTree set fuel (.array [.record fields]) (.ref name) path = some wrapped →
      coerceTree set fuel (.record fields) (.ref name) path = some bare →
      wrapped.node = bare.node := by
  intro same
  have equal := same notebook "Note" _ 4 [] said _ _ notebook_built rfl coerceTree_said_wrapped
    coerceTree_said
  cases equal

end DocSchema.Coercion
