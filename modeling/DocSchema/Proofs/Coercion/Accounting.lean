import DocSchema.Proofs.Coercion.Fates
import DocSchema.Proofs.Coercion.Filling
import Mathlib

/-!
# Every entry of a record accounted for

When a record is reshaped as one of a type, an entry whose key stands for no property, or for one
that an earlier entry stands for, is dropped with exactly one warning. All others are kept in their
order under the names of their properties, apart from empty arrays where one value is expected, and
what is required and still absent is filled in. Main statement: `reshapeRecord_accounted`.
-/

namespace DocSchema

/-- Whether a warning is about a record that stands at a path or below, or about a property of
such a record. -/
def Warning.Within (path : Path) : Warning → Prop
  | unknownProperty _ place => path <+: place
  | duplicateProperty _ _ place => path <+: place
  | cardinalityReduced name _ place => ∃ above, path <+: above ∧ place = Path.property above name
  | _ => False

theorem Warning.Within.mono {path longer : Path} (start : path <+: longer) {warning : Warning}
    (within : warning.Within longer) : warning.Within path := by
  cases warning with
  | unknownProperty => exact start.trans within
  | duplicateProperty => exact start.trans within
  | cardinalityReduced name discarded place =>
    obtain ⟨above, below, rfl⟩ := within
    exact ⟨above, start.trans below, rfl⟩
  | decodeUnavailable => exact within
  | decodeFailed => exact within

namespace Coercion

/-! ### Cardinality -/

/-- Whether a value is removed where a shape of some cardinality is expected. -/
def emptied : Cardinality → Node → Bool
  | .one, .array [] => true
  | _, _ => false

/-- What a value that is not removed becomes where a shape of some cardinality is expected. -/
def fitted : Cardinality → Node → Node
  | .one, .array (first :: _) => first
  | .many, .record fields => .array [.record fields]
  | _, value => value

section Cardinality

variable {set : SchemaSet} {name : String} {value : Node} {shape : Shape} {path : Path}

theorem value_fixCardinality :
    (fixCardinality set name value shape path).value =
      if emptied (Cardinality.ofShape set 0 shape) value then none
      else some (fitted (Cardinality.ofShape set 0 shape) value) := by
  unfold fixCardinality
  split
  next => simp [emptied, fitted]
  next => split <;> simp_all [emptied, fitted]

/-- Several values where one is expected are told of. -/
theorem mem_warnings_fixCardinality_iff {warning : Warning} :
    warning ∈ (fixCardinality set name value shape path).warnings ↔
      ∃ items, Cardinality.ofShape set 0 shape = .one ∧ value = .array items ∧
        2 ≤ items.length ∧
        warning = .cardinalityReduced name (items.length - 1) (path.property name) := by
  unfold fixCardinality
  split
  next => simp
  next =>
    split
    next => simp
    next => simp
    next => simp
    next others only holds _ =>
      have some : 1 ≤ others.length := List.length_pos_of_ne_nil fun none => only (by rw [none])
      simp [holds, some]
    next several _ =>
      constructor
      · intro member
        cases member
      · rintro ⟨items, holds, rfl, long, -⟩
        cases items with
        | nil => exact absurd long (by decide)
        | cons first others => exact (several first others holds rfl).elim

end Cardinality

/-! ### Warnings from inside -/

theorem within_of_mem_toldOf {path : Path} {all : List ((String × Node) × Fate)}
    {warning : Warning} (member : warning ∈ toldOf path all) : warning.Within path := by
  obtain ⟨⟨entry, fate⟩, -, told⟩ := List.mem_filterMap.mp member
  cases fate <;> cases told <;> exact List.prefix_rfl

theorem within_of_mem_fixCardinality {set : SchemaSet} {name : String} {value : Node}
    {shape : Shape} {path : Path} {warning : Warning}
    (member : warning ∈ (fixCardinality set name value shape path).warnings) :
    warning.Within path := by
  obtain ⟨items, -, -, -, rfl⟩ := mem_warnings_fixCardinality_iff.mp member
  exact ⟨path, List.prefix_rfl, rfl⟩

/-- Reshaping a value tells of records in that value only. -/
theorem within_of_mem_reshape (set : SchemaSet) (shape : Shape) (path : Path) (node : Node) :
    ∀ warning ∈ (reshape set shape path node).warnings, warning.Within path := by
  revert shape path node
  refine (reshape.mutual_induct set
    (fun shape path node => ∀ warning ∈ (reshape set shape path node).warnings,
      warning.Within path)
    (fun items path position values =>
      ∀ warning ∈ (reshapeItems set items path position values).warnings, warning.Within path)
    (fun type path fields => ∀ warning ∈ (reshapeRecord set type path fields).warnings,
      warning.Within path)
    (fun type path fields => ∀ warning ∈ (reshapeFields set type path fields).warnings,
      warning.Within path)
    ?_ ?_ ?_ ?_ ?_ ?_ ?_ ?_ ?_ ?_ ?_ ?_ ?_ ?_ ?_ ?_).1
  -- A record where a type is expected.
  · intro path name fields aimed
    simp [reshape, aimed]
  · intro path name fields type aimed ih
    simpa [reshape, aimed] using ih
  -- A record where one of several shapes is expected.
  · intro path alternatives fields named
    rw [reshape]
    split <;> simp_all
  · intro path alternatives fields alternative named ih
    rw [reshape]
    split <;> simp_all
  -- Items.
  · intro path items values ih
    simpa [reshape] using ih
  · intro path items fields ih warning member
    rw [reshape] at member
    exact (ih warning member).mono (List.prefix_append _ _)
  -- Text and other values under a decode directive.
  · intro path format inner node text
    simp [reshape, text]
  · intro path format inner node other ih
    simpa [reshape, other] using ih
  · intro shape path node record union array single coded
    rw [reshape.eq_def]
    split <;> simp_all
  · simp [reshapeItems]
  · intro items path position value rest first later warning member
    rw [reshapeItems] at member
    rcases List.mem_append.mp member with here | there
    · exact (first warning here).mono (List.prefix_append _ _)
    · exact later warning there
  -- Properties, under their names.
  · intro type path fields canonical ih warning member
    rw [reshapeRecord] at member
    rcases List.mem_append.mp member with here | there
    · rw [canonicalize_eq_fates (tracks_nil type.names)] at here
      exact within_of_mem_toldOf here
    · exact ih warning there
  · simp [reshapeFields]
  · intro type path name value rest undeclared ih
    rw [reshapeFields]
    split <;> simp_all
  · intro type path name value rest property declares fixed dropped ih warning member
    rw [reshapeFields_dropped declares dropped] at member
    rcases List.mem_append.mp member with here | there
    · exact within_of_mem_fixCardinality here
    · exact ih warning there
  · intro type path name value rest property declares fixed inner kept inside later warning member
    have made : fixed = ⟨some inner, fixed.warnings⟩ := by rw [← kept]
    rw [reshapeFields_kept declares made, List.mem_append, List.mem_append] at member
    rcases member with (here | below) | there
    · exact within_of_mem_fixCardinality here
    · exact (inside warning below).mono (List.prefix_append _ _)
    · exact later warning there

/-! ### Properties -/

/-- How many values a property holds. -/
def cardinalityOf (set : SchemaSet) (type : TypeSchema) (name : String) : Cardinality :=
  Cardinality.ofShape set 0 (shapeOf type name)

/-- What an entry under the name of a property becomes. -/
def reshapedEntry (set : SchemaSet) (type : TypeSchema) (path : Path) (entry : String × Node) :
    String × Node :=
  (entry.1, (reshape set (shapeOf type entry.1) (path.property entry.1)
    (fitted (cardinalityOf set type entry.1) entry.2)).value)

/-- What is told of an entry under the name of a property. -/
def entryWarnings (set : SchemaSet) (type : TypeSchema) (path : Path) (entry : String × Node) :
    List Warning :=
  (fixCardinality set entry.1 entry.2 (shapeOf type entry.1) path).warnings ++
    if emptied (cardinalityOf set type entry.1) entry.2 then []
    else (reshape set (shapeOf type entry.1) (path.property entry.1)
      (fitted (cardinalityOf set type entry.1) entry.2)).warnings

section Fields

variable {set : SchemaSet} {type : TypeSchema} {path : Path} {fields : List (String × Node)}

/-- Of entries under the names of properties only empty arrays are removed. -/
theorem reshapeFields_eq
    (declared : ∀ entry ∈ fields, (type.property? entry.1).isSome = true) :
    reshapeFields set type path fields =
      ⟨(fields.filter fun entry => !emptied (cardinalityOf set type entry.1) entry.2).map
        (reshapedEntry set type path), fields.flatMap (entryWarnings set type path)⟩ := by
  induction fields with
  | nil => rw [reshapeFields]; rfl
  | cons entry rest ih =>
    obtain ⟨name, value⟩ := entry
    obtain ⟨property, declares⟩ := Option.isSome_iff_exists.mp (declared _ List.mem_cons_self)
    have later := ih fun other member => declared other (List.mem_cons_of_mem _ member)
    have shape : shapeOf type name = property.shape := by simp [shapeOf, declares]
    have fixed : (fixCardinality set name value property.shape path).value =
        if emptied (cardinalityOf set type name) value then none
        else some (fitted (cardinalityOf set type name) value) := by
      rw [value_fixCardinality, cardinalityOf, shape]
    by_cases gone : emptied (cardinalityOf set type name) value = true
    · rw [if_pos gone] at fixed
      rw [reshapeFields_dropped declares fixed, later, List.filter_cons_of_neg (by simp [gone]),
        List.flatMap_cons, entryWarnings, if_pos gone, shape, List.append_nil]
    · rw [if_neg gone] at fixed
      have made : fixCardinality set name value property.shape path =
          ⟨some (fitted (cardinalityOf set type name) value),
            (fixCardinality set name value property.shape path).warnings⟩ := by rw [← fixed]
      rw [reshapeFields_kept declares made, later, List.filter_cons_of_pos (by simp [gone]),
        List.map_cons, List.flatMap_cons, reshapedEntry, entryWarnings, if_neg gone, shape]

/-- What is told of an entry is that values of it were left out, or is about what is inside. -/
theorem mem_entryWarnings {entry : String × Node} {warning : Warning}
    (member : warning ∈ entryWarnings set type path entry) :
    warning ∈ (fixCardinality set entry.1 entry.2 (shapeOf type entry.1) path).warnings ∨
      warning.Within (path.property entry.1) := by
  rcases List.mem_append.mp member with here | inside
  · exact .inl here
  · split at inside
    next => cases inside
    next => exact .inr (within_of_mem_reshape set _ _ _ warning inside)

/-- No entry of a record is said to be dropped once all of them have the names of properties. -/
theorem drops_entryWarnings {entry : String × Node} {warning : Warning}
    (member : warning ∈ entryWarnings set type path entry) (key : String) :
    warning.drops key path = false := by
  rcases mem_entryWarnings member with here | inside
  · obtain ⟨items, -, -, -, rfl⟩ := mem_warnings_fixCardinality_iff.mp here
    rfl
  · rw [← Bool.not_eq_true]
    intro drops
    cases warning <;> simp [Warning.drops] at drops
    · exact path.not_property_prefix entry.1 (drops.2 ▸ inside)
    · exact path.not_property_prefix entry.1 (drops.2 ▸ inside)

/-- Values of a property are said to be left out where it is given several and holds one. -/
theorem cardinalityReduced_mem_entryWarnings_iff {name : String} {discarded : Nat} :
    (∃ entry ∈ fields, Warning.cardinalityReduced name discarded (path.property name) ∈
        entryWarnings set type path entry) ↔
      ∃ items, (name, .array items) ∈ fields ∧ cardinalityOf set type name = .one ∧
        items.length = discarded + 1 ∧ 2 ≤ items.length := by
  constructor
  · rintro ⟨⟨other, value⟩, listed, member⟩
    rcases mem_entryWarnings member with here | ⟨above, below, same⟩
    · obtain ⟨items, single, rfl, long, told⟩ := mem_warnings_fixCardinality_iff.mp here
      injection told with same count
      subst same
      exact ⟨items, listed, single, by omega, long⟩
    · have equal : path = above := List.append_inj_left' same rfl
      exact absurd (equal ▸ below) (path.not_property_prefix other)
  · rintro ⟨items, listed, single, counted, long⟩
    refine ⟨_, listed, List.mem_append_left _ (mem_warnings_fixCardinality_iff.mpr
      ⟨items, single, rfl, long, ?_⟩)⟩
    rw [counted, Nat.add_sub_cancel]

end Fields

/-! ### Records -/

/-- The entries of a record that are kept, less empty arrays where a property holds one value. -/
def staying (set : SchemaSet) (type : CompiledType) (fields : List (String × Node)) :
    List (String × Node) :=
  (keptOf (fates type.names [] fields)).filter fun entry =>
    !emptied (cardinalityOf set type.schema entry.1) entry.2

/-- That all entries of a record are accounted for in what it is reshaped into as one of a type. -/
structure Accounted (set : SchemaSet) (type : CompiledType) (path : Path)
    (fields : List (String × Node)) (result : Reshaped (Keyed Node)) : Prop where
  /-- Of the warnings that entries of the record were dropped, each entry has those that its fate
  tells: one if it was dropped, else none. -/
  told : ∀ key value fate, ((key, value), fate) ∈ fates type.names [] fields →
    result.warnings.filter (Warning.drops key path) = (fate.warning? key path).toList
  /-- The entries that stay are reshaped, and what is still missing is filled in. -/
  entries : result.value =
    withFilled set [] type.schema (missing type.schema.required (staying set type fields))
      ((staying set type fields).map (reshapedEntry set type.schema path))
  required : ∀ name ∈ type.schema.required, Keyed.contains result.value name = true
  declared : ∀ name ∈ Keyed.keys result.value, (type.schema.property? name).isSome = true
  /-- Where a property holds one value, others are left out with a warning. -/
  reduced : ∀ name discarded,
    .cardinalityReduced name discarded (path.property name) ∈ result.warnings ↔
      ∃ items, (name, .array items) ∈ keptOf (fates type.names [] fields) ∧
        cardinalityOf set type.schema name = .one ∧ items.length = discarded + 1 ∧
        2 ≤ items.length

section Records

variable {set : SchemaSet} {name : String} {type : CompiledType} {path : Path}
  {fields : List (String × Node)}

theorem declared_of_mem_keptOf (built : set.Built) (known : set.find? name = some type) :
    ∀ entry ∈ keptOf (fates type.names [] fields),
      (type.schema.property? entry.1).isSome = true := by
  intro entry member
  obtain ⟨key, -, resolved⟩ := resolved_of_mem_keptOf member
  exact Option.isSome_iff_exists.mpr
    (Keyed.mem_keys_iff.mp (built.declared_of_resolve? known resolved))

theorem keys_map_reshapedEntry (type : TypeSchema) (path : Path)
    (entries : List (String × Node)) :
    Keyed.keys (entries.map (reshapedEntry set type path)) = Keyed.keys entries := by
  simp [Keyed.keys, reshapedEntry]

/-- Names are brought to those of properties, then values are reshaped, then what is missing is
filled in. -/
theorem reshapeRecord_eq (built : set.Built) (known : set.find? name = some type) (path : Path)
    (fields : List (String × Node)) :
    reshapeRecord set type path fields =
      ⟨withFilled set [] type.schema (missing type.schema.required (staying set type fields))
          ((staying set type fields).map (reshapedEntry set type.schema path)),
        toldOf path (fates type.names [] fields) ++
          (keptOf (fates type.names [] fields)).flatMap (entryWarnings set type.schema path)⟩ := by
  have required : ∀ name ∈ type.schema.required, (type.schema.property? name).isSome = true :=
    (built.wellFormed known).declared
  have same : missing type.schema.required
      ((staying set type fields).map (reshapedEntry set type.schema path)) =
        missing type.schema.required (staying set type fields) :=
    missing_congr fun name _ => by rw [keys_map_reshapedEntry]
  rw [reshapeRecord, canonicalize_eq_fates (tracks_nil type.names)]
  dsimp only
  rw [reshapeFields_eq (declared_of_mem_keptOf built known),
    fillRequired_eq (built.wellNamed known).required required, ← staying, same]

/-- Every entry of a record is kept, or removed for a reason, or told of. -/
theorem reshapeRecord_accounted (built : set.Built) (known : set.recordType? name = some type)
    (distinct : Keyed.Distinct fields) (path : Path) :
    Accounted set type path fields (reshapeRecord set type path fields) := by
  have found := (SchemaSet.recordType?_eq_some_iff.mp known).1
  rw [reshapeRecord_eq built found]
  constructor
  case told =>
    intro key value fate member
    have inside : ((keptOf (fates type.names [] fields)).flatMap
        (entryWarnings set type.schema path)).filter (Warning.drops key path) = [] := by
      rw [List.filter_eq_nil_iff]
      intro warning listed
      obtain ⟨entry, -, told⟩ := List.mem_flatMap.mp listed
      simp [drops_entryWarnings told]
    rw [List.filter_append, filter_drops_toldOf distinct member, inside, List.append_nil]
  case entries => rfl
  case required =>
    intro name listed
    rw [Keyed.contains_iff, mem_keys_withFilled_iff, keys_map_reshapedEntry, ← Keyed.contains_iff]
    by_cases present : Keyed.contains (staying set type fields) name = true
    · exact .inr present
    · exact .inl (List.mem_filter.mpr ⟨listed, by simp [present]⟩)
  case declared =>
    intro name listed
    rw [mem_keys_withFilled_iff, keys_map_reshapedEntry] at listed
    rcases listed with filled | stays
    · exact (built.wellFormed found).declared name (List.mem_filter.mp filled).1
    · obtain ⟨entry, member, rfl⟩ := List.mem_map.mp stays
      exact declared_of_mem_keptOf built found entry (List.mem_filter.mp member).1
  case reduced =>
    intro name discarded
    rw [List.mem_append, List.mem_flatMap, or_iff_right]
    · exact cardinalityReduced_mem_entryWarnings_iff
    · -- No entry is told of in this way while keys are brought to names.
      intro told
      obtain ⟨⟨entry, fate⟩, -, same⟩ := List.mem_filterMap.mp told
      cases fate <;> cases same

/-- A title is given once with two values and once more, beside a colour that books do not have. -/
def titledTwice : Keyed Node :=
  [("Title", .array [.string "A", .string "B"]), ("title", .string "C"), ("colour", .string "red")]

theorem titledTwice_accounted :
    (reshapeRecord .library (.ofSchema SchemaSet.book) [] titledTwice).warnings.filter
        (Warning.drops "title" []) = [.duplicateProperty "title" "title" []] ∧
      .cardinalityReduced "title" 1 [.property "title"] ∈
        (reshapeRecord .library (.ofSchema SchemaSet.book) [] titledTwice).warnings := by
  have known : SchemaSet.library.recordType? "Book" = some (.ofSchema SchemaSet.book) := rfl
  have decided : fates (CompiledType.ofSchema SchemaSet.book).names [] titledTwice =
      [(("Title", .array [.string "A", .string "B"]), .kept "title"),
        (("title", .string "C"), .repeated "title"), (("colour", .string "red"), .unknown)] := by
    cbv
  have accounted := reshapeRecord_accounted SchemaSet.library_built known
    (show Keyed.Distinct titledTwice by decide) []
  constructor
  · exact accounted.told "title" (.string "C") (.repeated "title") (by simp [decided])
  · refine (accounted.reduced "title" 1).mpr ⟨[.string "A", .string "B"], ?_, by cbv, rfl, by simp⟩
    simp [decided, keptOf, Fate.renamed?]

end Records

end Coercion

end DocSchema
