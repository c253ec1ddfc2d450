import DocSchema.Proofs.Coercion.Reshaping

/-!
# What becomes of the entries of a record

An entry of a record is unknown if its key stands for no property, repeated if an earlier entry
stands for the same one, and kept otherwise. Bringing the keys to names keeps what is kept and tells
of everything else, once for each entry. Main statements: `canonicalize_eq_fates` and
`filter_drops_toldOf`.
-/

namespace DocSchema

/-- Whether a warning says that the entry under a key of the record at a path was dropped. -/
def Warning.drops (key : String) (path : Path) : Warning → Bool
  | unknownProperty property place => property = key && place = path
  | duplicateProperty property _ place => property = key && place = path
  | _ => false

namespace Coercion

/-- What becomes of an entry of a record. -/
inductive Fate where
  | unknown
  /-- An earlier entry stands for the same property. -/
  | repeated (name : String)
  | kept (name : String)

/-- The fate of an entry with a key after other entries. -/
def fate (names : PropertyNames) (earlier : List (String × Node)) (key : String) : Fate :=
  match names.resolve? key with
  | none => .unknown
  | some name =>
    if ∃ entry ∈ earlier, names.resolve? entry.1 = some name then .repeated name else .kept name

/-- The entries of a record, each with its fate after those before it. -/
def fates (names : PropertyNames) (earlier : List (String × Node)) :
    List (String × Node) → List ((String × Node) × Fate)
  | [] => []
  | entry :: rest => (entry, fate names earlier entry.1) :: fates names (earlier ++ [entry]) rest

/-- The warning about an entry that is not kept. -/
def Fate.warning? (key : String) (path : Path) : Fate → Option Warning
  | unknown => some (.unknownProperty key path)
  | repeated name => some (.duplicateProperty key name path)
  | kept _ => none

/-- An entry that is kept, under the name of its property. -/
def Fate.renamed? (value : Node) : Fate → Option (String × Node)
  | kept name => some (name, value)
  | _ => none

/-- The entries that are kept of some with their fates. -/
def keptOf (all : List ((String × Node) × Fate)) : List (String × Node) :=
  all.filterMap fun item => item.2.renamed? item.1.2

/-- The warnings about entries with their fates. -/
def toldOf (path : Path) (all : List ((String × Node) × Fate)) : List Warning :=
  all.filterMap fun item => item.2.warning? item.1.1 path

section Fates

variable {names : PropertyNames} {path : Path} {earlier fields : List (String × Node)}

/-- A fate is that of its entry after some others. -/
theorem of_mem_fates {entry : String × Node} {fate : Fate}
    (member : (entry, fate) ∈ fates names earlier fields) :
    entry ∈ fields ∧ ∃ before, Coercion.fate names before entry.1 = fate := by
  induction fields generalizing earlier with
  | nil => cases member
  | cons first rest ih =>
    rcases List.mem_cons.mp member with same | later
    · cases same
      exact ⟨List.mem_cons_self, earlier, rfl⟩
    · exact (ih later).imp_left (List.mem_cons_of_mem _)

/-- Some names are those that some entries stand for. -/
def Tracks (names : PropertyNames) (seen : List String) (earlier : List (String × Node)) : Prop :=
  ∀ name, name ∈ seen ↔ ∃ entry ∈ earlier, names.resolve? entry.1 = some name

theorem tracks_nil (names : PropertyNames) : Tracks names [] [] := by
  simp [Tracks]

/-- One more entry is tracked with the name it stands for. -/
theorem Tracks.snoc {seen more : List String} (tracks : Tracks names seen earlier)
    (entry : String × Node)
    (grown : ∀ name, name ∈ more ↔ name ∈ seen ∨ names.resolve? entry.1 = some name) :
    Tracks names more (earlier ++ [entry]) := by
  intro name
  rw [grown, tracks name]
  simp only [List.mem_append, List.mem_singleton, or_and_right, exists_or, exists_eq_left]

/-- Keys are brought to names as their fates say, where the names seen are those that earlier
entries stand for. -/
theorem canonicalize_eq_fates {seen : List String} (tracks : Tracks names seen earlier) :
    canonicalize names path seen fields =
      ⟨keptOf (fates names earlier fields), toldOf path (fates names earlier fields)⟩ := by
  induction fields generalizing earlier seen with
  | nil => rfl
  | cons entry rest ih =>
    obtain ⟨key, value⟩ := entry
    -- The fate of the entry decides which names have been seen when the rest is looked at.
    cases resolved : names.resolve? key with
    | none =>
      have decided : fate names earlier key = .unknown := by simp only [fate, resolved]
      have same : Tracks names seen (earlier ++ [(key, value)]) :=
        tracks.snoc _ (by simp [resolved])
      simp only [canonicalize, resolved, ih same, fates, decided, keptOf, toldOf]
      rfl
    | some name =>
      by_cases before : ∃ entry ∈ earlier, names.resolve? entry.1 = some name
      · -- The name is among those seen, and tracking the entry adds nothing.
        have listed : name ∈ seen := (tracks name).mpr before
        have decided : fate names earlier key = .repeated name := by
          simp only [fate, resolved, if_pos before]
        have given : seen.contains name = true := List.contains_iff_mem.mpr listed
        have same : Tracks names seen (earlier ++ [(key, value)]) :=
          tracks.snoc _ (by simp [resolved, listed])
        simp only [canonicalize, resolved, given, if_true, ih same, fates, decided, keptOf, toldOf]
        rfl
      · have decided : fate names earlier key = .kept name := by
          simp only [fate, resolved, if_neg before]
        have new : seen.contains name = false := by simpa using mt (tracks name).mp before
        have more : Tracks names (seen ++ [name]) (earlier ++ [(key, value)]) :=
          tracks.snoc _ (by simp [resolved, eq_comm])
        simp only [canonicalize, resolved, new, Bool.false_eq_true, if_false, ih more, fates,
          decided, keptOf, toldOf]
        rfl

theorem drops_of_warning? {key other : String} {place : Path} {fate : Fate} {warning : Warning}
    (told : fate.warning? other place = some warning) :
    warning.drops key path = true ↔ other = key ∧ place = path := by
  cases fate <;> cases told <;> simp [Warning.drops]

theorem filter_drops_toldOf_of_absent {key : String} (absent : key ∉ Keyed.keys fields) :
    (toldOf path (fates names earlier fields)).filter (Warning.drops key path) = [] := by
  rw [List.filter_eq_nil_iff]
  intro warning member drops
  obtain ⟨⟨entry, fate⟩, listed, told⟩ := List.mem_filterMap.mp member
  obtain ⟨same, -⟩ := (drops_of_warning? told).mp drops
  exact absent (List.mem_map.mpr ⟨entry, (of_mem_fates listed).1, same⟩)

theorem toldOf_cons (item : (String × Node) × Fate) (all : List ((String × Node) × Fate)) :
    toldOf path (item :: all) = (item.2.warning? item.1.1 path).toList ++ toldOf path all := by
  cases told : item.2.warning? item.1.1 path <;> simp [toldOf, told]

/-- Of what is told of entries with distinct keys, one entry's share is what its fate tells. -/
theorem filter_drops_toldOf {key : String} {value : Node} {fate : Fate}
    (distinct : Keyed.Distinct fields)
    (member : ((key, value), fate) ∈ fates names earlier fields) :
    (toldOf path (fates names earlier fields)).filter (Warning.drops key path) =
      (fate.warning? key path).toList := by
  induction fields generalizing earlier with
  | nil => cases member
  | cons first rest ih =>
    obtain ⟨absent, distinct⟩ := List.nodup_cons.mp distinct
    rw [fates, toldOf_cons, List.filter_append]
    rcases List.mem_cons.mp member with same | later
    · cases same
      rw [filter_drops_toldOf_of_absent absent, List.append_nil, List.filter_eq_self]
      intro warning listed
      exact (drops_of_warning? (Option.mem_toList.mp listed)).mpr ⟨rfl, rfl⟩
    · rw [ih distinct later, List.append_left_eq_self, List.filter_eq_nil_iff]
      intro warning listed drops
      obtain ⟨same, -⟩ := (drops_of_warning? (Option.mem_toList.mp listed)).mp drops
      exact absent (List.mem_map.mpr ⟨_, (of_mem_fates later).1, same.symm⟩)

/-- An entry that is kept stands for a property. -/
theorem resolved_of_mem_keptOf {name : String} {value : Node}
    (member : (name, value) ∈ keptOf (fates names earlier fields)) :
    ∃ key, (key, value) ∈ fields ∧ names.resolve? key = some name := by
  obtain ⟨⟨⟨key, inner⟩, found⟩, listed, renamed⟩ := List.mem_filterMap.mp member
  obtain ⟨inside, before, decided⟩ := of_mem_fates listed
  cases found <;> cases renamed
  refine ⟨key, inside, ?_⟩
  unfold fate at decided
  split at decided
  next => cases decided
  next other resolved =>
    split at decided <;> cases decided
    exact resolved

end Fates

end Coercion

end DocSchema
