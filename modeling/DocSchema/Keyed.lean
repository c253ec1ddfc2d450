/-!
# Keyed entries

A finite map that remembers the order of its entries. Every operation below keeps
the keys distinct. Inserting under a key that is present replaces the value where it
stands, so the order is the order of first insertion.
-/

namespace DocSchema

/-- Entries in insertion order. -/
abbrev Keyed (α : Type) := List (String × α)

namespace Keyed

variable {α : Type}

def keys (entries : Keyed α) : List String := entries.map Prod.fst

/-- The value under a key. -/
def get? : Keyed α → String → Option α
  | [], _ => none
  | (present, value) :: rest, key => if present = key then some value else get? rest key

def contains (entries : Keyed α) (key : String) : Bool := (get? entries key).isSome

/-- Replaces the value under a key in its place, or appends a new entry. -/
def insert : Keyed α → String → α → Keyed α
  | [], key, value => [(key, value)]
  | (present, old) :: rest, key, value =>
    if present = key then (key, value) :: rest else (present, old) :: insert rest key value

/-- Removes the entry under a key. -/
def erase : Keyed α → String → Keyed α
  | [], _ => []
  | (present, value) :: rest, key =>
    if present = key then rest else (present, value) :: erase rest key

/-- Puts an entry in first place, removing one that has the same key. -/
def insertFirst (entries : Keyed α) (key : String) (value : α) : Keyed α :=
  (key, value) :: erase entries key

/-- Inserts entries one after another, so of entries with one key the last value is
kept in the first one's place. -/
def ofEntries (entries : List (String × α)) : Keyed α :=
  entries.foldl (fun built entry => insert built entry.1 entry.2) []

/-- Whether no two entries have one key. -/
def Distinct (entries : Keyed α) : Prop := (keys entries).Nodup

instance (entries : Keyed α) : Decidable (Distinct entries) :=
  inferInstanceAs (Decidable (List.Nodup _))

@[simp] theorem get?_nil (key : String) : get? ([] : Keyed α) key = none := rfl

theorem get?_insert_self (entries : Keyed α) (key : String) (value : α) :
    get? (insert entries key value) key = some value := by
  induction entries with
  | nil => simp [insert, get?]
  | cons entry rest ih =>
    simp only [insert]
    split
    · simp [get?]
    · rename_i other
      simp [get?, other, ih]

theorem get?_insert_other (entries : Keyed α) (key other : String) (value : α)
    (different : key ≠ other) : get? (insert entries key value) other = get? entries other := by
  induction entries with
  | nil => simp [insert, get?, different]
  | cons entry rest ih =>
    simp only [insert]
    split
    · rename_i same
      simp [get?, same, different]
    · simp [get?, ih]

/-- Keys are neither lost nor moved by an insertion; a new one comes last. -/
theorem keys_insert (entries : Keyed α) (key : String) (value : α) :
    keys (insert entries key value) =
      if key ∈ keys entries then keys entries else keys entries ++ [key] := by
  induction entries with
  | nil => simp [insert, keys]
  | cons entry rest ih =>
    simp only [insert, keys, List.map_cons, List.mem_cons] at *
    by_cases same : entry.1 = key
    · simp [same]
    · simp only [same, if_false, List.map_cons, ih, Ne.symm same, false_or]
      by_cases present : key ∈ rest.map Prod.fst <;> simp [present]

theorem distinct_insert {entries : Keyed α} (distinct : Distinct entries) (key : String)
    (value : α) : Distinct (insert entries key value) := by
  unfold Distinct at *
  rw [keys_insert]
  split
  · exact distinct
  · rename_i absent
    exact List.nodup_append.mpr
      ⟨distinct, by simp, fun present member last singleton => by
        simp only [List.mem_singleton] at singleton
        rintro rfl
        exact absent (singleton ▸ member)⟩

theorem distinct_nil : Distinct ([] : Keyed α) := List.nodup_nil

/-- Of two values under one key the later one counts. -/
theorem insert_insert (entries : Keyed α) (key : String) (first second : α) :
    insert (insert entries key first) key second = insert entries key second := by
  induction entries with
  | nil => simp [insert]
  | cons entry rest ih =>
    by_cases same : entry.1 = key
    · simp [insert, same]
    · simp [insert, same, ih]

/-- The value under a key may be put there again. -/
theorem insert_of_get? {entries : Keyed α} {key : String} {value : α}
    (found : get? entries key = some value) : insert entries key value = entries := by
  induction entries with
  | nil => simp at found
  | cons entry rest ih =>
    obtain ⟨present, old⟩ := entry
    rw [get?] at found
    by_cases same : present = key
    · simp_all [insert]
    · rw [if_neg same] at found
      rw [insert, if_neg same, ih found]

theorem insert_of_absent {entries : Keyed α} {key : String} (absent : key ∉ keys entries)
    (value : α) : insert entries key value = entries ++ [(key, value)] := by
  induction entries with
  | nil => rfl
  | cons entry rest ih =>
    simp only [keys, List.map_cons, List.mem_cons, not_or] at absent
    rw [insert, if_neg (Ne.symm absent.1), ih absent.2, List.cons_append]

theorem erase_of_absent {entries : Keyed α} {key : String} (absent : key ∉ keys entries) :
    erase entries key = entries := by
  induction entries with
  | nil => rfl
  | cons entry rest ih =>
    simp only [keys, List.map_cons, List.mem_cons, not_or] at absent
    rw [erase, if_neg (Ne.symm absent.1), ih absent.2]

theorem mem_of_mem_insert {entries : Keyed α} {key : String} {value : α} {entry : String × α}
    (member : entry ∈ insert entries key value) : entry = (key, value) ∨ entry ∈ entries := by
  induction entries with
  | nil => exact .inl (List.mem_singleton.mp member)
  | cons first rest ih =>
    simp only [insert] at member
    split at member
    · exact (List.mem_cons.mp member).imp_right (List.mem_cons_of_mem _)
    · rcases List.mem_cons.mp member with rfl | later
      · exact .inr List.mem_cons_self
      · exact (ih later).imp_right (List.mem_cons_of_mem _)

theorem mem_of_mem_erase {entries : Keyed α} {key : String} {entry : String × α}
    (member : entry ∈ erase entries key) : entry ∈ entries := by
  induction entries with
  | nil => exact member
  | cons first rest ih =>
    rw [erase] at member
    split at member
    · exact List.mem_cons_of_mem _ member
    · rcases List.mem_cons.mp member with rfl | later
      · exact List.mem_cons_self
      · exact List.mem_cons_of_mem _ (ih later)

/-- Inserting entries keeps the keys distinct and brings in no others. -/
theorem foldl_insert (entries : List (String × α)) {built : Keyed α} (distinct : Distinct built) :
    Distinct (entries.foldl (fun built entry => insert built entry.1 entry.2) built) ∧
      ∀ entry ∈ entries.foldl (fun built entry => insert built entry.1 entry.2) built,
        entry ∈ built ∨ entry ∈ entries := by
  induction entries generalizing built with
  | nil => exact ⟨distinct, fun _ member => .inl member⟩
  | cons first rest ih =>
    obtain ⟨stillDistinct, only⟩ := ih (distinct_insert distinct first.1 first.2)
    refine ⟨stillDistinct, fun entry member => ?_⟩
    rcases only entry member with inserted | later
    · rcases mem_of_mem_insert inserted with rfl | before
      · exact .inr List.mem_cons_self
      · exact .inl before
    · exact .inr (List.mem_cons_of_mem _ later)

theorem distinct_ofEntries (entries : List (String × α)) : Distinct (ofEntries entries) :=
  (foldl_insert entries distinct_nil).1

/-- Entries with distinct keys stay as they are. -/
theorem ofEntries_of_distinct {entries : Keyed α} (distinct : Distinct entries) :
    ofEntries entries = entries := by
  have added (built rest : Keyed α) (distinct : Distinct (built ++ rest)) :
      rest.foldl (fun built entry => insert built entry.1 entry.2) built = built ++ rest := by
    induction rest generalizing built with
    | nil => simp
    | cons entry rest ih =>
      have moved : Distinct ((built ++ [entry]) ++ rest) := by simpa using distinct
      have absent : entry.1 ∉ keys built := by
        simp only [Distinct, keys, List.map_append, List.nodup_append] at distinct
        intro member
        exact distinct.2.2 entry.1 member entry.1 (by simp) rfl
      rw [List.foldl_cons, insert_of_absent absent, ih _ moved]
      simp
  exact added [] entries distinct

theorem mem_of_mem_ofEntries {entries : List (String × α)} {entry : String × α}
    (member : entry ∈ ofEntries entries) : entry ∈ entries :=
  ((foldl_insert entries distinct_nil).2 entry member).resolve_left List.not_mem_nil

theorem get?_append (entries others : Keyed α) (key : String) :
    get? (entries ++ others) key = (get? entries key).or (get? others key) := by
  induction entries with
  | nil => rfl
  | cons entry rest ih =>
    simp only [List.cons_append, get?]
    split
    · rfl
    · exact ih

/-- A value found under a key is that of an entry. -/
theorem mem_of_get? {entries : Keyed α} {key : String} {value : α}
    (found : get? entries key = some value) : (key, value) ∈ entries := by
  induction entries with
  | nil => simp at found
  | cons entry rest ih =>
    simp only [get?] at found
    split at found
    · rename_i same
      simp only [Option.some.injEq] at found
      exact List.mem_cons.mpr (.inl (by rw [← same, ← found]))
    · exact List.mem_cons.mpr (.inr (ih found))

/-- Where keys are distinct, the value found under a key is that of any entry with it. -/
theorem get?_eq_some_iff {entries : Keyed α} (distinct : Distinct entries) {key : String}
    {value : α} : get? entries key = some value ↔ (key, value) ∈ entries := by
  refine ⟨mem_of_get?, fun member => ?_⟩
  induction entries with
  | nil => simp at member
  | cons entry rest ih =>
    have fresh : entry.1 ∉ keys rest := (List.nodup_cons.mp distinct).1
    simp only [get?]
    rcases List.mem_cons.mp member with rfl | later
    · simp
    · have other : entry.1 ≠ key := by
        rintro rfl
        exact fresh (List.mem_map.mpr ⟨_, later, rfl⟩)
      rw [if_neg other]
      exact ih (List.nodup_cons.mp distinct).2 later

theorem get?_eq_none_iff {entries : Keyed α} {key : String} :
    get? entries key = none ↔ key ∉ keys entries := by
  induction entries with
  | nil => simp [keys]
  | cons entry rest ih =>
    simp only [get?, keys, List.map_cons, List.mem_cons] at *
    by_cases same : entry.1 = key
    · simp [same]
    · simp [same, Ne.symm same, ih]

theorem get?_reverse_eq_none_iff {entries : Keyed α} {key : String} :
    get? entries.reverse key = none ↔ key ∉ keys entries := by
  rw [get?_eq_none_iff, keys, keys, List.map_reverse, List.mem_reverse]

theorem mem_keys_iff {entries : Keyed α} {key : String} :
    key ∈ keys entries ↔ ∃ value, get? entries key = some value := by
  rw [← Option.ne_none_iff_exists', Ne, get?_eq_none_iff, Classical.not_not]

theorem contains_iff {entries : Keyed α} {key : String} :
    contains entries key = true ↔ key ∈ keys entries := by
  rw [contains, Option.isSome_iff_exists, mem_keys_iff]

/-- There are no more keys than entries. -/
theorem length_le_of_subset_keys {names : List String} {entries : Keyed α} (nodup : names.Nodup)
    (listed : ∀ name ∈ names, name ∈ keys entries) : names.length ≤ entries.length := by
  simpa [keys] using nodup.length_le_of_subset listed

end Keyed

end DocSchema
