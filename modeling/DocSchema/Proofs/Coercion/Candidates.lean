import DocSchema.Proofs.Coercion.Steady
import Mathlib

/-!
# Which trial a union is settled by

A value that matches none of the alternatives of a union, and is named by none, is tried with all
of them. An outcome that matches its own alternative and no other one is a candidate. The search
keeps the candidate that dropped the fewest properties, the earliest of several, and may stop
early; what it keeps is what an exhaustive search would. Main statement: `settle_tried`.
-/

namespace DocSchema.Coercion

variable {set : SchemaSet} {alternatives : List Shape} {node : Node}

/-! ### Candidates -/

/-- Whether the outcome at a position matches the alternative at that position and no other. -/
structure CandidateAt (set : SchemaSet) (alternatives : List Shape) (outcomes : List Coerced)
    (position : Nat) (outcome : Coerced) : Prop where
  listed : outcomes[position]? = some outcome
  unique : ∀ other alternative, alternatives[other]? = some alternative →
    (Validation.isValid set outcome.node alternative = true ↔ other = position)

/-- Whether a candidate dropped the fewest properties, and fewer than those before it. -/
structure LeastLossy (set : SchemaSet) (alternatives : List Shape) (outcomes : List Coerced)
    (position : Nat) (outcome : Coerced) : Prop where
  candidate : CandidateAt set alternatives outcomes position outcome
  least : ∀ other rival, CandidateAt set alternatives outcomes other rival →
    dropped outcome ≤ dropped rival
  earliest : ∀ other rival, CandidateAt set alternatives outcomes other rival →
    other < position → dropped outcome < dropped rival

/-- Whether a search through some outcomes has chosen right. -/
def Chosen (set : SchemaSet) (alternatives : List Shape) (outcomes : List Coerced) :
    Option Coerced → Prop
  | none => ∀ position outcome, ¬CandidateAt set alternatives outcomes position outcome
  | some best => ∃ position, LeastLossy set alternatives outcomes position best

theorem isUnique_iff {alternative : Shape} {position : Nat}
    (found : alternatives[position]? = some alternative) :
    isUnique set alternatives alternative node = true ↔
      ∀ other shape, alternatives[other]? = some shape →
        (Validation.isValid set node shape = true ↔ other = position) := by
  -- Alternatives may be repeated, but no position is, so entries are told apart by it.
  have nodup : (matching set alternatives node).Nodup :=
    ((List.nodup_zipIdx_map_snd alternatives).of_map _).filter _
  have listed {shape : Shape} {other : Nat} : (shape, other) ∈ matching set alternatives node ↔
      alternatives[other]? = some shape ∧ Validation.isValid set node shape = true := by
    rw [mem_matching_iff, Validation.isValid_iff]
  rw [isUnique, Bool.and_eq_true, beq_iff_eq, List.length_eq_one_iff]
  constructor
  · rintro ⟨valid, only, single⟩ other shape stands
    have own : (alternative, position) ∈ matching set alternatives node := listed.mpr ⟨found, valid⟩
    constructor
    · intro also
      have member : (shape, other) ∈ matching set alternatives node := listed.mpr ⟨stands, also⟩
      rw [single, List.mem_singleton] at own member
      exact (Prod.mk.inj (member.trans own.symm)).2
    · rintro rfl
      cases found.symm.trans stands
      exact valid
  · intro unique
    have valid := (unique position alternative found).mpr rfl
    refine ⟨valid, (alternative, position), List.perm_singleton.mp ?_⟩
    rw [List.perm_ext_iff_of_nodup nodup (List.nodup_singleton _)]
    rintro ⟨shape, other⟩
    rw [listed, List.mem_singleton, Prod.mk.injEq]
    constructor
    · rintro ⟨stands, also⟩
      cases (unique other shape stands).mp also
      exact ⟨Option.some.inj (stands.symm.trans found), rfl⟩
    · rintro ⟨rfl, rfl⟩
      exact ⟨found, valid⟩

/-! ### Searching -/

/-- What the search keeps of the best candidate so far and the outcome of one more trial. -/
def keep (set : SchemaSet) (alternatives : List Shape) (alternative : Shape)
    (best : Option Coerced) (outcome : Coerced) : Option Coerced :=
  if isUnique set alternatives alternative outcome.node then some (lessLossy best outcome)
  else best

section Search

variable {outcomes : List Coerced} {best : Option Coerced} {alternative : Shape}

theorem CandidateAt.lt {position : Nat} {outcome : Coerced}
    (candidate : CandidateAt set alternatives outcomes position outcome) :
    position < outcomes.length :=
  (List.getElem?_eq_some_iff.mp candidate.listed).1

theorem candidateAt_append_iff {later : List Coerced} {position : Nat} {outcome : Coerced}
    (before : position < outcomes.length) :
    CandidateAt set alternatives (outcomes ++ later) position outcome ↔
      CandidateAt set alternatives outcomes position outcome := by
  have same : (outcomes ++ later)[position]? = outcomes[position]? :=
    List.getElem?_append_left before
  exact ⟨fun ⟨listed, unique⟩ => ⟨same.symm.trans listed, unique⟩,
    fun ⟨listed, unique⟩ => ⟨same.trans listed, unique⟩⟩

/-- One more outcome is a candidate if it is unique, and nothing else changes. -/
theorem candidateAt_snoc_iff {last rival : Coerced}
    (found : alternatives[outcomes.length]? = some alternative) {position : Nat} :
    CandidateAt set alternatives (outcomes ++ [last]) position rival ↔
      CandidateAt set alternatives outcomes position rival ∨
        position = outcomes.length ∧ rival = last ∧
          isUnique set alternatives alternative last.node = true := by
  rw [isUnique_iff found]
  constructor
  · intro candidate
    rcases Nat.lt_or_ge position outcomes.length with before | beyond
    · exact .inl ((candidateAt_append_iff before).mp candidate)
    · have bound := candidate.lt
      simp only [List.length_append, List.length_singleton] at bound
      have place : position = outcomes.length := by omega
      subst place
      have same : last = rival := by simpa using candidate.listed
      exact .inr ⟨rfl, same.symm, same ▸ candidate.unique⟩
  · rintro (candidate | ⟨rfl, rfl, unique⟩)
    · exact (candidateAt_append_iff candidate.lt).mpr candidate
    · exact ⟨by simp, unique⟩

/-- A choice stays right where there are the same candidates. -/
theorem chosen_congr {others : List Coerced}
    (same : ∀ position outcome, CandidateAt set alternatives outcomes position outcome ↔
      CandidateAt set alternatives others position outcome)
    (chosen : Chosen set alternatives outcomes best) : Chosen set alternatives others best := by
  cases best with
  | none => exact fun position outcome => mt (same position outcome).mpr (chosen position outcome)
  | some best =>
    obtain ⟨position, candidate, least, earliest⟩ := chosen
    exact ⟨position, (same _ _).mp candidate, fun other rival found =>
      least other rival ((same _ _).mpr found), fun other rival found =>
      earliest other rival ((same _ _).mpr found)⟩

/-- What the search keeps stays the right choice with one more trial. -/
theorem chosen_keep (chosen : Chosen set alternatives outcomes best)
    (found : alternatives[outcomes.length]? = some alternative) (last : Coerced) :
    Chosen set alternatives (outcomes ++ [last]) (keep set alternatives alternative best last) := by
  unfold keep
  split
  next unique =>
    have own : CandidateAt set alternatives (outcomes ++ [last]) outcomes.length last :=
      (candidateAt_snoc_iff found).mpr (.inr ⟨rfl, rfl, unique⟩)
    cases best with
    | none =>
      -- There was no candidate before.
      have only {position : Nat} {rival : Coerced}
          (candidate : CandidateAt set alternatives (outcomes ++ [last]) position rival) :
          position = outcomes.length ∧ rival = last := by
        rcases (candidateAt_snoc_iff found).mp candidate with earlier | ⟨place, same, -⟩
        · exact absurd earlier (chosen position rival)
        · exact ⟨place, same⟩
      refine ⟨outcomes.length, own, fun other rival candidate => ?_,
        fun other rival candidate before => ?_⟩
      · rw [(only candidate).2]
        exact Nat.le_refl _
      · exact absurd (only candidate).1 (Nat.ne_of_lt before)
    | some current =>
      obtain ⟨position, candidate, least, earliest⟩ := chosen
      rw [lessLossy]
      split
      next fewer =>
        refine ⟨outcomes.length, own, fun other rival candidate => ?_,
          fun other rival candidate before => ?_⟩
        · rcases (candidateAt_snoc_iff found).mp candidate with earlier | ⟨-, rfl, -⟩
          · exact Nat.le_of_lt (Nat.lt_of_lt_of_le fewer (least other rival earlier))
          · exact Nat.le_refl _
        · have earlier := (candidateAt_append_iff before).mp candidate
          exact Nat.lt_of_lt_of_le fewer (least other rival earlier)
      next more =>
        have first := candidate.lt
        refine ⟨position, (candidateAt_append_iff first).mpr candidate,
          fun other rival rivals => ?_, fun other rival rivals before => ?_⟩
        · rcases (candidateAt_snoc_iff found).mp rivals with earlier | ⟨-, rfl, -⟩
          · exact least other rival earlier
          · exact Nat.le_of_not_lt more
        · have earlier := (candidateAt_append_iff (Nat.lt_trans before first)).mp rivals
          exact earliest other rival earlier before
  next other =>
    refine chosen_congr (fun position rival => ?_) chosen
    rw [candidateAt_snoc_iff found]
    exact ⟨.inl, fun either => either.resolve_right fun ⟨_, _, unique⟩ => other unique⟩

/-- A choice that dropped nothing stays right whatever trials there are besides. -/
theorem chosen_append {current : Coerced} (chosen : Chosen set alternatives outcomes (some current))
    (lossless : dropped current = 0) (later : List Coerced) :
    Chosen set alternatives (outcomes ++ later) (some current) := by
  obtain ⟨position, candidate, least, earliest⟩ := chosen
  refine ⟨position, (candidateAt_append_iff candidate.lt).mpr candidate, fun other rival _ => ?_,
    fun other rival rivals before => ?_⟩
  · rw [lossless]
    exact Nat.zero_le _
  · exact earliest other rival
      ((candidateAt_append_iff (Nat.lt_trans before candidate.lt)).mp rivals) before

theorem dropped_lessLossy_le (best : Option Coerced) (candidate : Coerced) :
    dropped (lessLossy best candidate) ≤ dropped candidate := by
  unfold lessLossy
  split
  next => exact Nat.le_refl _
  next =>
    split
    next => exact Nat.le_refl _
    next more => exact Nat.le_of_not_lt more

end Search

/-! ### Trials -/

section Trials

variable {step : Step} {place : Place} {path : Path} {hops : Nat}

/-- The outcomes of trying alternatives one after another, each trial with the memory that the one
before it has left. -/
inductive Tried (set : SchemaSet) (step : Step) (place : Place) (path : Path) (hops : Nat)
    (node : Node) : List (Shape × Nat) → UnionMemory → List Coerced → Prop where
  | nil (memory : UnionMemory) : Tried set step place path hops node [] memory []
  | cons {alternative : Shape} {position : Nat} {rest : List (Shape × Nat)}
      {memory between : UnionMemory} {outcome : Coerced} {later : List Coerced}
      (first : trial set step (place.alternative position) path hops alternative node memory =
        some (outcome, between))
      (others : Tried set step place path hops node rest between later) :
      Tried set step place path hops node ((alternative, position) :: rest) memory
        (outcome :: later)

/-- The search through the alternatives that are left chooses right among all, although it may
stop before the last of them. -/
theorem tryAlternatives_chosen {head tail : List Shape} {memory : UnionMemory}
    {seen later : List Coerced} {best : Option Coerced}
    (whole : alternatives = head ++ tail) (counted : head.length = seen.length)
    (tried : Tried set step place path hops node (tail.zipIdx seen.length) memory later)
    (chosen : Chosen set alternatives seen best) :
    ∃ final after, tryAlternatives set step place alternatives path hops node best
        (tail.zipIdx seen.length) memory = some (final, after) ∧
      Chosen set alternatives (seen ++ later) final := by
  induction tail generalizing head memory seen later best with
  | nil =>
    cases tried
    exact ⟨best, memory, rfl, by rwa [List.append_nil]⟩
  | cons alternative rest ih =>
    rw [List.zipIdx_cons] at tried ⊢
    obtain _ | ⟨first, others⟩ := tried
    rename_i between outcome later
    -- The outcome is one more that has been seen.
    have longer : (seen ++ [outcome]).length = seen.length + 1 := List.length_append
    have appended : seen ++ [outcome] ++ later = seen ++ outcome :: later := by simp
    have found : alternatives[seen.length]? = some alternative := by simp [whole, ← counted]
    have kept := chosen_keep chosen found outcome
    rw [← longer] at others ⊢
    have next : alternatives = (head ++ [alternative]) ++ rest := by simp [whole]
    have goOn {best : Option Coerced} (kept : Chosen set alternatives (seen ++ [outcome]) best) :=
      ih next (by simp [counted]) others kept
    rw [tryAlternatives, first]
    dsimp only
    rw [appended] at goOn
    unfold keep at kept
    split
    next unique =>
      rw [if_pos unique] at kept
      split
      next lossless =>
        refine ⟨_, between, rfl, appended ▸ chosen_append kept ?_ later⟩
        exact Nat.le_zero.mp (lossless ▸ dropped_lessLossy_le best outcome)
      next => exact goOn kept
    next other =>
      rw [if_neg other] at kept
      exact goOn kept

theorem namedWithPosition?_eq_none (unnamed : Shape.named? alternatives node = none) :
    namedWithPosition? alternatives node = none := by
  unfold Shape.named? at unnamed
  unfold namedWithPosition?
  cases named : node.typeName? with
  | none => rfl
  | some typeName =>
    rw [named, Option.bind_some, List.find?_eq_none] at unnamed
    rw [Option.bind_some, List.find?_eq_none]
    rintro ⟨alternative, position⟩ member
    exact unnamed alternative (List.mem_of_getElem? (List.mem_zipIdx_iff_getElem?.mp member))

/-- A value that matches no alternative, and is named by none, becomes the outcome that an
exhaustive search through all trials would choose, and stays as it is if no outcome can be. -/
theorem settle_tried
    (unmatched : ∀ alternative ∈ alternatives, Validation.isValid set node alternative = false)
    (unnamed : Shape.named? alternatives node = none) {memory : UnionMemory}
    {outcomes : List Coerced}
    (tried : Tried set step place path hops node alternatives.zipIdx memory outcomes) :
    ∃ result after,
      settle set step place alternatives path hops node memory = some (result, after) ∧
      ((∀ position outcome, ¬CandidateAt set alternatives outcomes position outcome) ∧
          result = unchanged node ∨
        ∃ position, LeastLossy set alternatives outcomes position result) := by
  have none : matching set alternatives node = [] := by
    rw [matching, List.filter_eq_nil_iff]
    rintro ⟨alternative, position⟩ member
    have listed := List.mem_of_getElem? (List.mem_zipIdx_iff_getElem?.mp member)
    simp [unmatched alternative listed]
  have start : Chosen set alternatives [] Option.none := by
    rintro position outcome ⟨listed, -⟩
    cases listed
  obtain ⟨best, after, searched, chosen⟩ :=
    tryAlternatives_chosen (List.nil_append alternatives).symm rfl tried start
  refine ⟨best.getD (unchanged node), after, ?_, ?_⟩
  · have searched : tryAlternatives set step place alternatives path hops node .none
        alternatives.zipIdx memory = some (best, after) := searched
    simp only [settle, none, namedWithPosition?_eq_none unnamed, searched]
  · cases best with
    | none => exact .inl ⟨chosen, rfl⟩
    | some best => exact .inr chosen

/-! ### Two kinds of sheets -/

/-- A leaflet has a title, and a pamphlet has pages as well. -/
def leaflets : SchemaSet where
  root := "Leaflet"
  types := [("Leaflet", .ofSchema ⟨"Leaflet", none, .record
      [("type", ⟨.enum [.string "Leaflet"], none, [], none⟩),
        ("title", ⟨.scalar .string, none, [], none⟩)] ["type"] []⟩),
    ("Pamphlet", .ofSchema ⟨"Pamphlet", none, .record
      [("type", ⟨.enum [.string "Pamphlet"], none, [], none⟩),
        ("title", ⟨.scalar .string, none, [], none⟩),
        ("pages", ⟨.scalar .integer, none, [], none⟩)] ["type"] []⟩)]
  limit := SchemaSet.defaultLimit

/-- A coloured sheet of which it is not said what it is. -/
def untyped : Node :=
  .record [("title", .string "A"), ("pages", .integer 2), ("colour", .string "red")]

/-- As a leaflet it loses its pages and its colour, as a pamphlet its colour. -/
def untypedTrials : List Coerced :=
  [⟨.record [("type", .string "Leaflet"), ("title", .string "A")],
      [.unknownProperty "pages" [], .unknownProperty "colour" []], []⟩,
    ⟨.record [("type", .string "Pamphlet"), ("title", .string "A"), ("pages", .integer 2)],
      [.unknownProperty "colour" []], []⟩]

theorem untyped_least_lossy : ∃ result after,
    settle leaflets (coerce leaflets 4) .given [.ref "Leaflet", .ref "Pamphlet"] [] 0 untyped
        .blank = some (result, after) ∧
      ∃ position, LeastLossy leaflets [.ref "Leaflet", .ref "Pamphlet"] untypedTrials position
        result := by
  have leaflet : trial leaflets (coerce leaflets 4) (.alternative .given 0) [] 0 (.ref "Leaflet")
      untyped .blank = some (untypedTrials[0], .blank) := by cbv
  have pamphlet : trial leaflets (coerce leaflets 4) (.alternative .given 1) [] 0
      (.ref "Pamphlet") untyped .blank = some (untypedTrials[1], .blank) := by cbv
  have unmatched : ∀ alternative ∈ [Shape.ref "Leaflet", .ref "Pamphlet"],
      Validation.isValid leaflets untyped alternative = false := by
    simp only [List.forall_mem_cons]
    exact ⟨by cbv, by cbv, by simp⟩
  obtain ⟨result, after, settled, ⟨none, -⟩ | chosen⟩ :=
    settle_tried unmatched (by cbv) (.cons leaflet (.cons pamphlet (.nil _)))
  · have found : [Shape.ref "Leaflet", .ref "Pamphlet"][1]? = some (.ref "Pamphlet") := rfl
    exact absurd ⟨rfl, (isUnique_iff found).mp (by cbv)⟩ (none 1 untypedTrials[1])
  · exact ⟨result, after, settled, chosen⟩

end Trials

end DocSchema.Coercion
