import DocSchema.Proofs.Coercion.Moving
import DocSchema.Proofs.Coercion.Parts
import DocSchema.Proofs.Coercion.Simulation

/-!
# Items of arrays

All items of an array are coerced in one run, each with the memory that those before it have left.
A run files outcomes at its path and below, and no item stands below another one, so every item
meets a memory that holds nothing for it and becomes what it becomes alone. Main statements:
`coerce_sameOutside`, `coerce_alone` and `coerceTree_array`.
-/

namespace DocSchema.Coercion

open UnionMemory (SameOutside)

variable {set : SchemaSet}

/-! ### What a run files -/

/-- Whether all that a step files is filed at its path and below. -/
def FilesBelow (step : Step) : Prop :=
  ∀ place shape path hops node memory coerced after,
    step place shape path hops node memory = some (coerced, after) →
    SameOutside path memory after

theorem coerceUnion_sameOutside {step : Step} (filesBelow : FilesBelow step) {place : Place}
    {alternatives : List Shape} {path : Path} {hops : Nat} {node : Node}
    {memory after : UnionMemory} {coerced : Coerced}
    (returned : coerceUnion set step place alternatives path hops node memory =
      some (coerced, after)) : SameOutside path memory after := by
  suffices result : True ∧ SameOutside path memory after from result.2
  apply coerceUnion_returned trivial ?_ ?_ ?_ ?_ (.refl path memory) returned
  · intro alternative position between coerced after _ same ran
    exact ⟨trivial, same.trans (filesBelow _ _ _ _ _ _ _ _ ran)⟩
  · intro alternative position between coerced after _ same ran
    obtain ⟨outcome, stepped, -⟩ := trial_iff.mp ran
    exact ⟨trivial, same.trans (filesBelow _ _ _ _ _ _ _ _ stepped)⟩
  · intros
    trivial
  · intro between outcome same _
    exact same.trans (.remember (unionKey place alternatives path hops) node outcome between)

/-- The induction is on the fuel. What is filed for a part is filed below the path of the part, and
so below that of the whole. -/
theorem coerce_sameOutside (set : SchemaSet) (fuel : Nat) : FilesBelow (coerce set fuel) := by
  induction fuel with
  | zero =>
    intro place shape path hops node memory coerced after ran
    cases ran
  | succ fuel ih =>
    intro place shape path hops node memory coerced after ran
    cases coerce_succ_iff.mp ran with
    | any | scalar | object | enum | missing | beyond | other | text => exact .refl path memory
    | @array _ inside _ parts =>
      suffices result : (∀ _ ∈ inside.values, True) ∧ SameOutside path memory after from result.2
      apply coerceItems_returned ?_ (.refl path memory) parts
      intro position value between coerced after _ same ran
      exact ⟨trivial, same.trans (ih _ _ _ _ _ _ _ _ ran).widen⟩
    | record _ _ _ parts =>
      refine (coerceFields_returned (fun _ _ _ _ => True) ?_ (.refl path memory) parts).2
      intro key property value between coerced after _ _ same ran
      exact ⟨trivial, same.trans (ih _ _ _ _ _ _ _ _ ran).widen⟩
    | union _ _ _ ran | oneOf ran => exact coerceUnion_sameOutside ih ran
    | decode _ ran => exact ih _ _ _ _ _ _ _ _ ran

/-! ### Values alone -/

/-- Where nothing has been settled at a path and below, a value becomes what it becomes alone,
whatever has been settled elsewhere and wherever its shape is written. -/
theorem coerce_alone (set : SchemaSet) {outer : Place} (separates : outer.Separates) (fuel : Nat)
    (shape : Shape) (path : Path) (node : Node) {memory : UnionMemory} (keeps : memory ≠ .blank)
    (fresh : memory.Fresh path) :
    (coerce set fuel outer shape path 0 node memory = none ∧
      coerceReshaped set fuel .empty node shape path = none) ∨
    ∃ outcome after, coerce set fuel outer shape path 0 node memory = some (outcome, after) ∧
      coerceReshaped set fuel .empty node shape path = some outcome ∧
      after ≠ .blank ∧ SameOutside path memory after := by
  rw [coerceReshaped_under, coerceReshaped]
  obtain ⟨root, here⟩ | ⟨outcome, _, after, root, here, moved⟩ :=
    (coerce_elsewhere set separates fuel shape node keeps fresh).cases
  · rw [root]
    exact .inl ⟨here, rfl⟩
  · rw [root]
    have filed := coerce_sameOutside set fuel _ _ _ _ _ _ _ _ here
    exact .inr ⟨outcome.under path, after, here, rfl, moved.alsoKeeps, filed⟩

/-! ### Items -/

/-- The outcomes of the items of an array, one after the other. -/
def Gathered.ofItems (outcomes : List Coerced) : Gathered Node :=
  ⟨outcomes.map (·.node), outcomes.flatMap (·.warnings), outcomes.flatMap (·.sites)⟩

/-- The induction is on the items. It carries that the memory holds nothing yet for those that
follow. -/
theorem coerceItems_alone (set : SchemaSet) {outer : Place} (separates : outer.Separates)
    (fuel : Nat) (shape : Shape) (path : Path) (position : Nat) (values : List Node)
    {memory : UnionMemory} (keeps : memory ≠ .blank)
    (fresh : ∀ index, position ≤ index → memory.Fresh (path.index index))
    (gathered : Gathered Node) :
    (∃ after, coerceItems (fun position value =>
        coerce set fuel outer shape (path.index position) 0 value) position values memory =
      some (gathered, after)) ↔
    ∃ outcomes, List.Forall₂ (fun item outcome =>
        coerceReshaped set fuel .empty item.1 shape (path.index item.2) = some outcome)
        (values.zipIdx position) outcomes ∧ gathered = .ofItems outcomes := by
  induction values generalizing position memory gathered with
  | nil =>
    simp only [coerceItems, List.zipIdx_nil, List.forall₂_nil_left_iff, exists_eq_left]
    constructor
    · rintro ⟨after, same⟩
      cases same
      rfl
    · rintro rfl
      exact ⟨memory, rfl⟩
  | cons value rest ih =>
    simp only [coerceItems, List.zipIdx_cons, List.forall₂_cons_left_iff]
    obtain ⟨ran, alone⟩ | ⟨first, between, ran, alone, stillKeeps, same⟩ :=
      coerce_alone set separates fuel shape (path.index position) value keeps
        (fresh position (Nat.le_refl position))
    · simp [ran, alone]
    -- What was filed for the first item stands at its position, so the others meet none of it.
    have others := ih (position + 1) stillKeeps (UnionMemory.fresh_later fresh same)
    simp only [ran, alone]
    constructor
    · rintro ⟨after, returned⟩
      split at returned
      next => cases returned
      next later last more =>
        cases returned
        obtain ⟨outcomes, each, rfl⟩ := (others later).mp ⟨after, more⟩
        exact ⟨first :: outcomes, ⟨first, outcomes, rfl, each, rfl⟩, rfl⟩
    · rintro ⟨_, ⟨_, outcomes, same, each, rfl⟩, rfl⟩
      cases same
      obtain ⟨after, more⟩ := (others (.ofItems outcomes)).mpr ⟨outcomes, each, rfl⟩
      rw [more]
      exact ⟨after, rfl⟩

/-- Reshaping an array reshapes every item where it stands. -/
theorem reshapeItems_eq (items : Shape) (path : Path) (position : Nat) (values : List Node) :
    reshapeItems set items path position values =
      ⟨(values.zipIdx position).map fun item =>
          (reshape set items (path.index item.2) item.1).value,
        (values.zipIdx position).flatMap fun item =>
          (reshape set items (path.index item.2) item.1).warnings⟩ := by
  induction values generalizing position with
  | nil =>
    rw [reshapeItems]
    rfl
  | cons value rest ih =>
    rw [reshapeItems, ih]
    rfl

theorem zipIdx_map_zipIdx {α β : Type} (change : α × Nat → β) (position : Nat) (values : List α) :
    ((values.zipIdx position).map change).zipIdx position =
      (values.zipIdx position).map fun item => (change item, item.2) := by
  induction values generalizing position with
  | nil => rfl
  | cons value rest ih => simp only [List.zipIdx_cons, List.map_cons, ih]

/-! ### Arrays -/

/-- The warnings of a tree are those of reshaping it and then those of coercing what it was
reshaped to. -/
theorem coerceTree_eq_some_iff {fuel : Nat} {node : Node} {shape : Shape} {path : Path}
    {outcome : Coerced} :
    coerceTree set fuel node shape path = some ⟨outcome.node,
        (reshape set shape path node).warnings ++ outcome.warnings, outcome.sites⟩ ↔
      coerceReshaped set fuel .empty (reshape set shape path node).value shape path =
        some outcome := by
  have injective : Function.Injective fun coerced : Coerced =>
      (⟨coerced.node, (reshape set shape path node).warnings ++ coerced.warnings,
        coerced.sites⟩ : Coerced) := by
    rintro ⟨_, _, _⟩ ⟨_, _, _⟩ same
    simpa using same
  exact (Option.map_injective injective).eq_iff' rfl

/-- Of a reshaped array every item is coerced as it is alone. -/
theorem coerceReshaped_array (fuel : Nat) (values : List Node) (shape : Shape) (path : Path)
    (whole : Coerced) :
    coerceReshaped set (fuel + 1) .empty (.array values) (.array shape) path = some whole ↔
      ∃ outcomes, List.Forall₂ (fun item outcome =>
          coerceReshaped set fuel .empty item.1 shape (path.index item.2) = some outcome)
          values.zipIdx outcomes ∧
        whole = ⟨.array (outcomes.map (·.node)), outcomes.flatMap (·.warnings),
          outcomes.flatMap (·.sites)⟩ := by
  have items := coerceItems_alone set Place.separates_items fuel shape path 0 values
    UnionMemory.empty_ne_blank (fun index _ => UnionMemory.fresh_empty (path.index index))
  simp only [coerceReshaped, coerce, itemsOf]
  constructor
  · intro returned
    split at returned
    next => cases returned
    next inside after ran =>
      cases returned
      obtain ⟨outcomes, each, rfl⟩ := (items inside).mp ⟨after, ran⟩
      exact ⟨outcomes, each, rfl⟩
  · rintro ⟨outcomes, each, rfl⟩
    obtain ⟨after, ran⟩ := (items (.ofItems outcomes)).mpr ⟨outcomes, each, rfl⟩
    rw [ran]
    rfl

/-- With one unit of fuel for the array itself, its items have what is left. -/
theorem coerceTree_array_succ (fuel : Nat) (values : List Node) (shape : Shape) (path : Path)
    (whole : Coerced) :
    coerceTree set (fuel + 1) (.array values) (.array shape) path = some whole ↔
      ∃ outcomes : List Coerced,
        List.Forall₂ (fun item outcome =>
          coerceTree set fuel item.1 shape (path.index item.2) = some ⟨outcome.node,
            (reshape set shape (path.index item.2) item.1).warnings ++ outcome.warnings,
            outcome.sites⟩) values.zipIdx outcomes ∧
        whole = ⟨.array (outcomes.map (·.node)),
          values.zipIdx.flatMap (fun item =>
            (reshape set shape (path.index item.2) item.1).warnings) ++
            outcomes.flatMap (·.warnings),
          outcomes.flatMap (·.sites)⟩ := by
  simp only [coerceTree_eq_some_iff]
  rw [coerceTree, coerceTreeWith, reshape, reshapeItems_eq]
  simp only [Option.map_eq_some_iff, coerceReshaped_array, zipIdx_map_zipIdx,
    List.forall₂_map_left_iff]
  constructor
  · rintro ⟨_, ⟨outcomes, each, rfl⟩, rfl⟩
    exact ⟨outcomes, each, rfl⟩
  · rintro ⟨outcomes, each, rfl⟩
    exact ⟨_, ⟨outcomes, each, rfl⟩, rfl⟩

/-- Fuel that is enough for every item. -/
theorem exists_fuel_items {shape : Shape} {path : Path} {items : List (Node × Nat)}
    {outcomes : List Coerced} {change : Node × Nat → Coerced → Coerced}
    (each : List.Forall₂ (fun item outcome => ∃ fuel,
      coerceTree set fuel item.1 shape (path.index item.2) = some (change item outcome))
      items outcomes) :
    ∃ fuel, List.Forall₂ (fun item outcome =>
      coerceTree set fuel item.1 shape (path.index item.2) = some (change item outcome))
      items outcomes := by
  suffices enough : ∃ least, ∀ fuel, least ≤ fuel → List.Forall₂ (fun item outcome =>
      coerceTree set fuel item.1 shape (path.index item.2) = some (change item outcome))
      items outcomes by
    obtain ⟨least, returned⟩ := enough
    exact ⟨least, returned least (Nat.le_refl least)⟩
  induction each with
  | nil => exact ⟨0, fun fuel _ => .nil⟩
  | cons first _ ih =>
    obtain ⟨fuel, ran⟩ := first
    obtain ⟨least, returned⟩ := coerceTree_eventually ran
    obtain ⟨later, others⟩ := ih
    -- More fuel than one item needs changes nothing for it, so the largest need is enough.
    refine ⟨max least later, fun fuel bound => ?_⟩
    exact .cons (returned fuel (by omega)) (others fuel (by omega))

/-- The items of an array are coerced as each of them is alone. An array is coerced exactly if all
of them are, to the array of what they become. It is warned of what reshaping did to the items,
one after the other, and then of what coercing them did, and their sites are noted in order. -/
theorem coerceTree_array (set : SchemaSet) (values : List Node) (shape : Shape) (path : Path)
    (whole : Coerced) :
    (∃ fuel, coerceTree set fuel (.array values) (.array shape) path = some whole) ↔
      ∃ outcomes : List Coerced,
        List.Forall₂ (fun item outcome => ∃ fuel,
          coerceTree set fuel item.1 shape (path.index item.2) = some ⟨outcome.node,
            (reshape set shape (path.index item.2) item.1).warnings ++ outcome.warnings,
            outcome.sites⟩) values.zipIdx outcomes ∧
        whole = ⟨.array (outcomes.map (·.node)),
          values.zipIdx.flatMap (fun item =>
            (reshape set shape (path.index item.2) item.1).warnings) ++
            outcomes.flatMap (·.warnings),
          outcomes.flatMap (·.sites)⟩ := by
  constructor
  · rintro ⟨fuel, ran⟩
    cases fuel with
    | zero => cases ran
    | succ fuel =>
      obtain ⟨outcomes, each, same⟩ := (coerceTree_array_succ fuel values shape path whole).mp ran
      exact ⟨outcomes, each.imp fun item outcome returned => ⟨fuel, returned⟩, same⟩
  · rintro ⟨outcomes, each, same⟩
    obtain ⟨fuel, all⟩ := exists_fuel_items each
    exact ⟨fuel + 1, (coerceTree_array_succ fuel values shape path whole).mpr ⟨outcomes, all, same⟩⟩

end DocSchema.Coercion
