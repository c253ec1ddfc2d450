import DocSchema.Proofs.Coercion.Nesting
import DocSchema.Proofs.Coercion.Simulation

/-!
# Coercion that comes to an end

A union hands its value on to its alternatives, and where an array is expected a single value is
put into one, so coercion may go on without ever going down in the value. The limit on unions
holds at one value only, and the item of a new array counts as another one. Main statements:
`coerceTree_halts`, coercion returns if no union type contains arrays of itself and no records are
filled in, and `coerce_endless`, it does not for a union type that is nothing but arrays of itself.
-/

namespace DocSchema

/-! ### Levels -/

namespace Shape

mutual

/-- How many arrays a value may be put into, one inside the other, on the way through a shape, if
it is known for named types. -/
def level (levels : String → Nat) : Shape → Nat
  | array items => items.level levels + 1
  | ref name => levels name
  | oneOf alternatives => levelAll levels alternatives
  | decode _ inner => inner.level levels
  | _ => 0

def levelAll (levels : String → Nat) : List Shape → Nat
  | [] => 0
  | alternative :: rest => max (alternative.level levels) (levelAll levels rest)

end

theorem level_le_levelAll (levels : String → Nat) {alternatives : List Shape}
    {alternative : Shape} (member : alternative ∈ alternatives) :
    alternative.level levels ≤ levelAll levels alternatives := by
  induction alternatives with
  | nil => cases member
  | cons first rest ih =>
    rw [levelAll]
    rcases List.mem_cons.mp member with rfl | later
    · exact Nat.le_max_left _ _
    · exact Nat.le_trans (ih later) (Nat.le_max_right _ _)

end Shape

/-- Whether no union type leads through more arrays than its level says. Then none contains arrays
of itself, though it may contain itself. -/
def SchemaSet.Layered (set : SchemaSet) (levels : String → Nat) : Prop :=
  ∀ name type alternatives alternative, set.find? name = some type →
    type.schema.body = .union alternatives → alternative ∈ alternatives →
    alternative.level levels ≤ levels name

namespace Coercion

variable {set : SchemaSet}

/-! ### Runs that halt -/

/-- Whether a run returns the same outcome whenever it is given enough fuel. -/
def Halts {α : Type} (run : Nat → Option (α × UnionMemory)) : Prop :=
  ∃ outcome after, Eventually Eq outcome after run

theorem Halts.now {α : Type} {run : Nat → Option (α × UnionMemory)} {outcome : α}
    {after : UnionMemory} (ran : ∀ fuel, run fuel = some (outcome, after)) : Halts run :=
  ⟨outcome, after, .now rfl ran⟩

theorem Halts.later {run : Nat → Option (Coerced × UnionMemory)}
    (halts : Halts fun fuel => run (fuel + 1)) : Halts run := by
  obtain ⟨outcome, after, ran⟩ := halts
  exact ⟨outcome, after, ran.later⟩

theorem coerceItems_halts
    {steps : Nat → Nat → Node → UnionMemory → Option (Coerced × UnionMemory)} {values : List Node}
    (each : ∀ position value memory, value ∈ values →
      Halts fun fuel => steps fuel position value memory) (position : Nat) (memory : UnionMemory) :
    Halts fun fuel => coerceItems (steps fuel) position values memory := by
  induction values generalizing position memory with
  | nil => exact .now fun _ => rfl
  | cons value rest ih =>
    obtain ⟨first, between, here⟩ := each position value memory List.mem_cons_self
    obtain ⟨others, last, later⟩ := ih (fun position other memory member =>
      each position other memory (List.mem_cons_of_mem _ member)) (position + 1) between
    exact ⟨_, last, here.bind (fun middle same => same ▸ later)
      fun fuel middle last stepped gathered =>
        coerceItems_cons_iff.mpr ⟨first, middle, others, stepped, gathered, rfl⟩⟩

theorem coerceFields_halts {type : TypeSchema} {path : Path}
    {steps : Nat → String → Property → Node → UnionMemory → Option (Coerced × UnionMemory)}
    {fields : List (String × Node)}
    (each : ∀ key property value memory, (key, value) ∈ fields →
      type.property? key = some property → Halts fun fuel => steps fuel key property value memory)
    (memory : UnionMemory) :
    Halts fun fuel => coerceFields type path (steps fuel) fields memory := by
  induction fields generalizing memory with
  | nil => exact .now fun _ => rfl
  | cons field rest ih =>
    obtain ⟨key, value⟩ := field
    have later := ih fun key property value memory member =>
      each key property value memory (List.mem_cons_of_mem _ member)
    cases declares : type.property? key with
    | none =>
      obtain ⟨others, last, ran⟩ := later memory
      exact ⟨_, last, ran.map fun fuel last gathered =>
        coerceFields_cons_iff.mpr (.dropped declares gathered)⟩
    | some property =>
      obtain ⟨first, between, here⟩ := each key property value memory List.mem_cons_self declares
      obtain ⟨others, last, ran⟩ := later between
      exact ⟨_, last, here.bind (fun middle same => same ▸ ran)
        fun fuel middle last stepped gathered =>
          coerceFields_cons_iff.mpr (.kept declares stepped gathered)⟩

section Union

variable {steps : Nat → Step} {place : Place} {alternatives : List Shape} {path : Path}
  {hops : Nat} {node : Node}

theorem trial_halts {alternative : Shape} {memory : UnionMemory}
    (tried : Halts fun fuel => steps fuel place alternative path hops
      (reshape set alternative path node).value memory) :
    Halts fun fuel => trial set (steps fuel) place path hops alternative node memory := by
  obtain ⟨coerced, after, ran⟩ := tried
  exact ⟨_, after, ran.map fun fuel last stepped => trial_iff.mpr ⟨coerced, stepped, rfl⟩⟩

theorem tryAlternatives_halts {untried : List (Shape × Nat)}
    (tried : ∀ alternative position memory, (alternative, position) ∈ untried →
      Halts fun fuel => steps fuel (place.alternative position) alternative path hops
        (reshape set alternative path node).value memory)
    (best : Option Coerced) (memory : UnionMemory) :
    Halts fun fuel =>
      tryAlternatives set (steps fuel) place alternatives path hops node best untried memory := by
  induction untried generalizing best memory with
  | nil => exact .now fun _ => rfl
  | cons first rest ih =>
    obtain ⟨alternative, position⟩ := first
    obtain ⟨candidate, between, here⟩ :=
      trial_halts (tried alternative position memory List.mem_cons_self)
    have later := ih fun other place memory member =>
      tried other place memory (List.mem_cons_of_mem _ member)
    -- The candidate is the same for all fuel that is enough, and so is the branch taken.
    cases unique : isUnique set alternatives alternative candidate.node with
    | true =>
      by_cases lossless : dropped candidate = 0
      · exact ⟨some (lessLossy best candidate), between, here.map fun fuel last ran =>
          tryAlternatives_cons_iff.mpr (.lossless ran unique lossless)⟩
      · obtain ⟨outcome, last, ran⟩ := later (some (lessLossy best candidate)) between
        exact ⟨outcome, last, here.bind (fun middle same => same ▸ ran)
          fun fuel middle last tried found =>
            tryAlternatives_cons_iff.mpr (.lossy tried unique lossless found)⟩
    | false =>
      obtain ⟨outcome, last, ran⟩ := later best between
      exact ⟨outcome, last, here.bind (fun middle same => same ▸ ran)
        fun fuel middle last tried found =>
          tryAlternatives_cons_iff.mpr (.refused tried unique found)⟩

section Settle

variable
  (within : ∀ alternative position memory, (alternative, position) ∈ alternatives.zipIdx →
    Halts fun fuel => steps fuel (place.alternative position) alternative path hops node memory)
  (tried : ∀ alternative position memory, (alternative, position) ∈ alternatives.zipIdx →
    Halts fun fuel => steps fuel (place.alternative position) alternative path hops
      (reshape set alternative path node).value memory)
  (memory : UnionMemory)

include within tried

theorem settle_halts :
    Halts fun fuel => settle set (steps fuel) place alternatives path hops node memory := by
  match matched : matching set alternatives node with
  | [] =>
    cases named : namedWithPosition? alternatives node with
    | some chosen =>
      obtain ⟨outcome, last, ran⟩ :=
        within chosen.1 chosen.2 memory (mem_zipIdx_of_named named)
      exact ⟨outcome, last, ran.map fun fuel last stepped =>
        settle_iff.mpr (.named matched named stepped)⟩
    | none =>
      obtain ⟨best, last, ran⟩ := tryAlternatives_halts tried none memory
      exact ⟨best.getD (unchanged node), last, ran.map fun fuel last found =>
        settle_iff.mpr (.searched matched named found)⟩
  | [(alternative, position)] =>
    obtain ⟨outcome, last, ran⟩ := within alternative position memory (mem_zipIdx_of_only matched)
    exact ⟨outcome, last, ran.map fun fuel last stepped => settle_iff.mpr (.only matched stepped)⟩
  | first :: second :: rest => exact .now fun _ => settle_several (by simp [matched])

/-- A union comes to an end if its alternatives do, for the value as it is and reshaped. -/
theorem coerceUnion_halts :
    Halts fun fuel => coerceUnion set (steps fuel) place alternatives path hops node memory := by
  -- A remembered outcome takes no fuel at all, and neither does remembering one.
  cases known : memory.known? (unionKey place alternatives path hops) node with
  | some outcome =>
    exact ⟨outcome, memory, .now rfl fun _ => coerceUnion_iff.mpr (.inl ⟨known, rfl⟩)⟩
  | none =>
    obtain ⟨outcome, last, ran⟩ := settle_halts within tried memory
    obtain ⟨_, rfl, enough, ran⟩ := ran
    exact ⟨outcome, last.remember (unionKey place alternatives path hops) node outcome, _, rfl,
      enough, fun fuel bound => coerceUnion_iff.mpr (.inr ⟨known, last, ran fuel bound, rfl⟩)⟩

end Settle

end Union

/-! ### Whole values -/

section Shapes

variable {place : Place} {path : Path} {hops : Nat} {node : Node} {memory : UnionMemory}

theorem array_halts {items : Shape}
    (each : ∀ position value memory, value ∈ itemsOf node →
      Halts fun fuel =>
        coerce set fuel place.items items (path.index position) 0 value memory) :
    Halts fun fuel => coerce set fuel place (.array items) path hops node memory := by
  obtain ⟨inside, last, ran⟩ := coerceItems_halts each 0 memory
  exact .later ⟨⟨.array inside.values, inside.warnings, inside.sites⟩, last,
    ran.map fun fuel last done => coerce_succ_iff.mpr (.array done)⟩

theorem record_halts {name : String} {type : CompiledType}
    (known : set.recordType? name = some type)
    (each : ∀ fields (target : CompiledType) key value (property : Property) memory,
      unwrapSingleton node = .record fields → (key, value) ∈ fields →
      target.schema.property? key = some property →
      Halts fun fuel => coerce set fuel (.property target.schema.name key) property.shape
        (path.property key) 0 value memory) :
    Halts fun fuel => coerce set fuel place (.ref name) path hops node memory := by
  cases unwrapped : unwrapSingleton node with
  | record fields =>
    obtain ⟨target, aimed⟩ := exists_recordTarget? known fields
    have gathered : Halts fun fuel => coerceFields target.schema path
        (fun key property value => coerce set fuel (.property target.schema.name key)
          property.shape (path.property key) 0 value) fields memory :=
      coerceFields_halts (fun key property value memory member =>
        each fields target key value property memory unwrapped member) memory
    obtain ⟨inside, last, ran⟩ := gathered
    exact .later ⟨⟨.record inside.values, inside.warnings, inside.sites⟩, last,
      ran.map fun fuel last done => coerce_succ_iff.mpr (.record known unwrapped aimed done)⟩
  | null | boolean value | integer value | number value | string text | array items =>
    exact .later (.now fun _ => coerce_succ_iff.mpr (.other known (by simp [unwrapped])))

theorem union_halts {name : String} {type : CompiledType} {alternatives : List Shape}
    (found : set.find? name = some type) (body : type.schema.body = .union alternatives)
    (settles : hops < set.limit → Halts fun fuel =>
      coerceUnion set (coerce set fuel) (.union name) alternatives path (hops + 1) node memory) :
    Halts fun fuel => coerce set fuel place (.ref name) path hops node memory := by
  apply Halts.later
  by_cases within : hops < set.limit
  · obtain ⟨outcome, last, ran⟩ := settles within
    exact ⟨outcome, last, ran.map fun fuel last done =>
      coerce_succ_iff.mpr (.union found body within done)⟩
  · exact .now fun _ => coerce_succ_iff.mpr (.beyond found body within)

end Shapes

theorem sizeOf_alternative {alternatives : List Shape} {alternative : Shape}
    (member : alternative ∈ alternatives) :
    sizeOf alternative < sizeOf (Shape.oneOf alternatives) := by
  have smaller := List.sizeOf_lt_of_mem member
  simp only [Shape.oneOf.sizeOf_spec]
  omega

/-- A part of a record nests records less deeply than the record does. At the same value an array
has a higher level than its items, a union type is entered only below the limit, and any other
shape is larger than what it leads to. -/
theorem coerce_halts {levels : String → Nat} (layered : set.Layered levels)
    (plain : set.FillsPlainly) (place : Place) (shape : Shape) (path : Path) (hops : Nat)
    (node : Node) (memory : UnionMemory) :
    Halts fun fuel => coerce set fuel place shape path hops node memory := by
  match shape with
  | .any | .scalar _ | .object | .enum _ => exact .later (.now fun _ => rfl)
  | .array items =>
    -- The item of a new array is the value itself, but the shape is one array lower.
    apply array_halts
    intro position value memory member
    have shallow := nesting_itemsOf member
    exact coerce_halts layered plain place.items items (path.index position) 0 value memory
  | .ref name =>
    cases found : set.find? name with
    | none =>
      exact .later (.now fun _ => coerce_succ_iff.mpr (.missing found))
    | some type =>
      cases body : type.schema.body with
      | record properties required aliases =>
        apply record_halts (SchemaSet.recordType?_eq_some_iff.mpr ⟨found, _, _, _, body⟩)
        intro fields target key value property memory unwrapped member declares
        -- The shape of the property is arbitrary, and so the record itself must count.
        have deeper : value.nesting < node.nesting :=
          Nat.lt_of_lt_of_le (Node.nesting_lt_of_mem_fields member)
            (unwrapped ▸ nesting_unwrapSingleton node)
        exact coerce_halts layered plain _ property.shape (path.property key) 0 value memory
      | union alternatives =>
        apply union_halts found body
        intro within
        apply coerceUnion_halts
        · intro alternative position memory member
          have low := layered name type alternatives alternative found body
            (List.fst_mem_of_mem_zipIdx member)
          exact coerce_halts layered plain _ alternative path (hops + 1) node memory
        · -- A trial starts from the reshaped value, which is larger but nests no more records.
          intro alternative position memory member
          have low := layered name type alternatives alternative found body
            (List.fst_mem_of_mem_zipIdx member)
          have shallow := nesting_reshape plain alternative path node
          exact coerce_halts layered plain _ alternative path (hops + 1) _ memory
  | .oneOf alternatives =>
    apply Halts.later
    apply coerceUnion_halts
    · intro alternative position memory member
      have low := Shape.level_le_levelAll levels (List.fst_mem_of_mem_zipIdx member)
      -- An inline union enters no union type, but it is larger than its alternatives.
      have smaller := sizeOf_alternative (List.fst_mem_of_mem_zipIdx member)
      exact coerce_halts layered plain _ alternative path hops node memory
    · intro alternative position memory member
      have low := Shape.level_le_levelAll levels (List.fst_mem_of_mem_zipIdx member)
      have smaller := sizeOf_alternative (List.fst_mem_of_mem_zipIdx member)
      have shallow := nesting_reshape plain alternative path node
      exact coerce_halts layered plain _ alternative path hops _ memory
  | .decode format inner =>
    cases coded : node.isString with
    | true =>
      obtain ⟨content, rfl⟩ := Validation.isString_iff.mp coded
      exact .later (.now fun _ => rfl)
    | false =>
      obtain ⟨outcome, last, ran⟩ :=
        coerce_halts layered plain place.inner inner path hops node memory
      exact .later ⟨outcome, last, ran.map fun _ _ done => (coerce_decode coded).trans done⟩
termination_by (node.nesting, shape.level levels, set.limit - hops, sizeOf shape)
decreasing_by
  · exact Prod.Lex.right' _ shallow (Prod.Lex.left _ _ (Nat.lt_succ_self _))
  · exact Prod.Lex.left _ _ deeper
  · have nearer : set.limit - (hops + 1) < set.limit - hops := by omega
    exact Prod.Lex.right _ (Prod.Lex.right' _ low (Prod.Lex.left _ _ nearer))
  · have nearer : set.limit - (hops + 1) < set.limit - hops := by omega
    exact Prod.Lex.right' _ shallow (Prod.Lex.right' _ low (Prod.Lex.left _ _ nearer))
  · exact Prod.Lex.right _ (Prod.Lex.right' _ low (Prod.Lex.right _ smaller))
  · exact Prod.Lex.right' _ shallow (Prod.Lex.right' _ low (Prod.Lex.right _ smaller))
  · exact Prod.Lex.right _ (Prod.Lex.right _ (Prod.Lex.right _ (by
      simp only [Shape.decode.sizeOf_spec]; omega)))

/-- Over a layered set that fills in no records coercion returns, however its union types contain
each other. -/
theorem coerceTree_halts {levels : String → Nat} (layered : set.Layered levels)
    (plain : set.FillsPlainly) (node : Node) (shape : Shape) (path : Path) :
    ∃ enough coerced, ∀ fuel, enough ≤ fuel →
      coerceTree set fuel node shape path = some coerced := by
  obtain ⟨outcome, _, _, _, enough, ran⟩ := coerce_halts layered plain .given shape path 0
    (reshape set shape path node).value .empty
  refine ⟨enough, { outcome with
    warnings := (reshape set shape path node).warnings ++ outcome.warnings }, fun fuel bound => ?_⟩
  simp [coerceTree, coerceTreeWith, coerceReshaped, ran fuel bound]

theorem library_layered : SchemaSet.library.Layered fun _ => 0 := by
  intro name type alternatives alternative found body member
  rcases SchemaSet.find?_library found with ⟨rfl, rfl⟩ | ⟨rfl, rfl⟩
  · cases body
  · cases body
    rcases List.mem_cons.mp member with rfl | member
    · exact Nat.le_refl _
    · cases List.mem_singleton.mp member
      exact Nat.le_refl _

theorem library_fillsPlainly : SchemaSet.library.FillsPlainly := by
  intro name type key property known needed declares
  obtain ⟨found, properties, required, aliases, body⟩ := SchemaSet.recordType?_eq_some_iff.mp known
  rcases SchemaSet.find?_library found with ⟨rfl, rfl⟩ | ⟨rfl, rfl⟩
  · have listed : key = "type" ∨ key = "title" := by
      simpa [TypeSchema.required, SchemaSet.book] using needed
    rcases listed with rfl | rfl
    · cases declares
      simp [emptyValue, Node.nesting]
    · cases declares
      simp [emptyValue, Node.nesting]
  · cases body

theorem coerceTree_halts_library : ∃ enough coerced, ∀ fuel, enough ≤ fuel →
    coerceTree SchemaSet.library fuel (.array [.string "Emma", .record [("year", .string "1815")]])
      (.ref "Entry") [] = some coerced :=
  coerceTree_halts library_layered library_fillsPlainly _ _ _

/-! ### Arrays without end -/

/-- A union type that is nothing but arrays of itself is entered anew with every array that a
value is put into, and no outcome is ever remembered. -/
theorem coerce_endless {name : String} {type : CompiledType} (found : set.find? name = some type)
    (body : type.schema.body = .union [.array (.ref name)]) (room : 0 < set.limit) {node : Node}
    (plain : node.IsPlain) (fuel : Nat) (place : Place) (path : Path) :
    coerce set fuel place (.ref name) path 0 node .empty = none := by
  induction fuel using Nat.strongRecOn generalizing place path with
  | ind fuel ih =>
    -- Nothing matches, no discriminator names an alternative, and only the trial is left.
    have unmatched : matching set [.array (.ref name)] node = [] := by
      refine List.eq_nil_iff_forall_not_mem.mpr fun alternative listed => ?_
      obtain ⟨member, valid⟩ := List.mem_filter.mp listed
      have only := List.mem_singleton.mp (List.fst_mem_of_mem_zipIdx member)
      rw [only, Validation.isValid_iff, Validation.fits_array] at valid
      obtain ⟨values, rfl, _⟩ := valid
      exact plain
    have unnamed : namedWithPosition? [.array (.ref name)] node = none := by
      cases node with
      | record fields => exact plain.elim
      | _ => rfl
    have alone : itemsOf node = [node] := by
      cases node with
      | array values => exact plain.elim
      | _ => rfl
    have left : (reshape set (.array (.ref name)) path node).value = node := by
      rw [reshape.eq_def]
      cases node with
      | array values => exact plain.elim
      | record fields => exact plain.elim
      | _ => rfl
    match fuel, ih with
    | 0, _ => rfl
    | 1, _ =>
      simp [coerce, found, body, room, coerceUnion, UnionMemory.known?_empty, settle, unmatched,
        unnamed, tryAlternatives, trial]
    | fuel + 2, ih =>
      -- Two steps later the same value is coerced towards the same type, one array deeper.
      have again := ih fuel (by omega) (Place.alternative (.union name) 0).items (path.index 0)
      simp [coerce, found, body, room, coerceUnion, UnionMemory.known?_empty, settle, unmatched,
        unnamed, tryAlternatives, trial, left, alone, coerceItems, again]

/-- Lists, all of whose items are lists. -/
def lists : SchemaSet where
  root := "List"
  types := [("List", .ofSchema ⟨"List", none, .union [.array (.ref "List")]⟩)]
  limit := SchemaSet.defaultLimit

/-- However much fuel there is, a text does not become a list of lists. -/
theorem coerceTree_lists_endless :
    ¬∃ fuel coerced, coerceTree lists fuel (.string "x") (.ref "List") [] = some coerced := by
  rintro ⟨fuel, coerced, ran⟩
  have left : (reshape lists (.ref "List") [] (.string "x")).value = .string "x" := by
    rw [reshape.eq_def]
  have endless : coerce lists fuel .given (.ref "List") [] 0 (.string "x") .empty = none :=
    coerce_endless rfl rfl (by decide) (by trivial) fuel .given []
  simp [coerceTree, coerceTreeWith, coerceReshaped, left, endless] at ran

end Coercion

end DocSchema
