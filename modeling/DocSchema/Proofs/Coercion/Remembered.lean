import DocSchema.Proofs.Coercion.Nesting
import DocSchema.Proofs.Coercion.Parts
import DocSchema.Proofs.Coercion.Simulation
import Mathlib

/-!
# What remembering outcomes changes

A remembered outcome is taken for every value that equals the one it was found for, and equal
values may have their keys in another order or zeros of another sign. If equal values that are
asked for under one key are the same, coercion has the same outcomes with a memory and without
one: `coerceTree_iff_afresh`. So it is with trees without records: `toldApart_of_recordless`.
-/

namespace DocSchema

/-- Whether every type of a set bears the name it has there. -/
def SchemaSet.Named (set : SchemaSet) : Prop :=
  ∀ name type, set.find? name = some type → type.schema.name = name

theorem SchemaSet.Built.named {set : SchemaSet} (built : set.Built) : set.Named :=
  fun _ _ known => (built.wellFormed known).named

namespace Coercion

variable {set : SchemaSet} {given : Shape} {start : Path} {value : Node}

/-! ### What a run may ask for -/

/-- Whether coercing a value towards the given shape may lead to another call: that one is in
every closed set of calls that contains the first one. -/
def Visited (set : SchemaSet) (given : Shape) (start : Path) (value : Node) (place : Place)
    (shape : Shape) (path : Path) (hops : Nat) (node : Node) : Prop :=
  ∀ allowed asked, Closed set allowed asked → allowed .given given start 0 value →
    allowed place shape path hops node

/-- Whether coercing a value towards the given shape may lead to settling a value. -/
def Asked (set : SchemaSet) (given : Shape) (start : Path) (value : Node) (place : Place)
    (alternatives : List Shape) (path : Path) (hops : Nat) (node : Node) : Prop :=
  ∀ allowed asked, Closed set allowed asked → allowed .given given start 0 value →
    asked place alternatives path hops node

theorem visited_given : Visited set given start value .given given start 0 value :=
  fun _ _ _ first => first

theorem closed_asked :
    Closed set (Visited set given start value) (Asked set given start value) where
  item _ _ _ _ _ _ _ visited found _ _ closed first :=
    closed.item _ _ _ _ _ _ _ (visited _ _ closed first) found
  field _ _ _ _ _ _ _ _ _ _ _ visited known unwrapped aimed member declares _ _ closed first :=
    closed.field _ _ _ _ _ _ _ _ _ _ _ (visited _ _ closed first) known unwrapped aimed member
      declares
  inner _ _ _ _ _ _ visited coded _ _ closed first :=
    closed.inner _ _ _ _ _ _ (visited _ _ closed first) coded
  union _ _ _ _ _ _ _ visited found body within _ _ closed first :=
    closed.union _ _ _ _ _ _ _ (visited _ _ closed first) found body within
  oneOf _ _ _ _ _ visited _ _ closed first := closed.oneOf _ _ _ _ _ (visited _ _ closed first)
  only _ _ _ _ _ _ _ asks only _ _ closed first :=
    closed.only _ _ _ _ _ _ _ (asks _ _ closed first) only
  named _ _ _ _ _ _ _ asks none named _ _ closed first :=
    closed.named _ _ _ _ _ _ _ (asks _ _ closed first) none named
  tried _ _ _ _ _ _ _ asks none unnamed member _ _ closed first :=
    closed.tried _ _ _ _ _ _ _ (asks _ _ closed first) none unnamed member

/-- A shape is only met at the place where it is written. -/
theorem closed_written (named : set.Named) :
    Closed set (fun place shape _ _ _ => place.shape? set given = some shape)
      (fun place alternatives _ _ _ => ∃ shape, place.shape? set given = some shape ∧
        shape.alternativesIn? set = some alternatives) where
  item place items path hops node position value written _ := by simp [Place.shape?, written]
  field place name path hops node type fields target key value property _ _ _ aimed _ declares := by
    obtain ⟨other, known⟩ := recordTarget?_known aimed
    have found := (SchemaSet.recordType?_eq_some_iff.mp known).1
    rw [← named other target found] at found
    simp [Place.shape?, found, declares]
  inner place format inner path hops node written _ := by simp [Place.shape?, written]
  union place name path hops node type alternatives _ found body _ :=
    ⟨.ref name, rfl, by simp [Shape.alternativesIn?, found, TypeSchema.alternatives?, body]⟩
  oneOf place alternatives path hops node written := ⟨_, written, rfl⟩
  only place alternatives path hops node alternative position asks only := by
    obtain ⟨shape, written, stands⟩ := asks
    have found := List.mem_zipIdx_iff_getElem?.mp (mem_zipIdx_of_only only)
    exact shape?_alternative written stands found
  named place alternatives path hops node alternative position asks _ named := by
    obtain ⟨shape, written, stands⟩ := asks
    have found := List.mem_zipIdx_iff_getElem?.mp (mem_zipIdx_of_named named)
    exact shape?_alternative written stands found
  tried place alternatives path hops node alternative position asks _ _ member := by
    obtain ⟨shape, written, stands⟩ := asks
    exact shape?_alternative written stands (List.mem_zipIdx_iff_getElem?.mp member)

theorem Asked.written (named : set.Named) {place : Place} {alternatives : List Shape} {path : Path}
    {hops : Nat} {node : Node}
    (asks : Asked set given start value place alternatives path hops node) :
    ∃ shape, place.shape? set given = some shape ∧ shape.alternativesIn? set = some alternatives :=
  asks _ _ (closed_written named) rfl

/-! ### Truthful memories -/

/-- Whether settling a value without a memory comes to an outcome. -/
def SettledAfresh (set : SchemaSet) (place : Place) (alternatives : List Shape) (path : Path)
    (hops : Nat) (node : Node) (outcome : Coerced) : Prop :=
  Eventually Eq outcome .blank fun fuel =>
    settle set (coerce set fuel) place alternatives path hops node .blank

/-- Whether every known outcome is one that a value equal to this one, which may be asked for under
the same key, has without a memory. -/
def Truthful (set : SchemaSet) (asked : Place → List Shape → Path → Nat → Node → Prop)
    (memory : UnionMemory) : Prop :=
  ∀ key node outcome, memory.known? key node = some outcome →
    ∃ place alternatives input, asked place alternatives key.path key.hops input ∧
      key = unionKey place alternatives key.path key.hops ∧ input.equals node = true ∧
      SettledAfresh set place alternatives key.path key.hops input outcome

section Truthful

variable {asked : Place → List Shape → Path → Nat → Node → Prop} {memory : UnionMemory}
  {place : Place} {alternatives : List Shape} {path : Path} {hops : Nat} {node : Node}
  {outcome : Coerced}

theorem truthful_empty : Truthful set asked .empty := by
  intro key node outcome known
  rw [UnionMemory.known?_empty] at known
  cases known

theorem Truthful.remember (truthful : Truthful set asked memory)
    (asks : asked place alternatives path hops node)
    (afresh : SettledAfresh set place alternatives path hops node outcome) :
    Truthful set asked (memory.remember (unionKey place alternatives path hops) node outcome) := by
  intro key other found known
  rcases UnionMemory.known?_remember known with before | ⟨rfl, equal, rfl⟩
  · exact truthful key other found before
  · exact ⟨place, alternatives, node, asks, rfl, equal, afresh⟩

end Truthful

/-- Whether equal values that may be asked for under one key are the same. -/
def ToldApart (set : SchemaSet) (given : Shape) (start : Path) (value : Node) : Prop :=
  ∀ place alternatives other others path hops first second,
    Asked set given start value place alternatives path hops first →
    Asked set given start value other others path hops second →
    unionKey place alternatives path hops = unionKey other others path hops →
    first.equals second = true → first = second

/-- A value stays as it is where there are no alternatives. -/
theorem settle_nil (set : SchemaSet) (step : Step) (place : Place) (path : Path) (hops : Nat)
    (node : Node) (memory : UnionMemory) :
    settle set step place [] path hops node memory = some (unchanged node, memory) := by
  have unnamed : namedWithPosition? [] node = none := by
    cases named : node.typeName? <;> simp [namedWithPosition?, named]
  simp [settle, matching, unnamed, tryAlternatives]

theorem Truthful.afresh (named : set.Named) (apart : ToldApart set given start value)
    {memory : UnionMemory} (truthful : Truthful set (Asked set given start value) memory)
    {place : Place} {alternatives : List Shape} {path : Path} {hops : Nat} {node : Node}
    (asks : Asked set given start value place alternatives path hops node) {outcome : Coerced}
    (known : memory.known? (unionKey place alternatives path hops) node = some outcome) :
    SettledAfresh set place alternatives path hops node outcome := by
  obtain ⟨other, others, input, also, same, equal, afresh⟩ := truthful _ _ _ known
  -- The key names the place, so what was filed there was settled among the same alternatives.
  have identical := apart _ _ _ _ _ _ _ _ also asks same.symm equal
  subst identical
  simp only [unionKey, UnionKey.mk.injEq, true_and] at same afresh
  by_cases empty : alternatives = []
  · -- Unions without alternatives share their outcomes, but these do not depend on the place.
    have alsoEmpty : others = [] := by
      rw [empty] at same
      simpa using same
    subst empty alsoEmpty
    simpa only [SettledAfresh, settle_nil] using afresh
  · have samePlace : place = other := by
      by_cases alsoEmpty : others = []
      · simp [empty, alsoEmpty] at same
      · simpa [empty, alsoEmpty] using same
    subst samePlace
    obtain ⟨shape, written, stands⟩ := asks.written named
    obtain ⟨again, alsoWritten, alsoStands⟩ := also.written named
    rw [written] at alsoWritten
    cases alsoWritten
    rw [stands] at alsoStands
    cases alsoStands
    exact afresh

/-! ### With a memory and without one -/

section Runs

variable (named : set.Named) (apart : ToldApart set given start value)
include named apart

/-- A run with a memory is followed by one without. -/
theorem unionsFollowed_forgetting :
    UnionsFollowed set
      (fun memory other => Truthful set (Asked set given start value) memory ∧ other = .blank)
      (Visited set given start value) (Asked set given start value) := by
  rintro fuel followed place alternatives path hops node memory other coerced after asks
    ⟨truthful, rfl⟩ ran
  have forgot (node : Node) :
      UnionMemory.blank.known? (unionKey place alternatives path hops) node = none :=
    UnionMemory.known?_blank _ node
  rcases coerceUnion_iff.mp ran with ⟨known, rfl⟩ | ⟨-, between, settled, rfl⟩
  · -- A hit: the other run has to settle the value, and comes to what was filed.
    obtain ⟨_, rfl, enough, ran⟩ := truthful.afresh named apart asks known
    exact ⟨.blank, ⟨truthful, rfl⟩, enough, fun fuel bound =>
      coerceUnion_iff.mpr (.inr ⟨forgot node, .blank, ran fuel bound, rfl⟩)⟩
  · -- A miss: both runs settle the value, and the outcome that is filed is the other run's.
    obtain ⟨_, ⟨stillTruthful, rfl⟩, enough, ran⟩ :=
      settle_followed closed_asked followed asks ⟨truthful, rfl⟩ settled
    have filed := stillTruthful.remember asks ⟨.blank, rfl, enough, ran⟩
    exact ⟨.blank, ⟨filed, rfl⟩, enough, fun fuel bound =>
      coerceUnion_iff.mpr (.inr ⟨forgot node, .blank, ran fuel bound, rfl⟩)⟩

/-- A run without a memory is followed by one with a memory. -/
theorem unionsFollowed_recalling :
    UnionsFollowed set
      (fun memory other => memory = .blank ∧ Truthful set (Asked set given start value) other)
      (Visited set given start value) (Asked set given start value) := by
  rintro fuel followed place alternatives path hops node memory other coerced after asks
    ⟨rfl, truthful⟩ ran
  obtain ⟨known, -⟩ | ⟨-, between, settled, rfl⟩ := coerceUnion_iff.mp ran
  · cases known
  · obtain ⟨last, ⟨rfl, stillTruthful⟩, enough, returned⟩ :=
      settle_followed closed_asked followed asks ⟨rfl, truthful⟩ settled
    have afresh : SettledAfresh set place alternatives path hops node coerced :=
      settle_eventually settled
    -- If the other run finds an outcome, it is the one that settling has come to here.
    cases known : other.known? (unionKey place alternatives path hops) node with
    | some found =>
      have same : found = coerced := (truthful.afresh named apart asks known).unique afresh
      exact ⟨other, ⟨rfl, truthful⟩, 0, fun fuel _ =>
        coerceUnion_iff.mpr (.inl ⟨known.trans (congrArg some same), rfl⟩)⟩
    | none =>
      have filed := stillTruthful.remember asks afresh
      exact ⟨_, ⟨rfl, filed⟩, enough, fun fuel bound =>
        coerceUnion_iff.mpr (.inr ⟨known, last, returned fuel bound, rfl⟩)⟩

end Runs

/-- If equal values that are asked for under one key are the same, coercion returns an outcome
with a memory whenever it returns that outcome without one, and the other way round. -/
theorem coerceTree_iff_afresh (named : set.Named) {node : Node} {shape : Shape} {path : Path}
    (apart : ToldApart set shape path (reshape set shape path node).value) (coerced : Coerced) :
    (∃ fuel, coerceTree set fuel node shape path = some coerced) ↔
      ∃ fuel, coerceTreeWith set fuel .blank node shape path = some coerced := by
  simp only [coerceTree, coerceTreeWith, coerceReshaped, Option.map_eq_some_iff]
  constructor
  · rintro ⟨fuel, _, ⟨⟨inside, after⟩, ran, rfl⟩, rfl⟩
    obtain ⟨last, _, enough, returned⟩ := coerce_followed closed_asked
      (unionsFollowed_forgetting named apart) fuel _ _ _ _ _ _ _ _ _ visited_given
      ⟨truthful_empty, rfl⟩ ran
    exact ⟨enough, _, ⟨(inside, last), returned enough (Nat.le_refl _), rfl⟩, rfl⟩
  · rintro ⟨fuel, _, ⟨⟨inside, after⟩, ran, rfl⟩, rfl⟩
    obtain ⟨last, _, enough, returned⟩ := coerce_followed closed_asked
      (unionsFollowed_recalling named apart) fuel _ _ _ _ _ _ _ _ _ visited_given
      ⟨rfl, truthful_empty⟩ ran
    exact ⟨enough, _, ⟨(inside, last), returned enough (Nat.le_refl _), rfl⟩, rfl⟩

/-! ### Trees without records -/

/-- Where there are no records, reshaping finds nothing to do. -/
theorem reshape_of_recordless {shape : Shape} {path : Path} {node : Node}
    (recordless : node.nesting = 0) : (reshape set shape path node).value = node := by
  have kept : node.nesting = 0 → (reshape set shape path node).value = node := by
    apply reshape_induction set (motive := fun _ node result => node.nesting = 0 → result = node)
    · exact fun _ _ _ => rfl
    · intro shape values results related flat
      have each := Node.nestingItems_le_iff.mp (Nat.le_of_eq flat)
      have same : results = values := by
        -- The items keep their places, so the arrays agree item by item.
        clear flat
        induction related with
        | nil => rfl
        | cons first _ ih =>
          have here := first (Nat.le_zero.mp (each _ List.mem_cons_self))
          have later := ih fun item member => each item (List.mem_cons_of_mem _ member)
          rw [here, later]
      rw [same]
    · intro shape fields result _ flat
      cases flat
    · exact fun _ _ _ _ _ made => made
    · exact fun _ _ _ _ _ made => made
    · intro name target fields path shaped _ _ _ flat
      cases flat
  exact kept recordless

/-- The value that a path through arrays leads to, any other value being its own only item. -/
def itemAt? (node : Node) : Path → Option Node
  | [] => some node
  | .index position :: rest => (itemsOf node)[position]?.bind (itemAt? · rest)
  | .property _ :: _ => none

theorem itemAt?_index (node : Node) (steps : Path) (position : Nat) :
    itemAt? node (steps.index position) =
      (itemAt? node steps).bind fun inner => (itemsOf inner)[position]? := by
  induction steps generalizing node with
  | nil => simp [Path.index, itemAt?, Option.bind_some]
  | cons first rest ih =>
    cases first with
    | property name => rfl
    | index other =>
      change ((itemsOf node)[other]?.bind fun item => itemAt? item (Path.index rest position)) = _
      cases found : (itemsOf node)[other]? with
      | none => simp [itemAt?, found]
      | some item => simp [itemAt?, found, ih item]

/-- In a tree without records the path of a value says which one it is. -/
theorem closed_items :
    Closed set
      (fun _ _ path _ node => ∃ steps, path = start ++ steps ∧ itemAt? value steps = some node ∧
        node.nesting = 0)
      (fun _ _ path _ node => ∃ steps, path = start ++ steps ∧ itemAt? value steps = some node ∧
        node.nesting = 0) where
  item place items path hops node position inner allows found := by
    obtain ⟨steps, rfl, lies, flat⟩ := allows
    have lower := nesting_itemsOf (List.mem_of_getElem? found)
    refine ⟨steps.index position, by simp [Path.index], ?_, by omega⟩
    rw [itemAt?_index, lies]
    exact found
  field place name path hops node type fields target key inner property allows _ unwrapped := by
    obtain ⟨steps, rfl, lies, flat⟩ := allows
    have lower := nesting_unwrapSingleton node
    rw [unwrapped, Node.nesting, flat] at lower
    omega
  inner place format inner path hops node allows _ := allows
  union place name path hops node type alternatives allows _ _ _ := allows
  oneOf place alternatives path hops node allows := allows
  only place alternatives path hops node alternative position asks _ := asks
  named place alternatives path hops node alternative position asks _ _ := asks
  tried place alternatives path hops node alternative position asks _ _ _ := by
    obtain ⟨steps, rfl, lies, flat⟩ := asks
    rw [reshape_of_recordless flat]
    exact ⟨steps, rfl, lies, flat⟩

/-- So what is asked for at one path is always the same value. -/
theorem toldApart_of_recordless (recordless : value.nesting = 0) :
    ToldApart set given start value := by
  intro place alternatives other others path hops first second asks also _ _
  have begins : ∃ steps, start = start ++ steps ∧ itemAt? value steps = some value ∧
      value.nesting = 0 := ⟨[], (List.append_nil start).symm, rfl, recordless⟩
  obtain ⟨steps, rfl, lies, _⟩ := asks _ _ closed_items begins
  obtain ⟨more, same, liesToo, _⟩ := also _ _ closed_items begins
  rw [List.append_cancel_left same, liesToo] at lies
  exact (Option.some.inj lies).symm

/-- A list of entries, or of entries mixed with lists of texts. -/
def listOrRows : Shape :=
  .oneOf [.array (.ref "Entry"), .array (.oneOf [.ref "Entry", .array (.scalar .string)])]

/-- Only the number can be an entry. -/
def rows : Node := .array [.integer 1815, .array [.string "Emma", .string "Persuasion"]]

/-- The trial as a list of entries settles the number as an entry. The other trial, which is the one
that counts, brings the same number to the same union and takes the outcome from the memory. -/
theorem coerceTree_library_afresh :
    ((trial .library (coerce .library 6) (.alternative .given 0) [] 0 (.array (.ref "Entry"))
        rows .empty).bind fun ran =>
          ran.2.known? (unionKey (.union "Entry") [.ref "Book", .scalar .string] [.index 0] 1)
            (.integer 1815)) = some ⟨.string "1815", [], []⟩ ∧
      (∃ fuel, coerceTree .library fuel rows listOrRows [] = some
        ⟨.array [.string "1815", .array [.string "Emma", .string "Persuasion"]], [], []⟩) ∧
      ∃ fuel, coerceTreeWith .library fuel .blank rows listOrRows [] = some
        ⟨.array [.string "1815", .array [.string "Emma", .string "Persuasion"]], [], []⟩ := by
  have ran : coerceTree .library 7 rows listOrRows [] = some
      ⟨.array [.string "1815", .array [.string "Emma", .string "Persuasion"]], [], []⟩ := by cbv
  have recordless : (reshape .library listOrRows [] rows).value.nesting = 0 := by cbv
  exact ⟨by cbv, ⟨7, ran⟩, (coerceTree_iff_afresh SchemaSet.library_built.named
    (toldApart_of_recordless recordless) _).mp ⟨7, ran⟩⟩

/-! ### Another order of keys -/

/-- Sheets come as drafts or as prints, and only a draft's area stands for its size. -/
def sheets : SchemaSet where
  root := "Sheet"
  types := [("Sheet", .ofSchema ⟨"Sheet", none, .union [.ref "Draft", .ref "Print"]⟩),
    ("Draft", .ofSchema ⟨"Draft", none, .record
      [("type", ⟨.enum [.string "Draft"], none, [], none⟩),
        ("size", ⟨.ref "Size", none, ["area"], none⟩)] ["type"] [("area", "size")]⟩),
    ("Print", .ofSchema ⟨"Print", none, .record
      [("type", ⟨.enum [.string "Print"], none, [], none⟩), ("size", ⟨.ref "Size", none, [], none⟩),
        ("area", ⟨.any, none, [], none⟩)] ["type"] []⟩),
    ("Size", .ofSchema ⟨"Size", none, .union [.ref "Page", .scalar .string]⟩),
    ("Page", .ofSchema ⟨"Page", none, .record
      [("type", ⟨.enum [.string "Page"], none, [], none⟩),
        ("width", ⟨.scalar .integer, none, ["across"], none⟩)] ["type"] [("across", "width")]⟩)]
  limit := SchemaSet.defaultLimit

/-- A sheet whose area and size are equal, with their keys in different orders. -/
def sheet : Node :=
  .record [("area", .record [("across", .integer 1), ("width", .integer 2)]),
    ("size", .record [("width", .integer 2), ("across", .integer 1)])]

/-- The print with a width that is made of the sheet. -/
def printed (width : Int64) : Node :=
  .record [("type", .string "Print"),
    ("area", .record [("across", .integer 1), ("width", .integer 2)]),
    ("size", .record [("type", .string "Page"), ("width", .integer width)])]

/-- The trial as a draft settles the area as a size. The trial as a print takes its outcome for the
size, where the other width comes first. -/
theorem coerceTree_sheet :
    (coerceTree sheets 8 sheet (.ref "Sheet") []).map (·.node) = some (printed 1) := by
  cbv

theorem coerceTree_sheet_afresh :
    (coerceTreeWith sheets 8 .blank sheet (.ref "Sheet") []).map (·.node) = some (printed 2) := by
  cbv

theorem sheet_remembered :
    ¬∀ coerced, (∃ fuel, coerceTree sheets fuel sheet (.ref "Sheet") [] = some coerced) →
      ∃ fuel, coerceTreeWith sheets fuel .blank sheet (.ref "Sheet") [] = some coerced := by
  intro unobservable
  obtain ⟨coerced, ran, first⟩ := Option.map_eq_some_iff.mp coerceTree_sheet
  obtain ⟨other, again, second⟩ := Option.map_eq_some_iff.mp coerceTree_sheet_afresh
  obtain ⟨fuel, forgot⟩ := unobservable coerced ⟨8, ran⟩
  rw [coerceTreeWith_unique forgot again, second] at first
  cases first

end Coercion

end DocSchema
