import DocSchema.Proofs.Coercion.Conversion
import DocSchema.Proofs.Coercion.Distinct
import DocSchema.Proofs.Coercion.Parts
import DocSchema.Proofs.Node.Preorder

/-!
# Decode sites

A site that coercion returns is the path of a text in the tree that it returns with it, and the
sites come in the pre-order of that tree. Outcomes taken from the memory are no exception, since
their path is part of what they are remembered by. Main statement: `coerceTree_sites`.
-/

namespace DocSchema.Coercion

variable {set : SchemaSet}

/-! ### Sites that stand at texts -/

/-- Whether the sites of an outcome are paths of texts in it, in pre-order and none twice. -/
def Located (path : Path) (coerced : Coerced) : Prop :=
  coerced.node.distinctKeys = true ∧
    (coerced.sites.map (·.path)).Sublist ((coerced.node.pathsWhere Node.isString).map (path ++ ·))

/-- Whether all remembered outcomes have their sites below the path they are remembered by. -/
def AllLocated (memory : UnionMemory) : Prop :=
  ∀ key node outcome, memory.known? key node = some outcome → Located key.path outcome

theorem allLocated_empty : AllLocated .empty := by
  intro key node outcome known
  rw [UnionMemory.known?_empty] at known
  cases known

theorem AllLocated.remember {memory : UnionMemory} (all : AllLocated memory) {key : UnionKey}
    {outcome : Coerced} (located : Located key.path outcome) (node : Node) :
    AllLocated (memory.remember key node outcome) := by
  intro other input found known
  rcases UnionMemory.known?_remember known with before | ⟨rfl, _, rfl⟩
  · exact all other input found before
  · exact located

theorem located_unchanged {node : Node} (distinct : node.distinctKeys = true) (path : Path) :
    Located path (unchanged node) :=
  ⟨distinct, List.nil_sublist _⟩

/-- The paths below an item or a field are those below its first segment. -/
theorem map_append_cons (path : Path) (segment : Segment) (paths : List Path) :
    paths.map (path ++ [segment] ++ ·) = (paths.map (segment :: ·)).map (path ++ ·) := by
  simp

theorem coerceItems_located {step : Nat → Node → UnionMemory → Option (Coerced × UnionMemory)}
    {path : Path} {values : List Node}
    (each : ∀ position value memory coerced after, value ∈ values → AllLocated memory →
      step position value memory = some (coerced, after) →
      Located (path.index position) coerced ∧ AllLocated after)
    {position : Nat} {memory after : UnionMemory} {gathered : Gathered Node}
    (start : AllLocated memory)
    (returned : coerceItems step position values memory = some (gathered, after)) :
    (∀ result ∈ gathered.values, result.distinctKeys = true) ∧
      (gathered.sites.map (·.path)).Sublist
        ((Node.pathsWhereItems Node.isString position gathered.values).map (path ++ ·)) ∧
      AllLocated after := by
  induction values generalizing position memory after gathered with
  | nil =>
    cases returned
    exact ⟨by simp, List.nil_sublist _, start⟩
  | cons value rest ih =>
    obtain ⟨first, between, later, ran, others, rfl⟩ := coerceItems_cons_iff.mp returned
    obtain ⟨⟨distinct, sites⟩, held⟩ :=
      each position value memory first between List.mem_cons_self start ran
    obtain ⟨all, below, still⟩ := ih (fun position other memory coerced after member =>
      each position other memory coerced after (List.mem_cons_of_mem _ member)) held others
    refine ⟨List.forall_mem_cons.mpr ⟨distinct, all⟩, ?_, still⟩
    -- Sites of the first item come first, as its paths do in pre-order.
    rw [Path.index, map_append_cons] at sites
    rw [List.map_append, Node.pathsWhereItems, List.map_append]
    exact sites.append below

theorem coerceFields_located {type : TypeSchema} {path : Path}
    {step : String → Property → Node → UnionMemory → Option (Coerced × UnionMemory)}
    {fields : List (String × Node)}
    (each : ∀ key property value memory coerced after, (key, value) ∈ fields →
      AllLocated memory → step key property value memory = some (coerced, after) →
      Located (path.property key) coerced ∧ AllLocated after)
    {memory after : UnionMemory} {gathered : Gathered (String × Node)} (start : AllLocated memory)
    (returned : coerceFields type path step fields memory = some (gathered, after)) :
    (∀ key result, (key, result) ∈ gathered.values → result.distinctKeys = true) ∧
      (gathered.sites.map (·.path)).Sublist
        ((Node.pathsWhereFields Node.isString gathered.values).map (path ++ ·)) ∧
      AllLocated after := by
  induction fields generalizing memory after gathered with
  | nil =>
    cases returned
    exact ⟨by simp, List.nil_sublist _, start⟩
  | cons field rest ih =>
    obtain ⟨key, value⟩ := field
    have later {memory last : UnionMemory} {others : Gathered (String × Node)}
        (held : AllLocated memory)
        (ran : coerceFields type path step rest memory = some (others, last)) :=
      ih (fun key property value memory coerced after member =>
        each key property value memory coerced after (List.mem_cons_of_mem _ member)) held ran
    cases coerceFields_cons_iff.mp returned with
    | dropped _ others =>
      obtain ⟨all, below, still⟩ := later start others
      exact ⟨all, below, still⟩
    | @kept property first between _ _ _ ran others =>
      obtain ⟨⟨distinct, sites⟩, held⟩ :=
        each key property value memory first between List.mem_cons_self start ran
      obtain ⟨all, below, still⟩ := later held others
      refine ⟨?_, ?_, still⟩
      · intro other result member
        rcases List.mem_cons.mp member with same | listed
        · cases same
          exact distinct
        · exact all other result listed
      · rw [Path.property, map_append_cons] at sites
        rw [List.map_append, Node.pathsWhereFields, List.map_append]
        exact sites.append below

/-! ### Whole values -/

/-- Whether the outcomes that a step returns and remembers have their sites in place. -/
def StepLocated (step : Step) : Prop :=
  ∀ place shape path hops node memory coerced after, node.distinctKeys = true →
    AllLocated memory → step place shape path hops node memory = some (coerced, after) →
    Located path coerced ∧ AllLocated after

theorem coerceUnion_located (literals : set.DistinctLiterals) {step : Step}
    (stepLocated : StepLocated step) {place : Place} {alternatives : List Shape} {path : Path}
    {hops : Nat} {node : Node} {memory after : UnionMemory} {coerced : Coerced}
    (distinct : node.distinctKeys = true) (start : AllLocated memory)
    (returned : coerceUnion set step place alternatives path hops node memory =
      some (coerced, after)) : Located path coerced ∧ AllLocated after := by
  apply coerceUnion_returned (located_unchanged distinct path) ?_ ?_ ?_ ?_ start returned
  · intro alternative position memory coerced after _ held ran
    exact stepLocated _ _ _ _ _ _ _ _ distinct held ran
  · intro alternative position memory coerced after _ held ran
    -- A trial adds warnings to the outcome, but no sites.
    obtain ⟨outcome, stepped, rfl⟩ := trial_iff.mp ran
    have shaped := distinctKeys_reshape literals alternative path distinct
    obtain ⟨located, still⟩ := stepLocated _ _ _ _ _ _ _ _ shaped held stepped
    exact ⟨located, still⟩
  · intro memory outcome held known
    exact held _ node outcome known
  · intro memory outcome held located
    exact held.remember located node

/-- The induction is on the fuel, with one case for each kind of shape. -/
theorem coerce_located (literals : set.DistinctLiterals) (fuel : Nat) :
    StepLocated (coerce set fuel) := by
  induction fuel with
  | zero =>
    intro place shape path hops node memory coerced after _ _ ran
    cases ran
  | succ fuel ih =>
    intro place shape path hops node memory coerced after distinct start ran
    have unwrappedDistinct := distinctKeys_unwrapSingleton distinct
    cases coerce_succ_iff.mp ran with
    | any | missing | beyond => exact ⟨located_unchanged distinct path, start⟩
    | scalar kind => exact ⟨located_unchanged (distinctKeys_coerceScalar distinct kind) path, start⟩
    | object | other => exact ⟨located_unchanged unwrappedDistinct path, start⟩
    | enum values =>
      exact ⟨located_unchanged (distinctKeys_coerceEnum values distinct) path, start⟩
    | array parts =>
      obtain ⟨all, below, still⟩ := coerceItems_located
        (fun position value memory coerced after member held ran =>
          ih _ _ _ _ _ _ _ _ (distinctKeys_itemsOf distinct member) held ran) start parts
      exact ⟨⟨Node.distinctKeys_array_iff.mpr all, below⟩, still⟩
    | record _ unwrapped _ parts =>
      rw [unwrapped] at unwrappedDistinct
      obtain ⟨keys, values⟩ := Node.distinctKeys_record_iff.mp unwrappedDistinct
      -- Fields may be dropped but not renamed here, so their keys stay distinct.
      have order := (coerceFields_keys parts).order
      obtain ⟨all, below, still⟩ := coerceFields_located
        (fun key property value memory coerced after member held ran =>
          ih _ _ _ _ _ _ _ _ (values key value member) held ran) start parts
      exact ⟨⟨Node.distinctKeys_record_iff.mpr ⟨keys.sublist order, all⟩, below⟩, still⟩
    | union _ _ _ ran | oneOf ran => exact coerceUnion_located literals ih distinct start ran
    | text text =>
      obtain ⟨content, rfl⟩ := Validation.isString_iff.mp text
      refine ⟨⟨rfl, ?_⟩, start⟩
      simp [Node.pathsWhere, Node.rootWhere, Node.isString]
    | decode _ ran => exact ih _ _ _ _ _ _ _ _ distinct start ran

theorem coerceTree_located (literals : set.DistinctLiterals) {fuel : Nat} {node : Node}
    {shape : Shape} {path : Path} {coerced : Coerced} (distinct : node.distinctKeys = true)
    (ran : coerceTree set fuel node shape path = some coerced) : Located path coerced := by
  simp only [coerceTree, coerceTreeWith, coerceReshaped, Option.map_eq_some_iff] at ran
  obtain ⟨outcome, ⟨⟨inside, after⟩, ran, rfl⟩, rfl⟩ := ran
  have shaped := distinctKeys_reshape literals shape path distinct
  obtain ⟨located, _⟩ :=
    coerce_located literals fuel _ _ _ _ _ _ _ _ shaped allLocated_empty ran
  exact located

/-! ### Independence -/

/-- No path leads on from a text. -/
theorem eq_of_get?_string {node inner : Node} {upper lower : Path} {text : String}
    (here : node.get? upper = some (.string text)) (there : node.get? lower = some inner)
    (below : upper <+: lower) : upper = lower := by
  obtain ⟨rest, rfl⟩ := below
  rw [Node.get?_append, here] at there
  cases rest with
  | nil => simp
  | cons segment rest => simp [Node.get?, Node.child?] at there

/-- The decode sites of an outcome are paths of different texts in it, none within another, and
come in pre-order. -/
theorem coerceTree_sites (literals : set.DistinctLiterals) {fuel : Nat} {node : Node}
    {shape : Shape} {path : Path} {coerced : Coerced} (distinct : node.distinctKeys = true)
    (ran : coerceTree set fuel node shape path = some coerced) :
    (∀ site ∈ coerced.sites, ∃ below text, site.path = path ++ below ∧
      coerced.node.get? below = some (.string text)) ∧
    (coerced.sites.map (·.path)).Sublist
      ((coerced.node.pathsWhere fun _ => true).map (path ++ ·)) ∧
    (coerced.sites.map (·.path)).Nodup ∧
    (coerced.sites.map (·.path)).Pairwise fun earlier later =>
      ¬earlier <+: later ∧ ¬later <+: earlier := by
  obtain ⟨stillDistinct, sublist⟩ := coerceTree_located literals distinct ran
  have stands : ∀ place ∈ coerced.sites.map (·.path), ∃ below text, place = path ++ below ∧
      coerced.node.get? below = some (.string text) := by
    intro place member
    obtain ⟨below, listed, rfl⟩ := List.mem_map.mp (sublist.subset member)
    obtain ⟨inner, found, isText⟩ := (Node.mem_pathsWhere_iff stillDistinct).mp listed
    obtain ⟨text, rfl⟩ := Validation.isString_iff.mp isText
    exact ⟨below, text, rfl, found⟩
  have distinctPaths : (coerced.sites.map (·.path)).Nodup := by
    have texts : (coerced.node.pathsWhere Node.isString).Nodup :=
      Node.nodup_pathsWhere stillDistinct
    exact (texts.map (List.append_right_injective path)).sublist sublist
  -- A site within another one would lie below a text.
  have apart : ∀ earlier ∈ coerced.sites.map (·.path), ∀ later ∈ coerced.sites.map (·.path),
      earlier <+: later → earlier = later := by
    intro earlier first later second below
    obtain ⟨upper, text, rfl, here⟩ := stands earlier first
    obtain ⟨lower, other, rfl, there⟩ := stands later second
    rw [List.prefix_append_right_inj] at below
    rw [eq_of_get?_string here there below]
  refine ⟨fun site member => stands site.path (List.mem_map_of_mem member), ?_, distinctPaths, ?_⟩
  · have wider : (coerced.node.pathsWhere Node.isString).Sublist
        (coerced.node.pathsWhere fun _ => true) :=
      Node.pathsWhere_sublist (fun _ _ => rfl) coerced.node
    exact sublist.trans (wider.map _)
  · refine distinctPaths.imp_of_mem fun {earlier later} first second different => ?_
    constructor
    · intro below
      exact different (apart earlier first later second below)
    · intro below
      exact different (apart later second earlier first below).symm

/-- Two texts to be decoded with an absent one between them. -/
def remarks : Node := .array [.string "first", .null, .string "last"]

def remarked : Coerced :=
  ⟨remarks, [], [⟨[.index 0], "markdown", .any⟩, ⟨[.index 2], "markdown", .any⟩]⟩

theorem coerceTree_remarks :
    coerceTree .library 3 remarks (.array (.decode "markdown" .any)) [] = some remarked := by
  have shaped : reshape .library (.array (.decode "markdown" .any)) [] remarks = ⟨remarks, []⟩ := by
    simp [remarks, reshape, reshapeItems, Node.isString]
  rw [coerceTree, coerceTreeWith, shaped]
  rfl

theorem coerceTree_sites_remarks :
    coerceTree .library 3 remarks (.array (.decode "markdown" .any)) [] = some remarked ∧
      (∀ site ∈ remarked.sites, ∃ below text, site.path = [] ++ below ∧
        remarked.node.get? below = some (.string text)) ∧
      (remarked.sites.map (·.path)).Sublist
        ((remarked.node.pathsWhere fun _ => true).map ([] ++ ·)) ∧
      (remarked.sites.map (·.path)).Nodup ∧
      (remarked.sites.map (·.path)).Pairwise fun earlier later =>
        ¬earlier <+: later ∧ ¬later <+: earlier :=
  ⟨coerceTree_remarks,
    coerceTree_sites SchemaSet.library_built.distinctLiterals rfl coerceTree_remarks⟩

end DocSchema.Coercion
