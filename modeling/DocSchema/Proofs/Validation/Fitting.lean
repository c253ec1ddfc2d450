import DocSchema.Proofs.Schema.Built
import DocSchema.Proofs.Validation.Trials
import Mathlib.Logic.ExistsUnique

/-!
# Values that fit a shape

A value fits a shape if direct validation finds no errors in it. Where it stands does not
matter for that, so the path is left out, and for every kind of shape one statement says when
a value fits it. Later proofs use these and do not open the validator. Main statements:
`errorsOf_eq_nil_iff`, and the `fits_` statements for the kinds of shapes.
-/

namespace DocSchema.Validation

/-! ### Exactly one alternative -/

/-- Whether exactly one position of a list holds something with a property. -/
def ExactlyOne {α : Type} (holds : α → Prop) (items : List α) : Prop :=
  ∃! position : Nat, ∃ item, items[position]? = some item ∧ holds item

theorem exactlyOne_congr {α : Type} {left right : α → Prop} {items : List α}
    (same : ∀ item ∈ items, left item ↔ right item) :
    ExactlyOne left items ↔ ExactlyOne right items := by
  have agree (position : Nat) : (∃ item, items[position]? = some item ∧ left item) ↔
      ∃ item, items[position]? = some item ∧ right item := by
    constructor
    · rintro ⟨item, found, holds⟩
      exact ⟨item, found, (same item (List.mem_of_getElem? found)).mp holds⟩
    · rintro ⟨item, found, holds⟩
      exact ⟨item, found, (same item (List.mem_of_getElem? found)).mpr holds⟩
  simp only [ExactlyOne, agree]

theorem not_exactlyOne_nil {α : Type} (holds : α → Prop) : ¬ExactlyOne holds [] := by
  rintro ⟨position, ⟨item, found, _⟩, _⟩
  simp at found

/-- The first item holds and no later one does, or it does not and exactly one later one does. -/
theorem exactlyOne_cons {α : Type} {holds : α → Prop} {first : α} {rest : List α} :
    ExactlyOne holds (first :: rest) ↔
      (holds first ∧ ∀ item ∈ rest, ¬holds item) ∨ (¬holds first ∧ ExactlyOne holds rest) := by
  constructor
  · rintro ⟨position, ⟨item, found, held⟩, only⟩
    cases position with
    | zero =>
      left
      have same : first = item := by simpa using found
      refine ⟨same ▸ held, fun other member also => ?_⟩
      obtain ⟨index, bound, here⟩ := List.getElem_of_mem member
      have clash := only (index + 1) ⟨other, by simp [here, bound], also⟩
      simp at clash
    | succ index =>
      right
      constructor
      · intro also
        have clash := only 0 ⟨first, by simp, also⟩
        simp at clash
      · refine ⟨index, ⟨item, by simpa using found, held⟩, fun other also => ?_⟩
        obtain ⟨value, here, too⟩ := also
        have same := only (other + 1) ⟨value, by simpa using here, too⟩
        omega
  · rintro (⟨held, none⟩ | ⟨without, index, ⟨item, found, held⟩, only⟩)
    · refine ⟨0, ⟨first, by simp, held⟩, fun other also => ?_⟩
      obtain ⟨value, here, too⟩ := also
      cases other with
      | zero => rfl
      | succ index => exact absurd too (none value (List.mem_of_getElem? (by simpa using here)))
    · refine ⟨index + 1, ⟨item, by simpa using found, held⟩, fun other also => ?_⟩
      obtain ⟨value, here, too⟩ := also
      cases other with
      | zero =>
        have same : first = value := by simpa using here
        exact absurd (same ▸ too) without
      | succ later => rw [only later ⟨value, by simpa using here, too⟩]

theorem ExactlyOne.unique {α : Type} {holds : α → Prop} {items : List α}
    (one : ExactlyOne holds items) {first second : α} (member : first ∈ items)
    (held : holds first) (also : second ∈ items) (too : holds second) : first = second := by
  obtain ⟨position, _, only⟩ := one
  obtain ⟨left, leftBound, rfl⟩ := List.getElem_of_mem member
  obtain ⟨right, rightBound, rfl⟩ := List.getElem_of_mem also
  have leftIs := only left ⟨_, List.getElem?_eq_getElem leftBound, held⟩
  have rightIs := only right ⟨_, List.getElem?_eq_getElem rightBound, too⟩
  simp only [leftIs, rightIs]

theorem length_filter_eq_one_iff {α : Type} (test : α → Bool) (items : List α) :
    (items.filter test).length = 1 ↔ ExactlyOne (fun item => test item = true) items := by
  induction items with
  | nil => simp [not_exactlyOne_nil]
  | cons first rest ih =>
    rw [exactlyOne_cons, ← ih]
    cases tested : test first with
    | true => simp [tested]
    | false => simp [tested]

theorem exactlyOne_map {α β : Type} (holds : β → Prop) (image : α → β) (items : List α) :
    ExactlyOne holds (items.map image) ↔ ExactlyOne (fun item => holds (image item)) items := by
  induction items with
  | nil => simp [not_exactlyOne_nil]
  | cons first rest ih =>
    rw [List.map_cons, exactlyOne_cons, exactlyOne_cons, ih]
    simp

/-! ### The rule of unions -/

/-- Whether a value matches a union, given which alternatives it fits: a record must fit the
alternative that its discriminator names, and any other value exactly one alternative. -/
def MatchesUnion (fits : Shape → Prop) (alternatives : List Shape) (node : Node) : Prop :=
  (∀ name, node.typeName? = some name → .ref name ∈ alternatives → fits (.ref name)) ∧
  ((∀ name, node.typeName? = some name → .ref name ∉ alternatives) → ExactlyOne fits alternatives)

theorem matchesUnion_congr {left right : Shape → Prop} {alternatives : List Shape} {node : Node}
    (same : ∀ alternative ∈ alternatives, left alternative ↔ right alternative) :
    MatchesUnion left alternatives node ↔ MatchesUnion right alternatives node := by
  have named : (∀ name, node.typeName? = some name → .ref name ∈ alternatives → left (.ref name)) ↔
      ∀ name, node.typeName? = some name → .ref name ∈ alternatives → right (.ref name) :=
    forall_congr' fun name => forall_congr' fun _ => forall_congr' fun member => same _ member
  rw [MatchesUnion, MatchesUnion, named, exactlyOne_congr same]

theorem named?_eq_none_iff {alternatives : List Shape} {node : Node} :
    Shape.named? alternatives node = none ↔
      ∀ name, node.typeName? = some name → .ref name ∉ alternatives := by
  unfold Shape.named?
  cases node.typeName? with
  | none => simp
  | some typeName =>
    simp only [Option.bind_some, List.find?_eq_none, Option.some.injEq, forall_eq']
    constructor
    · intro unnamed member
      exact unnamed _ member (by simp [Shape.namesType])
    · intro absent alternative member names
      cases alternative with
      | ref name =>
        have same : name = typeName := by simpa [Shape.namesType] using names
        exact absent (same ▸ member)
      | _ => simp [Shape.namesType] at names

theorem named?_eq_some_iff {alternatives : List Shape} {node : Node} {alternative : Shape} :
    Shape.named? alternatives node = some alternative ↔
      ∃ name, node.typeName? = some name ∧ .ref name ∈ alternatives ∧ alternative = .ref name := by
  constructor
  · intro named
    have member := Shape.mem_of_named? named
    obtain ⟨typeName, present, found⟩ := Option.bind_eq_some_iff.mp named
    have names := List.find?_some found
    cases alternative with
    | ref name =>
      have same : name = typeName := by simpa [Shape.namesType] using names
      exact ⟨typeName, present, same ▸ member, by rw [same]⟩
    | _ => simp [Shape.namesType] at names
  · rintro ⟨name, present, member, rfl⟩
    cases named : Shape.named? alternatives node with
    | none => exact absurd member (named?_eq_none_iff.mp named name present)
    | some other =>
      obtain ⟨typeName, same, found⟩ := Option.bind_eq_some_iff.mp named
      have names := List.find?_some found
      rw [present] at same
      cases same
      cases other with
      | ref other =>
        have equal : other = name := by simpa [Shape.namesType] using names
        rw [equal]
      | _ => simp [Shape.namesType] at names

/-! ### The errors of parts -/

theorem outcomesOf_eq_map (set : SchemaSet) (alternatives : List Shape) (node : Node)
    (path : Path) (hops : Nat) :
    outcomesOf set alternatives node path hops =
      alternatives.map fun alternative =>
        (alternative.text, errorsOf set alternative node path hops) := by
  induction alternatives with
  | nil => rw [outcomesOf, List.map_nil]
  | cons alternative rest ih => rw [outcomesOf, ih, List.map_cons]

theorem unionErrors_eq_nil_iff (path : Path) (outcomes : List (String × List ValidationError)) :
    unionErrors path outcomes = [] ↔ ExactlyOne (fun outcome => outcome.2 = []) outcomes := by
  have one : unionErrors path outcomes = [] ↔
      (outcomes.filter fun outcome => outcome.2.isEmpty).length = 1 := by
    -- The validator asks for the list of matching names; only its length matters.
    rw [← List.length_map Prod.fst, List.length_eq_one_iff]
    unfold unionErrors
    split
    next none => simp [none]
    next name single => simp [single]
    next matched notNone notSingle =>
      simp only [List.cons_ne_nil, false_iff]
      rintro ⟨name, single⟩
      exact notSingle name single
  rw [one, length_filter_eq_one_iff]
  simp only [List.isEmpty_iff]

theorem errorsOfItems_eq_nil_iff (set : SchemaSet) (items : Shape) (position : Nat)
    (values : List Node) (path : Path) :
    errorsOfItems set items position values path = [] ↔
      ∀ index value, values[index]? = some value →
        errorsOf set items value (path.index (position + index)) 0 = [] := by
  induction values generalizing position with
  | nil => simp [errorsOfItems]
  | cons first rest ih =>
    rw [errorsOfItems, List.append_eq_nil_iff, ih]
    constructor
    · rintro ⟨here, later⟩ index value found
      cases index with
      | zero =>
        have same : first = value := by simpa using found
        exact same ▸ here
      | succ index =>
        have below := later index value (by simpa using found)
        rwa [Nat.add_right_comm] at below
    · intro all
      refine ⟨all 0 first (by simp), fun index value found => ?_⟩
      have below := all (index + 1) value (by simpa using found)
      rwa [← Nat.add_assoc, Nat.add_right_comm] at below

theorem errorsOfProperties_eq_nil_iff (set : SchemaSet) (type : TypeSchema)
    (fields : Keyed Node) (properties : Keyed Property) (path : Path) :
    errorsOfProperties set type fields properties path = [] ↔
      ∀ name property, (name, property) ∈ properties →
        (∀ value, Keyed.get? fields name = some value →
          errorsOf set property.shape value (path.property name) 0 = []) ∧
        (Keyed.get? fields name = none → name ∉ type.required) := by
  have missing (name : String) : missingErrors type name path = [] ↔ name ∉ type.required := by
    unfold missingErrors
    split
    next required => simpa [TypeSchema.isRequired] using required
    next optional => simpa [TypeSchema.isRequired] using optional
  induction properties with
  | nil => simp [errorsOfProperties]
  | cons entry rest ih =>
    obtain ⟨first, declared⟩ := entry
    -- A property is present or absent, and only one half of the statement is about it.
    have step : errorsOfProperties set type fields ((first, declared) :: rest) path = [] ↔
        ((∀ value, Keyed.get? fields first = some value →
          errorsOf set declared.shape value (path.property first) 0 = []) ∧
        (Keyed.get? fields first = none → first ∉ type.required)) ∧
        errorsOfProperties set type fields rest path = [] := by
      cases found : Keyed.get? fields first with
      | some value => simp [errorsOfProperties_present found]
      | none => simp [errorsOfProperties_absent found, missing]
    rw [step]
    constructor
    · rintro ⟨here, later⟩ name property member
      rcases List.mem_cons.mp member with same | member
      · cases same
        exact here
      · exact ih.mp later name property member
    · intro all
      exact ⟨all first declared List.mem_cons_self,
        ih.mpr fun name property member => all name property (List.mem_cons_of_mem _ member)⟩

theorem undeclaredErrors_eq_nil_iff (type : TypeSchema) (fields : Keyed Node) (path : Path) :
    undeclaredErrors type fields path = [] ↔
      ∀ key ∈ Keyed.keys fields, Keyed.contains type.properties key = true := by
  simp [undeclaredErrors, List.filter_eq_nil_iff]

theorem errorsOfUnion_eq_nil_iff (set : SchemaSet) (alternatives : List Shape) (node : Node)
    (path : Path) (hops : Nat) :
    errorsOfUnion set alternatives node path hops = [] ↔
      MatchesUnion (fun alternative => errorsOf set alternative node path hops = [])
        alternatives node := by
  cases named : Shape.named? alternatives node with
  | some alternative =>
    rw [errorsOfUnion_named named]
    obtain ⟨name, present, member, rfl⟩ := named?_eq_some_iff.mp named
    constructor
    · intro fits
      -- A value has one discriminator, and the alternative it names is there.
      refine ⟨fun other same _ => ?_, fun absent => absurd member (absent name present)⟩
      rw [present] at same
      cases same
      exact fits
    · rintro ⟨fits, _⟩
      exact fits name present member
  | none =>
    rw [errorsOfUnion_unnamed named, unionErrors_eq_nil_iff, outcomesOf_eq_map, exactlyOne_map]
    have absent := named?_eq_none_iff.mp named
    constructor
    · intro one
      exact ⟨fun name present member => absurd member (absent name present), fun _ => one⟩
    · rintro ⟨_, one⟩
      exact one absent

/-! ### The errors of a value at a path -/

theorem errorsOf_array_eq_nil_iff (set : SchemaSet) (items : Shape) (node : Node) (path : Path)
    (hops : Nat) :
    errorsOf set (.array items) node path hops = [] ↔
      ∃ values, node = .array values ∧ ∀ index value, values[index]? = some value →
        errorsOf set items value (path.index index) 0 = [] := by
  rw [errorsOf.eq_def]
  cases node with
  | array values => simp [errorsOfItems_eq_nil_iff]
  | _ => simp

theorem errorsOf_record_eq_nil_iff {set : SchemaSet} {name : String} {type : CompiledType}
    {properties : Keyed Property} {required : List String} {aliases : Keyed String}
    (known : set.find? name = some type)
    (body : type.schema.body = .record properties required aliases) (node : Node) (path : Path)
    (hops : Nat) :
    errorsOf set (.ref name) node path hops = [] ↔
      ∃ fields, node = .record fields ∧
        (∀ key ∈ Keyed.keys fields, Keyed.contains type.schema.properties key = true) ∧
        ∀ key property, (key, property) ∈ properties →
          (∀ value, Keyed.get? fields key = some value →
            errorsOf set property.shape value (path.property key) 0 = []) ∧
          (Keyed.get? fields key = none → key ∉ type.schema.required) := by
  cases node with
  | record fields =>
    rw [errorsOf_record known body]
    simp only [List.append_eq_nil_iff, errorsOfProperties_eq_nil_iff,
      undeclaredErrors_eq_nil_iff, Node.record.injEq, exists_eq_left', and_comm]
  | _ => simp [errorsOf_unrecorded known body]

theorem errorsOf_union_eq_nil_iff {set : SchemaSet} {name : String} {type : CompiledType}
    {alternatives : List Shape} (known : set.find? name = some type)
    (body : type.schema.body = .union alternatives) (node : Node) (path : Path) (hops : Nat) :
    errorsOf set (.ref name) node path hops = [] ↔
      hops < set.limit ∧ MatchesUnion
        (fun alternative => errorsOf set alternative node path (hops + 1) = []) alternatives
        node := by
  rw [errorsOf_union known body]
  split
  next within => simp [errorsOfUnion_eq_nil_iff, within]
  next beyond => simp [beyond]

/-! ### Induction along validation -/

/-- Validation goes from a value into its parts, where any shape may be met and hops are counted
afresh, and at one value into smaller shapes or, below the limit, through a union type. What
follows for a value from all that validation meets below it holds of every value. -/
@[elab_as_elim]
theorem validation_induction (set : SchemaSet) {motive : Shape → Node → Nat → Prop}
    (any : ∀ node hops, motive .any node hops)
    (scalar : ∀ kind node hops, motive (.scalar kind) node hops)
    (object : ∀ node hops, motive .object node hops)
    (enum : ∀ values node hops, motive (.enum values) node hops)
    (array : ∀ items node hops,
      (∀ values, node = .array values → ∀ value ∈ values, motive items value 0) →
        motive (.array items) node hops)
    (missing : ∀ name node hops, set.find? name = none → motive (.ref name) node hops)
    (record : ∀ name type properties required aliases node hops,
      set.find? name = some type → type.schema.body = .record properties required aliases →
      (∀ fields, node = .record fields → ∀ key value, (key, value) ∈ fields →
        ∀ shape, motive shape value 0) → motive (.ref name) node hops)
    (union : ∀ name type alternatives node hops,
      set.find? name = some type → type.schema.body = .union alternatives →
      (hops < set.limit → ∀ alternative ∈ alternatives, motive alternative node (hops + 1)) →
        motive (.ref name) node hops)
    (oneOf : ∀ alternatives node hops,
      (∀ alternative ∈ alternatives, motive alternative node hops) →
        motive (.oneOf alternatives) node hops)
    (decode : ∀ format inner node hops,
      motive inner node hops → motive (.decode format inner) node hops)
    (shape : Shape) (node : Node) (hops : Nat) : motive shape node hops := by
  match shape with
  | .any => exact any node hops
  | .scalar kind => exact scalar kind node hops
  | .object => exact object node hops
  | .enum values => exact enum values node hops
  | .array items =>
    refine array items node hops fun values given value member => ?_
    exact validation_induction set any scalar object enum array missing record union oneOf decode
      items value 0
  | .ref name =>
    match known : set.find? name with
    | none => exact missing name node hops known
    | some type =>
      match body : type.schema.body with
      | .record properties required aliases =>
        refine record name type properties required aliases node hops known body ?_
        intro fields given key value member shape
        exact validation_induction set any scalar object enum array missing record union oneOf
          decode shape value 0
      | .union alternatives =>
        refine union name type alternatives node hops known body fun within alternative member => ?_
        exact validation_induction set any scalar object enum array missing record union oneOf
          decode alternative node (hops + 1)
  | .oneOf alternatives =>
    refine oneOf alternatives node hops fun alternative member => ?_
    exact validation_induction set any scalar object enum array missing record union oneOf decode
      alternative node hops
  | .decode format inner =>
    exact decode format inner node hops (validation_induction set any scalar object enum array
      missing record union oneOf decode inner node hops)
termination_by (node.weight, set.limit - hops, sizeOf shape)
decreasing_by
  · have smaller := Node.weight_lt_of_mem_items member
    exact Prod.Lex.left _ _ (by rw [given]; simp only [Node.weight]; omega)
  · have smaller := Node.weight_lt_of_mem_fields member
    exact Prod.Lex.left _ _ (by rw [given]; simp only [Node.weight]; omega)
  · exact Prod.Lex.right _ (Prod.Lex.left _ _ (by omega))
  · have smaller := List.sizeOf_lt_of_mem member
    exact Prod.Lex.right _ (Prod.Lex.right _ (by simp only [Shape.oneOf.sizeOf_spec]; omega))
  · exact Prod.Lex.right _ (Prod.Lex.right _ (by simp only [Shape.decode.sizeOf_spec]; omega))

/-! ### Fitting -/

/-- Whether a value has errors does not depend on where it stands. -/
theorem errorsOf_eq_nil_of_path {set : SchemaSet} (shape : Shape) (node : Node)
    (path other : Path) (hops : Nat) (fits : errorsOf set shape node path hops = []) :
    errorsOf set shape node other hops = [] := by
  induction shape, node, hops using validation_induction set generalizing path other with
  | any => rw [errorsOf]
  | scalar kind node hops =>
    rw [errorsOf] at fits ⊢
    split at fits
    next fine => rw [if_pos fine]
    next => cases fits
  | object node hops =>
    rw [errorsOf.eq_def] at fits ⊢
    cases node with
    | record fields => rfl
    | _ => cases fits
  | enum values node hops =>
    rw [errorsOf] at fits ⊢
    split at fits
    next fine => rw [if_pos fine]
    next => cases fits
  | array items node hops ih =>
    rw [errorsOf_array_eq_nil_iff] at fits ⊢
    obtain ⟨values, given, each⟩ := fits
    refine ⟨values, given, fun index value found => ?_⟩
    exact ih values given value (List.mem_of_getElem? found) _ _ (each index value found)
  | missing name node hops unknown =>
    rw [errorsOf_missing unknown] at fits
    cases fits
  | record name type properties required aliases node hops known body ih =>
    rw [errorsOf_record_eq_nil_iff known body] at fits ⊢
    obtain ⟨fields, given, declared, each⟩ := fits
    refine ⟨fields, given, declared, fun key property member => ?_⟩
    refine ⟨fun value found => ?_, (each key property member).2⟩
    exact ih fields given key value (Keyed.mem_of_get? found) property.shape _ _
      ((each key property member).1 value found)
  | union name type alternatives node hops known body ih =>
    -- Unions need both directions: that other alternatives do not fit must not depend on the path.
    rw [errorsOf_union_eq_nil_iff known body] at fits ⊢
    refine ⟨fits.1, (matchesUnion_congr fun alternative member => ?_).mp fits.2⟩
    exact ⟨ih fits.1 alternative member path other, ih fits.1 alternative member other path⟩
  | oneOf alternatives node hops ih =>
    rw [errorsOf, errorsOfUnion_eq_nil_iff] at fits ⊢
    refine (matchesUnion_congr fun alternative member => ?_).mp fits
    exact ⟨ih alternative member path other, ih alternative member other path⟩
  | decode format inner node hops ih =>
    rw [errorsOf] at fits ⊢
    split at fits
    next text => rw [if_pos text]
    next coded =>
      rw [if_neg coded]
      exact ih path other fits

/-- Whether a value fits a shape after `hops` union types have been entered at it. -/
def Fits (set : SchemaSet) (hops : Nat) (shape : Shape) (node : Node) : Prop :=
  errorsOf set shape node [] hops = []

theorem errorsOf_eq_nil_iff {set : SchemaSet} {shape : Shape} {node : Node} {path : Path}
    {hops : Nat} : errorsOf set shape node path hops = [] ↔ Fits set hops shape node :=
  ⟨errorsOf_eq_nil_of_path shape node path [] hops, errorsOf_eq_nil_of_path shape node [] path hops⟩

theorem validateShape_eq_nil_iff {set : SchemaSet} {shape : Shape} {node : Node} {path : Path} :
    validateShape set node shape path = [] ↔ Fits set 0 shape node := by
  rw [validateShape_eq, errorsOf_eq_nil_iff]

theorem isValid_iff {set : SchemaSet} {shape : Shape} {node : Node} :
    isValid set node shape = true ↔ Fits set 0 shape node := by
  rw [isValid, List.isEmpty_iff, validateShape_eq_nil_iff]

section Clauses

variable {set : SchemaSet} {hops : Nat} {node : Node}

theorem fits_any : Fits set hops .any node := by
  rw [Fits, errorsOf]

theorem fits_scalar {kind : Scalar} :
    Fits set hops (.scalar kind) node ↔ scalarMatches kind node = true := by
  rw [Fits, errorsOf]
  split
  next fine => simp [fine]
  next wrong => simp [wrong]

theorem fits_object : Fits set hops .object node ↔ ∃ fields, node = .record fields := by
  rw [Fits, errorsOf.eq_def]
  cases node <;> simp

theorem fits_enum {values : List Node} :
    Fits set hops (.enum values) node ↔ isMember values node = true := by
  rw [Fits, errorsOf]
  split
  next fine => simp [fine]
  next wrong => simp [wrong]

/-- Only an array is equal to a literal array. -/
theorem array_mem_of_isMember {values items : List Node}
    (listed : isMember values (.array items) = true) : ∃ others, .array others ∈ values := by
  obtain ⟨value, member, same⟩ := List.any_eq_true.mp listed
  cases value with
  | array others => exact ⟨others, member⟩
  | _ => simp [literalMatches, Node.equals] at same

theorem fits_array {items : Shape} :
    Fits set hops (.array items) node ↔
      ∃ values, node = .array values ∧ ∀ value ∈ values, Fits set 0 items value := by
  rw [Fits, errorsOf_array_eq_nil_iff]
  simp only [errorsOf_eq_nil_iff]
  constructor
  · rintro ⟨values, given, each⟩
    refine ⟨values, given, fun value member => ?_⟩
    obtain ⟨index, bound, here⟩ := List.getElem_of_mem member
    exact each index value (by simp [bound, here])
  · rintro ⟨values, given, each⟩
    exact ⟨values, given, fun index value found => each value (List.mem_of_getElem? found)⟩

theorem not_fits_missing {name : String} (missing : set.find? name = none) :
    ¬Fits set hops (.ref name) node := by
  rw [Fits, errorsOf_missing missing]
  exact nofun

theorem fits_oneOf {alternatives : List Shape} :
    Fits set hops (.oneOf alternatives) node ↔
      MatchesUnion (fun alternative => Fits set hops alternative node) alternatives node := by
  rw [Fits, errorsOf, errorsOfUnion_eq_nil_iff]
  rfl

theorem fits_union {name : String} {type : CompiledType} {alternatives : List Shape}
    (known : set.find? name = some type) (body : type.schema.body = .union alternatives) :
    Fits set hops (.ref name) node ↔ hops < set.limit ∧
      MatchesUnion (fun alternative => Fits set (hops + 1) alternative node) alternatives node :=
  errorsOf_union_eq_nil_iff known body node [] hops

theorem isString_iff {node : Node} : node.isString = true ↔ ∃ text, node = .string text := by
  cases node <;> simp [Node.isString]

theorem fits_decode {format : String} {inner : Shape} :
    Fits set hops (.decode format inner) node ↔
      node.isString = true ∨ Fits set hops inner node := by
  rw [Fits, errorsOf]
  split
  next text => simp [text]
  next coded => simp [coded, Fits]

/-- A record type is fitted by records with no other properties than the type declares, with
those it requires, and with a fitting value for each. -/
theorem fits_record {name : String} {type : CompiledType} {properties : Keyed Property}
    {required : List String} {aliases : Keyed String} (known : set.find? name = some type)
    (body : type.schema.body = .record properties required aliases)
    (formed : type.schema.WellFormed name) :
    Fits set hops (.ref name) node ↔
      ∃ fields, node = .record fields ∧
        (∀ key ∈ Keyed.keys fields, ∃ property, type.schema.property? key = some property) ∧
        (∀ key ∈ type.schema.required, ∃ value, Keyed.get? fields key = some value) ∧
        ∀ key property value, type.schema.property? key = some property →
          Keyed.get? fields key = some value → Fits set 0 property.shape value := by
  have all : type.schema.properties = properties := by rw [TypeSchema.properties, body]
  -- Distinct names make looking a property up the same as finding it listed.
  have lookup (key : String) (property : Property) :
      type.schema.property? key = some property ↔ (key, property) ∈ properties := by
    rw [TypeSchema.property?, all]
    exact Keyed.get?_eq_some_iff (all ▸ formed.distinct)
  rw [Fits, errorsOf_record_eq_nil_iff known body]
  simp only [errorsOf_eq_nil_iff, ← lookup, Keyed.contains, Option.isSome_iff_exists]
  constructor
  · rintro ⟨fields, given, declared, each⟩
    refine ⟨fields, given, declared, fun key listed => ?_,
      fun key property value found => (each key property found).1 value⟩
    obtain ⟨property, found⟩ := Option.isSome_iff_exists.mp (formed.declared key listed)
    exact Option.ne_none_iff_exists'.mp fun absent => (each key property found).2 absent listed
  · rintro ⟨fields, given, declared, present, each⟩
    refine ⟨fields, given, declared, fun key property found =>
      ⟨fun value => each key property value found, fun absent listed => ?_⟩⟩
    obtain ⟨value, here⟩ := present key listed
    simp [absent] at here

end Clauses

end DocSchema.Validation
