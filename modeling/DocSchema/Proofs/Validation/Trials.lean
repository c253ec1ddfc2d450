import DocSchema.Validation.Direct
import DocSchema.Node.Address

/-!
# What a run of the validator does to its context

A run restores path and hops, appends the errors of direct validation to those recorded
before, and adds only outcomes a fresh trial would have too. So neither the errors already
recorded nor the remembered outcomes can be seen in what a run finds. Main statements:
`check_reaches` for a run anywhere inside a tree, `errors_check` for a whole run, and
`validateShape_eq_validateAfresh`.
-/

namespace DocSchema.Validation

/-! ### Remembered outcomes -/

/-- Values at paths fit together: what is found one step down is the item or the field. -/
structure Coherent (value : Path → Option Node) : Prop where
  item : ∀ path items position, value path = some (.array items) →
    value (path.index position) = items[position]?
  field : ∀ path fields name, value path = some (.record fields) →
    value (path.property name) = Keyed.get? fields name

/-- The values of a tree that stands at a path. -/
def valueAt (above : Path) (node : Node) (path : Path) : Option Node :=
  if above <+: path then node.get? (path.drop above.length) else none

theorem valueAt_start (above : Path) (node : Node) : valueAt above node above = some node := by
  simp [valueAt, Node.get?]

/-- One step below a value of the tree. -/
theorem valueAt_below {above path : Path} {node inner : Node}
    (found : valueAt above node path = some inner) (segment : Segment) :
    valueAt above node (path ++ [segment]) = inner.child? segment := by
  unfold valueAt at found
  split at found
  · rename_i starts
    have drops : (path ++ [segment]).drop above.length = path.drop above.length ++ [segment] :=
      List.drop_append_of_le_length starts.length_le
    rw [valueAt, if_pos (starts.trans (List.prefix_append path [segment])), drops,
      Node.get?_append, found]
    simp only [Option.bind_some, Node.get?]
    cases inner.child? segment <;> rfl
  · cases found

theorem coherent_valueAt (above : Path) (node : Node) : Coherent (valueAt above node) where
  item _ _ position found := valueAt_below found (.index position)
  field _ _ name found := valueAt_below found (.property name)

/-- Every remembered outcome is the one a fresh trial would have. -/
def Faithful (set : SchemaSet) (value : Path → Option Node) (trials : Trials) : Prop :=
  ∀ key errors node, trials.find? key = some errors → value key.path = some node →
    errors = errorsOf set key.alternative node key.path key.hops

theorem Faithful.empty (set : SchemaSet) (value : Path → Option Node) :
    Faithful set value .empty := by
  intro key errors node known
  simp [Trials.find?_empty] at known

theorem Faithful.add {set : SchemaSet} {value : Path → Option Node} {trials : Trials}
    (faithful : Faithful set value trials) (key : TrialKey) {node : Node}
    (present : value key.path = some node) :
    Faithful set value (trials.add key (errorsOf set key.alternative node key.path key.hops)) := by
  intro other errors inner known otherPresent
  rcases Trials.find?_add known with old | ⟨rfl, rfl⟩
  · exact faithful other errors inner old otherPresent
  · rw [present] at otherPresent
    cases otherPresent
    rfl

/-- A run ends where it began, has recorded these errors after those before, and has kept
faithful outcomes. -/
def Reaches (set : SchemaSet) (value : Path → Option Node) (before : Context)
    (errors : List ValidationError) (after : Context) : Prop :=
  ∃ trials, Faithful set value trials ∧
    after = ⟨before.path, before.hops, errors.reverse ++ before.latest, trials⟩

theorem Reaches.refl {set : SchemaSet} {value : Path → Option Node} {context : Context}
    (faithful : Faithful set value context.trials) : Reaches set value context [] context :=
  ⟨context.trials, faithful, by simp⟩

theorem Reaches.record {set : SchemaSet} {value : Path → Option Node} {context : Context}
    (faithful : Faithful set value context.trials) (error : ValidationError) :
    Reaches set value context [error] (context.record error) :=
  ⟨context.trials, faithful, rfl⟩

theorem Reaches.recordAll {set : SchemaSet} {value : Path → Option Node} {before after : Context}
    {errors : List ValidationError} (reaches : Reaches set value before errors after)
    (more : List ValidationError) :
    Reaches set value before (errors ++ more) (after.recordAll more) := by
  obtain ⟨trials, faithful, rfl⟩ := reaches
  exact ⟨trials, faithful, by simp [Context.recordAll]⟩

/-! ### One step of the validator -/

theorem checkProperties_present {set : SchemaSet} {type : TypeSchema} {fields : Keyed Node}
    {name : String} {property : Property} {rest : Keyed Property} {context : Context}
    {value : Node} (found : Keyed.get? fields name = some value) :
    checkProperties set type fields ((name, property) :: rest) context =
      checkProperties set type fields rest
        ((check set property.shape value (context.push (.property name))).pop context.hops) := by
  rw [checkProperties]
  split
  · rename_i other same
    rw [found] at same
    cases same
    rfl
  · rename_i absent
    simp [found] at absent

theorem checkProperties_absent {set : SchemaSet} {type : TypeSchema} {fields : Keyed Node}
    {name : String} {property : Property} {rest : Keyed Property} {context : Context}
    (absent : Keyed.get? fields name = none) :
    checkProperties set type fields ((name, property) :: rest) context =
      checkProperties set type fields rest
        (context.recordAll (missingErrors type name context.path)) := by
  rw [checkProperties]
  split
  · rename_i found
    simp [absent] at found
  · rfl

theorem checkUnion_named {set : SchemaSet} {alternatives : List Shape} {node : Node}
    {context : Context} {alternative : Shape}
    (named : Shape.named? alternatives node = some alternative) :
    checkUnion set alternatives node context = check set alternative node context := by
  rw [checkUnion]
  split
  · rename_i other same
    rw [named] at same
    cases same
    rfl
  · rename_i unnamed
    simp [named] at unnamed

theorem checkUnion_unnamed {set : SchemaSet} {alternatives : List Shape} {node : Node}
    {context : Context} (unnamed : Shape.named? alternatives node = none) :
    checkUnion set alternatives node context =
      { context with trials := (tryAll set alternatives node context context.trials).2 }.recordAll
        (unionErrors context.path (tryAll set alternatives node context context.trials).1) := by
  rw [checkUnion]
  split
  · rename_i named
    simp [unnamed] at named
  · rfl

/-! ### Runs -/

mutual

/-- A run at a value of the tree records what direct validation finds there. -/
theorem check_reaches {set : SchemaSet} {value : Path → Option Node} (coherent : Coherent value)
    (shape : Shape) (node : Node) (context : Context) (present : value context.path = some node)
    (faithful : Faithful set value context.trials) :
    Reaches set value context (errorsOf set shape node context.path context.hops)
      (check set shape node context) := by
  cases shape with
  | any => rw [check, errorsOf]; exact .refl faithful
  | scalar kind =>
    rw [check, errorsOf]
    split
    · exact .refl faithful
    · exact .record faithful _
  | object =>
    rw [check.eq_def, errorsOf.eq_def]
    cases node with
    | record fields => exact .refl faithful
    | _ => exact .record faithful _
  | enum values =>
    rw [check, errorsOf]
    split
    · exact .refl faithful
    · exact .record faithful _
  | array items =>
    rw [check.eq_def, errorsOf.eq_def]
    cases given : node with
    | array values =>
      rw [given] at present
      exact checkItems_reaches coherent items 0 values context values present
        (fun position => by simp) faithful
    | _ => exact .record faithful _
  | ref name =>
    rw [check.eq_def, errorsOf.eq_def]
    cases known : set.find? name with
    | none => simpa only [known] using .record faithful _
    | some type =>
      simp only [known]
      cases body : type.schema.body with
      | record properties required aliases =>
        cases given : node with
        | record fields =>
          rw [given] at present
          -- Undeclared keys are reported after the properties, back at the record.
          exact (checkProperties_reaches coherent type.schema fields properties context present
            faithful).recordAll _
        | _ => exact .record faithful _
      | union alternatives =>
        simp only
        split
        -- A union type is one hop further, which is taken back on leaving it.
        · obtain ⟨trials, kept, reached⟩ :=
            checkUnion_reaches coherent alternatives node context.enter present faithful
          exact ⟨trials, kept, by rw [reached]; simp [Context.leave, Context.enter]⟩
        · exact ⟨context.trials, faithful, by simp [Context.leave, Context.enter, Context.record]⟩
  | oneOf alternatives =>
    rw [check, errorsOf]
    exact checkUnion_reaches coherent alternatives node context present faithful
  | decode format inner =>
    rw [check, errorsOf]
    split
    · exact .refl faithful
    · exact check_reaches coherent inner node context present faithful
termination_by (node.weight, set.limit + 1 - context.hops, sizeOf shape, 0)
decreasing_by
  · exact Prod.Lex.left _ _ (by simp only [given, Node.weight]; omega)
  · exact Prod.Lex.left _ _ (by simp only [given, Node.weight]; omega)
  · exact Prod.Lex.right _ (Prod.Lex.left _ _ (by simp only [Context.enter]; omega))
  · exact Prod.Lex.right _ (Prod.Lex.right _ (Prod.Lex.left _ _
      (by simp only [Shape.oneOf.sizeOf_spec]; omega)))
  · exact Prod.Lex.right _ (Prod.Lex.right _ (Prod.Lex.left _ _
      (by simp only [Shape.decode.sizeOf_spec]; omega)))

/-- Each item is a value of the tree one step below the array, and after it the run is back at
the array with no more hops than before. -/
theorem checkItems_reaches {set : SchemaSet} {value : Path → Option Node}
    (coherent : Coherent value) (items : Shape) (position : Nat) (values : List Node)
    (context : Context) (all : List Node) (present : value context.path = some (.array all))
    (placed : ∀ index, values[index]? = all[position + index]?)
    (faithful : Faithful set value context.trials) :
    Reaches set value context (errorsOfItems set items position values context.path)
      (checkItems set items position values context) := by
  cases listed : values with
  | nil => rw [checkItems, errorsOfItems]; exact .refl faithful
  | cons first rest =>
    rw [checkItems, errorsOfItems]
    have here : value (context.path.index position) = some first := by
      rw [coherent.item _ _ position present]
      simpa [listed] using (placed 0).symm
    obtain ⟨trials, kept, inside⟩ := check_reaches coherent items first
      (context.push (.index position)) here faithful
    simp only [inside]
    obtain ⟨last, faithful, later⟩ := checkItems_reaches coherent items (position + 1) rest
      (Context.pop ⟨context.path.index position, 0,
        (errorsOf set items first (context.path.index position) 0).reverse ++ context.latest,
        trials⟩ context.hops) all
      (by simpa [Context.pop, Path.index] using present)
      (fun index => by simpa [listed, Nat.add_assoc, Nat.add_comm 1] using placed (index + 1)) kept
    refine ⟨last, faithful, ?_⟩
    -- Below the array hops are counted afresh.
    rw [show context.push (.index position) = ⟨context.path.index position, 0, context.latest,
      context.trials⟩ from rfl, later]
    simp [Context.pop, Path.index]
termination_by (Node.itemsWeight values, 0, 0, 0)
decreasing_by
  all_goals exact Prod.Lex.left _ _ (by simp only [listed, Node.itemsWeight]; omega)

/-- Likewise for the properties of a record, present or absent. -/
theorem checkProperties_reaches {set : SchemaSet} {value : Path → Option Node}
    (coherent : Coherent value) (type : TypeSchema) (fields : Keyed Node)
    (properties : Keyed Property) (context : Context)
    (present : value context.path = some (.record fields))
    (faithful : Faithful set value context.trials) :
    Reaches set value context (errorsOfProperties set type fields properties context.path)
      (checkProperties set type fields properties context) := by
  cases properties with
  | nil => rw [checkProperties, errorsOfProperties]; exact .refl faithful
  | cons entry rest =>
    obtain ⟨name, property⟩ := entry
    cases found : Keyed.get? fields name with
    | some inner =>
      rw [checkProperties_present found, errorsOfProperties_present found]
      obtain ⟨trials, kept, inside⟩ := check_reaches coherent property.shape inner
        (context.push (.property name)) ((coherent.field _ _ name present).trans found) faithful
      simp only [inside]
      obtain ⟨last, faithful, later⟩ := checkProperties_reaches coherent type fields rest
        (Context.pop ⟨context.path.property name, 0,
          (errorsOf set property.shape inner (context.path.property name) 0).reverse
            ++ context.latest, trials⟩ context.hops)
        (by simpa [Context.pop, Path.property] using present) kept
      refine ⟨last, faithful, ?_⟩
      rw [show context.push (.property name) = ⟨context.path.property name, 0, context.latest,
        context.trials⟩ from rfl, later]
      simp [Context.pop, Path.property]
    | none =>
      rw [checkProperties_absent found, errorsOfProperties_absent found]
      obtain ⟨last, faithful, later⟩ := checkProperties_reaches coherent type fields rest
        (context.recordAll (missingErrors type name context.path)) present faithful
      refine ⟨last, faithful, ?_⟩
      rw [later]
      simp [Context.recordAll]
termination_by (Node.fieldsWeight fields, 0, 0, properties.length)
decreasing_by
  · exact Prod.Lex.right _ (Prod.Lex.right _ (Prod.Lex.right _ (Nat.lt_succ_self _)))
  · have := Node.weight_lt_of_mem_fields (Keyed.mem_of_get? found)
    exact Prod.Lex.left _ _ (by omega)
  · exact Prod.Lex.right _ (Prod.Lex.right _ (Prod.Lex.right _ (Nat.lt_succ_self _)))

/-- A union records what its named alternative has, or what all outcomes say of it. -/
theorem checkUnion_reaches {set : SchemaSet} {value : Path → Option Node}
    (coherent : Coherent value) (alternatives : List Shape) (node : Node) (context : Context)
    (present : value context.path = some node) (faithful : Faithful set value context.trials) :
    Reaches set value context (errorsOfUnion set alternatives node context.path context.hops)
      (checkUnion set alternatives node context) := by
  cases named : Shape.named? alternatives node with
  | some alternative =>
    rw [checkUnion_named named, errorsOfUnion_named named]
    exact check_reaches coherent alternative node context present faithful
  | none =>
    rw [checkUnion_unnamed named, errorsOfUnion_unnamed named]
    -- The trials leave outcomes behind, but record nothing themselves.
    obtain ⟨kept, outcomes⟩ := tryAll_outcomes coherent alternatives node context context.trials
      present faithful
    exact ⟨_, kept, by rw [outcomes]; rfl⟩
termination_by (node.weight, set.limit + 1 - context.hops, sizeOf alternatives, 1)
decreasing_by
  · exact Prod.Lex.right _ (Prod.Lex.right _ (Prod.Lex.right _ Nat.zero_lt_one))
  · exact Prod.Lex.right _ (Prod.Lex.right _ (Prod.Lex.left _ _
      (List.sizeOf_lt_of_mem (Shape.mem_of_named? named))))

/-- Remembered or tried afresh, the outcomes are the same, and those kept stay faithful. -/
theorem tryAll_outcomes {set : SchemaSet} {value : Path → Option Node}
    (coherent : Coherent value) (alternatives : List Shape) (node : Node) (context : Context)
    (trials : Trials) (present : value context.path = some node)
    (faithful : Faithful set value trials) :
    Faithful set value (tryAll set alternatives node context trials).2 ∧
      (tryAll set alternatives node context trials).1
        = outcomesOf set alternatives node context.path context.hops := by
  cases alternatives with
  | nil => rw [tryAll, outcomesOf]; exact ⟨faithful, rfl⟩
  | cons alternative rest =>
    rw [tryAll, outcomesOf]
    cases found : trials.find? (context.trialKey alternative) with
    | some errors =>
      obtain ⟨kept, outcomes⟩ :=
        tryAll_outcomes coherent rest node context trials present faithful
      -- A remembered outcome was that of a trial at this path, and so of this value.
      have known := faithful _ _ _ found present
      exact ⟨kept, by simp [outcomes, known, Context.trialKey]⟩
    | none =>
      -- The trial starts at the same place, with nothing recorded.
      obtain ⟨known, kept, tried⟩ := check_reaches coherent alternative node
        ⟨context.path, context.hops, [], trials⟩ present faithful
      have added := Faithful.add kept (context.trialKey alternative) present
      obtain ⟨kept, outcomes⟩ := tryAll_outcomes coherent rest node context
        (known.add (context.trialKey alternative)
          (errorsOf set alternative node context.path context.hops)) present added
      simp only [Context.fork, tried, Context.errors, List.append_nil, List.reverse_reverse]
      exact ⟨kept, congrArg _ outcomes⟩
termination_by (node.weight, set.limit + 1 - context.hops, sizeOf alternatives, 0)
decreasing_by
  all_goals
    exact Prod.Lex.right _ (Prod.Lex.right _ (Prod.Lex.left _ _
      (by simp only [List.cons.sizeOf_spec]; omega)))

end

/-! ### A whole run -/

/-- A run that starts anywhere, with faithful outcomes or none, appends the errors of direct
validation. -/
theorem errors_check {set : SchemaSet} (shape : Shape) (node : Node) (context : Context)
    (faithful : Faithful set (valueAt context.path node) context.trials) :
    (check set shape node context).errors =
      context.errors ++ errorsOf set shape node context.path context.hops := by
  obtain ⟨trials, _, reached⟩ := check_reaches (coherent_valueAt context.path node) shape node
    context (valueAt_start context.path node) faithful
  simp [reached, Context.errors]

theorem Faithful.check {set : SchemaSet} {shape : Shape} {node : Node} {context : Context}
    (faithful : Faithful set (valueAt context.path node) context.trials) :
    Faithful set (valueAt context.path node) (check set shape node context).trials := by
  obtain ⟨trials, still, reached⟩ := check_reaches (coherent_valueAt context.path node) shape node
    context (valueAt_start context.path node) faithful
  rw [reached]
  exact still

/-- Validation finds the errors of direct validation. -/
theorem validateShape_eq (set : SchemaSet) (node : Node) (shape : Shape) (path : Path) :
    validateShape set node shape path = errorsOf set shape node path 0 := by
  have found := errors_check shape node (Context.start path) (.empty set _)
  simpa [validateShape, Context.start, Context.errors] using found

/-- Validation that remembers no outcome, so every alternative is tried afresh. -/
def validateAfresh (set : SchemaSet) (node : Node) (shape : Shape) (path : Path) :
    List ValidationError :=
  (check set shape node { Context.start path with trials := .blank }).errors

/-- What is remembered of trials cannot be told from the errors. -/
theorem validateShape_eq_validateAfresh (set : SchemaSet) (node : Node) (shape : Shape)
    (path : Path) : validateShape set node shape path = validateAfresh set node shape path := by
  have faithful : Faithful set (valueAt path node) .blank := by
    intro key errors inner known
    rw [Trials.find?_blank] at known
    cases known
  have found := errors_check shape node { Context.start path with trials := .blank } faithful
  rw [validateShape_eq, validateAfresh, found]
  simp [Context.start, Context.errors]

end DocSchema.Validation
