import DocSchema.Validation.Check

/-!
# The actions of a run

A run of the validator changes its context by actions: it records errors, steps down and up, enters
and leaves union types, and tries alternatives in forks. Replaying its actions shows every context
that a run passes through, where the run itself only answers with the last one.
-/

namespace DocSchema.Validation

/-! ### Actions -/

/-- What a run can do to its context. -/
inductive Action where
  | record (error : ValidationError)
  | push (segment : Segment)
  | pop (hops : Nat)
  | enter
  | leave
  /-- Tries an alternative by some actions in a fork and remembers the outcome. -/
  | attempt (alternative : Shape) (tried : List Action)

mutual

/-- The context after an action. -/
def Action.apply (action : Action) (context : Context) : Context :=
  match action with
  | .record error => context.record error
  | .push segment => context.push segment
  | .pop hops => context.pop hops
  | .enter => context.enter
  | .leave => context.leave
  | .attempt alternative tried =>
    let outcome := replay tried context.fork
    { context with
      trials := outcome.trials.add (context.trialKey alternative) outcome.errors }

/-- The context after one action after the other. -/
def replay (actions : List Action) (context : Context) : Context :=
  match actions with
  | [] => context
  | action :: rest => replay rest (action.apply context)

end

section Hops

variable (context : Context)

@[simp] theorem hops_fork : context.fork.hops = context.hops := rfl

@[simp] theorem hops_apply_record (error : ValidationError) :
    ((Action.record error).apply context).hops = context.hops := rfl

@[simp] theorem hops_apply_push (segment : Segment) :
    ((Action.push segment).apply context).hops = 0 := rfl

@[simp] theorem hops_apply_pop (hops : Nat) :
    ((Action.pop hops).apply context).hops = hops := rfl

@[simp] theorem hops_apply_enter : (Action.enter.apply context).hops = context.hops + 1 := rfl

@[simp] theorem hops_apply_leave : (Action.leave.apply context).hops = context.hops - 1 := rfl

@[simp] theorem hops_apply_attempt (alternative : Shape) (tried : List Action) :
    ((Action.attempt alternative tried).apply context).hops = context.hops := rfl

end Hops

/-- Whether one of the actions that are replayed from a context, in forks as well, is taken at
another context. -/
inductive Visits : List Action → Context → Action → Context → Prop where
  | now (action : Action) (rest : List Action) (context : Context) :
      Visits (action :: rest) context action context
  | inside {alternative : Shape} {tried rest : List Action} {context later : Context}
      {action : Action} (visits : Visits tried context.fork action later) :
      Visits (.attempt alternative tried :: rest) context action later
  | later {first : Action} {rest : List Action} {context later : Context} {action : Action}
      (visits : Visits rest (first.apply context) action later) :
      Visits (first :: rest) context action later

theorem replay_append (actions more : List Action) (context : Context) :
    replay (actions ++ more) context = replay more (replay actions context) := by
  induction actions generalizing context with
  | nil => rfl
  | cons action rest ih => exact ih (action.apply context)

theorem replay_records (errors : List ValidationError) (context : Context) :
    replay (errors.map .record) context = context.recordAll errors := by
  induction errors generalizing context with
  | nil => rfl
  | cons error rest ih =>
    rw [List.map_cons, replay, ih]
    simp [Action.apply, Context.record, Context.recordAll]

theorem visits_append {actions more : List Action} {context later : Context} {action : Action}
    (visits : Visits (actions ++ more) context action later) :
    Visits actions context action later ∨ Visits more (replay actions context) action later := by
  induction actions generalizing context with
  | nil => exact .inr visits
  | cons first rest ih =>
    cases visits with
    | now => exact .inl (.now _ _ _)
    | inside visits => exact .inl (.inside visits)
    | later visits => exact (ih visits).imp_left .later

/-! ### The actions of a run -/

mutual

/-- What a run does where a value is compared with a shape. -/
def actionsOf (set : SchemaSet) (shape : Shape) (node : Node) (context : Context) :
    List Action :=
  match shape with
  | .any => []
  | .scalar kind =>
    if scalarMatches kind node then []
    else [.record (.typeMismatch kind.text (actualKind node) context.path)]
  | .object =>
    match node with
    | .record _ => []
    | _ => [.record (.typeMismatch shape.text (actualKind node) context.path)]
  | .enum values =>
    if isMember values node then []
    else [.record (.literalMismatch (expectedLiterals values) node.literal context.path)]
  | .array items =>
    match node with
    | .array values => actionsOfItems set items 0 values context
    | _ => [.record (.typeMismatch shape.text (actualKind node) context.path)]
  | .ref name =>
    match set.find? name with
    | none => [.record (.undefinedReference name context.path)]
    | some type =>
      match type.schema.body with
      | .record properties _ _ =>
        match node with
        | .record fields =>
          actionsOfProperties set type.schema fields properties context
            ++ (undeclaredErrors type.schema fields context.path).map .record
        | _ => [.record (.typeMismatch type.schema.name (actualKind node) context.path)]
      | .union alternatives =>
        if context.hops < set.limit then
          .enter :: actionsOfUnion set alternatives node context.enter ++ [.leave]
        -- A hop is counted even where the union type is not entered any more.
        else [.enter, .record (.referenceCycle name context.path), .leave]
  | .oneOf alternatives => actionsOfUnion set alternatives node context
  | .decode _ inner => if node.isString then [] else actionsOf set inner node context
termination_by (node.weight, set.limit + 1 - context.hops, sizeOf shape, 0)
decreasing_by
  · exact Prod.Lex.left _ _ (by simp only [Node.weight]; omega)
  · exact Prod.Lex.left _ _ (by simp only [Node.weight]; omega)
  · exact Prod.Lex.right _ (Prod.Lex.left _ _ (by simp only [Context.enter]; omega))
  · exact Prod.Lex.right _ (Prod.Lex.right _ (Prod.Lex.left _ _
      (by simp only [Shape.oneOf.sizeOf_spec]; omega)))
  · exact Prod.Lex.right _ (Prod.Lex.right _ (Prod.Lex.left _ _
      (by simp only [Shape.decode.sizeOf_spec]; omega)))

/-- What a run does at the items of an array, the first of them at `position`. -/
def actionsOfItems (set : SchemaSet) (items : Shape) (position : Nat) (values : List Node)
    (context : Context) : List Action :=
  match values with
  | [] => []
  | value :: rest =>
    let below := context.push (.index position)
    .push (.index position) :: actionsOf set items value below
      ++ .pop context.hops :: actionsOfItems set items (position + 1) rest
        ((check set items value below).pop context.hops)
termination_by (Node.itemsWeight values, 0, 0, 0)
decreasing_by
  all_goals exact Prod.Lex.left _ _ (by simp only [Node.itemsWeight]; omega)

/-- What a run does at the properties of a record. -/
def actionsOfProperties (set : SchemaSet) (type : TypeSchema) (fields : Keyed Node)
    (properties : Keyed Property) (context : Context) : List Action :=
  match properties with
  | [] => []
  | (name, property) :: rest =>
    match _found : Keyed.get? fields name with
    | some value =>
      let below := context.push (.property name)
      .push (.property name) :: actionsOf set property.shape value below
        ++ .pop context.hops :: actionsOfProperties set type fields rest
          ((check set property.shape value below).pop context.hops)
    | none =>
      (missingErrors type name context.path).map .record
        ++ actionsOfProperties set type fields rest
          (context.recordAll (missingErrors type name context.path))
termination_by (Node.fieldsWeight fields, 0, 0, properties.length)
decreasing_by
  · have := Node.weight_lt_of_mem_fields (Keyed.mem_of_get? _found)
    exact Prod.Lex.left _ _ (by omega)
  all_goals
    exact Prod.Lex.right _ (Prod.Lex.right _ (Prod.Lex.right _
      (by simp only [List.length_cons]; omega)))

/-- What a run does where a value is compared with alternatives. -/
def actionsOfUnion (set : SchemaSet) (alternatives : List Shape) (node : Node)
    (context : Context) : List Action :=
  match _named : Shape.named? alternatives node with
  | some alternative => actionsOf set alternative node context
  | none =>
    actionsOfTrials set alternatives node context context.trials
      ++ (unionErrors context.path
        (tryAll set alternatives node context context.trials).1).map .record
termination_by (node.weight, set.limit + 1 - context.hops, sizeOf alternatives, 1)
decreasing_by
  · exact Prod.Lex.right _ (Prod.Lex.right _ (Prod.Lex.left _ _
      (List.sizeOf_lt_of_mem (Shape.mem_of_named? _named))))
  · exact Prod.Lex.right _ (Prod.Lex.right _ (Prod.Lex.right _ Nat.zero_lt_one))

/-- What a run does to try alternatives. Outcomes known before take no action. -/
def actionsOfTrials (set : SchemaSet) (alternatives : List Shape) (node : Node)
    (context : Context) (trials : Trials) : List Action :=
  match alternatives with
  | [] => []
  | alternative :: rest =>
    let key := context.trialKey alternative
    match trials.find? key with
    | some _ => actionsOfTrials set rest node context trials
    | none =>
      let tried := check set alternative node { context.fork with trials }
      .attempt alternative (actionsOf set alternative node { context.fork with trials })
        :: actionsOfTrials set rest node context (tried.trials.add key tried.errors)
termination_by (node.weight, set.limit + 1 - context.hops, sizeOf alternatives, 0)
decreasing_by
  all_goals
    exact Prod.Lex.right _ (Prod.Lex.right _ (Prod.Lex.left _ _
      (by simp only [List.cons.sizeOf_spec]; omega)))

end

section Equations

variable {set : SchemaSet} {context : Context}

theorem actionsOfProperties_present {type : TypeSchema} {fields : Keyed Node} {name : String}
    {property : Property} {rest : Keyed Property} {value : Node}
    (found : Keyed.get? fields name = some value) :
    actionsOfProperties set type fields ((name, property) :: rest) context =
      .push (.property name) ::
        actionsOf set property.shape value (context.push (.property name)) ++
        .pop context.hops :: actionsOfProperties set type fields rest
          ((check set property.shape value (context.push (.property name))).pop context.hops) := by
  rw [actionsOfProperties]
  split
  next other same =>
    rw [found] at same
    cases same
    rfl
  next absent => simp [found] at absent

theorem actionsOfProperties_absent {type : TypeSchema} {fields : Keyed Node} {name : String}
    {property : Property} {rest : Keyed Property} (absent : Keyed.get? fields name = none) :
    actionsOfProperties set type fields ((name, property) :: rest) context =
      (missingErrors type name context.path).map .record ++
        actionsOfProperties set type fields rest
          (context.recordAll (missingErrors type name context.path)) := by
  rw [actionsOfProperties]
  split
  next found => simp [absent] at found
  next => rfl

theorem actionsOfUnion_named {alternatives : List Shape} {node : Node} {alternative : Shape}
    (named : Shape.named? alternatives node = some alternative) :
    actionsOfUnion set alternatives node context = actionsOf set alternative node context := by
  rw [actionsOfUnion]
  split
  next other same =>
    rw [named] at same
    cases same
    rfl
  next unnamed => simp [named] at unnamed

theorem actionsOfUnion_unnamed {alternatives : List Shape} {node : Node}
    (unnamed : Shape.named? alternatives node = none) :
    actionsOfUnion set alternatives node context =
      actionsOfTrials set alternatives node context context.trials ++
        (unionErrors context.path
          (tryAll set alternatives node context context.trials).1).map .record := by
  rw [actionsOfUnion]
  split
  next named => simp [unnamed] at named
  next => rfl

end Equations

end DocSchema.Validation
