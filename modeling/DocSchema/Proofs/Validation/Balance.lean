import DocSchema.Proofs.Validation.Limits
import DocSchema.Validation.Actions

/-!
# What a run does to its context

The actions of a run are in balance: every step down is followed by a step up that gives back the
hops counted before, and every entry of a union type by a leave. So whatever a run is given and
whatever is remembered, it ends where it began and only appends errors, and it never counts more
than one hop beyond the limit or beyond those it began with. Main statement: `check_restores`.
-/

namespace DocSchema.Validation

/-! ### Balance -/

/-- Whether actions at so many hops end where they began. A union type may be entered for more than
recording one error only below the limit. -/
inductive Balanced (limit : Nat) : Nat → List Action → Prop where
  | nil (hops : Nat) : Balanced limit hops []
  | record {hops : Nat} {rest : List Action} (error : ValidationError)
      (next : Balanced limit hops rest) : Balanced limit hops (.record error :: rest)
  | attempt {hops : Nat} {tried rest : List Action} (alternative : Shape)
      (inside : Balanced limit hops tried) (next : Balanced limit hops rest) :
      Balanced limit hops (.attempt alternative tried :: rest)
  | down {hops : Nat} {below rest : List Action} (segment : Segment)
      (inside : Balanced limit 0 below) (next : Balanced limit hops rest) :
      Balanced limit hops (.push segment :: below ++ .pop hops :: rest)
  | through {hops : Nat} {same rest : List Action} (within : hops < limit)
      (inside : Balanced limit (hops + 1) same) (next : Balanced limit hops rest) :
      Balanced limit hops (.enter :: same ++ .leave :: rest)
  | cut {hops : Nat} {rest : List Action} (error : ValidationError)
      (next : Balanced limit hops rest) :
      Balanced limit hops (.enter :: .record error :: .leave :: rest)

section Balanced

variable {limit hops : Nat}

theorem Balanced.append {actions more : List Action} (balanced : Balanced limit hops actions)
    (next : Balanced limit hops more) : Balanced limit hops (actions ++ more) := by
  induction balanced with
  | nil => exact next
  | record error _ ih => exact .record error (ih next)
  | attempt alternative inside _ _ ih => exact .attempt alternative inside (ih next)
  | down segment inside _ _ ih =>
    simpa only [List.cons_append, List.append_assoc] using Balanced.down segment inside (ih next)
  | through within inside _ _ ih =>
    simpa only [List.cons_append, List.append_assoc] using
      Balanced.through within inside (ih next)
  | cut error _ ih => exact .cut error (ih next)

theorem balanced_records (errors : List ValidationError) :
    Balanced limit hops (errors.map .record) := by
  induction errors with
  | nil => exact .nil hops
  | cons error rest ih => exact .record error ih

/-! ### Where balanced actions end -/

/-- Whether a context stands where another one stood, with nothing changed in the errors that were
recorded there. -/
structure Restores (before after : Context) : Prop where
  path : after.path = before.path
  hops : after.hops = before.hops
  errors : ∃ errors, after.errors = before.errors ++ errors

theorem Restores.refl (context : Context) : Restores context context :=
  ⟨rfl, rfl, [], by simp⟩

theorem Restores.trans {before between after : Context} (first : Restores before between)
    (second : Restores between after) : Restores before after := by
  obtain ⟨errors, recorded⟩ := first.errors
  obtain ⟨more, appended⟩ := second.errors
  refine ⟨second.path.trans first.path, second.hops.trans first.hops, errors ++ more, ?_⟩
  rw [appended, recorded, List.append_assoc]

theorem restores_record (context : Context) (error : ValidationError) :
    Restores context (context.record error) :=
  ⟨rfl, rfl, [error], by simp [Context.errors, Context.record]⟩

/-- A fork has errors of its own, so trying an alternative changes the remembered outcomes only. -/
theorem restores_attempt (context : Context) (alternative : Shape) (tried : List Action) :
    Restores context ((Action.attempt alternative tried).apply context) :=
  ⟨rfl, rfl, [], (List.append_nil _).symm⟩

/-- A step up leads back from wherever a step down has led. -/
theorem Restores.pop {context after : Context} {segment : Segment}
    (inside : Restores (context.push segment) after) :
    Restores context (after.pop context.hops) := by
  refine ⟨?_, rfl, inside.errors⟩
  simp [Context.pop, inside.path, Context.push]

/-- Leaving takes back what entering has counted. -/
theorem Restores.leave {context after : Context} (inside : Restores context.enter after) :
    Restores context after.leave := by
  refine ⟨inside.path, ?_, inside.errors⟩
  simp [Context.leave, inside.hops, Context.enter]

theorem Balanced.restores {actions : List Action} (balanced : Balanced limit hops actions)
    {context : Context} (here : context.hops = hops) :
    Restores context (replay actions context) := by
  induction balanced generalizing context with
  | nil => exact .refl context
  | record error _ ih => exact (restores_record context error).trans (ih here)
  | attempt alternative _ _ _ ih =>
    exact (restores_attempt context alternative _).trans (ih here)
  | @down hops below rest segment _ _ ihInside ih =>
    rw [List.cons_append, replay, replay_append, replay]
    have inside : Restores (context.push segment) (replay below (context.push segment)) :=
      ihInside rfl
    subst here
    exact inside.pop.trans (ih rfl)
  | @through hops same rest _ _ _ ihInside ih =>
    rw [List.cons_append, replay, replay_append, replay]
    have inside : Restores context.enter (replay same context.enter) :=
      ihInside (congrArg (· + 1) here)
    exact inside.leave.trans (ih (inside.leave.hops.trans here))
  | cut error _ ih =>
    have back := (restores_record context.enter error).leave
    exact back.trans (ih (back.hops.trans here))

/-! ### Hops on the way -/

/-- Whether an action keeps the hops within a bound, and takes back no hop where none has been
counted. -/
structure Orderly (bound : Nat) (action : Action) (context : Context) : Prop where
  before : context.hops ≤ bound
  after : (action.apply context).hops ≤ bound
  entered : action = .leave → 0 < context.hops

theorem Orderly.mono {bound wider : Nat} {action : Action} {context : Context}
    (orderly : Orderly bound action context) (le : bound ≤ wider) :
    Orderly wider action context :=
  ⟨Nat.le_trans orderly.before le, Nat.le_trans orderly.after le, orderly.entered⟩

/-- Only the last one of the entries inside each other may go beyond the limit, since nothing is
entered from there. -/
theorem Balanced.orderly {actions : List Action} (balanced : Balanced limit hops actions)
    {context later : Context} (here : context.hops = hops) {action : Action}
    (visits : Visits actions context action later) :
    Orderly (max hops limit + 1) action later := by
  -- In each case the action is the first one, or one of the block, which is balanced itself, or it
  -- comes after the block, where the hops are again those from before it.
  induction balanced generalizing context with
  | nil => cases visits
  | record error _ ih =>
    cases visits with
    | now => exact ⟨by omega, by simp; omega, by simp⟩
    | later visits => exact ih (by simpa using here) visits
  | attempt alternative _ _ ihInside ih =>
    cases visits with
    | now => exact ⟨by omega, by simp; omega, by simp⟩
    | inside visits => exact ihInside (by simpa using here) visits
    | later visits => exact ih (by simpa using here) visits
  | @down hops below rest segment inside _ ihInside ih =>
    cases visits with
    | now => exact ⟨by omega, by simp, by simp⟩
    | later visits =>
      rcases visits_append visits with visits | visits
      · exact (ihInside (by simp) visits).mono (by omega)
      · have ended : (replay below ((Action.push segment).apply context)).hops = 0 :=
          (inside.restores rfl).hops
        cases visits with
        | now => exact ⟨by omega, by simp; omega, by simp⟩
        | later visits => exact ih (by simp) visits
  | @through hops same rest within inside _ ihInside ih =>
    cases visits with
    | now => exact ⟨by omega, by simp; omega, by simp⟩
    | later visits =>
      rcases visits_append visits with visits | visits
      · exact (ihInside (by simpa using here) visits).mono (by omega)
      · have ended : (replay same (Action.enter.apply context)).hops = hops + 1 := by
          rw [(inside.restores (congrArg (· + 1) here)).hops, hops_apply_enter, here]
        cases visits with
        | now => exact ⟨by omega, by simp; omega, by omega⟩
        | later visits => exact ih (by simp [ended]) visits
  | cut error _ ih =>
    -- Beyond the limit there is an entry, an error and the way back, one hop above the bound.
    cases visits with
    | now => exact ⟨by omega, by simp; omega, by simp⟩
    | later visits =>
      cases visits with
      | now => exact ⟨by simp; omega, by simp; omega, by simp⟩
      | later visits =>
        cases visits with
        | now => exact ⟨by simp; omega, by simp; omega, by simp⟩
        | later visits => exact ih (by simpa using here) visits

end Balanced

/-! ### Runs -/

/-- Whether balanced actions lead from a context to another one. -/
structure Accounts (limit : Nat) (before : Context) (actions : List Action) (after : Context) :
    Prop where
  balanced : Balanced limit before.hops actions
  replayed : replay actions before = after

section Accounts

variable {limit : Nat} {context between after : Context} {actions : List Action}

theorem Accounts.nil : Accounts limit context [] context := ⟨.nil _, rfl⟩

theorem Accounts.record (error : ValidationError) :
    Accounts limit context [.record error] (context.record error) :=
  ⟨.record error (.nil _), rfl⟩

theorem Accounts.hops (accounts : Accounts limit context actions after) :
    after.hops = context.hops := by
  rw [← accounts.replayed]
  exact (accounts.balanced.restores rfl).hops

theorem Accounts.append {more : List Action} (first : Accounts limit context actions between)
    (second : Accounts limit between more after) :
    Accounts limit context (actions ++ more) after := by
  refine ⟨first.balanced.append (first.hops ▸ second.balanced), ?_⟩
  rw [replay_append, first.replayed, second.replayed]

theorem Accounts.records (accounts : Accounts limit context actions after)
    (errors : List ValidationError) :
    Accounts limit context (actions ++ errors.map .record) (after.recordAll errors) :=
  accounts.append ⟨balanced_records errors, replay_records errors after⟩

theorem Accounts.attempt {trials : Trials} {alternative : Shape} {tried rest : List Action}
    (inside : Accounts limit { context.fork with trials } tried between)
    (next : Accounts limit { context with
      trials := between.trials.add (context.trialKey alternative) between.errors } rest after) :
    Accounts limit { context with trials } (.attempt alternative tried :: rest) after := by
  refine ⟨.attempt alternative inside.balanced next.balanced, ?_⟩
  have outcome : replay tried (Context.fork { context with trials }) = between := inside.replayed
  rw [replay, Action.apply, outcome]
  exact next.replayed

theorem Accounts.down {segment : Segment} {below rest : List Action}
    (inside : Accounts limit (context.push segment) below between)
    (next : Accounts limit (between.pop context.hops) rest after) :
    Accounts limit context (.push segment :: below ++ .pop context.hops :: rest) after := by
  refine ⟨.down segment inside.balanced next.balanced, ?_⟩
  have outcome : replay below ((Action.push segment).apply context) = between := inside.replayed
  rw [List.cons_append, replay, replay_append, outcome]
  exact next.replayed

theorem Accounts.through (within : context.hops < limit)
    (inside : Accounts limit context.enter actions between) :
    Accounts limit context (.enter :: actions ++ [.leave]) between.leave := by
  refine ⟨.through within inside.balanced (.nil _), ?_⟩
  have outcome : replay actions (Action.enter.apply context) = between := inside.replayed
  rw [List.cons_append, replay, replay_append, outcome]
  rfl

theorem Accounts.cut (error : ValidationError) :
    Accounts limit context [.enter, .record error, .leave] (context.enter.record error).leave :=
  ⟨.cut error (.nil _), rfl⟩

end Accounts

mutual

/-- The actions of a run are balanced, and replaying them is the run. -/
theorem check_accounts (set : SchemaSet) (shape : Shape) (node : Node) (context : Context) :
    Accounts set.limit context (actionsOf set shape node context)
      (check set shape node context) := by
  cases shape with
  | any => rw [check, actionsOf]; exact .nil
  | scalar kind =>
    rw [check, actionsOf]
    split
    · exact .nil
    · exact .record _
  | object =>
    rw [check.eq_def, actionsOf.eq_def]
    cases node with
    | record fields => exact .nil
    | _ => exact .record _
  | enum values =>
    rw [check, actionsOf]
    split
    · exact .nil
    · exact .record _
  | array items =>
    rw [check.eq_def, actionsOf.eq_def]
    cases node with
    | array values => exact checkItems_accounts set items 0 values context
    | _ => exact .record _
  | ref name =>
    rw [check.eq_def, actionsOf.eq_def]
    cases known : set.find? name with
    | none => simpa only [known] using .record _
    | some type =>
      simp only [known]
      cases body : type.schema.body with
      | record properties required aliases =>
        cases node with
        | record fields =>
          exact (checkProperties_accounts set type.schema fields properties context).records _
        | _ => exact .record _
      | union alternatives =>
        simp only
        split
        -- Below the limit a block of the alternatives' actions, else a cut.
        next within =>
          exact (checkUnion_accounts set alternatives node context.enter).through within
        next => exact .cut _
  | oneOf alternatives =>
    rw [check, actionsOf]
    exact checkUnion_accounts set alternatives node context
  | decode format inner =>
    rw [check, actionsOf]
    split
    · exact .nil
    · exact check_accounts set inner node context
termination_by (node.weight, set.limit + 1 - context.hops, sizeOf shape, 0)
decreasing_by
  · exact Prod.Lex.left _ _ (by simp only [Node.weight]; omega)
  · exact Prod.Lex.left _ _ (by simp only [Node.weight]; omega)
  · exact Prod.Lex.right _ (Prod.Lex.left _ _ (by simp only [Context.enter]; omega))
  · exact Prod.Lex.right _ (Prod.Lex.right _ (Prod.Lex.left _ _
      (by simp only [Shape.oneOf.sizeOf_spec]; omega)))
  · exact Prod.Lex.right _ (Prod.Lex.right _ (Prod.Lex.left _ _
      (by simp only [Shape.decode.sizeOf_spec]; omega)))

theorem checkItems_accounts (set : SchemaSet) (items : Shape) (position : Nat)
    (values : List Node) (context : Context) :
    Accounts set.limit context (actionsOfItems set items position values context)
      (checkItems set items position values context) := by
  cases values with
  | nil => rw [checkItems, actionsOfItems]; exact .nil
  | cons first rest =>
    rw [checkItems, actionsOfItems]
    exact (check_accounts set items first (context.push (.index position))).down
      (checkItems_accounts set items (position + 1) rest _)
termination_by (Node.itemsWeight values, 0, 0, 0)
decreasing_by
  all_goals exact Prod.Lex.left _ _ (by simp only [Node.itemsWeight]; omega)

theorem checkProperties_accounts (set : SchemaSet) (type : TypeSchema) (fields : Keyed Node)
    (properties : Keyed Property) (context : Context) :
    Accounts set.limit context (actionsOfProperties set type fields properties context)
      (checkProperties set type fields properties context) := by
  cases properties with
  | nil => rw [checkProperties, actionsOfProperties]; exact .nil
  | cons entry rest =>
    obtain ⟨name, property⟩ := entry
    cases found : Keyed.get? fields name with
    | some value =>
      rw [checkProperties_present found, actionsOfProperties_present found]
      exact (check_accounts set property.shape value (context.push (.property name))).down
        (checkProperties_accounts set type fields rest _)
    | none =>
      rw [checkProperties_absent found, actionsOfProperties_absent found]
      exact (Accounts.nil.records _).append (checkProperties_accounts set type fields rest _)
termination_by (Node.fieldsWeight fields, 0, 0, properties.length)
decreasing_by
  · exact Prod.Lex.right _ (Prod.Lex.right _ (Prod.Lex.right _ (Nat.lt_succ_self _)))
  · have := Node.weight_lt_of_mem_fields (Keyed.mem_of_get? found)
    exact Prod.Lex.left _ _ (by omega)
  · exact Prod.Lex.right _ (Prod.Lex.right _ (Prod.Lex.right _ (Nat.lt_succ_self _)))

theorem checkUnion_accounts (set : SchemaSet) (alternatives : List Shape) (node : Node)
    (context : Context) :
    Accounts set.limit context (actionsOfUnion set alternatives node context)
      (checkUnion set alternatives node context) := by
  cases named : Shape.named? alternatives node with
  | some alternative =>
    rw [checkUnion_named named, actionsOfUnion_named named]
    exact check_accounts set alternative node context
  | none =>
    rw [checkUnion_unnamed named, actionsOfUnion_unnamed named]
    exact (tryAll_accounts set alternatives node context context.trials).records _
termination_by (node.weight, set.limit + 1 - context.hops, sizeOf alternatives, 1)
decreasing_by
  · exact Prod.Lex.right _ (Prod.Lex.right _ (Prod.Lex.right _ Nat.zero_lt_one))
  · exact Prod.Lex.right _ (Prod.Lex.right _ (Prod.Lex.left _ _
      (List.sizeOf_lt_of_mem (Shape.mem_of_named? named))))

/-- Trying alternatives changes nothing but what is remembered. -/
theorem tryAll_accounts (set : SchemaSet) (alternatives : List Shape) (node : Node)
    (context : Context) (trials : Trials) :
    Accounts set.limit { context with trials }
      (actionsOfTrials set alternatives node context trials)
      { context with trials := (tryAll set alternatives node context trials).2 } := by
  cases alternatives with
  | nil => rw [tryAll, actionsOfTrials]; exact .nil
  | cons alternative rest =>
    rw [tryAll, actionsOfTrials]
    cases found : trials.find? (context.trialKey alternative) with
    | some errors =>
      exact tryAll_accounts set rest node context trials
    | none =>
      exact (check_accounts set alternative node { context.fork with trials }).attempt
        (tryAll_accounts set rest node context _)
termination_by (node.weight, set.limit + 1 - context.hops, sizeOf alternatives, 0)
decreasing_by
  all_goals
    exact Prod.Lex.right _ (Prod.Lex.right _ (Prod.Lex.left _ _
      (by simp only [List.cons.sizeOf_spec]; omega)))

end

/-- A run ends where it began, whatever is remembered, and appends errors to those recorded before.
Where what is remembered is faithful, it stays so, and these errors depend on nothing but the shape,
the value, its path and the hops that had been counted. The run is its actions one after the other,
and on the way, in forks as well, at most one hop is counted beyond the limit or beyond those the
run began with, and none is taken back that was not counted. -/
theorem check_restores (set : SchemaSet) (shape : Shape) (node : Node) (context : Context) :
    Restores context (check set shape node context) ∧
    (Faithful set (valueAt context.path node) context.trials →
      (check set shape node context).errors =
          context.errors ++ errorsOf set shape node context.path context.hops ∧
        Faithful set (valueAt context.path node) (check set shape node context).trials) ∧
    replay (actionsOf set shape node context) context = check set shape node context ∧
    ∀ action later, Visits (actionsOf set shape node context) context action later →
      Orderly (max context.hops set.limit + 1) action later := by
  obtain ⟨balanced, replayed⟩ := check_accounts set shape node context
  have restores := balanced.restores rfl
  rw [replayed] at restores
  refine ⟨restores, fun faithful => ?_, replayed, fun action later visits => ?_⟩
  · exact ⟨errors_check shape node context faithful, faithful.check⟩
  · exact balanced.orderly rfl visits

/-! ### A run that is cut off -/

/-- The fourth item of an array, with an error recorded before. -/
def fourthItem : Context where
  path := [.index 3]
  hops := 0
  latest := [.unknownProperty "note" []]
  trials := .empty

/-- The flag inside the flag counts a hop, though it is not entered. -/
theorem actionsOf_flag :
    actionsOf (flags.withLimit 1) (.ref "Flag") (.boolean true) fourthItem =
      [.enter, .attempt (.ref "Flag") [.enter, .record (.referenceCycle "Flag" [.index 3]), .leave],
        .attempt (.scalar .boolean) [], .leave] := by cbv

/-- So two hops have been counted at a limit of one. -/
theorem check_restores_flag :
    Faithful (flags.withLimit 1) (valueAt fourthItem.path (.boolean true)) fourthItem.trials ∧
    (check (flags.withLimit 1) (.ref "Flag") (.boolean true) fourthItem).hops = 0 ∧
    (check (flags.withLimit 1) (.ref "Flag") (.boolean true) fourthItem).errors =
      [.unknownProperty "note" []] ∧
    ∃ later, Visits (actionsOf (flags.withLimit 1) (.ref "Flag") (.boolean true) fourthItem)
        fourthItem .leave later ∧ later.hops = 2 ∧ Orderly 2 .leave later := by
  have faithful : Faithful (flags.withLimit 1) (valueAt fourthItem.path (.boolean true))
      fourthItem.trials := .empty _ _
  obtain ⟨restores, appends, -, orderly⟩ :=
    check_restores (flags.withLimit 1) (.ref "Flag") (.boolean true) fourthItem
  have fits : Fits (flags.withLimit 1) 0 (.ref "Flag") (.boolean true) :=
    validateShape_eq_nil_iff.mp validateShape_flag_once
  have nothing : errorsOf (flags.withLimit 1) (.ref "Flag") (.boolean true) fourthItem.path
      fourthItem.hops = [] := errorsOf_eq_nil_iff.mpr fits
  refine ⟨faithful, restores.hops, ?_, ?_⟩
  · rw [(appends faithful).1, nothing]
    rfl
  · rw [actionsOf_flag] at orderly ⊢
    refine ⟨_, .later (.inside (.later (.later (.now _ _ _)))), rfl, ?_⟩
    exact orderly _ _ (.later (.inside (.later (.later (.now _ _ _)))))

end DocSchema.Validation
