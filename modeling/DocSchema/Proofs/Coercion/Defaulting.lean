import DocSchema.Proofs.Coercion.Reshaping
import Mathlib

/-!
# Types that are being filled in

Reshaping is followed here call by call: with a state that holds the warnings so far and a stack of
the types whose least records are being built, and with fuel for the depth of calls. Every call
comes to an end, whatever types require each other. It leaves the stack as it was, no type is built
while it is being built already, and with nothing on the stack it makes what `reshape` makes. Main
statement: `passes_return`.
-/

namespace DocSchema.Coercion

/-! ### Passes -/

/-- What calls change. -/
structure Reshaper where
  warnings : List Warning
  /-- The types whose least records are being built, the latest first. -/
  defaulting : List String
  /-- The types that have been built, each with those that the calls around it were building. The
  calls are not led by this. -/
  built : List (String × List String)

/-- A call, which has no outcome if it runs out of fuel. -/
abbrev Pass := StateT Reshaper Option

namespace Reshaper

/-- The state once more has been told and built. -/
def after (start : Reshaper) (told : List Warning) (built : List (String × List String)) :
    Reshaper :=
  { start with warnings := start.warnings ++ told, built := start.built ++ built }

def push (start : Reshaper) (name : String) (around : List String) : Reshaper :=
  { start with defaulting := name :: start.defaulting, built := start.built ++ [(name, around)] }

def pop (start : Reshaper) : Reshaper := { start with defaulting := start.defaulting.tail }

variable {start : Reshaper}

@[simp] theorem after_nil : start.after [] [] = start := by
  simp [after]

@[simp] theorem after_after {told more : List Warning}
    {built others : List (String × List String)} :
    (start.after told built).after more others = start.after (told ++ more) (built ++ others) := by
  simp [after]

/-- What is on the stack is taken from it again. -/
@[simp] theorem pop_after_push {name : String} {around : List String} {told : List Warning}
    {built : List (String × List String)} :
    ((start.push name around).after told built).pop =
      start.after told ((name, around) :: built) := by
  simp [push, after, pop]

end Reshaper

def tell (warnings : List Warning) : Pass Unit := modify fun state => state.after warnings []

/-- Goes through a call with a type on the stack. -/
def building {α : Type} (name : String) (around : List String) (inner : Pass α) : Pass α := do
  modify fun state => state.push name around
  let made ← inner
  modify Reshaper.pop
  pure made

/-- Reshapes the items of an array one after another. -/
def eachItem (inside : Path → Node → Pass Node) (path : Path) (position : Nat) :
    List Node → Pass (List Node)
  | [] => pure []
  | value :: rest => do
    let first ← inside (path.index position) value
    let later ← eachItem inside path (position + 1) rest
    pure (first :: later)

/-- Reshapes the values of fields that have canonical names. -/
def eachField (set : SchemaSet) (inside : Shape → Path → Node → Pass Node) (type : TypeSchema)
    (path : Path) : List (String × Node) → Pass (Keyed Node)
  | [] => pure []
  | (name, value) :: rest =>
    match type.property? name with
    | none => eachField set inside type path rest
    | some property => do
      let fixed := fixCardinality set name value property.shape path
      tell fixed.warnings
      match fixed.value with
      | none => eachField set inside type path rest
      | some value =>
        let first ← inside property.shape (path.property name) value
        let later ← eachField set inside type path rest
        pure ((name, first) :: later)

/-- The value that is filled in for a property. -/
def defaultOr (empty : Shape → Pass Node) (property : Property) : Pass Node :=
  match property.default with
  | some value => pure value
  | none => empty property.shape

/-- Fills in the required properties that are absent. -/
def fillEach (empty : Shape → Pass Node) (type : TypeSchema) :
    List String → Keyed Node → Pass (Keyed Node)
  | [], fields => pure fields
  | name :: rest, fields =>
    if Keyed.contains fields name then fillEach empty type rest fields
    else
      match type.property? name with
      | none => fillEach empty type rest fields
      | some property => do
        let value ← defaultOr empty property
        fillEach empty type rest (addFilled fields name value)

/-- Reshapes a record: names, then values, then what is absent. -/
def eachPart (set : SchemaSet) (inside : Shape → Path → Node → Pass Node)
    (empty : Shape → Pass Node) (type : CompiledType) (path : Path)
    (fields : List (String × Node)) : Pass (Keyed Node) := do
  let canonical := canonicalize type.names path [] fields
  tell canonical.warnings
  let shaped ← eachField set inside type.schema path canonical.value
  fillEach empty type.schema type.schema.required shaped

mutual

/-- Reshapes a value, inside calls that are building some types. -/
def reshapeIn (set : SchemaSet) (fuel : Nat) (around : List String) (shape : Shape) (path : Path)
    (node : Node) : Pass Node :=
  match fuel with
  | 0 => failure
  | fuel + 1 =>
    match shape, node with
    | .ref name, .record fields =>
      match recordTarget? set fields name with
      | none => pure (.record fields)
      | some type => do
        let record ← eachPart set (reshapeIn set fuel around) (emptyIn set fuel around) type path
          fields
        pure (.record record)
    | .oneOf alternatives, .record fields =>
      match Shape.named? alternatives (.record fields) with
      | none => pure (.record fields)
      | some alternative => reshapeIn set fuel around alternative path (.record fields)
    | .array items, .array values => do
      let inside ← eachItem (reshapeIn set fuel around items) path 0 values
      pure (.array inside)
    | .array items, .record fields => do
      let inside ← eachItem (reshapeIn set fuel around items) path 0 [.record fields]
      pure (.array inside)
    | .decode _ inner, node =>
      if node.isString then pure node else reshapeIn set fuel around inner path node
    | _, node => pure node

/-- Builds the least value of a shape, inside calls that are building some types. What is asked is
the stack, not the calls. -/
def emptyIn (set : SchemaSet) (fuel : Nat) (around : List String) (shape : Shape) : Pass Node :=
  match fuel with
  | 0 => failure
  | fuel + 1 =>
    match shape with
    | .ref name =>
      match set.recordType? name with
      | none => pure (.string "")
      | some type => do
        let state ← get
        if state.defaulting.contains name then pure (.string "")
        else
          let record ← building name around <|
            eachPart set (reshapeIn set fuel (name :: around))
              (emptyIn set fuel (name :: around)) type [] []
          pure (.record record)
    | shape => pure (emptyValue set [] shape)

end

/-- Reshapes a record, inside calls that are building some types. -/
def recordIn (set : SchemaSet) (fuel : Nat) (around : List String) (type : CompiledType)
    (path : Path) (fields : List (String × Node)) : Pass (Keyed Node) :=
  eachPart set (reshapeIn set fuel around) (emptyIn set fuel around) type path fields

/-! ### Calls that return -/

section Returns

variable {α β : Type} {around : List String} {told more : List Warning} {value : α}

/-- Whether a call, made while some types are being built, comes to an end with a value once it is
given enough fuel: it leaves the stack, and builds no type while that is being built already. -/
def Returns (around : List String) (run : Nat → Pass α) (value : α) (told : List Warning) : Prop :=
  ∃ built, (∀ build ∈ built, build.1 ∉ build.2) ∧ ∃ enough, ∀ fuel, enough ≤ fuel →
    ∀ start : Reshaper, start.defaulting = around →
      run fuel start = some (value, start.after told built)

namespace Returns

theorem pure (value : α) : Returns around (fun _ => Pure.pure value) value [] := by
  refine ⟨[], by simp, 0, fun fuel _ start _ => ?_⟩
  rw [Reshaper.after_nil]
  rfl

theorem tell (told : List Warning) : Returns around (fun _ => Coercion.tell told) () told :=
  ⟨[], by simp, 0, fun _ _ _ _ => rfl⟩

theorem bind {run : Nat → Pass α} {next : Nat → α → Pass β} {result : β}
    (first : Returns around run value told)
    (second : Returns around (fun fuel => next fuel value) result more) :
    Returns around (fun fuel => run fuel >>= next fuel) result (told ++ more) := by
  obtain ⟨built, fresh, enough, ran⟩ := first
  obtain ⟨others, freshToo, enoughToo, ranToo⟩ := second
  -- The first call leaves the stack, so that the second one starts from the same.
  refine ⟨built ++ others, ?_, max enough enoughToo, fun fuel large start stack => ?_⟩
  · intro build member
    rcases List.mem_append.mp member with here | there
    · exact fresh build here
    · exact freshToo build there
  · have here := ran fuel (by omega) start stack
    have there := ranToo fuel (by omega) (start.after told built) stack
    change (run fuel start).bind (fun made => next fuel made.1 made.2) = _
    rw [here, ← Reshaper.after_after]
    exact there

/-- The value that a call makes may be put into another. -/
theorem map {run : Nat → Pass α} (first : Returns around run value told) (wrap : α → β) :
    Returns around (fun fuel => do let made ← run fuel; Pure.pure (wrap made)) (wrap value)
      told := by
  rw [← List.append_nil told]
  exact first.bind (Returns.pure (wrap value))

/-- What a call asks the stack is whether a type is being built. -/
theorem ask {name : String} {known other : Nat → Pass α}
    (inner : Returns around
      (fun fuel => if around.contains name then known fuel else other fuel) value told) :
    Returns around (fun fuel => do
      let state ← get
      if state.defaulting.contains name then known fuel else other fuel) value told := by
  obtain ⟨built, fresh, enough, ran⟩ := inner
  refine ⟨built, fresh, enough, fun fuel large start stack => ?_⟩
  rw [← ran fuel large start stack, ← stack]
  rfl

/-- A call that goes one call down. -/
theorem down {run : Nat → Pass α}
    (inner : Returns around (fun fuel => run (fuel + 1)) value told) :
    Returns around run value told := by
  obtain ⟨built, fresh, enough, ran⟩ := inner
  refine ⟨built, fresh, enough + 1, fun fuel large start stack => ?_⟩
  obtain ⟨less, rfl⟩ : ∃ less, fuel = less + 1 := ⟨fuel - 1, by omega⟩
  exact ran less (by omega) start stack

/-- A call made with a type on the stack that was not there. -/
theorem building {name : String} {run : Nat → Pass α} (fresh : name ∉ around)
    (inner : Returns (name :: around) run value told) :
    Returns around (fun fuel => Coercion.building name around (run fuel)) value told := by
  obtain ⟨built, others, enough, ran⟩ := inner
  refine ⟨(name, around) :: built, ?_, enough, fun fuel large start stack => ?_⟩
  · -- The type itself was not on the stack, and within it no type is built twice.
    intro build member
    rcases List.mem_cons.mp member with rfl | there
    · exact fresh
    · exact others build there
  · have inside := ran fuel large (start.push name around) (by rw [Reshaper.push, stack])
    change (run fuel (start.push name around)).bind
      (fun made => some (made.1, made.2.pop)) = _
    rw [inside, ← Reshaper.pop_after_push]
    rfl

end Returns

end Returns

/-! ### Least values -/

section Empty

variable {set : SchemaSet} {around : List String} {shape : Shape}

/-- Only where a type is expected does the least value depend on what is being built. -/
theorem emptyIn_plain (plain : ∀ name, shape ≠ .ref name) :
    Returns around (fun fuel => emptyIn set fuel around shape) (emptyValue set around shape)
      [] := by
  have same : emptyValue set around shape = emptyValue set [] shape := by
    cases shape with
    | ref name => exact absurd rfl (plain name)
    | scalar kind => cases kind <;> simp [emptyValue]
    | _ => simp [emptyValue]
  rw [same]
  refine .down ?_
  cases shape with
  | ref name => exact absurd rfl (plain name)
  | _ => exact .pure _

theorem emptyValue_unknown {name : String} (unknown : set.recordType? name = none) :
    emptyValue set around (.ref name) = .string "" := by
  rw [emptyValue]
  split
  next => rfl
  next known => rw [unknown] at known; cases known

theorem emptyValue_fresh {name : String} {type : CompiledType}
    (known : set.recordType? name = some type) (fresh : around.contains name = false) :
    emptyValue set around (.ref name) =
      .record (fillRequired set (name :: around) type.schema type.schema.required []) := by
  rw [emptyValue]
  split
  next unknown => rw [known] at unknown; cases unknown
  next other found =>
    rw [known] at found
    cases found
    rw [dif_pos fresh]

/-- The circle is cut with an empty text. -/
theorem emptyValue_circle {name : String} (building : around.contains name = true) :
    emptyValue set around (.ref name) = .string "" := by
  rw [emptyValue]
  split
  next => rfl
  next => rw [dif_neg (by simpa using building)]

/-- A type that is not being built is built, from a record without entries. -/
theorem emptyIn_fresh {name : String} {type : CompiledType} {record : Keyed Node}
    (known : set.recordType? name = some type) (fresh : around.contains name = false)
    (inner : Returns (name :: around) (fun fuel => fillEach (emptyIn set fuel (name :: around))
      type.schema type.schema.required []) record []) :
    Returns around (fun fuel => emptyIn set fuel around (.ref name)) (.record record) [] := by
  have part : Returns (name :: around) (fun fuel => eachPart set
      (reshapeIn set fuel (name :: around)) (emptyIn set fuel (name :: around)) type [] [])
      record [] :=
    (Returns.tell []).bind ((Returns.pure []).bind inner)
  refine .down ?_
  simp only [emptyIn, known]
  -- The stack says that the type is not being built, as the calls around do.
  refine .ask ?_
  simp only [fresh, Bool.false_eq_true, if_false]
  have absent : name ∉ around := by simpa using fresh
  exact (part.building absent).map Node.record

/-- A type that is being built already is not built again. -/
theorem emptyIn_circle {name : String} {type : CompiledType}
    (known : set.recordType? name = some type) (building : around.contains name = true) :
    Returns around (fun fuel => emptyIn set fuel around (.ref name)) (.string "") [] := by
  refine .down ?_
  simp only [emptyIn, known]
  refine .ask ?_
  simp only [building, if_true]
  exact .pure _

theorem emptyIn_unknown {name : String} (unknown : set.recordType? name = none) :
    Returns around (fun fuel => emptyIn set fuel around (.ref name)) (.string "") [] := by
  refine .down ?_
  simp only [emptyIn, unknown]
  exact .pure _

/-- Least values and what is filled in are built within enough fuel. The induction is on the types
that are not on the stack yet. -/
theorem empty_returns (set : SchemaSet) :
    (∀ around shape, Returns around (fun fuel => emptyIn set fuel around shape)
      (emptyValue set around shape) []) ∧
    ∀ around type required fields, Returns around
      (fun fuel => fillEach (emptyIn set fuel around) type required fields)
      (fillRequired set around type required fields) [] := by
  apply emptyValue.mutual_induct set
    (fun around shape => Returns around (fun fuel => emptyIn set fuel around shape)
      (emptyValue set around shape) [])
    (fun around type required fields => Returns around
      (fun fuel => fillEach (emptyIn set fuel around) type required fields)
      (fillRequired set around type required fields) [])
  -- Where a type is expected it is unknown, or built with one more type on the stack, or on the
  -- stack already.
  case case9 =>
    intro around name unknown
    rw [emptyValue_unknown unknown]
    exact emptyIn_unknown unknown
  case case10 =>
    intro around name type known fresh ih
    rw [emptyValue_fresh known fresh]
    exact emptyIn_fresh known fresh ih
  case case11 =>
    intro around name type known building
    have listed : around.contains name = true := by simpa using building
    rw [emptyValue_circle listed]
    exact emptyIn_circle known listed
  -- What is required is filled in name by name; the stack is the same for all of them.
  case case15 =>
    intro around type fields
    rw [fillRequired]
    exact .pure fields
  case case16 =>
    intro around type fields name rest present ih
    rw [fillRequired, if_pos present]
    simpa only [fillEach, if_pos present] using ih
  case case17 =>
    intro around type fields name rest absent undeclared ih
    rw [fillRequired, if_neg absent]
    simp only [undeclared]
    simpa only [fillEach, if_neg absent, undeclared] using ih
  case case18 =>
    intro around type fields name rest absent property declares value value_ih rest_ih
    have given : Returns around (fun fuel => defaultOr (emptyIn set fuel around) property)
        value [] := by
      unfold defaultOr value
      cases property.default with
      | some given => exact .pure given
      | none => exact value_ih
    rw [fillRequired, if_neg absent]
    simp only [declares, fillEach, if_neg absent]
    exact given.bind rest_ih
  -- No other shape looks at the stack.
  all_goals
    intros
    exact emptyIn_plain (fun _ same => by cases same)

end Empty

/-! ### Reshaping -/

section Reshape

variable {α β γ : Type} {set : SchemaSet} {around : List String}

/-- Whether a call returns, and with what is made in one go where nothing is being built. -/
def Makes (around : List String) (run : Nat → Pass α) (made : Reshaped α) : Prop :=
  ∃ value told, Returns around run value told ∧ (around = [] → made = ⟨value, told⟩)

namespace Makes

theorem pure (value : α) : Makes around (fun _ => Pure.pure value) ⟨value, []⟩ :=
  ⟨value, [], .pure value, fun _ => rfl⟩

theorem down {run : Nat → Pass α} {made : Reshaped α}
    (inner : Makes around (fun fuel => run (fuel + 1)) made) : Makes around run made := by
  obtain ⟨value, told, ran, same⟩ := inner
  exact ⟨value, told, ran.down, same⟩

theorem map {run : Nat → Pass α} {made : Reshaped α} (first : Makes around run made)
    (wrap : α → β) :
    Makes around (fun fuel => do let value ← run fuel; Pure.pure (wrap value))
      ⟨wrap made.value, made.warnings⟩ := by
  obtain ⟨value, told, ran, same⟩ := first
  refine ⟨wrap value, told, ran.map wrap, fun bare => ?_⟩
  rw [same bare]

theorem both {run : Nat → Pass α} {others : Nat → Pass β} {made : Reshaped α} {more : Reshaped β}
    (first : Makes around run made) (second : Makes around others more) (join : α → β → γ) :
    Makes around
      (fun fuel => do
        let value ← run fuel
        let other ← others fuel
        Pure.pure (join value other))
      ⟨join made.value more.value, made.warnings ++ more.warnings⟩ := by
  obtain ⟨value, told, ran, same⟩ := first
  obtain ⟨other, later, ranToo, sameToo⟩ := second
  refine ⟨join value other, told ++ later, ran.bind (ranToo.map (join value)), fun bare => ?_⟩
  rw [same bare, sameToo bare]

theorem tell {run : Nat → Pass α} {made : Reshaped α} (inner : Makes around run made)
    (warnings : List Warning) :
    Makes around (fun fuel => do Coercion.tell warnings; run fuel)
      ⟨made.value, warnings ++ made.warnings⟩ := by
  obtain ⟨value, told, ran, same⟩ := inner
  refine ⟨value, warnings ++ told, (Returns.tell warnings).bind ran, fun bare => ?_⟩
  rw [same bare]

end Makes

theorem recordIn_makes {type : CompiledType} {path : Path} {fields : List (String × Node)}
    (inside : Makes around
      (fun fuel => eachField set (reshapeIn set fuel around) type.schema path
        (canonicalize type.names path [] fields).value)
      (reshapeFields set type.schema path (canonicalize type.names path [] fields).value)) :
    Makes around (fun fuel => recordIn set fuel around type path fields)
      (reshapeRecord set type path fields) := by
  obtain ⟨shaped, told, ran, same⟩ := inside
  have filled := (empty_returns set).2 around type.schema type.schema.required shaped
  refine ⟨_, _, (Returns.tell _).bind (ran.bind filled), fun bare => ?_⟩
  subst bare
  rw [reshapeRecord, same rfl, List.append_nil]

/-- What has no record to reshape is left, whatever the shape and the value. -/
theorem untouched_makes {shape : Shape} {node : Node} {path : Path}
    (record : ∀ name fields, shape = .ref name → node = .record fields → False)
    (union : ∀ alternatives fields, shape = .oneOf alternatives → node = .record fields → False)
    (array : ∀ items values, shape = .array items → node = .array values → False)
    (single : ∀ items fields, shape = .array items → node = .record fields → False)
    (coded : ∀ format inner, shape = .decode format inner → False) :
    Makes around (fun fuel => reshapeIn set fuel around shape path node)
      (reshape set shape path node) := by
  have kept : reshape set shape path node = ⟨node, []⟩ := by
    rw [reshape] <;> assumption
  have returned (fuel : Nat) :
      reshapeIn set (fuel + 1) around shape path node = Pure.pure node := by
    rw [reshapeIn] <;> assumption
  rw [kept]
  refine .down ?_
  simp only [returned]
  exact .pure node

section Field

variable {type : TypeSchema} {path : Path} {name : String} {value : Node}
  {rest : List (String × Node)} {property : Property}

theorem eachField_dropped_makes (declares : type.property? name = some property)
    (dropped : (fixCardinality set name value property.shape path).value = none)
    (later : Makes around (fun fuel => eachField set (reshapeIn set fuel around) type path rest)
      (reshapeFields set type path rest)) :
    Makes around
      (fun fuel => eachField set (reshapeIn set fuel around) type path ((name, value) :: rest))
      (reshapeFields set type path ((name, value) :: rest)) := by
  rw [reshapeFields_dropped declares dropped]
  simp only [eachField, declares, dropped]
  exact later.tell _

theorem eachField_kept_makes {fixed : Node} (declares : type.property? name = some property)
    (kept : (fixCardinality set name value property.shape path).value = some fixed)
    (inside : Makes around
      (fun fuel => reshapeIn set fuel around property.shape (path.property name) fixed)
      (reshape set property.shape (path.property name) fixed))
    (later : Makes around (fun fuel => eachField set (reshapeIn set fuel around) type path rest)
      (reshapeFields set type path rest)) :
    Makes around
      (fun fuel => eachField set (reshapeIn set fuel around) type path ((name, value) :: rest))
      (reshapeFields set type path ((name, value) :: rest)) := by
  have made : fixCardinality set name value property.shape path =
      ⟨some fixed, (fixCardinality set name value property.shape path).warnings⟩ := by rw [← kept]
  rw [reshapeFields_kept declares made, List.append_assoc]
  simp only [eachField, declares, kept]
  exact (inside.both later fun value rest => (name, value) :: rest).tell _

end Field

/-- Reshaping comes to an end. The induction is on the value and the shape. -/
theorem reshape_makes (set : SchemaSet) (around : List String) :
    (∀ shape path node, Makes around (fun fuel => reshapeIn set fuel around shape path node)
      (reshape set shape path node)) ∧
    (∀ items path position values, Makes around
      (fun fuel => eachItem (reshapeIn set fuel around items) path position values)
      (reshapeItems set items path position values)) ∧
    (∀ type path fields, Makes around (fun fuel => recordIn set fuel around type path fields)
      (reshapeRecord set type path fields)) ∧
    ∀ type path fields, Makes around
      (fun fuel => eachField set (reshapeIn set fuel around) type path fields)
      (reshapeFields set type path fields) := by
  refine reshape.mutual_induct set _ _ _ _ ?_ ?_ ?_ ?_ ?_ ?_ ?_ ?_ ?_ ?_ ?_ ?_ ?_ ?_ ?_ ?_
  -- A record where a type is expected.
  · intro path name fields aimed
    refine .down ?_
    simp only [reshapeIn, reshape, aimed]
    exact .pure _
  · intro path name fields type aimed ih
    refine .down ?_
    simp only [reshapeIn, reshape, aimed]
    exact ih.map Node.record
  -- A record where one of several shapes is expected.
  · intro path alternatives fields named
    refine .down ?_
    rw [reshape]
    split
    next =>
      simp only [reshapeIn, named]
      exact .pure _
    next found => rw [named] at found; cases found
  · intro path alternatives fields alternative named ih
    refine .down ?_
    rw [reshape]
    split
    next absent => rw [named] at absent; cases absent
    next found =>
      rw [named] at found
      cases found
      simpa only [reshapeIn, named] using ih
  -- Items. A record alone is reshaped as the only one.
  · intro path items values ih
    refine .down ?_
    simp only [reshapeIn, reshape]
    exact ih.map Node.array
  · intro path items fields ih
    refine .down ?_
    simp only [reshapeIn, reshape, eachItem]
    have only := (ih.both (.pure []) List.cons).map Node.array
    rwa [List.append_nil] at only
  -- Text and other values under a decode directive.
  · intro path format inner node text
    refine .down ?_
    simp only [reshapeIn, reshape, text, if_true]
    exact .pure _
  · intro path format inner node other ih
    refine .down ?_
    rw [reshape, if_neg other]
    simpa only [reshapeIn, if_neg other] using ih
  · intro shape path node record union array single coded
    exact untouched_makes record union array single coded
  · intro items path position
    rw [reshapeItems]
    exact .pure []
  · intro items path position value rest first later
    rw [reshapeItems]
    exact first.both later List.cons
  · intro type path fields canonical ih
    exact recordIn_makes ih
  -- Properties.
  · intro type path
    rw [reshapeFields]
    exact .pure []
  · intro type path name value rest undeclared ih
    rw [reshapeFields]
    simpa only [eachField, undeclared] using ih
  · intro type path name value rest property declares fixed dropped ih
    exact eachField_dropped_makes declares dropped ih
  · intro type path name value rest property declares fixed inner kept inside later
    exact eachField_kept_makes declares kept inside later

end Reshape

/-! ### The stack -/

/-- Reshaping comes to an end with whatever is being built, and leaves the stack; so does building
a least value, which is never one of a type that is being built already. -/
theorem passes_return (set : SchemaSet) (around : List String) :
    (∀ shape path node, Makes around (fun fuel => reshapeIn set fuel around shape path node)
      (reshape set shape path node)) ∧
    (∀ type path fields, Makes around (fun fuel => recordIn set fuel around type path fields)
      (reshapeRecord set type path fields)) ∧
    (∀ shape, Returns around (fun fuel => emptyIn set fuel around shape)
      (emptyValue set around shape) []) ∧
    ∀ name ∈ around, emptyValue set around (.ref name) = .string "" := by
  obtain ⟨values, -, records, -⟩ := reshape_makes set around
  refine ⟨values, records, (empty_returns set).1 around, fun name listed => ?_⟩
  exact emptyValue_circle (by simpa using listed)

/-- A type that requires a property that is a record of another one. -/
def enclosing (name property inner : String) : CompiledType :=
  .ofSchema {
    name := name
    description := none
    body := .record [(Node.typeKey, ⟨.enum [.string name], none, [], none⟩),
      (property, ⟨.ref inner, none, [], none⟩)] [Node.typeKey, property] [] }

/-- A part has to have a chapter and a chapter a part. -/
def volume : SchemaSet where
  root := "Part"
  types := [("Part", enclosing "Part" "chapter" "Chapter"),
    ("Chapter", enclosing "Chapter" "part" "Part")]
  limit := SchemaSet.defaultLimit

/-- Of the parts and chapters that require each other the second part is the last to be built. -/
theorem parts_return :
    (∃ value told, Returns [] (fun fuel => reshapeIn volume fuel [] (.ref "Part") [] (.record []))
        value told ∧
      value = .record [(Node.typeKey, .string "Part"), ("chapter", .record
        [(Node.typeKey, .string "Chapter"), ("part", .record
          [(Node.typeKey, .string "Part"), ("chapter", .string "")])])]) ∧
      emptyValue volume ["Chapter", "Part"] (.ref "Part") = .string "" := by
  obtain ⟨value, told, ran, same⟩ :=
    (passes_return volume []).1 (.ref "Part") [] (.record [])
  refine ⟨⟨value, told, ran, ?_⟩, ?_⟩
  · have made : (reshape volume (.ref "Part") [] (.record [])).value = value := by rw [same rfl]
    rw [← made]
    cbv
  · exact (passes_return volume ["Chapter", "Part"]).2.2.2 "Part" (by decide)

end DocSchema.Coercion
