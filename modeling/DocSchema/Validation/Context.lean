import DocSchema.PathTable
import DocSchema.Validation.Error
import DocSchema.Schema.Shape

/-!
# Validation contexts

A context says where a run of the validator stands: the path of the value, the number of
union types entered at this value, the errors recorded so far and the outcomes of
alternatives tried before. A value is left by giving back the count of hops that was
handed out on the way to it.
-/

namespace DocSchema.Validation

/-- An alternative tried at a value. The tree does not change during a run, so the path
stands for the value. -/
structure TrialKey where
  hops : Nat
  path : Path
  alternative : Shape
deriving DecidableEq

/-- The outcome of an alternative: the errors it had. -/
structure Trial where
  key : TrialKey
  errors : List ValidationError

/-- The outcomes known so far. Blank trials keep nothing, so that every alternative is tried
afresh. -/
inductive Trials where
  | blank
  | tried (outcomes : PathTable Trial)

namespace Trials

/-- Trials to be added to. -/
def empty : Trials := tried .empty

/-- The errors an alternative had, if it has been tried. -/
def find? (trials : Trials) (key : TrialKey) : Option (List ValidationError) :=
  match trials with
  | blank => none
  | tried outcomes =>
    ((outcomes.find key.path.bits).find? fun trial => trial.key == key).map (·.errors)

def add (trials : Trials) (key : TrialKey) (errors : List ValidationError) : Trials :=
  match trials with
  | blank => blank
  | tried outcomes => tried (outcomes.add key.path.bits ⟨key, errors⟩)

theorem find?_blank (key : TrialKey) : find? blank key = none := rfl

theorem find?_empty (key : TrialKey) : find? empty key = none := by simp [find?, empty]

/-- An outcome found after one was added was known before or is that one. -/
theorem find?_add {trials : Trials} {key other : TrialKey} {errors found : List ValidationError}
    (known : (trials.add key errors).find? other = some found) :
    trials.find? other = some found ∨ (other = key ∧ found = errors) := by
  cases trials with
  | blank => exact .inl known
  | tried outcomes =>
    simp only [add, find?, PathTable.find_add] at known ⊢
    split at known
    · cases before : (outcomes.find other.path.bits).find? fun trial => trial.key == other with
      | some trial => exact .inl (by simpa [before] using known)
      | none =>
        obtain ⟨same, rfl⟩ : key = other ∧ errors = found := by simpa [before] using known
        exact .inr ⟨same.symm, rfl⟩
    · exact .inl known

end Trials

/-- Where a run of the validator stands. -/
structure Context where
  path : Path
  /-- Union types entered since the last step down. -/
  hops : Nat
  /-- The errors recorded so far, the latest one first. -/
  latest : List ValidationError
  trials : Trials

namespace Context

/-- The start of a run at a path. -/
def start (path : Path) : Context := ⟨path, 0, [], .empty⟩

/-- The errors recorded so far in order. -/
def errors (context : Context) : List ValidationError := context.latest.reverse

def record (context : Context) (error : ValidationError) : Context :=
  { context with latest := error :: context.latest }

/-- Records one error after the other. -/
def recordAll (context : Context) (errors : List ValidationError) : Context :=
  { context with latest := errors.reverse ++ context.latest }

def hasErrors (context : Context) : Bool := !context.latest.isEmpty

/-- Steps down. Below, hops are counted afresh. -/
def push (context : Context) (segment : Segment) : Context :=
  { context with path := context.path ++ [segment], hops := 0 }

/-- Steps up again to where there have been `hops` hops. -/
def pop (context : Context) (hops : Nat) : Context :=
  { context with path := context.path.dropLast, hops }

/-- Counts the entry of a union type. -/
def enter (context : Context) : Context := { context with hops := context.hops + 1 }

/-- Whether no more union types have been entered than a limit allows. -/
def isWithin (context : Context) (limit : Nat) : Bool := context.hops ≤ limit

/-- Takes back the entry of a union type. -/
def leave (context : Context) : Context := { context with hops := context.hops - 1 }

/-- The same place without errors, for trying an alternative. -/
def fork (context : Context) : Context := { context with latest := [] }

/-- The key of an alternative tried here. -/
def trialKey (context : Context) (alternative : Shape) : TrialKey :=
  ⟨context.hops, context.path, alternative⟩

end Context

end DocSchema.Validation
