import DocSchema.Coercion.Union

/-!
# What a memory holds below a path

Coercing a value files outcomes at its path and below, so outcomes found there before would have
to come from the same value. Main statements: `Fresh.beside`, what is done at one part of a value
leaves the others without outcomes, and `SameOutside.remember`.
-/

namespace DocSchema.Coercion.UnionMemory

/-- Whether no outcomes are known at a path and below. -/
def Fresh (memory : UnionMemory) (path : Path) : Prop :=
  ∀ key node, path <+: key.path → memory.known? key node = none

/-- Whether two memories hold the same outcomes but for those at a path and below. -/
def SameOutside (path : Path) (before after : UnionMemory) : Prop :=
  ∀ key node, ¬path <+: key.path → after.known? key node = before.known? key node

theorem empty_ne_blank : empty ≠ .blank := nofun

theorem fresh_empty (path : Path) : empty.Fresh path :=
  fun key node _ => known?_empty key node

/-- A memory that keeps anything answers as before, and else with what it was last told. -/
theorem known?_remember_eq {memory : UnionMemory} (keeps : memory ≠ .blank) (key other : UnionKey)
    (node input : Node) (outcome : Coerced) :
    (memory.remember key node outcome).known? other input = (memory.known? other input).or
      (if key = other ∧ node.equals input = true then some outcome else none) := by
  cases memory with
  | blank => exact absurd rfl keeps
  | settled outcomes =>
    simp only [remember, known?, PathTable.find_add]
    split
    next =>
      rw [List.find?_append, Option.map_or, List.find?_singleton]
      congr 1
      by_cases found : key = other ∧ node.equals input = true <;> simp [found]
    next differs =>
      have unlike : ¬(key = other ∧ node.equals input = true) := fun same => differs (same.1 ▸ rfl)
      rw [if_neg unlike, Option.or_none]

theorem known?_remember_other {memory : UnionMemory} {key other : UnionKey}
    (different : other ≠ key) (node input : Node) (outcome : Coerced) :
    (memory.remember key node outcome).known? other input = memory.known? other input := by
  cases memory with
  | blank => rfl
  | settled outcomes =>
    have keeps : settled outcomes ≠ .blank := nofun
    rw [known?_remember_eq keeps, if_neg fun same => different same.1.symm, Option.or_none]

theorem remember_ne_blank {memory : UnionMemory} (keeps : memory ≠ .blank) (key : UnionKey)
    (node : Node) (outcome : Coerced) : memory.remember key node outcome ≠ .blank := by
  cases memory with
  | blank => exact absurd rfl keeps
  | settled outcomes => exact nofun

variable {path : Path} {first second third : UnionMemory}

theorem Fresh.step (fresh : first.Fresh path) (segment : Segment) :
    first.Fresh (path ++ [segment]) :=
  fun key node below => fresh key node ((List.prefix_append path [segment]).trans below)

theorem SameOutside.refl (path : Path) (memory : UnionMemory) : SameOutside path memory memory :=
  fun _ _ _ => rfl

theorem SameOutside.trans (start : SameOutside path first second)
    (next : SameOutside path second third) : SameOutside path first third :=
  fun key node outside => (next key node outside).trans (start key node outside)

theorem SameOutside.widen {segment : Segment}
    (same : SameOutside (path ++ [segment]) first second) : SameOutside path first second := by
  intro key node outside
  apply same key node
  intro below
  exact outside ((List.prefix_append path [segment]).trans below)

theorem SameOutside.remember (key : UnionKey) (node : Node) (outcome : Coerced)
    (memory : UnionMemory) : SameOutside key.path memory (memory.remember key node outcome) := by
  intro other input outside
  apply known?_remember_other
  rintro rfl
  exact outside (List.prefix_refl _)

theorem Fresh.beside {left right : Segment} (fresh : first.Fresh (path ++ [right]))
    (same : SameOutside (path ++ [left]) first second) (different : left ≠ right) :
    second.Fresh (path ++ [right]) := by
  intro key node below
  rw [same key node fun also => different (Path.segment_unique also below)]
  exact fresh key node below

/-- What is done at one item leaves those that follow without outcomes. -/
theorem fresh_later {position : Nat}
    (fresh : ∀ index, position ≤ index → first.Fresh (path.index index))
    (same : SameOutside (path.index position) first second) :
    ∀ index, position + 1 ≤ index → second.Fresh (path.index index) := by
  intro index later
  apply (fresh index (by omega)).beside same
  intro clash
  cases clash
  omega

end DocSchema.Coercion.UnionMemory
