import Mathlib.Data.List.Perm.Basic

/-! Routines that work on positions.

A routine sees its data only through the answers of a `Less` on two positions
and changes it only with a `Swap` of two positions, as Go's sorting functions
do. It is the tree of these calls. It is run against a `Less` that may look at
the data as they stand at the time of the call, or that is fixed beforehand.
-/

set_option autoImplicit false

namespace Sffl.Golang

inductive Routine (A : Type) where
  | done (result : A)
  | less (i j : Nat) (next : Bool → Routine A)
  | swap (i j : Nat) (next : Routine A)

namespace Routine
variable {A B D : Type}

def bind : Routine A → (A → Routine B) → Routine B
  | done result, rest => rest result
  | less i j next, rest => less i j fun answer => (next answer).bind rest
  | swap i j next, rest => swap i j (next.bind rest)

instance : Monad Routine where
  pure := done
  bind := bind

def swapAt (data : List D) (i j : Nat) : List D :=
  match data[i]?, data[j]? with
  | some first, some second => (data.set i second).set j first
  | _, _ => data

def run (lessThan : List D → Nat → Nat → Bool) : Routine A → List D → A × List D
  | done result, data => (result, data)
  | less i j next, data => (next (lessThan data i j)).run lessThan data
  | swap i j next, data => next.run lessThan (swapAt data i j)

end Routine

def callLess (i j : Nat) : Routine Bool := .less i j .done

def callSwap (i j : Nat) : Routine Unit := .swap i j (.done ())

namespace Routine
variable {A B D E : Type} {lessThan : List D → Nat → Nat → Bool}

@[simp] theorem run_pure (result : A) (data : List D) : (pure result : Routine A).run lessThan data = (result, data) :=
  rfl

@[simp] theorem run_bind (routine : Routine A) (rest : A → Routine B) (data : List D) :
    (routine >>= rest).run lessThan data =
      (rest (routine.run lessThan data).1).run lessThan (routine.run lessThan data).2 := by
  induction routine generalizing data with
  | done result => rfl
  | less i j next ih => exact ih (lessThan data i j) data
  | swap i j next ih => exact ih (swapAt data i j)

@[simp] theorem run_callLess (i j : Nat) (data : List D) :
    (callLess i j).run lessThan data = (lessThan data i j, data) :=
  rfl

@[simp] theorem run_callSwap (i j : Nat) (data : List D) :
    (callSwap i j).run lessThan data = ((), swapAt data i j) :=
  rfl

theorem swapAt_perm (data : List D) (i j : Nat) : (swapAt data i j).Perm data := by
  unfold swapAt
  split
  next first second firstAt secondAt =>
    obtain ⟨inside, rfl⟩ := List.getElem?_eq_some_iff.mp firstAt
    obtain ⟨otherInside, rfl⟩ := List.getElem?_eq_some_iff.mp secondAt
    exact List.set_set_perm inside otherInside
  next => exact List.Perm.refl data

/-- Whatever it is told, a routine only rearranges its data. -/
theorem run_perm (routine : Routine A) (data : List D) : (routine.run lessThan data).2.Perm data := by
  induction routine generalizing data with
  | done result => exact List.Perm.refl data
  | less i j next ih => exact ih (lessThan data i j) data
  | swap i j next ih => exact (ih (swapAt data i j)).trans (swapAt_perm data i j)

theorem swapAt_map (rename : D → E) (data : List D) (i j : Nat) :
    swapAt (data.map rename) i j = (swapAt data i j).map rename := by
  simp only [swapAt, List.getElem?_map]
  cases data[i]? with
  | none => rfl
  | some first =>
    cases data[j]? with
    | none => rfl
    | some second => simp

/-- A routine that gets fixed answers treats all data alike. -/
theorem run_map (answers : Nat → Nat → Bool) (rename : D → E) (routine : Routine A) (data : List D) :
    routine.run (fun _ => answers) (data.map rename) =
      ((routine.run (fun _ => answers) data).1, (routine.run (fun _ => answers) data).2.map rename) := by
  induction routine generalizing data with
  | done result => rfl
  | less i j next ih => exact ih (answers i j) data
  | swap i j next ih => rw [run, swapAt_map, ih]; rfl

/-! ## The questions of a routine -/

/-- Whatever the answers are, every question is one of `Question`, and the
result satisfies `Result`. -/
def Asks (Question : Nat → Nat → Prop) (Result : A → Prop) : Routine A → Prop
  | done result => Result result
  | less i j next => Question i j ∧ ∀ answer, Asks Question Result (next answer)
  | swap _ _ next => Asks Question Result next

section Asks
variable {Question : Nat → Nat → Prop} {Result : A → Prop} {Later : B → Prop}

theorem Asks.pure {result : A} (holds : Result result) : Asks Question Result (Pure.pure result) := holds

theorem Asks.callLess {i j : Nat} (asked : Question i j) : Asks Question (fun _ => True) (callLess i j) :=
  ⟨asked, fun _ => trivial⟩

theorem Asks.callSwap (i j : Nat) : Asks Question (fun _ => True) (callSwap i j) := trivial

theorem Asks.bind {routine : Routine A} {rest : A → Routine B} (first : Asks Question Result routine)
    (later : ∀ result, Result result → Asks Question Later (rest result)) :
    Asks Question Later (routine >>= rest) := by
  induction routine with
  | done result => exact later result first
  | less i j next ih => exact ⟨first.1, fun answer => ih answer (first.2 answer)⟩
  | swap i j next ih => exact ih first

theorem Asks.mono {Wider : Nat → Nat → Prop} {Weaker : A → Prop} {routine : Routine A}
    (asks : Asks Question Result routine) (questions : ∀ i j, Question i j → Wider i j)
    (results : ∀ result, Result result → Weaker result) : Asks Wider Weaker routine := by
  induction routine with
  | done result => exact results result asks
  | less i j next ih => exact ⟨questions i j asks.1, fun answer => ih answer (asks.2 answer)⟩
  | swap i j next ih => exact ih asks

theorem Asks.bind_congr {routine : Routine A} {rest other : A → Routine B} (asks : Asks Question Result routine)
    (same : ∀ result, Result result → rest result = other result) : routine >>= rest = routine >>= other := by
  induction routine with
  | done result => exact same result asks
  | less i j next ih => exact congrArg (Routine.less i j) (funext fun answer => ih answer (asks.2 answer))
  | swap i j next ih => exact congrArg (Routine.swap i j) (ih asks)

end Asks

/-! ## Answers that a routine cannot tell apart -/

def Agree (D : Type) (answers other : Nat → Nat → Bool) (routine : Routine A) : Prop :=
  ∀ data : List D, routine.run (fun _ => answers) data = routine.run (fun _ => other) data

section Agree
variable {answers other : Nat → Nat → Bool}

theorem Asks.agree {Question : Nat → Nat → Prop} {Result : A → Prop} {routine : Routine A}
    (asks : Asks Question Result routine) (same : ∀ i j, Question i j → answers i j = other i j) :
    Agree D answers other routine := by
  induction routine with
  | done result => exact fun _ => rfl
  | less i j next ih =>
    intro data
    rw [run, run, same i j asks.1]
    exact ih (other i j) (asks.2 (other i j)) data
  | swap i j next ih => exact fun data => ih asks (swapAt data i j)

theorem Agree.bind {routine : Routine A} {rest : A → Routine B} (first : Agree D answers other routine)
    (later : ∀ data : List D, Agree D answers other (rest (routine.run (fun _ => answers) data).1)) :
    Agree D answers other (routine >>= rest) := by
  -- the rest is only compared for the results that the first routine really has
  intro data
  rw [run_bind, run_bind, ← first data]
  exact later data _

end Agree

end Routine

end Sffl.Golang
