import Sffl.Evm.Call

/-! Calls that read and write storage, and the parts of the storage that they keep. -/

set_option autoImplicit false

namespace Sffl.Evm

abbrev Transition (S A : Type) := StateT S (Except Revert) A

variable {S V A B : Type}

def Keeps (view : S → V) (call : Transition S A) : Prop :=
  ∀ state result after, call state = .ok (result, after) → view after = view state

namespace Keeps
variable {view : S → V}

theorem pure (result : A) : Keeps view (Pure.pure result : Transition S A) := by
  intro state _ after success
  cases success
  rfl

theorem bind {first : Transition S A} {next : A → Transition S B} (keeps : Keeps view first)
    (keeps_next : ∀ result, Keeps view (next result)) : Keeps view (first >>= next) := by
  intro state result after success
  obtain ⟨⟨value, between⟩, one, rest⟩ := bind_eq_ok.mp success
  rw [keeps_next value between result after rest]
  exact keeps state value between one

theorem get : Keeps view (MonadState.get : Transition S S) := by
  intro state _ after success
  cases success
  rfl

theorem lift (call : Call A) : Keeps view (liftM call : Transition S A) := by
  intro state result after success
  obtain ⟨value, _, same⟩ := bind_eq_ok.mp success
  cases same
  rfl

theorem modify {change : S → S} (keeps : ∀ state, view (change state) = view state) :
    Keeps view (StateT.modifyGet fun state => (PUnit.unit, change state) : Transition S PUnit) := by
  intro state _ after success
  cases success
  exact keeps state

theorem forIn {list : List A} {body : A → B → Transition S (ForInStep B)}
    (keeps : ∀ element accumulator, Keeps view (body element accumulator)) (accumulator : B) :
    Keeps view (ForIn.forIn list accumulator body) := by
  induction list generalizing accumulator with
  | nil => exact Keeps.pure accumulator
  | cons element list ih =>
    rw [List.forIn_cons]
    refine (keeps element accumulator).bind fun step => ?_
    cases step with
    | done accumulator => exact Keeps.pure accumulator
    | yield accumulator => exact ih accumulator

end Keeps

end Sffl.Evm
