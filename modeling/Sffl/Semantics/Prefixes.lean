import Mathlib.Data.List.Induction

/-! Properties of every prefix of a run.

A property that holds at the start and that a step keeps exactly under a
condition holds of all prefixes exactly if every step meets the condition.
-/

set_option autoImplicit false

namespace Sffl.Semantics

variable {A : Type} {items : List A}

theorem prefix_of_concat {processed : List A} {item : A} (initial : processed ++ [item] <+: items) :
    processed <+: items :=
  (List.prefix_append processed [item]).trans initial

theorem forall_prefix_of_steps {P : List A → Prop} (start : P [])
    (step : ∀ processed item, processed ++ [item] <+: items → P processed → P (processed ++ [item])) :
    ∀ processed, processed <+: items → P processed := by
  intro processed
  induction processed using List.reverseRecOn with
  | nil => exact fun _ => start
  | append_singleton processed item ih =>
    intro initial
    exact step processed item initial (ih (prefix_of_concat initial))

theorem forall_prefix_iff {P : List A → Prop} {C : List A → A → Prop} (start : P [])
    (step : ∀ processed item, processed ++ [item] <+: items → P processed →
      (P (processed ++ [item]) ↔ C processed item)) :
    (∀ processed, processed <+: items → P processed) ↔
      ∀ processed item, processed ++ [item] <+: items → C processed item := by
  constructor
  · intro all processed item initial
    exact (step processed item initial (all processed (prefix_of_concat initial))).mp (all _ initial)
  · intro conditions
    apply forall_prefix_of_steps start
    intro processed item initial holds
    exact (step processed item initial holds).mpr (conditions processed item initial)

end Sffl.Semantics
