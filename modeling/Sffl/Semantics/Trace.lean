import Mathlib.Data.List.Induction
import Sffl.Semantics.Run

/-! Runs with the states they pass through.

A trace keeps every event together with the state before it. What a state has
that an earlier one did not have was written by a step in between.
-/

set_option autoImplicit false

namespace Sffl.Semantics.System

variable {State Event V : Type} (system : System State Event)

inductive Trace : List (State × Event) → State → Prop where
  | start {state : State} : system.initial state → Trace [] state
  | next {points : List (State × Event)} {state after : State} {event : Event} :
      Trace points state → system.step state event after → Trace (points ++ [(state, event)]) after

namespace Trace
variable {system} {points earlier window : List (State × Event)} {state after : State} {event : Event}

theorem initial (trace : system.Trace [] state) : system.initial state := by
  generalize whole : ([] : List (State × Event)) = points at trace
  cases trace with
  | start initial => exact initial
  | next => exact absurd whole (by simp)

theorem concat_iff : system.Trace (points ++ [(state, event)]) after ↔ system.Trace points state ∧ system.step state event after := by
  constructor
  · intro trace
    generalize whole : points ++ [(state, event)] = all at trace
    cases trace with
    | start initial => exact absurd whole (by simp)
    | next before one =>
      obtain ⟨rfl, same⟩ := List.append_inj' whole rfl
      cases same
      exact ⟨before, one⟩
  · rintro ⟨before, one⟩
    exact .next before one

theorem split (trace : system.Trace (earlier ++ (state, event) :: window) after) : system.Trace earlier state := by
  induction window using List.reverseRecOn generalizing after with
  | nil => exact (concat_iff.mp trace).1
  | append_singleton window point ih =>
    rw [← List.cons_append, ← List.append_assoc] at trace
    exact ih (concat_iff.mp trace).1

theorem reachable (trace : system.Trace points state) : system.Reachable state := by
  induction trace with
  | start initial => exact ⟨[], .start initial⟩
  | next _ one ih =>
    obtain ⟨history, run⟩ := ih
    exact ⟨_, run.next trivial one⟩

/-- Since the beginning of the window, a value is as it was or was written. -/
theorem last_write (value : State → V) (trace : system.Trace (earlier ++ window) state) :
    (∀ point ∈ window.head?, value point.1 = value state) ∨
      ∃ point ∈ window, ∃ written, system.Reachable point.1 ∧ system.step point.1 point.2 written ∧
        value point.1 ≠ value written ∧ value written = value state := by
  induction window using List.reverseRecOn generalizing state with
  | nil => exact .inl (by simp)
  | append_singleton window point ih =>
    obtain ⟨before, event⟩ := point
    rw [← List.append_assoc] at trace
    obtain ⟨trace, one⟩ := concat_iff.mp trace
    by_cases same : value before = value state
    · rcases ih trace with kept | ⟨point, member, written, reached, step, changed, now⟩
      · refine .inl fun point first => ?_
        cases window with
        | nil =>
          cases first
          exact same
        | cons head tail => exact (kept point first).trans same
      · exact .inr ⟨point, List.mem_append_left _ member, written, reached, step, changed, now.trans same⟩
    · exact .inr ⟨(before, event), List.mem_append_right _ (List.mem_singleton_self _), state, trace.reachable, one, same, rfl⟩

theorem written_of_not_initial (value : State → V) (trace : system.Trace points state)
    (new : ∀ first, system.initial first → value first ≠ value state) :
    ∃ point ∈ points, ∃ written, system.Reachable point.1 ∧ system.step point.1 point.2 written ∧
      value point.1 ≠ value written ∧ value written = value state := by
  rcases last_write value (show system.Trace ([] ++ points) state from trace) with kept | found
  · cases points with
    | nil => exact absurd rfl (new state trace.initial)
    | cons head tail =>
      have start := split (show system.Trace ([] ++ (head.1, head.2) :: tail) state from trace)
      exact absurd (kept head rfl) (new head.1 start.initial)
  · exact found

end Trace

end Sffl.Semantics.System
