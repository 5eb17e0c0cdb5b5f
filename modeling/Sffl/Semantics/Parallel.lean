import Sffl.Semantics.Run

/-! Two systems side by side.

In a step of the pair each of the two takes a step of its own or rests. A
condition on the states before the step and on the two events says what they may
do together. A run of the pair is a run of each of them.
-/

set_option autoImplicit false

namespace Sffl.Semantics

namespace System
variable {State Event Other Signal : Type}

def StepOrRest (system : System State Event) (state : State) : Option Event → State → Prop
  | some event, after => system.step state event after
  | none, after => after = state

/-- The condition says which events may go together in which states. -/
def parallel (left : System State Event) (right : System Other Signal)
    (together : State → Other → Option Event → Option Signal → Prop) : System (State × Other) (Option Event × Option Signal) where
  initial state := left.initial state.1 ∧ right.initial state.2
  step state event after := together state.1 state.2 event.1 event.2 ∧
    left.StepOrRest state.1 event.1 after.1 ∧ right.StepOrRest state.2 event.2 after.2

section Runs
variable {left : System State Event} {right : System Other Signal}
  {together : State → Other → Option Event → Option Signal → Prop} {history : List (Option Event × Option Signal)}
  {state : State × Other}

theorem Run.stepOrRest {events : List Event} {before after : State} {event : Option Event} (run : left.Run events before)
    (step : left.StepOrRest before event after) : left.Run (events ++ event.toList) after := by
  cases event with
  | none =>
    cases step
    rw [Option.toList_none, List.append_nil]
    exact run
  | some event => exact run.next trivial step

theorem Run.fst (run : (left.parallel right together).Run history state) :
    left.Run (history.filterMap Prod.fst) state.1 := by
  induction run with
  | start initial => exact .start initial.1
  | @next history state after event _ _ step ih =>
    rw [List.filterMap_append]
    exact ih.stepOrRest step.2.1

theorem Run.snd (run : (left.parallel right together).Run history state) :
    right.Run (history.filterMap Prod.snd) state.2 := by
  induction run with
  | start initial => exact .start initial.2
  | @next history state after event _ _ step ih =>
    rw [List.filterMap_append]
    exact ih.stepOrRest step.2.2

/-! ## Channels

The left system sends and the right one takes. What is taken at a step is said by the right one's event.
-/

section Channels
variable {Item : Type}

theorem Run.log_eq (log : State → List Item) (item : Event → Option Item) {events : List Event} {now : State}
    (start : ∀ state, left.initial state → log state = [])
    (appending : ∀ state event after, left.step state event after → log after = log state ++ (item event).toList)
    (run : left.Run events now) : log now = events.filterMap item := by
  induction run with
  | start initial => exact start _ initial
  | next _ _ step ih =>
    rw [appending _ _ _ step, ih, List.filterMap_append]
    rfl

theorem StepOrRest.appends (log : State → List Item) (item : State → Event → Option Item)
    (appending : ∀ state event after, left.step state event after → log after = log state ++ (item state event).toList)
    {before after : State} {event : Option Event} (step : left.StepOrRest before event after) :
    log after = log before ++ (event.bind (item before)).toList := by
  cases event with
  | none =>
    have same : after = before := step
    rw [same, Option.bind_none, Option.toList_none, List.append_nil]
  | some event => exact appending before event after step

theorem filterMap_concat (signals : Option Signal) (takes : Signal → Option Item) :
    signals.toList.filterMap takes = (signals.bind takes).toList := by
  cases signals with
  | none => rfl
  | some signal => rfl

/-- What the left system hands over, item by item, is what the right one takes. -/
theorem Run.handed_eq_taken (handed : State → List Item) (gives : State → Event → Option Item) (takes : Signal → Option Item)
    (start : ∀ state, left.initial state → handed state = [])
    (giving : ∀ state event after, left.step state event after → handed after = handed state ++ (gives state event).toList)
    (matching : ∀ state other event signal, together state other event signal → signal.bind takes = event.bind (gives state))
    (run : (left.parallel right together).Run history state) :
    handed state.1 = (history.filterMap Prod.snd).filterMap takes := by
  induction run with
  | start initial => exact start _ initial.1
  | @next history state after event _ _ step ih =>
    obtain ⟨allowed, given, _⟩ := step
    rw [StepOrRest.appends handed gives giving given, ih, ← matching _ _ _ _ allowed, List.filterMap_append, List.filterMap_append]
    exact congrArg _ (filterMap_concat event.2 takes).symm

theorem prefix_concat {items all : List Item} {item : Item} (before : items <+: all)
    (next : all[items.length]? = some item) : items ++ [item] <+: all := by
  obtain ⟨rest, rfl⟩ := before
  cases rest with
  | nil => simp at next
  | cons first rest =>
    have same : first = item := by simpa using next
    subst same
    exact ⟨rest, by simp⟩

/-- A channel without loss: the right system takes the first of the sent items that it has not received. -/
theorem Run.received_prefix_sent (takes : Signal → Option Item) (received : Other → List Item) (sent : State → List Item)
    (start : ∀ other, right.initial other → received other = [])
    (sending : ∀ state event after, left.step state event after → sent state <+: sent after)
    (taking : ∀ other signal after, right.step other signal after → received after = received other ++ (takes signal).toList)
    (next : ∀ state other event signal, together state other event signal →
      ∀ item ∈ signal.bind takes, (sent state)[(received other).length]? = some item)
    (run : (left.parallel right together).Run history state) : received state.2 <+: sent state.1 := by
  induction run with
  | start initial =>
    rw [start _ initial.2]
    exact List.nil_prefix
  | @next history state after event _ _ step ih =>
    obtain ⟨allowed, given, taken⟩ := step
    have grows : sent state.1 <+: sent after.1 := by
      generalize event.1 = one at given
      cases one with
      | none =>
        have same : after.1 = state.1 := given
        exact ⟨[], by rw [same, List.append_nil]⟩
      | some one => exact sending state.1 one after.1 given
    refine List.IsPrefix.trans ?_ grows
    have nextItem := next _ _ _ _ allowed
    rw [StepOrRest.appends received (fun _ => takes) taking taken]
    generalize event.2.bind takes = item at nextItem ⊢
    cases item with
    | none =>
      rw [Option.toList_none, List.append_nil]
      exact ih
    | some item => exact prefix_concat ih (nextItem item rfl)

end Channels

end Runs

/-! ## Runs that can be computed -/

section Computed
variable (left : State → Event → Option State) (right : Other → Signal → Option Other)
  (together : State → Other → Option Event → Option Signal → Prop)

def stepOrRest (step : State → Event → Option State) (state : State) : Option Event → Option State
  | some event => step state event
  | none => some state

def advance [∀ state other event signal, Decidable (together state other event signal)] (state : State × Other)
    (event : Option Event × Option Signal) : Option (State × Other) :=
  if together state.1 state.2 event.1 event.2 then do
    let first ← stepOrRest left state.1 event.1
    let second ← stepOrRest right state.2 event.2
    return (first, second)
  else none

variable {left right together}

theorem stepOrRest_sound {system : System State Event}
    (sound : ∀ state event after, left state event = some after → system.step state event after) {state after : State}
    {event : Option Event} (done : stepOrRest left state event = some after) : system.StepOrRest state event after := by
  cases event with
  | none =>
    cases done
    rfl
  | some event => exact sound state event after done

theorem advance_sound [∀ state other event signal, Decidable (together state other event signal)]
    {first : System State Event} {second : System Other Signal}
    (soundLeft : ∀ state event after, left state event = some after → first.step state event after)
    (soundRight : ∀ state event after, right state event = some after → second.step state event after)
    (state : State × Other) (event : Option Event × Option Signal) (after : State × Other)
    (done : advance left right together state event = some after) : (first.parallel second together).step state event after := by
  obtain ⟨allowed, done⟩ := Option.ite_none_right_eq_some.mp done
  obtain ⟨one, leftDone, done⟩ := Option.bind_eq_some_iff.mp done
  obtain ⟨other, rightDone, result⟩ := Option.bind_eq_some_iff.mp done
  cases result
  exact ⟨allowed, stepOrRest_sound soundLeft leftDone, stepOrRest_sound soundRight rightDone⟩

end Computed

end System

end Sffl.Semantics
