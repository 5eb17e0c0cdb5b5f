/-! Runs of a labelled transition system.

A run keeps the events it has taken, oldest first. A guard selects the runs all
of whose steps meet a condition on the event and on the state before it.
-/

set_option autoImplicit false

namespace Sffl.Semantics

structure System (State Event : Type) where
  initial : State → Prop
  step : State → Event → State → Prop

namespace System
variable {State Event : Type} (system : System State Event)

def startingAt (state : State) : System State Event := { system with initial := (· = state) }

inductive GuardedRun (guard : State → Event → Prop) : List Event → State → Prop where
  | start {state : State} : system.initial state → GuardedRun guard [] state
  | next {history : List Event} {state after : State} {event : Event} :
      GuardedRun guard history state → guard state event → system.step state event after →
      GuardedRun guard (history ++ [event]) after

def Run : List Event → State → Prop := system.GuardedRun fun _ _ => True

def Reachable (state : State) : Prop := ∃ history, system.Run history state

variable {system} {guard : State → Event → Prop}

/-- The invariant may speak about the whole history, since a run carries it. -/
theorem GuardedRun.invariant (Inv : List Event → State → Prop)
    (start : ∀ state, system.initial state → Inv [] state)
    (step : ∀ history state event after, Inv history state → guard state event →
      system.step state event after → Inv (history ++ [event]) after)
    {history : List Event} {state : State} (run : system.GuardedRun guard history state) :
    Inv history state := by
  induction run with
  | start initial => exact start _ initial
  | next _ allowed one ih => exact step _ _ _ _ ih allowed one

theorem GuardedRun.mono {weaker : State → Event → Prop} (implies : ∀ state event, guard state event → weaker state event)
    {history : List Event} {state : State} (run : system.GuardedRun guard history state) :
    system.GuardedRun weaker history state := by
  induction run with
  | start initial => exact .start initial
  | next _ allowed one ih => exact .next ih (implies _ _ allowed) one

theorem GuardedRun.of_startingAt {start : State} (initial : system.initial start) {history : List Event} {state : State}
    (run : (system.startingAt start).GuardedRun guard history state) : system.GuardedRun guard history state := by
  induction run with
  | start same => exact .start (same ▸ initial)
  | next _ allowed one ih => exact .next ih allowed one

/-- Runs that stay good are the runs whose steps meet a condition, if the condition says of every single step whether
the run stays good. -/
theorem guardedRun_iff (allowed : State → Event → Prop) (Good : State → Prop) {good condition : State → Event → Prop}
    (start : ∀ state, system.initial state → Good state)
    (good_allowed : ∀ state event, good state event → allowed state event ∧ Good state)
    (condition_allowed : ∀ state event, condition state event → allowed state event)
    (step : ∀ {history state event after}, system.GuardedRun allowed history state → Good state →
      system.step state event after → (good state event ∧ Good after ↔ condition state event))
    {history : List Event} {state : State} :
    system.GuardedRun good history state ∧ Good state ↔ system.GuardedRun condition history state := by
  constructor
  · rintro ⟨run, stays⟩
    induction run with
    | start initial => exact .start initial
    | next run goodStep one ih =>
      have before := (good_allowed _ _ goodStep).2
      have allowed := run.mono fun state event goodStep => (good_allowed state event goodStep).1
      exact .next (ih before) ((step allowed before one).mp ⟨goodStep, stays⟩) one
  · intro run
    induction run with
    | start initial => exact ⟨.start initial, start _ initial⟩
    | next run met one ih =>
      obtain ⟨earlier, before⟩ := ih
      obtain ⟨goodStep, stays⟩ := (step (run.mono condition_allowed) before one).mpr met
      exact ⟨.next earlier goodStep one, stays⟩

/-- A property that, once lost, never comes back, and what its loss comes from. -/
theorem Run.iff_guardedRun (Good : State → Prop) {condition : State → Event → Prop}
    (start : ∀ state, system.initial state → Good state)
    (step : ∀ {history state event after}, system.Run history state → system.step state event after →
      (Good after ↔ Good state ∧ condition state event))
    {history : List Event} {state : State} (run : system.Run history state) :
    Good state ↔ system.GuardedRun condition history state := by
  constructor
  · intro good
    induction run with
    | start initial => exact .start initial
    | next run _ one ih =>
      obtain ⟨before, met⟩ := (step run one).mp good
      exact .next (ih before) met one
  · intro guarded
    induction guarded with
    | start initial => exact start _ initial
    | next guarded met one ih =>
      have run := guarded.mono fun _ _ _ => trivial
      exact (step run one).mpr ⟨ih run, met⟩

theorem GuardedRun.of_foldlM {advance : State → Event → Option State}
    (sound : ∀ state event after, advance state event = some after → guard state event ∧ system.step state event after)
    {history events : List Event} {state after : State} (run : system.GuardedRun guard history state)
    (done : events.foldlM advance state = some after) : system.GuardedRun guard (history ++ events) after := by
  induction events generalizing history state with
  | nil =>
    cases done
    rw [List.append_nil]
    exact run
  | cons event events ih =>
    rw [List.foldlM_cons] at done
    obtain ⟨next, one, rest⟩ := Option.bind_eq_some_iff.mp done
    obtain ⟨allowed, step⟩ := sound state event next one
    rw [← List.singleton_append, ← List.append_assoc]
    exact ih (run.next allowed step) rest

section Computed
variable {advance : State → Event → Option State}
  (sound : ∀ state event after, advance state event = some after → system.step state event after)
  {events : List Event} {start after : State} (initial : system.initial start)
include sound initial

theorem Run.of_steps (done : events.foldlM advance start = some after) : system.Run events after :=
  GuardedRun.of_foldlM (fun state event after one => ⟨trivial, sound state event after one⟩) (.start initial) done

theorem GuardedRun.of_steps [∀ state event, Decidable (guard state event)]
    (done : events.foldlM (fun state event => if guard state event then advance state event else none) start =
      some after) : system.GuardedRun guard events after := by
  apply GuardedRun.of_foldlM _ (.start initial) done
  intro state event after one
  obtain ⟨allowed, computed⟩ := Option.ite_none_right_eq_some.mp one
  exact ⟨allowed, sound state event after computed⟩

end Computed

theorem Reachable.invariant {Inv : State → Prop} (start : ∀ state, system.initial state → Inv state)
    (step : ∀ state event after, Inv state → system.step state event after → Inv after)
    {state : State} (reachable : system.Reachable state) : Inv state := by
  obtain ⟨history, run⟩ := reachable
  exact run.invariant (fun _ => Inv) start fun _ state event after holds _ one => step state event after holds one

end System

theorem map_set_same {A B : Type} {items : List A} {position : Nat} {item changed : A} {f : A → B}
    (found : items[position]? = some item) (same : f changed = f item) :
    (items.set position changed).map f = items.map f := by
  obtain ⟨bound, rfl⟩ := List.getElem?_eq_some_iff.mp found
  apply List.ext_getElem?
  intro other
  by_cases here : position = other
  · subst here
    simp [bound, same]
  · simp [List.getElem?_set_ne here]

end Sffl.Semantics
