import Mathlib.Data.List.Basic

/-! Items that are taken into hand, may wait in a queue, and leave one at a time.

An item leaves from the hand only while the queue is empty. What has left, what
waits and what is in hand is therefore, in this order, what has been taken.
-/

set_option autoImplicit false

namespace Sffl.Semantics

structure Conveyor (Item Fate : Type) where
  departed : List (Item × Fate)
  queue : List Item
  hand : List Item

inductive Place (Fate : Type) where
  | departed (fate : Fate)
  | queued
  | held
  deriving DecidableEq, Repr

namespace Conveyor
variable {Item Fate : Type}

/-- A step, with the items that it takes into hand. -/
inductive Step : Conveyor Item Fate → List Item → Conveyor Item Fate → Prop where
  | idle {belt : Conveyor Item Fate} : Step belt [] belt
  | take {departed : List (Item × Fate)} {queue items : List Item} : Step ⟨departed, queue, []⟩ items ⟨departed, queue, items⟩
  | enqueue {departed : List (Item × Fate)} {queue hand : List Item} :
      Step ⟨departed, queue, hand⟩ [] ⟨departed, queue ++ hand, []⟩
  | leave {departed : List (Item × Fate)} {item : Item} {queue hand : List Item} {fate : Fate} :
      Step ⟨departed, item :: queue, hand⟩ [] ⟨departed ++ [(item, fate)], queue, hand⟩
  | pass {departed : List (Item × Fate)} {item : Item} {hand : List Item} {fate : Fate} :
      Step ⟨departed, [], item :: hand⟩ [] ⟨departed ++ [(item, fate)], [], hand⟩

def places (belt : Conveyor Item Fate) : List (Item × Place Fate) :=
  belt.departed.map (fun item => (item.1, .departed item.2)) ++ belt.queue.map (·, .queued) ++ belt.hand.map (·, .held)

def taken (belt : Conveyor Item Fate) : List Item := belt.places.map Prod.fst

theorem taken_eq (belt : Conveyor Item Fate) :
    belt.taken = belt.departed.map Prod.fst ++ belt.queue ++ belt.hand := by
  simp [taken, places, Function.comp_def]

theorem Step.taken_eq {belt after : Conveyor Item Fate} {items : List Item} (step : Step belt items after) :
    after.taken = belt.taken ++ items := by
  cases step with
  | idle => rw [List.append_nil]
  | take => simp [Conveyor.taken_eq]
  | enqueue => simp [Conveyor.taken_eq]
  | leave => simp [Conveyor.taken_eq]
  | pass => simp [Conveyor.taken_eq]

theorem departed_mem_places (belt : Conveyor Item Fate) {item : Item} {fate : Fate} :
    (item, .departed fate) ∈ belt.places ↔ (item, fate) ∈ belt.departed := by
  simp [places]

section Places
variable [DecidableEq Fate] (belt : Conveyor Item Fate)

def itemsAt (place : Place Fate) : List Item := (belt.places.filter (·.2 = place)).map Prod.fst

theorem itemsAt_departed (fate : Fate) :
    belt.itemsAt (.departed fate) = (belt.departed.filter (·.2 = fate)).map Prod.fst := by
  simp [itemsAt, places, List.filter_map, Function.comp_def]

theorem itemsAt_queued : belt.itemsAt .queued = belt.queue := by
  simp [itemsAt, places, List.filter_map, Function.comp_def]

theorem itemsAt_held : belt.itemsAt .held = belt.hand := by
  simp [itemsAt, places, List.filter_map, Function.comp_def]

theorem itemsAt_sublist (place : Place Fate) : (belt.itemsAt place).Sublist belt.taken :=
  List.filter_sublist.map Prod.fst

end Places

end Conveyor

end Sffl.Semantics
