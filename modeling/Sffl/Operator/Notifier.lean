import Sffl.Operator.Attestations

/-! When the notifier and a subscriber wait for each other.

`Notify` sends to the subscribers' channels under the lock that `Unsubscribe`
needs. A call that has read its block goes on to unsubscribe and reads no more,
so once a hundred matching blocks lie in its channel the next one keeps the
notifier waiting, and the notifier keeps the call waiting.
-/

set_option autoImplicit false

namespace Sffl.Operator

open Sffl.Evm Sffl.Semantics

section Definitions
variable {Sig OperatorId : Type}

/-- A block for the call would wait for room in its channel. -/
def HeaderCall.Full (call : HeaderCall Sig OperatorId) (block : BlockData) : Prop :=
  call.predicate block = true ∧ channelSize ≤ call.mqBlocksC.length

instance (call : HeaderCall Sig OperatorId) (block : BlockData) : Decidable (call.Full block) :=
  inferInstanceAs (Decidable (_ ∧ _))

/-- The next call that is to get the block has no room for it, and all that is left to it is to unsubscribe. -/
def Deadlock (notifying : Option (BlockData × List Nat)) (calls : List (HeaderCall Sig OperatorId)) : Prop :=
  ∃ block id ids call, notifying = some (block, id :: ids) ∧ calls[id]? = some call ∧ call.Full block ∧
    call.stage = .returning

def Deadlocked (state : AttestorState Sig OperatorId) : Prop := Deadlock state.notifying state.calls

/-- The notifier turns to no full channel of a call that is about to unsubscribe, and no call whose full channel it waits
for goes on to unsubscribe. -/
def StaysClear (attestor : Attestor Sig OperatorId) (state : AttestorState Sig OperatorId) : AttestorEvent → Prop
  | .mqBlock block => ¬ Deadlock (some (block, state.rollupSubscribers block.rollupId)) state.calls
  | .renotify block => ¬ Deadlock (some (block, state.rollupSubscribers block.rollupId)) state.calls
  | .visit => ¬ Deadlock (state.notifying.map fun notified => (notified.1, notified.2.tail)) state.calls
  | .move id move => ∀ block ids call moved, state.notifying = some (block, id :: ids) → state.calls[id]? = some call →
      call.Full block → call.move attestor move = some moved → moved.stage ≠ .returning
  | _ => True

def HasRoom (state : AttestorState Sig OperatorId) : AttestorEvent → Prop
  | .mqBlock block => ∀ id ∈ state.rollupSubscribers block.rollupId, ∀ call ∈ state.calls[id]?, ¬ call.Full block
  | .renotify block => ∀ id ∈ state.rollupSubscribers block.rollupId, ∀ call ∈ state.calls[id]?, ¬ call.Full block
  | _ => True

instance (state : AttestorState Sig OperatorId) (event : AttestorEvent) : Decidable (HasRoom state event) := by
  unfold HasRoom
  split <;> infer_instance

end Definitions

section Steps
variable {Sig OperatorId : Type} {attestor : Attestor Sig OperatorId} {history : List AttestorEvent}
  {state after : AttestorState Sig OperatorId} {event : AttestorEvent} {calls : List (HeaderCall Sig OperatorId)}
  {call moved : HeaderCall Sig OperatorId} {block : BlockData} {id : Nat} {ids : List Nat} {made : CallMove}

/-! ## Every call subscribes once -/

theorem CallStep.not_started (moves : CallStep attestor call made moved) : moved.stage ≠ .started := by
  cases moves <;> simp

structure SubscribedOnce (state : AttestorState Sig OperatorId) : Prop where
  once : state.subscribers.Nodup
  begun : ∀ id ∈ state.subscribers, ∃ call, state.calls[id]? = some call ∧ call.stage ≠ .started
  notified : ∀ notified ∈ state.notifying, notified.2.Nodup

theorem begun_of_set (begun : ∃ call, calls[id]? = some call ∧ call.stage ≠ .started) {other : Nat}
    (later : moved.stage ≠ .started) : ∃ call, (calls.set other moved)[id]? = some call ∧ call.stage ≠ .started := by
  obtain ⟨call, found, stage⟩ := begun
  have inside := (List.getElem?_eq_some_iff.mp found).1
  by_cases same : other = id
  · subst same
    exact ⟨moved, List.getElem?_set_self inside, later⟩
  · exact ⟨call, by rw [List.getElem?_set_ne same, found], stage⟩

theorem SubscribedOnce.move (once : SubscribedOnce state) (found : state.calls[id]? = some call)
    (moves : CallStep attestor call made moved) :
    SubscribedOnce { state with
      calls := state.calls.set id moved
      subscribers := made.subscribers state.subscribers id } := by
  have inside := (List.getElem?_eq_some_iff.mp found).1
  have later := moves.not_started
  have others : ∀ other ∈ state.subscribers, ∃ call, (state.calls.set id moved)[other]? = some call ∧
      call.stage ≠ .started := fun other member => begun_of_set (once.begun other member) later
  cases made with
  | subscribe =>
    have fresh : id ∉ state.subscribers := by
      intro member
      obtain ⟨same, found', begun⟩ := once.begun id member
      cases found.symm.trans found'
      cases moves with
      | subscribe started => exact begun started
    refine ⟨List.nodup_append.mpr ⟨once.once, by simp, ?_⟩, ?_, once.notified⟩
    · intro other member new isNew same
      cases List.mem_singleton.mp isNew
      exact fresh (same ▸ member)
    · intro other member
      rcases List.mem_append.mp member with old | new
      · exact others other old
      · cases List.mem_singleton.mp new
        exact ⟨moved, List.getElem?_set_self inside, later⟩
  | unsubscribe =>
    exact ⟨once.once.erase id, fun other member => others other (List.mem_of_mem_erase member), once.notified⟩
  | _ => exact ⟨once.once, others, once.notified⟩

theorem SubscribedOnce.notify (once : SubscribedOnce state) (block : BlockData) (rebroadcasts : List BlockData) :
    SubscribedOnce { state.notify block with rebroadcasts } := by
  refine ⟨once.once, once.begun, ?_⟩
  intro notified new
  cases new
  exact once.once.filter _

theorem SubscribedOnce.step (once : SubscribedOnce state) (one : AttestorStep attestor state event after) :
    SubscribedOnce after := by
  cases one with
  | header rollupId rollupHeader =>
    refine ⟨once.once, fun id member => ?_, once.notified⟩
    obtain ⟨call, found, begun⟩ := once.begun id member
    exact ⟨call, List.getElem?_append_left (List.getElem?_eq_some_iff.mp found).1 ▸ found, begun⟩
  | mqBlock => exact once.notify _ _
  | renotify => exact once.notify _ _
  | @visit block id ids call notifying found =>
    refine ⟨once.once, fun other member => ?_, ?_⟩
    · by_cases same : id = other
      · subst same
        obtain ⟨_, found', begun⟩ := once.begun id member
        cases found.symm.trans found'
        exact ⟨call.visit block, List.getElem?_set_self (List.getElem?_eq_some_iff.mp found).1, begun⟩
      · obtain ⟨call, found', begun⟩ := once.begun other member
        exact ⟨call, by rw [List.getElem?_set_ne same, found'], begun⟩
    · intro notified rest
      cases rest
      exact (List.nodup_cons.mp (once.notified _ notifying)).2
  | finishNotify => exact ⟨once.once, once.begun, by simp⟩
  | move _ found moves => exact once.move found (callStep_of_move moves)

theorem subscribedOnce_initial : SubscribedOnce (newAttestorState Sig OperatorId) :=
  ⟨List.nodup_nil, by simp [newAttestorState], by simp [newAttestorState]⟩

theorem subscribedOnce_of_run (run : (attestors attestor).Run history state) : SubscribedOnce state := by
  refine run.invariant (fun _ state => SubscribedOnce state) ?_ ?_
  · rintro _ rfl
    exact subscribedOnce_initial
  · intro history state event after once _ one
    exact once.step (attestorStep_of_step one)

/-! ## Deadlocks -/

theorem deadlock_cons : Deadlock (some (block, id :: ids)) calls ↔
    ∃ call, calls[id]? = some call ∧ call.Full block ∧ call.stage = .returning := by
  constructor
  · rintro ⟨_, _, _, call, same, holds⟩
    cases same
    exact ⟨call, holds⟩
  · rintro ⟨call, holds⟩
    exact ⟨block, id, ids, call, rfl, holds⟩

theorem not_deadlock_none : ¬ Deadlock none calls := by
  rintro ⟨_, _, _, _, none, _⟩
  cases none

theorem not_deadlock_nil : ¬ Deadlock (some (block, [])) calls := by
  rintro ⟨_, _, _, _, none, _⟩
  cases none

theorem deadlock_congr {calls' : List (HeaderCall Sig OperatorId)} (same : calls'[id]? = calls[id]?) :
    Deadlock (some (block, id :: ids)) calls' ↔ Deadlock (some (block, id :: ids)) calls := by
  rw [deadlock_cons, deadlock_cons, same]

theorem full_of_returning (moves : CallStep attestor call made moved) (returning : moved.stage = .returning) :
    moved.Full block ↔ call.Full block := by
  cases moves with
  | contextDone => exact Iff.rfl
  | signFails => exact Iff.rfl
  | send => exact Iff.rfl
  | _ => cases returning

theorem not_returning_of_move (unlocked : made.locks = true → state.notifying = none)
    (busy : state.notifying = some (block, ids)) (moves : CallStep attestor call made moved) :
    call.stage ≠ .returning := by
  -- a call that is about to unsubscribe does nothing else, and that needs the lock
  intro returning
  cases moves with
  | unsubscribe =>
    rw [unlocked rfl] at busy
    cases busy
  | _ => simp_all

theorem deadlock_move (unlocked : made.locks = true → state.notifying = none) (found : state.calls[id]? = some call)
    (moves : call.move attestor made = some moved) :
    ¬ Deadlock state.notifying (state.calls.set id moved) ↔
      ¬ Deadlocked state ∧ StaysClear attestor state (.move id made) := by
  have step := callStep_of_move moves
  have inside := (List.getElem?_eq_some_iff.mp found).1
  unfold Deadlocked
  simp only [StaysClear]
  rcases busy : state.notifying with _ | ⟨block, _ | ⟨next, ids⟩⟩
  · simp [not_deadlock_none]
  · simp [not_deadlock_nil]
  -- only the call that is next to be notified can keep the notifier waiting
  by_cases same : id = next
  · subst same
    have before : ¬ Deadlock (some (block, id :: ids)) state.calls := by
      rw [deadlock_cons]
      rintro ⟨_, found', _, returning⟩
      cases found.symm.trans found'
      exact not_returning_of_move unlocked busy step returning
    constructor
    · intro clear
      refine ⟨before, ?_⟩
      intro block' ids' call' moved' notified found' full moves' returning
      cases notified
      cases found.symm.trans found'
      cases moves.symm.trans moves'
      have full' := (full_of_returning step returning).mpr full
      exact clear (deadlock_cons.mpr ⟨moved, List.getElem?_set_self inside, full', returning⟩)
    · rintro ⟨_, stays⟩ stuck
      obtain ⟨call', found', full, returning⟩ := deadlock_cons.mp stuck
      rw [List.getElem?_set_self inside] at found'
      cases found'
      exact stays block ids call moved rfl found ((full_of_returning step returning).mp full) moves returning
  · have elsewhere : (state.calls.set id moved)[next]? = state.calls[next]? := List.getElem?_set_ne same
    rw [deadlock_congr elsewhere]
    refine (and_iff_left ?_).symm
    intro block' ids' call' moved' notified
    cases notified
    exact absurd rfl same

theorem deadlock_header (rollupId : Uint 32) (rollupHeader : Header) :
    Deadlocked { state with calls := state.calls ++ [newHeaderCall Sig OperatorId rollupId rollupHeader] } ↔
      Deadlocked state := by
  -- a new call has not begun, so it keeps nobody waiting
  unfold Deadlocked
  rcases state.notifying with _ | ⟨block, _ | ⟨next, ids⟩⟩
  · simp [not_deadlock_none]
  · simp [not_deadlock_nil]
  by_cases inside : next < state.calls.length
  · exact deadlock_congr (List.getElem?_append_left inside)
  · have outside := Nat.not_lt.mp inside
    rw [deadlock_cons, deadlock_cons, List.getElem?_eq_none outside, List.getElem?_append_right outside]
    constructor
    · rintro ⟨call, found, _, returning⟩
      cases List.mem_singleton.mp (List.mem_of_getElem? found)
      cases returning
    · rintro ⟨_, found, _⟩
      cases found

theorem deadlock_visit (once : SubscribedOnce state) (notifying : state.notifying = some (block, id :: ids))
    (found : state.calls[id]? = some call) (room : ¬ call.Full block) :
    ¬ Deadlock (some (block, ids)) (state.calls.set id (call.visit block)) ↔
      ¬ Deadlocked state ∧ StaysClear attestor state .visit := by
  have before : ¬ Deadlocked state := by
    rw [Deadlocked, notifying, deadlock_cons]
    rintro ⟨_, found', full, _⟩
    cases found.symm.trans found'
    exact room full
  rw [and_iff_right before, StaysClear, notifying]
  cases ids with
  | nil => exact iff_of_true not_deadlock_nil not_deadlock_nil
  | cons next ids =>
    -- no call is notified twice, so the next one is as it was
    have different : id ≠ next := by
      have nodup := once.notified _ notifying
      rintro rfl
      simp at nodup
    exact not_congr (deadlock_congr (List.getElem?_set_ne different))

/-- A deadlock is never left, and a step ends in one exactly if it does not stay clear of it. -/
theorem deadlocked_step (once : SubscribedOnce state) (one : AttestorStep attestor state event after) :
    ¬ Deadlocked after ↔ ¬ Deadlocked state ∧ StaysClear attestor state event := by
  cases one with
  | header rollupId rollupHeader =>
    exact (not_congr (deadlock_header rollupId rollupHeader)).trans (and_iff_left trivial).symm
  | mqBlock idle =>
    have before : ¬ Deadlocked state := by
      rw [Deadlocked, idle]
      exact not_deadlock_none
    exact (and_iff_right before).symm
  | renotify idle =>
    have before : ¬ Deadlocked state := by
      rw [Deadlocked, idle]
      exact not_deadlock_none
    exact (and_iff_right before).symm
  | visit notifying found room => exact deadlock_visit once notifying found room
  | finishNotify notifying =>
    have before : ¬ Deadlocked state := by
      rw [Deadlocked, notifying]
      exact not_deadlock_nil
    exact iff_of_true not_deadlock_none ⟨before, trivial⟩
  | move unlocked found moves => exact deadlock_move unlocked found moves

/-! ## Room for every block -/

def RoomLeft (state : AttestorState Sig OperatorId) : Prop :=
  ∀ notified ∈ state.notifying, ∀ id ∈ notified.2, ∀ call ∈ state.calls[id]?, ¬ call.Full notified.1

theorem not_full_of_move (moves : CallStep attestor call made moved) (room : ¬ call.Full block) : ¬ moved.Full block := by
  rintro ⟨matching, full⟩
  refine room ⟨?_, ?_⟩
  · cases moves <;> exact matching
  · cases moves with
    | takeBlock _ received =>
      rw [received, List.length_cons]
      exact Nat.le_succ_of_le full
    | _ => exact full

theorem not_full_of_set (room : ∀ call ∈ calls[id]?, ¬ call.Full block) {other : Nat}
    (roomAfter : other = id → ¬ moved.Full block) : ∀ call ∈ (calls.set other moved)[id]?, ¬ call.Full block := by
  intro call found
  rw [Option.mem_def, List.getElem?_set] at found
  split at found
  next same =>
    obtain ⟨_, here⟩ := Option.ite_none_right_eq_some.mp found
    cases here
    exact roomAfter same
  next => exact room call found

theorem RoomLeft.step (room : RoomLeft state) (once : SubscribedOnce state) (has : HasRoom state event)
    (one : AttestorStep attestor state event after) : RoomLeft after := by
  intro notified notifying id member
  cases one with
  | header rollupId rollupHeader =>
    intro call found
    by_cases inside : id < state.calls.length
    · rw [List.getElem?_append_left inside] at found
      exact room notified notifying id member call found
    · rw [List.getElem?_append_right (Nat.not_lt.mp inside)] at found
      cases List.mem_singleton.mp (List.mem_of_getElem? found)
      exact fun full => Nat.not_succ_le_zero 99 full.2
  | mqBlock =>
    cases notifying
    exact has id member
  | renotify =>
    cases notifying
    exact has id member
  | @visit block visited ids call busy found =>
    cases notifying
    refine not_full_of_set (room _ busy id (List.mem_cons_of_mem visited member)) ?_
    rintro rfl
    exact absurd member (List.nodup_cons.mp (once.notified _ busy)).1
  | finishNotify => cases notifying
  | @move moving move call moved unlocked found moves =>
    refine not_full_of_set (room notified notifying id member) ?_
    rintro rfl
    exact not_full_of_move (callStep_of_move moves) (room notified notifying moving member call found)

theorem roomLeft_of_hasRoom (run : (attestors attestor).GuardedRun HasRoom history state) :
    SubscribedOnce state ∧ RoomLeft state := by
  refine run.invariant (fun _ state => SubscribedOnce state ∧ RoomLeft state) ?_ ?_
  · rintro state rfl
    exact ⟨subscribedOnce_initial, by simp [RoomLeft, newAttestorState]⟩
  · rintro history state event after ⟨once, room⟩ has one
    have step := attestorStep_of_step one
    exact ⟨once.step step, room.step once has step⟩

/-- The notifier and a subscriber never wait for each other exactly if the notifier turns to no full channel that is no
longer read and nobody leaves a full channel that it waits for. It is enough that every block finds room. -/
theorem notifier_clear_iff (run : (attestors attestor).Run history state) :
    (¬ Deadlocked state ↔ (attestors attestor).GuardedRun (StaysClear attestor) history state) ∧
      ((attestors attestor).GuardedRun HasRoom history state → ¬ Deadlocked state) := by
  constructor
  · refine run.iff_guardedRun (fun state => ¬ Deadlocked state) ?_ ?_
    · rintro state rfl
      exact not_deadlock_none
    · intro history state event after run one
      exact deadlocked_step (subscribedOnce_of_run run) (attestorStep_of_step one)
  · rintro guarded ⟨block, id, ids, call, notifying, found, full, _⟩
    exact (roomLeft_of_hasRoom guarded).2 _ notifying id List.mem_cons_self call found full

end Steps

theorem notifier_clear_iff_attested :
    ∃ state, (attestors plainAttestor).GuardedRun HasRoom
        (announce 0 ++ notifyOne posted ++ attest 0 .takeBlock ++ [.move 0 .unsubscribe]) state ∧
      (attestors plainAttestor).GuardedRun (StaysClear plainAttestor)
        (announce 0 ++ notifyOne posted ++ attest 0 .takeBlock ++ [.move 0 .unsubscribe]) state ∧
      ¬ Deadlocked state := by
  have run := @guardedRun_of_attestorSteps _ _ plainAttestor _ HasRoom inferInstance
    (announce 0 ++ notifyOne posted ++ attest 0 .takeBlock ++ [.move 0 .unsubscribe]) rfl
  have clear := notifier_clear_iff (run.mono fun _ _ _ => trivial)
  exact ⟨_, run, clear.1.mp (clear.2 run), clear.2 run⟩

/-! ## A channel that fills -/

section Filling
variable {Sig OperatorId : Type} {attestor : Attestor Sig OperatorId} {history : List AttestorEvent}
  {state : AttestorState Sig OperatorId} {block : BlockData} {stage : CallStage} {count : Nat}

structure Queued (block : BlockData) (stage : CallStage) (count : Nat) (state : AttestorState Sig OperatorId) : Prop where
  idle : state.notifying = none
  subscribed : state.subscribers = [0]
  only : ∃ call, state.calls = [call] ∧ call.predicate block = true ∧ call.stage = stage ∧
    call.mqBlocksC.length = count

theorem rollupSubscribers_of_queued (queued : Queued block stage count state) :
    state.rollupSubscribers block.rollupId = [0] := by
  obtain ⟨call, only, matching, _⟩ := queued.only
  obtain ⟨rollup, _⟩ := (call.predicate_iff block).mp matching
  simp [AttestorState.rollupSubscribers, queued.subscribed, only, rollup]

theorem Queued.notifyOne (queued : Queued block stage count state) (room : count < channelSize)
    (run : (attestors attestor).Run history state) :
    ∃ after, (attestors attestor).Run (history ++ notifyOne block) after ∧ Queued block stage (count + 1) after := by
  obtain ⟨call, only, matching, same, length⟩ := queued.only
  have passes : ¬ (call.predicate block = true ∧ channelSize ≤ call.mqBlocksC.length) := by
    rintro ⟨_, full⟩
    omega
  have subscribers := rollupSubscribers_of_queued queued
  refine ⟨{ state with calls := [call.visit block], rebroadcasts := block :: state.rebroadcasts },
    System.GuardedRun.of_foldlM (fun _ _ _ one => ⟨trivial, one⟩) run ?_, ?_⟩
  · simp [Operator.notifyOne, AttestorState.step, AttestorState.notify, queued.idle, subscribers, only, passes]
  · refine ⟨queued.idle, queued.subscribed, call.visit block, rfl, matching, same, ?_⟩
    simp [HeaderCall.visit, matching, length]

theorem Queued.notifyMany (queued : Queued block stage 0 state) (run : (attestors attestor).Run history state) :
    ∀ count ≤ channelSize, ∃ after,
      (attestors attestor).Run (history ++ (List.replicate count (Operator.notifyOne block)).flatten) after ∧
        Queued block stage count after := by
  -- by induction on the number of blocks, of which the last one is notified last
  intro count
  induction count with
  | zero => exact fun _ => ⟨state, by simpa using run, queued⟩
  | succ count ih =>
    intro room
    obtain ⟨before, filling, fewer⟩ := ih (Nat.le_of_succ_le room)
    obtain ⟨after, filled, more⟩ := fewer.notifyOne room filling
    refine ⟨after, ?_, more⟩
    rw [List.replicate_succ', List.flatten_append, List.flatten_singleton, ← List.append_assoc]
    exact filled

theorem Queued.deadlocks (queued : Queued block .sending channelSize state)
    (run : (attestors attestor).Run history state) :
    ∃ after, (attestors attestor).Run (history ++ [.mqBlock block, .move 0 .send]) after ∧ Deadlocked after := by
  obtain ⟨call, only, matching, sending, full⟩ := queued.only
  have subscribers := rollupSubscribers_of_queued queued
  let sent : HeaderCall Sig OperatorId := { call with stage := .returning, sent := true }
  refine ⟨{ state with
      notifying := some (block, [0]), calls := [sent], rebroadcasts := block :: state.rebroadcasts },
    System.GuardedRun.of_foldlM (fun _ _ _ one => ⟨trivial, one⟩) run ?_, ?_⟩
  · simp [AttestorState.step, AttestorState.notify, HeaderCall.move, CallMove.locks, CallMove.subscribers, queued.idle,
      subscribers, only, sending, sent]
  · exact deadlock_cons.mpr ⟨sent, rfl, ⟨matching, full.ge⟩, rfl⟩

end Filling

/-- A block is read and its message signed. While the message waits to be sent, a hundred more copies of the block fill
the channel, and the next copy finds it full. -/
theorem notifier_waits_forever :
    ∃ state, (attestors plainAttestor).Run
        (announce 0 ++ notifyOne posted ++ [.move 0 .takeBlock, .move 0 .sign] ++
          (List.replicate 100 (notifyOne posted)).flatten ++ [.mqBlock posted, .move 0 .send]) state ∧
      Deadlocked state := by
  have signed : ∃ state, (attestors plainAttestor).Run
      (announce 0 ++ notifyOne posted ++ [.move 0 .takeBlock, .move 0 .sign]) state ∧ Queued posted .sending 0 state :=
    ⟨_, guardedRun_of_attestorSteps rfl, rfl, rfl, _, rfl, rfl, rfl, rfl⟩
  obtain ⟨state, run, queued⟩ := signed
  obtain ⟨filled, filling, full⟩ := queued.notifyMany run channelSize le_rfl
  exact full.deadlocks filling

end Sffl.Operator
