import Sffl.Eth.CheckpointRuns

/-! The ranges of checkpoint tasks.

A new range has to start after the end of the last one, or at zero. Zero is
meant for the first task but is taken at any time, so the ranges are disjoint
exactly as long as only the first one starts there.
-/

set_option autoImplicit false

namespace Sffl.Eth

open Sffl.Evm Sffl.Semantics

variable {Evidence : Type}

section Definitions
variable (keccak256 : Bytes → Bytes32) (window : Uint 32)

def createdTasks (log : List CheckpointEvent) : List Task :=
  log.filterMap fun event => match event with
    | .created _ task => some task
    | _ => none

def Task.Before (earlier later : Task) : Prop :=
  earlier.fromTimestamp ≤ earlier.toTimestamp ∧ earlier.toTimestamp < later.fromTimestamp ∧
    later.fromTimestamp ≤ later.toTimestamp

def RangesOrdered (log : List CheckpointEvent) : Prop := (createdTasks log).Pairwise Task.Before

def StartsOnce (state : TaskManager × List CheckpointEvent) (call : Environment Evidence × TaskInvocation Evidence) :
    Prop :=
  ∀ toTimestamp quorumThreshold quorumNumbers,
    call.2 = .createCheckpointTask 0 toTimestamp quorumThreshold quorumNumbers →
    (state.1.execute keccak256 window call.1 call.2).isOk = true → state.1.nextCheckpointTaskNum = 0

/-- The stored end is that of the last task, and zero before there is one. -/
structure Latest (state : TaskManager × List CheckpointEvent) : Prop where
  none_iff : state.1.nextCheckpointTaskNum = 0 ↔ createdTasks state.2 = []
  nonempty : ∀ task ∈ createdTasks state.2, task.fromTimestamp ≤ task.toTimestamp
  last : state.1.lastCheckpointToTimestamp = ((createdTasks state.2).getLast?.map Task.toTimestamp).getD 0

end Definitions

variable {keccak256 : Bytes → Bytes32} {window : Uint 32} {state : TaskManager × List CheckpointEvent}
  {call : Environment Evidence × TaskInvocation Evidence}

theorem createdTasks_append (log events : List CheckpointEvent) :
    createdTasks (log ++ events) = createdTasks log ++ createdTasks events :=
  List.filterMap_append

theorem createdTasks_eq_nil {events : List CheckpointEvent} (without : ∀ taskIndex task, .created taskIndex task ∉ events) :
    createdTasks events = [] := by
  refine List.filterMap_eq_nil_iff.mpr fun event member => ?_
  cases event with
  | created taskIndex task => exact absurd member (without taskIndex task)
  | responded => rfl
  | challengedUnsuccessfully => rfl

variable (keccak256 window) in
theorem transact_ranges (state : TaskManager × List CheckpointEvent)
    (call : Environment Evidence × TaskInvocation Evidence) :
    let after := transact keccak256 window state call
    (createdTasks after.2 = createdTasks state.2 ∧
      after.1.nextCheckpointTaskNum = state.1.nextCheckpointTaskNum ∧
      after.1.lastCheckpointToTimestamp = state.1.lastCheckpointToTimestamp ∧ StartsOnce keccak256 window state call) ∨
    ∃ task, createdTasks after.2 = createdTasks state.2 ++ [task] ∧
      after.1.nextCheckpointTaskNum.toNat = state.1.nextCheckpointTaskNum.toNat + 1 ∧
      after.1.lastCheckpointToTimestamp = task.toTimestamp ∧ task.fromTimestamp ≤ task.toTimestamp ∧
      (task.fromTimestamp = 0 ∨ state.1.lastCheckpointToTimestamp < task.fromTimestamp) ∧
      (StartsOnce keccak256 window state call ↔ (task.fromTimestamp = 0 → state.1.nextCheckpointTaskNum = 0)) := by
  intro after
  simp only [after, transact]
  cases executed : state.1.execute keccak256 window call.1 call.2 with
  | error =>
    refine Or.inl ⟨rfl, rfl, rfl, fun _ _ _ _ accepted => ?_⟩
    rw [executed] at accepted
    cases accepted
  | ok result =>
    obtain ⟨after, events⟩ := result
    simp only [createdTasks_append]
    cases execute_change executed with
    | created fromTimestamp toTimestamp quorumThreshold quorumNumbers create ordered starts next last _ _ emitted =>
      rw [emitted]
      refine Or.inr ⟨_, rfl, next, last, ordered, starts, ?_⟩
      unfold StartsOnce
      rw [executed, create]
      constructor
      · rintro once (rfl : fromTimestamp = 0)
        exact once _ _ _ rfl rfl
      · rintro once _ _ _ same _
        cases same
        exact once rfl
    | responded _ _ _ _ _ respond _ _ _ _ _ _ _ next last _ _ emitted =>
      rw [emitted]
      refine Or.inl ⟨List.append_nil _, next, last, fun _ _ _ create => ?_⟩
      cases respond.symm.trans create
    | kept other next last _ _ emitted =>
      rw [createdTasks_eq_nil emitted]
      exact Or.inl ⟨List.append_nil _, next, last, fun _ _ _ create => absurd create (other _ _ _ _)⟩

theorem Latest.step (latest : Latest state) : Latest (transact keccak256 window state call) := by
  rcases transact_ranges keccak256 window state call with ⟨tasks, next, last, _⟩ | ⟨task, tasks, next, last, nonempty, _⟩
  · exact ⟨by rw [next, tasks]; exact latest.none_iff, by rw [tasks]; exact latest.nonempty,
      by rw [last, tasks]; exact latest.last⟩
  · refine ⟨?_, ?_, ?_⟩ <;> rw [tasks]
    · refine iff_of_false (fun zero => ?_) (List.concat_ne_nil _ _)
      rw [zero] at next
      exact absurd next (Nat.succ_ne_zero _).symm
    · exact List.forall_mem_append.mpr ⟨latest.nonempty, List.forall_mem_singleton.mpr nonempty⟩
    · rw [last, List.getLast?_concat]
      rfl

theorem Latest.end_le (latest : Latest state) (ordered : RangesOrdered state.2) {task : Task}
    (created : task ∈ createdTasks state.2) : task.toTimestamp ≤ state.1.lastCheckpointToTimestamp := by
  rcases List.eq_nil_or_concat (createdTasks state.2) with none | ⟨earlier, final, tasks⟩
  · rw [none] at created
    cases created
  · have last := latest.last
    rw [tasks, List.concat_eq_append, List.getLast?_concat] at last
    rw [tasks, List.concat_eq_append] at created
    unfold RangesOrdered at ordered
    rw [tasks, List.concat_eq_append, List.pairwise_append] at ordered
    rw [show state.1.lastCheckpointToTimestamp = final.toTimestamp from last]
    rcases List.mem_append.mp created with before | is_final
    · obtain ⟨_, until_start, after_start⟩ := ordered.2.2 task before final (List.mem_singleton_self _)
      bv_omega
    · rw [List.mem_singleton.mp is_final]
      exact BitVec.le_refl _

/-- One transaction keeps the ranges ordered and the stored end from going back exactly if it does not start a later
task at zero. -/
theorem ranges_step_iff (latest : Latest state) (ordered : RangesOrdered state.2) :
    state.1.lastCheckpointToTimestamp ≤ (transact keccak256 window state call).1.lastCheckpointToTimestamp ∧
      RangesOrdered (transact keccak256 window state call).2 ↔ StartsOnce keccak256 window state call := by
  unfold RangesOrdered
  rcases transact_ranges keccak256 window state call with
    ⟨tasks, _, last, once⟩ | ⟨task, tasks, _, last, nonempty, starts, once_iff⟩
  · rw [tasks, last]
    exact iff_of_true ⟨BitVec.le_refl _, ordered⟩ once
  · rw [tasks, last, once_iff, List.pairwise_append]
    constructor
    · rintro ⟨_, _, _, after⟩ zero
      -- an earlier task would have to end before zero
      refine latest.none_iff.mpr (List.eq_nil_iff_forall_not_mem.mpr fun earlier created => ?_)
      have before := (after earlier created task (List.mem_singleton_self _)).2.1
      rw [zero] at before
      exact BitVec.not_lt_zero before
    · intro once
      rcases starts with zero | later
      · have none := latest.none_iff.mp (once zero)
        have unset := latest.last
        rw [none] at unset
        rw [none, show state.1.lastCheckpointToTimestamp = 0 from unset]
        exact ⟨by bv_omega, List.Pairwise.nil, List.pairwise_singleton _ _, nofun⟩
      · refine ⟨by bv_omega, ordered, List.pairwise_singleton _ _, fun earlier created final same => ?_⟩
        rw [List.mem_singleton.mp same]
        have until_last := latest.end_le ordered created
        exact ⟨latest.nonempty earlier created, by bv_omega, nonempty⟩

theorem latest_of_run {guard : TaskManager × List CheckpointEvent → Environment Evidence × TaskInvocation Evidence → Prop}
    {history : List (Environment Evidence × TaskInvocation Evidence)}
    (run : (taskManagers keccak256 window Evidence).GuardedRun guard history state) : Latest state := by
  refine run.invariant (fun _ state => Latest state) ?_ ?_
  · rintro state ⟨owner, aggregator, generator, rfl⟩
    exact ⟨iff_of_true rfl rfl, nofun, rfl⟩
  · rintro history state call after latest _ rfl
    exact latest.step

/-- A run goes through ordered ranges only, and its stored end never goes back, exactly if only the first of its tasks
starts at zero. -/
theorem checkpoints_ordered_iff {history : List (Environment Evidence × TaskInvocation Evidence)} :
    (taskManagers keccak256 window Evidence).GuardedRun
        (fun state call => RangesOrdered state.2 ∧
          state.1.lastCheckpointToTimestamp ≤ (transact keccak256 window state call).1.lastCheckpointToTimestamp)
        history state ∧ RangesOrdered state.2 ↔
      (taskManagers keccak256 window Evidence).GuardedRun (StartsOnce keccak256 window) history state := by
  refine System.guardedRun_iff (fun _ _ => True)
    (fun state : TaskManager × List CheckpointEvent => RangesOrdered state.2) ?_ ?_ ?_ ?_
  · rintro state ⟨owner, aggregator, generator, rfl⟩
    exact List.Pairwise.nil
  · exact fun state call good => ⟨trivial, good.1⟩
  · exact fun _ _ _ => trivial
  · rintro history state call after run ordered rfl
    rw [and_assoc, and_iff_right ordered]
    exact ranges_step_iff (latest_of_run run) ordered

/-! ## A second task that starts at zero -/

/-- A second task is created from zero. Its range overlaps the first one, and the stored end goes back. -/
theorem second_task_from_zero_overlaps :
    ∃ (history : List (Environment Unit × TaskInvocation Unit)) (state : TaskManager × List CheckpointEvent)
      (call : Environment Unit × TaskInvocation Unit),
      (taskManagers foldedBytes 30 Unit).Run history state ∧
      (transact foldedBytes 30 state call).1.lastCheckpointToTimestamp < state.1.lastCheckpointToTimestamp ∧
      (createdTasks (transact foldedBytes 30 state call).2).map (fun task => (task.fromTimestamp, task.toTimestamp)) =
        [(5, 10), (0, 8)] ∧
      ¬ RangesOrdered (transact foldedBytes 30 state call).2 := by
  refine ⟨[createFirst], firstCreated, (seventyAtBlock 3 101, .createCheckpointTask 0 8 66 [0]), firstCreated_run,
    by decide, rfl, fun ordered => ?_⟩
  have before := List.rel_of_pairwise_cons ordered (List.mem_singleton_self _)
  exact absurd before.2.1 (by decide)

end Sffl.Eth
