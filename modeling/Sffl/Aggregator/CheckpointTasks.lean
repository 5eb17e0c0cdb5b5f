import Sffl.Aggregator.Database
import Sffl.Eth.CheckpointRuns

/-! Checkpoint tasks, from the aggregator that creates them to the operators that answer.

`sendNewCheckpointTask` computes a range of timestamps from the time of a block
and from the end of the last range. The task manager checks the range when the
task is created, and the aggregator's own server checks it again when an operator
asks for the messages in it. All arithmetic is on unsigned words that wrap.
-/

set_option autoImplicit false

namespace Sffl.Aggregator

open Sffl.Evm Sffl.Eth Sffl.Rollup

/-- Timeouts are in seconds, as `Seconds()` yields them. -/
def MESSAGE_SUBMISSION_TIMEOUT : Nat := 60

def MESSAGE_BLS_AGGREGATION_TIMEOUT : Nat := 30

def TASK_QUORUM_THRESHOLD : Uint 32 := 66

def QUORUM_NUMBERS : List (Uint 8) := [0]

/-- Two hours. -/
def MaxCheckpointRange : Uint 64 := 7200

/-! ## Creating a task -/

/-- The configured interval is in milliseconds, and `Seconds()` is cut off to an integer. -/
def intervalSeconds (checkpointInterval : Uint 32) : Uint 64 := BitVec.ofNat 64 (checkpointInterval.toNat / 1000)

def checkpointToTimestamp (blockTime : Uint 64) : Uint 64 :=
  blockTime - BitVec.ofNat 64 MESSAGE_SUBMISSION_TIMEOUT - BitVec.ofNat 64 MESSAGE_BLS_AGGREGATION_TIMEOUT

def checkpointFromTimestamp (checkpointInterval : Uint 32) (blockTime lastCheckpointToTimestamp : Uint 64) : Uint 64 :=
  if lastCheckpointToTimestamp = 0 then checkpointToTimestamp blockTime - intervalSeconds checkpointInterval
  else lastCheckpointToTimestamp + 1

/-- `sendNewCheckpointTask`, once it has read the block and the end of the last
range. Its transaction is mined later, so the task manager may have moved on. -/
def sendNewCheckpointTask {Evidence : Type} (keccak256 : Bytes → Bytes32) (checkpointInterval : Uint 32)
    (blockTime lastCheckpointToTimestamp : Uint 64) (manager : TaskManager) (environment : Environment Evidence) :
    Call (TaskManager × List CheckpointEvent) :=
  createCheckpointTask keccak256 manager environment
    (checkpointFromTimestamp checkpointInterval blockTime lastCheckpointToTimestamp) (checkpointToTimestamp blockTime)
    TASK_QUORUM_THRESHOLD QUORUM_NUMBERS

/-! ## Asking for its messages -/

structure GetAggregatedCheckpointMessagesArgs where
  fromTimestamp : Uint 64
  toTimestamp : Uint 64
  deriving DecidableEq, Repr

def GetAggregatedCheckpointMessagesArgs.isValid : Option GetAggregatedCheckpointMessagesArgs → Except String Unit
  | none => .error "Args is nil"
  | some args =>
    if args.toTimestamp < args.fromTimestamp then .error "FromTimestamp is greater than ToTimestamp"
    else if MaxCheckpointRange < args.toTimestamp - args.fromTimestamp then .error "Checkpoint range exceeds 2 hours"
    else .ok ()

inductive ServerError where
  | invalid (text : String)
  | database (error : DatabaseError)
  deriving DecidableEq, Repr

section Server
variable {Sig Key : Type}

def getAggregatedCheckpointMessages (first second : Database Sig Key) (args : GetAggregatedCheckpointMessagesArgs) :
    Except ServerError (CheckpointMessages Sig Key) := do
  (GetAggregatedCheckpointMessagesArgs.isValid (some args)).mapError .invalid
  -- the database may move on while it is read
  (fetchCheckpointMessages first second args.fromTimestamp args.toTimestamp).mapError .database

def taskMessages (first second : Database Sig Key) (task : Task) : Except ServerError (CheckpointMessages Sig Key) :=
  getAggregatedCheckpointMessages first second ⟨task.fromTimestamp, task.toTimestamp⟩

theorem taskMessages_isOk (first second : Database Sig Key) {task : Task}
    (ordered : task.fromTimestamp ≤ task.toTimestamp) :
    (taskMessages first second task).isOk = true ↔
      task.toTimestamp.toNat < 2 ^ 63 ∧ task.toTimestamp.toNat ≤ task.fromTimestamp.toNat + 7200 := by
  have bounded := BitVec.le_def.mp ordered
  have difference : (task.toTimestamp - task.fromTimestamp).toNat = task.toTimestamp.toNat - task.fromTimestamp.toNat :=
    BitVec.toNat_sub_of_le ordered
  have inOrder : ¬ task.toTimestamp < task.fromTimestamp := BitVec.not_lt.mpr ordered
  unfold taskMessages getAggregatedCheckpointMessages GetAggregatedCheckpointMessagesArgs.isValid
  simp only [if_neg inOrder]
  by_cases long : MaxCheckpointRange < task.toTimestamp - task.fromTimestamp
  · simp only [if_pos long]
    have exceeds : 7200 < (task.toTimestamp - task.fromTimestamp).toNat := BitVec.lt_def.mp long
    exact iff_of_false nofun (by omega)
  · simp only [if_neg long]
    have within : (task.toTimestamp - task.fromTimestamp).toNat ≤ 7200 := BitVec.le_def.mp (BitVec.not_lt.mp long)
    unfold fetchCheckpointMessages
    simp only [if_neg inOrder]
    by_cases large : 2 ^ 63 - 1 < task.fromTimestamp.toNat ∨ 2 ^ 63 - 1 < task.toTimestamp.toNat
    · simp only [if_pos large]
      exact iff_of_false nofun (by omega)
    · simp only [if_neg large]
      exact iff_of_true rfl (by omega)

end Server

/-! ## Which tasks can be answered -/

/-- The block is at most two hours ahead of the last range, besides the two
timeouts. The other bounds keep the end of the range out of the wrapped half. -/
def Answerable (blockTime lastCheckpointToTimestamp : Uint 64) : Prop :=
  90 ≤ blockTime.toNat ∧ blockTime.toNat < 2 ^ 63 + 90 ∧
    (lastCheckpointToTimestamp = 0 ∨ blockTime.toNat ≤ (lastCheckpointToTimestamp + 1).toNat + 7200 + 90)

instance (blockTime lastCheckpointToTimestamp : Uint 64) : Decidable (Answerable blockTime lastCheckpointToTimestamp) :=
  inferInstanceAs (Decidable (_ ∧ _ ∧ _))

theorem checkpointToTimestamp_toNat (blockTime : Uint 64) :
    (checkpointToTimestamp blockTime).toNat = (blockTime.toNat + (2 ^ 64 - 90)) % 2 ^ 64 := by
  have bound := blockTime.isLt
  simp only [checkpointToTimestamp, MESSAGE_SUBMISSION_TIMEOUT, MESSAGE_BLS_AGGREGATION_TIMEOUT, BitVec.toNat_sub,
    BitVec.toNat_ofNat]
  omega

theorem intervalSeconds_toNat (checkpointInterval : Uint 32) :
    (intervalSeconds checkpointInterval).toNat = checkpointInterval.toNat / 1000 := by
  have bound := checkpointInterval.isLt
  simp only [intervalSeconds, BitVec.toNat_ofNat]
  omega

theorem first_range_length {checkpointInterval : Uint 32} {blockTime : Uint 64}
    (ordered : checkpointFromTimestamp checkpointInterval blockTime 0 ≤ checkpointToTimestamp blockTime) :
    (checkpointToTimestamp blockTime).toNat =
      (checkpointFromTimestamp checkpointInterval blockTime 0).toNat + checkpointInterval.toNat / 1000 := by
  have bound := (checkpointToTimestamp blockTime).isLt
  have seconds := intervalSeconds_toNat checkpointInterval
  have small := checkpointInterval.isLt
  simp only [checkpointFromTimestamp, if_true] at ordered ⊢
  rw [BitVec.le_def] at ordered
  rw [BitVec.toNat_sub, seconds] at ordered ⊢
  omega

theorem range_answerable_iff {checkpointInterval : Uint 32} (short : checkpointInterval.toNat ≤ 2 * 60 * 60 * 1000)
    {blockTime lastCheckpointToTimestamp : Uint 64}
    (ordered : checkpointFromTimestamp checkpointInterval blockTime lastCheckpointToTimestamp ≤
      checkpointToTimestamp blockTime) :
    (checkpointToTimestamp blockTime).toNat < 2 ^ 63 ∧ (checkpointToTimestamp blockTime).toNat ≤
        (checkpointFromTimestamp checkpointInterval blockTime lastCheckpointToTimestamp).toNat + 7200 ↔
      Answerable blockTime lastCheckpointToTimestamp := by
  have bound := blockTime.isLt
  have to_eq := checkpointToTimestamp_toNat blockTime
  unfold Answerable
  by_cases first : lastCheckpointToTimestamp = 0
  · subst first
    have length := first_range_length ordered
    simp only [true_or, and_true]
    omega
  · have from_eq : checkpointFromTimestamp checkpointInterval blockTime lastCheckpointToTimestamp =
        lastCheckpointToTimestamp + 1 := if_neg first
    rw [from_eq] at ordered ⊢
    have le := BitVec.le_def.mp ordered
    simp only [first, false_or]
    omega

section Created
variable {Evidence : Type} {keccak256 : Bytes → Bytes32} {checkpointInterval : Uint 32}
  {blockTime lastCheckpointToTimestamp : Uint 64} {manager after : TaskManager} {environment : Environment Evidence}
  {events : List CheckpointEvent}

theorem sendNewCheckpointTask_created
    (accepted : sendNewCheckpointTask keccak256 checkpointInterval blockTime lastCheckpointToTimestamp manager
      environment = .ok (after, events)) :
    checkpointFromTimestamp checkpointInterval blockTime lastCheckpointToTimestamp ≤ checkpointToTimestamp blockTime ∧
    events = [.created manager.nextCheckpointTaskNum (newTask environment
      (checkpointFromTimestamp checkpointInterval blockTime lastCheckpointToTimestamp) (checkpointToTimestamp blockTime)
      TASK_QUORUM_THRESHOLD QUORUM_NUMBERS)] := by
  simp only [sendNewCheckpointTask, createCheckpointTask, bind_eq_ok, require_eq_ok] at accepted
  obtain ⟨_, _, _, _, _, _, _, ordered, _, _, _, _, _, _, result⟩ := accepted
  cases result
  exact ⟨ordered, rfl⟩

/-- A created task can be answered exactly if its block is at most two hours, and the timeouts, after the last range. -/
theorem checkpoint_answerable_iff {Sig Key : Type} (short : checkpointInterval.toNat ≤ 2 * 60 * 60 * 1000)
    (accepted : sendNewCheckpointTask keccak256 checkpointInterval blockTime lastCheckpointToTimestamp manager
      environment = .ok (after, events)) :
    ∃ task, events = [.created manager.nextCheckpointTaskNum task] ∧
      ((∀ first second : Database Sig Key, (taskMessages first second task).isOk = true) ↔
        Answerable blockTime lastCheckpointToTimestamp) := by
  obtain ⟨ordered, emitted⟩ := sendNewCheckpointTask_created accepted
  refine ⟨_, emitted, ?_⟩
  rw [← range_answerable_iff short ordered]
  constructor
  · intro answered
    exact (taskMessages_isOk newDatabase newDatabase ordered).mp (answered newDatabase newDatabase)
  · intro passes first second
    exact (taskMessages_isOk first second ordered).mpr passes

end Created

/-! ## A stop of more than two hours -/

def generatorAt (timestamp : Uint 256) : Environment Unit := { seventyAtBlock 3 200 with timestamp }

theorem checkpoint_answerable_iff_two_hours :
    ∃ after events task, sendNewCheckpointTask foldedBytes 7200000 7301 10 firstCreated.1 (generatorAt 7350) =
        .ok (after, events) ∧ events = [.created 1 task] ∧
      ∀ first second : Database (ZMod 7) (ZMod 7), (taskMessages first second task).isOk = true := by
  have accepted : ∃ result, sendNewCheckpointTask foldedBytes 7200000 7301 10 firstCreated.1 (generatorAt 7350) =
      .ok result := ⟨_, rfl⟩
  obtain ⟨⟨after, events⟩, accepted⟩ := accepted
  obtain ⟨task, emitted, exactly⟩ := checkpoint_answerable_iff (by decide) accepted
  exact ⟨after, events, task, accepted, emitted, exactly.mpr (by decide)⟩

/-- One second more, and the task manager still takes the task, but the aggregator's server refuses every operator. -/
theorem longer_stop_unanswerable :
    (7200000 : Uint 32).toNat ≤ 2 * 60 * 60 * 1000 ∧
    ∃ after task, sendNewCheckpointTask foldedBytes 7200000 7302 10 firstCreated.1 (generatorAt 7350) =
        .ok (after, [.created 1 task]) ∧
      task.fromTimestamp = 11 ∧ task.toTimestamp = 7212 ∧
      ∀ first second : Database (ZMod 7) (ZMod 7),
        taskMessages first second task = .error (.invalid "Checkpoint range exceeds 2 hours") :=
  ⟨by decide, _, _, rfl, rfl, rfl, fun _ _ => rfl⟩

end Sffl.Aggregator
