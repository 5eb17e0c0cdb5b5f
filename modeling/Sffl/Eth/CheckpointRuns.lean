import Sffl.Eth.Checkpoint

/-! Checkpoint tasks over whole runs.

The first part says once what an accepted call does to the tasks. The life cycle
of a task follows with an invariant that ties the stored hashes to the tasks in
the log.
-/

set_option autoImplicit false

namespace Sffl.Eth

open Sffl.Evm Sffl.Rollup Sffl.Semantics

/-! ## One call -/

def QuorumMet (totals : QuorumStakeTotals) (quorumThreshold : Uint 32) (i : Nat) : Prop :=
  ∃ signedStake totalStake, totals.signedStakeForQuorum[i]? = some signedStake ∧
    totals.totalStakeForQuorum[i]? = some totalStake ∧
    totalStake.toNat * quorumThreshold.toNat ≤ signedStake.toNat * 100

theorem stakeAt_eq_ok {stakes : List (Uint 96)} {i : Nat} {stake : Uint 96} :
    stakeAt stakes i = .ok stake ↔ stakes[i]? = some stake := by
  unfold stakeAt
  cases stakes[i]? <;> simp

theorem quorumPasses_true {totals : QuorumStakeTotals} {quorumThreshold : Uint 32} {i : Nat}
    (passes : quorumPasses totals quorumThreshold i = .ok true) : QuorumMet totals quorumThreshold i := by
  simp only [quorumPasses, bind_eq_ok, stakeAt_eq_ok, checkedMul_eq_ok, pure, Except.pure, Except.ok.injEq,
    decide_eq_true_eq] at passes
  obtain ⟨signedStake, signedAt, signed, signedProduct, totalStake, totalAt, required, requiredProduct, enough⟩ := passes
  refine ⟨signedStake, totalStake, signedAt, totalAt, ?_⟩
  have widened : (quorumThreshold.setWidth 96).toNat = quorumThreshold.toNat :=
    BitVec.toNat_setWidth_of_le (by decide)
  rw [widened] at requiredProduct
  rw [requiredProduct]
  exact enough.trans_eq signedProduct.symm

theorem checkQuorums_true {totals : QuorumStakeTotals} {quorumThreshold : Uint 32} {positions : List Nat}
    (met : checkQuorums totals quorumThreshold positions = .ok true) :
    ∀ i ∈ positions, QuorumMet totals quorumThreshold i := by
  induction positions with
  | nil => exact fun _ => nofun
  | cons position positions ih =>
    obtain ⟨passes, passed, rest⟩ := bind_eq_ok.mp met
    cases passes with
    | false => cases rest
    | true => exact List.forall_mem_cons.mpr ⟨quorumPasses_true passed, ih rest⟩

theorem checkQuorum_true {checked : Call (QuorumStakeTotals × Bytes32)} {quorumNumbers : List (Uint 8)}
    {quorumThreshold : Uint 32} {hashOfNonSigners : Bytes32}
    (success : checkQuorum checked quorumNumbers quorumThreshold = .ok (true, hashOfNonSigners)) :
    ∃ totals, checked = .ok (totals, hashOfNonSigners) ∧
      ∀ i < quorumNumbers.length, QuorumMet totals quorumThreshold i := by
  obtain ⟨⟨totals, other⟩, answered, rest⟩ := bind_eq_ok.mp success
  obtain ⟨met, quorums, result⟩ := bind_eq_ok.mp rest
  obtain ⟨rfl, rfl⟩ := Prod.mk.inj (Except.ok.inj result)
  exact ⟨totals, answered, fun i small => checkQuorums_true quorums i (List.mem_range.mpr small)⟩

variable {Evidence : Type} (keccak256 : Bytes → Bytes32) (window : Uint 32)

/-- What an accepted call does to the tasks. -/
inductive CheckpointChange (manager after : TaskManager) (environment : Environment Evidence)
    (invocation : TaskInvocation Evidence) (events : List CheckpointEvent) : Prop where
  | created (fromTimestamp toTimestamp : Uint 64) (quorumThreshold : Uint 32) (quorumNumbers : List (Uint 8))
      (call : invocation = .createCheckpointTask fromTimestamp toTimestamp quorumThreshold quorumNumbers)
      (ordered : fromTimestamp ≤ toTimestamp)
      (starts : fromTimestamp = 0 ∨ manager.lastCheckpointToTimestamp < fromTimestamp)
      (next : after.nextCheckpointTaskNum.toNat = manager.nextCheckpointTaskNum.toNat + 1)
      (last : after.lastCheckpointToTimestamp = toTimestamp)
      (hashes : after.allCheckpointTaskHashes = Function.update manager.allCheckpointTaskHashes
        manager.nextCheckpointTaskNum
        ((newTask environment fromTimestamp toTimestamp quorumThreshold quorumNumbers).hash keccak256))
      (responses : after.allCheckpointTaskResponses = manager.allCheckpointTaskResponses)
      (emitted : events = [.created manager.nextCheckpointTaskNum
        (newTask environment fromTimestamp toTimestamp quorumThreshold quorumNumbers)])
  | responded (task : Task) (taskResponse : TaskResponse) (evidence : Evidence) (totals : QuorumStakeTotals)
      (metadata : TaskResponseMetadata)
      (call : invocation = .respondToCheckpointTask task taskResponse evidence)
      (sender : environment.sender = manager.aggregator)
      (known : task.hash keccak256 = manager.allCheckpointTaskHashes taskResponse.referenceTaskIndex)
      (unanswered : manager.allCheckpointTaskResponses taskResponse.referenceTaskIndex = 0)
      (inTime : (environment.blockNumber.setWidth 32 : Uint 32).toNat ≤ task.taskCreatedBlock.toNat + window.toNat)
      (checked : environment.checkSignatures (taskResponse.hash keccak256) task.quorumNumbers task.taskCreatedBlock
        evidence = .ok (totals, metadata.hashOfNonSigners))
      (block : metadata.taskRespondedBlock = environment.blockNumber.setWidth 32)
      (met : ∀ i < task.quorumNumbers.length, QuorumMet totals task.quorumThreshold i)
      (next : after.nextCheckpointTaskNum = manager.nextCheckpointTaskNum)
      (last : after.lastCheckpointToTimestamp = manager.lastCheckpointToTimestamp)
      (hashes : after.allCheckpointTaskHashes = manager.allCheckpointTaskHashes)
      (responses : after.allCheckpointTaskResponses = Function.update manager.allCheckpointTaskResponses
        taskResponse.referenceTaskIndex (taskResponse.hashAgreement keccak256 metadata))
      (emitted : events = [.responded taskResponse metadata])
  | kept (other : ∀ fromTimestamp toTimestamp quorumThreshold quorumNumbers,
        invocation ≠ .createCheckpointTask fromTimestamp toTimestamp quorumThreshold quorumNumbers)
      (next : after.nextCheckpointTaskNum = manager.nextCheckpointTaskNum)
      (last : after.lastCheckpointToTimestamp = manager.lastCheckpointToTimestamp)
      (hashes : after.allCheckpointTaskHashes = manager.allCheckpointTaskHashes)
      (responses : after.allCheckpointTaskResponses = manager.allCheckpointTaskResponses)
      (emitted : ∀ taskIndex task, .created taskIndex task ∉ events)

variable {keccak256 window} {manager after : TaskManager} {environment : Environment Evidence}
  {events : List CheckpointEvent}

theorem createCheckpointTask_change {fromTimestamp toTimestamp : Uint 64} {quorumThreshold : Uint 32}
    {quorumNumbers : List (Uint 8)}
    (success : createCheckpointTask keccak256 manager environment fromTimestamp toTimestamp quorumThreshold
      quorumNumbers = .ok (after, events)) :
    CheckpointChange keccak256 window manager after environment
      (.createCheckpointTask fromTimestamp toTimestamp quorumThreshold quorumNumbers) events := by
  simp only [createCheckpointTask, bind_eq_ok, require_eq_ok, checkedAdd_eq_ok] at success
  obtain ⟨_, _, _, _, _, _, _, ordered, _, _, _, starts, next, added, result⟩ := success
  cases result
  exact .created _ _ _ _ rfl ordered starts added.symm rfl rfl rfl rfl

theorem respondToCheckpointTask_change {task : Task} {taskResponse : TaskResponse} {evidence : Evidence}
    (success : respondToCheckpointTask keccak256 window manager environment task taskResponse evidence =
      .ok (after, events)) :
    CheckpointChange keccak256 window manager after environment
      (.respondToCheckpointTask task taskResponse evidence) events := by
  simp only [respondToCheckpointTask, bind_eq_ok, require_eq_ok, checkedAdd_eq_ok] at success
  obtain ⟨_, sender, _, _, _, known, _, unanswered, lastBlock, added, _, inTime, ⟨success, hashOfNonSigners⟩, quorum, _,
    reached, result⟩ := success
  simp only at reached
  rw [reached] at quorum
  obtain ⟨totals, checked, met⟩ := checkQuorum_true quorum
  cases result
  refine .responded task taskResponse evidence totals ⟨_, hashOfNonSigners⟩ rfl sender known unanswered ?_ checked rfl
    met rfl rfl rfl rfl rfl
  exact (BitVec.le_def.mp inTime).trans_eq added.symm

theorem execute_change {invocation : TaskInvocation Evidence}
    (success : manager.execute keccak256 window environment invocation = .ok (after, events)) :
    CheckpointChange keccak256 window manager after environment invocation events := by
  cases invocation with
  | createCheckpointTask => exact createCheckpointTask_change success
  | respondToCheckpointTask => exact respondToCheckpointTask_change success
  | raiseAndResolveCheckpointChallenge task taskResponse =>
    simp only [TaskManager.execute, raiseAndResolveCheckpointChallenge, validateChallenge, bind_eq_ok] at success
    obtain ⟨_, _, result⟩ := success
    cases result
    exact .kept (by simp) rfl rfl rfl rfl (by simp)
  | setAggregator =>
    simp only [TaskManager.execute, bind_eq_ok] at success
    obtain ⟨_, _, result⟩ := success
    cases result
    exact .kept (by simp) rfl rfl rfl rfl (by simp)
  | setGenerator =>
    simp only [TaskManager.execute, bind_eq_ok] at success
    obtain ⟨_, _, result⟩ := success
    cases result
    exact .kept (by simp) rfl rfl rfl rfl (by simp)
  | transferOwnership =>
    simp only [TaskManager.execute, bind_eq_ok] at success
    obtain ⟨_, _, _, _, result⟩ := success
    cases result
    exact .kept (by simp) rfl rfl rfl rfl (by simp)
  | renounceOwnership =>
    simp only [TaskManager.execute, bind_eq_ok] at success
    obtain ⟨_, _, result⟩ := success
    cases result
    exact .kept (by simp) rfl rfl rfl rfl (by simp)
  | setPaused =>
    cases success
    exact .kept (by simp) rfl rfl rfl rfl (by simp)

/-! ## The life cycle of a task -/

section LifeCycle
variable (keccak256 : Bytes → Bytes32) (window : Uint 32)

def hashedCall (call : Environment Evidence × TaskInvocation Evidence) : List Bytes :=
  match call.2 with
  | .createCheckpointTask fromTimestamp toTimestamp quorumThreshold quorumNumbers =>
      [(newTask call.1 fromTimestamp toTimestamp quorumThreshold quorumNumbers).abiEncode]
  | .respondToCheckpointTask task taskResponse evidence =>
      task.abiEncode ::
        match call.1.checkSignatures (taskResponse.hash keccak256) task.quorumNumbers task.taskCreatedBlock evidence with
        | .ok (_, hashOfNonSigners) =>
            [agreementBytes taskResponse ⟨call.1.blockNumber.setWidth 32, hashOfNonSigners⟩]
        | .error _ => []
  | _ => []

/-- The stored hashes are those of the tasks in the log. -/
structure Tracked (inputs : List Bytes) (state : TaskManager × List CheckpointEvent) : Prop where
  known : ∀ taskIndex task, .created taskIndex task ∈ state.2 → taskIndex < state.1.nextCheckpointTaskNum ∧
    state.1.allCheckpointTaskHashes taskIndex = task.hash keccak256 ∧ task.abiEncode ∈ inputs
  listed : ∀ taskIndex, taskIndex < state.1.nextCheckpointTaskNum → ∃ task, .created taskIndex task ∈ state.2
  absent : ∀ taskIndex, ¬ taskIndex < state.1.nextCheckpointTaskNum → state.1.allCheckpointTaskHashes taskIndex = 0
  answered : ∀ taskIndex, state.1.allCheckpointTaskResponses taskIndex ≠ 0 →
    taskIndex < state.1.nextCheckpointTaskNum

/-- The call is the aggregator's, with the task of that index, in time and with every quorum of the task. -/
def AnswersTask (state : TaskManager × List CheckpointEvent) (call : Environment Evidence × TaskInvocation Evidence)
    (taskIndex : Uint 32) : Prop :=
  ∃ task taskResponse evidence totals hashOfNonSigners,
    call.2 = .respondToCheckpointTask task taskResponse evidence ∧ taskResponse.referenceTaskIndex = taskIndex ∧
    call.1.sender = state.1.aggregator ∧ .created taskIndex task ∈ state.2 ∧
    call.1.blockNumber.toNat ≤ task.taskCreatedBlock.toNat + window.toNat ∧
    call.1.checkSignatures (taskResponse.hash keccak256) task.quorumNumbers task.taskCreatedBlock evidence =
      .ok (totals, hashOfNonSigners) ∧
    ∀ i < task.quorumNumbers.length, QuorumMet totals task.quorumThreshold i

variable {keccak256 window} {inputs : List Bytes} {state : TaskManager × List CheckpointEvent}
  {call : Environment Evidence × TaskInvocation Evidence}

theorem CollisionFree.mono {larger : List Bytes} (secure : CollisionFree keccak256 larger) (subset : inputs ⊆ larger) :
    CollisionFree keccak256 inputs :=
  ⟨fun first member second member' => secure.injective first (subset member) second (subset member'),
    fun input member => secure.nonzero input (subset member)⟩

theorem Tracked.mono {larger : List Bytes} (tracked : Tracked keccak256 inputs state) (subset : inputs ⊆ larger) :
    Tracked keccak256 larger state where
  known taskIndex task listed := by
    obtain ⟨below, hash, member⟩ := tracked.known taskIndex task listed
    exact ⟨below, hash, subset member⟩
  listed := tracked.listed
  absent := tracked.absent
  answered := tracked.answered

theorem Tracked.hash_ne_zero_iff (tracked : Tracked keccak256 inputs state) (secure : CollisionFree keccak256 inputs)
    (taskIndex : Uint 32) :
    state.1.allCheckpointTaskHashes taskIndex ≠ 0 ↔ taskIndex < state.1.nextCheckpointTaskNum := by
  constructor
  · intro stored
    exact Decidable.byContradiction fun above => stored (tracked.absent taskIndex above)
  · intro below
    obtain ⟨task, listed⟩ := tracked.listed taskIndex below
    obtain ⟨_, hash, member⟩ := tracked.known taskIndex task listed
    rw [hash]
    exact secure.nonzero _ member

theorem Tracked.created (tracked : Tracked keccak256 inputs state) (secure : CollisionFree keccak256 inputs)
    {taskIndex : Uint 32} {task : Task} (member : task.abiEncode ∈ inputs)
    (known : task.hash keccak256 = state.1.allCheckpointTaskHashes taskIndex) :
    taskIndex < state.1.nextCheckpointTaskNum ∧ .created taskIndex task ∈ state.2 := by
  have stored : state.1.allCheckpointTaskHashes taskIndex ≠ 0 := known ▸ secure.nonzero _ member
  have below := (tracked.hash_ne_zero_iff secure taskIndex).mp stored
  obtain ⟨original, listed⟩ := tracked.listed taskIndex below
  obtain ⟨_, hash, member'⟩ := tracked.known taskIndex original listed
  have same : task = original :=
    Task.abiEncode_injective (secure.injective _ member _ member' (known.trans hash))
  exact ⟨below, same ▸ listed⟩

theorem lt_next_iff {next after index : Uint 32} (succeeds : after.toNat = next.toNat + 1) :
    index < after ↔ index < next ∨ index = next := by
  rw [BitVec.lt_def, BitVec.lt_def, ← BitVec.toNat_inj]
  omega

theorem Tracked.create (tracked : Tracked keccak256 inputs state) {after : TaskManager} {task : Task}
    (member : task.abiEncode ∈ inputs)
    (next : after.nextCheckpointTaskNum.toNat = state.1.nextCheckpointTaskNum.toNat + 1)
    (hashes : after.allCheckpointTaskHashes =
      Function.update state.1.allCheckpointTaskHashes state.1.nextCheckpointTaskNum (task.hash keccak256))
    (responses : after.allCheckpointTaskResponses = state.1.allCheckpointTaskResponses) :
    Tracked keccak256 inputs (after, state.2 ++ [.created state.1.nextCheckpointTaskNum task]) where
  known taskIndex other listed := by
    rw [lt_next_iff next, hashes]
    rcases List.mem_append.mp listed with old | new
    · obtain ⟨below, hash, stored⟩ := tracked.known taskIndex other old
      have different : taskIndex ≠ state.1.nextCheckpointTaskNum := fun same => BitVec.lt_irrefl _ (same ▸ below)
      exact ⟨Or.inl below, by rw [Function.update_of_ne different, hash], stored⟩
    · cases List.mem_singleton.mp new
      exact ⟨Or.inr rfl, Function.update_self .., member⟩
  listed taskIndex below := by
    rcases (lt_next_iff next).mp below with old | rfl
    · obtain ⟨other, listed⟩ := tracked.listed taskIndex old
      exact ⟨other, List.mem_append_left _ listed⟩
    · exact ⟨task, List.mem_append_right _ (List.mem_singleton_self _)⟩
  absent taskIndex above := by
    rw [lt_next_iff next, not_or] at above
    rw [hashes, Function.update_of_ne above.2]
    exact tracked.absent taskIndex above.1
  answered taskIndex stored := by
    rw [responses] at stored
    exact (lt_next_iff next).mpr (Or.inl (tracked.answered taskIndex stored))

theorem Tracked.keep (tracked : Tracked keccak256 inputs state) {after : TaskManager} {events : List CheckpointEvent}
    (next : after.nextCheckpointTaskNum = state.1.nextCheckpointTaskNum)
    (hashes : after.allCheckpointTaskHashes = state.1.allCheckpointTaskHashes)
    (emitted : ∀ taskIndex task, .created taskIndex task ∉ events)
    (answered : ∀ taskIndex, after.allCheckpointTaskResponses taskIndex ≠ 0 →
      taskIndex < state.1.nextCheckpointTaskNum) :
    Tracked keccak256 inputs (after, state.2 ++ events) where
  known taskIndex task listed := by
    rcases List.mem_append.mp listed with old | new
    · simp only [next, hashes]
      exact tracked.known taskIndex task old
    · exact absurd new (emitted taskIndex task)
  listed taskIndex below := by
    obtain ⟨task, listed⟩ := tracked.listed taskIndex (next ▸ below)
    exact ⟨task, List.mem_append_left _ listed⟩
  absent taskIndex above := by
    simp only [next] at above
    rw [hashes]
    exact tracked.absent taskIndex above
  answered taskIndex stored := next ▸ answered taskIndex stored

theorem Tracked.step (tracked : Tracked keccak256 inputs state) (secure : CollisionFree keccak256 inputs)
    (hashed : hashedCall keccak256 call ⊆ inputs) : Tracked keccak256 inputs (transact keccak256 window state call) := by
  unfold transact
  cases executed : state.1.execute keccak256 window call.1 call.2 with
  | error => exact tracked
  | ok result =>
    obtain ⟨after, events⟩ := result
    cases execute_change executed with
    | created fromTimestamp toTimestamp quorumThreshold quorumNumbers created _ _ next _ hashes responses emitted =>
      rw [emitted]
      refine tracked.create (hashed ?_) next hashes responses
      simp [hashedCall, created]
    | responded task taskResponse evidence totals metadata responded _ known _ _ _ _ _ next _ hashes responses emitted =>
      have member : task.abiEncode ∈ inputs := hashed (by simp [hashedCall, responded])
      refine tracked.keep next hashes (by simp [emitted]) fun taskIndex stored => ?_
      by_cases here : taskIndex = taskResponse.referenceTaskIndex
      · exact here ▸ (tracked.created secure member known).1
      · rw [responses, Function.update_of_ne here] at stored
        exact tracked.answered taskIndex stored
    | kept _ next _ hashes responses emitted =>
      refine tracked.keep next hashes emitted fun taskIndex stored => ?_
      exact tracked.answered taskIndex (responses ▸ stored)

theorem tracked_of_run {history : List (Environment Evidence × TaskInvocation Evidence)}
    (run : (taskManagers keccak256 window Evidence).Run history state)
    (secure : CollisionFree keccak256 (history.flatMap (hashedCall keccak256))) :
    Tracked keccak256 (history.flatMap (hashedCall keccak256)) state := by
  revert secure
  refine run.invariant (fun history state => CollisionFree keccak256 (history.flatMap (hashedCall keccak256)) →
    Tracked keccak256 (history.flatMap (hashedCall keccak256)) state) ?_ ?_
  · rintro state ⟨initialOwner, aggregator, generator, rfl⟩ _
    exact ⟨nofun, fun _ below => absurd below BitVec.not_lt_zero, fun _ _ => rfl, fun _ stored => absurd rfl stored⟩
  · rintro history state call after ih _ rfl secure
    rw [List.flatMap_append] at secure ⊢
    have earlier := ih (secure.mono (List.subset_append_left _ _))
    refine (earlier.mono (List.subset_append_left _ _)).step secure ?_
    simp [List.flatMap_cons]

theorem Tracked.unique (tracked : Tracked keccak256 inputs state) (secure : CollisionFree keccak256 inputs)
    {taskIndex : Uint 32} {task other : Task} (listed : .created taskIndex task ∈ state.2)
    (listed' : .created taskIndex other ∈ state.2) : task = other := by
  obtain ⟨_, hash, member⟩ := tracked.known taskIndex task listed
  obtain ⟨_, hash', member'⟩ := tracked.known taskIndex other listed'
  exact Task.abiEncode_injective (secure.injective _ member _ member' (hash.symm.trans hash'))

variable (window) in
/-- What is stored stays, and a response is stored only by a call that answers its task. -/
theorem Tracked.stored (tracked : Tracked keccak256 inputs state) (secure : CollisionFree keccak256 inputs)
    (hashed : hashedCall keccak256 call ⊆ inputs) (small : call.1.blockNumber.toNat < 2 ^ 32) (taskIndex : Uint 32) :
    let after := transact keccak256 window state call
    (state.1.allCheckpointTaskHashes taskIndex ≠ 0 →
      after.1.allCheckpointTaskHashes taskIndex = state.1.allCheckpointTaskHashes taskIndex) ∧
    (after.1.allCheckpointTaskResponses taskIndex = state.1.allCheckpointTaskResponses taskIndex ∨
      state.1.allCheckpointTaskResponses taskIndex = 0 ∧ AnswersTask keccak256 window state call taskIndex) := by
  have block : (call.1.blockNumber.setWidth 32 : Uint 32).toNat = call.1.blockNumber.toNat := by
    rw [BitVec.toNat_setWidth, Nat.mod_eq_of_lt small]
  intro after
  simp only [after, transact]
  cases executed : state.1.execute keccak256 window call.1 call.2 with
  | error => exact ⟨fun _ => rfl, Or.inl rfl⟩
  | ok result =>
    obtain ⟨after, events⟩ := result
    cases execute_change executed with
    | created fromTimestamp toTimestamp quorumThreshold quorumNumbers _ _ _ _ _ hashes responses _ =>
      refine ⟨fun stored => ?_, Or.inl (congrFun responses taskIndex)⟩
      have below := (tracked.hash_ne_zero_iff secure taskIndex).mp stored
      simp only [hashes]
      exact Function.update_of_ne (fun same => BitVec.lt_irrefl _ (same ▸ below)) ..
    | responded task taskResponse evidence totals metadata responded sender known unanswered inTime checked _ met _ _
        hashes responses _ =>
      refine ⟨fun _ => congrFun hashes taskIndex, ?_⟩
      by_cases here : taskIndex = taskResponse.referenceTaskIndex
      · subst here
        have member : task.abiEncode ∈ inputs := hashed (by simp [hashedCall, responded])
        exact Or.inr ⟨unanswered, task, taskResponse, evidence, totals, metadata.hashOfNonSigners, responded, rfl, sender,
          (tracked.created secure member known).2, block ▸ inTime, checked, met⟩
      · simp only [responses]
        exact Or.inl (Function.update_of_ne here ..)
    | kept _ _ _ hashes responses _ => exact ⟨fun _ => congrFun hashes taskIndex, Or.inl (congrFun responses taskIndex)⟩

theorem transact_created (small : call.1.blockNumber.toNat < 2 ^ 32) {taskIndex : Uint 32} {task : Task}
    (listed : .created taskIndex task ∈ (transact keccak256 window state call).2) :
    .created taskIndex task ∈ state.2 ∨
      taskIndex = state.1.nextCheckpointTaskNum ∧ task.taskCreatedBlock.toNat = call.1.blockNumber.toNat := by
  unfold transact at listed
  cases executed : state.1.execute keccak256 window call.1 call.2 with
  | error =>
    rw [executed] at listed
    exact Or.inl listed
  | ok result =>
    obtain ⟨after, events⟩ := result
    rw [executed] at listed
    refine (List.mem_append.mp listed).imp id fun new => ?_
    cases execute_change executed with
    | created _ _ _ _ _ _ _ _ _ _ _ emitted =>
      rw [emitted] at new
      cases List.mem_singleton.mp new
      refine ⟨rfl, ?_⟩
      rw [newTask, BitVec.toNat_setWidth, Nat.mod_eq_of_lt small]
    | responded _ _ _ _ _ _ _ _ _ _ _ _ _ _ _ _ _ emitted =>
      rw [emitted] at new
      cases List.mem_singleton.mp new
    | kept _ _ _ _ _ emitted => exact absurd new (emitted taskIndex task)

/-- In every state of a run and for every further call: a hash is stored exactly below the next index and stays, and a
response is stored only there, at most once, and only by the aggregator with the task of that index, in time and with
every quorum of the task. -/
theorem checkpoint_life_cycle {history : List (Environment Evidence × TaskInvocation Evidence)}
    (run : (taskManagers keccak256 window Evidence).Run history state) (small : call.1.blockNumber.toNat < 2 ^ 32)
    (secure : CollisionFree keccak256 ((history ++ [call]).flatMap (hashedCall keccak256))) :
    let after := transact keccak256 window state call
    (∀ taskIndex, state.1.allCheckpointTaskHashes taskIndex ≠ 0 ↔ taskIndex < state.1.nextCheckpointTaskNum) ∧
    (∀ taskIndex, state.1.allCheckpointTaskResponses taskIndex ≠ 0 → taskIndex < state.1.nextCheckpointTaskNum) ∧
    (∀ taskIndex, state.1.allCheckpointTaskHashes taskIndex ≠ 0 →
      after.1.allCheckpointTaskHashes taskIndex = state.1.allCheckpointTaskHashes taskIndex) ∧
    (∀ taskIndex, state.1.allCheckpointTaskResponses taskIndex ≠ 0 →
      after.1.allCheckpointTaskResponses taskIndex = state.1.allCheckpointTaskResponses taskIndex) ∧
    (∀ taskIndex, after.1.allCheckpointTaskResponses taskIndex ≠ state.1.allCheckpointTaskResponses taskIndex →
      AnswersTask keccak256 window state call taskIndex) ∧
    (∀ taskIndex task other, .created taskIndex task ∈ state.2 → .created taskIndex other ∈ state.2 → task = other) ∧
    ∀ taskIndex task, .created taskIndex task ∈ after.2 → .created taskIndex task ∈ state.2 ∨
      taskIndex = state.1.nextCheckpointTaskNum ∧ task.taskCreatedBlock.toNat = call.1.blockNumber.toNat := by
  rw [List.flatMap_append] at secure
  have earlier := secure.mono (List.subset_append_left _ _)
  have tracked := (tracked_of_run run earlier).mono
    (List.subset_append_left _ ([call].flatMap (hashedCall keccak256)))
  have hashed : hashedCall keccak256 call ⊆
      history.flatMap (hashedCall keccak256) ++ [call].flatMap (hashedCall keccak256) := by
    simp [List.flatMap_cons]
  have stored := fun taskIndex => Tracked.stored window tracked secure hashed small taskIndex
  refine ⟨tracked.hash_ne_zero_iff secure, tracked.answered, fun taskIndex => (stored taskIndex).1, ?_, ?_,
    fun _ _ _ => tracked.unique secure, fun _ _ => transact_created small⟩
  · intro taskIndex answered
    rcases (stored taskIndex).2 with same | ⟨unanswered, _⟩
    · exact same
    · exact absurd unanswered answered
  · intro taskIndex changed
    rcases (stored taskIndex).2 with same | ⟨_, answers⟩
    · exact absurd same changed
    · exact answers

end LifeCycle

/-! ### A task and its response -/

def seventyAtBlock (sender : Address) (blockNumber : Uint 256) : Environment Unit where
  sender
  blockNumber
  timestamp := 1000
  checkSignatures _ _ _ _ := .ok (⟨[70], [100]⟩, 9)

def createFirst : Environment Unit × TaskInvocation Unit := (seventyAtBlock 3 100, .createCheckpointTask 5 10 66 [0])

def respondFirst : Environment Unit × TaskInvocation Unit :=
  (seventyAtBlock 2 110, .respondToCheckpointTask ⟨100, 5, 10, 66, [0]⟩ ⟨0, 7, 8⟩ ())

def firstCreated : TaskManager × List CheckpointEvent :=
  transact foldedBytes 30 (initializeTaskManager 1 2 3, []) createFirst

theorem firstCreated_run : (taskManagers foldedBytes 30 Unit).Run [createFirst] firstCreated := by
  have start : (taskManagers foldedBytes 30 Unit).Run [] (initializeTaskManager 1 2 3, []) := .start ⟨1, 2, 3, rfl⟩
  exact start.next trivial rfl

theorem checkpoint_life_cycle_first_response :
    (transact foldedBytes 30 firstCreated respondFirst).1.allCheckpointTaskResponses 0 ≠ 0 ∧
      AnswersTask foldedBytes 30 firstCreated respondFirst 0 := by
  have secure : CollisionFree foldedBytes ([createFirst, respondFirst].flatMap (hashedCall foldedBytes)) :=
    ⟨by decide +kernel, by decide +kernel⟩
  have stored : (transact foldedBytes 30 firstCreated respondFirst).1.allCheckpointTaskResponses 0 ≠ 0 := by
    decide +kernel
  have fresh : firstCreated.1.allCheckpointTaskResponses 0 = 0 := by decide +kernel
  refine ⟨stored, (checkpoint_life_cycle firstCreated_run (by decide) secure).2.2.2.2.1 0 ?_⟩
  rw [fresh]
  exact stored

end Sffl.Eth
