import Sffl.Eth.TaskManager
import Sffl.Semantics.Run

/-! Checkpoint tasks, as the task manager stores them.

The contract keeps hashes only. A task and its response are known from the
events, and a caller who responds hands the task in again. The signature check
reads other contracts; what it answers belongs to the environment of a call.
-/

set_option autoImplicit false

namespace Sffl.Eth

open Sffl.Evm Sffl.Rollup Sffl.Semantics

structure Task where
  taskCreatedBlock : Uint 32
  fromTimestamp : Uint 64
  toTimestamp : Uint 64
  quorumThreshold : Uint 32
  quorumNumbers : List (Uint 8)
  deriving DecidableEq, Repr

structure TaskResponseMetadata where
  taskRespondedBlock : Uint 32
  hashOfNonSigners : Bytes32
  deriving DecidableEq, Repr

/-! ## Hashes -/

def paddedBytes (bytes : List (Uint 8)) : Bytes :=
  bytes.map UInt8.ofBitVec ++ List.replicate ((32 - bytes.length % 32) % 32) 0

def Task.abiEncode (task : Task) : Bytes :=
  wordsBytes [0x20, word task.taskCreatedBlock, word task.fromTimestamp, word task.toTimestamp,
    word task.quorumThreshold, 0xa0, BitVec.ofNat 256 task.quorumNumbers.length] ++ paddedBytes task.quorumNumbers

def TaskResponse.abiWords (taskResponse : TaskResponse) : List Bytes32 :=
  [word taskResponse.referenceTaskIndex, taskResponse.stateRootUpdatesRoot, taskResponse.operatorSetUpdatesRoot]

def TaskResponseMetadata.abiWords (metadata : TaskResponseMetadata) : List Bytes32 :=
  [word metadata.taskRespondedBlock, metadata.hashOfNonSigners]

def agreementBytes (taskResponse : TaskResponse) (metadata : TaskResponseMetadata) : Bytes :=
  wordsBytes (taskResponse.abiWords ++ metadata.abiWords)

section Hashes
variable (keccak256 : Bytes → Bytes32)

def Task.hash (task : Task) : Bytes32 := keccak256 task.abiEncode

def TaskResponse.hash (taskResponse : TaskResponse) : Bytes32 :=
  hashWithPrefix keccak256 "SFFL::CheckpointTaskResponse" (wordsBytes taskResponse.abiWords)

def TaskResponse.hashAgreement (taskResponse : TaskResponse) (metadata : TaskResponseMetadata) : Bytes32 :=
  keccak256 (agreementBytes taskResponse metadata)

end Hashes

theorem paddedBytes_length (bytes : List (Uint 8)) : (paddedBytes bytes).length = (bytes.length + 31) / 32 * 32 := by
  simp only [paddedBytes, List.length_append, List.length_map, List.length_replicate]
  omega

theorem paddedBytes_inj {first second : List (Uint 8)}
    (sameLength : BitVec.ofNat 256 first.length = BitVec.ofNat 256 second.length)
    (same : paddedBytes first = paddedBytes second) : first = second := by
  -- padding hides the length by less than a word, and the length word tells the rest
  have padded := congrArg List.length same
  rw [paddedBytes_length, paddedBytes_length] at padded
  have modulo : first.length % 2 ^ 256 = second.length % 2 ^ 256 := by
    simpa using congrArg BitVec.toNat sameLength
  have length : first.length = second.length := by omega
  have contents := (List.append_inj same (by simp [length])).1
  exact List.map_injective_iff.mpr (fun _ _ equal => UInt8.ofBitVec.inj equal) contents

theorem word_inj {width : Nat} (fits : width ≤ 256) {first second : Uint width} (same : word first = word second) :
    first = second := by
  apply BitVec.eq_of_toNat_eq
  rw [← word_toNat first fits, ← word_toNat second fits, same]

theorem wordsBytes_inj {first second : List Bytes32} {rest rest' : Bytes} (sameLength : first.length = second.length)
    (same : wordsBytes first ++ rest = wordsBytes second ++ rest') : first = second ∧ rest = rest' := by
  induction first generalizing second with
  | nil =>
    cases second with
    | nil => exact ⟨rfl, same⟩
    | cons _ _ => cases sameLength
  | cons head tail ih =>
    cases second with
    | nil => cases sameLength
    | cons head' tail' =>
      simp only [wordsBytes, List.flatMap_cons, List.append_assoc, wordBytes_append_inj] at same
      obtain ⟨heads, tails⟩ := ih (Nat.succ.inj sameLength) same.2
      exact ⟨by rw [same.1, heads], tails⟩

theorem Task.abiEncode_injective : Function.Injective Task.abiEncode := by
  intro first second same
  unfold Task.abiEncode at same
  obtain ⟨words, padded⟩ := wordsBytes_inj (by simp) same
  simp only [List.cons.injEq, and_true, true_and] at words
  obtain ⟨block, fromTimestamp, toTimestamp, threshold, length⟩ := words
  cases first
  cases second
  simp only [Task.mk.injEq]
  exact ⟨word_inj (by decide) block, word_inj (by decide) fromTimestamp, word_inj (by decide) toTimestamp,
    word_inj (by decide) threshold, paddedBytes_inj length padded⟩

/-! ## The contract -/

def PAUSED_CREATE_CHECKPOINT_TASK : Nat := 0

def PAUSED_RESPOND_TO_CHECKPOINT_TASK : Nat := 1

def PAUSED_CHALLENGE_CHECKPOINT_TASK : Nat := 2

structure TaskManager where
  nextCheckpointTaskNum : Uint 32
  lastCheckpointToTimestamp : Uint 64
  generator : Address
  aggregator : Address
  owner : Address
  paused : Uint 256
  allCheckpointTaskHashes : Uint 32 → Bytes32
  allCheckpointTaskResponses : Uint 32 → Bytes32

/-- What a call finds outside the contract: its sender, the block, and the answers of `checkSignatures`. -/
structure Environment (Evidence : Type) where
  sender : Address
  blockNumber : Uint 256
  timestamp : Uint 256
  checkSignatures : Bytes32 → List (Uint 8) → Uint 32 → Evidence → Call (QuorumStakeTotals × Bytes32)

inductive CheckpointEvent where
  | created (taskIndex : Uint 32) (task : Task)
  | responded (taskResponse : TaskResponse) (metadata : TaskResponseMetadata)
  | challengedUnsuccessfully (taskIndex : Uint 32) (challenger : Address)
  deriving DecidableEq, Repr

inductive TaskInvocation (Evidence : Type) where
  | createCheckpointTask (fromTimestamp toTimestamp : Uint 64) (quorumThreshold : Uint 32)
      (quorumNumbers : List (Uint 8))
  | respondToCheckpointTask (task : Task) (taskResponse : TaskResponse) (nonSignerStakesAndSignature : Evidence)
  | raiseAndResolveCheckpointChallenge (task : Task) (taskResponse : TaskResponse) (metadata : TaskResponseMetadata)
      (pubkeysOfNonSigningOperators : List G1Point)
  | setAggregator (aggregator : Address)
  | setGenerator (generator : Address)
  | transferOwnership (newOwner : Address)
  | renounceOwnership
  | setPaused (paused : Uint 256)

section Contract
variable {Evidence : Type} (keccak256 : Bytes → Bytes32) (TASK_RESPONSE_WINDOW_BLOCK : Uint 32)

/-- The proxy starts from zeroed storage. -/
def initializeTaskManager (initialOwner aggregator generator : Address) : TaskManager where
  nextCheckpointTaskNum := 0
  lastCheckpointToTimestamp := 0
  generator
  aggregator
  owner := initialOwner
  paused := 0
  allCheckpointTaskHashes := fun _ => 0
  allCheckpointTaskResponses := fun _ => 0

def TaskManager.onlyWhenNotPaused (manager : TaskManager) (flag : Nat) : Call Unit :=
  require (manager.paused.getLsbD flag = false) "Pausable: index is paused"

def TaskManager.onlyOwner (manager : TaskManager) (sender : Address) : Call Unit :=
  require (sender = manager.owner) "Ownable: caller is not the owner"

def newTask (environment : Environment Evidence) (fromTimestamp toTimestamp : Uint 64) (quorumThreshold : Uint 32)
    (quorumNumbers : List (Uint 8)) : Task :=
  ⟨environment.blockNumber.setWidth 32, fromTimestamp, toTimestamp, quorumThreshold, quorumNumbers⟩

def createCheckpointTask (manager : TaskManager) (environment : Environment Evidence)
    (fromTimestamp toTimestamp : Uint 64) (quorumThreshold : Uint 32) (quorumNumbers : List (Uint 8)) :
    Call (TaskManager × List CheckpointEvent) := do
  require (environment.sender = manager.generator) "Task generator must be the caller"
  manager.onlyWhenNotPaused PAUSED_CREATE_CHECKPOINT_TASK
  require (quorumThreshold.toNat ≤ THRESHOLD_DENOMINATOR.toNat) "Quorum threshold greater than denominator"
  require (fromTimestamp ≤ toTimestamp) "fromTimestamp greater than toTimestamp"
  require (toTimestamp.toNat ≤ environment.timestamp.toNat) "toTimestamp greater than current timestamp"
  require (fromTimestamp = 0 ∨ manager.lastCheckpointToTimestamp < fromTimestamp)
    "fromTimestamp not greater than last checkpoint toTimestamp"
  let task := newTask environment fromTimestamp toTimestamp quorumThreshold quorumNumbers
  let nextCheckpointTaskNum ← checkedAdd manager.nextCheckpointTaskNum 1
  return ({ manager with
    allCheckpointTaskHashes :=
      Function.update manager.allCheckpointTaskHashes manager.nextCheckpointTaskNum (task.hash keccak256)
    nextCheckpointTaskNum
    lastCheckpointToTimestamp := toTimestamp }, [.created manager.nextCheckpointTaskNum task])

def respondToCheckpointTask (manager : TaskManager) (environment : Environment Evidence) (task : Task)
    (taskResponse : TaskResponse) (nonSignerStakesAndSignature : Evidence) :
    Call (TaskManager × List CheckpointEvent) := do
  require (environment.sender = manager.aggregator) "Aggregator must be the caller"
  manager.onlyWhenNotPaused PAUSED_RESPOND_TO_CHECKPOINT_TASK
  require (task.hash keccak256 = manager.allCheckpointTaskHashes taskResponse.referenceTaskIndex) "Wrong task hash"
  require (manager.allCheckpointTaskResponses taskResponse.referenceTaskIndex = 0) "Task already responded"
  let lastBlock ← checkedAdd task.taskCreatedBlock TASK_RESPONSE_WINDOW_BLOCK
  require (environment.blockNumber.setWidth 32 ≤ lastBlock) "Response time exceeded"
  let checked := environment.checkSignatures (taskResponse.hash keccak256) task.quorumNumbers task.taskCreatedBlock
    nonSignerStakesAndSignature
  let (success, hashOfNonSigners) ← checkQuorum checked task.quorumNumbers task.quorumThreshold
  require (success = true) "Quorum not met"
  let metadata : TaskResponseMetadata := ⟨environment.blockNumber.setWidth 32, hashOfNonSigners⟩
  return ({ manager with
    allCheckpointTaskResponses := Function.update manager.allCheckpointTaskResponses taskResponse.referenceTaskIndex
      (taskResponse.hashAgreement keccak256 metadata) }, [.responded taskResponse metadata])

/-- Challenges are not implemented yet. -/
def validateChallenge (_task : Task) (_taskResponse : TaskResponse) : Bool := false

def raiseAndResolveCheckpointChallenge (manager : TaskManager) (environment : Environment Evidence) (task : Task)
    (taskResponse : TaskResponse) : Call (TaskManager × List CheckpointEvent) := do
  manager.onlyWhenNotPaused PAUSED_CHALLENGE_CHECKPOINT_TASK
  if validateChallenge task taskResponse then return (manager, [])
  else return (manager, [.challengedUnsuccessfully taskResponse.referenceTaskIndex environment.sender])

def TaskManager.execute (manager : TaskManager) (environment : Environment Evidence) :
    TaskInvocation Evidence → Call (TaskManager × List CheckpointEvent)
  | .createCheckpointTask fromTimestamp toTimestamp quorumThreshold quorumNumbers =>
      Eth.createCheckpointTask keccak256 manager environment fromTimestamp toTimestamp quorumThreshold quorumNumbers
  | .respondToCheckpointTask task taskResponse nonSignerStakesAndSignature =>
      Eth.respondToCheckpointTask keccak256 TASK_RESPONSE_WINDOW_BLOCK manager environment task taskResponse
        nonSignerStakesAndSignature
  | .raiseAndResolveCheckpointChallenge task taskResponse _ _ =>
      Eth.raiseAndResolveCheckpointChallenge manager environment task taskResponse
  | .setAggregator aggregator => do
      manager.onlyOwner environment.sender
      return ({ manager with aggregator }, [])
  | .setGenerator generator => do
      manager.onlyOwner environment.sender
      return ({ manager with generator }, [])
  | .transferOwnership newOwner => do
      manager.onlyOwner environment.sender
      require (newOwner ≠ 0) "Ownable: new owner is the zero address"
      return ({ manager with owner := newOwner }, [])
  | .renounceOwnership => do
      manager.onlyOwner environment.sender
      return ({ manager with owner := 0 }, [])
  | .setPaused paused => .ok ({ manager with paused }, [])

/-- One transaction: the contract and its log of events. A call that reverts leaves both. -/
def transact (state : TaskManager × List CheckpointEvent) (call : Environment Evidence × TaskInvocation Evidence) :
    TaskManager × List CheckpointEvent :=
  match state.1.execute keccak256 TASK_RESPONSE_WINDOW_BLOCK call.1 call.2 with
  | .error _ => state
  | .ok (after, events) => (after, state.2 ++ events)

def taskManagers (Evidence : Type) :
    System (TaskManager × List CheckpointEvent) (Environment Evidence × TaskInvocation Evidence) where
  initial state := ∃ initialOwner aggregator generator,
    state = (initializeTaskManager initialOwner aggregator generator, [])
  step state call after := after = transact keccak256 TASK_RESPONSE_WINDOW_BLOCK state call

end Contract

end Sffl.Eth
