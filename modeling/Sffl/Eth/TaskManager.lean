import Sffl.Eth.SparseMerkleTree
import Sffl.Rollup.Messages

/-! The mainnet task manager: message inclusion and quorums. -/

set_option autoImplicit false

namespace Sffl.Eth

open Sffl.Evm Sffl.Rollup

structure TaskResponse where
  referenceTaskIndex : Uint 32
  stateRootUpdatesRoot : Bytes32
  operatorSetUpdatesRoot : Bytes32
  deriving DecidableEq, Repr

/-! ## Inclusion -/

section Inclusion
variable (keccak256 : Bytes → Bytes32)

/-- The body that both overloads of `verifyMessageInclusionState` have. -/
def verifyInclusionState (index hash root : Bytes32) (proof : Proof) : Call Bool := do
  require (proof.key = index) "Wrong message index"
  let valid ← verifyProof keccak256 root proof
  require (valid = true) "Invalid SMT proof"
  return decide (proof.value = hash)

def verifyStateRootUpdateInclusionState (message : StateRootUpdate) (taskResponse : TaskResponse) (proof : Proof) :
    Call Bool :=
  verifyInclusionState keccak256 message.index (message.hash keccak256) taskResponse.stateRootUpdatesRoot proof

def verifyOperatorSetUpdateInclusionState (message : OperatorSetUpdate) (taskResponse : TaskResponse) (proof : Proof) :
    Call Bool :=
  verifyInclusionState keccak256 message.index (message.hash keccak256) taskResponse.operatorSetUpdatesRoot proof

end Inclusion

theorem verifyInclusionState_ok {keccak256 : Bytes → Bytes32} {index hash root : Bytes32} {proof : Proof} {included : Bool}
    (answered : verifyInclusionState keccak256 index hash root proof = .ok included) :
    proof.key = index ∧ verifyProof keccak256 root proof = .ok true ∧ included = decide (proof.value = hash) := by
  simp only [verifyInclusionState, bind_eq_ok, require_eq_ok, pure, Except.pure, Except.ok.injEq] at answered
  obtain ⟨_, key, valid, verified, _, rfl, rfl⟩ := answered
  exact ⟨key, verified, rfl⟩

/-- A key has one provable value under one root, so a message is never provably
included and provably not included in one task response. -/
theorem inclusion_unique {keccak256 : Bytes → Bytes32} {first second : Proof}
    (secure : CollisionFree keccak256 (hashedInputs keccak256 first ++ hashedInputs keccak256 second)) :
    (∀ root, first.key = second.key → verifyProof keccak256 root first = .ok true →
      verifyProof keccak256 root second = .ok true → first.value = second.value) ∧
    (∀ message taskResponse answer answer',
      verifyStateRootUpdateInclusionState keccak256 message taskResponse first = .ok answer →
      verifyStateRootUpdateInclusionState keccak256 message taskResponse second = .ok answer' → answer = answer') ∧
    ∀ message taskResponse answer answer',
      verifyOperatorSetUpdateInclusionState keccak256 message taskResponse first = .ok answer →
      verifyOperatorSetUpdateInclusionState keccak256 message taskResponse second = .ok answer' →
      answer = answer' := by
  have unique : ∀ root, first.key = second.key → verifyProof keccak256 root first = .ok true →
      verifyProof keccak256 root second = .ok true → first.value = second.value := fun root sameKey =>
    verifyProof_value secure sameKey (fun _ => List.mem_append_left _) (fun _ => List.mem_append_right _)
  have same : ∀ index hash root answer answer', verifyInclusionState keccak256 index hash root first = .ok answer →
      verifyInclusionState keccak256 index hash root second = .ok answer' → answer = answer' := by
    intro index hash root answer answer' answered answered'
    obtain ⟨key, accepted, rfl⟩ := verifyInclusionState_ok answered
    obtain ⟨key', accepted', rfl⟩ := verifyInclusionState_ok answered'
    rw [unique root (key.trans key'.symm) accepted accepted']
  exact ⟨unique, fun _ _ => same _ _ _, fun _ _ => same _ _ _⟩

/-! Height 7 of rollup 3 with value 42, one level below the root, and the hashes
that a proof of it takes. -/

def sampleKey : Bytes32 := 0x30000000000000007

def samplePath : Bytes32 := 0xd52cb4ed28517375517df40634ccdcbfffbace4462e59a6eff6f9fc7a453367

def sampleLeaf : Bytes32 := 0x9e8c90afffd6ebd34bd099a4314f103c047fc4ef727b932d83991b7c74a46f57

def sampleRoot : Bytes32 := 0xe3bccb9ae6743b94d5cc0dbd4073830201cd09c008c0e1e495b09077a3b6bde6

def sampleKeccak (bytes : Bytes) : Bytes32 :=
  if bytes = wordBytes sampleKey then samplePath
  else if bytes = nodeBytes LEAF_NODE_PREFIX samplePath 42 then sampleLeaf
  else if bytes = nodeBytes INNER_NODE_PREFIX sampleLeaf 0 then sampleRoot
  else 0

def compactProof : Proof := ⟨sampleKey, 42, 1, [], 1, 0, 0⟩

def plainProof : Proof := ⟨sampleKey, 42, 0, [0], 1, 0, 0⟩

theorem inclusion_unique_compact_plain :
    verifyProof sampleKeccak sampleRoot compactProof = .ok true ∧
      verifyProof sampleKeccak sampleRoot plainProof = .ok true ∧ compactProof.value = plainProof.value := by
  have secure : CollisionFree sampleKeccak
      (hashedInputs sampleKeccak compactProof ++ hashedInputs sampleKeccak plainProof) :=
    ⟨by decide +kernel, by decide +kernel⟩
  have compact : verifyProof sampleKeccak sampleRoot compactProof = .ok true := by decide +kernel
  have plain : verifyProof sampleKeccak sampleRoot plainProof = .ok true := by decide +kernel
  exact ⟨compact, plain, (inclusion_unique secure).1 sampleRoot rfl compact plain⟩

/-! ## Quorums -/

def THRESHOLD_DENOMINATOR : Uint 96 := 100

/-- What the signature checker reports: for every quorum, the stake behind the
signature and the total stake. -/
structure QuorumStakeTotals where
  signedStakeForQuorum : List (Uint 96)
  totalStakeForQuorum : List (Uint 96)
  deriving DecidableEq, Repr

def stakeAt (stakes : List (Uint 96)) (i : Nat) : Call (Uint 96) :=
  match stakes[i]? with
  | some stake => .ok stake
  | none => .error .panic

/-- Whether the `i`th quorum passes the comparison of `checkQuorum`. Both products
are taken in 96 bits. -/
def quorumPasses (totals : QuorumStakeTotals) (quorumThreshold : Uint 32) (i : Nat) : Call Bool := do
  let signedStake ← stakeAt totals.signedStakeForQuorum i
  let signed ← checkedMul signedStake THRESHOLD_DENOMINATOR
  let totalStake ← stakeAt totals.totalStakeForQuorum i
  let required ← checkedMul totalStake (quorumThreshold.setWidth 96)
  return decide (required.toNat ≤ signed.toNat)

def checkQuorums (totals : QuorumStakeTotals) (quorumThreshold : Uint 32) : List Nat → Call Bool
  | [] => .ok true
  | i :: rest => do
    let passes ← quorumPasses totals quorumThreshold i
    if passes then checkQuorums totals quorumThreshold rest else return false

def checkQuorum (checked : Call (QuorumStakeTotals × Bytes32)) (quorumNumbers : List (Uint 8))
    (quorumThreshold : Uint 32) : Call (Bool × Bytes32) := do
  let (quorumStakeTotals, hashOfNonSigners) ← checked
  let met ← checkQuorums quorumStakeTotals quorumThreshold (List.range quorumNumbers.length)
  return (met, hashOfNonSigners)

end Sffl.Eth
