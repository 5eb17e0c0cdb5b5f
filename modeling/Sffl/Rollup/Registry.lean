import Sffl.Evm.SmallCurve
import Sffl.Rollup.Attestation
import Sffl.Rollup.Messages
import Sffl.Semantics.Run

/-! The registry contract of a rollup, as a transition system of its calls.

Every entry point that writes is a call with its sender, those that are inherited
for the owner included. Pausing belongs to an inherited contract that writes
nothing but the pause flags; here they may change to any value at any time.
-/

set_option autoImplicit false

namespace Sffl.Rollup

open Sffl.Evm Sffl.Algebra Sffl.Semantics

def PAUSED_UPDATE_OPERATOR_SET : Nat := 0

def PAUSED_UPDATE_STATE_ROOT : Nat := 1

structure Registry where
  operatorSet : OperatorSet
  nextOperatorUpdateId : Uint 64
  aggregator : Address
  owner : Address
  paused : Uint 256
  stateRootBuffers : Uint 32 → Uint 64 → Bytes32

def onlyWhenNotPaused (state : Registry) (flag : Nat) : Call Unit :=
  require (state.paused.getLsbD flag = false) "Pausable: index is paused"

def onlyAggregator (state : Registry) (sender : Address) : Call Unit :=
  require (sender = state.aggregator) "Sender is not aggregator"

def onlyOwner (state : Registry) (sender : Address) : Call Unit :=
  require (sender = state.owner) "Ownable: caller is not the owner"

def initializeRegistry (quorumThreshold : Uint 128) (initialOwner aggregator : Address) : Call Registry := do
  let operatorSet ← setQuorumThreshold OperatorSet.empty quorumThreshold
  return {
    operatorSet
    nextOperatorUpdateId := 0
    aggregator
    owner := initialOwner
    paused := 0
    stateRootBuffers := fun _ _ => 0 }

variable {G : Type} [AddCommGroup G] (evm : Precompiles G)

def setInitialOperatorSet (state : Registry) (sender : Address) (operators : List Operator)
    (nextOperatorUpdateId : Uint 64) : Call Registry := do
  onlyAggregator state sender
  require (state.operatorSet.totalWeight = 0) "Operator set already initialized"
  let operatorSet ← update evm state.operatorSet operators
  return { state with operatorSet, nextOperatorUpdateId }

/-- The id check and the two writes that both kinds of update share. -/
def applyUpdate (state : Registry) (message : OperatorSetUpdate) : Call Registry := do
  let nextOperatorUpdateId ← checkedAdd message.id 1
  let operatorSet ← update evm state.operatorSet message.operators
  return { state with operatorSet, nextOperatorUpdateId }

def updateOperatorSet (state : Registry) (message : OperatorSetUpdate) (signatureInfo : SignatureInfo) :
    Call Registry := do
  onlyWhenNotPaused state PAUSED_UPDATE_OPERATOR_SET
  require (message.id = state.nextOperatorUpdateId) "Wrong message ID"
  let accepted ← verifyCalldata evm state.operatorSet (message.hash evm.keccak256) signatureInfo
  require (accepted = true) "Quorum not met"
  applyUpdate evm state message

def forceOperatorSetUpdate (state : Registry) (sender : Address) (message : OperatorSetUpdate) :
    Call Registry := do
  onlyOwner state sender
  require (message.id = state.nextOperatorUpdateId) "Wrong message ID"
  applyUpdate evm state message

def pushStateRoot (state : Registry) (rollupId : Uint 32) (blockHeight : Uint 64) (stateRoot : Bytes32) :
    Registry :=
  let roots := Function.update (state.stateRootBuffers rollupId) blockHeight stateRoot
  { state with stateRootBuffers := Function.update state.stateRootBuffers rollupId roots }

def updateStateRoot (state : Registry) (message : StateRootUpdate) (signatureInfo : SignatureInfo) :
    Call Registry := do
  onlyWhenNotPaused state PAUSED_UPDATE_STATE_ROOT
  let accepted ← verifyCalldata evm state.operatorSet (message.hash evm.keccak256) signatureInfo
  require (accepted = true) "Quorum not met"
  return pushStateRoot state message.rollupId message.blockHeight message.stateRoot

def setAggregator (state : Registry) (sender aggregator : Address) : Call Registry := do
  onlyOwner state sender
  return { state with aggregator }

def Registry.setQuorumThreshold (state : Registry) (sender : Address) (newQuorumThreshold : Uint 128) :
    Call Registry := do
  onlyOwner state sender
  let operatorSet ← Rollup.setQuorumThreshold state.operatorSet newQuorumThreshold
  return { state with operatorSet }

def transferOwnership (state : Registry) (sender newOwner : Address) : Call Registry := do
  onlyOwner state sender
  require (newOwner ≠ 0) "Ownable: new owner is the zero address"
  return { state with owner := newOwner }

def renounceOwnership (state : Registry) (sender : Address) : Call Registry := do
  onlyOwner state sender
  return { state with owner := 0 }

inductive Invocation where
  | setInitialOperatorSet (operators : List Operator) (nextOperatorUpdateId : Uint 64)
  | updateOperatorSet (message : OperatorSetUpdate) (signatureInfo : SignatureInfo)
  | forceOperatorSetUpdate (message : OperatorSetUpdate)
  | updateStateRoot (message : StateRootUpdate) (signatureInfo : SignatureInfo)
  | setAggregator (aggregator : Address)
  | setQuorumThreshold (newQuorumThreshold : Uint 128)
  | transferOwnership (newOwner : Address)
  | renounceOwnership
  | setPaused (paused : Uint 256)
  deriving DecidableEq, Repr

def execute (state : Registry) (sender : Address) : Invocation → Call Registry
  | .setInitialOperatorSet operators nextOperatorUpdateId =>
      setInitialOperatorSet evm state sender operators nextOperatorUpdateId
  | .updateOperatorSet message signatureInfo => updateOperatorSet evm state message signatureInfo
  | .forceOperatorSetUpdate message => forceOperatorSetUpdate evm state sender message
  | .updateStateRoot message signatureInfo => updateStateRoot evm state message signatureInfo
  | .setAggregator aggregator => setAggregator state sender aggregator
  | .setQuorumThreshold newQuorumThreshold => state.setQuorumThreshold sender newQuorumThreshold
  | .transferOwnership newOwner => transferOwnership state sender newOwner
  | .renounceOwnership => renounceOwnership state sender
  | .setPaused paused => .ok { state with paused }

/-- Runs start with a successful `initialize`; a call that reverts is a step
that leaves the state as it was. -/
def registry : System Registry (Address × Invocation) where
  initial state := ∃ quorumThreshold initialOwner aggregator,
    initializeRegistry quorumThreshold initialOwner aggregator = .ok state
  step state call after := after = settle state (execute evm state call.1 call.2)

/-! ## The operator set over whole runs -/

structure Sound (state : Registry) : Prop where
  consistent : Consistent evm state.operatorSet.toTally
  threshold : state.operatorSet.quorumThreshold.toNat ≤ THRESHOLD_DENOMINATOR

variable {evm}

theorem setQuorumThreshold_eq_ok {self after : OperatorSet} {quorumThreshold : Uint 128} :
    setQuorumThreshold self quorumThreshold = .ok after ↔
      quorumThreshold.toNat ≤ THRESHOLD_DENOMINATOR ∧ after = { self with quorumThreshold } := by
  simp only [setQuorumThreshold, bind_eq_ok, require_eq_ok, pure, Except.pure, Except.ok.injEq]
  constructor
  · rintro ⟨_, bound, rfl⟩
    exact ⟨bound, rfl⟩
  · rintro ⟨bound, rfl⟩
    exact ⟨(), bound, rfl⟩

theorem setInitialOperatorSet_eq_ok {state after : Registry} {sender : Address} {operators : List Operator}
    {nextOperatorUpdateId : Uint 64} :
    setInitialOperatorSet evm state sender operators nextOperatorUpdateId = .ok after ↔
      sender = state.aggregator ∧ state.operatorSet.totalWeight = 0 ∧
      ∃ operatorSet, update evm state.operatorSet operators = .ok operatorSet ∧
        after = { state with operatorSet, nextOperatorUpdateId } := by
  simp only [setInitialOperatorSet, onlyAggregator, bind_eq_ok, require_eq_ok, pure, Except.pure,
    Except.ok.injEq]
  constructor
  · rintro ⟨_, allowed, _, empty, operatorSet, updated, rfl⟩
    exact ⟨allowed, empty, operatorSet, updated, rfl⟩
  · rintro ⟨allowed, empty, operatorSet, updated, rfl⟩
    exact ⟨(), allowed, (), empty, operatorSet, updated, rfl⟩

theorem applyUpdate_eq_ok {state after : Registry} {message : OperatorSetUpdate}
    (success : applyUpdate evm state message = .ok after) :
    after.nextOperatorUpdateId.toNat = message.id.toNat + 1 ∧
      update evm state.operatorSet message.operators = .ok after.operatorSet := by
  simp only [applyUpdate, bind_eq_ok, checkedAdd_eq_ok] at success
  obtain ⟨next, added, operatorSet, updated, result⟩ := success
  cases result
  exact ⟨added.symm, updated⟩

theorem updateOperatorSet_eq_ok {state after : Registry} {message : OperatorSetUpdate} {signatureInfo : SignatureInfo}
    (success : updateOperatorSet evm state message signatureInfo = .ok after) :
    message.id = state.nextOperatorUpdateId ∧
      after.nextOperatorUpdateId.toNat = state.nextOperatorUpdateId.toNat + 1 ∧
      update evm state.operatorSet message.operators = .ok after.operatorSet := by
  simp only [updateOperatorSet, bind_eq_ok, require_eq_ok] at success
  obtain ⟨_, _, _, id, _, _, _, _, applied⟩ := success
  obtain ⟨next, updated⟩ := applyUpdate_eq_ok applied
  exact ⟨id, id ▸ next, updated⟩

theorem forceOperatorSetUpdate_eq_ok {state after : Registry} {sender : Address} {message : OperatorSetUpdate}
    (success : forceOperatorSetUpdate evm state sender message = .ok after) :
    message.id = state.nextOperatorUpdateId ∧
      after.nextOperatorUpdateId.toNat = state.nextOperatorUpdateId.toNat + 1 ∧
      update evm state.operatorSet message.operators = .ok after.operatorSet := by
  simp only [forceOperatorSetUpdate, bind_eq_ok, require_eq_ok] at success
  obtain ⟨_, _, _, id, applied⟩ := success
  obtain ⟨next, updated⟩ := applyUpdate_eq_ok applied
  exact ⟨id, id ▸ next, updated⟩

def Invocation.administers : Invocation → Bool
  | .setAggregator _ => true
  | .transferOwnership _ => true
  | .renounceOwnership => true
  | .setPaused _ => true
  | _ => false

theorem execute_administers {state after : Registry} {sender : Address} {invocation : Invocation}
    (administers : invocation.administers = true) (success : execute evm state sender invocation = .ok after) :
    ∃ aggregator owner paused, after = { state with aggregator, owner, paused } := by
  cases invocation with
  | setAggregator aggregator =>
    simp only [execute, Rollup.setAggregator, bind_eq_ok] at success
    obtain ⟨_, _, result⟩ := success
    cases result
    exact ⟨_, _, _, rfl⟩
  | transferOwnership newOwner =>
    simp only [execute, Rollup.transferOwnership, bind_eq_ok] at success
    obtain ⟨_, _, _, _, result⟩ := success
    cases result
    exact ⟨_, _, _, rfl⟩
  | renounceOwnership =>
    simp only [execute, Rollup.renounceOwnership, bind_eq_ok] at success
    obtain ⟨_, _, result⟩ := success
    cases result
    exact ⟨_, _, _, rfl⟩
  | setPaused paused =>
    cases success
    exact ⟨_, _, _, rfl⟩
  | _ => cases administers

/-- What a call can do to the operator set: nothing, apply a list of operators,
or set a threshold within the denominator. -/
theorem execute_operatorSet {state after : Registry} {sender : Address} {invocation : Invocation}
    (success : execute evm state sender invocation = .ok after) :
    after.operatorSet = state.operatorSet ∨
    (∃ operators, update evm state.operatorSet operators = .ok after.operatorSet) ∨
    (∃ quorumThreshold, setQuorumThreshold state.operatorSet quorumThreshold = .ok after.operatorSet) := by
  cases invocation with
  | setInitialOperatorSet operators nextOperatorUpdateId =>
    obtain ⟨_, _, operatorSet, updated, rfl⟩ := setInitialOperatorSet_eq_ok.mp success
    exact Or.inr (Or.inl ⟨operators, updated⟩)
  | updateOperatorSet message signatureInfo =>
    obtain ⟨_, _, updated⟩ := updateOperatorSet_eq_ok success
    exact Or.inr (Or.inl ⟨message.operators, updated⟩)
  | forceOperatorSetUpdate message =>
    obtain ⟨_, _, updated⟩ := forceOperatorSetUpdate_eq_ok success
    exact Or.inr (Or.inl ⟨message.operators, updated⟩)
  | updateStateRoot message signatureInfo =>
    simp only [execute, Rollup.updateStateRoot, bind_eq_ok] at success
    obtain ⟨_, _, _, _, _, _, result⟩ := success
    cases result
    exact Or.inl rfl
  | setQuorumThreshold newQuorumThreshold =>
    simp only [execute, Registry.setQuorumThreshold, bind_eq_ok] at success
    obtain ⟨_, _, operatorSet, updated, result⟩ := success
    cases result
    exact Or.inr (Or.inr ⟨newQuorumThreshold, updated⟩)
  | _ =>
    obtain ⟨_, _, _, rfl⟩ := execute_administers rfl success
    exact Or.inl rfl

theorem Sound.execute {state after : Registry} {sender : Address} {invocation : Invocation}
    (sound : Sound evm state) (success : execute evm state sender invocation = .ok after) :
    Sound evm after := by
  rcases execute_operatorSet success with same | ⟨operators, updated⟩ | ⟨quorumThreshold, updated⟩
  · exact ⟨same ▸ sound.consistent, same ▸ sound.threshold⟩
  · obtain ⟨consistent, kept⟩ := update_consistent sound.consistent updated
    exact ⟨consistent, kept ▸ sound.threshold⟩
  · obtain ⟨bound, same⟩ := setQuorumThreshold_eq_ok.mp updated
    exact ⟨same ▸ sound.consistent, same ▸ bound⟩

theorem Sound.initial {state : Registry} {quorumThreshold : Uint 128} {initialOwner aggregator : Address}
    (success : initializeRegistry quorumThreshold initialOwner aggregator = .ok state) : Sound evm state := by
  simp only [initializeRegistry, bind_eq_ok, setQuorumThreshold_eq_ok] at success
  obtain ⟨operatorSet, ⟨bound, rfl⟩, result⟩ := success
  cases result
  exact ⟨consistent_empty, bound⟩

theorem Sound.of_reachable {state : Registry} (reachable : (registry evm).Reachable state) : Sound evm state := by
  apply reachable.invariant
  · rintro state ⟨quorumThreshold, initialOwner, aggregator, success⟩
    exact Sound.initial success
  · rintro state call after sound rfl
    exact settle_preserves sound fun _ success => sound.execute success

def freshRegistry : Registry where
  operatorSet := { OperatorSet.empty with quorumThreshold := 66 }
  nextOperatorUpdateId := 0
  aggregator := 2
  owner := 1
  paused := 0
  stateRootBuffers := fun _ _ => 0

def enterTwoOperators : Invocation :=
  .setInitialOperatorSet [⟨generatorMultiple 1, 5⟩, ⟨generatorMultiple (2 : Nat), 7⟩] 1

def twoOperators : Registry := settle freshRegistry (execute smallCurve freshRegistry 2 enterTwoOperators)

theorem twoOperators_reachable : (registry smallCurve).Reachable twoOperators := by
  have fresh : (registry smallCurve).Run [] freshRegistry := .start ⟨66, 1, 2, rfl⟩
  have step : (registry smallCurve).step freshRegistry (2, enterTwoOperators) twoOperators := rfl
  exact ⟨_, fresh.next trivial step⟩

/-- Over every run, the total weight is the sum of the stored weights, and the
aggregate key adds up exactly the keys that carry weight. -/
theorem operatorSet_representation {state : Registry} (reachable : (registry evm).Reachable state) :
    state.operatorSet.totalWeight.toNat =
        ∑ pubkeyHash, (state.operatorSet.pubkeyHashToWeight pubkeyHash).toNat ∧
      state.operatorSet.apk = evm.encode
        (∑ pubkey with state.operatorSet.pubkeyHashToWeight (evm.hashG1Point pubkey) ≠ 0, evm.value pubkey) ∧
      (∀ pubkeyHash, state.operatorSet.pubkeyHashToWeight pubkeyHash ≠ 0 →
        ∃ pubkey, evm.hashG1Point pubkey = pubkeyHash ∧ (evm.decode pubkey).isSome) ∧
      state.operatorSet.quorumThreshold.toNat ≤ 100 := by
  have sound := Sound.of_reachable reachable
  refine ⟨?_, ?_, sound.consistent.known, sound.threshold⟩
  · rw [sound.consistent.sum_entries, sound.consistent.totalWeight]
  · rw [sound.consistent.apk]
    simp only [keySum, members, ne_eq, weights_eq_zero]

theorem operatorSet_representation_twoOperators :
    twoOperators.operatorSet.totalWeight = 12 ∧ twoOperators.operatorSet.apk = generatorMultiple 3 ∧
      twoOperators.operatorSet.totalWeight.toNat =
        ∑ pubkeyHash, (twoOperators.operatorSet.pubkeyHashToWeight pubkeyHash).toNat :=
  ⟨by decide, by decide, (operatorSet_representation twoOperators_reachable).1⟩

/-- An accepted attestation speaks for exactly the operators that it does not
list: a checked list leaves their weight and their key sum, and no other list
gets past the loop, so nobody is subtracted twice and nobody from outside. -/
theorem attestation_meaning {state : Registry} (reachable : (registry evm).Reachable state)
    (pubkeys : List G1Point) :
    let operators := members (weights evm state.operatorSet.toTally)
    (Checked evm state.operatorSet pubkeys → ∃ weight,
      signersOf evm state.operatorSet pubkeys =
        .ok (evm.encode (∑ pubkey ∈ operators \ pubkeys.toFinset, evm.value pubkey), weight) ∧
      weight.toNat = ∑ pubkey ∈ operators \ pubkeys.toFinset, weights evm state.operatorSet.toTally pubkey) ∧
    (∀ msgHash signatureInfo accepted, signatureInfo.nonSignerPubkeys = pubkeys →
      verifyCalldata evm state.operatorSet msgHash signatureInfo = .ok accepted →
      pubkeys.Nodup ∧ (∀ pubkey ∈ pubkeys, pubkey ∈ operators) ∧
      trySignatureAndApkVerification evm msgHash
        (evm.encode (∑ pubkey ∈ operators \ pubkeys.toFinset, evm.value pubkey))
        signatureInfo.apkG2 signatureInfo.sigma = .ok (true, true)) := by
  have consistent := (Sound.of_reachable reachable).consistent
  refine ⟨signersOf_checked consistent, ?_⟩
  rintro msgHash signatureInfo accepted rfl success
  obtain ⟨apk, weight, signers, pairing, _⟩ := verifyCalldata_eq_ok success
  have checked := signersOf_only_checked consistent signers
  obtain ⟨other, unlisted, _⟩ := signersOf_checked consistent checked
  have same := (Prod.mk.inj (Except.ok.inj (signers.symm.trans unlisted))).1
  exact ⟨checked.nodup, fun pubkey member => mem_members.mpr (checked.weighted pubkey member), same ▸ pairing⟩

theorem attestation_meaning_twoOperators :
    signersOf smallCurve twoOperators.operatorSet [generatorMultiple 2] = .ok (generatorMultiple 1, 5) ∧
      ∃ weight, signersOf smallCurve twoOperators.operatorSet [generatorMultiple 2] =
          .ok (smallCurve.encode (∑ pubkey ∈ members (weights smallCurve twoOperators.operatorSet.toTally) \
            [generatorMultiple 2].toFinset, smallCurve.value pubkey), weight) ∧
        weight.toNat = ∑ pubkey ∈ members (weights smallCurve twoOperators.operatorSet.toTally) \
          [generatorMultiple 2].toFinset, weights smallCurve twoOperators.operatorSet.toTally pubkey := by
  refine ⟨by decide +kernel, (attestation_meaning twoOperators_reachable [generatorMultiple 2]).1 ⟨?_, ?_⟩⟩
  · simp [SortedAfter]
  · simp only [List.mem_singleton, forall_eq]
    decide +kernel

end Sffl.Rollup
