import Sffl.Base.RegistryBase
import Sffl.Rollup.Registry
import Sffl.Semantics.Trace

/-! The state roots of a rollup's registry and what stands behind them.

A root is written only with the agreement of a quorum of the operator set of that
moment, whichever entry point was called, and it is what storage values are read
under. Two different roots for one block under one operator set are both signed
by operators whose weight is what two quorums have in common.
-/

set_option autoImplicit false

namespace Sffl.Rollup

open Sffl.Evm Sffl.Algebra Sffl.Semantics Sffl.Base

/-- With the storage libraries, the signature info that the call data holds where an agreement begins. -/
structure RegistryLibraries extends StorageLibraries where
  signatureInfo : Agreement → Call SignatureInfo

inductive RegistryCall where
  | invoke (invocation : Invocation)
  | updateAndGetStorageValue (message : StateRootUpdate) (proofParams : ProofParams) (agreement : Agreement) (behind : Bytes)
  deriving DecidableEq, Repr

variable {G : Type} [AddCommGroup G] (evm : Precompiles G) (libraries : RegistryLibraries)

def rootContract : RootContract Registry where
  -- `_updateStateRoot` reads the agreement as signature info
  stateRootBuffers := Registry.stateRootBuffers
  updateStateRoot state message agreement := do
    let signatureInfo ← libraries.signatureInfo agreement
    updateStateRoot evm state message signatureInfo

def executeCall (state : Registry) (sender : Address) : RegistryCall → Call Registry
  | .invoke invocation => execute evm state sender invocation
  | .updateAndGetStorageValue message proofParams agreement behind => do
    let (after, _) ← updateAndGetStorageValue libraries.toStorageLibraries behind (rootContract evm libraries) state message
      proofParams agreement
    return after

def registryContract : System Registry (Address × RegistryCall) where
  initial := (registry evm).initial
  step state call after := after = settle state (executeCall evm libraries state call.1 call.2)

inductive Brings : RegistryCall → StateRootUpdate → SignatureInfo → Prop where
  | invoked (message : StateRootUpdate) (signatureInfo : SignatureInfo) :
      Brings (.invoke (.updateStateRoot message signatureInfo)) message signatureInfo
  | agreed {message : StateRootUpdate} {proofParams : ProofParams} {agreement : Agreement} {behind : Bytes}
      {signatureInfo : SignatureInfo} (read : libraries.signatureInfo agreement = .ok signatureInfo) :
      Brings (.updateAndGetStorageValue message proofParams agreement behind) message signatureInfo

noncomputable def signers (set : OperatorSet) (signatureInfo : SignatureInfo) : Finset G1Point :=
  members (weights evm set.toTally) \ signatureInfo.nonSignerPubkeys.toFinset

/-- The signature is one of a quorum of the operator set over the hash. -/
structure Attested (set : OperatorSet) (msgHash : Bytes32) (signatureInfo : SignatureInfo) : Prop where
  quorum : set.totalWeight.toNat * set.quorumThreshold.toNat / THRESHOLD_DENOMINATOR ≤
    ∑ pubkey ∈ signers evm set signatureInfo, weights evm set.toTally pubkey
  signed : trySignatureAndApkVerification evm msgHash
    (evm.encode (∑ pubkey ∈ signers evm set signatureInfo, evm.value pubkey)) signatureInfo.apkG2 signatureInfo.sigma =
      .ok (true, true)

/-! ## One call -/

variable {evm libraries}

theorem verifyCalldata_attested {set : OperatorSet} (consistent : Consistent evm set.toTally) {msgHash : Bytes32}
    {signatureInfo : SignatureInfo} (verified : verifyCalldata evm set msgHash signatureInfo = .ok true) :
    Attested evm set msgHash signatureInfo := by
  obtain ⟨apk, weight, found, pairing, quorum⟩ := verifyCalldata_eq_ok verified
  have checked := signersOf_only_checked consistent found
  obtain ⟨unlisted, computed, sum⟩ := signersOf_checked consistent checked
  cases found.symm.trans computed
  simp only [meetsQuorum, bind_eq_ok, checkedMul_eq_ok] at quorum
  obtain ⟨product, multiplied, enough⟩ := quorum
  have enough := of_decide_eq_true (Except.ok.inj enough)
  refine ⟨?_, pairing⟩
  rw [signers, ← sum, multiplied]
  exact enough

theorem updateStateRoot_attested {state after : Registry} (sound : Sound evm state) {message : StateRootUpdate}
    {signatureInfo : SignatureInfo} (success : updateStateRoot evm state message signatureInfo = .ok after) :
    after = pushStateRoot state message.rollupId message.blockHeight message.stateRoot ∧
      Attested evm state.operatorSet (message.hash evm.keccak256) signatureInfo := by
  simp only [updateStateRoot, bind_eq_ok, require_eq_ok] at success
  obtain ⟨_, _, accepted, verified, _, rfl, result⟩ := success
  cases result
  exact ⟨rfl, verifyCalldata_attested sound.consistent verified⟩

theorem applyUpdate_stateRoots {state after : Registry} {message : OperatorSetUpdate}
    (success : applyUpdate evm state message = .ok after) : after.stateRootBuffers = state.stateRootBuffers := by
  simp only [applyUpdate, bind_eq_ok] at success
  obtain ⟨_, _, _, _, result⟩ := success
  cases result
  rfl

theorem execute_stateRoots {state after : Registry} {sender : Address} {invocation : Invocation}
    (success : execute evm state sender invocation = .ok after) :
    after.stateRootBuffers = state.stateRootBuffers ∨ ∃ message signatureInfo,
      invocation = .updateStateRoot message signatureInfo ∧ updateStateRoot evm state message signatureInfo = .ok after := by
  cases invocation with
  | setInitialOperatorSet operators nextOperatorUpdateId =>
    obtain ⟨_, _, _, _, rfl⟩ := setInitialOperatorSet_eq_ok.mp success
    exact .inl rfl
  | updateOperatorSet message signatureInfo =>
    simp only [execute, updateOperatorSet, bind_eq_ok] at success
    obtain ⟨_, _, _, _, _, _, _, _, applied⟩ := success
    exact .inl (applyUpdate_stateRoots applied)
  | forceOperatorSetUpdate message =>
    simp only [execute, forceOperatorSetUpdate, bind_eq_ok] at success
    obtain ⟨_, _, _, _, applied⟩ := success
    exact .inl (applyUpdate_stateRoots applied)
  | updateStateRoot message signatureInfo => exact .inr ⟨message, signatureInfo, rfl, success⟩
  | setQuorumThreshold newQuorumThreshold =>
    simp only [execute, Registry.setQuorumThreshold, bind_eq_ok] at success
    obtain ⟨_, _, _, _, result⟩ := success
    cases result
    exact .inl rfl
  | _ =>
    obtain ⟨_, _, _, rfl⟩ := execute_administers rfl success
    exact .inl rfl

theorem updateAndGetStorageValue_cases {state after : Registry} {message : StateRootUpdate} {proofParams : ProofParams}
    {agreement : Agreement} {behind : Bytes} {value : Bytes32}
    (success : updateAndGetStorageValue libraries.toStorageLibraries behind (rootContract evm libraries) state message
      proofParams agreement = .ok (after, value)) :
    after = state ∨ ∃ signatureInfo, libraries.signatureInfo agreement = .ok signatureInfo ∧
      updateStateRoot evm state message signatureInfo = .ok after := by
  rcases (updateAndGetStorageValue_ok success).1 with ⟨_, updated⟩ | ⟨_, same⟩
  · obtain ⟨signatureInfo, read, updated⟩ := bind_eq_ok.mp updated
    exact .inr ⟨signatureInfo, read, updated⟩
  · exact .inl same

theorem executeCall_cases {state after : Registry} {sender : Address} {call : RegistryCall}
    (success : executeCall evm libraries state sender call = .ok after) :
    (∃ message signatureInfo, Brings libraries call message signatureInfo ∧
      updateStateRoot evm state message signatureInfo = .ok after) ∨
    after.stateRootBuffers = state.stateRootBuffers ∧
      (after = state ∨ ∃ invocation, execute evm state sender invocation = .ok after) := by
  cases call with
  | invoke invocation =>
    rcases execute_stateRoots success with same | ⟨message, signatureInfo, rfl, updated⟩
    · exact .inr ⟨same, .inr ⟨invocation, success⟩⟩
    · exact .inl ⟨message, signatureInfo, .invoked message signatureInfo, updated⟩
  | updateAndGetStorageValue message proofParams agreement behind =>
    obtain ⟨⟨_, value⟩, updated, result⟩ := bind_eq_ok.mp success
    cases result
    rcases updateAndGetStorageValue_cases updated with rfl | ⟨signatureInfo, read, updated⟩
    · exact .inr ⟨rfl, .inl rfl⟩
    · exact .inl ⟨message, signatureInfo, .agreed read, updated⟩

/-! ## Whole runs -/

theorem Sound.contract_step {state after : Registry} {call : Address × RegistryCall} (sound : Sound evm state)
    (step : (registryContract evm libraries).step state call after) : Sound evm after := by
  obtain rfl : after = settle state (executeCall evm libraries state call.1 call.2) := step
  refine settle_preserves sound fun next success => ?_
  rcases executeCall_cases success with ⟨message, signatureInfo, _, updated⟩ | ⟨_, rfl | ⟨invocation, executed⟩⟩
  · have executed : Rollup.execute evm state call.1 (.updateStateRoot message signatureInfo) = .ok next := updated
    exact sound.execute executed
  · exact sound
  · exact sound.execute executed

theorem Sound.of_reachable_contract {state : Registry} (reachable : (registryContract evm libraries).Reachable state) :
    Sound evm state := by
  apply reachable.invariant
  · intro state initial
    exact Sound.of_reachable ⟨[], .start initial⟩
  · exact fun _ _ _ sound step => sound.contract_step step

theorem contract_step {state after : Registry} {call : Address × RegistryCall}
    (step : (registryContract evm libraries).step state call after) :
    after = state ∨ executeCall evm libraries state call.1 call.2 = .ok after := by
  obtain rfl : after = settle state (executeCall evm libraries state call.1 call.2) := step
  cases executeCall evm libraries state call.1 call.2 with
  | error revert => exact .inl rfl
  | ok next => exact .inr rfl

theorem pushStateRoot_apply (state : Registry) (rollupId other : Uint 32) (blockHeight height : Uint 64) (stateRoot : Bytes32) :
    (pushStateRoot state rollupId blockHeight stateRoot).stateRootBuffers other height =
      if other = rollupId ∧ height = blockHeight then stateRoot else state.stateRootBuffers other height := by
  unfold pushStateRoot
  by_cases block : other = rollupId
  · subst block
    simp [Function.update_apply]
  · simp [block]

/-- A step that changes a block's root brings the signature of a quorum of the operator set before it. -/
theorem step_attested {state after : Registry} {call : Address × RegistryCall} {rollupId : Uint 32} {blockHeight : Uint 64}
    (sound : Sound evm state) (step : (registryContract evm libraries).step state call after)
    (changed : state.stateRootBuffers rollupId blockHeight ≠ after.stateRootBuffers rollupId blockHeight) :
    ∃ message signatureInfo, Brings libraries call.2 message signatureInfo ∧ message.rollupId = rollupId ∧
      message.blockHeight = blockHeight ∧ message.stateRoot = after.stateRootBuffers rollupId blockHeight ∧
      Attested evm state.operatorSet (message.hash evm.keccak256) signatureInfo := by
  rcases contract_step step with rfl | executed
  · exact absurd rfl changed
  rcases executeCall_cases executed with ⟨message, signatureInfo, brings, updated⟩ | ⟨same, _⟩
  · obtain ⟨rfl, attested⟩ := updateStateRoot_attested sound updated
    rw [pushStateRoot_apply] at changed ⊢
    split at changed
    next block => exact ⟨message, signatureInfo, brings, block.1.symm, block.2.symm, (if_pos block).symm, attested⟩
    next => exact absurd rfl changed
  · exact absurd (congrFun (congrFun same rollupId) blockHeight).symm changed

theorem initial_stateRoots {state : Registry} (initial : (registryContract evm libraries).initial state)
    (rollupId : Uint 32) (blockHeight : Uint 64) : state.stateRootBuffers rollupId blockHeight = 0 := by
  obtain ⟨quorumThreshold, initialOwner, aggregator, success⟩ := initial
  simp only [initializeRegistry, bind_eq_ok] at success
  obtain ⟨operatorSet, _, result⟩ := success
  cases result
  rfl

section Traces
variable {points earlier window : List (Registry × Address × RegistryCall)} {state : Registry} {rollupId : Uint 32}
  {blockHeight : Uint 64}

/-- A stored root came with the signature of a quorum of the operator set of that moment. -/
theorem stored_root_attested (trace : (registryContract evm libraries).Trace points state)
    (stored : state.stateRootBuffers rollupId blockHeight ≠ 0) :
    ∃ point ∈ points, ∃ message signatureInfo, Brings libraries point.2.2 message signatureInfo ∧
      message.rollupId = rollupId ∧ message.blockHeight = blockHeight ∧
      message.stateRoot = state.stateRootBuffers rollupId blockHeight ∧
      Attested evm point.1.operatorSet (message.hash evm.keccak256) signatureInfo := by
  obtain ⟨point, member, written, reachable, step, changed, now⟩ :=
    trace.written_of_not_initial (fun registry => registry.stateRootBuffers rollupId blockHeight) fun first initial same =>
      stored (same.symm.trans (initial_stateRoots initial rollupId blockHeight))
  obtain ⟨message, signatureInfo, brings, rollup, height, root, attested⟩ :=
    step_attested (Sound.of_reachable_contract reachable) step changed
  exact ⟨point, member, message, signatureInfo, brings, rollup, height, root.trans now, attested⟩

/-- A storage value is read under a root that came with the signature of a quorum for the same block, in this call or in
an earlier one. The message of the call itself need not be signed if the root was stored before. -/
theorem storage_value_attested (trace : (registryContract evm libraries).Trace points state) {after : Registry}
    {message : StateRootUpdate} {proofParams : ProofParams} {agreement : Agreement} {behind : Bytes} {value : Bytes32}
    (success : updateAndGetStorageValue libraries.toStorageLibraries behind (rootContract evm libraries) state message
      proofParams agreement = .ok (after, value)) (sender : Address) :
    InSlot libraries.toStorageLibraries proofParams message.stateRoot value ∧
    after.stateRootBuffers message.rollupId message.blockHeight = message.stateRoot ∧
    ∃ point ∈ points ++ [(state, sender, .updateAndGetStorageValue message proofParams agreement behind)],
      ∃ attested signatureInfo, Brings libraries point.2.2 attested signatureInfo ∧ attested.rollupId = message.rollupId ∧
      attested.blockHeight = message.blockHeight ∧ attested.stateRoot = message.stateRoot ∧
      Attested evm point.1.operatorSet (attested.hash evm.keccak256) signatureInfo := by
  obtain ⟨updated, stored, read⟩ := updateAndGetStorageValue_ok success
  refine ⟨read, stored, ?_⟩
  rcases updated with ⟨_, updated⟩ | ⟨nonzero, rfl⟩
  · obtain ⟨signatureInfo, read, updated⟩ := bind_eq_ok.mp updated
    obtain ⟨_, attested⟩ := updateStateRoot_attested (Sound.of_reachable_contract trace.reachable) updated
    exact ⟨_, List.mem_append_right _ (List.mem_singleton_self _), message, signatureInfo, .agreed read, rfl, rfl, rfl,
      attested⟩
  · obtain ⟨point, member, attested, signatureInfo, brings, rollup, height, root, quorum⟩ :=
      stored_root_attested trace nonzero
    exact ⟨point, List.mem_append_left _ member, attested, signatureInfo, brings, rollup, height, root.trans stored, quorum⟩

/-! Both operators sign for block 7 of rollup 3. On the small curve a signature of nothing is valid. -/

def everybodySigned : SignatureInfo := ⟨[], ⟨(0, 0), (0, 0)⟩, ⟨0, 0⟩⟩

def plainLibraries : RegistryLibraries where
  trieGet _ _ _ := .ok (some [42])
  storageRoot _ := .ok 0
  readBytes := .ok
  signatureInfo _ := .ok everybodySigned

def blockSeven (stateRoot : Bytes32) : StateRootUpdate := ⟨3, 7, 100, 1, 2, stateRoot⟩

theorem twoOperators_trace :
    (registryContract smallCurve plainLibraries).Trace [(freshRegistry, 2, .invoke enterTwoOperators)] twoOperators := by
  have start : (registryContract smallCurve plainLibraries).Trace [] freshRegistry := .start ⟨66, 1, 2, rfl⟩
  exact .next start rfl

/-- What a registry with the two operators needs to take a root that everybody signed. -/
structure Accepting (state : Registry) : Prop where
  operators : state.operatorSet = twoOperators.operatorSet
  unpaused : state.paused = 0

theorem twoOperators_accepting : Accepting twoOperators := ⟨rfl, by decide +kernel⟩

theorem Accepting.pushed {state : Registry} (accepting : Accepting state) (rollupId : Uint 32) (blockHeight : Uint 64)
    (stateRoot : Bytes32) : Accepting (pushStateRoot state rollupId blockHeight stateRoot) :=
  ⟨accepting.operators, accepting.unpaused⟩

theorem blockSeven_accepted {stateRoot : Bytes32} (given : stateRoot = 5 ∨ stateRoot = 6) :
    verifyCalldata smallCurve twoOperators.operatorSet ((blockSeven stateRoot).hash smallCurve.keccak256) everybodySigned =
      .ok true := by
  rcases given with rfl | rfl
  · decide +kernel
  · decide +kernel

theorem blockSeven_pushed {state : Registry} (accepting : Accepting state) {stateRoot : Bytes32}
    (given : stateRoot = 5 ∨ stateRoot = 6) :
    updateStateRoot smallCurve state (blockSeven stateRoot) everybodySigned = .ok (pushStateRoot state 3 7 stateRoot) := by
  have running : onlyWhenNotPaused state PAUSED_UPDATE_STATE_ROOT = .ok () := by
    rw [onlyWhenNotPaused, accepting.unpaused]
    rfl
  rw [updateStateRoot, running, ok_bind, accepting.operators, blockSeven_accepted given]
  rfl

theorem storage_value_attested_twoOperators :
    ∃ (after : Registry) (point : Registry × Address × RegistryCall) (attested : StateRootUpdate)
        (signatureInfo : SignatureInfo),
      updateAndGetStorageValue plainLibraries.toStorageLibraries [] (rootContract smallCurve plainLibraries) twoOperators
        (blockSeven 5) ⟨9, 1, [], []⟩ ⟨[1], 0, 1⟩ = .ok (after, toBytes32PadLeft [42] []) ∧
      Brings plainLibraries point.2.2 attested signatureInfo ∧ attested.stateRoot = 5 ∧
      Attested smallCurve point.1.operatorSet (attested.hash smallCurve.keccak256) signatureInfo := by
  have empty : twoOperators.stateRootBuffers 3 7 = 0 := by decide +kernel
  have stored : (pushStateRoot twoOperators 3 7 5).stateRootBuffers 3 7 = 5 := by
    rw [pushStateRoot_apply, if_pos ⟨rfl, rfl⟩]
  have updated := blockSeven_pushed twoOperators_accepting (.inl (rfl : (5 : Bytes32) = 5))
  have success : updateAndGetStorageValue plainLibraries.toStorageLibraries [] (rootContract smallCurve plainLibraries)
      twoOperators (blockSeven 5) ⟨9, 1, [], []⟩ ⟨[1], 0, 1⟩ =
        .ok (pushStateRoot twoOperators 3 7 5, toBytes32PadLeft [42] []) :=
    updateAndGetStorageValue_eq (by decide) (by decide) empty updated stored rfl
  obtain ⟨_, _, point, _, attested, signatureInfo, brings, _, _, root, quorum⟩ :=
    storage_value_attested twoOperators_trace success 9
  exact ⟨_, point, attested, signatureInfo, success, brings, root, quorum⟩

/-- If a block got one root and then another while the operator set stayed the same, then each of them was signed by a
quorum, and what both quorums have in common is at least twice the quorum less the total weight. -/
theorem conflicting_roots_double_signed (trace : (registryContract evm libraries).Trace (earlier ++ window) state)
    {set : OperatorSet} (steady : ∀ point ∈ window, point.1.operatorSet = set)
    {point : Registry × Address × RegistryCall} (member : point ∈ window)
    (new : ∀ head ∈ window.head?,
      head.1.stateRootBuffers rollupId blockHeight ≠ point.1.stateRootBuffers rollupId blockHeight)
    (conflict : point.1.stateRootBuffers rollupId blockHeight ≠ state.stateRootBuffers rollupId blockHeight) :
    ∃ writer ∈ window, ∃ writer' ∈ window, ∃ message other signatureInfo signatureInfo',
      Brings libraries writer.2.2 message signatureInfo ∧ message.rollupId = rollupId ∧ message.blockHeight = blockHeight ∧
      message.stateRoot = point.1.stateRootBuffers rollupId blockHeight ∧
      Attested evm set (message.hash evm.keccak256) signatureInfo ∧
      Brings libraries writer'.2.2 other signatureInfo' ∧ other.rollupId = rollupId ∧ other.blockHeight = blockHeight ∧
      other.stateRoot = state.stateRootBuffers rollupId blockHeight ∧
      Attested evm set (other.hash evm.keccak256) signatureInfo' ∧
      2 * (set.totalWeight.toNat * set.quorumThreshold.toNat / THRESHOLD_DENOMINATOR) ≤ set.totalWeight.toNat +
        ∑ pubkey ∈ signers evm set signatureInfo ∩ signers evm set signatureInfo', weights evm set.toTally pubkey := by
  obtain ⟨before, rest, rfl⟩ := List.append_of_mem member
  let value : Registry → Bytes32 := fun registry => registry.stateRootBuffers rollupId blockHeight
  rw [← List.append_assoc] at trace
  -- the root of the point was written before it, and the last one after it
  obtain ⟨writer, inBefore, written, reachable, step, changed, now⟩ :=
    (trace.split.last_write value).resolve_left fun kept => by
      cases before with
      | nil => exact new point rfl rfl
      | cons head tail => exact new head rfl (kept head rfl)
  obtain ⟨writer', inRest, written', reachable', step', changed', now'⟩ :=
    (trace.last_write value).resolve_left fun kept => conflict (kept point rfl)
  have sound := Sound.of_reachable_contract reachable
  obtain ⟨message, signatureInfo, brings, rollup, height, root, attested⟩ := step_attested sound step changed
  obtain ⟨other, signatureInfo', brings', rollup', height', root', attested'⟩ :=
    step_attested (Sound.of_reachable_contract reachable') step' changed'
  have same := steady writer (List.mem_append_left _ inBefore)
  rw [steady writer' (List.mem_append_right _ inRest)] at attested'
  rw [same] at attested
  have total : total (weights evm set.toTally) = set.totalWeight.toNat := by
    rw [← same]
    exact sound.consistent.totalWeight.symm
  have overlap := sum_add_sum_le (weights evm set.toTally) (signers evm set signatureInfo) (signers evm set signatureInfo')
  have quorum := attested.quorum
  have quorum' := attested'.quorum
  exact ⟨writer, List.mem_append_left _ inBefore, writer', List.mem_append_right _ inRest, message, other, signatureInfo,
    signatureInfo', brings, rollup, height, root.trans now, attested, brings', rollup', height', root'.trans now', attested',
    by omega⟩

def pushRoot (stateRoot : Bytes32) : Address × RegistryCall := (9, .invoke (.updateStateRoot (blockSeven stateRoot) everybodySigned))

theorem pushRoot_step {state : Registry} (accepting : Accepting state) {stateRoot : Bytes32}
    (given : stateRoot = 5 ∨ stateRoot = 6) :
    (registryContract smallCurve plainLibraries).step state (pushRoot stateRoot) (pushStateRoot state 3 7 stateRoot) :=
  (congrArg (settle state) (blockSeven_pushed accepting given)).symm

theorem conflicting_roots_double_signed_twoOperators :
    ∃ (message other : StateRootUpdate) (signatureInfo signatureInfo' : SignatureInfo),
      message.stateRoot = 6 ∧ Attested smallCurve twoOperators.operatorSet (message.hash smallCurve.keccak256) signatureInfo ∧
      other.stateRoot = 5 ∧ Attested smallCurve twoOperators.operatorSet (other.hash smallCurve.keccak256) signatureInfo' ∧
      2 * (12 * 66 / 100) ≤ 12 + ∑ pubkey ∈ signers smallCurve twoOperators.operatorSet signatureInfo ∩
        signers smallCurve twoOperators.operatorSet signatureInfo', weights smallCurve twoOperators.operatorSet.toTally pubkey := by
  let five := pushStateRoot twoOperators 3 7 5
  let six := pushStateRoot five 3 7 6
  have rootedFive : Accepting five := twoOperators_accepting.pushed 3 7 5
  have rootedSix : Accepting six := rootedFive.pushed 3 7 6
  have trace : (registryContract smallCurve plainLibraries).Trace
      ([(freshRegistry, 2, .invoke enterTwoOperators), (twoOperators, pushRoot 5)] ++ [(five, pushRoot 6), (six, pushRoot 5)])
      (pushStateRoot six 3 7 5) :=
    .next (.next (.next twoOperators_trace (pushRoot_step twoOperators_accepting (.inl rfl)))
      (pushRoot_step rootedFive (.inr rfl))) (pushRoot_step rootedSix (.inl rfl))
  have steady : ∀ point ∈ [(five, pushRoot 6), (six, pushRoot 5)], point.1.operatorSet = twoOperators.operatorSet := by
    simp only [List.forall_mem_cons, List.not_mem_nil, false_implies, implies_true, and_true, rootedFive.operators,
      rootedSix.operators]
  have start : five.stateRootBuffers 3 7 = 5 := pushStateRoot_apply ..
  have middle : six.stateRootBuffers 3 7 = 6 := pushStateRoot_apply ..
  have last : (pushStateRoot six 3 7 5).stateRootBuffers 3 7 = 5 := pushStateRoot_apply ..
  have new : ∀ head ∈ [(five, pushRoot 6), (six, pushRoot 5)].head?,
      head.1.stateRootBuffers 3 7 ≠ six.stateRootBuffers 3 7 := by
    intro head first
    cases first
    rw [start, middle]
    decide
  have total : twoOperators.operatorSet.totalWeight = 12 := by decide
  have threshold : twoOperators.operatorSet.quorumThreshold = 66 := by decide
  obtain ⟨_, _, _, _, message, other, signatureInfo, signatureInfo', _, _, _, root, attested, _, _, _, root', attested',
      overlap⟩ :=
    conflicting_roots_double_signed trace steady (List.mem_cons_of_mem _ List.mem_cons_self) new
      (by rw [middle, last]; decide)
  rw [total, threshold] at overlap
  exact ⟨message, other, signatureInfo, signatureInfo', root.trans middle, attested, root'.trans last, attested', overlap⟩

end Traces

end Sffl.Rollup
