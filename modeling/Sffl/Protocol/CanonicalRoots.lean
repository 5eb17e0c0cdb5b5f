import Sffl.Core.Digest
import Sffl.Operator.Attestor
import Sffl.Rollup.StateRoots

/-! Operators and a rollup's registry together.

Operators sign the headers that their nodes announce, and the registry takes a
root with the signature of a quorum. Nodes, operators and callers of the registry
act in any order, and a caller may bring any signature that can be made without
the keys of honest operators. If the nodes of honest operators announce blocks of
one chain and the other operators alone are no quorum, then the registry holds
only roots of that chain.
-/

set_option autoImplicit false

namespace Sffl.Protocol

open Sffl.Evm Sffl.Algebra Sffl.Semantics Sffl.Base Sffl.Rollup Sffl.Operator

structure Node (Sig OperatorId : Type) where
  attestor : AttestorState Sig OperatorId
  others : List Core.Message

structure Network (Sig OperatorId : Type) where
  operators : G1Point → Node Sig OperatorId
  registry : Registry

inductive NetworkEvent where
  | attest (pubkey : G1Point) (event : AttestorEvent)
  | signOperatorSetUpdate (pubkey : G1Point) (message : Core.OperatorSetUpdateMessage)
  | signTaskResponse (pubkey : G1Point) (taskResponse : Eth.TaskResponse)
  | call (sender : Address) (call : RegistryCall)

section Definitions
variable {Sig OperatorId : Type}

def Node.signed (node : Node Sig OperatorId) : List Core.Message :=
  node.attestor.calls.filterMap (fun call => call.signed.map fun signed => .stateRootUpdate signed.message) ++ node.others

def Network.setOperator (network : Network Sig OperatorId) (pubkey : G1Point) (node : Node Sig OperatorId) :
    Network Sig OperatorId :=
  { network with operators := Function.update network.operators pubkey node }

variable {G : Type} [AddCommGroup G] (evm : Precompiles G) (libraries : RegistryLibraries)
  (attestor : G1Point → Attestor Sig OperatorId)

def Network.step (network : Network Sig OperatorId) : NetworkEvent → Option (Network Sig OperatorId)
  | .attest pubkey event => do
    let moved ← (network.operators pubkey).attestor.step (attestor pubkey) event
    return network.setOperator pubkey { network.operators pubkey with attestor := moved }
  | .signOperatorSetUpdate pubkey message =>
    some (network.setOperator pubkey { network.operators pubkey with
      others := .operatorSetUpdate message :: (network.operators pubkey).others })
  | .signTaskResponse pubkey taskResponse =>
    some (network.setOperator pubkey { network.operators pubkey with
      others := .checkpointTaskResponse taskResponse :: (network.operators pubkey).others })
  | .call sender call =>
    some { network with registry := settle network.registry (executeCall evm libraries network.registry sender call) }

def networks : System (Network Sig OperatorId) NetworkEvent where
  initial network := (∀ pubkey, network.operators pubkey = ⟨newAttestorState Sig OperatorId, []⟩) ∧
    (registryContract evm libraries).initial network.registry
  step network event after := network.step evm libraries attestor event = some after

/-! ## What is assumed -/

variable (honest : Finset G1Point) (roots : Uint 32 → Nat → Bytes32)

def Announced (rollupId : Uint 32) (rollupHeader : Header) : Prop :=
  rollupHeader.number < 2 ^ 64 ∧ rollupHeader.root = roots rollupId rollupHeader.number

/-- What is assumed of a message and a signature that are brought to the registry. -/
structure Brought (network : Network Sig OperatorId) (message : StateRootUpdate) (signatureInfo : SignatureInfo) : Prop where
  /-- The other operators have no quorum. -/
  majority : ∑ pubkey ∈ members (weights evm network.registry.operatorSet.toTally) \ honest,
      weights evm network.registry.operatorSet.toTally pubkey <
    network.registry.operatorSet.totalWeight.toNat * network.registry.operatorSet.quorumThreshold.toNat / THRESHOLD_DENOMINATOR
  /-- Nobody has the signature of an honest operator over a digest that it has not signed. -/
  unforged : Attested evm network.registry.operatorSet (message.hash evm.keccak256) signatureInfo →
    ∀ pubkey ∈ signers evm network.registry.operatorSet signatureInfo, pubkey ∈ honest →
      ∃ signed ∈ (network.operators pubkey).signed, signed.digest evm.keccak256 = some (message.hash evm.keccak256)
  /-- The strings that are hashed do not collide. -/
  secure : ∀ pubkey ∈ honest, ∀ signed ∈ (network.operators pubkey).signed, Set.InjOn evm.keccak256
    {input | input ∈ signed.hashedInputs evm.keccak256 ++ (Core.Message.stateRootUpdate message).hashedInputs evm.keccak256}

def Assumed (network : Network Sig OperatorId) : NetworkEvent → Prop
  | .attest pubkey (.header rollupId rollupHeader) => pubkey ∈ honest → Announced roots rollupId rollupHeader
  | .call _ call => ∀ message signatureInfo, Brings libraries call message signatureInfo →
      Brought evm honest network message signatureInfo
  | _ => True

end Definitions

/-! ## What honest operators sign -/

section Operators
variable {Sig OperatorId : Type} {roots : Uint 32 → Nat → Bytes32}

def OnChain (roots : Uint 32 → Nat → Bytes32) (message : StateRootUpdate) : Prop :=
  message.stateRoot = roots message.rollupId message.blockHeight.toNat

structure Truthful (roots : Uint 32 → Nat → Bytes32) (call : HeaderCall Sig OperatorId) : Prop where
  announced : Announced roots call.rollupId call.rollupHeader
  signed : ∀ signed, call.signed = some signed → OnChain roots signed.message

theorem Truthful.onChain {call : HeaderCall Sig OperatorId} (truthful : Truthful roots call) :
    OnChain roots call.message := by
  obtain ⟨small, root⟩ := truthful.announced
  unfold OnChain HeaderCall.message HeaderCall.blockHeight
  rw [BitVec.toNat_ofNat, Nat.mod_eq_of_lt small]
  exact root

theorem Truthful.move {attestor : Attestor Sig OperatorId} {call moved : HeaderCall Sig OperatorId} {move : CallMove}
    (truthful : Truthful roots call) (step : CallStep attestor call move moved) : Truthful roots moved := by
  cases step with
  | sign =>
    refine ⟨truthful.announced, fun signed same => ?_⟩
    cases same
    exact truthful.onChain
  | _ => exact ⟨truthful.announced, truthful.signed⟩

theorem truthful_step {attestor : Attestor Sig OperatorId} {state after : AttestorState Sig OperatorId} {event : AttestorEvent}
    (truthful : ∀ call ∈ state.calls, Truthful roots call)
    (announced : ∀ rollupId rollupHeader, event = .header rollupId rollupHeader → Announced roots rollupId rollupHeader)
    (one : state.step attestor event = some after) : ∀ call ∈ after.calls, Truthful roots call := by
  have step := callsStep_of_step one
  generalize after.calls = calls at step ⊢
  cases step with
  | header rollupId rollupHeader =>
    have new : Truthful roots (newHeaderCall Sig OperatorId rollupId rollupHeader) :=
      ⟨announced rollupId rollupHeader rfl, nofun⟩
    exact List.forall_mem_append.mpr ⟨truthful, List.forall_mem_singleton.mpr new⟩
  | visit _ found =>
    intro call member
    rcases List.mem_or_eq_of_mem_set member with old | rfl
    · exact truthful call old
    · have before := truthful _ (List.mem_of_getElem? found)
      exact ⟨before.announced, before.signed⟩
  | move found moves =>
    intro call member
    rcases List.mem_or_eq_of_mem_set member with old | rfl
    · exact truthful call old
    · exact (truthful _ (List.mem_of_getElem? found)).move moves
  | stay => exact truthful

/-- An honest operator: its state root updates are true, and the rest are no state root updates. -/
structure Node.Honest (roots : Uint 32 → Nat → Bytes32) (node : Node Sig OperatorId) : Prop where
  truthful : ∀ call ∈ node.attestor.calls, Truthful roots call
  others : ∀ message, .stateRootUpdate message ∉ node.others

theorem Node.Honest.sign {node : Node Sig OperatorId} (good : node.Honest roots) {signed : Core.Message}
    (other : ∀ message, .stateRootUpdate message ≠ signed) : { node with others := signed :: node.others }.Honest roots := by
  refine ⟨good.truthful, fun message member => ?_⟩
  exact good.others message ((List.mem_cons.mp member).resolve_left (other message))

theorem Node.Honest.onChain {node : Node Sig OperatorId} (good : node.Honest roots) {message : StateRootUpdate}
    (signed : .stateRootUpdate message ∈ node.signed) : OnChain roots message := by
  rcases List.mem_append.mp signed with attested | other
  · obtain ⟨call, member, found⟩ := List.mem_filterMap.mp attested
    obtain ⟨update, made, same⟩ := Option.map_eq_some_iff.mp found
    cases same
    exact (good.truthful call member).signed update made
  · exact absurd other (good.others message)

end Operators

/-! ## What the registry holds -/

section Runs
variable {Sig OperatorId G : Type} [AddCommGroup G] {evm : Precompiles G} {libraries : RegistryLibraries}
  {attestor : G1Point → Attestor Sig OperatorId} {honest : Finset G1Point} {roots : Uint 32 → Nat → Bytes32}
  {network after : Network Sig OperatorId} {event : NetworkEvent} {history : List NetworkEvent}

theorem eq_of_digest {signed : Core.Message} {message : StateRootUpdate}
    (secure : Set.InjOn evm.keccak256 {input | input ∈ signed.hashedInputs evm.keccak256 ++
      (Core.Message.stateRootUpdate message).hashedInputs evm.keccak256})
    (digest : signed.digest evm.keccak256 = some (message.hash evm.keccak256)) : signed = .stateRootUpdate message := by
  have same := (Core.digest_inj secure digest ((Core.digest_eq_hash evm.keccak256).1 message)).mp rfl
  cases signed with
  | stateRootUpdate other => exact same
  | operatorSetUpdate other => cases same
  | checkpointTaskResponse other => cases same

theorem Brought.onChain {message : StateRootUpdate} {signatureInfo : SignatureInfo}
    (brought : Brought evm honest network message signatureInfo)
    (good : ∀ pubkey ∈ honest, (network.operators pubkey).Honest roots)
    (attested : Attested evm network.registry.operatorSet (message.hash evm.keccak256) signatureInfo) :
    OnChain roots message := by
  -- a quorum has an honest member, and that one has signed
  have heavier := Nat.lt_of_lt_of_le brought.majority attested.quorum
  obtain ⟨pubkey, signer, isHonest⟩ := exists_mem_of_heavier Finset.sdiff_subset heavier
  obtain ⟨signed, member, digest⟩ := brought.unforged attested pubkey signer isHonest
  rw [eq_of_digest (brought.secure pubkey isHonest signed member) digest] at member
  exact (good pubkey isHonest).onChain member

structure Network.Canonical (evm : Precompiles G) (honest : Finset G1Point) (roots : Uint 32 → Nat → Bytes32)
    (network : Network Sig OperatorId) : Prop where
  good : ∀ pubkey ∈ honest, (network.operators pubkey).Honest roots
  sound : Sound evm network.registry
  stored : ∀ rollupId blockHeight, network.registry.stateRootBuffers rollupId blockHeight ≠ 0 →
    network.registry.stateRootBuffers rollupId blockHeight = roots rollupId blockHeight.toNat

theorem Network.Canonical.setOperator (canonical : network.Canonical evm honest roots) {pubkey : G1Point}
    {node : Node Sig OperatorId} (good : pubkey ∈ honest → node.Honest roots) :
    (network.setOperator pubkey node).Canonical evm honest roots := by
  refine ⟨fun other isHonest => ?_, canonical.sound, canonical.stored⟩
  show (Function.update network.operators pubkey node other).Honest roots
  by_cases same : other = pubkey
  · subst same
    rw [Function.update_self]
    exact good isHonest
  · rw [Function.update_of_ne same]
    exact canonical.good other isHonest

theorem Network.Canonical.call (canonical : network.Canonical evm honest roots) {sender : Address} {call : RegistryCall}
    (assumed : Assumed evm libraries honest roots network (.call sender call)) : Network.Canonical evm honest roots
      { network with registry := settle network.registry (executeCall evm libraries network.registry sender call) } := by
  have step : (registryContract evm libraries).step network.registry (sender, call)
      (settle network.registry (executeCall evm libraries network.registry sender call)) := rfl
  refine ⟨canonical.good, canonical.sound.contract_step step, fun rollupId blockHeight stored => ?_⟩
  by_cases same : network.registry.stateRootBuffers rollupId blockHeight =
      (settle network.registry (executeCall evm libraries network.registry sender call)).stateRootBuffers rollupId blockHeight
  · rw [← same] at stored ⊢
    exact canonical.stored rollupId blockHeight stored
  · obtain ⟨message, signatureInfo, brings, rfl, rfl, root, attested⟩ := step_attested canonical.sound step same
    rw [← root]
    exact (assumed message signatureInfo brings).onChain canonical.good attested

theorem Network.Canonical.step (canonical : network.Canonical evm honest roots)
    (assumed : Assumed evm libraries honest roots network event)
    (one : network.step evm libraries attestor event = some after) : after.Canonical evm honest roots := by
  cases event with
  | attest pubkey event =>
    obtain ⟨moved, taken, result⟩ := Option.bind_eq_some_iff.mp one
    cases result
    refine canonical.setOperator fun isHonest => ?_
    have before := canonical.good pubkey isHonest
    refine ⟨truthful_step before.truthful (fun rollupId rollupHeader same => ?_) taken, before.others⟩
    subst same
    exact assumed isHonest
  | signOperatorSetUpdate pubkey message =>
    cases one
    exact canonical.setOperator fun isHonest => (canonical.good pubkey isHonest).sign nofun
  | signTaskResponse pubkey taskResponse =>
    cases one
    exact canonical.setOperator fun isHonest => (canonical.good pubkey isHonest).sign nofun
  | call sender call =>
    cases one
    exact canonical.call assumed

theorem canonical_of_run (run : (networks evm libraries attestor).GuardedRun (Assumed evm libraries honest roots) history network) :
    network.Canonical evm honest roots := by
  refine run.invariant (fun _ network => network.Canonical evm honest roots) ?_ ?_
  · rintro network ⟨idle, initial⟩
    refine ⟨fun pubkey _ => ?_, Sound.of_reachable_contract ⟨[], .start initial⟩, fun rollupId blockHeight stored => ?_⟩
    · rw [idle pubkey]
      exact ⟨List.forall_mem_nil _, fun _ => List.not_mem_nil⟩
    · exact absurd (initial_stateRoots initial rollupId blockHeight) stored
  · intro history network event after canonical assumed one
    exact canonical.step assumed one

/-- The registry holds only roots of the chain, and only values in the chain's state are read under them. -/
theorem stored_roots_canonical
    (run : (networks evm libraries attestor).GuardedRun (Assumed evm libraries honest roots) history network) :
    (∀ rollupId blockHeight, network.registry.stateRootBuffers rollupId blockHeight ≠ 0 →
      network.registry.stateRootBuffers rollupId blockHeight = roots rollupId blockHeight.toNat) ∧
    ∀ message proofParams behind value, message.stateRoot ≠ 0 →
      getStorageValue libraries.toStorageLibraries behind (rootContract evm libraries) network.registry message proofParams =
        .ok value →
      InSlot libraries.toStorageLibraries proofParams (roots message.rollupId message.blockHeight.toNat) value := by
  have canonical := canonical_of_run run
  refine ⟨canonical.stored, fun message proofParams behind value given read => ?_⟩
  obtain ⟨_, same, found⟩ := bind_eq_ok.mp read
  have stored : network.registry.stateRootBuffers message.rollupId message.blockHeight = message.stateRoot :=
    (require_eq_ok.mp same)
  have root := canonical.stored message.rollupId message.blockHeight (stored ▸ given)
  rw [← root]
  exact storageValue_ok found

end Runs

/-! ### One honest operator of two

On the open curve every signature is valid, so that only the honest operator keeps a root out.
-/

/-- Points have their hashes on the small curve, and other strings smaller ones. -/
def mixedKeccak (bytes : Bytes) : Bytes32 :=
  match scalars.find? fun scalar => pointBytes (generatorMultiple scalar) = bytes with
  | some scalar => multipleHash scalar
  | none => BitVec.ofNat 256 ((foldedBytes bytes).toNat % 2 ^ 8)

theorem mixedKeccak_multiple (scalar : ZMod 7) : mixedKeccak (pointBytes (generatorMultiple scalar)) = multipleHash scalar := by
  revert scalar
  decide +kernel

theorem mixedKeccak_injective {point other : G1Point} {scalar : ZMod 7} (found : smallDecode point = some scalar)
    (same : mixedKeccak (pointBytes other) = mixedKeccak (pointBytes point)) : other = point := by
  obtain rfl := multiple_of_smallDecode found
  rw [mixedKeccak_multiple] at same
  unfold mixedKeccak at same
  split at same
  next known place =>
    have different : ∀ first second : ZMod 7, multipleHash first = multipleHash second → first = second := by decide
    have bytes : pointBytes (generatorMultiple known) = pointBytes other := by simpa using List.find?_some place
    rw [← different known scalar same]
    exact (pointBytes_injective bytes).symm
  next =>
    have large : ∀ scalar : ZMod 7, 2 ^ 8 ≤ (multipleHash scalar).toNat := by decide
    have small := congrArg BitVec.toNat same
    rw [BitVec.toNat_ofNat] at small
    have := large scalar
    omega

def openCurve : Precompiles (ZMod 7) :=
  { smallCurve with
    keccak256 := mixedKeccak
    hash_injective := mixedKeccak_injective
    safePairing := fun _ _ _ _ => (true, true) }

def openTwoOperators : Registry :=
  settle freshRegistry (executeCall openCurve plainLibraries freshRegistry 2 (.invoke enterTwoOperators))

def honestKey : G1Point := generatorMultiple (2 : Nat)

def headerSeven : Header := ⟨7, 100, 5⟩

def messageSeven : StateRootUpdate := ⟨3, 7, 100, 0, 0, 5⟩

def unitAttestor (_ : G1Point) : Attestor Unit Unit := ⟨fun _ => some (), ()⟩

def idleOperators (_ : G1Point) : Node Unit Unit := ⟨newAttestorState Unit Unit, []⟩

theorem attest_assumed {network : Network Unit Unit} (event : AttestorEvent)
    (known : ∀ rollupId header, event = .header rollupId header → header = headerSeven) :
    Assumed openCurve plainLibraries {honestKey} (fun _ _ => 5) network (.attest honestKey event) := by
  cases event with
  | header rollupId header =>
    intro _
    rw [known rollupId header rfl]
    exact ⟨by decide, rfl⟩
  | _ => trivial

theorem signed_run : ∃ (history : List NetworkEvent) (operators : G1Point → Node Unit Unit),
    (networks openCurve plainLibraries unitAttestor).GuardedRun
      (Assumed openCurve plainLibraries {honestKey} fun _ _ => 5) history ⟨operators, openTwoOperators⟩ ∧
    (operators honestKey).signed = [.stateRootUpdate messageSeven] := by
  have start : (networks openCurve plainLibraries unitAttestor).GuardedRun
      (Assumed openCurve plainLibraries {honestKey} fun _ _ => 5) [] ⟨idleOperators, freshRegistry⟩ :=
    .start ⟨fun _ => rfl, 66, 1, 2, rfl⟩
  have entering : Assumed openCurve plainLibraries {honestKey} (fun _ _ => 5) ⟨idleOperators, freshRegistry⟩
      (.call 2 (.invoke enterTwoOperators)) := fun _ _ brings => nomatch brings
  have entered : (networks openCurve plainLibraries unitAttestor).GuardedRun
      (Assumed openCurve plainLibraries {honestKey} fun _ _ => 5) _ ⟨idleOperators, openTwoOperators⟩ := start.next entering rfl
  have announced := entered.next (attest_assumed (.header 3 headerSeven) fun _ _ same => by cases same; rfl) rfl
  have subscribed := announced.next (attest_assumed (.move 0 .subscribe) nofun) rfl
  have timedOut := subscribed.next (attest_assumed (.move 0 .timeout) nofun) rfl
  have signed := timedOut.next (attest_assumed (.move 0 .sign) nofun) rfl
  exact ⟨_, _, signed, rfl⟩

theorem messageSeven_secure :
    ∀ first ∈ (Core.Message.stateRootUpdate messageSeven).hashedInputs openCurve.keccak256,
    ∀ second ∈ (Core.Message.stateRootUpdate messageSeven).hashedInputs openCurve.keccak256,
      openCurve.keccak256 first = openCurve.keccak256 second → first = second := by
  decide +kernel

theorem openTwoOperators_brought (sound : Sound openCurve openTwoOperators) {operators : G1Point → Node Unit Unit}
    (signed : (operators honestKey).signed = [.stateRootUpdate messageSeven]) :
    Brought openCurve {honestKey} ⟨operators, openTwoOperators⟩ messageSeven everybodySigned := by
  have weight : weights openCurve openTwoOperators.operatorSet.toTally honestKey = 7 := by decide +kernel
  have known : {honestKey} ⊆ members (weights openCurve openTwoOperators.operatorSet.toTally) := by
    rw [Finset.singleton_subset_iff, mem_members, weight]
    decide
  refine ⟨?_, ?_, ?_⟩
  · have split := total_sdiff known
    have twelve : openTwoOperators.operatorSet.totalWeight.toNat = 12 := by decide +kernel
    have threshold : openTwoOperators.operatorSet.quorumThreshold.toNat = 66 := by decide +kernel
    rw [Finset.sum_singleton, weight, ← sound.consistent.totalWeight, twelve] at split
    show ∑ pubkey ∈ members (weights openCurve openTwoOperators.operatorSet.toTally) \ {honestKey},
      weights openCurve openTwoOperators.operatorSet.toTally pubkey <
        openTwoOperators.operatorSet.totalWeight.toNat * openTwoOperators.operatorSet.quorumThreshold.toNat / 100
    rw [twelve, threshold]
    omega
  · intro _ pubkey _ isHonest
    rw [Finset.mem_singleton.mp isHonest, signed]
    exact ⟨_, List.mem_singleton_self _, (Core.digest_eq_hash openCurve.keccak256).1 messageSeven⟩
  · intro pubkey isHonest other member
    rw [Finset.mem_singleton.mp isHonest, signed] at member
    rw [List.mem_singleton.mp member]
    intro first inFirst second inSecond
    exact messageSeven_secure first ((List.mem_append.mp inFirst).elim id id) second ((List.mem_append.mp inSecond).elim id id)

theorem messageSeven_pushed :
    updateStateRoot openCurve openTwoOperators messageSeven everybodySigned = .ok (pushStateRoot openTwoOperators 3 7 5) := by
  have running : onlyWhenNotPaused openTwoOperators PAUSED_UPDATE_STATE_ROOT = .ok () := by decide +kernel
  have verified : verifyCalldata openCurve openTwoOperators.operatorSet (messageSeven.hash openCurve.keccak256)
      everybodySigned = .ok true := by decide +kernel
  rw [updateStateRoot, running, ok_bind, verified]
  rfl

theorem stored_roots_canonical_signed :
    ∃ (history : List NetworkEvent) (network : Network Unit Unit),
      (networks openCurve plainLibraries unitAttestor).GuardedRun
        (Assumed openCurve plainLibraries {honestKey} fun _ _ => 5) history network ∧
      network.registry.stateRootBuffers 3 7 ≠ 0 ∧ network.registry.stateRootBuffers 3 7 = 5 := by
  obtain ⟨history, operators, run, signed⟩ := signed_run
  have brought := openTwoOperators_brought (canonical_of_run run).sound signed
  have allowed : Assumed openCurve plainLibraries {honestKey} (fun _ _ => 5) ⟨operators, openTwoOperators⟩
      (.call 9 (.invoke (.updateStateRoot messageSeven everybodySigned))) := by
    intro message signatureInfo brings
    cases brings
    exact brought
  have one : Network.step openCurve plainLibraries unitAttestor ⟨operators, openTwoOperators⟩
      (.call 9 (.invoke (.updateStateRoot messageSeven everybodySigned))) =
        some ⟨operators, pushStateRoot openTwoOperators 3 7 5⟩ := by
    rw [Network.step, executeCall, execute, messageSeven_pushed]
    rfl
  have run := run.next allowed one
  have stored : (pushStateRoot openTwoOperators 3 7 5).stateRootBuffers 3 7 ≠ 0 := by
    rw [pushStateRoot_apply, if_pos ⟨rfl, rfl⟩]
    decide
  exact ⟨_, _, run, stored, (stored_roots_canonical run).1 3 7 stored⟩

end Sffl.Protocol
