import Sffl.Chainio.DeltaAgreement
import Sffl.Protocol.CanonicalRoots
import Sffl.Rollup.Initialization
import Sffl.Rollup.Simulation

/-! Mainnet's operator set and a rollup's copy of it.

The coordinator records updates on mainnet, operators sign the delta of an update
that they are told of, the aggregator enters the first set, and anybody may bring
an update and a signature to the rollup's registry. All of them act in any order.
If of every mainnet set the operators that are not honest are no quorum, then the
registry always has the mainnet set of the update that it has taken last.
-/

set_option autoImplicit false

namespace Sffl.Protocol

open Sffl.Evm Sffl.Algebra Sffl.Semantics Sffl.Golang Sffl.Eth Sffl.Chainio Sffl.Rollup

/-! ## The replication of operator sets -/

/-- Mainnet's updates, what every operator has signed, and a rollup's registry. -/
structure Replication where
  updates : OperatorSetUpdateRegistry
  signed : G1Point → List Core.Message
  registry : Registry

inductive ReplicationEvent where
  | record (sender : Address) (blockNumber : Uint 256)
  | handleOperatorSetUpdate (pubkey : G1Point) (id timestamp : Uint 64)
  | sign (pubkey : G1Point) (message : Core.Message)
  | initializeOperatorSet (id : Uint 64)
  | call (sender : Address) (call : RegistryCall)

def Replication.sign (state : Replication) (pubkey : G1Point) (message : Core.Message) : Replication :=
  { state with signed := Function.update state.signed pubkey (message :: state.signed pubkey) }

def Replication.settle (state : Replication) (call : Call Registry) : Replication :=
  { state with registry := Evm.settle state.registry call }

section Definitions
variable {G : Type} [AddCommGroup G] {evm : Precompiles G} (registries : AvsRegistries evm) (random : Nat → Nat → Nat)
  (libraries : RegistryLibraries) (registryCoordinator : Address)

/-- An operator's own process chooses the order in which it visits the operators of an update. -/
inductive ReplicationStep (state : Replication) : ReplicationEvent → Replication → Prop where
  | record {sender : Address} {blockNumber : Uint 256} {updates : OperatorSetUpdateRegistry}
      (recorded : recordOperatorSetUpdate registryCoordinator state.updates sender blockNumber = .ok updates) :
      ReplicationStep state (.record sender blockNumber) { state with updates }
  | handleOperatorSetUpdate {pubkey : G1Point} {id timestamp : Uint 64} {previous new : List Operator} {order : List String}
      (read : getOperatorSetUpdate registries state.updates id = .ok (previous, new))
      (visits : (operatorUpdates previous new).Visits order) :
      ReplicationStep state (.handleOperatorSetUpdate pubkey id timestamp)
        (state.sign pubkey (.operatorSetUpdate (.fromBinding (operatorSetUpdateMessage id timestamp
          (getOperatorSetUpdateDelta random evm.keccak256 previous new order)))))
  | sign {pubkey : G1Point} {message : Core.Message} :
      ReplicationStep state (.sign pubkey message) (state.sign pubkey message)
  | initializeOperatorSet {id : Uint 64} {operators : List Operator}
      (read : getOperatorSetById registries state.updates id = .ok operators) :
      ReplicationStep state (.initializeOperatorSet id)
        (state.settle (Rollup.initializeOperatorSet evm state.registry state.registry.aggregator operators id))
  | call {sender : Address} {call : RegistryCall} :
      ReplicationStep state (.call sender call) (state.settle (executeCall evm libraries state.registry sender call))

def replications : System Replication ReplicationEvent where
  initial state := state.updates = ⟨[]⟩ ∧ (∀ pubkey, state.signed pubkey = []) ∧
    (registryContract evm libraries).initial state.registry
  step := ReplicationStep registries random libraries registryCoordinator

/-! ## What is assumed -/

def IsUpdate (updates : OperatorSetUpdateRegistry) (message : OperatorSetUpdate) : Prop :=
  ∃ previous new order, getOperatorSetUpdate registries updates message.id = .ok (previous, new) ∧
    (operatorUpdates previous new).Visits order ∧
    message = operatorSetUpdateMessage message.id message.timestamp
      (getOperatorSetUpdateDelta random evm.keccak256 previous new order)

def hashedStrings (keccak256 : Bytes → Bytes32) (message : OperatorSetUpdate) : List Bytes :=
  [utf8 "SFFL::OperatorSetUpdateMessage", message.abiEncode,
    wordsBytes [keccak256 (utf8 "SFFL::OperatorSetUpdateMessage"), keccak256 message.abiEncode]]

variable (honest : Finset G1Point)

/-- What is assumed of an update and a signature that are brought to the registry. -/
structure Presented (state : Replication) (message : OperatorSetUpdate) (signatureInfo : SignatureInfo) : Prop where
  /-- Of the mainnet set that the registry should have, the other operators are no quorum. A registry that should have no
  operators gets no update, as nobody would be its quorum. -/
  majority : ∀ operators,
    getPreviousOperatorSet registries state.updates state.registry.nextOperatorUpdateId = .ok operators →
    ∑ pubkey ∈ members (listed (operators.map Operator.entry)) \ honest, listed (operators.map Operator.entry) pubkey <
      total (listed (operators.map Operator.entry)) * state.registry.operatorSet.quorumThreshold.toNat /
        Rollup.THRESHOLD_DENOMINATOR
  /-- Nobody has the signature of an honest operator over a digest that it has not signed. -/
  unforged : Attested evm state.registry.operatorSet (message.hash evm.keccak256) signatureInfo →
    ∀ pubkey ∈ signers evm state.registry.operatorSet signatureInfo, pubkey ∈ honest →
      ∃ signed ∈ state.signed pubkey, signed.digest evm.keccak256 = some (message.hash evm.keccak256)
  /-- The strings that are hashed do not collide. -/
  secure : ∀ pubkey ∈ honest, ∀ signed ∈ state.signed pubkey, Set.InjOn evm.keccak256
    {input | input ∈ signed.hashedInputs evm.keccak256 ++ hashedStrings evm.keccak256 message}

/-- Ids do not run out, honest operators sign only the updates that they are told of, the aggregator enters only sets that it
has read, and the owner forces only updates of mainnet. -/
def Expected (state : Replication) : ReplicationEvent → Prop
  | .record _ _ => state.updates.operatorSetUpdateIdToBlockNumber.length + 1 < 2 ^ 64
  | .sign pubkey message => pubkey ∈ honest → ∀ update, message ≠ .operatorSetUpdate update
  | .call sender (.invoke (.setInitialOperatorSet _ _)) => sender ≠ state.registry.aggregator
  | .call sender (.invoke (.forceOperatorSetUpdate message)) =>
      sender = state.registry.owner → IsUpdate registries random state.updates message
  | .call _ (.invoke (.updateOperatorSet message signatureInfo)) => Presented registries honest state message signatureInfo
  | _ => True

end Definitions

/-! ## What honest operators sign -/

section Messages
variable {G : Type} [AddCommGroup G] {evm : Precompiles G} {registries : AvsRegistries evm} {random : Nat → Nat → Nat}
  {updates : OperatorSetUpdateRegistry} {message : OperatorSetUpdate}

theorem IsUpdate.append (isUpdate : IsUpdate registries random updates message) (more : List (Uint 32)) :
    IsUpdate registries random ⟨updates.operatorSetUpdateIdToBlockNumber ++ more⟩ message := by
  obtain ⟨previous, new, order, read, visits, made⟩ := isUpdate
  exact ⟨previous, new, order, getOperatorSetUpdate_append more read, visits, made⟩

theorem IsUpdate.lt (isUpdate : IsUpdate registries random updates message) :
    message.id.toNat < updates.operatorSetUpdateIdToBlockNumber.length := by
  obtain ⟨previous, new, order, read, _⟩ := isUpdate
  exact getOperatorSetUpdate_lt read

theorem newG1Point_reduced (pubkey : G1Point) :
    (newG1Point pubkey).X.toNat < FP_MODULUS ∧ (newG1Point pubkey).Y.toNat < FP_MODULUS := by
  have positive : 0 < FP_MODULUS := by decide
  unfold newG1Point
  rw [BitVec.toNat_ofNat, BitVec.toNat_ofNat]
  exact ⟨(Nat.mod_le _ _).trans_lt (Nat.mod_lt _ positive), (Nat.mod_le _ _).trans_lt (Nat.mod_lt _ positive)⟩

theorem newG1Point_of_reduced {pubkey : G1Point} (x : pubkey.X.toNat < FP_MODULUS) (y : pubkey.Y.toNat < FP_MODULUS) :
    newG1Point pubkey = pubkey := by
  rw [newG1Point, Nat.mod_eq_of_lt x, Nat.mod_eq_of_lt y, BitVec.ofNat_toNat, BitVec.ofNat_toNat, BitVec.setWidth_eq,
    BitVec.setWidth_eq]

theorem IsUpdate.reduced (isUpdate : IsUpdate registries random updates message) : ∀ operator ∈ message.operators,
    operator.pubkey.X.toNat < FP_MODULUS ∧ operator.pubkey.Y.toNat < FP_MODULUS := by
  obtain ⟨previous, new, order, _, _, made⟩ := isUpdate
  rw [made]
  intro operator member
  obtain ⟨other, _, rfl⟩ := List.mem_map.mp member
  exact newG1Point_reduced other.pubkey

/-- A signed message whose digest is the contract's hash of an update is an update with the same encoding. -/
theorem eq_of_hash {signed : Core.Message} (secure : Set.InjOn evm.keccak256
      {input | input ∈ signed.hashedInputs evm.keccak256 ++ hashedStrings evm.keccak256 message})
    (digest : signed.digest evm.keccak256 = some (message.hash evm.keccak256)) :
    ∃ update, signed = .operatorSetUpdate update ∧ update.abiEncode = some message.abiEncode := by
  obtain ⟨data, packed, same⟩ := Core.digest_eq_some.mp digest
  simp only [Core.Message.hashedInputs, packed, hashedStrings] at secure
  have hashes := Core.wordsBytes_injective (secure (by simp) (by simp) same)
  simp only [List.cons.injEq, and_true] at hashes
  have samePrefix := secure (by simp) (by simp) hashes.1
  have sameData : data = message.abiEncode := secure (by simp) (by simp) hashes.2
  have kind : signed.messagePrefix = (Core.Message.operatorSetUpdate ⟨0, 0, []⟩).messagePrefix :=
    Core.messagePrefix_of_utf8 samePrefix
  cases signed with
  | stateRootUpdate other => simp [Core.Message.messagePrefix] at kind
  | checkpointTaskResponse other => simp [Core.Message.messagePrefix] at kind
  | operatorSetUpdate update => exact ⟨update, rfl, sameData ▸ packed⟩

theorem IsUpdate.of_encoding {update : OperatorSetUpdate} (isUpdate : IsUpdate registries random updates update)
    (same : (Core.OperatorSetUpdateMessage.fromBinding update).abiEncode = some message.abiEncode) :
    IsUpdate registries random updates message := by
  have encoded := Core.fromBinding_abiEncode isUpdate.reduced
  rwa [← Core.binding_abiEncode_injective (Option.some.inj (encoded.symm.trans same))]

end Messages

/-! ## What the registry holds -/

section Copies
variable {G : Type} [AddCommGroup G] {evm : Precompiles G} (registries : AvsRegistries evm)

/-- The registry has the mainnet set that the update it waits for starts from. -/
def Copies (updates : OperatorSetUpdateRegistry) (registry : Registry) : Prop :=
  ∃ operators, getPreviousOperatorSet registries updates registry.nextOperatorUpdateId = .ok operators ∧
    Represents evm registry.operatorSet (listed (operators.map Operator.entry))

variable {registries} {random : Nat → Nat → Nat} {updates : OperatorSetUpdateRegistry} {registry after : Registry}
  {message : OperatorSetUpdate}

theorem Copies.append (copies : Copies registries updates registry) (more : List (Uint 32)) :
    Copies registries ⟨updates.operatorSetUpdateIdToBlockNumber ++ more⟩ registry := by
  obtain ⟨operators, expected, represents⟩ := copies
  exact ⟨operators, getPreviousOperatorSet_append more expected, represents⟩

theorem Copies.of_tally (copies : Copies registries updates registry)
    (tally : after.operatorSet.toTally = registry.operatorSet.toTally)
    (next : after.nextOperatorUpdateId = registry.nextOperatorUpdateId) : Copies registries updates after := by
  obtain ⟨operators, expected, represents⟩ := copies
  exact ⟨operators, next ▸ expected, tally ▸ represents.consistent, tally ▸ represents.weights⟩

section Reduced
variable (reduced : ∀ pubkey, (evm.decode pubkey).isSome → pubkey.X.toNat < FP_MODULUS ∧ pubkey.Y.toNat < FP_MODULUS)
include reduced

theorem operatorSetUpdateMessage_operators {id timestamp : Uint 64} {previous new : List Operator} {order : List String}
    {updateId : Uint 64} (read : getOperatorSetUpdate registries updates updateId = .ok (previous, new))
    (visits : (operatorUpdates previous new).Visits order) :
    (operatorSetUpdateMessage id timestamp (getOperatorSetUpdateDelta random evm.keccak256 previous new order)).operators =
      getOperatorSetUpdateDelta random evm.keccak256 previous new order := by
  -- registered keys are points of the curve, which operators take over as they are
  obtain ⟨previousSet, newSet⟩ := getOperatorSetUpdate_wellFormed read
  refine (List.map_congr_left fun operator member => ?_).trans (List.map_id _)
  have valid := delta_valid (previousSet.mono (by decide)) (newSet.mono (by decide)) visits (.refl _) operator member
  obtain ⟨x, y⟩ := reduced operator.pubkey valid
  rw [newG1Point_of_reduced x y]
  rfl

theorem Copies.update (copies : Copies registries updates registry) (isUpdate : IsUpdate registries random updates message)
    (id : message.id = registry.nextOperatorUpdateId)
    (next : after.nextOperatorUpdateId.toNat = registry.nextOperatorUpdateId.toNat + 1)
    (updated : Rollup.update evm registry.operatorSet message.operators = .ok after.operatorSet) :
    Copies registries updates after := by
  obtain ⟨operators, expected, represents⟩ := copies
  obtain ⟨previous, new, order, read, visits, made⟩ := isUpdate
  rw [made, operatorSetUpdateMessage_operators reduced read visits] at updated
  rw [id] at read
  obtain rfl := getOperatorSetUpdate_fst read expected
  refine ⟨new, getPreviousOperatorSet_next next read, ?_⟩
  have written := overwrite_delta visits (.refl (getOperatorSetUpdateDelta random evm.keccak256 previous new order))
  rw [← written]
  exact represents.update updated

/-- A delta of mainnet never reverts. -/
theorem Copies.takes (copies : Copies registries updates registry) (isUpdate : IsUpdate registries random updates message)
    (id : message.id = registry.nextOperatorUpdateId) :
    ∃ operatorSet, Rollup.update evm registry.operatorSet message.operators = .ok operatorSet := by
  obtain ⟨operators, expected, represents⟩ := copies
  obtain ⟨previous, new, order, read, visits, made⟩ := isUpdate
  rw [made, operatorSetUpdateMessage_operators reduced read visits]
  obtain ⟨previousSet, newSet⟩ := getOperatorSetUpdate_wellFormed read
  rw [id] at read
  obtain rfl := getOperatorSetUpdate_fst read expected
  obtain ⟨operatorSet, updated, _⟩ :=
    represents.follows (previousSet.mono (by decide)) (newSet.mono (by decide)) visits (.refl _)
  exact ⟨operatorSet, updated⟩

end Reduced

theorem Copies.entered (copies : Copies registries updates registry) {id : Uint 64} {operators : List Operator}
    (few : updates.operatorSetUpdateIdToBlockNumber.length < 2 ^ 64)
    (read : getOperatorSetById registries updates id = .ok operators) {sender : Address}
    (success : initializeOperatorSet evm registry sender operators id = .ok after) : Copies registries updates after := by
  obtain ⟨⟨previous, _⟩, pair, result⟩ := bind_eq_ok.mp read
  cases result
  obtain ⟨_, empty, operatorSet, updated, rfl⟩ := setInitialOperatorSet_eq_ok.mp success
  obtain ⟨_, _, represents⟩ := copies
  have small := getOperatorSetUpdate_lt pair
  refine ⟨operators, getPreviousOperatorSet_next (by bv_omega) pair, ?_⟩
  have none : weights evm registry.operatorSet.toTally = fun _ => 0 := by
    funext pubkey
    have bound := weight_le_total (weights evm registry.operatorSet.toTally) pubkey
    rw [← represents.consistent.totalWeight, empty] at bound
    exact Nat.le_zero.mp bound
  have entered : Represents evm registry.operatorSet fun _ => 0 := ⟨represents.consistent, none⟩
  exact entered.update updated

end Copies

theorem updateOperatorSet_attested {registry after : Registry} {message : OperatorSetUpdate} {signatureInfo : SignatureInfo}
    {G : Type} [AddCommGroup G] {evm : Precompiles G} (consistent : Consistent evm registry.operatorSet.toTally)
    (success : updateOperatorSet evm registry message signatureInfo = .ok after) :
    Attested evm registry.operatorSet (message.hash evm.keccak256) signatureInfo := by
  simp only [updateOperatorSet, bind_eq_ok, require_eq_ok] at success
  obtain ⟨_, _, _, _, _, verified, _, rfl, _⟩ := success
  exact verifyCalldata_attested consistent verified

theorem forceOperatorSetUpdate_owner {registry after : Registry} {sender : Address} {message : OperatorSetUpdate}
    {G : Type} [AddCommGroup G] {evm : Precompiles G}
    (success : forceOperatorSetUpdate evm registry sender message = .ok after) : sender = registry.owner := by
  simp only [forceOperatorSetUpdate, onlyOwner, bind_eq_ok, require_eq_ok] at success
  obtain ⟨_, allowed, _⟩ := success
  exact allowed

section Runs
variable {G : Type} [AddCommGroup G] {evm : Precompiles G} (registries : AvsRegistries evm) (random : Nat → Nat → Nat)
  (honest : Finset G1Point)

structure Replication.Faithful (state : Replication) : Prop where
  few : state.updates.operatorSetUpdateIdToBlockNumber.length < 2 ^ 64
  signed : ∀ pubkey ∈ honest, ∀ message, .operatorSetUpdate message ∈ state.signed pubkey →
    ∃ update, IsUpdate registries random state.updates update ∧ message = .fromBinding update
  copies : Copies registries state.updates state.registry

variable {registries random honest} {libraries : RegistryLibraries} {registryCoordinator : Address}
  {state after : Replication} {event : ReplicationEvent} {history : List ReplicationEvent}

theorem Presented.isUpdate {message : OperatorSetUpdate} {signatureInfo : SignatureInfo}
    (presented : Presented registries honest state message signatureInfo) (faithful : state.Faithful registries random honest)
    (attested : Attested evm state.registry.operatorSet (message.hash evm.keccak256) signatureInfo) :
    IsUpdate registries random state.updates message := by
  -- a quorum has an honest member, and that one has signed
  obtain ⟨operators, expected, represents⟩ := faithful.copies
  have majority := presented.majority operators expected
  rw [← represents.weights, ← represents.consistent.totalWeight] at majority
  have heavier := Nat.lt_of_lt_of_le majority attested.quorum
  obtain ⟨pubkey, signer, isHonest⟩ := exists_mem_of_heavier Finset.sdiff_subset heavier
  obtain ⟨signed, member, digest⟩ := presented.unforged attested pubkey signer isHonest
  obtain ⟨_, rfl, encoded⟩ := eq_of_hash (presented.secure pubkey isHonest signed member) digest
  obtain ⟨update, isUpdate, rfl⟩ := faithful.signed pubkey isHonest _ member
  exact isUpdate.of_encoding encoded

theorem Replication.Faithful.append (faithful : state.Faithful registries random honest) {more : List (Uint 32)}
    (few : state.updates.operatorSetUpdateIdToBlockNumber.length + more.length < 2 ^ 64) :
    Replication.Faithful registries random honest
      { state with updates := ⟨state.updates.operatorSetUpdateIdToBlockNumber ++ more⟩ } := by
  refine ⟨by rw [List.length_append]; exact few, fun pubkey isHonest message member => ?_, faithful.copies.append more⟩
  obtain ⟨update, isUpdate, made⟩ := faithful.signed pubkey isHonest message member
  exact ⟨update, isUpdate.append more, made⟩

theorem Replication.Faithful.sign (faithful : state.Faithful registries random honest) {pubkey : G1Point}
    {signed : Core.Message} (told : pubkey ∈ honest → ∀ message, signed = .operatorSetUpdate message →
      ∃ update, IsUpdate registries random state.updates update ∧ message = .fromBinding update) :
    (state.sign pubkey signed).Faithful registries random honest := by
  refine ⟨faithful.few, fun other isHonest message member => ?_, faithful.copies⟩
  have member : .operatorSetUpdate message ∈ Function.update state.signed pubkey (signed :: state.signed pubkey) other :=
    member
  by_cases same : other = pubkey
  · subst same
    rw [Function.update_self] at member
    rcases List.mem_cons.mp member with rfl | earlier
    · exact told isHonest message rfl
    · exact faithful.signed other isHonest message earlier
  · rw [Function.update_of_ne same] at member
    exact faithful.signed other isHonest message member

theorem Replication.Faithful.settle (faithful : state.Faithful registries random honest) {call : Call Registry}
    (copies : ∀ registry, call = .ok registry → Copies registries state.updates registry) :
    (state.settle call).Faithful registries random honest :=
  ⟨faithful.few, faithful.signed, settle_preserves faithful.copies copies⟩

variable (reduced : ∀ pubkey, (evm.decode pubkey).isSome → pubkey.X.toNat < FP_MODULUS ∧ pubkey.Y.toNat < FP_MODULUS)
include reduced

theorem Replication.Faithful.execute (faithful : state.Faithful registries random honest) {sender : Address}
    {invocation : Invocation} (expected : Expected registries random honest state (.call sender (.invoke invocation)))
    {registry : Registry} (success : Rollup.execute evm state.registry sender invocation = .ok registry) :
    Copies registries state.updates registry := by
  cases invocation with
  | setInitialOperatorSet operators nextOperatorUpdateId =>
    exact absurd (setInitialOperatorSet_eq_ok.mp success).1 expected
  | updateOperatorSet message signatureInfo =>
    obtain ⟨id, next, updated⟩ := updateOperatorSet_eq_ok success
    have presented : Presented registries honest state message signatureInfo := expected
    obtain ⟨_, _, represents⟩ := faithful.copies
    have attested := updateOperatorSet_attested represents.consistent success
    exact faithful.copies.update reduced (presented.isUpdate faithful attested) id next updated
  | forceOperatorSetUpdate message =>
    obtain ⟨id, next, updated⟩ := forceOperatorSetUpdate_eq_ok success
    exact faithful.copies.update reduced (expected (forceOperatorSetUpdate_owner success)) id next updated
  | updateStateRoot message signatureInfo =>
    simp only [Rollup.execute, updateStateRoot, bind_eq_ok] at success
    obtain ⟨_, _, _, _, _, _, result⟩ := success
    cases result
    exact faithful.copies.of_tally rfl rfl
  | setQuorumThreshold newQuorumThreshold =>
    simp only [Rollup.execute, Registry.setQuorumThreshold, bind_eq_ok, setQuorumThreshold_eq_ok] at success
    obtain ⟨_, _, _, ⟨_, rfl⟩, result⟩ := success
    cases result
    exact faithful.copies.of_tally rfl rfl
  | _ =>
    obtain ⟨_, _, _, rfl⟩ := execute_administers rfl success
    exact faithful.copies.of_tally rfl rfl

theorem Replication.Faithful.executeCall (faithful : state.Faithful registries random honest) {sender : Address}
    {call : RegistryCall} (expected : Expected registries random honest state (.call sender call)) {registry : Registry}
    (success : Rollup.executeCall evm libraries state.registry sender call = .ok registry) :
    Copies registries state.updates registry := by
  cases call with
  | invoke invocation => exact faithful.execute reduced expected success
  | updateAndGetStorageValue message proofParams agreement behind =>
    obtain ⟨⟨_, value⟩, updated, result⟩ := bind_eq_ok.mp success
    cases result
    rcases updateAndGetStorageValue_cases updated with rfl | ⟨signatureInfo, read, pushed⟩
    · exact faithful.copies
    · simp only [updateStateRoot, bind_eq_ok] at pushed
      obtain ⟨_, _, _, _, _, _, result⟩ := pushed
      cases result
      exact faithful.copies.of_tally rfl rfl

theorem Replication.Faithful.step (faithful : state.Faithful registries random honest)
    (expected : Expected registries random honest state event)
    (step : ReplicationStep registries random libraries registryCoordinator state event after) :
    after.Faithful registries random honest := by
  cases step with
  | record recorded =>
    obtain ⟨more, rfl, one⟩ := recordOperatorSetUpdate_append recorded
    have room : state.updates.operatorSetUpdateIdToBlockNumber.length + 1 < 2 ^ 64 := expected
    exact faithful.append (by omega)
  | handleOperatorSetUpdate read visits =>
    refine faithful.sign fun _ message same => ?_
    cases same
    exact ⟨_, ⟨_, _, _, read, visits, rfl⟩, rfl⟩
  | sign => exact faithful.sign fun isHonest message same => absurd same (expected isHonest message)
  | initializeOperatorSet read =>
    exact faithful.settle fun registry success => faithful.copies.entered faithful.few read success
  | call => exact faithful.settle fun registry success => faithful.executeCall reduced expected success

theorem faithful_of_run (run : (replications registries random libraries registryCoordinator).GuardedRun
      (Expected registries random honest) history state) : state.Faithful registries random honest := by
  refine run.invariant (fun _ state => state.Faithful registries random honest) ?_ ?_
  · rintro state ⟨none, unsigned, quorumThreshold, initialOwner, aggregator, initial⟩
    obtain ⟨_, _, empty⟩ := initializeRegistry_eq_ok evm initial
    have first : state.registry.nextOperatorUpdateId = 0 := by
      simp only [initializeRegistry, bind_eq_ok] at initial
      obtain ⟨_, _, result⟩ := initial
      rw [← Except.ok.inj result]
    refine ⟨by rw [none]; decide, fun pubkey _ message member => ?_, [], ?_, empty⟩
    · rw [unsigned pubkey] at member
      cases member
    · rw [first]
      rfl
  · intro history state event after faithful expected one
    exact faithful.step reduced expected one

/-- The registry has the mainnet set of the last update that it has taken, and it takes the next one: whatever an operator
makes of that update is applied once it has the signature of a quorum. -/
theorem registry_copies_mainnet (run : (replications registries random libraries registryCoordinator).GuardedRun
      (Expected registries random honest) history state) :
    (∃ operators, getPreviousOperatorSet registries state.updates state.registry.nextOperatorUpdateId = .ok operators ∧
      Represents evm state.registry.operatorSet (listed (operators.map Operator.entry)) ∧
      state.registry.operatorSet.totalWeight.toNat = (operators.map fun operator => operator.weight.toNat).sum) ∧
    ∀ message signatureInfo, IsUpdate registries random state.updates message →
      message.id = state.registry.nextOperatorUpdateId →
      onlyWhenNotPaused state.registry PAUSED_UPDATE_OPERATOR_SET = .ok () →
      verifyCalldata evm state.registry.operatorSet (message.hash evm.keccak256) signatureInfo = .ok true →
      ∃ registry, updateOperatorSet evm state.registry message signatureInfo = .ok registry ∧
        Copies registries state.updates registry := by
  have faithful := faithful_of_run reduced run
  constructor
  · obtain ⟨operators, expected, represents⟩ := faithful.copies
    refine ⟨operators, expected, represents, ?_⟩
    rw [represents.consistent.totalWeight, represents.weights, (getPreviousOperatorSet_wellFormed expected).total_listed]
  · intro message signatureInfo isUpdate id running verified
    obtain ⟨operatorSet, updated⟩ := faithful.copies.takes reduced isUpdate id
    have small := isUpdate.lt
    have few := faithful.few
    have added : checkedAdd message.id 1 = .ok (message.id + 1) := checkedAdd_eq_ok.mpr (by bv_omega)
    have success : updateOperatorSet evm state.registry message signatureInfo =
        .ok { state.registry with operatorSet, nextOperatorUpdateId := message.id + 1 } := by
      simp only [updateOperatorSet, bind_eq_ok, require_eq_ok]
      refine ⟨(), running, (), id, true, verified, (), rfl, ?_⟩
      rw [applyUpdate, added, ok_bind, updated]
      rfl
    obtain ⟨_, next, _⟩ := updateOperatorSet_eq_ok success
    exact ⟨_, success, faithful.copies.update reduced isUpdate id next updated⟩

end Runs

/-! ### One honest operator of two

The other operator's stake rises from five to six, and the honest one signs the update.
-/

def stakeOfFirst (blockNumber : Uint 32) : Uint 96 := if blockNumber.toNat < 200 then 5 else 6

theorem openTwo_listed_once (_ : Uint 32) : [multipleHash 1, multipleHash (2 : Nat)].Nodup := by decide

theorem openTwo_registered (_ : Uint 32) : ∀ operatorId ∈ [multipleHash 1, multipleHash (2 : Nat)],
    let operator : Address := if operatorId = multipleHash 1 then 1 else 2
    let pubkey := if operator = 1 then generatorMultiple 1 else generatorMultiple (2 : Nat)
    openCurve.hashG1Point pubkey = operatorId ∧ (openCurve.decode pubkey).isSome := by
  simp only [List.mem_cons, List.not_mem_nil, or_false, forall_eq_or_imp, forall_eq]
  decide +kernel

theorem openTwo_totalStake (blockNumber : Uint 32) : (stakeOfFirst blockNumber + 7).toNat =
    ([multipleHash 1, multipleHash (2 : Nat)].map fun operatorId =>
      (if operatorId = multipleHash 1 then stakeOfFirst blockNumber else 7).toNat).sum := by
  have different : multipleHash (2 : Nat) ≠ multipleHash 1 := by decide
  simp only [List.map_cons, List.map_nil, List.sum_cons, List.sum_nil, if_neg different, if_true, stakeOfFirst]
  split <;> rfl

def openTwo : AvsRegistries openCurve where
  getOperatorListAtBlockNumber _ := [multipleHash 1, multipleHash (2 : Nat)]
  getOperatorFromPubkeyHash operatorId := if operatorId = multipleHash 1 then 1 else 2
  getRegisteredPubkey operator := if operator = 1 then generatorMultiple 1 else generatorMultiple (2 : Nat)
  getStakeAtBlockNumber operatorId blockNumber := if operatorId = multipleHash 1 then stakeOfFirst blockNumber else 7
  getTotalStakeAtBlockNumber blockNumber := stakeOfFirst blockNumber + 7
  listed_once := openTwo_listed_once
  registered := openTwo_registered
  totalStake := openTwo_totalStake

def firstSet : List Operator := [⟨generatorMultiple 1, 5⟩, ⟨honestKey, 7⟩]

def raisedSet : List Operator := [⟨generatorMultiple 1, 6⟩, ⟨honestKey, 7⟩]

def raise : OperatorSetUpdate := ⟨1, 77, [⟨generatorMultiple 1, 6⟩]⟩

theorem openTwo_read : getOperatorSetUpdate openTwo ⟨[100, 200]⟩ 1 = .ok (firstSet, raisedSet) := by decide +kernel

theorem openTwo_first : getOperatorSetById openTwo ⟨[100]⟩ 0 = .ok firstSet := by decide +kernel

theorem openTwo_visits : (operatorUpdates firstSet raisedSet).Visits (visitThree [1, 2]) := by
  refine visits_of_keys (by decide +kernel) fun key => ?_
  simp only [visitThree, firstSet, raisedSet, honestKey, List.map_cons, List.map_nil, List.cons_append, List.nil_append,
    List.mem_cons, List.not_mem_nil, or_false, Nat.cast_ofNat]
  tauto

theorem openTwo_message : operatorSetUpdateMessage 1 77 (getOperatorSetUpdateDelta (fun _ _ => 0) openCurve.keccak256
    firstSet raisedSet (visitThree [1, 2])) = raise := by
  decide +kernel

theorem openCurve_reduced (pubkey : G1Point) (valid : (openCurve.decode pubkey).isSome) :
    pubkey.X.toNat < FP_MODULUS ∧ pubkey.Y.toNat < FP_MODULUS := by
  have small : ∀ scalar : ZMod 7, (generatorMultiple scalar).X.toNat < FP_MODULUS ∧
      (generatorMultiple scalar).Y.toNat < FP_MODULUS := by decide
  obtain ⟨scalar, found⟩ := Option.isSome_iff_exists.mp valid
  obtain rfl := multiple_of_smallDecode found
  exact small scalar

theorem raise_secure :
    ∀ first ∈ (Core.Message.operatorSetUpdate (.fromBinding raise)).hashedInputs openCurve.keccak256 ++
      hashedStrings openCurve.keccak256 raise,
    ∀ second ∈ (Core.Message.operatorSetUpdate (.fromBinding raise)).hashedInputs openCurve.keccak256 ++
      hashedStrings openCurve.keccak256 raise,
      openCurve.keccak256 first = openCurve.keccak256 second → first = second := by
  decide +kernel

def raising : Replication :=
  Replication.sign ⟨⟨[100, 200]⟩, fun _ => [], openTwoOperators⟩ honestKey (.operatorSetUpdate (.fromBinding raise))

abbrev Raises (history : List ReplicationEvent) (state : Replication) : Prop :=
  (replications openTwo (fun _ _ => 0) plainLibraries 0).GuardedRun (Expected openTwo (fun _ _ => 0) {honestKey})
    history state

theorem Raises.next {history : List ReplicationEvent} {state after : Replication} (run : Raises history state)
    (event : ReplicationEvent) (expected : Expected openTwo (fun _ _ => 0) {honestKey} state event)
    (step : ReplicationStep openTwo (fun _ _ => 0) plainLibraries 0 state event after) : Raises (history ++ [event]) after :=
  System.GuardedRun.next run expected step

theorem raising_run : ∃ history, Raises history raising := by
  have start : Raises [] ⟨⟨[]⟩, fun _ => [], freshRegistry⟩ := .start ⟨rfl, fun _ => rfl, 66, 1, 2, rfl⟩
  have recorded : recordOperatorSetUpdate 0 ⟨[]⟩ 0 100 = .ok ⟨[100]⟩ := rfl
  have first := start.next (.record 0 100) (by decide : 0 + 1 < 2 ^ 64) (.record recorded)
  have entered := first.next (.initializeOperatorSet 0) trivial (.initializeOperatorSet openTwo_first)
  have recordedAgain : recordOperatorSetUpdate 0 ⟨[100]⟩ 0 200 = .ok ⟨[100, 200]⟩ := rfl
  have second := entered.next (.record 0 200) (by decide : 1 + 1 < 2 ^ 64) (.record recordedAgain)
  have signed := second.next (.handleOperatorSetUpdate honestKey 1 77) trivial
    (.handleOperatorSetUpdate openTwo_read openTwo_visits)
  rw [openTwo_message] at signed
  exact ⟨_, signed⟩

theorem raising_isUpdate : IsUpdate openTwo (fun _ _ => 0) raising.updates raise :=
  ⟨firstSet, raisedSet, visitThree [1, 2], openTwo_read, openTwo_visits, openTwo_message.symm⟩

theorem raising_signed : raising.signed honestKey = [.operatorSetUpdate (.fromBinding raise)] := by
  simp only [raising, Replication.sign, Function.update_self]

theorem raising_presented : Presented openTwo {honestKey} raising raise everybodySigned := by
  refine ⟨?_, ?_, ?_⟩
  · intro operators read
    have known : getPreviousOperatorSet openTwo raising.updates raising.registry.nextOperatorUpdateId = .ok firstSet := by
      decide +kernel
    obtain rfl := Except.ok.inj (known.symm.trans read)
    have weight : listed (firstSet.map Operator.entry) honestKey = 7 := by decide +kernel
    have member : {honestKey} ⊆ members (listed (firstSet.map Operator.entry)) := by
      rw [Finset.singleton_subset_iff, mem_members, weight]
      decide
    have split := total_sdiff member
    have twelve : total (listed (firstSet.map Operator.entry)) = 12 := total_listed (by decide)
    have threshold : raising.registry.operatorSet.quorumThreshold.toNat = 66 := by decide +kernel
    rw [Finset.sum_singleton, weight, twelve] at split
    rw [twelve, threshold]
    show _ < 12 * 66 / 100
    omega
  · intro _ pubkey _ isHonest
    rw [Finset.mem_singleton.mp isHonest, raising_signed]
    exact ⟨_, List.mem_singleton_self _, (Core.digest_eq_hash openCurve.keccak256).2.2 raise raising_isUpdate.reduced⟩
  · intro pubkey isHonest signed member
    rw [Finset.mem_singleton.mp isHonest, raising_signed] at member
    rw [List.mem_singleton.mp member]
    exact fun first inFirst second inSecond => raise_secure first inFirst second inSecond

theorem registry_copies_mainnet_raised : ∃ (history : List ReplicationEvent) (state : Replication),
    Raises history state ∧ state.registry.nextOperatorUpdateId = 2 ∧
    state.registry.operatorSet.totalWeight.toNat = 13 := by
  obtain ⟨history, run⟩ := raising_run
  have running : onlyWhenNotPaused raising.registry PAUSED_UPDATE_OPERATOR_SET = .ok () := by decide +kernel
  have verified : verifyCalldata openCurve raising.registry.operatorSet (raise.hash openCurve.keccak256) everybodySigned =
      .ok true := by decide +kernel
  obtain ⟨registry, success, _⟩ :=
    (registry_copies_mainnet openCurve_reduced run).2 raise everybodySigned raising_isUpdate rfl running verified
  have later := Raises.next run (.call 9 (.invoke (.updateOperatorSet raise everybodySigned))) raising_presented .call
  have executed : executeCall openCurve plainLibraries raising.registry 9
      (.invoke (.updateOperatorSet raise everybodySigned)) = .ok registry := success
  rw [executed] at later
  have next : registry.nextOperatorUpdateId = 2 := BitVec.eq_of_toNat_eq (updateOperatorSet_eq_ok success).2.1
  obtain ⟨operators, read, _, total⟩ := (registry_copies_mainnet openCurve_reduced later).1
  have known : getPreviousOperatorSet openTwo raising.updates 2 = .ok raisedSet := by decide +kernel
  have read : getPreviousOperatorSet openTwo raising.updates registry.nextOperatorUpdateId = .ok operators := read
  rw [next, known] at read
  obtain rfl := Except.ok.inj read
  exact ⟨_, _, later, next, total⟩

end Sffl.Protocol
