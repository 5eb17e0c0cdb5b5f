import Sffl.Eth.OperatorSetUpdateRegistry
import Sffl.Eth.RegistryCoordinator
import Sffl.Semantics.Timeline

/-! SFFL's registry coordinator and the operator sets over the blocks of a chain.

Every entry point that can reach an operator registers an update before it does
anything else, and updates of one block share their id. So the recorded blocks
log every change of the operator set.
-/

set_option autoImplicit false

namespace Sffl.Eth

open Sffl.Evm Sffl.Semantics

/-! ## The coordinator -/

structure SFFLRegistryCoordinator (World : Type) where
  deployment : Deployment World
  operatorSetUpdateRegistry : OperatorSetUpdateRegistry

inductive CoordinatorInvocation (Action : Type) where
  | registerOperator (quorumNumbers : Bytes) (params : PubkeyRegistrationParams)
      (operatorSignature : SignatureWithSaltAndExpiry)
  | registerOperatorWithChurn (quorumNumbers : Bytes) (params : PubkeyRegistrationParams)
      (operatorKickParams : List OperatorKickParam)
      (churnApproverSignature operatorSignature : SignatureWithSaltAndExpiry)
  | deregisterOperator (quorumNumbers : Bytes)
  | updateOperators (operators : List Address)
  | updateOperatorsForQuorum (operatorsPerQuorum : List (List Address)) (quorumNumbers : Bytes)
  | ejectOperator (operator : Address) (quorumNumbers : Bytes)
  | updateSocket
  | createQuorum (operatorSetParams : OperatorSetParam) (minimumStake : Uint 96)
      (strategyParams : List StrategyParams)
  | setOperatorSetParams (quorumNumber : Uint 8) (operatorSetParams : OperatorSetParam)
  | setChurnApprover (churnApprover : Address)
  | setEjector (ejector : Address)
  | transferOwnership (newOwner : Address)
  | renounceOwnership
  | setPaused (paused : Uint 256)
  | initializeCoordinator (initialOwner churnApprover ejector : Address) (initialPausedStatus : Uint 256)
      (operatorSetParams : List OperatorSetParam) (minimumStakes : List (Uint 96))
      (strategyParams : List (List StrategyParams))
  /-- A call of the update registry itself. -/
  | recordOperatorSetUpdate
  /-- A transaction that calls neither contract. -/
  | act (action : Action)

namespace SFFLRegistryCoordinator
variable {World Action : Type} (contracts : ExternalContracts World Action) (address : Address)
  (context : TransactionContext)

/-- An overridden entry point records an update and then calls the inherited one. -/
def recordFirst (call : Transition (Deployment World) Unit) (state : SFFLRegistryCoordinator World) :
    Call (SFFLRegistryCoordinator World) := do
  let operatorSetUpdateRegistry ←
    recordOperatorSetUpdate address state.operatorSetUpdateRegistry address context.blockNumber
  let ((), deployment) ← call state.deployment
  return ⟨deployment, operatorSetUpdateRegistry⟩

def inherited (call : Transition (Deployment World) Unit) (state : SFFLRegistryCoordinator World) :
    Call (SFFLRegistryCoordinator World) := do
  let ((), deployment) ← call state.deployment
  return { state with deployment }

def registerOperator (quorumNumbers : Bytes) (params : PubkeyRegistrationParams)
    (operatorSignature : SignatureWithSaltAndExpiry) :
    SFFLRegistryCoordinator World → Call (SFFLRegistryCoordinator World) :=
  recordFirst address context (RegistryCoordinator.registerOperator contracts context quorumNumbers params operatorSignature)

def registerOperatorWithChurn (quorumNumbers : Bytes) (params : PubkeyRegistrationParams)
    (operatorKickParams : List OperatorKickParam)
    (churnApproverSignature operatorSignature : SignatureWithSaltAndExpiry) :
    SFFLRegistryCoordinator World → Call (SFFLRegistryCoordinator World) :=
  recordFirst address context (RegistryCoordinator.registerOperatorWithChurn contracts context quorumNumbers params
    operatorKickParams churnApproverSignature operatorSignature)

def deregisterOperator (quorumNumbers : Bytes) :
    SFFLRegistryCoordinator World → Call (SFFLRegistryCoordinator World) :=
  recordFirst address context (RegistryCoordinator.deregisterOperator contracts context quorumNumbers)

def updateOperators (operators : List Address) :
    SFFLRegistryCoordinator World → Call (SFFLRegistryCoordinator World) :=
  recordFirst address context (RegistryCoordinator.updateOperators contracts context operators)

def updateOperatorsForQuorum (operatorsPerQuorum : List (List Address)) (quorumNumbers : Bytes) :
    SFFLRegistryCoordinator World → Call (SFFLRegistryCoordinator World) :=
  recordFirst address context
    (RegistryCoordinator.updateOperatorsForQuorum contracts context operatorsPerQuorum quorumNumbers)

def ejectOperator (operator : Address) (quorumNumbers : Bytes) :
    SFFLRegistryCoordinator World → Call (SFFLRegistryCoordinator World) :=
  recordFirst address context (RegistryCoordinator.ejectOperator contracts context operator quorumNumbers)

open RegistryCoordinator in
def execute : CoordinatorInvocation Action →
    SFFLRegistryCoordinator World → Call (SFFLRegistryCoordinator World)
  | .registerOperator quorumNumbers params operatorSignature =>
      registerOperator contracts address context quorumNumbers params operatorSignature
  | .registerOperatorWithChurn quorumNumbers params operatorKickParams churnApproverSignature operatorSignature =>
      registerOperatorWithChurn contracts address context quorumNumbers params operatorKickParams
        churnApproverSignature operatorSignature
  | .deregisterOperator quorumNumbers => deregisterOperator contracts address context quorumNumbers
  | .updateOperators operators => updateOperators contracts address context operators
  | .updateOperatorsForQuorum operatorsPerQuorum quorumNumbers =>
      updateOperatorsForQuorum contracts address context operatorsPerQuorum quorumNumbers
  | .ejectOperator operator quorumNumbers => ejectOperator contracts address context operator quorumNumbers
  | .updateSocket => inherited (updateSocket context)
  | .createQuorum operatorSetParams minimumStake strategyParams =>
      inherited (createQuorum contracts context operatorSetParams minimumStake strategyParams)
  | .setOperatorSetParams quorumNumber operatorSetParams =>
      inherited (setOperatorSetParams context quorumNumber operatorSetParams)
  | .setChurnApprover churnApprover => inherited (setChurnApprover context churnApprover)
  | .setEjector ejector => inherited (setEjector context ejector)
  | .transferOwnership newOwner => inherited (transferOwnership context newOwner)
  | .renounceOwnership => inherited (renounceOwnership context)
  | .setPaused paused => inherited (setPaused paused)
  | .initializeCoordinator initialOwner churnApprover ejector initialPausedStatus operatorSetParams minimumStakes
      strategyParams =>
      inherited (initializeCoordinator contracts initialOwner churnApprover ejector initialPausedStatus
        operatorSetParams minimumStakes strategyParams)
  | .recordOperatorSetUpdate => fun state => do
      let operatorSetUpdateRegistry ←
        recordOperatorSetUpdate address state.operatorSetUpdateRegistry context.sender context.blockNumber
      return { state with operatorSetUpdateRegistry }
  | .act action => fun state =>
      .ok { state with deployment.world := contracts.act action state.deployment.world }

end SFFLRegistryCoordinator

structure Block (Action : Type) where
  number : Uint 256
  timestamp : Uint 256
  transactions : List (Address × CoordinatorInvocation Action)

/-- Before the first block: no storage is written, and the registries are as they were deployed. -/
def deployed {World : Type} (world : World) : SFFLRegistryCoordinator World := ⟨⟨RegistryCoordinator.zero, world⟩, ⟨[]⟩⟩

section Chain
variable {World Action : Type} (contracts : ExternalContracts World Action) (address : Address)

def runTransaction (block : Block Action) (state : SFFLRegistryCoordinator World)
    (transaction : Address × CoordinatorInvocation Action) : SFFLRegistryCoordinator World :=
  settle state (state.execute contracts address ⟨transaction.1, block.number, block.timestamp⟩ transaction.2)

def runBlock (state : SFFLRegistryCoordinator World) (block : Block Action) : SFFLRegistryCoordinator World :=
  block.transactions.foldl (runTransaction contracts address block) state

def runBlocks (state : SFFLRegistryCoordinator World) (blocks : List (Block Action)) : SFFLRegistryCoordinator World :=
  blocks.foldl (runBlock contracts address) state

/-- The state at the end of a block, whether or not the block has a transaction here. -/
def stateAt (state : SFFLRegistryCoordinator World) (blocks : List (Block Action)) (number : Nat) :
    SFFLRegistryCoordinator World :=
  runBlocks contracts address state (blocks.filter fun block => block.number.toNat ≤ number)

def operatorSetAt (state : SFFLRegistryCoordinator World) (blocks : List (Block Action)) (number : Nat) :
    List (Bytes32 × Uint 96) :=
  contracts.operatorSet (stateAt contracts address state blocks number).deployment.world

end Chain

/-! ## Entry points that record nothing -/

section Quiet
variable {World Action A : Type} (contracts : ExternalContracts World Action)

def currentOperatorSet (state : Deployment World) : List (Bytes32 × Uint 96) := contracts.operatorSet state.world

variable {contracts} {context : TransactionContext}

open RegistryCoordinator

theorem modifyStorage_keeps (change : RegistryCoordinator → RegistryCoordinator) :
    Keeps (currentOperatorSet contracts) (modifyStorage change) :=
  .modify fun _ => rfl

theorem external_keeps {operation : Transition World A} (keeps : Keeps contracts.operatorSet operation) :
    Keeps (currentOperatorSet contracts) (external operation) := by
  intro state result after success
  obtain ⟨⟨value, world⟩, one, rest⟩ := bind_eq_ok.mp success
  cases rest
  exact keeps state.world result world one

theorem onlyOwner_keeps : Keeps (currentOperatorSet contracts) (onlyOwner context) := .bind .get fun _ => .lift _

theorem createQuorumInternal_keeps (operatorSetParams : OperatorSetParam) (minimumStake : Uint 96)
    (strategyParams : List StrategyParams) :
    Keeps (currentOperatorSet contracts)
      (createQuorumInternal contracts operatorSetParams minimumStake strategyParams) := by
  refine .bind .get fun _ => .bind (.lift _) fun _ => .bind (modifyStorage_keeps _) fun _ => ?_
  refine .bind (external_keeps ?_) fun _ => .bind (external_keeps ?_) fun _ => external_keeps ?_
  · exact fun _ _ _ => contracts.initializeStakes_operatorSet
  · exact fun _ _ _ => contracts.initializeIndex_operatorSet
  · exact fun _ _ _ => contracts.initializeKeys_operatorSet

theorem ownerWrite_keeps (change : RegistryCoordinator → RegistryCoordinator) :
    Keeps (currentOperatorSet contracts) (do onlyOwner context; modifyStorage change) :=
  .bind onlyOwner_keeps fun _ => modifyStorage_keeps change

theorem initializeCoordinator_keeps (initialOwner churnApprover ejector : Address) (initialPausedStatus : Uint 256)
    (operatorSetParams : List OperatorSetParam) (minimumStakes : List (Uint 96))
    (strategyParams : List (List StrategyParams)) :
    Keeps (currentOperatorSet contracts) (initializeCoordinator contracts initialOwner churnApprover ejector
      initialPausedStatus operatorSetParams minimumStakes strategyParams) := by
  refine .bind .get fun _ => .bind (.lift _) fun _ => .bind (.lift _) fun _ => .bind (modifyStorage_keeps _) fun _ => ?_
  refine .bind (.forIn (fun quorum _ => ?_) _) fun _ => .pure _
  exact .bind (createQuorumInternal_keeps _ _ _) fun _ => .pure _

end Quiet

/-! ## One transaction -/

section Steps
variable {World Action : Type} {contracts : ExternalContracts World Action} {address : Address}
  {context : TransactionContext} {state after : SFFLRegistryCoordinator World}

/-- The operator set stays, or the block of the transaction is the last one recorded. -/
inductive SetChange (contracts : ExternalContracts World Action) (blockNumber : Uint 256)
    (state after : SFFLRegistryCoordinator World) : Prop where
  | kept (records : after.operatorSetUpdateRegistry = state.operatorSetUpdateRegistry)
      (operatorSet : currentOperatorSet contracts after.deployment = currentOperatorSet contracts state.deployment)
  | recorded (sender registryCoordinator : Address)
      (record : recordOperatorSetUpdate registryCoordinator state.operatorSetUpdateRegistry sender blockNumber =
        .ok after.operatorSetUpdateRegistry)

namespace SFFLRegistryCoordinator

theorem recordFirst_change {call : Transition (Deployment World) Unit}
    (success : recordFirst address context call state = .ok after) :
    SetChange contracts context.blockNumber state after := by
  obtain ⟨registry, record, rest⟩ := bind_eq_ok.mp success
  obtain ⟨⟨_, deployment⟩, _, result⟩ := bind_eq_ok.mp rest
  cases result
  exact .recorded address address record

theorem inherited_change {call : Transition (Deployment World) Unit}
    (keeps : Keeps (currentOperatorSet contracts) call) (success : inherited call state = .ok after) :
    SetChange contracts context.blockNumber state after := by
  obtain ⟨⟨_, deployment⟩, called, result⟩ := bind_eq_ok.mp success
  cases result
  exact .kept rfl (keeps state.deployment _ deployment called)

theorem execute_change {invocation : CoordinatorInvocation Action}
    (success : state.execute contracts address context invocation = .ok after) :
    SetChange contracts context.blockNumber state after := by
  cases invocation with
  | registerOperator => exact recordFirst_change success
  | registerOperatorWithChurn => exact recordFirst_change success
  | deregisterOperator => exact recordFirst_change success
  | updateOperators => exact recordFirst_change success
  | updateOperatorsForQuorum => exact recordFirst_change success
  | ejectOperator => exact recordFirst_change success
  | updateSocket => exact inherited_change (.bind .get fun _ => .lift _) success
  | createQuorum => exact inherited_change (.bind onlyOwner_keeps fun _ => createQuorumInternal_keeps _ _ _) success
  | setOperatorSetParams =>
    exact inherited_change (.bind onlyOwner_keeps fun _ => .bind .get fun _ => .bind (.lift _) fun _ =>
      modifyStorage_keeps _) success
  | setChurnApprover => exact inherited_change (ownerWrite_keeps _) success
  | setEjector => exact inherited_change (ownerWrite_keeps _) success
  | transferOwnership =>
    exact inherited_change (.bind onlyOwner_keeps fun _ => .bind (.lift _) fun _ => modifyStorage_keeps _) success
  | renounceOwnership => exact inherited_change (ownerWrite_keeps _) success
  | setPaused => exact inherited_change (modifyStorage_keeps _) success
  | initializeCoordinator => exact inherited_change (initializeCoordinator_keeps _ _ _ _ _ _ _) success
  | recordOperatorSetUpdate =>
    obtain ⟨registry, record, result⟩ := bind_eq_ok.mp success
    cases result
    exact .recorded context.sender address record
  | act action =>
    cases success
    exact .kept rfl (contracts.act_operatorSet action state.deployment.world)

end SFFLRegistryCoordinator

end Steps

/-! ## One block -/

theorem length_le_of_increasing {numbers : List Nat} {bound : Nat} (increasing : numbers.Pairwise (· < ·))
    (small : ∀ number ∈ numbers, number < bound) : numbers.length ≤ bound := by
  have distinct : numbers.Nodup := increasing.imp Nat.ne_of_lt
  have inside : numbers ⊆ List.range bound := fun number member => List.mem_range.mpr (small number member)
  simpa using (distinct.subperm inside).length_le

def recordedBlocks {World : Type} (state : SFFLRegistryCoordinator World) : List Nat :=
  state.operatorSetUpdateRegistry.operatorSetUpdateIdToBlockNumber.map BitVec.toNat

section Blocks
variable {World Action : Type} {contracts : ExternalContracts World Action} {address : Address}
  {state now : SFFLRegistryCoordinator World}

theorem mem_recordedBlocks_small {number : Nat} (member : number ∈ recordedBlocks state) : number < 2 ^ 32 := by
  obtain ⟨recorded, _, rfl⟩ := List.mem_map.mp member
  exact recorded.isLt

theorem few_records (increasing : (recordedBlocks state).Pairwise (· < ·)) :
    state.operatorSetUpdateRegistry.operatorSetUpdateIdToBlockNumber.length < 2 ^ 64 := by
  have few := length_le_of_increasing increasing fun _ => mem_recordedBlocks_small
  rw [recordedBlocks, List.length_map] at few
  exact Nat.lt_of_le_of_lt few (by decide)

/-- Since the start of a block, nothing happened to the operator set, or the block is recorded. -/
def SinceStart (contracts : ExternalContracts World Action) (state : SFFLRegistryCoordinator World) (number : Nat)
    (now : SFFLRegistryCoordinator World) : Prop :=
  recordedBlocks now = recordedBlocks state ∧
      currentOperatorSet contracts now.deployment = currentOperatorSet contracts state.deployment ∨
    recordedBlocks now = recordedBlocks state ++ [number]

theorem SinceStart.increasing {number : Nat} (since : SinceStart contracts state number now)
    (increasing : (recordedBlocks state).Pairwise (· < ·)) (earlier : ∀ recorded ∈ recordedBlocks state, recorded < number) :
    (recordedBlocks now).Pairwise (· < ·) := by
  rcases since with ⟨same, _⟩ | added
  · rw [same]
    exact increasing
  · rw [added, List.pairwise_append]
    refine ⟨increasing, List.pairwise_singleton _ _, fun recorded member last same => ?_⟩
    rw [List.mem_singleton.mp same]
    exact earlier recorded member

theorem recordedBlocks_getLast? (state : SFFLRegistryCoordinator World) {blockNumber : Uint 256}
    (small : blockNumber.toNat < 2 ^ 32) :
    state.operatorSetUpdateRegistry.operatorSetUpdateIdToBlockNumber.getLast? = some (blockNumber.setWidth 32) ↔
      (recordedBlocks state).getLast? = some blockNumber.toNat := by
  rw [recordedBlocks, List.getLast?_map, Option.map_eq_some_iff]
  constructor
  · intro last
    exact ⟨_, last, by rw [BitVec.toNat_setWidth, Nat.mod_eq_of_lt small]⟩
  · rintro ⟨recorded, last, same⟩
    rw [last]
    congr 1
    apply BitVec.eq_of_toNat_eq
    rw [same, BitVec.toNat_setWidth, Nat.mod_eq_of_lt small]

theorem SinceStart.record {blockNumber : Uint 256} {after : SFFLRegistryCoordinator World} {sender : Address}
    (since : SinceStart contracts state blockNumber.toNat now) (small : blockNumber.toNat < 2 ^ 32)
    (increasing : (recordedBlocks state).Pairwise (· < ·))
    (earlier : ∀ recorded ∈ recordedBlocks state, recorded < blockNumber.toNat)
    (record : recordOperatorSetUpdate address now.operatorSetUpdateRegistry sender blockNumber =
      .ok after.operatorSetUpdateRegistry) :
    recordedBlocks after = recordedBlocks state ++ [blockNumber.toNat] := by
  have few := few_records (since.increasing increasing earlier)
  have records := congrArg (List.map BitVec.toNat) (recordOperatorSetUpdate_ok small few record)
  rw [apply_ite (List.map BitVec.toNat), List.map_append, List.map_singleton, BitVec.toNat_setWidth,
    Nat.mod_eq_of_lt small] at records
  simp only [recordedBlocks_getLast? now small] at records
  change recordedBlocks after = if (recordedBlocks now).getLast? = some blockNumber.toNat then recordedBlocks now
    else recordedBlocks now ++ [blockNumber.toNat] at records
  rcases since with ⟨same, _⟩ | added
  · rw [same] at records
    rw [records, if_neg fun last => Nat.lt_irrefl _ (earlier _ (List.mem_of_getLast? last))]
  · rw [added, List.getLast?_concat, if_pos rfl] at records
    exact records

theorem SinceStart.step {block : Block Action} (since : SinceStart contracts state block.number.toNat now)
    (small : block.number.toNat < 2 ^ 32) (increasing : (recordedBlocks state).Pairwise (· < ·))
    (earlier : ∀ recorded ∈ recordedBlocks state, recorded < block.number.toNat)
    (transaction : Address × CoordinatorInvocation Action) :
    SinceStart contracts state block.number.toNat (runTransaction contracts address block now transaction) := by
  refine settle_preserves since fun after success => ?_
  cases SFFLRegistryCoordinator.execute_change success with
  | kept records operatorSet =>
    have same : recordedBlocks after = recordedBlocks now := by rw [recordedBlocks, records]; rfl
    rcases since with ⟨unrecorded, unchanged⟩ | added
    · exact Or.inl ⟨same.trans unrecorded, operatorSet.trans unchanged⟩
    · exact Or.inr (same.trans added)
  | recorded sender registryCoordinator record => exact Or.inr (since.record small increasing earlier record)

variable (contracts address) in
theorem runBlock_sinceStart {block : Block Action} (small : block.number.toNat < 2 ^ 32)
    (increasing : (recordedBlocks state).Pairwise (· < ·))
    (earlier : ∀ recorded ∈ recordedBlocks state, recorded < block.number.toNat) :
    SinceStart contracts state block.number.toNat (runBlock contracts address state block) := by
  refine List.foldlRecOn block.transactions _ (Or.inl ⟨rfl, rfl⟩) fun now since transaction _ => ?_
  exact since.step small increasing earlier transaction

/-! ## A chain of blocks -/

variable (contracts address) in
theorem operatorSetAt_of_reached (world : World) {blocks : List (Block Action)} {number : Nat}
    (reached : ∀ block ∈ blocks, block.number.toNat ≤ number) :
    operatorSetAt contracts address (deployed world) blocks number =
      currentOperatorSet contracts (runBlocks contracts address (deployed world) blocks).deployment := by
  have all : blocks.filter (fun block => decide (block.number.toNat ≤ number)) = blocks :=
    List.filter_eq_self.mpr fun block member => decide_eq_true (reached block member)
  rw [operatorSetAt, stateAt, all]
  rfl

variable (contracts address) in
theorem operatorSetAt_concat (world : World) {blocks : List (Block Action)} {block : Block Action}
    (later : ∀ earlier ∈ blocks, earlier.number.toNat < block.number.toNat) (number : Nat) :
    operatorSetAt contracts address (deployed world) (blocks ++ [block]) number =
      if number < block.number.toNat then operatorSetAt contracts address (deployed world) blocks number
      else currentOperatorSet contracts
        (runBlocks contracts address (deployed world) (blocks ++ [block])).deployment := by
  split
  next before =>
    unfold operatorSetAt stateAt
    rw [List.filter_append, List.filter_cons_of_neg (by simpa using before), List.filter_nil, List.append_nil]
  next reached =>
    have reached := Nat.le_of_not_lt reached
    apply operatorSetAt_of_reached
    intro earlier member
    rcases List.mem_append.mp member with old | new
    · exact Nat.le_trans (Nat.le_of_lt (later earlier old)) reached
    · rw [List.mem_singleton.mp new]
      exact reached

variable (contracts address) in
/-- The recorded blocks log every change of the operator set. -/
theorem operatorSets_logged {world : World} (empty : contracts.operatorSet world = []) {blocks : List (Block Action)}
    (ordered : blocks.Pairwise fun earlier later => earlier.number.toNat < later.number.toNat)
    (small : ∀ block ∈ blocks, block.number.toNat < 2 ^ 32) :
    Logged [] (operatorSetAt contracts address (deployed world) blocks)
        (recordedBlocks (runBlocks contracts address (deployed world) blocks)) ∧
      ∀ number ∈ recordedBlocks (runBlocks contracts address (deployed world) blocks),
        ∃ block ∈ blocks, block.number.toNat = number := by
  induction blocks using List.reverseRecOn with
  | nil =>
    refine ⟨⟨List.Pairwise.nil, fun _ => empty, fun _ _ => rfl⟩, ?_⟩
    intro number member
    cases member
  | append_singleton blocks block ih =>
    obtain ⟨orderedBefore, _, before⟩ := List.pairwise_append.mp ordered
    have later : ∀ earlier ∈ blocks, earlier.number.toNat < block.number.toNat :=
      fun earlier member => before earlier member block (List.mem_singleton_self _)
    obtain ⟨logged, known⟩ := ih orderedBefore fun earlier member => small earlier (List.mem_append_left _ member)
    have earlier : ∀ recorded ∈ recordedBlocks (runBlocks contracts address (deployed world) blocks),
        recorded < block.number.toNat := by
      intro recorded member
      obtain ⟨other, listed, rfl⟩ := known recorded member
      exact later other listed
    have last : runBlocks contracts address (deployed world) (blocks ++ [block]) =
        runBlock contracts address (runBlocks contracts address (deployed world) blocks) block := List.foldl_concat ..
    have since := runBlock_sinceStart contracts address
      (small block (List.mem_append_right _ (List.mem_singleton_self _))) logged.increasing earlier
    have sets := operatorSetAt_concat contracts address world later
    rw [← last] at since
    rcases since with ⟨unrecorded, unchanged⟩ | added
    · -- the new block changes nothing, at its own time or later
      have same : operatorSetAt contracts address (deployed world) (blocks ++ [block]) =
          operatorSetAt contracts address (deployed world) blocks := by
        funext number
        rw [sets number]
        split
        · rfl
        next reached =>
          rw [unchanged, operatorSetAt_of_reached]
          intro other listed
          exact Nat.le_trans (Nat.le_of_lt (later other listed)) (Nat.le_of_not_lt reached)
      rw [same, unrecorded]
      refine ⟨logged, fun number member => ?_⟩
      obtain ⟨other, listed, numbered⟩ := known number member
      exact ⟨other, List.mem_append_left _ listed, numbered⟩
    · rw [funext sets, added]
      refine ⟨logged.record earlier _, ?_⟩
      intro number member
      rcases List.mem_append.mp member with old | new
      · obtain ⟨other, listed, same⟩ := known number old
        exact ⟨other, List.mem_append_left _ listed, same⟩
      · rw [List.mem_singleton.mp new]
        exact ⟨block, List.mem_append_right _ (List.mem_singleton_self _), rfl⟩

/-- Over every chain of blocks: the recorded blocks increase, the operator set stays from each of them to the next and
after the last one, and it is empty before the first. In particular the set just before an update is that of the
update before. -/
theorem updates_follow_operator_sets {world : World} (empty : contracts.operatorSet world = [])
    {blocks : List (Block Action)}
    (ordered : blocks.Pairwise fun earlier later => earlier.number.toNat < later.number.toNat)
    (small : ∀ block ∈ blocks, block.number.toNat < 2 ^ 32) :
    let updates := (runBlocks contracts address (deployed world) blocks).operatorSetUpdateRegistry
      |>.operatorSetUpdateIdToBlockNumber
    let operatorSet := operatorSetAt contracts address (deployed world) blocks
    updates.Pairwise (· < ·) ∧
    (∀ id block number, updates[id]? = some block → block.toNat ≤ number →
      (∀ next, updates[id + 1]? = some next → number < next.toNat) → operatorSet number = operatorSet block.toNat) ∧
    (∀ number, (∀ first, updates[0]? = some first → number < first.toNat) → operatorSet number = []) ∧
    ∀ id block next, updates[id]? = some block → updates[id + 1]? = some next →
      operatorSet (next.toNat - 1) = operatorSet block.toNat := by
  intro updates operatorSet
  have logged : Logged [] operatorSet (updates.map BitVec.toNat) :=
    (operatorSets_logged contracts address empty ordered small).1
  have at_id : ∀ {id : Nat} {block : Uint 32}, updates[id]? = some block →
      (updates.map BitVec.toNat)[id]? = some block.toNat :=
    fun found => by rw [List.getElem?_map, found]; rfl
  have of_id : ∀ {id number : Nat}, (updates.map BitVec.toNat)[id]? = some number →
      ∃ block, updates[id]? = some block ∧ block.toNat = number :=
    fun found => Option.map_eq_some_iff.mp (List.getElem?_map .. ▸ found)
  refine ⟨(List.pairwise_map.mp logged.increasing).imp BitVec.lt_def.mpr, ?_, ?_, ?_⟩
  · intro id block number found reached before
    refine logged.between (at_id found) reached fun next followed => ?_
    obtain ⟨nextBlock, foundNext, rfl⟩ := of_id followed
    exact before nextBlock foundNext
  · intro number before
    refine logged.before_first fun first started => ?_
    obtain ⟨block, found, rfl⟩ := of_id started
    exact before block found
  · intro id block next found foundNext
    exact logged.before_next (at_id found) (at_id foundNext)

end Blocks

/-! ### The sets that are read back -/

section ReadBack
variable {G World Action : Type} [AddCommGroup G] {evm : Precompiles G} {registries : AvsRegistries evm}
  {contracts : ExternalContracts World Action} {address : Address}

def ReadsBack (registries : AvsRegistries evm) (operatorSet : Nat → List (Bytes32 × Uint 96)) : Prop :=
  ∀ blockNumber : Uint 32, (registries.getOperatorListAtBlockNumber blockNumber).map
    (fun operatorId => (operatorId, registries.getStakeAtBlockNumber operatorId blockNumber)) =
      operatorSet blockNumber.toNat

theorem ReadsBack.getOperatorSetAtBlock_eq {operatorSet : Nat → List (Bytes32 × Uint 96)}
    (reads : ReadsBack registries operatorSet) (blockNumber : Uint 32) :
    getOperatorSetAtBlock registries blockNumber = (operatorSet blockNumber.toNat).map fun entry =>
      ⟨registries.getRegisteredPubkey (registries.getOperatorFromPubkeyHash entry.1), entry.2.setWidth 128⟩ := by
  rw [← reads blockNumber, List.map_map]
  rfl

/-- The set one block before an update, with which the update is aggregated, is the set that the update replaces. -/
theorem getOperatorSetUpdate_previous {world : World} (empty : contracts.operatorSet world = [])
    {blocks : List (Block Action)}
    (ordered : blocks.Pairwise fun earlier later => earlier.number.toNat < later.number.toNat)
    (small : ∀ block ∈ blocks, block.number.toNat < 2 ^ 32)
    (reads : ReadsBack registries (operatorSetAt contracts address (deployed world) blocks)) {id : Uint 64}
    {previous new : List Rollup.Operator} {blockNumber : Uint 32} (positive : blockNumber ≠ 0)
    (recorded : blockNumberOf (runBlocks contracts address (deployed world) blocks).operatorSetUpdateRegistry id =
      .ok blockNumber)
    (success : getOperatorSetUpdate registries
      (runBlocks contracts address (deployed world) blocks).operatorSetUpdateRegistry id = .ok (previous, new)) :
    getOperatorSetAtBlock registries (blockNumber - 1) = previous := by
  have logged := (operatorSets_logged contracts address empty ordered small).1
  have before : (blockNumber - 1).toNat = blockNumber.toNat - 1 := by bv_omega
  have at_id : ∀ {id : Uint 64} {blockNumber : Uint 32},
      blockNumberOf (runBlocks contracts address (deployed world) blocks).operatorSetUpdateRegistry id = .ok blockNumber →
      (recordedBlocks (runBlocks contracts address (deployed world) blocks))[id.toNat]? = some blockNumber.toNat :=
    fun found => by rw [recordedBlocks, List.getElem?_map, blockNumberOf_eq_ok.mp found]; rfl
  rw [reads.getOperatorSetAtBlock_eq, before]
  obtain ⟨⟨rfl, rfl⟩ | ⟨earlier, found, rfl⟩, _⟩ := getOperatorSetUpdate_ok success
  · rw [logged.before_first]
    · rfl
    · intro first started
      cases (at_id recorded).symm.trans started
      bv_omega
  · -- an id that wraps around would need more records than there are block numbers
    have few := few_records logged.increasing
    obtain ⟨inside, _⟩ := List.getElem?_eq_some_iff.mp (blockNumberOf_eq_ok.mp found)
    have wrapped := BitVec.toNat_sub id 1
    have next : id.toNat = (id - 1).toNat + 1 := by
      rw [show (1 : Uint 64).toNat = 1 from rfl] at wrapped
      omega
    rw [reads.getOperatorSetAtBlock_eq, logged.before_next (at_id found) (next ▸ at_id recorded)]

end ReadBack

/-! ### A quorum of one operator -/

def singleQuorum : ExternalContracts (List (Bytes32 × Uint 96)) Unit where
  blsApkRegistry :=
    { getOperatorId := fun operator _ => operator.setWidth 256
      registerBLSPublicKey := fun operator _ _ => pure (operator.setWidth 256)
      registerOperator := fun _ _ => pure ()
      deregisterOperator := fun _ _ => pure ()
      initializeQuorum := fun _ => pure () }
  stakeRegistry :=
    { getCurrentStake := fun _ _ _ => .ok 10
      registerOperator := fun _ operatorId _ => do
        modify fun operators => operators ++ [(operatorId, 10)]
        return ([10], [10])
      deregisterOperator := fun operatorId _ => modify fun operators => operators.filter fun entry => entry.1 ≠ operatorId
      updateOperatorStake := fun _ _ _ => pure 0
      initializeQuorum := fun _ _ _ => pure () }
  indexRegistry :=
    { totalOperatorsForQuorum := fun _ operators => .ok (BitVec.ofNat 32 operators.length)
      registerOperator := fun _ _ => do
        let operators ← get
        return [BitVec.ofNat 32 operators.length]
      deregisterOperator := fun _ _ => pure ()
      initializeQuorum := fun _ => pure () }
  serviceManager :=
    { registerOperatorToAVS := fun _ _ => pure ()
      deregisterOperatorFromAVS := fun _ => pure () }
  orderedBytesArrayToBitmap bytes _ := .ok (if bytes = [0] then 1 else 0)
  bitmapToBytesArray bitmap := if bitmap = 0 then [] else [0]
  pubkeyRegistrationMessageHash _ := ⟨1, 2⟩
  calculateOperatorChurnApprovalDigestHash _ _ _ _ := 0
  checkSignature_EIP1271 _ _ _ _ := .ok ()
  act _ operators := operators
  operatorSet operators := operators
  act_operatorSet _ _ := rfl
  initializeStakes_operatorSet success := by cases success; rfl
  initializeIndex_operatorSet success := by cases success; rfl
  initializeKeys_operatorSet success := by cases success; rfl

def joinAndLeave : List (Block Unit) :=
  let join : CoordinatorInvocation Unit := .registerOperator [0] ⟨⟨0, 0⟩, ⟨0, 0⟩, ⟨(0, 0), (0, 0)⟩⟩ ⟨[], 0, 0⟩
  [⟨5, 100, [(1, .initializeCoordinator 1 2 3 0 [⟨20, 0, 0⟩] [1] [[]]), (9, join)]⟩,
    ⟨6, 112, [(9, join)]⟩, ⟨8, 136, [(9, .deregisterOperator [0])]⟩]

theorem updates_follow_operator_sets_joinAndLeave :
    (runBlocks singleQuorum 4 (deployed []) joinAndLeave).operatorSetUpdateRegistry.operatorSetUpdateIdToBlockNumber =
        [5, 8] ∧
      operatorSetAt singleQuorum 4 (deployed []) joinAndLeave 5 = [(9, 10)] ∧
      operatorSetAt singleQuorum 4 (deployed []) joinAndLeave 7 =
        operatorSetAt singleQuorum 4 (deployed []) joinAndLeave 5 ∧
      operatorSetAt singleQuorum 4 (deployed []) joinAndLeave 8 = [] := by
  have updates :
      (runBlocks singleQuorum 4 (deployed []) joinAndLeave).operatorSetUpdateRegistry.operatorSetUpdateIdToBlockNumber =
        [5, 8] := by
    decide +kernel
  have empty : singleQuorum.operatorSet [] = [] := rfl
  have ordered : joinAndLeave.Pairwise fun earlier later => earlier.number.toNat < later.number.toNat := by decide
  have before_update := (@updates_follow_operator_sets _ _ singleQuorum 4 [] empty joinAndLeave ordered (by decide)).2.2.2
  rw [updates] at before_update
  exact ⟨updates, by decide +kernel, before_update 0 5 8 rfl rfl, by decide +kernel⟩

end Sffl.Eth
