import Sffl.Evm.Bn254
import Sffl.Evm.Transition

/-! EigenLayer's registry coordinator, the base of SFFL's.

Its own storage is here. The registries that it coordinates, the service manager
and what they read from EigenLayer are one world of other contracts, reached
through calls. Events are left out, and with them the sockets, which occur in
events only.
-/

set_option autoImplicit false

namespace Sffl.Eth

open Sffl.Evm

def MAX_QUORUM_COUNT : Nat := 192

def BIPS_DENOMINATOR : Uint 96 := 10000

def PAUSED_REGISTER_OPERATOR : Nat := 0

def PAUSED_DEREGISTER_OPERATOR : Nat := 1

def PAUSED_UPDATE_OPERATOR : Nat := 2

inductive OperatorStatus where
  | NEVER_REGISTERED
  | REGISTERED
  | DEREGISTERED
  deriving DecidableEq, Repr

structure OperatorInfo where
  operatorId : Bytes32
  status : OperatorStatus
  deriving DecidableEq, Repr

structure OperatorSetParam where
  maxOperatorCount : Uint 32
  kickBIPsOfOperatorStake : Uint 16
  kickBIPsOfTotalStake : Uint 16
  deriving DecidableEq, Repr

structure OperatorKickParam where
  quorumNumber : Uint 8
  operator : Address
  deriving DecidableEq, Repr

structure QuorumBitmapUpdate where
  updateBlockNumber : Uint 32
  nextUpdateBlockNumber : Uint 32
  quorumBitmap : Uint 192
  deriving DecidableEq, Repr

structure SignatureWithSaltAndExpiry where
  signature : Bytes
  salt : Bytes32
  expiry : Uint 256
  deriving DecidableEq, Repr

structure PubkeyRegistrationParams where
  pubkeyRegistrationSignature : G1Point
  pubkeyG1 : G1Point
  pubkeyG2 : G2Point
  deriving DecidableEq, Repr

structure StrategyParams where
  strategy : Address
  multiplier : Uint 96
  deriving DecidableEq, Repr

structure RegisterResults where
  numOperatorsPerQuorum : List (Uint 32)
  operatorStakes : List (Uint 96)
  totalStakes : List (Uint 96)

structure BLSApkRegistry (World : Type) where
  getOperatorId : Address → World → Bytes32
  registerBLSPublicKey : Address → PubkeyRegistrationParams → G1Point → Transition World Bytes32
  registerOperator : Address → Bytes → Transition World Unit
  deregisterOperator : Address → Bytes → Transition World Unit
  initializeQuorum : Uint 8 → Transition World Unit

structure StakeRegistry (World : Type) where
  getCurrentStake : Bytes32 → Uint 8 → World → Call (Uint 96)
  registerOperator : Address → Bytes32 → Bytes → Transition World (List (Uint 96) × List (Uint 96))
  deregisterOperator : Bytes32 → Bytes → Transition World Unit
  updateOperatorStake : Address → Bytes32 → Bytes → Transition World (Uint 192)
  initializeQuorum : Uint 8 → Uint 96 → List StrategyParams → Transition World Unit

structure IndexRegistry (World : Type) where
  totalOperatorsForQuorum : Uint 8 → World → Call (Uint 32)
  registerOperator : Bytes32 → Bytes → Transition World (List (Uint 32))
  deregisterOperator : Bytes32 → Bytes → Transition World Unit
  initializeQuorum : Uint 8 → Transition World Unit

structure ServiceManager (World : Type) where
  registerOperatorToAVS : Address → SignatureWithSaltAndExpiry → Transition World Unit
  deregisterOperatorFromAVS : Address → Transition World Unit

/-- The contracts and libraries around the coordinator. Anything else that
happens on the chain is an action. The operator set is that of quorum 0, with
stakes; neither the actions nor the set-up of a quorum change it. -/
structure ExternalContracts (World Action : Type) where
  blsApkRegistry : BLSApkRegistry World
  stakeRegistry : StakeRegistry World
  indexRegistry : IndexRegistry World
  serviceManager : ServiceManager World
  orderedBytesArrayToBitmap : Bytes → Uint 8 → Call (Uint 256)
  bitmapToBytesArray : Uint 192 → Bytes
  pubkeyRegistrationMessageHash : Address → G1Point
  calculateOperatorChurnApprovalDigestHash : Bytes32 → List OperatorKickParam → Bytes32 → Uint 256 → Bytes32
  checkSignature_EIP1271 : Address → Bytes32 → Bytes → World → Call Unit
  act : Action → World → World
  operatorSet : World → List (Bytes32 × Uint 96)
  act_operatorSet : ∀ action world, operatorSet (act action world) = operatorSet world
  initializeStakes_operatorSet : ∀ {quorumNumber minimumStake strategyParams world after},
    stakeRegistry.initializeQuorum quorumNumber minimumStake strategyParams world = .ok ((), after) →
    operatorSet after = operatorSet world
  initializeIndex_operatorSet : ∀ {quorumNumber world after},
    indexRegistry.initializeQuorum quorumNumber world = .ok ((), after) → operatorSet after = operatorSet world
  initializeKeys_operatorSet : ∀ {quorumNumber world after},
    blsApkRegistry.initializeQuorum quorumNumber world = .ok ((), after) → operatorSet after = operatorSet world

structure TransactionContext where
  sender : Address
  blockNumber : Uint 256
  timestamp : Uint 256

structure RegistryCoordinator where
  isInitialized : Bool
  owner : Address
  paused : Uint 256
  churnApprover : Address
  ejector : Address
  quorumCount : Uint 8
  quorumParams : Uint 8 → OperatorSetParam
  operatorInfo : Address → OperatorInfo
  operatorBitmapHistory : Bytes32 → List QuorumBitmapUpdate
  isChurnApproverSaltUsed : Bytes32 → Bool
  quorumUpdateBlockNumber : Uint 8 → Uint 256

def RegistryCoordinator.zero : RegistryCoordinator where
  isInitialized := false
  owner := 0
  paused := 0
  churnApprover := 0
  ejector := 0
  quorumCount := 0
  quorumParams _ := ⟨0, 0, 0⟩
  operatorInfo _ := ⟨0, .NEVER_REGISTERED⟩
  operatorBitmapHistory _ := []
  isChurnApproverSaltUsed _ := false
  quorumUpdateBlockNumber _ := 0

structure Deployment (World : Type) where
  coordinator : RegistryCoordinator
  world : World

namespace RegistryCoordinator

/-! ## Storage -/

def currentOperatorBitmap (state : RegistryCoordinator) (operatorId : Bytes32) : Uint 192 :=
  match (state.operatorBitmapHistory operatorId).getLast? with
  | none => 0
  | some lastUpdate => lastUpdate.quorumBitmap

def updateOperatorBitmap (state : RegistryCoordinator) (blockNumber : Uint 256) (operatorId : Bytes32)
    (newBitmap : Uint 192) : RegistryCoordinator :=
  -- a second update in a block replaces the first
  let blockNumber : Uint 32 := blockNumber.setWidth 32
  let history := state.operatorBitmapHistory operatorId
  let entry : QuorumBitmapUpdate := ⟨blockNumber, 0, newBitmap⟩
  let updated := match history.getLast? with
    | none => [entry]
    | some lastUpdate =>
      if lastUpdate.updateBlockNumber = blockNumber then
        history.dropLast ++ [{ lastUpdate with quorumBitmap := newBitmap }]
      else history.dropLast ++ [{ lastUpdate with nextUpdateBlockNumber := blockNumber }, entry]
  { state with operatorBitmapHistory := Function.update state.operatorBitmapHistory operatorId updated }

def isSubsetOf (bitmap other : Uint 192) : Prop := bitmap &&& other = bitmap

instance (bitmap other : Uint 192) : Decidable (isSubsetOf bitmap other) := inferInstanceAs (Decidable (_ = _))

def quorumsAllExist (state : RegistryCoordinator) (quorumBitmap : Uint 192) : Prop :=
  isSubsetOf quorumBitmap ((((1 : Uint 256) <<< state.quorumCount.toNat) - 1).setWidth 192)

instance (state : RegistryCoordinator) (quorumBitmap : Uint 192) : Decidable (state.quorumsAllExist quorumBitmap) :=
  inferInstanceAs (Decidable (isSubsetOf _ _))

def setOperatorInfo (state : RegistryCoordinator) (operator : Address) (info : OperatorInfo) : RegistryCoordinator :=
  { state with operatorInfo := Function.update state.operatorInfo operator info }

def storeOperatorSetParams (state : RegistryCoordinator) (quorumNumber : Uint 8) (operatorSetParams : OperatorSetParam) :
    RegistryCoordinator :=
  { state with quorumParams := Function.update state.quorumParams quorumNumber operatorSetParams }

/-! ## Calls -/

section Calls
variable {World Action A : Type}

def modifyStorage (change : RegistryCoordinator → RegistryCoordinator) : Transition (Deployment World) Unit :=
  modify fun state => { state with coordinator := change state.coordinator }

def external (operation : Transition World A) : Transition (Deployment World) A := fun state => do
  let (result, world) ← operation state.world
  return (result, { state with world })

def onlyOwner (context : TransactionContext) : Transition (Deployment World) Unit := do
  let state ← get
  require (context.sender = state.coordinator.owner) "Ownable: caller is not the owner"

def onlyEjector (context : TransactionContext) : Transition (Deployment World) Unit := do
  let state ← get
  require (context.sender = state.coordinator.ejector)
    "RegistryCoordinator.onlyEjector: caller is not the ejector"

def onlyWhenNotPaused (flag : Nat) : Transition (Deployment World) Unit := do
  let state ← get
  require (state.coordinator.paused.getLsbD flag = false) "Pausable: index is paused"

def kickThreshold (stake : Uint 96) (kickBIPs : Uint 16) : Call (Uint 96) := do
  let product ← checkedMul stake (kickBIPs.setWidth 96)
  return product / BIPS_DENOMINATOR

def individualKickThreshold (operatorStake : Uint 96) (setParams : OperatorSetParam) : Call (Uint 96) :=
  kickThreshold operatorStake setParams.kickBIPsOfOperatorStake

def totalKickThreshold (totalStake : Uint 96) (setParams : OperatorSetParam) : Call (Uint 96) :=
  kickThreshold totalStake setParams.kickBIPsOfTotalStake

variable (contracts : ExternalContracts World Action) (context : TransactionContext)

def registerOperatorInternal (operator : Address) (operatorId : Bytes32) (quorumNumbers : Bytes)
    (operatorSignature : SignatureWithSaltAndExpiry) : Transition (Deployment World) RegisterResults := do
  let state ← get
  let bitmap ← contracts.orderedBytesArrayToBitmap quorumNumbers state.coordinator.quorumCount
  let quorumsToAdd : Uint 192 := bitmap.setWidth 192
  let currentBitmap := state.coordinator.currentOperatorBitmap operatorId
  require (quorumsToAdd ≠ 0) "RegistryCoordinator._registerOperator: bitmap cannot be 0"
  require (state.coordinator.quorumsAllExist quorumsToAdd)
    "RegistryCoordinator._registerOperator: some quorums do not exist"
  require (quorumsToAdd &&& currentBitmap = 0)
    "RegistryCoordinator._registerOperator: operator already registered for some quorums being registered for"
  let newBitmap := currentBitmap ||| quorumsToAdd
  modifyStorage (·.updateOperatorBitmap context.blockNumber operatorId newBitmap)
  if (state.coordinator.operatorInfo operator).status ≠ .REGISTERED then
    modifyStorage (·.setOperatorInfo operator ⟨operatorId, .REGISTERED⟩)
    external (contracts.serviceManager.registerOperatorToAVS operator operatorSignature)
  external (contracts.blsApkRegistry.registerOperator operator quorumNumbers)
  let (operatorStakes, totalStakes) ←
    external (contracts.stakeRegistry.registerOperator operator operatorId quorumNumbers)
  let numOperatorsPerQuorum ← external (contracts.indexRegistry.registerOperator operatorId quorumNumbers)
  return ⟨numOperatorsPerQuorum, operatorStakes, totalStakes⟩

def getOrCreateOperatorId (operator : Address) (params : PubkeyRegistrationParams) :
    Transition (Deployment World) Bytes32 := do
  let state ← get
  let operatorId := contracts.blsApkRegistry.getOperatorId operator state.world
  if operatorId = 0 then
    external (contracts.blsApkRegistry.registerBLSPublicKey operator params
      (contracts.pubkeyRegistrationMessageHash operator))
  else return operatorId

def validateChurn (quorumNumber : Uint 8) (totalQuorumStake : Uint 96) (newOperator : Address)
    (newOperatorStake : Uint 96) (kickParams : OperatorKickParam) (setParams : OperatorSetParam) :
    Transition (Deployment World) Unit := do
  let state ← get
  let operatorToKick := kickParams.operator
  let idToKick := (state.coordinator.operatorInfo operatorToKick).operatorId
  require (newOperator ≠ operatorToKick) "RegistryCoordinator._validateChurn: cannot churn self"
  require (kickParams.quorumNumber = quorumNumber)
    "RegistryCoordinator._validateChurn: quorumNumber not the same as signed"
  let operatorToKickStake ← contracts.stakeRegistry.getCurrentStake idToKick quorumNumber state.world
  let individualThreshold ← individualKickThreshold operatorToKickStake setParams
  require (individualThreshold < newOperatorStake)
    "RegistryCoordinator._validateChurn: incoming operator has insufficient stake for churn"
  let totalThreshold ← totalKickThreshold totalQuorumStake setParams
  require (operatorToKickStake < totalThreshold)
    "RegistryCoordinator._validateChurn: cannot kick operator with more than kickBIPsOfTotalStake"

def deregisterOperatorInternal (operator : Address) (quorumNumbers : Bytes) :
    Transition (Deployment World) Unit := do
  let state ← get
  let operatorInfo := state.coordinator.operatorInfo operator
  let operatorId := operatorInfo.operatorId
  require (operatorInfo.status = .REGISTERED)
    "RegistryCoordinator._deregisterOperator: operator is not registered"
  let bitmap ← contracts.orderedBytesArrayToBitmap quorumNumbers state.coordinator.quorumCount
  let quorumsToRemove : Uint 192 := bitmap.setWidth 192
  let currentBitmap := state.coordinator.currentOperatorBitmap operatorId
  require (quorumsToRemove ≠ 0) "RegistryCoordinator._deregisterOperator: bitmap cannot be 0"
  require (state.coordinator.quorumsAllExist quorumsToRemove)
    "RegistryCoordinator._deregisterOperator: some quorums do not exist"
  require (isSubsetOf quorumsToRemove currentBitmap)
    "RegistryCoordinator._deregisterOperator: operator is not registered for specified quorums"
  let newBitmap := currentBitmap &&& ~~~quorumsToRemove
  modifyStorage (·.updateOperatorBitmap context.blockNumber operatorId newBitmap)
  if newBitmap = 0 then
    modifyStorage (·.setOperatorInfo operator { operatorInfo with status := .DEREGISTERED })
    external (contracts.serviceManager.deregisterOperatorFromAVS operator)
  external (contracts.blsApkRegistry.deregisterOperator operator quorumNumbers)
  external (contracts.stakeRegistry.deregisterOperator operatorId quorumNumbers)
  external (contracts.indexRegistry.deregisterOperator operatorId quorumNumbers)

/-- Operators that fell below the minimum of a quorum leave it. -/
def updateOperatorInternal (operator : Address) (operatorInfo : OperatorInfo) (quorumsToUpdate : Bytes) :
    Transition (Deployment World) Unit := do
  if operatorInfo.status = .REGISTERED then
    let quorumsToRemove ←
      external (contracts.stakeRegistry.updateOperatorStake operator operatorInfo.operatorId quorumsToUpdate)
    if quorumsToRemove ≠ 0 then
      deregisterOperatorInternal contracts context operator (contracts.bitmapToBytesArray quorumsToRemove)

def verifyChurnApproverSignature (registeringOperatorId : Bytes32) (operatorKickParams : List OperatorKickParam)
    (churnApproverSignature : SignatureWithSaltAndExpiry) : Transition (Deployment World) Unit := do
  let state ← get
  require (state.coordinator.isChurnApproverSaltUsed churnApproverSignature.salt = false)
    "RegistryCoordinator._verifyChurnApproverSignature: churnApprover salt already used"
  require (context.timestamp ≤ churnApproverSignature.expiry)
    "RegistryCoordinator._verifyChurnApproverSignature: churnApprover signature expired"
  modifyStorage fun storage => { storage with
    isChurnApproverSaltUsed := Function.update storage.isChurnApproverSaltUsed churnApproverSignature.salt true }
  let digestHash := contracts.calculateOperatorChurnApprovalDigestHash registeringOperatorId operatorKickParams
    churnApproverSignature.salt churnApproverSignature.expiry
  contracts.checkSignature_EIP1271 state.coordinator.churnApprover digestHash churnApproverSignature.signature state.world

def createQuorumInternal (operatorSetParams : OperatorSetParam) (minimumStake : Uint 96)
    (strategyParams : List StrategyParams) : Transition (Deployment World) Unit := do
  let state ← get
  let quorumNumber := state.coordinator.quorumCount
  require (quorumNumber.toNat < MAX_QUORUM_COUNT) "RegistryCoordinator.createQuorum: max quorums reached"
  modifyStorage fun storage =>
    { storage with quorumCount := quorumNumber + 1 }.storeOperatorSetParams quorumNumber operatorSetParams
  external (contracts.stakeRegistry.initializeQuorum quorumNumber minimumStake strategyParams)
  external (contracts.indexRegistry.initializeQuorum quorumNumber)
  external (contracts.blsApkRegistry.initializeQuorum quorumNumber)

/-! ## Entry points -/

def registerOperator (quorumNumbers : Bytes) (params : PubkeyRegistrationParams)
    (operatorSignature : SignatureWithSaltAndExpiry) : Transition (Deployment World) Unit := do
  onlyWhenNotPaused PAUSED_REGISTER_OPERATOR
  let operatorId ← getOrCreateOperatorId contracts context.sender params
  let results ← registerOperatorInternal contracts context context.sender operatorId quorumNumbers operatorSignature
  let state ← get
  for (quorumNumber, i) in quorumNumbers.zipIdx do
    let numOperators ← elementAt results.numOperatorsPerQuorum i
    require (numOperators ≤ (state.coordinator.quorumParams quorumNumber.toBitVec).maxOperatorCount)
      "RegistryCoordinator.registerOperator: operator count exceeds maximum"

/-- Makes room in the quorum at a position of the list, if it is over its maximum. -/
def churn (results : RegisterResults) (operatorKickParams : List OperatorKickParam) (quorumNumber : UInt8) (i : Nat) :
    Transition (Deployment World) Unit := do
  let state ← get
  let operatorSetParams := state.coordinator.quorumParams quorumNumber.toBitVec
  let numOperators ← elementAt results.numOperatorsPerQuorum i
  if operatorSetParams.maxOperatorCount < numOperators then
    let totalStake ← elementAt results.totalStakes i
    let operatorStake ← elementAt results.operatorStakes i
    let kickParams ← elementAt operatorKickParams i
    validateChurn contracts quorumNumber.toBitVec totalStake context.sender operatorStake kickParams operatorSetParams
    deregisterOperatorInternal contracts context kickParams.operator [quorumNumber]

def registerOperatorWithChurn (quorumNumbers : Bytes) (params : PubkeyRegistrationParams)
    (operatorKickParams : List OperatorKickParam)
    (churnApproverSignature operatorSignature : SignatureWithSaltAndExpiry) :
    Transition (Deployment World) Unit := do
  onlyWhenNotPaused PAUSED_REGISTER_OPERATOR
  require (operatorKickParams.length = quorumNumbers.length)
    "RegistryCoordinator.registerOperatorWithChurn: input length mismatch"
  let operatorId ← getOrCreateOperatorId contracts context.sender params
  verifyChurnApproverSignature contracts context operatorId operatorKickParams churnApproverSignature
  let results ← registerOperatorInternal contracts context context.sender operatorId quorumNumbers operatorSignature
  for (quorumNumber, i) in quorumNumbers.zipIdx do
    churn contracts context results operatorKickParams quorumNumber i

def deregisterOperator (quorumNumbers : Bytes) : Transition (Deployment World) Unit := do
  onlyWhenNotPaused PAUSED_DEREGISTER_OPERATOR
  deregisterOperatorInternal contracts context context.sender quorumNumbers

def updateOperators (operators : List Address) : Transition (Deployment World) Unit := do
  onlyWhenNotPaused PAUSED_UPDATE_OPERATOR
  for operator in operators do
    let state ← get
    let operatorInfo := state.coordinator.operatorInfo operator
    let currentBitmap := state.coordinator.currentOperatorBitmap operatorInfo.operatorId
    let quorumsToUpdate := contracts.bitmapToBytesArray currentBitmap
    updateOperatorInternal contracts context operator operatorInfo quorumsToUpdate

def updateNextOperator (quorumNumber : UInt8) (prevOperatorAddress operator : Address) :
    Transition (Deployment World) Address := do
  let state ← get
  let operatorInfo := state.coordinator.operatorInfo operator
  let currentBitmap := state.coordinator.currentOperatorBitmap operatorInfo.operatorId
  require (currentBitmap.getLsbD quorumNumber.toNat = true)
    "RegistryCoordinator.updateOperatorsForQuorum: operator not in quorum"
  require (prevOperatorAddress < operator)
    "RegistryCoordinator.updateOperatorsForQuorum: operators array must be sorted in ascending address order"
  updateOperatorInternal contracts context operator operatorInfo [quorumNumber]
  return operator

def updateOperatorsForQuorum (operatorsPerQuorum : List (List Address)) (quorumNumbers : Bytes) :
    Transition (Deployment World) Unit := do
  onlyWhenNotPaused PAUSED_UPDATE_OPERATOR
  let start ← get
  let bitmap ← contracts.orderedBytesArrayToBitmap quorumNumbers start.coordinator.quorumCount
  require (start.coordinator.quorumsAllExist (bitmap.setWidth 192))
    "RegistryCoordinator.updateOperatorsForQuorum: some quorums do not exist"
  require (operatorsPerQuorum.length = quorumNumbers.length)
    "RegistryCoordinator.updateOperatorsForQuorum: input length mismatch"
  for (quorumNumber, currQuorumOperators) in quorumNumbers.zip operatorsPerQuorum do
    let state ← get
    let total ← contracts.indexRegistry.totalOperatorsForQuorum quorumNumber.toBitVec state.world
    require (currQuorumOperators.length = total.toNat)
      "RegistryCoordinator.updateOperatorsForQuorum: number of updated operators does not match quorum total"
    let _ ← currQuorumOperators.foldlM (updateNextOperator contracts context quorumNumber) 0
    modifyStorage fun storage => { storage with
      quorumUpdateBlockNumber :=
        Function.update storage.quorumUpdateBlockNumber quorumNumber.toBitVec context.blockNumber }

def updateSocket : Transition (Deployment World) Unit := do
  let state ← get
  require ((state.coordinator.operatorInfo context.sender).status = .REGISTERED)
    "RegistryCoordinator.updateSocket: operator is not registered"

def ejectOperator (operator : Address) (quorumNumbers : Bytes) : Transition (Deployment World) Unit := do
  onlyEjector context
  deregisterOperatorInternal contracts context operator quorumNumbers

def createQuorum (operatorSetParams : OperatorSetParam) (minimumStake : Uint 96)
    (strategyParams : List StrategyParams) : Transition (Deployment World) Unit := do
  onlyOwner context
  createQuorumInternal contracts operatorSetParams minimumStake strategyParams

def setOperatorSetParams (quorumNumber : Uint 8) (operatorSetParams : OperatorSetParam) :
    Transition (Deployment World) Unit := do
  onlyOwner context
  let state ← get
  require (quorumNumber < state.coordinator.quorumCount) "RegistryCoordinator.quorumExists: quorum does not exist"
  modifyStorage (·.storeOperatorSetParams quorumNumber operatorSetParams)

def setChurnApprover (churnApprover : Address) : Transition (Deployment World) Unit := do
  onlyOwner context
  modifyStorage fun storage => { storage with churnApprover }

def setEjector (ejector : Address) : Transition (Deployment World) Unit := do
  onlyOwner context
  modifyStorage fun storage => { storage with ejector }

def transferOwnership (newOwner : Address) : Transition (Deployment World) Unit := do
  onlyOwner context
  require (newOwner ≠ 0) "Ownable: new owner is the zero address"
  modifyStorage fun storage => { storage with owner := newOwner }

def renounceOwnership : Transition (Deployment World) Unit := do
  onlyOwner context
  modifyStorage fun storage => { storage with owner := 0 }

/-- The inherited pausing contract writes nothing but the flags, for those whom
its own registry allows it. -/
def setPaused (paused : Uint 256) : Transition (Deployment World) Unit :=
  modifyStorage fun storage => { storage with paused }

def initializeCoordinator (initialOwner churnApprover ejector : Address) (initialPausedStatus : Uint 256)
    (operatorSetParams : List OperatorSetParam) (minimumStakes : List (Uint 96))
    (strategyParams : List (List StrategyParams)) : Transition (Deployment World) Unit := do
  let state ← get
  require (state.coordinator.isInitialized = false) "Initializable: contract is already initialized"
  require (operatorSetParams.length = minimumStakes.length ∧ minimumStakes.length = strategyParams.length)
    "RegistryCoordinator.initialize: input length mismatch"
  modifyStorage fun storage => { storage with
    isInitialized := true, owner := initialOwner, paused := initialPausedStatus, churnApprover, ejector }
  for (setParams, minimumStake, strategies) in operatorSetParams.zip (minimumStakes.zip strategyParams) do
    createQuorumInternal contracts setParams minimumStake strategies

end Calls

end RegistryCoordinator

end Sffl.Eth
