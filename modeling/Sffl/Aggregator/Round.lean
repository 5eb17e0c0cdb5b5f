import Mathlib.Data.Finset.Basic
import Mathlib.Data.List.Sort
import Sffl.Aggregator.Validation
import Sffl.Semantics.Run

/-! One aggregation round, as `singleMessageAggregatorGoroutineFunc` runs it.

The operators' stake maps are reference values in Go. The first signer of a
digest hands its own map over as the digest's accumulator, so the maps are kept
here in a heap with one location for every operator, and an accumulator is a
location.

The aggregated key and the aggregated signature of a digest are pointers. They
are made with the digest's first signature, every further one is added to them in
place, and a response carries the pointers themselves. So they are kept in a heap
as well, with one location for every digest, and a response has to be read.
-/

set_option autoImplicit false

namespace Sffl.Aggregator

open Sffl.Evm Sffl.Golang Sffl.Semantics

/-- The methods of a message. `Digest` may fail. -/
structure MessageInterface (M : Type) where
  digest : M → Option MessageDigest
  key : M → MessageKey

/-- An ideal signature scheme: a key has one valid signature over a digest. A
verification may also fail with an error. -/
structure SignatureScheme (Sig Key : Type) where
  verify : Sig → Key → MessageDigest → Option Bool
  sign : Key → MessageDigest → Sig
  verify_unique : ∀ signature key digest, verify signature key digest = some true → signature = sign key digest

/-- A signed message as `ProcessNewSignature` hands it to the round, with the
digest that the message had there. -/
structure SignedMessage {M : Type} (interface : MessageInterface M) (Sig : Type) where
  message : M
  messageDigest : MessageDigest
  blsSignature : Sig
  operatorId : OperatorId
  digest_eq : interface.digest message = some messageDigest

structure Pointer (Point : Type) where
  location : MessageDigest

structure Points (Sig Key : Type) where
  apksG2 : MessageDigest → Key
  aggSigsG1 : MessageDigest → Sig

structure AggregatedOperators (Sig Key : Type) where
  signersApkG2 : Pointer Key
  signersAggSigG1 : Pointer Sig
  /-- The operator whose stake map is the accumulator. -/
  signersTotalStakePerQuorum : OperatorId
  signersOperatorIdsSet : Finset OperatorId

structure Aggregation (Sig Key : Type) where
  stakes : OperatorId → Map QuorumNum Nat
  points : Points Sig Key
  aggregatedOperatorsDict : Map MessageDigest (AggregatedOperators Sig Key)

inductive MessageBlsAggregationStatus where
  | none
  | fullStakeThresholdMet
  | thresholdNotReached
  | thresholdReached
  deriving DecidableEq, Repr

structure CheckSignaturesIndices where
  nonSignerQuorumBitmapIndices : List (Uint 32)
  quorumApkIndices : List (Uint 32)
  totalStakeIndices : List (Uint 32)
  nonSignerStakeIndices : List (List (Uint 32))
  deriving DecidableEq, Repr

/-- The fields that a response without an aggregation leaves nil are optional. -/
structure MessageBlsAggregation (Sig Key : Type) where
  ethBlockNumber : Uint 64
  messageDigest : MessageDigest
  nonSignersPubkeysG1 : List G1Point
  quorumApksG1 : List (Option G1Point)
  signersApkG2 : Option Key
  signersAggSigG1 : Option Sig
  indices : CheckSignaturesIndices

structure Response (M Sig Key : Type) where
  aggregation : MessageBlsAggregation Sig Key
  messageKey : MessageKey
  message : Option M
  status : MessageBlsAggregationStatus
  finished : Bool
  err : Option ServiceError

/-- A response as it is sent, with the accumulator's own points. -/
abbrev SharedResponse (M Sig Key : Type) := Response M (Pointer Sig) (Pointer Key)

/-- The orders in which the round's `range` loops visit their maps. -/
structure Orders {Key : Type} (info : ValidationInfo Key) where
  operators : List OperatorId
  thresholds : List QuorumNum
  signed : Map QuorumNum Nat → List QuorumNum
  operators_visits : info.operatorsAvsStateDict.states.Visits operators
  thresholds_visits : info.quorumThresholdPercentagesMap.Visits thresholds
  signed_visits : ∀ map : Map QuorumNum Nat, map.Visits (signed map)

section Reading
variable {M Sig Key : Type}

def Points.apk (points : Points Sig Key) (pointer : Pointer Key) : Key := points.apksG2 pointer.location

def Points.aggSig (points : Points Sig Key) (pointer : Pointer Sig) : Sig := points.aggSigsG1 pointer.location

def Points.write (points : Points Sig Key) (apk : Pointer Key) (aggSig : Pointer Sig) (key : Key) (signature : Sig) :
    Points Sig Key where
  apksG2 := Function.update points.apksG2 apk.location key
  aggSigsG1 := Function.update points.aggSigsG1 aggSig.location signature

def MessageBlsAggregation.read (points : Points Sig Key)
    (aggregation : MessageBlsAggregation (Pointer Sig) (Pointer Key)) : MessageBlsAggregation Sig Key where
  ethBlockNumber := aggregation.ethBlockNumber
  messageDigest := aggregation.messageDigest
  nonSignersPubkeysG1 := aggregation.nonSignersPubkeysG1
  quorumApksG1 := aggregation.quorumApksG1
  signersApkG2 := aggregation.signersApkG2.map points.apk
  signersAggSigG1 := aggregation.signersAggSigG1.map points.aggSig
  indices := aggregation.indices

@[simps]
def Response.read (points : Points Sig Key) (response : SharedResponse M Sig Key) : Response M Sig Key where
  aggregation := response.aggregation.read points
  messageKey := response.messageKey
  message := response.message
  status := response.status
  finished := response.finished
  err := response.err

end Reading

section Functions
variable {M Sig Key : Type} [AddCommGroup Sig] [AddCommGroup Key] {interface : MessageInterface M}
  (scheme : SignatureScheme Sig Key) (info : ValidationInfo Key)

/-! ## A signed message -/

def verifySignature (signedMessage : SignedMessage interface Sig) : Except Fault Key :=
  match info.operatorsAvsStateDict.states signedMessage.operatorId with
  | none => .error (.failed (.operatorNotPartOfMessageQuorum signedMessage.operatorId signedMessage.messageDigest))
  | some operator =>
    match operator.G2Pubkey with
    | none => .error .crashed
    | some operatorG2Pubkey =>
      match scheme.verify signedMessage.blsSignature operatorG2Pubkey signedMessage.messageDigest with
      | none => .error (.failed .signatureVerification)
      | some false => .error (.failed .incorrectSignature)
      | some true => .ok operatorG2Pubkey

def addStakes (accumulator stakePerQuorum : Map QuorumNum Nat) : Map QuorumNum Nat := fun quorumNum =>
  -- every entry is visited once, so the result is the same when both maps are one
  match stakePerQuorum quorumNum with
  | none => accumulator quorumNum
  | some stake => some ((accumulator quorumNum).getD 0 + stake)

def recordSigner (aggregation : Aggregation Sig Key) (digest : MessageDigest) (operatorId : OperatorId)
    (operatorG2Pubkey : Key) (blsSignature : Sig) : Aggregation Sig Key :=
  match aggregation.aggregatedOperatorsDict digest with
  | none =>
    { aggregation with
      points := aggregation.points.write ⟨digest⟩ ⟨digest⟩ (0 + operatorG2Pubkey) blsSignature
      aggregatedOperatorsDict := aggregation.aggregatedOperatorsDict.insert digest {
        signersApkG2 := ⟨digest⟩
        -- the submitter's own point, which nothing else holds
        signersAggSigG1 := ⟨digest⟩
        -- the map is handed over, not copied
        signersTotalStakePerQuorum := operatorId
        signersOperatorIdsSet := {operatorId} } }
  | some digestAggregatedOperators =>
    let accumulator := digestAggregatedOperators.signersTotalStakePerQuorum
    let apk := digestAggregatedOperators.signersApkG2
    let aggSig := digestAggregatedOperators.signersAggSigG1
    { stakes := Function.update aggregation.stakes accumulator
        (addStakes (aggregation.stakes accumulator) (aggregation.stakes operatorId))
      -- `Add` changes its receiver
      points := aggregation.points.write apk aggSig (aggregation.points.apk apk + operatorG2Pubkey)
        (aggregation.points.aggSig aggSig + blsSignature)
      aggregatedOperatorsDict := aggregation.aggregatedOperatorsDict.insert digest {
        signersApkG2 := apk
        signersAggSigG1 := aggSig
        signersTotalStakePerQuorum := accumulator
        signersOperatorIdsSet := insert operatorId digestAggregatedOperators.signersOperatorIdsSet } }

def handleSignedMessageDigest (aggregation : Aggregation Sig Key) (signedMessage : SignedMessage interface Sig) :
    Except Fault (Aggregation Sig Key) := do
  let operatorG2Pubkey ← verifySignature scheme info signedMessage
  match interface.digest signedMessage.message with
  | none => .error (.failed .messageDigestNotFound)
  | some digest =>
    return recordSigner aggregation digest signedMessage.operatorId operatorG2Pubkey signedMessage.blsSignature

/-! ## The status of a digest -/

def stakeThresholdMet (signedStake totalStake : Option Nat) (percentage : QuorumThresholdPercentage) :
    Except Fault Bool :=
  -- a missing stake is a nil pointer
  match signedStake, totalStake with
  | some signedStake, some totalStake => .ok (totalStake * percentage.toNat ≤ signedStake * 100)
  | _, _ => .error .crashed

def checkIfStakeThresholdsMet (signedStakePerQuorum totalStakePerQuorum : Map QuorumNum Nat) :
    List (QuorumNum × QuorumThresholdPercentage) → Except Fault Bool
  | [] => .ok true
  | (quorumNum, percentage) :: rest => do
    let met ← stakeThresholdMet (signedStakePerQuorum quorumNum) (totalStakePerQuorum quorumNum) percentage
    if met then checkIfStakeThresholdsMet signedStakePerQuorum totalStakePerQuorum rest else return false

def checkIfFullStakeThresholdMet (totalStakePerQuorum : Map QuorumNum Nat) : List (QuorumNum × Nat) → Except Fault Bool
  | [] => .ok true
  | (quorumNum, signedStake) :: rest =>
    match totalStakePerQuorum quorumNum with
    | none => .error .crashed
    | some totalStake =>
      if signedStake = totalStake then checkIfFullStakeThresholdMet totalStakePerQuorum rest else .ok false

def getMessageBlsAggregationStatus (aggregation : Aggregation Sig Key) (messageDigest : MessageDigest)
    (orders : Orders info) : Except Fault MessageBlsAggregationStatus :=
  match aggregation.aggregatedOperatorsDict messageDigest with
  | none => .error (.failed (.messageNotFound messageDigest))
  | some digestAggregatedOperators => do
    let signedStakePerQuorum := aggregation.stakes digestAggregatedOperators.signersTotalStakePerQuorum
    let fullStakeThresholdMet ← checkIfFullStakeThresholdMet info.totalStakePerQuorum
      (signedStakePerQuorum.range (orders.signed signedStakePerQuorum))
    if fullStakeThresholdMet then return .fullStakeThresholdMet
    else do
      let stakeThresholdsMet ← checkIfStakeThresholdsMet signedStakePerQuorum info.totalStakePerQuorum
        (info.quorumThresholdPercentagesMap.range orders.thresholds)
      return if stakeThresholdsMet then .thresholdReached else .thresholdNotReached

/-! ## Responses -/

def CheckSignaturesIndices.empty : CheckSignaturesIndices := ⟨[], [], [], []⟩

def defaultAggregation (messageDigest : MessageDigest) : MessageBlsAggregation (Pointer Sig) (Pointer Key) where
  ethBlockNumber := info.ethBlockNumber
  messageDigest := messageDigest
  nonSignersPubkeysG1 := []
  quorumApksG1 := []
  signersApkG2 := none
  signersAggSigG1 := none
  indices := CheckSignaturesIndices.empty

def errorResponse (interface : MessageInterface M) (message : M) (messageDigest : MessageDigest)
    (forceFinished : Bool) (err : ServiceError) : SharedResponse M Sig Key where
  aggregation := defaultAggregation info messageDigest
  messageKey := interface.key message
  message := some message
  status := .none
  finished := forceFinished
  err := some err

def nonSignersOperatorIds (signers : Finset OperatorId) (orders : Orders info) : List OperatorId :=
  -- ids are distinct, so that every sort gives the same list
  let operatorIds := (info.operatorsAvsStateDict.states.range orders.operators).map Prod.fst
  (operatorIds.filter fun operatorId => operatorId ∉ signers).insertionSort fun first second =>
    first.toNat ≤ second.toNat

def nonSignersG1Pubkeys (operatorIds : List OperatorId) : List G1Point :=
  operatorIds.filterMap fun operatorId =>
    (info.operatorsAvsStateDict.states operatorId).map OperatorAvsState.G1Pubkey

/-- A crash is the only fault that is not turned into a response. The result of
`GetCheckSignaturesIndices` is an argument. -/
def getMessageBlsAggregationResponse (interface : MessageInterface M) (aggregation : Aggregation Sig Key) (message : M)
    (messageDigest : MessageDigest) (forceFinished : Bool) (indices : Option CheckSignaturesIndices)
    (orders : Orders info) : Except Fault (SharedResponse M Sig Key) :=
  match aggregation.aggregatedOperatorsDict messageDigest with
  | none => .ok (errorResponse info interface message messageDigest forceFinished (.messageNotFound messageDigest))
  | some digestAggregatedOperators =>
    match getMessageBlsAggregationStatus info aggregation messageDigest orders with
    | .error .crashed => .error .crashed
    | .error (.failed err) => .ok (errorResponse info interface message messageDigest forceFinished err)
    | .ok status =>
      match indices with
      | none => .ok (errorResponse info interface message messageDigest forceFinished .registryCall)
      | some indices =>
        let operatorIds := nonSignersOperatorIds info digestAggregatedOperators.signersOperatorIdsSet orders
        .ok {
          aggregation := {
            ethBlockNumber := info.ethBlockNumber
            messageDigest := messageDigest
            nonSignersPubkeysG1 := nonSignersG1Pubkeys info operatorIds
            quorumApksG1 := info.quorumApksG1
            -- the points are shared, not copied
            signersApkG2 := some digestAggregatedOperators.signersApkG2
            signersAggSigG1 := some digestAggregatedOperators.signersAggSigG1
            indices := indices }
          messageKey := interface.key message
          message := some message
          status := status
          finished := status = .fullStakeThresholdMet || forceFinished
          err := none }

def expiredResponse (messageKey : MessageKey) : SharedResponse M Sig Key where
  aggregation := defaultAggregation info 0
  messageKey := messageKey
  message := none
  status := .none
  finished := true
  err := some .messageExpired

end Functions

/-! ## The goroutine -/

inductive Phase (M : Type) where
  | preThreshold
  | thresholdReached (message : M) (messageDigest : MessageDigest)
  | finished
  | crashed
  deriving DecidableEq

structure Round (M Sig Key : Type) where
  aggregation : Aggregation Sig Key
  phase : Phase M

/-- What a round meets: a signed message on its channel, or its timer. With it
come the result of the registry call that may follow and the iteration orders. -/
inductive Event {M Key : Type} (interface : MessageInterface M) (Sig : Type) (info : ValidationInfo Key) where
  | signed (signedMessage : SignedMessage interface Sig) (indices : Option CheckSignaturesIndices) (orders : Orders info)
  | timer (indices : Option CheckSignaturesIndices) (orders : Orders info)

/-- What comes of an event: the next state of the round, the reply to the
submitter, and the response on the service's channel. -/
structure Effect (M Sig Key : Type) where
  round : Round M Sig Key
  reply : Option (Option ServiceError)
  response : Option (SharedResponse M Sig Key)

def Effect.read {M Sig Key : Type} (effect : Effect M Sig Key) : Option (Response M Sig Key) :=
  effect.response.map (Response.read effect.round.aggregation.points)

section Rounds
variable {M Sig Key : Type} [AddCommGroup Sig] [AddCommGroup Key] {interface : MessageInterface M}
  (scheme : SignatureScheme Sig Key) (info : ValidationInfo Key)

def Round.initial : Round M Sig Key where
  aggregation := {
    stakes := fun operatorId =>
      ((info.operatorsAvsStateDict.states operatorId).map OperatorAvsState.stakePerQuorum).getD Map.empty
    -- no pointer is to one of these zeroes
    points := ⟨fun _ => 0, fun _ => 0⟩
    aggregatedOperatorsDict := Map.empty }
  phase := .preThreshold

def crash (round : Round M Sig Key) (reply : Option (Option ServiceError)) : Effect M Sig Key :=
  ⟨{ round with phase := .crashed }, reply, none⟩

def phaseAfter (interface : MessageInterface M) (message : M) : MessageBlsAggregationStatus → Phase M
  -- a digest that fails here, at the start of the second loop, is fatal
  | .thresholdReached =>
    match interface.digest message with
    | some messageDigest => .thresholdReached message messageDigest
    | none => .crashed
  | .fullStakeThresholdMet => .finished
  | _ => .preThreshold

def signedPreThreshold (round : Round M Sig Key) (signedMessage : SignedMessage interface Sig)
    (indices : Option CheckSignaturesIndices) (orders : Orders info) : Effect M Sig Key :=
  match handleSignedMessageDigest scheme info round.aggregation signedMessage with
  | .error .crashed => crash round none
  | .error (.failed err) => ⟨round, some (some err), none⟩
  | .ok aggregation =>
    match getMessageBlsAggregationResponse info interface aggregation signedMessage.message
        signedMessage.messageDigest false indices orders with
    | .error _ => crash { round with aggregation } (some none)
    | .ok response =>
      if response.status = .thresholdNotReached then ⟨{ round with aggregation }, some none, none⟩
      else ⟨⟨aggregation, phaseAfter interface signedMessage.message response.status⟩, some none, some response⟩

def signedThresholdReached (round : Round M Sig Key) (messageDigest : MessageDigest)
    (signedMessage : SignedMessage interface Sig) (indices : Option CheckSignaturesIndices) (orders : Orders info) :
    Effect M Sig Key :=
  if signedMessage.messageDigest ≠ messageDigest then ⟨round, some none, none⟩
  else
    match handleSignedMessageDigest scheme info round.aggregation signedMessage with
    | .error .crashed => crash round none
    | .error (.failed err) => ⟨round, some (some err), none⟩
    | .ok aggregation =>
      match getMessageBlsAggregationResponse info interface aggregation signedMessage.message
          signedMessage.messageDigest false indices orders with
      | .error _ => crash { round with aggregation } (some none)
      | .ok response =>
        let phase := if response.status = .fullStakeThresholdMet then .finished else round.phase
        ⟨⟨aggregation, phase⟩, some none, some response⟩

def timerThresholdReached (interface : MessageInterface M) (round : Round M Sig Key) (message : M)
    (messageDigest : MessageDigest) (indices : Option CheckSignaturesIndices) (orders : Orders info) :
    Effect M Sig Key :=
  match getMessageBlsAggregationResponse info interface round.aggregation message messageDigest true indices orders with
  | .error _ => crash round none
  | .ok response => ⟨{ round with phase := .finished }, none, some response⟩

/-- One iteration of whichever loop the goroutine is in, for a round with the
given message key. A round that is over takes no more events. -/
def Round.step (messageKey : MessageKey) (round : Round M Sig Key) (event : Event interface Sig info) :
    Option (Effect M Sig Key) :=
  match round.phase, event with
  | .preThreshold, .signed signedMessage indices orders =>
      some (signedPreThreshold scheme info round signedMessage indices orders)
  | .preThreshold, .timer _ _ =>
      some ⟨{ round with phase := .finished }, none, some (expiredResponse info messageKey)⟩
  | .thresholdReached _ messageDigest, .signed signedMessage indices orders =>
      some (signedThresholdReached scheme info round messageDigest signedMessage indices orders)
  | .thresholdReached message messageDigest, .timer indices orders =>
      some (timerThresholdReached info interface round message messageDigest indices orders)
  | .finished, _ => none
  | .crashed, _ => none

def rounds (interface : MessageInterface M) (messageKey : MessageKey) :
    System (Round M Sig Key) (Event interface Sig info) where
  initial round := round = Round.initial info
  step round event after := ∃ effect, round.step scheme info messageKey event = some effect ∧ effect.round = after

end Rounds

/-! ## Concrete messages, signatures and orders -/

def plainMessages : MessageInterface MessageDigest := ⟨some, id⟩

theorem plainMessages_digest (message : MessageDigest) : plainMessages.digest message = some message := rfl

def smallScheme : SignatureScheme (ZMod 7) (ZMod 7) where
  verify signature key messageDigest := some (signature = key * messageDigest.toNat)
  sign key messageDigest := key * messageDigest.toNat
  verify_unique := by simp

def smallOrders (members : List (ZMod 7 × Nat)) (percentage : QuorumThresholdPercentage)
    (valid : ValidPercentage percentage) (distinct : (members.map fun entry => multipleHash entry.1).Nodup) :
    Orders (smallInfo members percentage valid) where
  operators := members.map fun entry => multipleHash entry.1
  thresholds := [0]
  signed map := ((List.finRange (2 ^ 8)).map BitVec.ofFin).filter fun quorumNum => (map quorumNum).isSome
  operators_visits := ⟨distinct, fun operatorId => (smallStates_isSome members operatorId).symm⟩
  thresholds_visits := by
    refine ⟨List.nodup_singleton 0, fun quorumNum => ?_⟩
    simp only [smallInfo, List.mem_singleton, Option.isSome_iff_exists, Map.insert_empty_eq_some, exists_and_left,
      exists_eq, and_true]
  signed_visits map := by
    have distinct : ((List.finRange (2 ^ 8)).map (BitVec.ofFin : _ → QuorumNum)).Nodup :=
      (List.nodup_finRange _).map fun _ _ same => BitVec.ofFin.inj same
    refine ⟨distinct.filter _, fun quorumNum => ?_⟩
    have member : quorumNum ∈ (List.finRange (2 ^ 8)).map BitVec.ofFin :=
      List.mem_map.mpr ⟨quorumNum.toFin, List.mem_finRange _, rfl⟩
    simp [List.mem_filter, member]

end Sffl.Aggregator
