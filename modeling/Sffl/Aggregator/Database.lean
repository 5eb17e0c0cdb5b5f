import Sffl.Aggregator.RoundSteps
import Sffl.Core.Digest
import Sffl.Semantics.Prefixes

/-! The database of aggregated messages.

A message is stored by `FirstOrCreate`, which keeps the row that has the key
already, and its aggregation by `Association.Replace`, which takes the new one.
The key is the rollup and the height, or the update's id, and not the digest.
-/

set_option autoImplicit false

namespace Sffl.Aggregator

open Sffl.Core Sffl.Evm Sffl.Rollup Sffl.Semantics

structure Row (M Sig Key : Type) where
  message : M
  aggregation : Option (MessageBlsAggregation Sig Key)

abbrev Table (M Sig Key : Type) := List (Row M Sig Key)

structure Writes where
  message : Bool
  aggregation : Bool
  deriving DecidableEq, Repr

section Tables
variable {K M Sig Key : Type} [DecidableEq K] (key : M → K)

def findRow (table : Table M Sig Key) (wanted : K) : Option (Row M Sig Key) :=
  table.find? fun row => key row.message = wanted

def firstOrCreate (table : Table M Sig Key) (message : M) : Table M Sig Key × Nat :=
  match table.findIdx? fun row => key row.message = key message with
  | some position => (table, position)
  | none => (table ++ [⟨message, none⟩], table.length)

def replaceAggregation (table : Table M Sig Key) (position : Nat) (aggregation : MessageBlsAggregation Sig Key) :
    Table M Sig Key :=
  table.modify position fun row => { row with aggregation := some aggregation }

def fetchMessage (table : Table M Sig Key) (wanted : K) : Option M := (findRow key table wanted).map Row.message

def fetchAggregation (table : Table M Sig Key) (wanted : K) : Option (MessageBlsAggregation Sig Key) :=
  (findRow key table wanted).bind Row.aggregation

def fetchBetween (timestamp : M → Uint 64) (table : Table M Sig Key) (fromTimestamp toTimestamp : Uint 64) :
    List (M × MessageBlsAggregation Sig Key) :=
  -- rows without an aggregation are left out
  (table.filter fun row => fromTimestamp ≤ timestamp row.message ∧ timestamp row.message ≤ toTimestamp).filterMap
    fun row => row.aggregation.map (Prod.mk row.message)

def handleReachedQuorum (store : Table M Sig Key → M → Table M Sig Key × Nat)
    (storeAggregation : Table M Sig Key → Nat → MessageBlsAggregation Sig Key → Table M Sig Key)
    (table : Table M Sig Key) (response : Response M Sig Key) (writes : Writes) : Option (Table M Sig Key) :=
  if response.err.isSome then some table
  else
    -- without a message, the handler is fatal
    match response.message with
    | none => none
    | some message =>
      if writes.message then
        let (stored, position) := store table message
        if writes.aggregation then some (storeAggregation stored position response.aggregation) else some stored
      else some table

end Tables

/-! ## The two tables -/

structure Database (Sig Key : Type) where
  stateRootUpdates : Table StateRootUpdate Sig Key
  operatorSetUpdates : Table OperatorSetUpdateMessage Sig Key

structure CheckpointMessages (Sig Key : Type) where
  stateRootUpdateMessages : List StateRootUpdate
  stateRootUpdateMessageAggregations : List (MessageBlsAggregation Sig Key)
  operatorSetUpdateMessages : List OperatorSetUpdateMessage
  operatorSetUpdateMessageAggregations : List (MessageBlsAggregation Sig Key)

inductive DatabaseError where
  | timestampDoesNotFit
  | toTimestampLessThanFrom
  | stateRootUpdateNotFound
  | stateRootAggNotFound
  | operatorSetNotFound
  | operatorAggNotFound
  deriving DecidableEq, Repr

section Functions
variable {Sig Key : Type}

def newDatabase : Database Sig Key := ⟨[], []⟩

def stateRootKey (message : StateRootUpdate) : Uint 32 × Uint 64 := (message.rollupId, message.blockHeight)

def storeStateRootUpdate : Table StateRootUpdate Sig Key → StateRootUpdate → Table StateRootUpdate Sig Key × Nat :=
  firstOrCreate stateRootKey

def storeStateRootUpdateAggregation :
    Table StateRootUpdate Sig Key → Nat → MessageBlsAggregation Sig Key → Table StateRootUpdate Sig Key :=
  replaceAggregation

def fetchStateRootUpdate (database : Database Sig Key) (rollupId : Uint 32) (blockHeight : Uint 64) :
    Option StateRootUpdate :=
  fetchMessage stateRootKey database.stateRootUpdates (rollupId, blockHeight)

def fetchStateRootUpdateAggregation (database : Database Sig Key) (rollupId : Uint 32) (blockHeight : Uint 64) :
    Option (MessageBlsAggregation Sig Key) :=
  fetchAggregation stateRootKey database.stateRootUpdates (rollupId, blockHeight)

def storeOperatorSetUpdate :
    Table OperatorSetUpdateMessage Sig Key → OperatorSetUpdateMessage → Table OperatorSetUpdateMessage Sig Key × Nat :=
  firstOrCreate OperatorSetUpdateMessage.id

def storeOperatorSetUpdateAggregation :
    Table OperatorSetUpdateMessage Sig Key → Nat → MessageBlsAggregation Sig Key → Table OperatorSetUpdateMessage Sig Key :=
  replaceAggregation

def fetchOperatorSetUpdate (database : Database Sig Key) (id : Uint 64) : Option OperatorSetUpdateMessage :=
  fetchMessage OperatorSetUpdateMessage.id database.operatorSetUpdates id

def fetchOperatorSetUpdateAggregation (database : Database Sig Key) (id : Uint 64) :
    Option (MessageBlsAggregation Sig Key) :=
  fetchAggregation OperatorSetUpdateMessage.id database.operatorSetUpdates id

def fetchCheckpointMessages (first second : Database Sig Key) (fromTimestamp toTimestamp : Uint 64) :
    Except DatabaseError (CheckpointMessages Sig Key) :=
  if 2 ^ 63 - 1 < fromTimestamp.toNat ∨ 2 ^ 63 - 1 < toTimestamp.toNat then .error .timestampDoesNotFit
  else if toTimestamp < fromTimestamp then .error .toTimestampLessThanFrom
  else
    let stateRootUpdates := fetchBetween StateRootUpdate.timestamp first.stateRootUpdates fromTimestamp toTimestamp
    -- the tables are read one after the other, so the second may have moved on
    let operatorSetUpdates :=
      fetchBetween OperatorSetUpdateMessage.timestamp second.operatorSetUpdates fromTimestamp toTimestamp
    .ok ⟨stateRootUpdates.map Prod.fst, stateRootUpdates.map Prod.snd,
      operatorSetUpdates.map Prod.fst, operatorSetUpdates.map Prod.snd⟩

def getAggregation {M : Type} (missing unaggregated : DatabaseError) (message : Option M)
    (aggregation : Option (MessageBlsAggregation Sig Key)) : Except DatabaseError (M × MessageBlsAggregation Sig Key) :=
  -- message and aggregation are fetched one after the other
  match message with
  | none => .error missing
  | some message =>
    match aggregation with
    | none => .error unaggregated
    | some aggregation => .ok (message, aggregation)

def getStateRootUpdateAggregation (first second : Database Sig Key) (rollupId : Uint 32) (blockHeight : Uint 64) :
    Except DatabaseError (StateRootUpdate × MessageBlsAggregation Sig Key) :=
  getAggregation .stateRootUpdateNotFound .stateRootAggNotFound (fetchStateRootUpdate first rollupId blockHeight)
    (fetchStateRootUpdateAggregation second rollupId blockHeight)

def getOperatorSetUpdateAggregation (first second : Database Sig Key) (id : Uint 64) :
    Except DatabaseError (OperatorSetUpdateMessage × MessageBlsAggregation Sig Key) :=
  getAggregation .operatorSetNotFound .operatorAggNotFound (fetchOperatorSetUpdate first id)
    (fetchOperatorSetUpdateAggregation second id)

def handleStateRootUpdateReachedQuorum (database : Database Sig Key) (response : Response StateRootUpdate Sig Key)
    (writes : Writes) : Option (Database Sig Key) :=
  (handleReachedQuorum storeStateRootUpdate storeStateRootUpdateAggregation database.stateRootUpdates response
    writes).map fun stateRootUpdates => { database with stateRootUpdates }

/-- With the database, the message that is broadcast when the handler returns. -/
def handleOperatorSetUpdateReachedQuorum (database : Database Sig Key) (response : Response OperatorSetUpdateMessage Sig Key)
    (writes : Writes) : Option (Database Sig Key × Option (OperatorSetUpdateMessage × MessageBlsAggregation Sig Key)) :=
  (handleReachedQuorum storeOperatorSetUpdate storeOperatorSetUpdateAggregation database.operatorSetUpdates response
    writes).map fun operatorSetUpdates =>
      ({ database with operatorSetUpdates },
        if response.err.isNone && response.finished then response.message.map fun message =>
          (message, response.aggregation)
        else none)

end Functions

inductive Arrival (Sig Key : Type) where
  | stateRootUpdate (response : Response StateRootUpdate Sig Key) (writes : Writes)
  | operatorSetUpdate (response : Response OperatorSetUpdateMessage Sig Key) (writes : Writes)

section Arrivals
variable {Sig Key : Type}

def handleArrival (database : Database Sig Key) : Arrival Sig Key → Option (Database Sig Key)
  | .stateRootUpdate response writes => handleStateRootUpdateReachedQuorum database response writes
  | .operatorSetUpdate response writes => (handleOperatorSetUpdateReachedQuorum database response writes).map Prod.fst

def handleArrivals (arrivals : List (Arrival Sig Key)) : Option (Database Sig Key) :=
  arrivals.foldlM handleArrival newDatabase

end Arrivals

/-! ## What is asked of messages and aggregations -/

section Properties
variable {K M Sig Key : Type} [DecidableEq K] (key : M → K) (digest : M → Option MessageDigest)

structure Proper (response : Response M Sig Key) : Prop where
  noError : response.err = none
  message : ∃ message, response.message = some message ∧ digest message = some response.aggregation.messageDigest

def TableMatched (table : Table M Sig Key) : Prop :=
  ∀ row ∈ table, ∀ aggregation, row.aggregation = some aggregation → digest row.message = some aggregation.messageDigest

/-- If the message's key has a row and both writes go through, the row's message has the same digest. -/
def TableAgrees (table : Table M Sig Key) (response : Response M Sig Key) (writes : Writes) : Prop :=
  writes.message = true → writes.aggregation = true → ∀ message, response.message = some message →
    ∀ row, findRow key table (key message) = some row → digest row.message = digest message

variable (keccak256 : Bytes → Bytes32)

def stateRootUpdateDigest (message : StateRootUpdate) : Option MessageDigest :=
  (Message.stateRootUpdate message).digest keccak256

def operatorSetUpdateDigest (message : OperatorSetUpdateMessage) : Option MessageDigest :=
  (Message.operatorSetUpdate message).digest keccak256

def Arrival.Proper : Arrival Sig Key → Prop
  | .stateRootUpdate response _ => Aggregator.Proper (stateRootUpdateDigest keccak256) response
  | .operatorSetUpdate response _ => Aggregator.Proper (operatorSetUpdateDigest keccak256) response

structure Database.Matched (database : Database Sig Key) : Prop where
  stateRootUpdates : TableMatched (stateRootUpdateDigest keccak256) database.stateRootUpdates
  operatorSetUpdates : TableMatched (operatorSetUpdateDigest keccak256) database.operatorSetUpdates

def Arrival.Agrees (database : Database Sig Key) : Arrival Sig Key → Prop
  | .stateRootUpdate response writes =>
      TableAgrees stateRootKey (stateRootUpdateDigest keccak256) database.stateRootUpdates response writes
  | .operatorSetUpdate response writes =>
      TableAgrees OperatorSetUpdateMessage.id (operatorSetUpdateDigest keccak256) database.operatorSetUpdates response writes

/-- No reader gets a message with an aggregation for another one, even if the
database goes from the first state to the second while it reads. -/
structure Served (first second : Database Sig Key) : Prop where
  stateRootUpdate : ∀ rollupId blockHeight message aggregation,
    getStateRootUpdateAggregation first second rollupId blockHeight = .ok (message, aggregation) →
      stateRootUpdateDigest keccak256 message = some aggregation.messageDigest
  operatorSetUpdate : ∀ id message aggregation,
    getOperatorSetUpdateAggregation first second id = .ok (message, aggregation) →
      operatorSetUpdateDigest keccak256 message = some aggregation.messageDigest
  checkpoint : ∀ fromTimestamp toTimestamp messages,
    fetchCheckpointMessages first second fromTimestamp toTimestamp = .ok messages →
      List.Forall₂ (fun message aggregation => stateRootUpdateDigest keccak256 message = some aggregation.messageDigest)
        messages.stateRootUpdateMessages messages.stateRootUpdateMessageAggregations ∧
      List.Forall₂ (fun message aggregation => operatorSetUpdateDigest keccak256 message = some aggregation.messageDigest)
        messages.operatorSetUpdateMessages messages.operatorSetUpdateMessageAggregations

end Properties

end Sffl.Aggregator
