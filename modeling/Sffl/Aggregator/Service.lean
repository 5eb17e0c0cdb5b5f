import Sffl.Aggregator.Round

/-! The aggregator service: its map of channels and everything that runs on it.

Calls and goroutines interleave at the points where they take the lock, wait for
the registry or meet on a channel. An action is what one of them does up to its
next such point. `InitializeMessageIfNotExists` is two actions, since the map is
unlocked while the registry is read.
-/

set_option autoImplicit false

namespace Sffl.Aggregator

open Sffl.Evm Sffl.Golang Sffl.Semantics

abbrev Channel := Nat

structure MessageRequest where
  messageKey : MessageKey
  quorumNumbers : List QuorumNum
  quorumThresholdPercentages : List QuorumThresholdPercentage
  ethBlockNumber : Uint 64
  deriving DecidableEq, Repr

/-- A call of `InitializeMessageIfNotExists` that has made its channel and reads the registry. -/
structure Initialization where
  request : MessageRequest
  signedMessageC : Channel
  valid : ∀ percentage ∈ request.quorumThresholdPercentages, ValidPercentage percentage

/-- An aggregation goroutine. It lives until it has closed its message. -/
structure Reader (M Sig Key : Type) where
  messageKey : MessageKey
  signedMessageC : Channel
  info : ValidationInfo Key
  round : Round M Sig Key

/-- A call of `ProcessNewSignature` that has looked its channel up and tries to send. -/
structure Submitter {M : Type} (interface : MessageInterface M) (Sig : Type) where
  messageC : Channel
  signedMessage : SignedMessage interface Sig

structure Service {M : Type} (interface : MessageInterface M) (Sig Key : Type) where
  signedMessageCs : Map MessageKey Channel
  /-- Channels from here on have not been made yet. -/
  nextChannel : Channel
  initializations : List Initialization
  readers : List (Reader M Sig Key)
  submitters : List (Submitter interface Sig)

/-- What one party does next. Positions say which of the parties it is, and a
goroutine's action comes with what it would need for a response. -/
inductive Action (M Sig Key : Type) where
  | initializeMessage (request : MessageRequest)
  | readRegistry (position : Nat) (results : RegistryResults Key)
  | processNewSignature (message : M) (blsSignature : Sig) (operatorId : OperatorId)
  | receive (reader submitter : Nat) (indices : Option CheckSignaturesIndices)
      (orders : (info : ValidationInfo Key) → Orders info)
  | timer (reader : Nat) (indices : Option CheckSignaturesIndices)
      (orders : (info : ValidationInfo Key) → Orders info)
  | cancel (submitter : Nat)
  | close (reader : Nat)

inductive Outcome {M : Type} (interface : MessageInterface M) (Sig Key : Type) where
  | continues (service : Service interface Sig Key) (returned : Option (Option ServiceError))
  | crashed

section Actions
variable {M Sig Key : Type} [AddCommGroup Sig] [AddCommGroup Key] {interface : MessageInterface M}

def newMessageBlsAggregatorService : Service interface Sig Key where
  signedMessageCs := Map.empty
  nextChannel := 0
  initializations := []
  readers := []
  submitters := []

def initializeMessageChan (service : Service interface Sig Key) (messageKey : MessageKey) :
    Option (Service interface Sig Key × Channel) :=
  match service.signedMessageCs messageKey with
  | some _ => none
  | none =>
    let signedMessageC := service.nextChannel
    some ({ service with
      signedMessageCs := service.signedMessageCs.insert messageKey signedMessageC
      nextChannel := service.nextChannel + 1 }, signedMessageC)

def initializeMessageIfNotExists (service : Service interface Sig Key) (request : MessageRequest) :
    Outcome interface Sig Key :=
  match validated : validateQuorumThresholdPercentages request.quorumThresholdPercentages with
  | .error (.failed err) => .continues service (some (some err))
  | .error .crashed => .crashed
  | .ok () =>
    match initializeMessageChan service request.messageKey with
    | none => .continues service (some none)
    -- the call goes on to `fetchValidationInfo`, and then to `startMessage`
    | some (service, signedMessageC) =>
      let call := ⟨request, signedMessageC, validate_eq_ok.mp validated⟩
      .continues { service with initializations := call :: service.initializations } none

def startMessage (service : Service interface Sig Key) (position : Nat) (results : RegistryResults Key) :
    Option (Outcome interface Sig Key) := do
  let call ← service.initializations[position]?
  -- whatever the registry says, the call is over; on an error the key stays in the map
  let service := { service with initializations := service.initializations.eraseIdx position }
  match fetchValidationInfo call.request.quorumNumbers call.request.quorumThresholdPercentages call.valid
      call.request.ethBlockNumber results with
  | .error .crashed => return .crashed
  | .error (.failed err) => return .continues service (some (some err))
  | .ok info =>
    let reader := ⟨call.request.messageKey, call.signedMessageC, info, Round.initial info⟩
    return .continues { service with readers := reader :: service.readers } (some none)

def processNewSignature (service : Service interface Sig Key) (message : M) (blsSignature : Sig)
    (operatorId : OperatorId) : Outcome interface Sig Key :=
  match service.signedMessageCs (interface.key message) with
  | none => .continues service (some (some (.messageNotFound (interface.key message))))
  | some messageC =>
    match found : interface.digest message with
    | none => .continues service (some (some .messageDigestNotFound))
    | some messageDigest =>
      let submitter := ⟨messageC, ⟨message, messageDigest, blsSignature, operatorId, found⟩⟩
      .continues { service with submitters := submitter :: service.submitters } none

variable (scheme : SignatureScheme Sig Key)

def readerStep (service : Service interface Sig Key) (position : Nat) (reader : Reader M Sig Key)
    (event : Event interface Sig reader.info) : Option (Outcome interface Sig Key) := do
  let effect ← reader.round.step scheme reader.info reader.messageKey event
  match effect.round.phase with
  | .crashed => return .crashed
  | _ =>
    let readers := service.readers.set position { reader with round := effect.round }
    return .continues { service with readers } effect.reply

def receive (service : Service interface Sig Key) (reader submitter : Nat)
    (indices : Option CheckSignaturesIndices) (orders : (info : ValidationInfo Key) → Orders info) :
    Option (Outcome interface Sig Key) := do
  let goroutine ← service.readers[reader]?
  let call ← service.submitters[submitter]?
  -- a send and a receive on the same channel happen together
  if call.messageC = goroutine.signedMessageC then
    readerStep scheme { service with submitters := service.submitters.eraseIdx submitter } reader goroutine
      (.signed call.signedMessage indices (orders goroutine.info))
  else none

def expire (service : Service interface Sig Key) (reader : Nat) (indices : Option CheckSignaturesIndices)
    (orders : (info : ValidationInfo Key) → Orders info) : Option (Outcome interface Sig Key) := do
  let goroutine ← service.readers[reader]?
  readerStep scheme service reader goroutine (.timer indices (orders goroutine.info))

def closeMessageGoroutine (service : Service interface Sig Key) (reader : Nat) :
    Option (Outcome interface Sig Key) := do
  let goroutine ← service.readers[reader]?
  match goroutine.round.phase with
  -- the entry is deleted by its key
  | .finished =>
    return .continues { service with
      signedMessageCs := service.signedMessageCs.delete goroutine.messageKey
      readers := service.readers.eraseIdx reader } none
  | _ => none

def Service.act (service : Service interface Sig Key) : Action M Sig Key → Option (Outcome interface Sig Key)
  | .initializeMessage request => some (initializeMessageIfNotExists service request)
  | .readRegistry position results => startMessage service position results
  | .processNewSignature message blsSignature operatorId =>
      some (processNewSignature service message blsSignature operatorId)
  | .receive reader submitter indices orders => receive scheme service reader submitter indices orders
  | .timer reader indices orders => expire scheme service reader indices orders
  | .cancel submitter =>
      if submitter < service.submitters.length then
        some (.continues { service with submitters := service.submitters.eraseIdx submitter }
          (some (some .contextDone)))
      else none
  | .close reader => closeMessageGoroutine service reader

def services (interface : MessageInterface M) : System (Service interface Sig Key) (Action M Sig Key) where
  initial service := service = newMessageBlsAggregatorService
  step service action after := ∃ returned, service.act scheme action = some (.continues after returned)

end Actions

end Sffl.Aggregator
