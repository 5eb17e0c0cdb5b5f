import Sffl.Aggregator.CheckpointTasks
import Sffl.Aggregator.Responses
import Sffl.Aggregator.Service

/-! Signatures that are collected under a clock.

A message is accepted for at most the submission timeout after its timestamp. A
response without an error is for the message of the signature that has just been
received or, when a timer sends it, for a message that got one before.
-/

set_option autoImplicit false

namespace Sffl.Aggregator

open Sffl.Evm Sffl.Golang

def validateMessageTimestamp (now : Nat) (messageTimestamp : Uint 64) : Except String Unit :=
  if MESSAGE_SUBMISSION_TIMEOUT < now ∧ messageTimestamp.toNat < now - MESSAGE_SUBMISSION_TIMEOUT then
    .error "Message timeout"
  else .ok ()

theorem validateMessageTimestamp_ok {now : Nat} {messageTimestamp : Uint 64}
    (valid : validateMessageTimestamp now messageTimestamp = .ok ()) : now ≤ messageTimestamp.toNat + 60 := by
  unfold validateMessageTimestamp MESSAGE_SUBMISSION_TIMEOUT at valid
  split at valid
  · cases valid
  · omega

variable {M Sig Key : Type} {interface : MessageInterface M}

def Response.collected (response : Response M Sig Key) : Option M :=
  if response.err.isSome then none else response.message

theorem Response.collected_eq_some {response : Response M Sig Key} {message : M} :
    response.collected = some message ↔ response.err = none ∧ response.message = some message := by
  unfold Response.collected
  cases response.err <;> simp

theorem Effect.read_collected (effect : Effect M Sig Key) :
    effect.read.bind Response.collected = effect.response.bind Response.collected := by
  unfold Effect.read
  cases effect.response <;> rfl

/-! ## What a round answers for -/

section Rounds
variable [AddCommGroup Sig] [AddCommGroup Key] {scheme : SignatureScheme Sig Key} {info : ValidationInfo Key}
  {messageKey : MessageKey} {round : Round M Sig Key} {event : Event interface Sig info} {effect : Effect M Sig Key}
  (taken : round.step scheme info messageKey event = some effect)
include taken

/-- A response is for the message that was received or, from a timer, for the one that reached the threshold. -/
theorem step_collected {response : SharedResponse M Sig Key} (sent : effect.response = some response) {message : M}
    (collected : response.collected = some message) :
    (∃ signedMessage indices orders, event = .signed signedMessage indices orders ∧ signedMessage.message = message) ∨
      ∃ messageDigest, round.phase = .thresholdReached message messageDigest := by
  obtain ⟨noError, carried⟩ := Response.collected_eq_some.mp collected
  unfold Round.step at taken
  split at taken
  next signedMessage indices orders phase =>
    cases taken
    refine Or.inl ⟨signedMessage, indices, orders, rfl, ?_⟩
    rcases signedPreThreshold_cases scheme round signedMessage indices orders with ⟨_, silent, _⟩ | ⟨⟨_, built⟩, _⟩
    · exact absurd (silent.symm.trans sent) nofun
    · exact Option.some.inj ((response_message (built response sent)).symm.trans carried)
  next =>
    -- the first loop's timer only reports an error
    cases taken
    cases sent
    cases noError
  next majority messageDigest signedMessage indices orders phase =>
    cases taken
    refine Or.inl ⟨signedMessage, indices, orders, rfl, ?_⟩
    rcases (signedThresholdReached_cases scheme round messageDigest signedMessage indices orders).2 with
      ⟨_, silent, _⟩ | ⟨_, _, built⟩
    · exact absurd (silent.symm.trans sent) nofun
    · exact Option.some.inj ((response_message (built response sent)).symm.trans carried)
  next majority messageDigest indices orders phase =>
    cases taken
    unfold timerThresholdReached at sent
    split at sent
    · cases sent
    next built =>
      cases sent
      cases (response_message built).symm.trans carried
      exact Or.inr ⟨messageDigest, phase⟩
  · cases taken
  · cases taken

theorem step_entered {message : M} {messageDigest : MessageDigest}
    (reached : effect.round.phase = .thresholdReached message messageDigest) :
    round.phase = .thresholdReached message messageDigest ∨ effect.response.bind Response.collected = some message := by
  cases step_answer taken with
  | silent _ phase =>
    rcases phase with same | crashed
    · exact Or.inl (same.symm.trans reached)
    · exact absurd (crashed.symm.trans reached) nofun
  | expired _ _ ended => exact absurd (ended.symm.trans reached) nofun
  | first signedMessage indices orders response _ _ sent built status next =>
    right
    have entered := next.symm.trans reached
    cases known : response.status with
    | none => rw [known] at entered; cases entered
    | thresholdNotReached => exact absurd known status
    | fullStakeThresholdMet => rw [known] at entered; cases entered
    | thresholdReached =>
      rw [known, phaseAfter, signedMessage.digest_eq] at entered
      cases entered
      rw [sent, Option.bind_some, Response.collected_eq_some]
      exact ⟨(response_status built).mpr (by simp [known]), response_message built⟩
  | later _ _ _ _ _ _ response _ _ _ next =>
    left
    split at next
    · exact absurd (next.symm.trans reached) nofun
    · exact next.symm.trans reached

theorem step_running {response : SharedResponse M Sig Key} (sent : effect.response = some response) :
    effect.round.phase ≠ .crashed := by
  intro crashed
  cases step_answer taken with
  | silent nothing _ => exact absurd (nothing.symm.trans sent) nofun
  | expired _ _ ended => exact absurd (ended.symm.trans crashed) nofun
  | first signedMessage _ _ response _ _ _ _ _ next =>
    rw [crashed] at next
    cases status : response.status <;> simp [status, phaseAfter, signedMessage.digest_eq] at next
  | later _ _ _ _ _ _ _ phase _ _ next =>
    rw [crashed, phase] at next
    split at next <;> cases next

end Rounds

/-! ## What a service answers for -/

section Definitions
variable [AddCommGroup Sig] [AddCommGroup Key] (scheme : SignatureScheme Sig Key)

/-- The response that an action puts on the service's channel, whose reader reads it at once. -/
def Service.response (service : Service interface Sig Key) : Action M Sig Key → Option (Response M Sig Key)
  | .receive reader submitter indices orders => do
    let goroutine ← service.readers[reader]?
    let call ← service.submitters[submitter]?
    let effect ← goroutine.round.step scheme goroutine.info goroutine.messageKey
      (.signed call.signedMessage indices (orders goroutine.info))
    effect.read
  | .timer reader indices orders => do
    let goroutine ← service.readers[reader]?
    let effect ← goroutine.round.step scheme goroutine.info goroutine.messageKey
      (.timer indices (orders goroutine.info) : Event interface Sig goroutine.info)
    effect.read
  | _ => none

def Service.received (service : Service interface Sig Key) : Action M Sig Key → Option M
  | .receive _ submitter _ _ => (service.submitters[submitter]?).map fun call => call.signedMessage.message
  | _ => none

/-- What an action does to the goroutines: some are over and one may start, or one takes a step of its round. -/
inductive ReaderChange (service after : Service interface Sig Key) (action : Action M Sig Key) : Prop where
  | unanswered (nothing : service.response scheme action = none)
      (readers : ∀ reader ∈ after.readers, reader ∈ service.readers ∨ reader.round.phase = .preThreshold)
  | stepped (reader : Reader M Sig Key) (event : Event interface Sig reader.info) (effect : Effect M Sig Key)
      (present : reader ∈ service.readers)
      (taken : reader.round.step scheme reader.info reader.messageKey event = some effect)
      (sent : service.response scheme action = effect.read)
      (received : ∀ signedMessage indices orders, event = .signed signedMessage indices orders →
        service.received action = some signedMessage.message)
      (readers : ∀ other ∈ after.readers, other ∈ service.readers ∨ other = { reader with round := effect.round })

end Definitions

section Services
variable {service after : Service interface Sig Key} {returned : Option (Option ServiceError)}

theorem initializeMessageIfNotExists_readers {request : MessageRequest}
    (done : initializeMessageIfNotExists service request = .continues after returned) :
    after.readers = service.readers := by
  unfold initializeMessageIfNotExists at done
  split at done
  · cases done
    rfl
  · cases done
  · split at done
    · cases done
      rfl
    next made =>
      unfold initializeMessageChan at made
      split at made
      · cases made
      · cases made
        cases done
        rfl

theorem processNewSignature_readers {message : M} {blsSignature : Sig} {operatorId : OperatorId}
    (done : processNewSignature service message blsSignature operatorId = .continues after returned) :
    after.readers = service.readers := by
  unfold processNewSignature at done
  split at done
  · cases done
    rfl
  · split at done <;> cases done <;> rfl

theorem closeMessageGoroutine_readers {position : Nat}
    (done : closeMessageGoroutine service position = some (.continues after returned)) {reader : Reader M Sig Key}
    (present : reader ∈ after.readers) : reader ∈ service.readers := by
  obtain ⟨goroutine, _, rest⟩ := Option.bind_eq_some_iff.mp done
  split at rest
  · cases rest
    exact List.mem_of_mem_eraseIdx present
  · cases rest

variable [AddCommGroup Sig] [AddCommGroup Key] {scheme : SignatureScheme Sig Key}

theorem startMessage_readers {position : Nat} {results : RegistryResults Key}
    (done : startMessage service position results = some (.continues after returned)) {reader : Reader M Sig Key}
    (present : reader ∈ after.readers) : reader ∈ service.readers ∨ reader.round.phase = .preThreshold := by
  obtain ⟨call, _, rest⟩ := Option.bind_eq_some_iff.mp done
  split at rest
  · cases rest
  · cases rest
    exact Or.inl present
  · cases rest
    rcases List.mem_cons.mp present with rfl | old
    · exact Or.inr rfl
    · exact Or.inl old

theorem readerStep_readers {position : Nat} {reader : Reader M Sig Key} {event : Event interface Sig reader.info}
    (done : readerStep scheme service position reader event = some (.continues after returned)) :
    ∃ effect, reader.round.step scheme reader.info reader.messageKey event = some effect ∧
      ∀ other ∈ after.readers, other ∈ service.readers ∨ other = { reader with round := effect.round } := by
  obtain ⟨effect, taken, rest⟩ := Option.bind_eq_some_iff.mp done
  refine ⟨effect, taken, fun other present => ?_⟩
  split at rest
  · cases rest
  · cases rest
    exact List.mem_or_eq_of_mem_set present

theorem act_readers {action : Action M Sig Key} (done : service.act scheme action = some (.continues after returned)) :
    ReaderChange scheme service after action := by
  cases action with
  | initializeMessage request =>
    have same := initializeMessageIfNotExists_readers (Option.some.inj done)
    exact .unanswered rfl fun reader present => Or.inl (same ▸ present)
  | readRegistry position results => exact .unanswered rfl fun reader present => startMessage_readers done present
  | processNewSignature message blsSignature operatorId =>
    have same := processNewSignature_readers (Option.some.inj done)
    exact .unanswered rfl fun reader present => Or.inl (same ▸ present)
  | receive position submitter indices orders =>
    obtain ⟨reader, found, rest⟩ := Option.bind_eq_some_iff.mp done
    obtain ⟨call, waiting, rest⟩ := Option.bind_eq_some_iff.mp rest
    split at rest
    · obtain ⟨effect, taken, readers⟩ := readerStep_readers rest
      refine .stepped reader _ effect (List.mem_of_getElem? found) taken ?_ ?_ readers
      · simp only [Service.response, found, waiting, Option.bind_eq_bind, Option.bind_some, taken]
      · intro signedMessage indices orders same
        cases same
        simp only [Service.received, waiting, Option.map_some]
    · cases rest
  | timer position indices orders =>
    obtain ⟨reader, found, rest⟩ := Option.bind_eq_some_iff.mp done
    obtain ⟨effect, taken, readers⟩ := readerStep_readers rest
    refine .stepped reader _ effect (List.mem_of_getElem? found) taken ?_ (fun _ _ _ same => nomatch same) readers
    simp only [Service.response, found, Option.bind_eq_bind, Option.bind_some, taken]
  | cancel submitter =>
    simp only [Service.act, Option.ite_none_right_eq_some, Option.some.injEq, Outcome.continues.injEq] at done
    obtain ⟨_, rfl, _⟩ := done
    exact .unanswered rfl fun reader present => Or.inl present
  | close position => exact .unanswered rfl fun reader present => Or.inl (closeMessageGoroutine_readers done present)

def Service.Reached (Has : M → Prop) (service : Service interface Sig Key) : Prop :=
  ∀ reader ∈ service.readers, ∀ message messageDigest, reader.round.phase = .thresholdReached message messageDigest →
    Has message

variable {Has : M → Prop} {action : Action M Sig Key}

theorem Service.Reached.collected (reached : service.Reached Has)
    (done : service.act scheme action = some (.continues after returned)) {message : M}
    (collected : (service.response scheme action).bind Response.collected = some message) :
    Has message ∨ service.received action = some message := by
  cases act_readers done with
  | unanswered nothing _ =>
    rw [nothing] at collected
    cases collected
  | stepped reader event effect present taken sent received _ =>
    rw [sent, Effect.read_collected] at collected
    obtain ⟨response, responded, collected⟩ := Option.bind_eq_some_iff.mp collected
    rcases step_collected taken responded collected with
      ⟨signedMessage, indices, orders, same, rfl⟩ | ⟨messageDigest, phase⟩
    · exact Or.inr (received signedMessage indices orders same)
    · exact Or.inl (reached reader present message messageDigest phase)

theorem Service.Reached.act (reached : service.Reached Has)
    (done : service.act scheme action = some (.continues after returned)) {Later : M → Prop}
    (kept : ∀ message, Has message → Later message)
    (stored : ∀ message, (service.response scheme action).bind Response.collected = some message → Later message) :
    after.Reached Later := by
  intro reader present message messageDigest phase
  cases act_readers done with
  | unanswered _ readers =>
    rcases readers reader present with old | fresh
    · exact kept message (reached reader old message messageDigest phase)
    · exact absurd (fresh.symm.trans phase) nofun
  | stepped stepping event effect before taken sent _ readers =>
    rcases readers reader present with old | rfl
    · exact kept message (reached reader old message messageDigest phase)
    · rcases step_entered taken phase with already | collected
      · exact kept message (reached stepping before message messageDigest already)
      · refine stored message ?_
        rw [sent, Effect.read_collected, collected]

end Services

/-! ## Collecting -/

/-- A service with the messages that were accepted for it, and when. -/
structure Collector {M : Type} (interface : MessageInterface M) (Sig Key : Type) where
  service : Service interface Sig Key
  accepted : List (M × Nat)

namespace Collector
variable (timestamp : M → Uint 64)

def accept (collector : Collector interface Sig Key) (clock : Nat) : Action M Sig Key → Except String (List (M × Nat))
  -- a message whose time is over is rejected before it gets to the service
  | .processNewSignature message _ _ => do
    validateMessageTimestamp clock (timestamp message)
    return (message, clock) :: collector.accepted
  | _ => return collector.accepted

structure Sound (Has : M → Prop) (collector : Collector interface Sig Key) : Prop where
  accepted : ∀ signed ∈ collector.accepted, signed.2 ≤ (timestamp signed.1).toNat + 60
  reached : collector.service.Reached Has

variable {timestamp} in
theorem Sound.mono {Has Later : M → Prop} {collector : Collector interface Sig Key} (sound : collector.Sound timestamp Has)
    (kept : ∀ message, Has message → Later message) : collector.Sound timestamp Later :=
  ⟨sound.accepted, fun reader present message messageDigest phase =>
    kept message (sound.reached reader present message messageDigest phase)⟩

variable [DecidableEq M] [AddCommGroup Sig] [AddCommGroup Key] (scheme : SignatureScheme Sig Key)

/-- An action of the service at the time of the clock, with its response. A signature is received at the time at which
its message was accepted. -/
def advance (collector : Collector interface Sig Key) (clock : Nat) (action : Action M Sig Key) :
    Option (Collector interface Sig Key × Option (Response M Sig Key)) :=
  match collector.accept timestamp clock action with
  | .error _ => some (collector, none)
  | .ok accepted =>
    if (collector.service.received action).all fun message => (message, clock) ∈ accepted then
      match collector.service.act scheme action with
      | some (.continues service _) => some (⟨service, accepted⟩, collector.service.response scheme action)
      | _ => none
    else none

variable {timestamp scheme} {Has : M → Prop} {collector after : Collector interface Sig Key} {clock : Nat}
  {action : Action M Sig Key} {response : Option (Response M Sig Key)}

omit [DecidableEq M] [AddCommGroup Sig] [AddCommGroup Key] in
theorem Sound.accept (sound : collector.Sound timestamp Has) {accepted : List (M × Nat)}
    (valid : collector.accept timestamp clock action = .ok accepted) :
    ∀ signed ∈ accepted, signed.2 ≤ (timestamp signed.1).toNat + 60 := by
  unfold Collector.accept at valid
  split at valid
  next message _ _ =>
    obtain ⟨_, inTime, same⟩ := bind_eq_ok.mp valid
    cases same
    exact List.forall_mem_cons.mpr ⟨validateMessageTimestamp_ok inTime, sound.accepted⟩
  · cases valid
    exact sound.accepted

/-- A step is for a message that has a row already, or for one that was accepted just now. When its row is there, the
collector is sound again. -/
theorem Sound.advance (sound : collector.Sound timestamp Has)
    (one : collector.advance timestamp scheme clock action = some (after, response)) :
    (∀ message, response.bind Response.collected = some message → Has message ∨ clock ≤ (timestamp message).toNat + 60) ∧
    ∀ Later : M → Prop, (∀ message, Has message → Later message) →
      (∀ message, response.bind Response.collected = some message → Later message) →
      after.Sound timestamp Later := by
  unfold Collector.advance at one
  split at one
  · cases one
    exact ⟨nofun, fun _ kept _ => sound.mono kept⟩
  next accepted valid =>
    have inTime := sound.accept valid
    split at one
    next now =>
      split at one
      next service _ acted =>
        cases one
        refine ⟨fun message collected => (sound.reached.collected acted collected).imp_right fun received => ?_,
          fun Later kept stored => ⟨inTime, sound.reached.act acted kept stored⟩⟩
        rw [received, Option.all_some, decide_eq_true_eq] at now
        exact inTime _ now
      · cases one
    · cases one

theorem advance_receive {position submitter : Nat} {reader : Reader M Sig Key}
    {call : Submitter interface Sig} {indices : Option CheckSignaturesIndices}
    {orders : (info : ValidationInfo Key) → Orders info} {effect : Effect M Sig Key}
    (found : collector.service.readers[position]? = some reader)
    (waiting : collector.service.submitters[submitter]? = some call) (channel : call.messageC = reader.signedMessageC)
    (now : (call.signedMessage.message, clock) ∈ collector.accepted)
    (taken : reader.round.step scheme reader.info reader.messageKey
      (.signed call.signedMessage indices (orders reader.info)) = some effect)
    (running : effect.round.phase ≠ .crashed) :
    ∃ after, collector.advance timestamp scheme clock (.receive position submitter indices orders) =
      some (after, effect.read) := by
  simp only [Collector.advance, Collector.accept, Service.received, waiting, Service.response, found, Service.act, receive,
    readerStep, Option.map_some, pure, Except.pure, Option.all_some, now, decide_true, if_true, channel,
    Option.bind_eq_bind, Option.bind_some, taken]
  cases phase : effect.round.phase with
  | crashed => exact absurd phase running
  | preThreshold => exact ⟨_, rfl⟩
  | thresholdReached => exact ⟨_, rfl⟩
  | finished => exact ⟨_, rfl⟩

end Collector

end Sffl.Aggregator
