import Sffl.Indexer.BlockListener
import Sffl.Indexer.Publications
import Sffl.Indexer.RmqPublisher
import Sffl.Semantics.Parallel

/-! The indexer's tasks together.

The listener hands candidates to the validator through one channel, and the
validator its publications to the publisher through another. What comes out at
the exchange goes back to a transaction of the stream.
-/

set_option autoImplicit false

namespace Sffl.Indexer

open Sffl.Evm Sffl.Semantics
open BlockListener (Listener ListenerConfig ListenerEvent listeners newListener listenerStep_of_step)
open CandidatesValidator (Validator ValidatorEvent validators newValidator validatorStep_of_step publications
  PublishData PublishOptions PublishPayload getRoutingKey)
open RmqPublisher (Publisher PublisherEvent PayloadSerializer publishers newPublisher publisherStep_of_step envelope
  borshSerializer)

def readCandidate (listener : Listener) : ListenerEvent → Option CandidateData
  | .read => listener.shared.channel.head?
  | _ => none

def takenCandidate : ValidatorEvent → Option CandidateData
  | .receive candidate => some candidate
  | _ => none

def takenPublication : PublisherEvent → Option PublishData
  | .receive data => some data
  | _ => none

def ReadsCandidate (listener : Listener) (_ : Validator) (event : Option ListenerEvent) (signal : Option ValidatorEvent) :
    Prop :=
  signal.bind takenCandidate = event.bind (readCandidate listener)

def listenersAndValidators (config : ListenerConfig) :
    System (Listener × Validator) (Option ListenerEvent × Option ValidatorEvent) :=
  (listeners config).parallel validators ReadsCandidate

/-- The publisher takes the next publication. Those that it has not taken are in the channel, or wait for room in it. -/
def ReadsPublication (tasks : Listener × Validator) (publisher : Publisher)
    (_ : Option (Option ListenerEvent × Option ValidatorEvent)) (signal : Option PublisherEvent) : Prop :=
  ∀ data ∈ signal.bind takenPublication, tasks.2.shared.published[publisher.received.length]? = some data

abbrev IndexerEvent := Option (Option ListenerEvent × Option ValidatorEvent) × Option PublisherEvent

def indexers (config : ListenerConfig) (serializer : PayloadSerializer) :
    System ((Listener × Validator) × Publisher) IndexerEvent :=
  (listenersAndValidators config).parallel (publishers serializer) ReadsPublication

/-! ## The channels -/

section Channels
variable {config : ListenerConfig} {serializer : PayloadSerializer}

theorem listener_received (listener : Listener) (event : ListenerEvent) (after : Listener)
    (step : listener.step config event = some after) :
    after.shared.received = listener.shared.received ++ (readCandidate listener event).toList := by
  have round {shared next : BlockListener.Shared} {now : Nat} {flush : BlockListener.Flush}
      (done : BlockListener.FlushRound config shared now (next, flush)) : next.received = shared.received := by
    cases done with
    | _ => rfl
  by_cases reading : event = .read
  · subst reading
    simp only [Listener.step] at step
    split at step
    next => cases step
    next candidate rest waiting =>
      cases step
      simp [readCandidate, waiting]
  · have nothing : readCandidate listener event = none := by
      cases event with
      | read => exact absurd rfl reading
      | _ => rfl
    rw [nothing, Option.toList_none, List.append_nil]
    cases listenerStep_of_step step with
    | flush _ done => exact round done
    | tickerFlush _ done => exact round done
    | read => exact absurd rfl reading
    | _ => rfl

theorem validator_received (validator : Validator) (event : ValidatorEvent) (after : Validator)
    (step : validator.step event = some after) : after.received = validator.received ++ (takenCandidate event).toList := by
  by_cases receiving : ∃ candidate, event = .receive candidate
  · obtain ⟨candidate, rfl⟩ := receiving
    obtain ⟨_, done⟩ := Option.ite_none_right_eq_some.mp step
    cases done
    rfl
  · have nothing : takenCandidate event = none := by
      cases event with
      | receive candidate => exact absurd ⟨candidate, rfl⟩ receiving
      | _ => rfl
    rw [nothing, Option.toList_none, List.append_nil]
    cases validatorStep_of_step step with
    | receive => exact absurd ⟨_, rfl⟩ receiving
    | _ => rfl

theorem publisher_received (publisher : Publisher) (event : PublisherEvent) (after : Publisher)
    (step : publisher.step serializer event = some after) : after.received = publisher.received ++ (takenPublication event).toList := by
  by_cases receiving : ∃ data, event = .receive data
  · obtain ⟨data, rfl⟩ := receiving
    obtain ⟨_, done⟩ := Option.ite_none_right_eq_some.mp step
    split at done
    next =>
      cases done
      rfl
    next =>
      cases done
      rfl
  · have nothing : takenPublication event = none := by
      cases event with
      | receive data => exact absurd ⟨data, rfl⟩ receiving
      | _ => rfl
    rw [nothing, Option.toList_none, List.append_nil]
    cases publisherStep_of_step step with
    | drop => exact absurd ⟨_, rfl⟩ receiving
    | take => exact absurd ⟨_, rfl⟩ receiving
    | _ => rfl

/-- The candidates that the validator receives are those of the stream, in order and each at most once. -/
theorem received_sublist {history : List (Option ListenerEvent × Option ValidatorEvent)} {tasks : Listener × Validator}
    (run : (listenersAndValidators config).Run history tasks) :
    tasks.2.received.Sublist (tasks.1.extracted config) := by
  have handed : tasks.1.shared.received = tasks.2.received := by
    let taken := (history.filterMap Prod.snd).filterMap takenCandidate
    have given : tasks.1.shared.received = taken := by
      refine run.handed_eq_taken (·.shared.received) readCandidate takenCandidate ?_ listener_received
        fun _ _ _ _ allowed => allowed
      rintro _ rfl
      rfl
    have received : tasks.2.received = taken := by
      refine run.snd.log_eq Validator.received takenCandidate ?_ validator_received
      rintro _ rfl
      rfl
    exact given.trans received.symm
  have kept := BlockListener.kept_of_run run.fst
  rw [← handed]
  refine (List.sublist_append_left _ tasks.1.shared.channel).trans ?_
  rw [kept.shared.sent, ← kept.taken, Conveyor.taken_eq, List.append_assoc]
  exact (List.filter_sublist.map Prod.fst).trans (List.sublist_append_left _ _)

variable {history : List IndexerEvent} {listener : Listener} {validator : Validator} {publisher : Publisher}

theorem received_published (run : (indexers config serializer).Run history ((listener, validator), publisher)) :
    publisher.received <+: validator.shared.published := by
  have start (publisher : Publisher) (initial : (publishers serializer).initial publisher) : publisher.received = [] := by
    cases initial
    rfl
  have grows (tasks : Listener × Validator) (event : Option ListenerEvent × Option ValidatorEvent)
      (after : Listener × Validator) (step : (listenersAndValidators config).step tasks event after) :
      tasks.2.shared.published <+: after.2.shared.published := by
    obtain ⟨event, signal⟩ := event
    obtain ⟨_, _, step⟩ := step
    cases signal with
    | none =>
      have same : after.2 = tasks.2 := step
      rw [same]
    | some signal => exact CandidatesValidator.published_grows (validatorStep_of_step step)
  exact System.Run.received_prefix_sent takenPublication Publisher.received
    (fun tasks : Listener × Validator => tasks.2.shared.published) start grows publisher_received
    (fun tasks publisher event signal (allowed : ReadsPublication tasks publisher event signal) => allowed) run

/-- What reaches the exchange is an argument of a `submit` call, with the hash of its transaction. The transaction is to
the contract of the rollup that the message is routed to, and was seen to succeed. -/
structure Submission (config : ListenerConfig) (serializer : PayloadSerializer) (listener : Listener) (validator : Validator)
    (item : PublishOptions × Bytes) (candidate : CandidateData) (data : Bytes) : Prop where
  stream : ∃ message ∈ listener.messages, candidate ∈ extractCandidates config.addressesToRollupIds message
  argument : data ∈ candidate.payloads
  success : (candidate, .successValue) ∈ validator.shared.outcomes
  routed : item.1.routingKey = getRoutingKey candidate.rollupId
  written : serializer.serialize ⟨candidate.transaction.transaction.hash, data⟩ = some item.2

theorem submission_of_exchanged (run : (indexers config serializer).Run history ((listener, validator), publisher))
    {item : PublishOptions × Bytes} (exchanged : item ∈ publisher.exchanged) :
    ∃ candidate data, Submission config serializer listener validator item candidate data := by
  have tasks := run.fst
  have kept := RmqPublisher.kept_of_run run.snd
  -- the exchange got the envelope of a message that the publisher had received
  have handed : some item ∈ publisher.exchanged.map some := List.mem_map_of_mem exchanged
  rw [kept.exchanged] at handed
  obtain ⟨⟨message, fate⟩, reached, enclosed⟩ := List.mem_map.mp handed
  have departed : message ∈ publisher.departed.map Prod.fst := List.mem_map_of_mem (List.mem_of_mem_filter reached)
  have received : message ∈ publisher.received := by
    have taken := kept.taken
    rw [Conveyor.taken_eq] at taken
    rw [← taken]
    exact List.mem_append_left _ (List.mem_append_left _ departed)
  -- the validator had published it for a candidate that succeeded
  have published := (received_published run).subset received
  obtain ⟨candidate, known, success, payload⟩ := (CandidatesValidator.confirmed_of_run tasks.snd).shared message published
  obtain ⟨data, argument, rfl⟩ := List.mem_map.mp payload
  obtain ⟨options, written⟩ := RmqPublisher.envelope_eq_some.mp enclosed
  have stream := List.mem_flatMap.mp ((received_sublist tasks).subset known)
  exact ⟨candidate, data, stream, argument, success, options ▸ rfl, written⟩

end Channels

/-! ## A submission on its way -/

instance (listener : Listener) (validator : Validator) (event : Option ListenerEvent) (signal : Option ValidatorEvent) :
    Decidable (ReadsCandidate listener validator event signal) :=
  inferInstanceAs (Decidable (_ = _))

instance (tasks : Listener × Validator) (publisher : Publisher) (event : Option (Option ListenerEvent × Option ValidatorEvent))
    (signal : Option PublisherEvent) : Decidable (ReadsPublication tasks publisher event signal) :=
  inferInstanceAs (Decidable (∀ data ∈ _, _))

def indexerStep (config : ListenerConfig) (serializer : PayloadSerializer) (state : (Listener × Validator) × Publisher) (event : IndexerEvent) :
    Option ((Listener × Validator) × Publisher) :=
  System.advance (System.advance (Listener.step config) Validator.step ReadsCandidate) (Publisher.step serializer)
    ReadsPublication state event

theorem indexerStep_sound (config : ListenerConfig) (serializer : PayloadSerializer)
    (state : (Listener × Validator) × Publisher) (event : IndexerEvent) (after : (Listener × Validator) × Publisher)
    (done : indexerStep config serializer state event = some after) :
    (indexers config serializer).step state event after := by
  apply System.advance_sound _ _ _ _ _ done
  · apply System.advance_sound
    · exact fun _ _ _ one => one
    · exact fun _ _ _ one => one
  · exact fun _ _ _ one => one

def listens (event : ListenerEvent) : IndexerEvent := (some (some event, none), none)

def validates (event : ValidatorEvent) : IndexerEvent := (some (none, some event), none)

def publishes (event : PublisherEvent) : IndexerEvent := (none, some event)

def daConfig : ListenerConfig where
  addressesToRollupIds account := if account = "da.near" then some 1 else none
  capacity := 1000
  expirationTimeout := BlockListener.EXPIRATION_TIMEOUT

def daTransaction (args : Bytes) : IndexerTransactionWithOutcome where
  transaction := ⟨"sequencer.near", "da.near", [.functionCall "submit" args], 9⟩
  executionOutcome := ⟨0, .successReceiptId⟩

def daCandidate (args : Bytes) : CandidateData := ⟨1, daTransaction args, [args]⟩

def submissionRun (args : Bytes) : List IndexerEvent :=
  [listens (.message ⟨[⟨some ⟨[daTransaction args]⟩⟩]⟩), listens .lock, listens .flushed, listens .trySend,
    (some (some .read, some (.receive (daCandidate args))), none),
    validates .lock, validates .flushed, validates .check, validates (.fetch (.ok (some .successValue))), validates .publish,
    publishes (.getConnection .connected), publishes (.exchangeDeclare true),
    publishes (.receive (CandidatesValidator.publishData (daCandidate args) args)), publishes (.publish .published)]

end Sffl.Indexer
