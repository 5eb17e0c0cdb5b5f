import Sffl.Borsh.Format
import Sffl.Indexer.CandidatesValidator

/-! The publisher's task.

`RmqPublisherTask` takes messages from the validator only while it is connected,
and hands them to the exchange one at a time. If a publication fails it connects
again. The message that it had in hand is not published again. The serializer
comes from a library and is a parameter.
-/

set_option autoImplicit false

namespace Sffl.Indexer.RmqPublisher

open Sffl.Evm Sffl.Borsh Sffl.Semantics Sffl.Indexer.CandidatesValidator

/-- The `serialize` that Borsh derives for a payload. It fails only on data whose length does not fit into its field of
four bytes. -/
structure PayloadSerializer where
  serialize : PublishPayload → Option Bytes
  tooLong_of_eq_none : ∀ payload, serialize payload = none → 2 ^ 32 ≤ payload.data.length

/-! ## The task -/

inductive PoolAnswer where
  | connected
  | timeout
  | backend
  | closed
  | noRuntimeSpecified
  | postCreateHook
  deriving DecidableEq, Repr

inductive PublishAnswer where
  | published
  /-- The message may have reached the exchange. -/
  | failed (reached : Bool)
  deriving DecidableEq, Repr

/-- Where the task is: inside `connect`, asleep, inside `process_stream`, or done. -/
inductive Stage where
  | connecting
  | declaring
  | waitingForConnection
  | receiving
  | publishing (data : PublishData) (payload : Bytes)
  | shutdown
  deriving DecidableEq

inductive Fate where
  | unserializable
  | published
  | failed (reached : Bool)
  deriving DecidableEq, Repr

structure Publisher where
  stage : Stage
  received : List PublishData
  departed : List (PublishData × Fate)
  /-- What the exchange has got. -/
  exchanged : List (PublishOptions × Bytes)
  deriving DecidableEq

inductive PublisherEvent where
  | getConnection (answer : PoolAnswer)
  | exchangeDeclare (ok : Bool)
  | reconnect
  | receive (data : PublishData)
  /-- Nobody is left to send. -/
  | closed
  | publish (answer : PublishAnswer)
  deriving DecidableEq

def newPublisher : Publisher where
  stage := .connecting
  received := []
  departed := []
  exchanged := []

def Stage.afterGet : PoolAnswer → Stage
  | .connected => .declaring
  | .timeout => .waitingForConnection
  | .backend => .waitingForConnection
  | .closed => .shutdown
  | .noRuntimeSpecified => .shutdown
  | .postCreateHook => .shutdown

section Machine
variable (serializer : PayloadSerializer)

def Publisher.step (publisher : Publisher) : PublisherEvent → Option Publisher
  | .getConnection answer =>
    if publisher.stage = .connecting then some { publisher with stage := .afterGet answer } else none
  | .exchangeDeclare ok =>
    if publisher.stage = .declaring then
      some { publisher with stage := if ok then .receiving else .waitingForConnection }
    else none
  | .reconnect =>
    if publisher.stage = .waitingForConnection then some { publisher with stage := .connecting } else none
  | .receive data =>
    if publisher.stage = .receiving then
      let received := publisher.received ++ [data]
      match serializer.serialize data.payload with
      | none => some { publisher with received, departed := publisher.departed ++ [(data, .unserializable)] }
      | some payload => some { publisher with received, stage := .publishing data payload }
    else none
  | .closed => if publisher.stage = .receiving then some { publisher with stage := .shutdown } else none
  | .publish answer =>
    match publisher.stage with
    | .publishing data payload =>
      let exchanged := publisher.exchanged ++ [(data.publishOptions, payload)]
      match answer with
      | .published => some { publisher with
          exchanged, stage := .receiving, departed := publisher.departed ++ [(data, .published)] }
      | .failed reached => some { publisher with
          exchanged := if reached then exchanged else publisher.exchanged
          stage := .waitingForConnection
          departed := publisher.departed ++ [(data, .failed reached)] }
    | _ => none

def publishers : System Publisher PublisherEvent where
  initial publisher := publisher = newPublisher
  step publisher event after := publisher.step serializer event = some after

end Machine

/-! ## What becomes of the messages -/

def Stage.hand : Stage → List PublishData
  | .publishing data _ => [data]
  | _ => []

def Fate.reached : Fate → Bool
  | .unserializable => false
  | .published => true
  | .failed reached => reached

def Fate.isFailed : Fate → Bool
  | .failed _ => true
  | _ => false

def PublisherEvent.isFailure : PublisherEvent → Bool
  | .publish (.failed _) => true
  | _ => false

/-- Nothing waits: a message is in hand or gone. -/
def Publisher.belt (publisher : Publisher) : Conveyor PublishData Fate where
  departed := publisher.departed
  queue := []
  hand := publisher.stage.hand

section Envelopes
variable (serializer : PayloadSerializer)

/-- A message as the exchange gets it. -/
def envelope (data : PublishData) : Option (PublishOptions × Bytes) :=
  (serializer.serialize data.payload).map (data.publishOptions, ·)

variable {serializer} in
theorem envelope_eq_some {data : PublishData} {item : PublishOptions × Bytes} :
    envelope serializer data = some item ↔
      data.publishOptions = item.1 ∧ serializer.serialize data.payload = some item.2 := by
  rw [envelope, Option.map_eq_some_iff]
  constructor
  · rintro ⟨payload, written, rfl⟩
    exact ⟨rfl, written⟩
  · rintro ⟨options, written⟩
    exact ⟨item.2, written, Prod.ext options rfl⟩

inductive PublisherStep (publisher : Publisher) : PublisherEvent → Publisher → Prop where
  | turn {event : PublisherEvent} {stage : Stage} : ¬ event.isFailure → publisher.stage.hand = [] → stage.hand = [] →
      PublisherStep publisher event { publisher with stage }
  | drop {data : PublishData} : publisher.stage = .receiving → serializer.serialize data.payload = none →
      PublisherStep publisher (.receive data) { publisher with
        received := publisher.received ++ [data]
        departed := publisher.departed ++ [(data, .unserializable)] }
  | take {data : PublishData} {payload : Bytes} : publisher.stage = .receiving →
      serializer.serialize data.payload = some payload →
      PublisherStep publisher (.receive data)
        { publisher with received := publisher.received ++ [data], stage := .publishing data payload }
  | publish {data : PublishData} {payload : Bytes} : publisher.stage = .publishing data payload →
      PublisherStep publisher (.publish .published) { publisher with
        exchanged := publisher.exchanged ++ [(data.publishOptions, payload)]
        stage := .receiving
        departed := publisher.departed ++ [(data, .published)] }
  | fail {data : PublishData} {payload : Bytes} {reached : Bool} : publisher.stage = .publishing data payload →
      PublisherStep publisher (.publish (.failed reached)) { publisher with
        exchanged := if reached then publisher.exchanged ++ [(data.publishOptions, payload)] else publisher.exchanged
        stage := .waitingForConnection
        departed := publisher.departed ++ [(data, .failed reached)] }

end Envelopes

section Steps
variable {serializer : PayloadSerializer} {publisher after : Publisher} {event : PublisherEvent}

theorem publisherStep_of_step (step : publisher.step serializer event = some after) :
    PublisherStep serializer publisher event after := by
  cases event with
  | getConnection answer =>
    obtain ⟨connecting, done⟩ := Option.ite_none_right_eq_some.mp step
    cases done
    refine .turn Bool.false_ne_true (by rw [connecting]; rfl) ?_
    cases answer with
    | _ => rfl
  | exchangeDeclare ok =>
    obtain ⟨declaring, done⟩ := Option.ite_none_right_eq_some.mp step
    cases done
    refine .turn Bool.false_ne_true (by rw [declaring]; rfl) ?_
    cases ok with
    | _ => rfl
  | reconnect =>
    obtain ⟨waiting, done⟩ := Option.ite_none_right_eq_some.mp step
    cases done
    exact .turn Bool.false_ne_true (by rw [waiting]; rfl) rfl
  | receive data =>
    obtain ⟨receiving, done⟩ := Option.ite_none_right_eq_some.mp step
    split at done
    next unwritten =>
      cases done
      exact .drop receiving unwritten
    next payload written =>
      cases done
      exact .take receiving written
  | closed =>
    obtain ⟨receiving, done⟩ := Option.ite_none_right_eq_some.mp step
    cases done
    exact .turn Bool.false_ne_true (by rw [receiving]; rfl) rfl
  | publish answer =>
    simp only [Publisher.step] at step
    split at step
    next data payload publishing =>
      cases answer with
      | published =>
        cases step
        exact .publish publishing
      | failed reached =>
        cases step
        exact .fail publishing
    next => cases step

/-- What is written for the message in hand is its envelope, and the exchange has got the envelopes of the messages that
reached it. -/
structure Publisher.Kept (serializer : PayloadSerializer) (history : List PublisherEvent) (publisher : Publisher) : Prop where
  taken : publisher.belt.taken = publisher.received
  writing : ∀ data payload, publisher.stage = .publishing data payload →
    envelope serializer data = some (data.publishOptions, payload)
  exchanged : publisher.exchanged.map some =
    (publisher.departed.filter (·.2.reached)).map fun message => envelope serializer message.1
  failures : publisher.departed.countP (·.2.isFailed) = history.countP PublisherEvent.isFailure
  unserializable : ∀ data, (data, .unserializable) ∈ publisher.departed → 2 ^ 32 ≤ data.payload.data.length

theorem belt_step (step : PublisherStep serializer publisher event after) :
    ∃ items, after.belt.taken = publisher.belt.taken ++ items ∧ after.received = publisher.received ++ items := by
  cases step with
  | turn _ before now => exact ⟨[], by simp [Conveyor.taken_eq, Publisher.belt, before, now]⟩
  | @drop data receiving => exact ⟨[data], by simp [Conveyor.taken_eq, Publisher.belt, receiving, Stage.hand]⟩
  | @take data _ receiving => exact ⟨[data], by simp [Conveyor.taken_eq, Publisher.belt, receiving, Stage.hand]⟩
  | publish publishing => exact ⟨[], by simp [Conveyor.taken_eq, Publisher.belt, publishing, Stage.hand]⟩
  | fail publishing => exact ⟨[], by simp [Conveyor.taken_eq, Publisher.belt, publishing, Stage.hand]⟩

theorem unserializable_concat {departed : List (PublishData × Fate)}
    (earlier : ∀ data, (data, .unserializable) ∈ departed → 2 ^ 32 ≤ data.payload.data.length) {data : PublishData}
    {fate : Fate} (last : fate = .unserializable → 2 ^ 32 ≤ data.payload.data.length) :
    ∀ other, (other, .unserializable) ∈ departed ++ [(data, fate)] → 2 ^ 32 ≤ other.payload.data.length := by
  intro other member
  rcases List.mem_append.mp member with before | here
  · exact earlier other before
  · cases List.mem_singleton.mp here
    exact last rfl

theorem Publisher.Kept.step {history : List PublisherEvent} (kept : publisher.Kept serializer history)
    (step : PublisherStep serializer publisher event after) : after.Kept serializer (history ++ [event]) := by
  obtain ⟨items, moved, received⟩ := belt_step step
  have taken : after.belt.taken = after.received := by rw [moved, received, kept.taken]
  have failures := kept.failures
  have exchanged := kept.exchanged
  cases step with
  | @turn _ stage ordinary _ nothing =>
    refine ⟨taken, ?_, exchanged, ?_, kept.unserializable⟩
    · rintro data payload rfl
      cases nothing
    · simp [failures, ordinary]
  | @drop data receiving unwritten =>
    have long := serializer.tooLong_of_eq_none data.payload unwritten
    refine ⟨taken, ?_, ?_, ?_, unserializable_concat kept.unserializable fun _ => long⟩
    · intro data payload publishing
      rw [receiving] at publishing
      cases publishing
    · simp [Fate.reached, exchanged]
    · rw [List.countP_append, List.countP_append, failures]
      rfl
  | @take data payload receiving written =>
    refine ⟨taken, ?_, exchanged, ?_, kept.unserializable⟩
    · intro _ _ publishing
      cases publishing
      exact envelope_eq_some.mpr ⟨rfl, written⟩
    · simp [failures, PublisherEvent.isFailure]
  | @publish data payload publishing =>
    refine ⟨taken, nofun, ?_, ?_, unserializable_concat kept.unserializable nofun⟩
    · simp [Fate.reached, exchanged, kept.writing data payload publishing]
    · rw [List.countP_append, List.countP_append, failures]
      rfl
  | @fail data payload reached publishing =>
    refine ⟨taken, nofun, ?_, ?_, unserializable_concat kept.unserializable nofun⟩
    · cases reached with
      | false => simp [Fate.reached, exchanged]
      | true => simp [Fate.reached, exchanged, kept.writing data payload publishing]
    · rw [List.countP_append, List.countP_append, failures]
      rfl

theorem newPublisher_kept : newPublisher.Kept serializer [] where
  taken := rfl
  writing := nofun
  exchanged := rfl
  failures := rfl
  unserializable := nofun

theorem kept_of_run {history : List PublisherEvent} (run : (publishers serializer).Run history publisher) :
    publisher.Kept serializer history := by
  apply run.invariant fun history publisher => publisher.Kept serializer history
  · rintro _ rfl
    exact newPublisher_kept
  · intro history publisher event after kept _ step
    exact kept.step (publisherStep_of_step step)

end Steps

/-! ## Accounting for every message -/

theorem payload_fields (payload : PublishPayload) : PublishPayload.mk payload.transactionId payload.data = payload := rfl

def payloadFormat : Format PublishPayload :=
  record (pair array32 (vec byte)) (fun fields => ⟨fields.1, fields.2⟩)
    (fun payload => (payload.transactionId, payload.data)) payload_fields

theorem payloadFormat_tooLong (payload : PublishPayload) (unwritten : payloadFormat.write payload = none) :
    2 ^ 32 ≤ payload.data.length := by
  apply vec_byte_write_eq_none.mp
  cases written : (vec byte).write payload.data with
  | none => rfl
  | some rest =>
    have laidOut : payloadFormat.write payload = some (wordBytes payload.transactionId ++ rest) := by
      show ((vec byte).write payload.data).bind _ = _
      rw [written]
      rfl
    exact absurd (laidOut.symm.trans unwritten) (Option.some_ne_none _)

def borshSerializer : PayloadSerializer := ⟨payloadFormat.write, payloadFormat_tooLong⟩

def block (transactionId : CryptoHash) : PublishData := ⟨{ routingKey := getRoutingKey 1 }, ⟨0⟩, ⟨transactionId, [7]⟩⟩

end Sffl.Indexer.RmqPublisher
