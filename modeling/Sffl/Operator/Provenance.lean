import Sffl.Indexer.Pipeline
import Sffl.Operator.Attestations
import Sffl.Operator.QueuesListener

/-! From a transaction on NEAR to an operator's signature.

The indexer publishes to the exchange, the broker delivers to the consumer's
queues, and the attestor gets the blocks. Of the broker it is assumed that a queue
gets what was published under its binding key, any number of times and in any
order, and nothing else.
-/

set_option autoImplicit false

namespace Sffl.Operator

open Sffl.Evm Sffl.Rollup Sffl.Semantics Sffl.Borsh
open Sffl.Indexer (IndexerEvent Submission extractCandidates indexers submission_of_exchanged indexerStep indexerStep_sound
  daConfig submissionRun)
open Sffl.Indexer.BlockListener (Listener ListenerConfig newListener)
open Sffl.Indexer.CandidatesValidator (Validator EXCHANGE_NAME getRoutingKey newValidator)
open Sffl.Indexer.RmqPublisher (Publisher PayloadSerializer publisherStep_of_step newPublisher borshSerializer)

def getRotingKey (rollupId : Uint 32) : String := "rollup" ++ toString rollupId.toNat

/-- The two sides' routing keys agree, and only for the same rollup. -/
theorem getRoutingKey_eq_getRotingKey {rollupId : UInt32} {other : Uint 32}
    (same : getRoutingKey rollupId = getRotingKey other) : rollupId.toBitVec = other := by
  have decimal : rollupId.toNat.repr = other.toNat.repr := (String.append_right_inj "rollup").mp same
  rw [Nat.repr_eq_ofList_toDigits, Nat.repr_eq_ofList_toDigits, String.ofList_inj] at decimal
  have digits := congrArg (Nat.ofDigitChars 10 · 0) decimal
  simp only [Nat.ofDigitChars_ten_toDigits] at digits
  exact BitVec.eq_of_toNat_eq digits

/-! ## The broker -/

def delivery : QueuesEvent → Option (Nat × Bytes)
  | .deliver id body => some (id, body)
  | _ => none

def Routed (publisher : Publisher) (rollupId : Uint 32) (body : Bytes) : Prop :=
  ∃ item ∈ publisher.exchanged, item.1.exchange = EXCHANGE_NAME ∧ item.1.routingKey = getRotingKey rollupId ∧ item.2 = body

def Delivers (indexer : (Listener × Validator) × Publisher) (queues : Queues) (_ : Option IndexerEvent)
    (signal : Option QueuesEvent) : Prop :=
  ∀ delivered ∈ signal.bind delivery, ∀ routine ∈ queues.routines[delivered.1]?,
    Routed indexer.2 routine.rollupId delivered.2

def Listen.bodies (routine : Listen) : List Bytes :=
  routine.settled.map Prod.fst ++
    match routine.stage with
    | .emitting body _ => [body]
    | _ => []

section Broker
variable {decoders : Decoders} {serializer : PayloadSerializer}

theorem Routed.mono {publisher after : Publisher} {rollupId : Uint 32} {body : Bytes}
    (routed : Routed publisher rollupId body) (grows : publisher.exchanged ⊆ after.exchanged) : Routed after rollupId body := by
  obtain ⟨item, exchanged, route⟩ := routed
  exact ⟨item, grows exchanged, route⟩

theorem exchanged_subset {publisher after : Publisher} {event : Indexer.RmqPublisher.PublisherEvent}
    (step : publisher.step serializer event = some after) : publisher.exchanged ⊆ after.exchanged := by
  cases publisherStep_of_step step with
  | publish => exact List.subset_append_left _ _
  | @fail _ _ reached =>
    cases reached with
    | false => exact List.Subset.refl _
    | true => exact List.subset_append_left _ _
  | _ => exact List.Subset.refl _

theorem rollupId_of_listenStep {routine moved : Listen} {taken : Option Bytes} {block : Option BlockData}
    (step : ListenStep decoders routine taken block moved) : moved.rollupId = routine.rollupId := by
  cases step with
  | _ => rfl

theorem bodies_of_listenStep {routine moved : Listen} {taken : Option Bytes} {block : Option BlockData}
    (step : ListenStep decoders routine taken block moved) : moved.bodies ⊆ routine.bodies ++ taken.toList := by
  cases step with
  | reject selecting => simp [Listen.bodies, selecting]
  | accept selecting => simp [Listen.bodies, selecting]
  | emit emitting => simp [Listen.bodies, emitting]
  | ack emitting => simp [Listen.bodies, emitting]
  | leave selecting => simp [Listen.bodies, selecting]

variable {config : ListenerConfig} {rollupIds : List (Uint 32)}
  {history : List (Option IndexerEvent × Option QueuesEvent)} {state : ((Listener × Validator) × Publisher) × Queues}

/-- Whatever a routine was given had been published for its rollup. -/
theorem bodies_routed
    (run : ((indexers config serializer).parallel (consumerQueues decoders rollupIds) Delivers).Run history state) :
    ∀ routine ∈ state.2.routines, ∀ body ∈ routine.bodies, Routed state.1.2 routine.rollupId body := by
  induction run with
  | start initial =>
    have queues := initial.2
    rw [queues]
    exact nofun
  | @next history state after event _ _ step before =>
    obtain ⟨event, signal⟩ := event
    obtain ⟨allowed, left, right⟩ := step
    have grows : state.1.2.exchanged ⊆ after.1.2.exchanged := by
      cases event with
      | none =>
        have same : after.1 = state.1 := left
        rw [same]
        exact List.Subset.refl _
      | some event =>
        obtain ⟨_, publisher⟩ := event
        cases publisher with
        | none =>
          have same : after.1.2 = state.1.2 := left.2.2
          rw [same]
          exact List.Subset.refl _
        | some publisher => exact exchanged_subset left.2.2
    have routed : ∀ routine ∈ state.2.routines, ∀ body ∈ routine.bodies, Routed after.1.2 routine.rollupId body :=
      fun routine member body known => (before routine member body known).mono grows
    cases signal with
    | none =>
      have same : after.2 = state.2 := right
      rw [same]
      exact routed
    | some signal =>
      refine routines_step (P := fun routine => ∀ body ∈ routine.bodies, Routed after.1.2 routine.rollupId body)
        (routinesStep_of_step right).1 ?_ ?_ routed
      · simp [newListen, Listen.bodies]
      · intro id routine taken block moved found delivered moves known body member
        rw [rollupId_of_listenStep moves]
        rcases List.mem_append.mp (bodies_of_listenStep moves member) with earlier | here
        · exact known body earlier
        · have same := delivered body (Option.mem_toList.mp here)
          subst same
          exact (allowed (id, body) rfl routine found).mono grows

end Broker

/-! ## The attestor -/

def takenBlock : AttestorEvent → Option BlockData
  | .mqBlock block => some block
  | _ => none

structure AttestorState.FromQueue {Sig OperatorId : Type} (history : List AttestorEvent)
    (state : AttestorState Sig OperatorId) : Prop where
  notified : ∀ call ∈ state.calls, ∀ block ∈ call.notified, .mqBlock block ∈ history
  notifying : ∀ block ids, state.notifying = some (block, ids) → .mqBlock block ∈ history
  rebroadcasts : ∀ block ∈ state.rebroadcasts, .mqBlock block ∈ history

section Attestor
variable {Sig OperatorId : Type} {attestor : Attestor Sig OperatorId} {history : List AttestorEvent}
  {state after : AttestorState Sig OperatorId} {event : AttestorEvent}

theorem AttestorState.FromQueue.later (known : state.FromQueue history) (event : AttestorEvent) :
    state.FromQueue (history ++ [event]) where
  notified call member block here := List.mem_append_left _ (known.notified call member block here)
  notifying block ids here := List.mem_append_left _ (known.notifying block ids here)
  rebroadcasts block here := List.mem_append_left _ (known.rebroadcasts block here)

theorem notified_of_callStep {call moved : HeaderCall Sig OperatorId} {move : CallMove}
    (step : CallStep attestor call move moved) : moved.notified = call.notified := by
  cases step with
  | _ => rfl

theorem AttestorState.FromQueue.step (known : state.FromQueue history) (step : state.step attestor event = some after) :
    after.FromQueue (history ++ [event]) := by
  have before := known.later event
  have last : event ∈ history ++ [event] := List.mem_append_right _ (List.mem_singleton.mpr rfl)
  by_cases again : ∃ block, event = .renotify block
  · obtain ⟨block, rfl⟩ := again
    obtain ⟨⟨_, kept⟩, done⟩ := Option.ite_none_right_eq_some.mp step
    cases done
    refine ⟨before.notified, ?_, fun other member => before.rebroadcasts other (List.mem_of_mem_erase member)⟩
    rintro _ _ ⟨⟩
    exact before.rebroadcasts block kept
  · cases attestorStep_of_step step with
    | header rollupId rollupHeader =>
      refine ⟨?_, before.notifying, before.rebroadcasts⟩
      exact List.forall_mem_append.mpr ⟨before.notified, List.forall_mem_singleton.mpr nofun⟩
    | @mqBlock block =>
      refine ⟨before.notified, ?_, List.forall_mem_cons.mpr ⟨last, before.rebroadcasts⟩⟩
      rintro _ _ ⟨⟩
      exact last
    | renotify => exact absurd ⟨_, rfl⟩ again
    | @visit block id ids call notifying found =>
      refine ⟨?_, ?_, before.rebroadcasts⟩
      · intro other member
        rcases List.mem_or_eq_of_mem_set member with old | rfl
        · exact before.notified other old
        · exact List.forall_mem_cons.mpr
            ⟨before.notifying block (id :: ids) notifying, before.notified call (List.mem_of_getElem? found)⟩
      · rintro _ _ ⟨⟩
        exact before.notifying block (id :: ids) notifying
    | finishNotify => exact ⟨before.notified, nofun, before.rebroadcasts⟩
    | @move id move call moved _ found moves =>
      refine ⟨?_, before.notifying, before.rebroadcasts⟩
      intro other member
      rcases List.mem_or_eq_of_mem_set member with old | rfl
      · exact before.notified other old
      · rw [notified_of_callStep (callStep_of_move moves)]
        exact before.notified call (List.mem_of_getElem? found)

theorem fromQueue_of_run (run : (attestors attestor).Run history state) : state.FromQueue history := by
  induction run with
  | start initial =>
    cases initial
    exact ⟨nofun, nofun, nofun⟩
  | next _ _ step known => exact known.step step

end Attestor

/-! ## From end to end -/

abbrev BrokerEvent := Option IndexerEvent × Option QueuesEvent

def handedToAttestor (state : ((Listener × Validator) × Publisher) × Queues) (event : BrokerEvent) : Option BlockData :=
  event.2.bind (handedBlock state.2)

/-- The channel between a routine and the attestor has no buffer. -/
def HandsOver {Sig OperatorId : Type} (state : ((Listener × Validator) × Publisher) × Queues)
    (_ : AttestorState Sig OperatorId) (event : Option BrokerEvent) (signal : Option AttestorEvent) : Prop :=
  signal.bind takenBlock = event.bind (handedToAttestor state)

section Pipeline
variable {Sig OperatorId : Type} (config : ListenerConfig) (serializer : PayloadSerializer) (decoders : Decoders)
  (rollupIds : List (Uint 32)) (attestor : Attestor Sig OperatorId)

def brokers : System (((Listener × Validator) × Publisher) × Queues) BrokerEvent :=
  (indexers config serializer).parallel (consumerQueues decoders rollupIds) Delivers

def pipelines :
    System ((((Listener × Validator) × Publisher) × Queues) × AttestorState Sig OperatorId)
      (Option BrokerEvent × Option AttestorEvent) :=
  (brokers config serializer decoders rollupIds).parallel (attestors attestor) HandsOver

/-- A transaction of the stream, to the rollup's contract and seen to succeed, has submitted the block. -/
def PostedOnDa (listener : Listener) (validator : Validator) (message : StateRootUpdate) : Prop :=
  ∃ streamed ∈ listener.messages, ∃ candidate ∈ extractCandidates config.addressesToRollupIds streamed,
    (candidate, .successValue) ∈ validator.shared.outcomes ∧
    candidate.rollupId.toBitVec = message.rollupId ∧
    candidate.transaction.transaction.hash = message.nearDaTransactionId ∧
    ∃ args ∈ candidate.payloads, ∃ request, decoders.submitRequest args = some request ∧
    ∃ blob ∈ request.blobs, blob.commitment = message.nearDaCommitment ∧
    ∃ blocks, decoders.blocks blob.data = some blocks ∧
    ∃ block ∈ blocks, BitVec.ofNat 64 block.number = message.blockHeight ∧ block.root = message.stateRoot

def ReadsBack (serializer : PayloadSerializer) (decoders : Decoders) : Prop :=
  ∀ payload bytes, serializer.serialize payload = some bytes →
    decoders.publishPayload bytes = some ⟨payload.transactionId, payload.data⟩

variable {config serializer decoders rollupIds attestor}

theorem mem_deliveredBlocks {rollupId : Uint 32} {body : Bytes} {blocks : List BlockData} {found : BlockData}
    (decoded : deliveredBlocks decoders rollupId body = some blocks) (member : found ∈ blocks) :
    ∃ payload request, decoders.publishPayload body = some payload ∧
      decoders.submitRequest payload.data = some request ∧
      ∃ blob ∈ request.blobs, ∃ inBlob, decoders.blocks blob.data = some inBlob ∧
      ∃ block ∈ inBlob, found = ⟨rollupId, blob.commitment, payload.transactionId, block.number, block.root⟩ := by
  obtain ⟨payload, read, decoded⟩ := Option.bind_eq_some_iff.mp decoded
  obtain ⟨request, readRequest, result⟩ := Option.bind_eq_some_iff.mp decoded
  cases result
  obtain ⟨blob, inRequest, member⟩ := List.mem_flatMap.mp member
  unfold blobBlocks at member
  split at member
  next => cases member
  next inBlob decoded =>
    obtain ⟨block, inBlob', same⟩ := List.mem_map.mp member
    exact ⟨payload, request, read, readRequest, blob, inRequest, inBlob, decoded, block, inBlob', same.symm⟩

theorem Listen.Sound.delivered {routine : Listen} (sound : routine.Sound decoders) {block : BlockData}
    (emitted : block ∈ routine.emitted) :
    ∃ body ∈ routine.bodies, ∃ blocks, deliveredBlocks decoders routine.rollupId body = some blocks ∧ block ∈ blocks := by
  obtain ⟨_, current, all, between, during⟩ := sound
  rw [all] at emitted
  rcases List.mem_append.mp emitted with settled | now
  · obtain ⟨blocks, decoded, member⟩ := List.mem_flatten.mp settled
    obtain ⟨delivery, known, decoded⟩ := List.mem_filterMap.mp decoded
    exact ⟨delivery.1, List.mem_append_left _ (List.mem_map_of_mem known), blocks, decoded, member⟩
  · cases stage : routine.stage with
    | emitting body pending =>
      refine ⟨body, ?_, current ++ pending, during body pending stage, List.mem_append_left _ now⟩
      rw [Listen.bodies, stage]
      exact List.mem_append_right _ (List.mem_singleton.mpr rfl)
    | selecting =>
      rw [between (by simp [stage])] at now
      cases now
    | returned =>
      rw [between (by simp [stage])] at now
      cases now

variable {history : List (Option BrokerEvent × Option AttestorEvent)} {listener : Listener} {validator : Validator}
  {publisher : Publisher} {queues : Queues} {state : AttestorState Sig OperatorId}

/-- A block that was notified has been handed over by a routine. -/
theorem notified_handed_over
    (run : (pipelines config serializer decoders rollupIds attestor).Run history ((((listener, validator), publisher), queues), state))
    {call : HeaderCall Sig OperatorId} (member : call ∈ state.calls) {block : BlockData} (notified : block ∈ call.notified) :
    ∃ routine ∈ queues.routines, block ∈ routine.emitted := by
  have given : queues.receivedBlocks = (history.filterMap Prod.snd).filterMap takenBlock := by
    refine System.Run.handed_eq_taken (fun state => state.2.receivedBlocks) handedToAttestor takenBlock ?_ ?_
      (fun _ _ _ _ allowed => allowed) run
    · rintro state ⟨_, initial⟩
      rw [show state.2 = newQueues from initial]
      rfl
    · rintro before ⟨_, signal⟩ after ⟨_, _, step⟩
      exact step.appends _ handedBlock fun queues event after step => (routinesStep_of_step step).2
  have taken := (fromQueue_of_run run.snd).notified call member block notified
  have received : block ∈ queues.receivedBlocks := by
    rw [given]
    exact List.mem_filterMap.mpr ⟨.mqBlock block, taken, rfl⟩
  exact List.mem_flatMap.mp ((interleaved_of_run run.fst.snd).all.subset received)

theorem block_posted (agree : ReadsBack serializer decoders)
    (run : (brokers config serializer decoders rollupIds).Run (history.filterMap Prod.fst) (((listener, validator), publisher), queues))
    {routine : Listen} (member : routine ∈ queues.routines) {block : BlockData} (emitted : block ∈ routine.emitted)
    {message : StateRootUpdate} (rollup : block.rollupId = message.rollupId)
    (height : BitVec.ofNat 64 block.number = message.blockHeight) (root : block.root = message.stateRoot)
    (transaction : block.transactionId = message.nearDaTransactionId) (commitment : block.commitment = message.nearDaCommitment) :
    PostedOnDa config decoders listener validator message := by
  obtain ⟨body, known, blocks, decoded, inside⟩ := (listen_sound_of_run run.snd routine member).delivered emitted
  obtain ⟨item, exchanged, _, key, rfl⟩ := bodies_routed run routine member body known
  obtain ⟨candidate, args, ⟨streamed, inStream, extracted⟩, argument, success, routed, written⟩ :=
    submission_of_exchanged run.fst exchanged
  obtain ⟨payload, request, read, readRequest, blob, inRequest, inBlob, decodedBlob, header, inBlob', rfl⟩ :=
    mem_deliveredBlocks decoded inside
  -- what Rust has written is read in Go
  cases read.symm.trans (agree _ item.2 written)
  have rollupId := getRoutingKey_eq_getRotingKey (routed.symm.trans key)
  exact ⟨streamed, inStream, candidate, extracted, success, rollupId.trans rollup, transaction, args, argument, request,
    readRequest, blob, inRequest, commitment, inBlob, decodedBlob, header, inBlob', height, root⟩

/-- If an operator signs that a block is on the DA layer, a successful transaction has put it there: one to the rollup's
contract, with the transaction id that was signed, whose arguments have a blob with the signed commitment, and in it a block
of that height with that state root. -/
theorem signed_da_posted (agree : ReadsBack serializer decoders)
    (run : (pipelines config serializer decoders rollupIds attestor).Run history ((((listener, validator), publisher), queues), state))
    {call : HeaderCall Sig OperatorId} (member : call ∈ state.calls) {signed : SignedStateRootUpdateMessage Sig OperatorId}
    (attested : call.signed = some signed)
    (onDa : signed.message.nearDaTransactionId ≠ 0 ∨ signed.message.nearDaCommitment ≠ 0) :
    PostedOnDa config decoders listener validator signed.message := by
  have sound := callSound_of_run run.snd call member
  have same := sound.signed signed attested
  rw [same] at onDa ⊢
  rcases sound.da with ⟨nothing, none⟩ | ⟨block, notified, ⟨rollup, number, root⟩, commitment, transaction⟩
  · rcases onDa with some | some
    · exact absurd none some
    · exact absurd nothing some
  · obtain ⟨routine, inQueues, emitted⟩ := notified_handed_over run member notified
    refine block_posted agree run.fst inQueues emitted rollup ?_ root transaction.symm commitment.symm
    rw [number]
    rfl

end Pipeline

/-! ## One block on its way -/

instance (publisher : Publisher) (rollupId : Uint 32) (body : Bytes) : Decidable (Routed publisher rollupId body) :=
  inferInstanceAs (Decidable (∃ item ∈ _, _))

instance (indexer : (Listener × Validator) × Publisher) (queues : Queues) (event : Option IndexerEvent)
    (signal : Option QueuesEvent) : Decidable (Delivers indexer queues event signal) :=
  inferInstanceAs (Decidable (∀ delivered ∈ _, ∀ routine ∈ _, _))

instance {Sig OperatorId : Type} (state : ((Listener × Validator) × Publisher) × Queues)
    (attestor : AttestorState Sig OperatorId) (event : Option BrokerEvent) (signal : Option AttestorEvent) :
    Decidable (HandsOver state attestor event signal) :=
  inferInstanceAs (Decidable (_ = _))

section Computed
variable {Sig OperatorId : Type} (config : ListenerConfig) (serializer : PayloadSerializer) (decoders : Decoders)
  (rollupIds : List (Uint 32)) (attestor : Attestor Sig OperatorId)

def brokerStep (state : ((Listener × Validator) × Publisher) × Queues) (event : BrokerEvent) :
    Option (((Listener × Validator) × Publisher) × Queues) :=
  System.advance (indexerStep config serializer) (Queues.step decoders rollupIds) Delivers state event

def pipelineStep (state : (((Listener × Validator) × Publisher) × Queues) × AttestorState Sig OperatorId)
    (event : Option BrokerEvent × Option AttestorEvent) :
    Option ((((Listener × Validator) × Publisher) × Queues) × AttestorState Sig OperatorId) :=
  System.advance (brokerStep config serializer decoders rollupIds) (AttestorState.step attestor) HandsOver state event

theorem pipelineStep_sound (state : (((Listener × Validator) × Publisher) × Queues) × AttestorState Sig OperatorId)
    (event : Option BrokerEvent × Option AttestorEvent)
    (after : (((Listener × Validator) × Publisher) × Queues) × AttestorState Sig OperatorId)
    (done : pipelineStep config serializer decoders rollupIds attestor state event = some after) :
    (pipelines config serializer decoders rollupIds attestor).step state event after := by
  apply System.advance_sound _ _ _ _ _ done
  · apply System.advance_sound
    · exact indexerStep_sound config serializer
    · exact fun _ _ _ one => one
  · exact fun _ _ _ one => one

end Computed

def attests (event : AttestorEvent) : Option BrokerEvent × Option AttestorEvent := (none, some event)

def consumes (event : QueuesEvent) : Option BrokerEvent × Option AttestorEvent := (some (none, some event), none)

def blockRun : List (Option BrokerEvent × Option AttestorEvent) :=
  [attests (.header 1 ⟨5, 100, 7⟩), attests (.move 0 .subscribe)] ++
    (submissionRun daRequest).map (fun event => (some (some event, none), none)) ++
    [consumes .openChannel, consumes (.consume true), consumes .ready, consumes (.deliver 0 daDelivery),
      (some (none, some (.emit 0)), some (.mqBlock ⟨1, 11, 9, 5, 7⟩)), attests .visit, attests .finishNotify,
      attests (.move 0 .takeBlock), attests (.move 0 .sign), consumes (.ack 0)]

theorem borshSerializer_readsBack : ReadsBack borshSerializer oneBlock := by
  intro payload bytes written
  exact publishPayloadFormat.deserialize_write written

theorem signed_da_posted_block :
    ∃ listener validator publisher queues state,
      (pipelines daConfig borshSerializer oneBlock [1] plainAttestor).Run blockRun ((((listener, validator), publisher), queues), state) ∧
      ∃ call ∈ state.calls, ∃ signed, call.signed = some signed ∧ signed.message = ⟨1, 5, 100, 9, 11, 7⟩ ∧
        PostedOnDa daConfig oneBlock listener validator signed.message := by
  let start := ((((newListener, newValidator), newPublisher), newQueues), newAttestorState StateRootUpdate Nat)
  have computed : (blockRun.foldlM (pipelineStep daConfig borshSerializer oneBlock [1] plainAttestor) start).map
      (fun final => final.2.calls.map fun call => call.signed.map SignedStateRootUpdateMessage.message) =
        some [some ⟨1, 5, 100, 9, 11, 7⟩] := by decide +kernel
  obtain ⟨⟨⟨⟨⟨listener, validator⟩, publisher⟩, queues⟩, state⟩, computed, calls⟩ := Option.map_eq_some_iff.mp computed
  have initial : (pipelines daConfig borshSerializer oneBlock [1] plainAttestor).initial start := ⟨⟨⟨⟨rfl, rfl⟩, rfl⟩, rfl⟩, rfl⟩
  have run := System.Run.of_steps (pipelineStep_sound daConfig borshSerializer oneBlock [1] plainAttestor) initial computed
  have one : some ⟨1, 5, 100, 9, 11, 7⟩ ∈
      state.calls.map fun call => call.signed.map SignedStateRootUpdateMessage.message := by
    rw [calls]
    exact List.mem_singleton.mpr rfl
  obtain ⟨call, member, signs⟩ := List.mem_map.mp one
  obtain ⟨signed, attested, message⟩ := Option.map_eq_some_iff.mp signs
  have onDa : signed.message.nearDaTransactionId ≠ 0 := by
    rw [message]
    decide
  exact ⟨listener, validator, publisher, queues, state, run, call, member, signed, attested, message,
    signed_da_posted borshSerializer_readsBack run member attested (.inl onDa)⟩

end Sffl.Operator
