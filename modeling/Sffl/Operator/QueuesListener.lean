import Sffl.Borsh.Format
import Sffl.Operator.Attestor

/-! The consumer's queues.

Every time the consumer sets up a channel it makes a listener, which reads the
queue of every rollup in a routine of its own. A routine decodes a delivery, hands
its blocks to the attestor one by one, and acknowledges the delivery afterwards.
The decoders come from libraries and are parameters: Borsh for the payload and the
request, RLP for the blocks of a blob.
-/

set_option autoImplicit false

namespace Sffl.Operator

open Sffl.Evm Sffl.Borsh Sffl.Semantics

/-! ## What is in a delivery -/

structure Namespace where
  version : UInt8
  id : Uint 32
  deriving DecidableEq

structure Blob where
  inNamespace : Namespace
  shareVersion : Uint 32
  commitment : Bytes32
  data : Bytes
  deriving DecidableEq

structure SubmitRequest where
  blobs : List Blob
  deriving DecidableEq

structure PublishPayload where
  transactionId : Bytes32
  data : Bytes
  deriving DecidableEq

structure Block where
  number : Nat
  root : Bytes32
  deriving DecidableEq

structure Decoders where
  publishPayload : Bytes → Option PublishPayload
  submitRequest : Bytes → Option SubmitRequest
  blocks : Bytes → Option (List Block)

section Deliveries
variable (decoders : Decoders) (rollupId : Uint 32)

def blobBlocks (transactionId : Bytes32) (blob : Blob) : List BlockData :=
  -- a blob that cannot be decoded is skipped
  match decoders.blocks blob.data with
  | none => []
  | some blocks => blocks.map fun block => ⟨rollupId, blob.commitment, transactionId, block.number, block.root⟩

def deliveredBlocks (body : Bytes) : Option (List BlockData) := do
  let publishPayload ← decoders.publishPayload body
  let submitRequest ← decoders.submitRequest publishPayload.data
  return submitRequest.blobs.flatMap (blobBlocks decoders rollupId publishPayload.transactionId)

end Deliveries

/-! ## The routines -/

inductive Settlement where
  | acked
  | rejected
  deriving DecidableEq, Repr

/-- Where a call of `listen` is: at its select, handing over the blocks of a delivery, or at its end. -/
inductive ListenStage where
  | selecting
  | emitting (body : Bytes) (pending : List BlockData)
  | returned
  deriving DecidableEq

structure Listen where
  /-- Which of the consumer's listeners it belongs to. -/
  listener : Nat
  rollupId : Uint 32
  stage : ListenStage
  settled : List (Bytes × Settlement)
  emitted : List BlockData
  deriving DecidableEq

def newListen (listener : Nat) (rollupId : Uint 32) : Listen where
  listener
  rollupId
  stage := .selecting
  settled := []
  emitted := []

structure Queues where
  /-- The rollups in `queueDeliveryCs`, for every listener that was made. -/
  queueDeliveryCs : List (List (Uint 32))
  /-- The rollups that `setupChannel` has yet to come to. -/
  settingUp : Option (List (Uint 32))
  routines : List Listen
  /-- All that was sent to `receivedBlocksC`. -/
  receivedBlocks : List BlockData
  deriving DecidableEq

inductive QueuesEvent where
  | openChannel
  /-- The next rollup's queue is declared, bound and consumed, or one of these fails. -/
  | consume (ok : Bool)
  | ready
  | deliver (id : Nat) (body : Bytes)
  | emit (id : Nat)
  | ack (id : Nat)
  /-- The channel with the deliveries is closed. -/
  | closed (id : Nat)
  | contextDone (id : Nat)
  deriving DecidableEq

def newQueues : Queues where
  queueDeliveryCs := []
  settingUp := none
  routines := []
  receivedBlocks := []

section Machine
variable (decoders : Decoders) (rollupIds : List (Uint 32))

def Listen.deliver (routine : Listen) (body : Bytes) : Listen :=
  match deliveredBlocks decoders routine.rollupId body with
  | none => { routine with settled := routine.settled ++ [(body, .rejected)] }
  | some blocks => { routine with stage := .emitting body blocks }

def Queues.add (queues : Queues) (rollupId : Uint 32) : Option Queues :=
  let listener := queues.queueDeliveryCs.length - 1
  let rollups := queues.queueDeliveryCs.getLastD []
  if rollups.contains rollupId then none
  else some { queues with
    queueDeliveryCs := queues.queueDeliveryCs.set listener (rollupId :: rollups)
    routines := queues.routines ++ [newListen listener rollupId] }

def Queues.remove (queues : Queues) (listener : Nat) (rollupId : Uint 32) : Queues :=
  { queues with queueDeliveryCs := queues.queueDeliveryCs.modify listener (·.erase rollupId) }

def Queues.step (queues : Queues) : QueuesEvent → Option Queues
  | .openChannel =>
    if queues.settingUp = none then
      some { queues with queueDeliveryCs := queues.queueDeliveryCs ++ [[]], settingUp := some rollupIds }
    else none
  | .consume ok =>
    match queues.settingUp with
    | some (rollupId :: rest) =>
      if ok then
        match queues.add rollupId with
        | some after => some { after with settingUp := some rest }
        -- `QueueExistsError`
        | none => some { queues with settingUp := none }
      else some { queues with settingUp := none }
    | _ => none
  | .ready => if queues.settingUp = some [] then some { queues with settingUp := none } else none
  | .deliver id body =>
    match queues.routines[id]? with
    | some routine =>
      if routine.stage = .selecting then
        some { queues with routines := queues.routines.set id (routine.deliver decoders body) }
      else none
    | none => none
  | .emit id =>
    match queues.routines[id]? with
    | some routine =>
      match routine.stage with
      | .emitting body (block :: pending) => some { queues with
          routines := queues.routines.set id
            { routine with stage := .emitting body pending, emitted := routine.emitted ++ [block] }
          receivedBlocks := queues.receivedBlocks ++ [block] }
      | _ => none
    | none => none
  | .ack id =>
    match queues.routines[id]? with
    | some routine =>
      match routine.stage with
      | .emitting body [] => some { queues with
          routines := queues.routines.set id
            { routine with stage := .selecting, settled := routine.settled ++ [(body, .acked)] } }
      | _ => none
    | none => none
  | .closed id =>
    match queues.routines[id]? with
    | some routine =>
      if routine.stage = .selecting then some { queues.remove routine.listener routine.rollupId with
        routines := queues.routines.set id { routine with stage := .returned } }
      else none
    | none => none
  | .contextDone id =>
    match queues.routines[id]? with
    | some routine =>
      if routine.stage = .selecting then
        some { queues with routines := queues.routines.set id { routine with stage := .returned } }
      else none
    | none => none

def consumerQueues : System Queues QueuesEvent where
  initial queues := queues = newQueues
  step queues event after := queues.step decoders rollupIds event = some after

end Machine

/-! ## What a step does -/

section Steps
variable {decoders : Decoders} {rollupIds : List (Uint 32)} {queues after : Queues}
  {event : QueuesEvent}

inductive ListenStep (decoders : Decoders) (routine : Listen) :
    Option Bytes → Option BlockData → Listen → Prop where
  | reject {body : Bytes} (selecting : routine.stage = .selecting)
      (undecodable : deliveredBlocks decoders routine.rollupId body = none) :
      ListenStep decoders routine (some body) none { routine with settled := routine.settled ++ [(body, .rejected)] }
  | accept {body : Bytes} {blocks : List BlockData} (selecting : routine.stage = .selecting)
      (decoded : deliveredBlocks decoders routine.rollupId body = some blocks) :
      ListenStep decoders routine (some body) none { routine with stage := .emitting body blocks }
  | emit {body : Bytes} {block : BlockData} {pending : List BlockData}
      (emitting : routine.stage = .emitting body (block :: pending)) :
      ListenStep decoders routine none (some block)
        { routine with stage := .emitting body pending, emitted := routine.emitted ++ [block] }
  | ack {body : Bytes} (emitting : routine.stage = .emitting body []) :
      ListenStep decoders routine none none
        { routine with stage := .selecting, settled := routine.settled ++ [(body, .acked)] }
  | leave (selecting : routine.stage = .selecting) :
      ListenStep decoders routine none none { routine with stage := .returned }

theorem listenStep_deliver {routine : Listen} (selecting : routine.stage = .selecting) (body : Bytes) :
    ListenStep decoders routine (some body) none (routine.deliver decoders body) := by
  unfold Listen.deliver
  split
  next undecodable => exact .reject selecting undecodable
  next blocks decoded => exact .accept selecting decoded

def handedBlock (queues : Queues) : QueuesEvent → Option BlockData
  | .emit id =>
    match queues.routines[id]?.map Listen.stage with
    | some (.emitting _ (block :: _)) => some block
    | _ => none
  | _ => none

inductive RoutinesStep (decoders : Decoders) (queues : Queues) (event : QueuesEvent)
    (after : Queues) : Prop where
  | stay (routines : after.routines = queues.routines) (handed : handedBlock queues event = none)
  | start {listener : Nat} {rollupId : Uint 32} (handed : handedBlock queues event = none)
      (routines : after.routines = queues.routines ++ [newListen listener rollupId])
  | move {id : Nat} {routine moved : Listen} {delivery : Option Bytes} (found : queues.routines[id]? = some routine)
      (moves : ListenStep decoders routine delivery (handedBlock queues event) moved)
      (routines : after.routines = queues.routines.set id moved)
      (delivered : ∀ body ∈ delivery, event = .deliver id body)

theorem routinesStep_of_step (step : queues.step decoders rollupIds event = some after) :
    RoutinesStep decoders queues event after ∧
      after.receivedBlocks = queues.receivedBlocks ++ (handedBlock queues event).toList := by
  have quiet := (List.append_nil queues.receivedBlocks).symm
  cases event with
  | openChannel =>
    obtain ⟨_, done⟩ := Option.ite_none_right_eq_some.mp step
    cases done
    exact ⟨.stay rfl rfl, quiet⟩
  | consume ok =>
    simp only [Queues.step] at step
    split at step
    next rollupId rest _ =>
      cases ok with
      | false =>
        cases step
        exact ⟨.stay rfl rfl, quiet⟩
      | true =>
        rw [if_pos rfl] at step
        split at step
        next added adds =>
          cases step
          obtain ⟨_, done⟩ := Option.ite_none_left_eq_some.mp adds
          cases done
          exact ⟨.start rfl rfl, quiet⟩
        next =>
          cases step
          exact ⟨.stay rfl rfl, quiet⟩
    next => cases step
  | ready =>
    obtain ⟨_, done⟩ := Option.ite_none_right_eq_some.mp step
    cases done
    exact ⟨.stay rfl rfl, quiet⟩
  | deliver id body =>
    simp only [Queues.step] at step
    split at step
    next routine found =>
      obtain ⟨selecting, done⟩ := Option.ite_none_right_eq_some.mp step
      cases done
      refine ⟨.move found (listenStep_deliver selecting body) rfl fun other same => ?_, quiet⟩
      cases same
      rfl
    next => cases step
  | emit id =>
    simp only [Queues.step] at step
    split at step
    next routine found =>
      split at step
      next body block pending emitting =>
        cases step
        have handed : handedBlock queues (.emit id) = some block := by simp [handedBlock, found, emitting]
        refine ⟨RoutinesStep.move found ?_ rfl fun body (same : body ∈ none) => absurd same nofun, ?_⟩
        · rw [handed]
          exact .emit emitting
        · rw [handed]
          rfl
      next => cases step
    next => cases step
  | ack id =>
    simp only [Queues.step] at step
    split at step
    next routine found =>
      split at step
      next body emitting =>
        cases step
        exact ⟨.move found (.ack emitting) rfl nofun, quiet⟩
      next => cases step
    next => cases step
  | closed id =>
    simp only [Queues.step] at step
    split at step
    next routine found =>
      obtain ⟨selecting, done⟩ := Option.ite_none_right_eq_some.mp step
      cases done
      exact ⟨.move found (.leave selecting) rfl nofun, quiet⟩
    next => cases step
  | contextDone id =>
    simp only [Queues.step] at step
    split at step
    next routine found =>
      obtain ⟨selecting, done⟩ := Option.ite_none_right_eq_some.mp step
      cases done
      exact ⟨.move found (.leave selecting) rfl nofun, quiet⟩
    next => cases step

/-- What new routines have and a routine keeps holds for all of them. What is said of a routine may depend on the
deliveries that it gets. -/
theorem routines_step {P : Listen → Prop} (step : RoutinesStep decoders queues event after)
    (new : ∀ listener rollupId, P (newListen listener rollupId))
    (keeps : ∀ id routine delivery block moved, queues.routines[id]? = some routine →
      (∀ body ∈ delivery, event = .deliver id body) → ListenStep decoders routine delivery block moved →
      P routine → P moved)
    (before : ∀ routine ∈ queues.routines, P routine) : ∀ routine ∈ after.routines, P routine := by
  cases step with
  | stay routines =>
    rw [routines]
    exact before
  | start _ routines =>
    rw [routines]
    exact List.forall_mem_append.mpr ⟨before, List.forall_mem_singleton.mpr (new _ _)⟩
  | @move id routine moved _ found moves routines delivered =>
    rw [routines]
    intro other member
    rcases List.mem_or_eq_of_mem_set member with old | rfl
    · exact before other old
    · exact keeps id routine _ _ _ found delivered moves (before routine (List.mem_of_getElem? found))

/-! ## What a routine hands over -/

/-- What a routine has handed over are the blocks of the deliveries that it has settled, all of them and in order, and some
of the delivery at hand. It has rejected the deliveries that cannot be decoded, and no others. -/
structure Listen.Sound (decoders : Decoders) (routine : Listen) : Prop where
  rejected : ∀ delivery ∈ routine.settled,
    delivery.2 = .rejected ↔ deliveredBlocks decoders routine.rollupId delivery.1 = none
  emitted : ∃ current, routine.emitted =
      (routine.settled.filterMap fun delivery => deliveredBlocks decoders routine.rollupId delivery.1).flatten ++ current ∧
    ((∀ body pending, routine.stage ≠ .emitting body pending) → current = []) ∧
    ∀ body pending, routine.stage = .emitting body pending →
      deliveredBlocks decoders routine.rollupId body = some (current ++ pending)

theorem Listen.Sound.step {routine moved : Listen} {delivery : Option Bytes} {block : Option BlockData}
    (sound : routine.Sound decoders) (step : ListenStep decoders routine delivery block moved) :
    moved.Sound decoders := by
  obtain ⟨rejected, current, emitted, between, during⟩ := sound
  cases step with
  | @reject body selecting undecodable =>
    have nothing := between (by simp [selecting])
    subst nothing
    refine ⟨?_, [], ?_, fun _ => rfl, by simp [selecting]⟩
    · intro other member
      rcases List.mem_append.mp member with earlier | last
      · exact rejected other earlier
      · rw [List.mem_singleton.mp last]
        exact ⟨fun _ => undecodable, fun _ => rfl⟩
    · rw [List.filterMap_append]
      simpa [undecodable] using emitted
  | @accept body blocks selecting decoded =>
    have nothing := between (by simp [selecting])
    subst nothing
    refine ⟨rejected, [], emitted, fun _ => rfl, ?_⟩
    rintro _ _ ⟨⟩
    exact decoded
  | @emit body block pending emitting =>
    refine ⟨rejected, current ++ [block], ?_, ?_, ?_⟩
    · rw [emitted, List.append_assoc]
    · intro elsewhere
      exact absurd rfl (elsewhere body pending)
    · rintro _ _ ⟨⟩
      rw [List.append_assoc]
      exact during body (block :: pending) emitting
  | @ack body emitting =>
    have decoded := during body [] emitting
    rw [List.append_nil] at decoded
    refine ⟨?_, [], ?_, fun _ => rfl, by simp⟩
    · intro other member
      rcases List.mem_append.mp member with earlier | last
      · exact rejected other earlier
      · rw [List.mem_singleton.mp last, decoded]
        simp
    · rw [List.filterMap_append]
      simp [decoded, emitted]
  | leave selecting =>
    have nothing := between (by simp [selecting])
    subst nothing
    exact ⟨rejected, [], emitted, fun _ => rfl, by simp⟩

theorem newListen_sound (listener : Nat) (rollupId : Uint 32) : (newListen listener rollupId).Sound decoders :=
  ⟨by simp [newListen], [], rfl, fun _ => rfl, by simp [newListen]⟩

theorem listen_sound_of_run {history : List QueuesEvent}
    (run : (consumerQueues decoders rollupIds).Run history queues) :
    ∀ routine ∈ queues.routines, routine.Sound decoders := by
  induction run with
  | start initial =>
    cases initial
    exact nofun
  | next _ _ step before =>
    refine routines_step (routinesStep_of_step step).1 newListen_sound ?_ before
    exact fun _ _ _ _ _ _ _ moves sound => sound.step moves

/-! ## What the attestor gets -/

/-- The attestor gets what the routines hand over, and the blocks of each routine in their order. -/
structure Queues.Interleaved (queues : Queues) : Prop where
  all : queues.receivedBlocks.Perm (queues.routines.flatMap Listen.emitted)
  ordered : ∀ routine ∈ queues.routines, routine.emitted.Sublist queues.receivedBlocks

theorem emitted_of_listenStep {routine moved : Listen} {delivery : Option Bytes} {block : Option BlockData}
    (step : ListenStep decoders routine delivery block moved) : moved.emitted = routine.emitted ++ block.toList := by
  cases step with
  | emit => rfl
  | _ => exact (List.append_nil _).symm

theorem flatMap_emitted_set {routines : List Listen} {id : Nat} {routine moved : Listen} {blocks : List BlockData}
    (found : routines[id]? = some routine) (emitted : moved.emitted = routine.emitted ++ blocks) :
    ((routines.set id moved).flatMap Listen.emitted).Perm (routines.flatMap Listen.emitted ++ blocks) := by
  obtain ⟨inside, rfl⟩ := List.getElem?_eq_some_iff.mp found
  have split : routines = routines.take id ++ routines[id] :: routines.drop (id + 1) := by simp
  rw [List.set_eq_take_append_cons_drop, if_pos inside]
  conv_rhs => rw [split]
  simp only [List.flatMap_append, List.flatMap_cons, emitted, List.append_assoc]
  apply List.Perm.append_left
  apply List.Perm.append_left
  exact List.perm_append_comm

theorem Queues.Interleaved.step (interleaved : queues.Interleaved) (step : RoutinesStep decoders queues event after)
    (blocks : after.receivedBlocks = queues.receivedBlocks ++ (handedBlock queues event).toList) : after.Interleaved := by
  cases step with
  | stay routines handed =>
    rw [handed, Option.toList_none, List.append_nil] at blocks
    refine ⟨?_, ?_⟩
    · rw [routines, blocks]
      exact interleaved.all
    · rw [routines, blocks]
      exact interleaved.ordered
  | @start listener rollupId handed routines =>
    rw [handed, Option.toList_none, List.append_nil] at blocks
    refine ⟨?_, ?_⟩
    · rw [routines, blocks, List.flatMap_append]
      simpa [newListen] using interleaved.all
    · rw [routines, blocks]
      exact List.forall_mem_append.mpr ⟨interleaved.ordered, List.forall_mem_singleton.mpr (List.nil_sublist _)⟩
  | @move id routine moved delivery found moves routines =>
    have emitted := emitted_of_listenStep moves
    refine ⟨?_, ?_⟩
    · rw [routines, blocks]
      exact (interleaved.all.append_right _).trans (flatMap_emitted_set found emitted).symm
    · rw [routines, blocks]
      intro other member
      rcases List.mem_or_eq_of_mem_set member with old | rfl
      · exact (interleaved.ordered other old).trans (List.sublist_append_left _ _)
      · rw [emitted]
        exact (interleaved.ordered routine (List.mem_of_getElem? found)).append_right _

theorem interleaved_of_run {history : List QueuesEvent}
    (run : (consumerQueues decoders rollupIds).Run history queues) : queues.Interleaved := by
  induction run with
  | start initial =>
    cases initial
    exact ⟨List.Perm.refl _, nofun⟩
  | next _ _ step before =>
    obtain ⟨routines, blocks⟩ := routinesStep_of_step step
    exact before.step routines blocks

/-- A delivery is acknowledged only when all of its blocks have been handed over, and only one that cannot be decoded is
rejected. Nothing else is handed over, however often the channel is set up again. -/
theorem deliveries_handed_over {history : List QueuesEvent}
    (run : (consumerQueues decoders rollupIds).Run history queues) :
    (∀ routine ∈ queues.routines, routine.Sound decoders) ∧ queues.Interleaved :=
  ⟨listen_sound_of_run run, interleaved_of_run run⟩

end Steps

/-! ### Two routines

One of them gets a delivery with a block and one that cannot be decoded. Payloads
and requests are laid out as Borsh does.
-/

theorem namespace_fields (record : Namespace) : Namespace.mk record.version record.id = record := rfl

theorem blob_fields (blob : Blob) : Blob.mk blob.inNamespace blob.shareVersion blob.commitment blob.data = blob := rfl

theorem submitRequest_fields (request : SubmitRequest) : SubmitRequest.mk request.blobs = request := rfl

theorem publishPayload_fields (payload : PublishPayload) : PublishPayload.mk payload.transactionId payload.data = payload := rfl

def namespaceFormat : Format Namespace :=
  record (pair byte (unsigned 4)) (fun fields => ⟨fields.1, fields.2⟩) (fun record => (record.version, record.id))
    namespace_fields

def blobFormat : Format Blob :=
  record (pair namespaceFormat (pair (unsigned 4) (pair array32 (vec byte))))
    (fun fields => ⟨fields.1, fields.2.1, fields.2.2.1, fields.2.2.2⟩)
    (fun blob => (blob.inNamespace, blob.shareVersion, blob.commitment, blob.data)) blob_fields

def submitRequestFormat : Format SubmitRequest :=
  record (vec blobFormat) SubmitRequest.mk SubmitRequest.blobs submitRequest_fields

def publishPayloadFormat : Format PublishPayload :=
  record (pair array32 (vec byte)) (fun fields => ⟨fields.1, fields.2⟩)
    (fun payload => (payload.transactionId, payload.data)) publishPayload_fields

def oneBlock : Decoders where
  publishPayload := publishPayloadFormat.deserialize
  submitRequest := submitRequestFormat.deserialize
  blocks data := if data = [1] then some [⟨5, 7⟩] else none

def daRequest : Bytes := (submitRequestFormat.write ⟨[⟨⟨0, 1⟩, 0, 11, [1]⟩, ⟨⟨0, 1⟩, 0, 12, [2]⟩]⟩).getD []

def daDelivery : Bytes := (publishPayloadFormat.write ⟨9, daRequest⟩).getD []

def twoDeliveries : List QueuesEvent :=
  [.openChannel, .consume true, .consume true, .ready, .deliver 0 daDelivery, .emit 0, .ack 0, .deliver 0 [1]]

theorem deliveries_handed_over_two :
    ∃ queues, (consumerQueues oneBlock [1, 2]).Run twoDeliveries queues ∧
      queues.receivedBlocks = [⟨1, 11, 9, 5, 7⟩] ∧ (∀ routine ∈ queues.routines, routine.Sound oneBlock) := by
  have computed : (twoDeliveries.foldlM (Queues.step oneBlock [1, 2]) newQueues).map Queues.receivedBlocks =
      some [⟨1, 11, 9, 5, 7⟩] := by decide +kernel
  obtain ⟨queues, computed, blocks⟩ := Option.map_eq_some_iff.mp computed
  have run : (consumerQueues oneBlock [1, 2]).Run twoDeliveries queues :=
    System.Run.of_steps (fun _ _ _ one => one) rfl computed
  exact ⟨queues, run, blocks, (deliveries_handed_over run).1⟩

end Sffl.Operator
