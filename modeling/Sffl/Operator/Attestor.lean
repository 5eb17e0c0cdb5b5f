import Sffl.Rollup.Messages
import Sffl.Semantics.Run

/-! The attestor.

Every header that a rollup's node announces gets a call of `processHeader`. The
call subscribes to the blocks that come from the message queue, waits for one
that matches its header or for its timer, and signs. The notifier passes a block
to the subscribers one after the other, under the lock that subscribing needs.
-/

set_option autoImplicit false

namespace Sffl.Operator

open Sffl.Evm Sffl.Rollup Sffl.Semantics

structure BlockData where
  rollupId : Uint 32
  commitment : Bytes32
  transactionId : Bytes32
  number : Nat
  root : Bytes32
  deriving DecidableEq

structure Header where
  number : Nat
  time : Uint 64
  root : Bytes32
  deriving DecidableEq

structure SignedStateRootUpdateMessage (Sig OperatorId : Type) where
  message : StateRootUpdate
  blsSignature : Sig
  operatorId : OperatorId

/-- `signMessage` fails if the message cannot be digested. -/
structure Attestor (Sig OperatorId : Type) where
  signMessage : StateRootUpdate → Option Sig
  operatorId : OperatorId

/-- Where a call of `processHeader` is. It is subscribed from `waiting` to `returning`. -/
inductive CallStage where
  | started
  | waiting
  | signing
  | sending
  | returning
  | returned
  deriving DecidableEq

structure HeaderCall (Sig OperatorId : Type) where
  rollupId : Uint 32
  rollupHeader : Header
  mqBlocksC : List BlockData
  transactionId : Bytes32
  daCommitment : Bytes32
  stage : CallStage
  signed : Option (SignedStateRootUpdateMessage Sig OperatorId)
  /-- Whether the signed message has been sent to `signedRootC`. -/
  sent : Bool
  /-- The blocks that were notified while the call was subscribed. -/
  notified : List BlockData

inductive CallMove where
  | subscribe
  | timeout
  | takeBlock
  | contextDone
  | sign
  | send
  | unsubscribe
  deriving DecidableEq

def channelSize : Nat := 100

section Calls
variable {Sig OperatorId : Type}

def newHeaderCall (Sig OperatorId : Type) (rollupId : Uint 32) (rollupHeader : Header) : HeaderCall Sig OperatorId where
  rollupId
  rollupHeader
  mqBlocksC := []
  transactionId := 0
  daCommitment := 0
  stage := .started
  signed := none
  sent := false
  notified := []

namespace HeaderCall
variable (call : HeaderCall Sig OperatorId)

def predicate (mqBlock : BlockData) : Bool :=
  if mqBlock.rollupId ≠ call.rollupId then false
  else if call.rollupHeader.number ≠ mqBlock.number then false
  else if mqBlock.root ≠ call.rollupHeader.root then false
  else true

def blockHeight : Uint 64 := BitVec.ofNat 64 call.rollupHeader.number

def message : StateRootUpdate where
  rollupId := call.rollupId
  blockHeight := call.blockHeight
  timestamp := call.rollupHeader.time
  stateRoot := call.rollupHeader.root
  nearDaTransactionId := call.transactionId
  nearDaCommitment := call.daCommitment

/-- The body of `Notify`'s loop, for a subscriber whose channel has room. -/
def visit (block : BlockData) : HeaderCall Sig OperatorId :=
  { call with
    mqBlocksC := if call.predicate block then call.mqBlocksC ++ [block] else call.mqBlocksC
    notified := block :: call.notified }

variable (attestor : Attestor Sig OperatorId)

def move : CallMove → Option (HeaderCall Sig OperatorId)
  | .subscribe => if call.stage = .started then some { call with stage := .waiting } else none
  | .timeout => if call.stage = .waiting then some { call with stage := .signing } else none
  | .takeBlock =>
    match call.stage, call.mqBlocksC with
    | .waiting, mqBlock :: mqBlocksC => some { call with
        mqBlocksC
        daCommitment := mqBlock.commitment
        transactionId := mqBlock.transactionId
        stage := .signing }
    | _, _ => none
  | .contextDone => if call.stage = .waiting then some { call with stage := .returning } else none
  | .sign =>
    if call.stage = .signing then
      match attestor.signMessage call.message with
      | none => some { call with stage := .returning }
      | some blsSignature => some { call with
          signed := some ⟨call.message, blsSignature, attestor.operatorId⟩
          stage := .sending }
    else none
  | .send => if call.stage = .sending then some { call with stage := .returning, sent := true } else none
  | .unsubscribe => if call.stage = .returning then some { call with stage := .returned } else none

end HeaderCall

def CallMove.locks : CallMove → Bool
  -- subscribing and unsubscribing need the notifier's lock
  | .subscribe => true
  | .unsubscribe => true
  | _ => false

def CallMove.subscribers (subscribers : List Nat) (id : Nat) : CallMove → List Nat
  | .subscribe => subscribers ++ [id]
  | .unsubscribe => subscribers.erase id
  | _ => subscribers

structure AttestorState (Sig OperatorId : Type) where
  calls : List (HeaderCall Sig OperatorId)
  /-- The calls that are subscribed, in the order they subscribed in. -/
  subscribers : List Nat
  /-- The block that is being notified and the calls it is yet to be passed to. -/
  notifying : Option (BlockData × List Nat)
  /-- The blocks that are to be notified again. -/
  rebroadcasts : List BlockData

def newAttestorState (Sig OperatorId : Type) : AttestorState Sig OperatorId where
  calls := []
  subscribers := []
  notifying := none
  rebroadcasts := []

inductive AttestorEvent where
  | header (rollupId : Uint 32) (rollupHeader : Header)
  | mqBlock (block : BlockData)
  | renotify (block : BlockData)
  | visit
  | finishNotify
  | move (id : Nat) (move : CallMove)
  deriving DecidableEq

def AttestorEvent.deliveredHeight : AttestorEvent → Option (Uint 32 × Uint 64)
  | .header rollupId rollupHeader => some (rollupId, BitVec.ofNat 64 rollupHeader.number)
  | _ => none

namespace AttestorState
variable (attestor : Attestor Sig OperatorId) (state : AttestorState Sig OperatorId)

def rollupSubscribers (rollupId : Uint 32) : List Nat :=
  state.subscribers.filter fun id => state.calls[id]?.any fun call => call.rollupId == rollupId

def notify (block : BlockData) : AttestorState Sig OperatorId :=
  { state with notifying := some (block, state.rollupSubscribers block.rollupId) }

def step : AttestorEvent → Option (AttestorState Sig OperatorId)
  | .header rollupId rollupHeader =>
    some { state with calls := state.calls ++ [newHeaderCall Sig OperatorId rollupId rollupHeader] }
  | .mqBlock block =>
    if state.notifying.isNone then some { state.notify block with rebroadcasts := block :: state.rebroadcasts } else none
  | .renotify block =>
    if state.notifying.isNone ∧ block ∈ state.rebroadcasts then
      some { state.notify block with rebroadcasts := state.rebroadcasts.erase block }
    else none
  | .visit =>
    match state.notifying with
    | some (block, id :: ids) =>
      match state.calls[id]? with
      | some call =>
        -- a full channel keeps the notifier waiting
        if call.predicate block = true ∧ channelSize ≤ call.mqBlocksC.length then none
        else some { state with notifying := some (block, ids), calls := state.calls.set id (call.visit block) }
      | none => none
    | _ => none
  | .finishNotify =>
    match state.notifying with
    | some (_, []) => some { state with notifying := none }
    | _ => none
  | .move id move =>
    if move.locks ∧ state.notifying.isSome then none
    else
      match state.calls[id]? with
      | some call =>
        match call.move attestor move with
        | some after => some { state with
            calls := state.calls.set id after
            subscribers := move.subscribers state.subscribers id }
        | none => none
      | none => none

end AttestorState

def attestors (attestor : Attestor Sig OperatorId) : System (AttestorState Sig OperatorId) AttestorEvent where
  initial state := state = newAttestorState Sig OperatorId
  step state event after := state.step attestor event = some after

/-! ## What a step does -/

section Steps
variable {attestor : Attestor Sig OperatorId} {state after : AttestorState Sig OperatorId} {event : AttestorEvent}
  {history : List AttestorEvent}

inductive CallStep (attestor : Attestor Sig OperatorId) (call : HeaderCall Sig OperatorId) :
    CallMove → HeaderCall Sig OperatorId → Prop where
  | subscribe (started : call.stage = .started) : CallStep attestor call .subscribe { call with stage := .waiting }
  | timeout (waiting : call.stage = .waiting) : CallStep attestor call .timeout { call with stage := .signing }
  | takeBlock {mqBlock : BlockData} {mqBlocksC : List BlockData} (waiting : call.stage = .waiting)
      (received : call.mqBlocksC = mqBlock :: mqBlocksC) : CallStep attestor call .takeBlock { call with
        mqBlocksC
        daCommitment := mqBlock.commitment
        transactionId := mqBlock.transactionId
        stage := .signing }
  | contextDone (waiting : call.stage = .waiting) : CallStep attestor call .contextDone { call with stage := .returning }
  | signFails (signing : call.stage = .signing) : CallStep attestor call .sign { call with stage := .returning }
  | sign {blsSignature : Sig} (signing : call.stage = .signing) : CallStep attestor call .sign { call with
      signed := some ⟨call.message, blsSignature, attestor.operatorId⟩
      stage := .sending }
  | send (sending : call.stage = .sending) :
      CallStep attestor call .send { call with stage := .returning, sent := true }
  | unsubscribe (returning : call.stage = .returning) :
      CallStep attestor call .unsubscribe { call with stage := .returned }

theorem callStep_of_move {call moved : HeaderCall Sig OperatorId} {move : CallMove}
    (moves : call.move attestor move = some moved) : CallStep attestor call move moved := by
  cases move with
  | subscribe =>
    obtain ⟨started, done⟩ := Option.ite_none_right_eq_some.mp moves
    cases done
    exact .subscribe started
  | timeout =>
    obtain ⟨waiting, done⟩ := Option.ite_none_right_eq_some.mp moves
    cases done
    exact .timeout waiting
  | takeBlock =>
    simp only [HeaderCall.move] at moves
    split at moves
    next waiting received =>
      cases moves
      exact .takeBlock waiting received
    next => cases moves
  | contextDone =>
    obtain ⟨waiting, done⟩ := Option.ite_none_right_eq_some.mp moves
    cases done
    exact .contextDone waiting
  | sign =>
    obtain ⟨signing, done⟩ := Option.ite_none_right_eq_some.mp moves
    split at done
    next =>
      cases done
      exact .signFails signing
    next =>
      cases done
      exact .sign signing
  | send =>
    obtain ⟨sending, done⟩ := Option.ite_none_right_eq_some.mp moves
    cases done
    exact .send sending
  | unsubscribe =>
    obtain ⟨returning, done⟩ := Option.ite_none_right_eq_some.mp moves
    cases done
    exact .unsubscribe returning

inductive AttestorStep (attestor : Attestor Sig OperatorId) (state : AttestorState Sig OperatorId) :
    AttestorEvent → AttestorState Sig OperatorId → Prop where
  | header (rollupId : Uint 32) (rollupHeader : Header) :
      AttestorStep attestor state (.header rollupId rollupHeader)
        { state with calls := state.calls ++ [newHeaderCall Sig OperatorId rollupId rollupHeader] }
  | mqBlock {block : BlockData} (idle : state.notifying = none) :
      AttestorStep attestor state (.mqBlock block)
        { state.notify block with rebroadcasts := block :: state.rebroadcasts }
  | renotify {block : BlockData} (idle : state.notifying = none) :
      AttestorStep attestor state (.renotify block)
        { state.notify block with rebroadcasts := state.rebroadcasts.erase block }
  | visit {block : BlockData} {id : Nat} {ids : List Nat} {call : HeaderCall Sig OperatorId}
      (notifying : state.notifying = some (block, id :: ids)) (found : state.calls[id]? = some call)
      (room : ¬ (call.predicate block = true ∧ channelSize ≤ call.mqBlocksC.length)) :
      AttestorStep attestor state .visit
        { state with notifying := some (block, ids), calls := state.calls.set id (call.visit block) }
  | finishNotify {block : BlockData} (notifying : state.notifying = some (block, [])) :
      AttestorStep attestor state .finishNotify { state with notifying := none }
  | move {id : Nat} {move : CallMove} {call moved : HeaderCall Sig OperatorId}
      (unlocked : move.locks = true → state.notifying = none) (found : state.calls[id]? = some call)
      (moves : call.move attestor move = some moved) :
      AttestorStep attestor state (.move id move) { state with
        calls := state.calls.set id moved
        subscribers := move.subscribers state.subscribers id }

theorem attestorStep_of_step (one : state.step attestor event = some after) :
    AttestorStep attestor state event after := by
  cases event with
  | header rollupId rollupHeader =>
    cases one
    exact .header rollupId rollupHeader
  | mqBlock block =>
    obtain ⟨idle, done⟩ := Option.ite_none_right_eq_some.mp one
    cases done
    exact .mqBlock (Option.isNone_iff_eq_none.mp idle)
  | renotify block =>
    obtain ⟨⟨idle, _⟩, done⟩ := Option.ite_none_right_eq_some.mp one
    cases done
    exact .renotify (Option.isNone_iff_eq_none.mp idle)
  | visit =>
    simp only [AttestorState.step] at one
    split at one
    next notifying =>
      split at one
      next found =>
        obtain ⟨room, done⟩ := Option.ite_none_left_eq_some.mp one
        cases done
        exact .visit notifying found room
      next => cases one
    next => cases one
  | finishNotify =>
    simp only [AttestorState.step] at one
    split at one
    next notifying =>
      cases one
      exact .finishNotify notifying
    next => cases one
  | move id move =>
    obtain ⟨unlocked, one⟩ := Option.ite_none_left_eq_some.mp one
    split at one
    next found =>
      split at one
      next moves =>
        cases one
        refine .move (fun locks => ?_) found moves
        simpa [locks] using unlocked
      next => cases one
    next => cases one

inductive CallsStep (attestor : Attestor Sig OperatorId) (state : AttestorState Sig OperatorId) :
    AttestorEvent → List (HeaderCall Sig OperatorId) → Prop where
  | header (rollupId : Uint 32) (rollupHeader : Header) :
      CallsStep attestor state (.header rollupId rollupHeader)
        (state.calls ++ [newHeaderCall Sig OperatorId rollupId rollupHeader])
  | visit {block : BlockData} {id : Nat} {ids : List Nat} {call : HeaderCall Sig OperatorId}
      (notifying : state.notifying = some (block, id :: ids)) (found : state.calls[id]? = some call) :
      CallsStep attestor state .visit (state.calls.set id (call.visit block))
  | move {id : Nat} {move : CallMove} {call moved : HeaderCall Sig OperatorId} (found : state.calls[id]? = some call)
      (moves : CallStep attestor call move moved) : CallsStep attestor state (.move id move) (state.calls.set id moved)
  | stay {event : AttestorEvent} (silent : event.deliveredHeight = none) : CallsStep attestor state event state.calls

theorem callsStep_of_step (one : state.step attestor event = some after) :
    CallsStep attestor state event after.calls := by
  cases attestorStep_of_step one with
  | header rollupId rollupHeader => exact .header rollupId rollupHeader
  | mqBlock => exact .stay rfl
  | renotify => exact .stay rfl
  | visit notifying found => exact .visit notifying found
  | finishNotify => exact .stay rfl
  | move _ found moves => exact .move found (callStep_of_move moves)

/-- What new calls have and visits and moves keep holds for every call. -/
theorem calls_invariant {guard : AttestorState Sig OperatorId → AttestorEvent → Prop}
    (P : HeaderCall Sig OperatorId → Prop)
    (new : ∀ rollupId rollupHeader, P (newHeaderCall Sig OperatorId rollupId rollupHeader))
    (visit : ∀ state call block id ids, guard state .visit → state.notifying = some (block, id :: ids) →
      state.calls[id]? = some call → P call → P (call.visit block))
    (move : ∀ state call id move moved, guard state (.move id move) → state.calls[id]? = some call →
      CallStep attestor call move moved → P call → P moved)
    (run : (attestors attestor).GuardedRun guard history state) : ∀ call ∈ state.calls, P call := by
  refine run.invariant (fun _ state => ∀ call ∈ state.calls, P call) ?_ ?_
  · rintro _ rfl
    exact nofun
  · intro history state event after all allowed one
    have step := callsStep_of_step one
    generalize after.calls = calls at step ⊢
    cases step with
    | header rollupId rollupHeader =>
      exact List.forall_mem_append.mpr ⟨all, List.forall_mem_singleton.mpr (new rollupId rollupHeader)⟩
    | visit notifying found =>
      intro call member
      rcases List.mem_or_eq_of_mem_set member with old | rfl
      · exact all call old
      · exact visit _ _ _ _ _ allowed notifying found (all _ (List.mem_of_getElem? found))
    | move found moves =>
      intro call member
      rcases List.mem_or_eq_of_mem_set member with old | rfl
      · exact all call old
      · exact move _ _ _ _ _ allowed found moves (all _ (List.mem_of_getElem? found))
    | stay => exact all

theorem guardedRun_of_attestorSteps {guard : AttestorState Sig OperatorId → AttestorEvent → Prop}
    [∀ state event, Decidable (guard state event)] {events : List AttestorEvent}
    (done : events.foldlM (fun state event => if guard state event then state.step attestor event else none)
      (newAttestorState Sig OperatorId) = some state) : (attestors attestor).GuardedRun guard events state :=
  .of_steps (fun _ _ _ one => one) rfl done

end Steps

end Calls

end Sffl.Operator
