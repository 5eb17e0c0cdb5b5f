import Sffl.Rollup.Replay

/-! The broadcast of operator set updates to the rollups.

A call of `BroadcastOperatorSetUpdate` starts a goroutine that loops over the
writers and starts one more goroutine for each. That one takes the writer's
lock, reads the next id of the rollup's registry and sends the update only if
the ids agree; otherwise it returns as if it had sent it. Goroutines of
different calls meet only at the lock of a writer, and any waiting one may get it.
-/

set_option autoImplicit false

namespace Sffl.Aggregator

open Sffl.Evm Sffl.Rollup Sffl.Semantics

def UPDATE_OPERATOR_SET_RETRIES : Nat := 5

structure Broadcast where
  message : OperatorSetUpdate
  signatureInfo : SignatureInfo
  deriving DecidableEq

/-- The goroutine that still has to start an update for each of the writers. -/
structure WriterLoop where
  broadcast : Broadcast
  writers : List (Uint 32)
  deriving DecidableEq

/-- The steps of `UpdateOperatorSet` that others may come between. The loop
variable counts the failed attempts. -/
inductive UpdateStage where
  | locking
  | reading (i : Nat)
  | sending (i : Nat)
  | waiting (i : Nat)
  | reporting (error : String)
  deriving DecidableEq

structure WriterUpdate where
  rollupId : Uint 32
  broadcast : Broadcast
  stage : UpdateStage
  deriving DecidableEq

structure RollupBroadcaster where
  registries : Uint 32 → Registry
  operatorSetUpdateLock : Uint 32 → Bool
  loops : List WriterLoop
  updates : List WriterUpdate

def newRollupBroadcaster (registries : Uint 32 → Registry) : RollupBroadcaster :=
  ⟨registries, fun _ => false, [], []⟩

/-- A transaction is not mined, is mined without the sender hearing of it, or is
mined and confirmed. -/
inductive SendResult where
  | failed
  | unconfirmed
  | confirmed
  deriving DecidableEq

inductive BroadcastEvent where
  | broadcastOperatorSetUpdate (broadcast : Broadcast)
  | iterate (loop : WriterLoop) (done : Bool)
  | lock (update : WriterUpdate)
  | read (update : WriterUpdate) (answered : Bool)
  | send (update : WriterUpdate) (result : SendResult)
  | wake (update : WriterUpdate) (contextError : Option String)
  | report (update : WriterUpdate)

namespace RollupBroadcaster

def continueAt (state : RollupBroadcaster) (update : WriterUpdate) (stage : UpdateStage) : RollupBroadcaster :=
  { state with updates := { update with stage } :: state.updates.erase update }

def returnFrom (state : RollupBroadcaster) (update : WriterUpdate) (error : Option String) : RollupBroadcaster :=
  -- the lock goes with the call; an error is still to be reported by the goroutine
  let reports := error.toList.map fun text =>
    ⟨update.rollupId, update.broadcast,
      .reporting s!"failed to update operator set on writer {update.rollupId.toNat}: {text}"⟩
  { state with
    operatorSetUpdateLock := Function.update state.operatorSetUpdateLock update.rollupId false
    updates := reports ++ state.updates.erase update }

def iterate (state : RollupBroadcaster) (loop : WriterLoop) (done : Bool) : RollupBroadcaster :=
  let others := state.loops.erase loop
  match loop.writers with
  | [] => { state with loops := others }
  | rollupId :: writers =>
    if done then { state with loops := others }
    else { state with
      loops := ⟨loop.broadcast, writers⟩ :: others
      updates := ⟨rollupId, loop.broadcast, .locking⟩ :: state.updates }

def lock (state : RollupBroadcaster) (update : WriterUpdate) : RollupBroadcaster :=
  { state.continueAt update (.reading 0) with
    operatorSetUpdateLock := Function.update state.operatorSetUpdateLock update.rollupId true }

def read (state : RollupBroadcaster) (update : WriterUpdate) (i : Nat) (answered : Bool) : RollupBroadcaster :=
  if answered = false then state.continueAt update (.waiting i)
  else if update.broadcast.message.id ≠ (state.registries update.rollupId).nextOperatorUpdateId then
    state.returnFrom update none
  else state.continueAt update (.sending i)

def wake (state : RollupBroadcaster) (update : WriterUpdate) (i : Nat) (contextError : Option String) :
    RollupBroadcaster :=
  match contextError with
  | some error => state.returnFrom update (some error)
  | none =>
    if i + 1 < UPDATE_OPERATOR_SET_RETRIES then state.continueAt update (.reading (i + 1))
    else state.returnFrom update (some "failed to update operator set after retries")

section Chain
variable {G : Type} [AddCommGroup G] (evm : Precompiles G)

def mine (state : RollupBroadcaster) (update : WriterUpdate) : RollupBroadcaster :=
  let registry := state.registries update.rollupId
  let mined := settle registry
    (updateOperatorSet evm registry update.broadcast.message update.broadcast.signatureInfo)
  { state with registries := Function.update state.registries update.rollupId mined }

def send (state : RollupBroadcaster) (update : WriterUpdate) (i : Nat) : SendResult → RollupBroadcaster
  | .failed => state.continueAt update (.waiting i)
  | .unconfirmed => (state.mine evm update).continueAt update (.waiting i)
  | .confirmed => (state.mine evm update).returnFrom update none

variable (writers : List (Uint 32))

def advance (state : RollupBroadcaster) : BroadcastEvent → Option RollupBroadcaster
  | .broadcastOperatorSetUpdate broadcast => some { state with loops := ⟨broadcast, writers⟩ :: state.loops }
  | .iterate loop done => if loop ∈ state.loops then some (state.iterate loop done) else none
  | .lock update =>
    if update ∈ state.updates ∧ update.stage = .locking ∧ state.operatorSetUpdateLock update.rollupId = false then
      some (state.lock update)
    else none
  | .read update answered =>
    match update.stage with
    | .reading i => if update ∈ state.updates then some (state.read update i answered) else none
    | _ => none
  | .send update result =>
    match update.stage with
    | .sending i => if update ∈ state.updates then some (state.send evm update i result) else none
    | _ => none
  | .wake update contextError =>
    match update.stage with
    | .waiting i => if update ∈ state.updates then some (state.wake update i contextError) else none
    | _ => none
  | .report update =>
    match update.stage with
    | .reporting _ =>
      if update ∈ state.updates then some { state with updates := state.updates.erase update } else none
    | _ => none

end Chain

end RollupBroadcaster

section Runs
variable {G : Type} [AddCommGroup G] (evm : Precompiles G) (writers : List (Uint 32)) (registries : Uint 32 → Registry)

/-- Calls of `BroadcastOperatorSetUpdate` at any time and their goroutines in any interleaving. -/
def rollupBroadcasters : System RollupBroadcaster BroadcastEvent where
  initial state := state = newRollupBroadcaster registries
  step state event after := state.advance evm writers event = some after

/-- Reads are answered, and a transaction is accepted by the registry and confirmed. -/
def Succeeds (state : RollupBroadcaster) : BroadcastEvent → Prop
  | .read _ answered => answered = true
  | .send update result => result = .confirmed ∧
      (updateOperatorSet evm (state.registries update.rollupId) update.broadcast.message
        update.broadcast.signatureInfo).isOk = true
  | _ => True

def broadcastIds (history : List BroadcastEvent) : List Nat :=
  history.filterMap fun event => match event with
    | .broadcastOperatorSetUpdate broadcast => some broadcast.message.id.toNat
    | _ => none

/-- The ids of the goroutines that took the lock of a rollup's writer, in their order. -/
def lockOrder (rollupId : Uint 32) (history : List BroadcastEvent) : List Nat :=
  history.filterMap fun event => match event with
    | .lock update => if update.rollupId = rollupId then some update.broadcast.message.id.toNat else none
    | _ => none

def Returned (state : RollupBroadcaster) : Prop := state.loops = [] ∧ state.updates = []

end Runs

end Sffl.Aggregator
