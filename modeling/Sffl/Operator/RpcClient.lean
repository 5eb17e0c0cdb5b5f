import Sffl.Operator.Resend
import Sffl.Semantics.Run

/-! The operator's client of the aggregator and everything that runs on it.

Senders and requests hold `rpcClientLock` for reading while they use the client;
dialing and shutting down hold it for writing. Senders and the resending of the
queue share `unsentMessagesLock`. A step is what one goroutine does up to the
next point where another may come between. What is done under the write lock is
one step, and it waits for the readers.
-/

set_option autoImplicit false

namespace Sffl.Operator

open Sffl.Semantics

/-- Messages are handed over as pointers, and all kinds are treated alike. The
number of the call that hands a message over stands for its pointer. -/
abbrev MessageNumber := Nat

abbrev Unsent := UnsentRpcMessage MessageNumber

abbrev Connection := Nat

/-- The steps of `sendOperatorMessage`: the last two hold the read lock. -/
inductive SendStage where
  | started
  | calling
  | appending
  deriving DecidableEq, Repr

structure Sender where
  message : MessageNumber
  stage : SendStage
  deriving DecidableEq, Repr

/-- The steps of `onTick`. While it resends, it holds the read lock and the
queue's lock; it is recorded what the queue was and how the calls ended. -/
inductive TickStage where
  | waiting
  | initializing
  | dialing
  | initialized
  | entering
  | resending (queue : List Unsent) (results : List CallResult) (i errorPos : Nat)
  deriving DecidableEq, Repr

structure AggregatorRpcClient where
  rpcClient : Option Connection
  nextConnection : Connection
  unsentMessages : List Unsent
  senders : List Sender
  startedRequests : Nat
  callingRequests : Nat
  /-- The goroutines of `handleRpcShutdown`, by the connection whose error started them. -/
  shutdowns : List Connection
  ticker : TickStage
  /-- A method was called on a nil client. -/
  crashed : Bool
  nextMessage : MessageNumber
  acknowledged : List MessageNumber
  dropped : List MessageNumber

def newAggregatorRpcClient : AggregatorRpcClient where
  rpcClient := none
  nextConnection := 0
  unsentMessages := []
  senders := []
  startedRequests := 0
  callingRequests := 0
  shutdowns := []
  ticker := .waiting
  crashed := false
  nextMessage := 0
  acknowledged := []
  dropped := []

inductive RpcEvent where
  | handOver
  | lockSender (message : MessageNumber)
  | callSender (message : MessageNumber) (result : CallResult)
  | append (message : MessageNumber)
  | startRequest
  | lockRequest
  | callRequest (result : CallResult)
  | shutdown (connection : Connection)
  | tick
  | initializeClient
  | dial (connected : Bool)
  | checkQueue
  | enterResend
  | resend (message : MessageNumber) (result : CallResult)
  | finishResend
  deriving DecidableEq, Repr

namespace AggregatorRpcClient

def resending (state : AggregatorRpcClient) : Bool :=
  match state.ticker with
  | .resending .. => true
  | _ => false

def readLocked (state : AggregatorRpcClient) : Bool :=
  state.senders.any (fun sender => sender.stage ≠ .started) || state.callingRequests ≠ 0 || state.resending

def continueAt (state : AggregatorRpcClient) (message : MessageNumber) (stage next : SendStage) : AggregatorRpcClient :=
  { state with senders := ⟨message, next⟩ :: state.senders.erase ⟨message, stage⟩ }

def returnFrom (state : AggregatorRpcClient) (message : MessageNumber) (stage : SendStage) : AggregatorRpcClient :=
  { state with senders := state.senders.erase ⟨message, stage⟩ }

def crash (state : AggregatorRpcClient) : AggregatorRpcClient := { state with crashed := true }

def handleRpcError (state : AggregatorRpcClient) (connection : Connection) : CallResult → AggregatorRpcClient
  -- an error that says the connection is gone starts a shutdown
  | .shutdownOrNetworkError => { state with shutdowns := connection :: state.shutdowns }
  | _ => state

def lockSender (state : AggregatorRpcClient) (message : MessageNumber) : AggregatorRpcClient :=
  match state.rpcClient with
  | none => state.continueAt message .started .appending
  | some _ => state.continueAt message .started .calling

def callSender (state : AggregatorRpcClient) (message : MessageNumber) (result : CallResult) : AggregatorRpcClient :=
  match state.rpcClient with
  | none => state.crash
  | some connection =>
    match result with
    | .success => { state.returnFrom message .calling with acknowledged := message :: state.acknowledged }
    | failure => (state.handleRpcError connection failure).continueAt message .calling .appending

def append (state : AggregatorRpcClient) (message : MessageNumber) : AggregatorRpcClient :=
  { state.returnFrom message .appending with unsentMessages := state.unsentMessages ++ [⟨message, 0⟩] }

def lockRequest (state : AggregatorRpcClient) : AggregatorRpcClient :=
  match state.rpcClient with
  | none => { state with startedRequests := state.startedRequests - 1 }
  | some _ => { state with
      startedRequests := state.startedRequests - 1
      callingRequests := state.callingRequests + 1 }

def callRequest (state : AggregatorRpcClient) (result : CallResult) : AggregatorRpcClient :=
  match state.rpcClient with
  | none => state.crash
  | some connection => { state.handleRpcError connection result with callingRequests := state.callingRequests - 1 }

def shutdown (state : AggregatorRpcClient) (connection : Connection) : AggregatorRpcClient :=
  -- it closes whatever client there is by then
  { state with rpcClient := none, shutdowns := state.shutdowns.erase connection }

/-- `dialAggregatorRpcClient`. Dialing and the two calls after it succeed or fail together. -/
def dial (state : AggregatorRpcClient) (connected : Bool) : AggregatorRpcClient :=
  match state.rpcClient with
  | some _ => { state with ticker := .initialized }
  | none =>
    if connected then { state with
      rpcClient := some state.nextConnection
      nextConnection := state.nextConnection + 1
      ticker := .initialized }
    else { state with ticker := .waiting }

def resend (state : AggregatorRpcClient) (queue : List Unsent) (results : List CallResult) (i errorPos : Nat)
    (entry : Unsent) (result : CallResult) : AggregatorRpcClient :=
  match state.rpcClient with
  | none => state.crash
  | some _ =>
    let acknowledged := if result = .success then entry.message :: state.acknowledged else state.acknowledged
    let dropped :=
      if result = .applicationError ∧ MaxRetries ≤ entry.retries + 1 then entry.message :: state.dropped
      else state.dropped
    match ResendLoop.iterate ⟨state.unsentMessages, i, errorPos⟩ entry result with
    | .next loop => { state with
        unsentMessages := loop.unsentMessages
        ticker := .resending queue (results ++ [result]) loop.i loop.errorPos
        acknowledged
        dropped }
    | .returned unsentMessages => { state with unsentMessages, ticker := .waiting, acknowledged, dropped }

def step (state : AggregatorRpcClient) : RpcEvent → Option AggregatorRpcClient
  | .handOver => some { state with
      senders := ⟨state.nextMessage, .started⟩ :: state.senders
      nextMessage := state.nextMessage + 1 }
  | .lockSender message => if ⟨message, .started⟩ ∈ state.senders then some (state.lockSender message) else none
  | .callSender message result =>
    if ⟨message, .calling⟩ ∈ state.senders then some (state.callSender message result) else none
  | .append message =>
    if ⟨message, .appending⟩ ∈ state.senders ∧ state.resending = false then some (state.append message) else none
  | .startRequest => some { state with startedRequests := state.startedRequests + 1 }
  | .lockRequest => if 0 < state.startedRequests then some state.lockRequest else none
  | .callRequest result => if 0 < state.callingRequests then some (state.callRequest result) else none
  | .shutdown connection =>
    if connection ∈ state.shutdowns ∧ state.readLocked = false then some (state.shutdown connection) else none
  | .tick => if state.ticker = .waiting then some { state with ticker := .initializing } else none
  | .initializeClient =>
    if state.ticker = .initializing then
      some { state with ticker := if state.rpcClient.isSome then .initialized else .dialing }
    else none
  | .dial connected =>
    if state.ticker = .dialing ∧ state.readLocked = false then some (state.dial connected) else none
  | .checkQueue =>
    if state.ticker = .initialized then
      some { state with ticker := if state.unsentMessages.length = 0 then .waiting else .entering }
    else none
  | .enterResend =>
    if state.ticker = .entering then some { state with ticker := .resending state.unsentMessages [] 0 0 } else none
  | .resend message result =>
    match state.ticker with
    | .resending queue results i errorPos =>
      match state.unsentMessages[i]? with
      | none => none
      | some entry =>
        if entry.message = message then some (state.resend queue results i errorPos entry result) else none
    | _ => none
  | .finishResend =>
    match state.ticker with
    | .resending _ _ i errorPos =>
      if state.unsentMessages.length ≤ i then
        some { state with unsentMessages := state.unsentMessages.take errorPos, ticker := .waiting }
      else none
    | _ => none

def advance (state : AggregatorRpcClient) (event : RpcEvent) : Option AggregatorRpcClient :=
  -- a call on a nil client takes the whole process down
  if state.crashed then none else state.step event

end AggregatorRpcClient

def rpcClients : System AggregatorRpcClient RpcEvent where
  initial state := state = newAggregatorRpcClient
  step state event after := state.advance event = some after

end Sffl.Operator
