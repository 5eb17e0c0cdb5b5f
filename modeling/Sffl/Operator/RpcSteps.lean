import Sffl.Operator.RpcClient

/-! What a step of the operator's client does.

Each case says which goroutine moves, what it needs and what changes. The
invariants of the client are derived from these cases only.
-/

set_option autoImplicit false

namespace Sffl.Operator

open AggregatorRpcClient Sffl.Semantics

/-- The steps, one case for each way a goroutine can go on. -/
inductive RpcStep (state : AggregatorRpcClient) : RpcEvent → AggregatorRpcClient → Prop where
  | handOver : RpcStep state .handOver { state with
      senders := ⟨state.nextMessage, .started⟩ :: state.senders
      nextMessage := state.nextMessage + 1 }
  | lockWithout {message : MessageNumber} (started : ⟨message, .started⟩ ∈ state.senders)
      (absent : state.rpcClient = none) :
      RpcStep state (.lockSender message) (state.continueAt message .started .appending)
  | lockWith {message : MessageNumber} {connection : Connection} (started : ⟨message, .started⟩ ∈ state.senders)
      (present : state.rpcClient = some connection) :
      RpcStep state (.lockSender message) (state.continueAt message .started .calling)
  | callCrashes {message : MessageNumber} {result : CallResult} (calling : ⟨message, .calling⟩ ∈ state.senders)
      (absent : state.rpcClient = none) : RpcStep state (.callSender message result) state.crash
  | callSucceeds {message : MessageNumber} (calling : ⟨message, .calling⟩ ∈ state.senders) :
      RpcStep state (.callSender message .success)
        { state.returnFrom message .calling with acknowledged := message :: state.acknowledged }
  | callFails {message : MessageNumber} {result : CallResult} {connection : Connection}
      (calling : ⟨message, .calling⟩ ∈ state.senders) (present : state.rpcClient = some connection) :
      RpcStep state (.callSender message result)
        ((state.handleRpcError connection result).continueAt message .calling .appending)
  | append {message : MessageNumber} (appending : ⟨message, .appending⟩ ∈ state.senders)
      (unlocked : state.resending = false) : RpcStep state (.append message) (state.append message)
  | startRequest : RpcStep state .startRequest { state with startedRequests := state.startedRequests + 1 }
  | refuseRequest (absent : state.rpcClient = none) :
      RpcStep state .lockRequest { state with startedRequests := state.startedRequests - 1 }
  | lockRequest {connection : Connection} (present : state.rpcClient = some connection) :
      RpcStep state .lockRequest { state with
        startedRequests := state.startedRequests - 1
        callingRequests := state.callingRequests + 1 }
  | requestCrashes {result : CallResult} (calling : 0 < state.callingRequests) (absent : state.rpcClient = none) :
      RpcStep state (.callRequest result) state.crash
  | requestReturns {result : CallResult} {connection : Connection} (present : state.rpcClient = some connection) :
      RpcStep state (.callRequest result)
        { state.handleRpcError connection result with callingRequests := state.callingRequests - 1 }
  | shutdown {connection : Connection} (spawned : connection ∈ state.shutdowns) (unlocked : state.readLocked = false) :
      RpcStep state (.shutdown connection) (state.shutdown connection)
  | tick (waiting : state.ticker = .waiting) : RpcStep state .tick { state with ticker := .initializing }
  | findClient {connection : Connection} (initializing : state.ticker = .initializing)
      (present : state.rpcClient = some connection) :
      RpcStep state .initializeClient { state with ticker := .initialized }
  | missClient (initializing : state.ticker = .initializing) (absent : state.rpcClient = none) :
      RpcStep state .initializeClient { state with ticker := .dialing }
  | dialNeedless {connected : Bool} {connection : Connection} (dialing : state.ticker = .dialing)
      (present : state.rpcClient = some connection) : RpcStep state (.dial connected) { state with ticker := .initialized }
  | dialConnects (dialing : state.ticker = .dialing) (unlocked : state.readLocked = false)
      (absent : state.rpcClient = none) :
      RpcStep state (.dial true) { state with
        rpcClient := some state.nextConnection
        nextConnection := state.nextConnection + 1
        ticker := .initialized }
  | dialFails (dialing : state.ticker = .dialing) (absent : state.rpcClient = none) :
      RpcStep state (.dial false) { state with ticker := .waiting }
  | findNothing (initialized : state.ticker = .initialized) (empty : state.unsentMessages = []) :
      RpcStep state .checkQueue { state with ticker := .waiting }
  | findMessages (initialized : state.ticker = .initialized) (nonempty : state.unsentMessages ≠ []) :
      RpcStep state .checkQueue { state with ticker := .entering }
  | enterResend (entering : state.ticker = .entering) :
      RpcStep state .enterResend { state with ticker := .resending state.unsentMessages [] 0 0 }
  | resendCrashes {message : MessageNumber} {result : CallResult} (resending : state.resending = true)
      (absent : state.rpcClient = none) : RpcStep state (.resend message result) state.crash
  | resend {queue : List Unsent} {results : List CallResult} {i errorPos : Nat} {entry : Unsent} {result : CallResult}
      {connection : Connection} (resending : state.ticker = .resending queue results i errorPos)
      (scanned : state.unsentMessages[i]? = some entry) (present : state.rpcClient = some connection) :
      RpcStep state (.resend entry.message result) (state.resend queue results i errorPos entry result)
  | finishResend {queue : List Unsent} {results : List CallResult} {i errorPos : Nat}
      (resending : state.ticker = .resending queue results i errorPos) (ended : state.unsentMessages.length ≤ i) :
      RpcStep state .finishResend
        { state with unsentMessages := state.unsentMessages.take errorPos, ticker := .waiting }

theorem rpcStep_of_advance {state after : AggregatorRpcClient} {event : RpcEvent}
    (one : state.advance event = some after) : state.crashed = false ∧ RpcStep state event after := by
  obtain ⟨running, one⟩ := Option.ite_none_left_eq_some.mp one
  refine ⟨by simpa using running, ?_⟩
  cases event with
  | handOver =>
    cases one
    exact .handOver
  | lockSender message =>
    obtain ⟨started, result⟩ := Option.ite_none_right_eq_some.mp one
    cases result
    unfold AggregatorRpcClient.lockSender
    split
    next absent => exact .lockWithout started absent
    next present => exact .lockWith started present
  | callSender message result =>
    obtain ⟨calling, done⟩ := Option.ite_none_right_eq_some.mp one
    cases done
    unfold AggregatorRpcClient.callSender
    split
    next absent => exact .callCrashes calling absent
    next present =>
      cases result with
      | success => exact .callSucceeds calling
      | applicationError => exact .callFails calling present
      | shutdownOrNetworkError => exact .callFails calling present
  | append message =>
    obtain ⟨⟨appending, unlocked⟩, result⟩ := Option.ite_none_right_eq_some.mp one
    cases result
    exact .append appending unlocked
  | startRequest =>
    cases one
    exact .startRequest
  | lockRequest =>
    obtain ⟨_, result⟩ := Option.ite_none_right_eq_some.mp one
    cases result
    unfold AggregatorRpcClient.lockRequest
    split
    next absent => exact .refuseRequest absent
    next present => exact .lockRequest present
  | callRequest result =>
    obtain ⟨calling, done⟩ := Option.ite_none_right_eq_some.mp one
    cases done
    unfold AggregatorRpcClient.callRequest
    split
    next absent => exact .requestCrashes calling absent
    next present => exact .requestReturns present
  | shutdown connection =>
    obtain ⟨⟨spawned, unlocked⟩, result⟩ := Option.ite_none_right_eq_some.mp one
    cases result
    exact .shutdown spawned unlocked
  | tick =>
    obtain ⟨waiting, result⟩ := Option.ite_none_right_eq_some.mp one
    cases result
    exact .tick waiting
  | initializeClient =>
    obtain ⟨initializing, result⟩ := Option.ite_none_right_eq_some.mp one
    cases result
    split
    next found =>
      obtain ⟨connection, present⟩ := Option.isSome_iff_exists.mp found
      exact .findClient initializing present
    next missing => exact .missClient initializing (Option.not_isSome_iff_eq_none.mp missing)
  | dial connected =>
    obtain ⟨⟨dialing, unlocked⟩, result⟩ := Option.ite_none_right_eq_some.mp one
    cases result
    unfold AggregatorRpcClient.dial
    split
    next present => exact .dialNeedless dialing present
    next absent =>
      cases connected with
      | true => exact .dialConnects dialing unlocked absent
      | false => exact .dialFails dialing absent
  | checkQueue =>
    obtain ⟨initialized, result⟩ := Option.ite_none_right_eq_some.mp one
    cases result
    by_cases empty : state.unsentMessages = []
    · rw [if_pos (List.length_eq_zero_iff.mpr empty)]
      exact .findNothing initialized empty
    · rw [if_neg (mt List.length_eq_zero_iff.mp empty)]
      exact .findMessages initialized empty
  | enterResend =>
    obtain ⟨entering, result⟩ := Option.ite_none_right_eq_some.mp one
    cases result
    exact .enterResend entering
  | resend message result =>
    cases stage : state.ticker with
    | resending queue results i errorPos =>
      simp only [step, stage] at one
      cases scanned : state.unsentMessages[i]? with
      | none => simp [scanned] at one
      | some entry =>
        simp only [scanned] at one
        obtain ⟨rfl, done⟩ := Option.ite_none_right_eq_some.mp one
        cases done
        cases client : state.rpcClient with
        | none =>
          simp only [AggregatorRpcClient.resend, client]
          exact .resendCrashes (by simp [AggregatorRpcClient.resending, stage]) client
        | some connection => exact .resend stage scanned client
    | waiting => simp [step, stage] at one
    | initializing => simp [step, stage] at one
    | dialing => simp [step, stage] at one
    | initialized => simp [step, stage] at one
    | entering => simp [step, stage] at one
  | finishResend =>
    cases stage : state.ticker with
    | resending queue results i errorPos =>
      simp only [step, stage] at one
      obtain ⟨ended, result⟩ := Option.ite_none_right_eq_some.mp one
      cases result
      exact .finishResend stage ended
    | waiting => simp [step, stage] at one
    | initializing => simp [step, stage] at one
    | dialing => simp [step, stage] at one
    | initialized => simp [step, stage] at one
    | entering => simp [step, stage] at one

/-! ## Computed runs -/

theorem guardedRun_of_advances {state : AggregatorRpcClient} {guard : AggregatorRpcClient → RpcEvent → Prop}
    [∀ state event, Decidable (guard state event)] {events : List RpcEvent}
    (done : events.foldlM (fun state event => if guard state event then state.advance event else none)
      newAggregatorRpcClient = some state) :
    rpcClients.GuardedRun guard events state :=
  .of_steps (fun _ _ _ one => one) rfl done

def connectEvents : List RpcEvent := [.tick, .initializeClient, .dial true, .checkQueue]

def failEvents (message : MessageNumber) (failure : CallResult) : List RpcEvent :=
  [.handOver, .lockSender message, .callSender message failure, .append message]

def findEvents : List RpcEvent := [.tick, .initializeClient, .checkQueue]

end Sffl.Operator
