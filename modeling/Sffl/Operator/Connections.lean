import Sffl.Operator.RpcSteps

/-! The client's connection: whether it is there when it is used, and who closes it.

Senders and requests test the client and use it under one read lock. The ticker
tests it, lets go of the lock and takes it again to resend. A shutdown is told
nothing about the connection that failed and closes the one it finds.
-/

set_option autoImplicit false

namespace Sffl.Operator

open AggregatorRpcClient Sffl.Semantics

variable {state after : AggregatorRpcClient} {event : RpcEvent} {history : List RpcEvent}

theorem readLocked_eq_false : state.readLocked = false ↔
    (∀ sender ∈ state.senders, sender.stage = .started) ∧ state.callingRequests = 0 ∧ state.resending = false := by
  simp [readLocked, and_assoc]

/-! ## A client that is there -/

/-- The ticker goes on to resend only with a client, and no shutdown takes it away before the resending has the lock. -/
def KeptForResend (state : AggregatorRpcClient) : RpcEvent → Prop
  | .checkQueue => state.unsentMessages ≠ [] → state.rpcClient.isSome = true
  | .shutdown _ => state.rpcClient.isSome = true → state.ticker ≠ .entering
  | _ => True

instance (state : AggregatorRpcClient) (event : RpcEvent) : Decidable (KeptForResend state event) := by
  cases event <;> dsimp only [KeptForResend] <;> infer_instance

structure ClientHeld (state : AggregatorRpcClient) : Prop where
  running : state.crashed = false
  senders : ∀ sender ∈ state.senders, sender.stage = .calling → state.rpcClient.isSome = true
  requests : 0 < state.callingRequests → state.rpcClient.isSome = true
  entering : state.ticker = .entering → state.rpcClient.isSome = true
  resending : state.resending = true → state.rpcClient.isSome = true

theorem ClientHeld.continueAt (held : ClientHeld state) {message : MessageNumber} {stage next : SendStage}
    (present : next = .calling → state.rpcClient.isSome = true) : ClientHeld (state.continueAt message stage next) where
  running := held.running
  senders := List.forall_mem_cons.mpr ⟨present, fun sender member => held.senders sender (List.mem_of_mem_erase member)⟩
  requests := held.requests
  entering := held.entering
  resending := held.resending

theorem ClientHeld.returnFrom (held : ClientHeld state) {message : MessageNumber} {stage : SendStage} :
    ClientHeld (state.returnFrom message stage) :=
  { held with senders := fun sender member => held.senders sender (List.mem_of_mem_erase member) }

theorem ClientHeld.handleRpcError (held : ClientHeld state) (connection : Connection) (result : CallResult) :
    ClientHeld (state.handleRpcError connection result) := by
  cases result with
  | success => exact held
  | applicationError => exact held
  | shutdownOrNetworkError => exact { held with }

theorem ClientHeld.tickTo (held : ClientHeld state) {stage : TickStage} (outside : stage ≠ .entering)
    (unlocked : { state with ticker := stage }.resending = false) : ClientHeld { state with ticker := stage } :=
  { held with
    entering := fun entering => absurd entering outside
    resending := fun resending => absurd (unlocked.symm.trans resending) Bool.false_ne_true }

theorem ClientHeld.step (held : ClientHeld state) (kept : KeptForResend state event) (step : RpcStep state event after) :
    ClientHeld after := by
  cases step with
  | handOver =>
    exact { held with senders := List.forall_mem_cons.mpr ⟨by simp, held.senders⟩ }
  | lockWithout => exact held.continueAt (by simp)
  | lockWith _ present => exact held.continueAt fun _ => by rw [present]; rfl
  | callCrashes calling absent => exact absurd (held.senders _ calling rfl) (by simp [absent])
  | callSucceeds => exact { held.returnFrom with }
  | callFails => exact (held.handleRpcError _ _).continueAt (by simp)
  | append => exact { held.returnFrom with }
  | startRequest => exact { held with }
  | refuseRequest => exact { held with }
  | lockRequest present => exact { held with requests := fun _ => by rw [present]; rfl }
  | requestCrashes calling absent => exact absurd (held.requests calling) (by simp [absent])
  | @requestReturns result connection present =>
    have fewer : 0 < state.callingRequests - 1 → state.rpcClient.isSome = true := fun _ => by rw [present]; rfl
    cases result with
    | success => exact { held with requests := fewer }
    | applicationError => exact { held with requests := fewer }
    | shutdownOrNetworkError => exact { held with requests := fewer }
  | shutdown _ unlocked =>
    -- the readers are gone, and the ticker is not between its test and its lock
    obtain ⟨started, none, notResending⟩ := readLocked_eq_false.mp unlocked
    refine ⟨held.running, fun sender member calling => ?_, fun some => ?_, fun entering => ?_, fun resending => ?_⟩
    · exact absurd (calling.symm.trans (started sender member)) (by simp)
    · exact absurd none (Nat.ne_of_gt some)
    · exact absurd entering (kept (held.entering entering))
    · exact absurd (notResending.symm.trans resending) Bool.false_ne_true
  | tick => exact held.tickTo (by simp) rfl
  | findClient => exact held.tickTo (by simp) rfl
  | missClient => exact held.tickTo (by simp) rfl
  | dialNeedless => exact held.tickTo (by simp) rfl
  | dialConnects => exact ⟨held.running, fun _ _ _ => rfl, fun _ => rfl, fun _ => rfl, fun _ => rfl⟩
  | dialFails => exact held.tickTo (by simp) rfl
  | findNothing => exact held.tickTo (by simp) rfl
  | findMessages _ nonempty => exact { held with entering := fun _ => kept nonempty, resending := fun _ => kept nonempty }
  | enterResend entering =>
    exact { held with entering := fun _ => held.entering entering, resending := fun _ => held.entering entering }
  | resendCrashes resending absent => exact absurd (held.resending resending) (by simp [absent])
  | resend _ _ present =>
    simp only [AggregatorRpcClient.resend, present]
    split
    · exact ⟨held.running, fun _ _ _ => rfl, fun _ => rfl, fun _ => rfl, fun _ => rfl⟩
    · exact ⟨held.running, fun _ _ _ => rfl, fun _ => rfl, fun _ => rfl, fun _ => rfl⟩
  | finishResend => exact { held.tickTo (by simp) rfl with }

/-- While every shutdown leaves the ticker its client, no call is made without one. -/
theorem rpcClient_present_of_keptForResend (run : rpcClients.GuardedRun KeptForResend history state) :
    state.crashed = false := by
  have held : ClientHeld state := by
    refine run.invariant (fun _ => ClientHeld) ?_ ?_
    · rintro _ rfl
      exact ⟨rfl, nofun, nofun, nofun, nofun⟩
    · intro history before event next held kept one
      exact held.step kept (rpcStep_of_advance one).2
  exact held.running

theorem rpcClient_present_of_keptForResend_retry :
    ∃ state, rpcClients.GuardedRun KeptForResend (connectEvents ++ failEvents 0 .applicationError ++ findEvents ++
      [.enterResend, .resend 0 .success, .finishResend]) state ∧ state.acknowledged = [0] ∧ state.crashed = false := by
  have run := @guardedRun_of_advances _ KeptForResend inferInstance
    (connectEvents ++ failEvents 0 .applicationError ++ findEvents ++ [.enterResend, .resend 0 .success, .finishResend]) rfl
  exact ⟨_, run, rfl, rpcClient_present_of_keptForResend run⟩

/-- The sender's shutdown comes between the ticker's test and its resending. -/
theorem overtaken_resend_crashes :
    ∃ state, rpcClients.Run (connectEvents ++ failEvents 0 .shutdownOrNetworkError ++ findEvents ++
      [.shutdown 0, .enterResend, .resend 0 .success]) state ∧ state.rpcClient = none ∧ state.crashed = true :=
  ⟨_, guardedRun_of_advances rfl, rfl, rfl⟩

/-! ## A client that failed -/

def DialsWhenSettled (state : AggregatorRpcClient) : RpcEvent → Prop
  | .dial connected => connected = true → state.rpcClient = none → state.shutdowns = []
  | _ => True

instance (state : AggregatorRpcClient) (event : RpcEvent) : Decidable (DialsWhenSettled state event) := by
  cases event <;> dsimp only [DialsWhenSettled] <;> infer_instance

def OwnShutdowns (state : AggregatorRpcClient) : Prop :=
  ∀ connection, state.rpcClient = some connection → ∀ cause ∈ state.shutdowns, cause = connection

theorem OwnShutdowns.handleRpcError (own : OwnShutdowns state) {connection : Connection}
    (present : state.rpcClient = some connection) (result : CallResult) :
    OwnShutdowns (state.handleRpcError connection result) := by
  cases result with
  | success => exact own
  | applicationError => exact own
  | shutdownOrNetworkError =>
    intro current present'
    refine List.forall_mem_cons.mpr ⟨?_, own current present'⟩
    exact Option.some.inj (present.symm.trans present')

theorem OwnShutdowns.step (own : OwnShutdowns state) (settled : DialsWhenSettled state event)
    (step : RpcStep state event after) : OwnShutdowns after := by
  cases step with
  | callFails _ present => exact own.handleRpcError present _
  | requestReturns present => exact own.handleRpcError present _
  | shutdown => exact nofun
  | dialConnects _ _ absent =>
    intro connection _ cause spawned
    have spawned : cause ∈ state.shutdowns := spawned
    rw [settled rfl absent] at spawned
    cases spawned
  | resend _ _ present =>
    simp only [AggregatorRpcClient.resend, present]
    split
    · exact fun connection found => own connection (present.trans found)
    · exact fun connection found => own connection (present.trans found)
  | _ => exact own

/-- While nobody dials before the shutdowns are done, a shutdown closes the connection whose error started it. -/
theorem shutdown_own_of_dialsWhenSettled (run : rpcClients.GuardedRun DialsWhenSettled history state)
    {cause connection : Connection} (one : state.advance (.shutdown cause) = some after)
    (present : state.rpcClient = some connection) : cause = connection := by
  have own : OwnShutdowns state := by
    refine run.invariant (fun _ => OwnShutdowns) ?_ ?_
    · rintro _ rfl
      exact nofun
    · intro history before event next own settled one
      exact own.step settled (rpcStep_of_advance one).2
  cases (rpcStep_of_advance one).2 with
  | shutdown spawned => exact own connection present cause spawned

theorem shutdown_own_of_dialsWhenSettled_first :
    ∃ state after, rpcClients.GuardedRun DialsWhenSettled (connectEvents ++ failEvents 0 .shutdownOrNetworkError) state ∧
      state.advance (.shutdown 0) = some after ∧ state.rpcClient = some 0 ∧ (0 : Connection) = 0 := by
  have run := @guardedRun_of_advances _ DialsWhenSettled inferInstance
    (connectEvents ++ failEvents 0 .shutdownOrNetworkError) rfl
  exact ⟨_, _, run, rfl, rfl, shutdown_own_of_dialsWhenSettled run rfl rfl⟩

/-- Two calls fail on one connection, and the second shutdown comes after the redial. -/
theorem late_shutdown_closes_successor :
    ∃ state after, rpcClients.Run (connectEvents ++ failEvents 0 .shutdownOrNetworkError ++
        failEvents 1 .shutdownOrNetworkError ++ [.shutdown 0, .tick, .initializeClient, .dial true]) state ∧
      state.rpcClient = some 1 ∧ state.advance (.shutdown 0) = some after ∧ after.rpcClient = none :=
  ⟨_, _, guardedRun_of_advances rfl, rfl, rfl, rfl⟩

end Sffl.Operator
