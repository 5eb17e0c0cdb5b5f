import Mathlib.Data.Multiset.Range
import Mathlib.Data.Multiset.AddSub
import Sffl.Operator.RpcSteps

/-! Where the messages handed to the operator's client are.

A custody says only where each message is and forgets goroutines, locks and
positions in the queue. The client refines it: the scan that compacts the queue
in place takes one entry after the other out of it or puts it back.
-/

set_option autoImplicit false

namespace Sffl.Operator

open AggregatorRpcClient Sffl.Semantics

def RpcEvent.appended : RpcEvent → Option MessageNumber
  | .append message => some message
  | _ => none

def RpcEvent.failedResend : RpcEvent → Option MessageNumber
  | .resend message .applicationError => some message
  | _ => none

def resendFailures (history : List RpcEvent) (message : MessageNumber) : Nat :=
  (history.filterMap RpcEvent.failedResend).count message

/-! ## Custodies -/

def messagesOf (queue : List Unsent) : Multiset MessageNumber := ↑(queue.map UnsentRpcMessage.message)

@[simp] theorem messagesOf_cons (entry : Unsent) (queue : List Unsent) :
    messagesOf (entry :: queue) = entry.message ::ₘ messagesOf queue := rfl

@[simp] theorem messagesOf_nil : messagesOf [] = 0 := rfl

@[simp] theorem messagesOf_append (front back : List Unsent) :
    messagesOf (front ++ back) = messagesOf front + messagesOf back := by
  rw [messagesOf, List.map_append, ← Multiset.coe_add]
  rfl

theorem mem_messagesOf {queue : List Unsent} {entry : Unsent} (member : entry ∈ queue) :
    entry.message ∈ messagesOf queue := List.mem_map_of_mem member

@[ext]
structure Custody where
  handedOver : Nat
  inFlight : Multiset MessageNumber
  acknowledged : Multiset MessageNumber
  queued : List Unsent
  dropped : Multiset MessageNumber

namespace Custody

def all (custody : Custody) : Multiset MessageNumber :=
  custody.inFlight + custody.acknowledged + messagesOf custody.queued + custody.dropped

def resend (custody : Custody) (before : List Unsent) (entry : Unsent) (rest : List Unsent) : CallResult → Custody
  | .success => { custody with queued := before ++ rest, acknowledged := entry.message ::ₘ custody.acknowledged }
  | .shutdownOrNetworkError => custody
  | .applicationError =>
    if entry.retries + 1 < MaxRetries then
      { custody with queued := before ++ { entry with retries := entry.retries + 1 } :: rest }
    else { custody with queued := before ++ rest, dropped := entry.message ::ₘ custody.dropped }

inductive Step (custody : Custody) : RpcEvent → Custody → Prop where
  | handOver : Step custody .handOver { custody with
      handedOver := custody.handedOver + 1
      inFlight := custody.handedOver ::ₘ custody.inFlight }
  | acknowledge {message : MessageNumber} {others : Multiset MessageNumber}
      (carried : custody.inFlight = message ::ₘ others) :
      Step custody (.callSender message .success)
        { custody with inFlight := others, acknowledged := message ::ₘ custody.acknowledged }
  | append {message : MessageNumber} {others : Multiset MessageNumber} (carried : custody.inFlight = message ::ₘ others) :
      Step custody (.append message)
        { custody with inFlight := others, queued := custody.queued ++ [⟨message, 0⟩] }
  | resend {before rest : List Unsent} {entry : Unsent} (queue : custody.queued = before ++ entry :: rest)
      (result : CallResult) : Step custody (.resend entry.message result) (custody.resend before entry rest result)
  | stay {event : RpcEvent} (nothingAppended : event.appended = none) (nothingFailed : event.failedResend = none) :
      Step custody event custody

variable {custody after : Custody} {event : RpcEvent} {history : List RpcEvent}

/-- Each message handed over is in exactly one place. -/
def Located (custody : Custody) : Prop := custody.all = Multiset.range custody.handedOver

theorem Located.step (located : custody.Located) (step : custody.Step event after) : after.Located := by
  unfold Located all at *
  cases step with
  | handOver => simp [Multiset.range_succ, ← located, Multiset.cons_add]
  | acknowledge carried => simp [← located, carried, Multiset.cons_add]
  | append carried =>
    rw [messagesOf_append, messagesOf_cons, messagesOf_nil]
    simp only [← located, carried, Multiset.cons_add, Multiset.add_cons, Multiset.add_zero]
  | @resend before rest entry queue result =>
    rw [queue] at located
    cases result with
    | success => simp [resend, ← located, Multiset.cons_add, Multiset.add_cons]
    | shutdownOrNetworkError => simpa [resend, queue] using located
    | applicationError =>
      by_cases left : entry.retries + 1 < MaxRetries
      · simpa [resend, left] using located
      · simp [resend, left, ← located, Multiset.cons_add, Multiset.add_cons]
  | stay => exact located

theorem Located.alone {before rest : List Unsent} {entry : Unsent} (located : custody.Located)
    (queue : custody.queued = before ++ entry :: rest) :
    entry.message < custody.handedOver ∧ entry.message ∉ custody.inFlight ∧ entry.message ∉ custody.dropped ∧
      ∀ other ∈ before ++ rest, other.message ≠ entry.message := by
  have split : custody.all = entry.message ::ₘ
      (custody.inFlight + custody.acknowledged + messagesOf (before ++ rest) + custody.dropped) := by
    simp [all, queue, Multiset.add_cons, Multiset.cons_add]
  have distinct : (entry.message ::ₘ
      (custody.inFlight + custody.acknowledged + messagesOf (before ++ rest) + custody.dropped)).Nodup := by
    rw [← split, located]
    exact Multiset.nodup_range _
  have elsewhere := (Multiset.nodup_cons.mp distinct).1
  simp only [Multiset.mem_add, not_or] at elsewhere
  obtain ⟨⟨⟨notInFlight, _⟩, notQueued⟩, notDropped⟩ := elsewhere
  refine ⟨?_, notInFlight, notDropped, fun other member same => notQueued (same ▸ mem_messagesOf member)⟩
  rw [← Multiset.mem_range, ← located, split]
  exact Multiset.mem_cons_self _ _

def Ordered (history : List RpcEvent) (custody : Custody) : Prop :=
  (custody.queued.map UnsentRpcMessage.message).Sublist (history.filterMap RpcEvent.appended)

theorem resend_queued {before rest : List Unsent} {entry : Unsent} (queue : custody.queued = before ++ entry :: rest)
    (result : CallResult) :
    ((custody.resend before entry rest result).queued.map UnsentRpcMessage.message).Sublist
      (custody.queued.map UnsentRpcMessage.message) := by
  have without : ((before ++ rest).map UnsentRpcMessage.message).Sublist
      (custody.queued.map UnsentRpcMessage.message) := by
    rw [queue]
    exact ((List.sublist_cons_self entry rest).append_left before).map _
  cases result with
  | success => exact without
  | shutdownOrNetworkError => exact .refl _
  | applicationError =>
    by_cases left : entry.retries + 1 < MaxRetries
    · simp [resend, left, queue]
    · simpa [resend, left] using without

theorem Ordered.later (ordered : custody.Ordered history) (event : RpcEvent) : custody.Ordered (history ++ [event]) := by
  unfold Ordered
  rw [List.filterMap_append]
  exact ordered.trans (List.sublist_append_left _ _)

theorem Ordered.step (ordered : custody.Ordered history) (step : custody.Step event after) :
    after.Ordered (history ++ [event]) := by
  cases step with
  | append =>
    unfold Ordered
    rw [List.filterMap_append, List.map_append]
    exact List.Sublist.append ordered (.refl _)
  | resend queue result => exact (resend_queued queue result).trans (ordered.later _)
  | handOver => exact ordered.later _
  | acknowledge => exact ordered.later _
  | stay => exact ordered.later _

structure Counted (history : List RpcEvent) (custody : Custody) : Prop where
  fresh : ∀ message, custody.handedOver ≤ message → resendFailures history message = 0
  inFlight : ∀ message ∈ custody.inFlight, resendFailures history message = 0
  queued : ∀ entry ∈ custody.queued,
    resendFailures history entry.message = entry.retries ∧ entry.retries < MaxRetries
  dropped : ∀ message ∈ custody.dropped, resendFailures history message = MaxRetries

theorem resendFailures_of_none (nothingFailed : event.failedResend = none) (message : MessageNumber) :
    resendFailures (history ++ [event]) message = resendFailures history message := by
  simp [resendFailures, nothingFailed]

theorem resendFailures_of_ne {message failed : MessageNumber} (other : message ≠ failed) :
    resendFailures (history ++ [.resend failed .applicationError]) message = resendFailures history message := by
  simp [resendFailures, RpcEvent.failedResend, other.symm]

theorem resendFailures_self (message : MessageNumber) :
    resendFailures (history ++ [.resend message .applicationError]) message = resendFailures history message + 1 := by
  simp [resendFailures, RpcEvent.failedResend]

theorem Counted.quiet (counted : custody.Counted history) (nothingFailed : event.failedResend = none) :
    custody.Counted (history ++ [event]) := by
  refine ⟨?_, ?_, ?_, ?_⟩ <;> intro item <;> rw [resendFailures_of_none nothingFailed]
  · exact counted.fresh item
  · exact counted.inFlight item
  · exact counted.queued item
  · exact counted.dropped item

theorem Counted.failedResend {front rest : List Unsent} {entry : Unsent} (counted : custody.Counted history)
    (located : custody.Located) (queue : custody.queued = front ++ entry :: rest) :
    (custody.resend front entry rest .applicationError).Counted (history ++ [.resend entry.message .applicationError]) := by
  obtain ⟨old, notInFlight, notDropped, elsewhere⟩ := located.alone queue
  obtain ⟨before, few⟩ := counted.queued entry (by simp [queue])
  have here : resendFailures (history ++ [.resend entry.message .applicationError]) entry.message =
      entry.retries + 1 := by rw [resendFailures_self, before]
  have others : ∀ other ∈ front ++ rest,
      resendFailures (history ++ [.resend entry.message .applicationError]) other.message = other.retries ∧
        other.retries < MaxRetries := by
    intro other member
    rw [resendFailures_of_ne (elsewhere other member)]
    apply counted.queued
    rw [queue]
    exact ((List.sublist_cons_self entry rest).append_left front).subset member
  have fresh : ∀ message, custody.handedOver ≤ message →
      resendFailures (history ++ [.resend entry.message .applicationError]) message = 0 := by
    intro message later
    rw [resendFailures_of_ne (Nat.ne_of_gt (Nat.lt_of_lt_of_le old later))]
    exact counted.fresh message later
  have inFlight : ∀ message ∈ custody.inFlight,
      resendFailures (history ++ [.resend entry.message .applicationError]) message = 0 := by
    intro message member
    rw [resendFailures_of_ne (ne_of_mem_of_not_mem member notInFlight)]
    exact counted.inFlight message member
  have dropped : ∀ message ∈ custody.dropped,
      resendFailures (history ++ [.resend entry.message .applicationError]) message = MaxRetries := by
    intro message member
    rw [resendFailures_of_ne (ne_of_mem_of_not_mem member notDropped)]
    exact counted.dropped message member
  by_cases left : entry.retries + 1 < MaxRetries
  · rw [resend, if_pos left]
    refine ⟨fresh, inFlight, fun other member => ?_, dropped⟩
    rcases List.mem_append.mp member with member | member
    · exact others other (List.mem_append_left _ member)
    · rcases List.mem_cons.mp member with rfl | member
      · exact ⟨here, left⟩
      · exact others other (List.mem_append_right _ member)
  · rw [resend, if_neg left]
    refine ⟨fresh, inFlight, others, fun message member => ?_⟩
    rcases Multiset.mem_cons.mp member with rfl | member
    · rw [here]
      omega
    · exact dropped message member

theorem Counted.step (counted : custody.Counted history) (located : custody.Located) (step : custody.Step event after) :
    after.Counted (history ++ [event]) := by
  cases step with
  | handOver =>
    have before : custody.Counted (history ++ [.handOver]) := counted.quiet rfl
    refine { before with fresh := fun message later => ?_, inFlight := ?_ }
    · exact before.fresh message (Nat.le_of_succ_le later)
    · intro message member
      rcases Multiset.mem_cons.mp member with rfl | member
      · exact before.fresh _ (Nat.le_refl _)
      · exact before.inFlight message member
  | @acknowledge acknowledged others carried =>
    have before : custody.Counted (history ++ [.callSender acknowledged .success]) := counted.quiet rfl
    refine { before with inFlight := fun message member => before.inFlight message ?_ }
    rw [carried]
    exact Multiset.mem_cons_of_mem member
  | @append appended others carried =>
    have before : custody.Counted (history ++ [.append appended]) := counted.quiet rfl
    have flying : ∀ message ∈ others, resendFailures (history ++ [.append appended]) message = 0 := by
      intro message member
      apply before.inFlight
      rw [carried]
      exact Multiset.mem_cons_of_mem member
    refine { before with inFlight := flying, queued := fun entry member => ?_ }
    rcases List.mem_append.mp member with member | member
    · exact before.queued entry member
    · cases List.mem_singleton.mp member
      refine ⟨before.inFlight appended ?_, Nat.zero_lt_succ _⟩
      rw [carried]
      exact Multiset.mem_cons_self _ _
  | @resend front rest entry queue result =>
    have inside : ∀ other ∈ front ++ rest, other ∈ custody.queued := by
      intro other member
      rw [queue]
      exact ((List.sublist_cons_self entry rest).append_left front).subset member
    cases result with
    | success =>
      have before : custody.Counted (history ++ [.resend entry.message .success]) := counted.quiet rfl
      exact { before with queued := fun other member => before.queued other (inside other member) }
    | shutdownOrNetworkError => exact counted.quiet rfl
    | applicationError => exact counted.failedResend located queue
  | stay _ nothingFailed => exact counted.quiet nothingFailed

end Custody

/-! ## The client's custody -/

/-- While the queue is scanned it is what is behind the cursor and what is ahead of the scan. -/
def AggregatorRpcClient.queued (state : AggregatorRpcClient) : List Unsent :=
  match state.ticker with
  | .resending _ _ i errorPos => (ResendLoop.mk state.unsentMessages i errorPos).live
  | _ => state.unsentMessages

def AggregatorRpcClient.custody (state : AggregatorRpcClient) : Custody where
  handedOver := state.nextMessage
  inFlight := ↑(state.senders.map Sender.message)
  acknowledged := ↑state.acknowledged
  queued := state.queued
  dropped := ↑state.dropped

section Client
variable {state after : AggregatorRpcClient} {event : RpcEvent} {history : List RpcEvent}

def Agrees (outcomes : Nat → CallResult) (results : List CallResult) : Prop :=
  ∀ j result, results[j]? = some result → outcomes j = result

/-- A scan is on its way to what `tryResendFromDeque` returns for the queue it began with. -/
def Scanning (state : AggregatorRpcClient) : Prop :=
  ∀ queue results i errorPos, state.ticker = .resending queue results i errorPos →
    errorPos ≤ i ∧ results.length = i ∧
      ∀ outcomes, Agrees outcomes results → tryResendFromDeque outcomes queue =
        state.unsentMessages.take errorPos ++ scanned outcomes i (state.unsentMessages.drop i)

theorem senders_erase {sender : Sender} (member : sender ∈ state.senders) :
    (↑(state.senders.map Sender.message) : Multiset MessageNumber) =
      sender.message ::ₘ ↑((state.senders.erase sender).map Sender.message) := by
  rw [Multiset.cons_coe, ← List.map_cons, Multiset.coe_eq_coe]
  exact (List.perm_cons_erase member).map _

theorem continueAt_custody {message : MessageNumber} {stage next : SendStage} (member : ⟨message, stage⟩ ∈ state.senders) :
    (state.continueAt message stage next).custody = state.custody := by
  unfold AggregatorRpcClient.custody
  rw [senders_erase member]
  rfl

theorem resend_custody {queue : List Unsent} {results : List CallResult} {i errorPos : Nat} {entry : Unsent}
    {result : CallResult} {connection : Connection} (behind : errorPos ≤ i)
    (resending : state.ticker = .resending queue results i errorPos) (scanned : state.unsentMessages[i]? = some entry)
    (present : state.rpcClient = some connection) :
    state.custody.queued = state.unsentMessages.take errorPos ++ entry :: state.unsentMessages.drop (i + 1) ∧
      (state.resend queue results i errorPos entry result).custody =
        state.custody.resend (state.unsentMessages.take errorPos) entry (state.unsentMessages.drop (i + 1)) result := by
  obtain ⟨inside, rfl⟩ := List.getElem?_eq_some_iff.mp scanned
  have queued : state.custody.queued =
      state.unsentMessages.take errorPos ++ state.unsentMessages[i] :: state.unsentMessages.drop (i + 1) := by
    simp [AggregatorRpcClient.custody, AggregatorRpcClient.queued, resending, ResendLoop.live]
  have leaves := (ResendLoop.mk state.unsentMessages i errorPos).iterate_leaves behind inside state.unsentMessages[i] result
  refine ⟨queued, ?_⟩
  simp only [AggregatorRpcClient.resend, present]
  cases iterated : (ResendLoop.mk state.unsentMessages i errorPos).iterate state.unsentMessages[i] result with
  | returned rest =>
    rw [iterated] at leaves
    obtain ⟨rfl, rfl⟩ := leaves
    simp [AggregatorRpcClient.custody, AggregatorRpcClient.queued, Custody.resend, resending]
  | next loop =>
    rw [iterated] at leaves
    obtain ⟨answered, _, _, _, ahead, behindCursor⟩ := leaves
    have live : loop.live = state.unsentMessages.take errorPos ++ (retried state.unsentMessages[i] result).toList ++
        state.unsentMessages.drop (i + 1) := by
      rw [ResendLoop.live, behindCursor, ahead]
    cases result with
    | success => simp [AggregatorRpcClient.custody, AggregatorRpcClient.queued, Custody.resend, live, retried]
    | shutdownOrNetworkError => exact absurd rfl answered
    | applicationError =>
      by_cases left : state.unsentMessages[i].retries + 1 < MaxRetries
      · simp [AggregatorRpcClient.custody, AggregatorRpcClient.queued, Custody.resend, live, retried, left,
          Nat.not_le.mpr left]
      · simp [AggregatorRpcClient.custody, AggregatorRpcClient.queued, Custody.resend, live, retried, left,
          Nat.not_lt.mp left]

theorem queued_of_idle (idle : state.resending = false) : state.queued = state.unsentMessages := by
  unfold AggregatorRpcClient.queued
  split
  next resending => simp [AggregatorRpcClient.resending, resending] at idle
  next => rfl

theorem stay_of_idle (idle : state.resending = false) (queued : after.queued = state.unsentMessages)
    (others : { after.custody with queued := [] } = { state.custody with queued := [] })
    (nothingAppended : event.appended = none) (nothingFailed : event.failedResend = none) :
    state.custody.Step event after.custody := by
  have same : after.custody = state.custody := by
    have queue : after.custody.queued = state.custody.queued := queued.trans (queued_of_idle idle).symm
    simp only [Custody.mk.injEq, true_and] at others
    exact Custody.ext others.1 others.2.1 others.2.2.1 queue others.2.2.2
  rw [same]
  exact .stay nothingAppended nothingFailed

/-- The custody keeps step with the client until the client crashes. -/
theorem custody_step (scanning : Scanning state) (step : RpcStep state event after) :
    state.custody.Step event after.custody ∨ after.crashed = true ∧ after.custody = state.custody := by
  cases step with
  | handOver => exact .inl .handOver
  | lockWithout started =>
    rw [continueAt_custody started]
    exact .inl (.stay rfl rfl)
  | lockWith started =>
    rw [continueAt_custody started]
    exact .inl (.stay rfl rfl)
  | callCrashes => exact .inr ⟨rfl, rfl⟩
  | callSucceeds calling => exact .inl (.acknowledge (senders_erase calling))
  | @callFails message result connection calling =>
    have same : (state.handleRpcError connection result).custody = state.custody := by cases result <;> rfl
    have still : ⟨message, .calling⟩ ∈ (state.handleRpcError connection result).senders := by
      cases result <;> exact calling
    rw [continueAt_custody still, same]
    exact .inl (.stay rfl rfl)
  | @append message appending unlocked =>
    have queue : (state.append message).custody.queued = state.custody.queued ++ [⟨message, 0⟩] := by
      have idle : (state.append message).resending = false := unlocked
      have before : state.custody.queued = state.unsentMessages := queued_of_idle unlocked
      rw [before]
      exact queued_of_idle idle
    have custody : (state.append message).custody = { state.custody with
        inFlight := ↑((state.senders.erase ⟨message, .appending⟩).map Sender.message)
        queued := state.custody.queued ++ [⟨message, 0⟩] } :=
      Custody.ext rfl rfl rfl queue rfl
    rw [custody]
    exact .inl (.append (senders_erase appending))
  | startRequest => exact .inl (.stay rfl rfl)
  | refuseRequest => exact .inl (.stay rfl rfl)
  | lockRequest => exact .inl (.stay rfl rfl)
  | requestCrashes => exact .inr ⟨rfl, rfl⟩
  | @requestReturns result => cases result <;> exact .inl (.stay rfl rfl)
  | shutdown => exact .inl (.stay rfl rfl)
  | tick waiting => exact .inl (stay_of_idle (by simp [AggregatorRpcClient.resending, waiting]) rfl rfl rfl rfl)
  | findClient initializing => exact .inl (stay_of_idle (by simp [AggregatorRpcClient.resending, initializing]) rfl rfl rfl rfl)
  | missClient initializing => exact .inl (stay_of_idle (by simp [AggregatorRpcClient.resending, initializing]) rfl rfl rfl rfl)
  | dialNeedless dialing => exact .inl (stay_of_idle (by simp [AggregatorRpcClient.resending, dialing]) rfl rfl rfl rfl)
  | dialConnects dialing => exact .inl (stay_of_idle (by simp [AggregatorRpcClient.resending, dialing]) rfl rfl rfl rfl)
  | dialFails dialing => exact .inl (stay_of_idle (by simp [AggregatorRpcClient.resending, dialing]) rfl rfl rfl rfl)
  | findNothing initialized => exact .inl (stay_of_idle (by simp [AggregatorRpcClient.resending, initialized]) rfl rfl rfl rfl)
  | findMessages initialized => exact .inl (stay_of_idle (by simp [AggregatorRpcClient.resending, initialized]) rfl rfl rfl rfl)
  | enterResend entering => exact .inl (stay_of_idle (by simp [AggregatorRpcClient.resending, entering]) rfl rfl rfl rfl)
  | resendCrashes => exact .inr ⟨rfl, rfl⟩
  | resend resending scanned present =>
    obtain ⟨behind, _⟩ := scanning _ _ _ _ resending
    obtain ⟨queued, custody⟩ := resend_custody behind resending scanned present
    rw [custody]
    exact .inl (.resend queued _)
  | @finishResend queue results i errorPos resending ended =>
    have before : state.custody.queued = state.unsentMessages.take errorPos := by
      simp [AggregatorRpcClient.custody, AggregatorRpcClient.queued, resending, ResendLoop.live,
        List.drop_of_length_le ended]
    have custody : ({ state with unsentMessages := state.unsentMessages.take errorPos, ticker := .waiting } :
        AggregatorRpcClient).custody = state.custody :=
      Custody.ext rfl rfl rfl before.symm rfl
    rw [custody]
    exact .inl (.stay rfl rfl)

/-! ## The scan -/

theorem tryResendFromDeque_scanned (outcomes : Nat → CallResult) (queue : List Unsent) :
    tryResendFromDeque outcomes queue = scanned outcomes 0 queue := by
  rw [tryResendFromDeque, ResendLoop.run_eq _ (Nat.le_refl 0) (by simp)]
  simp

theorem Agrees.front {outcomes : Nat → CallResult} {results more : List CallResult}
    (agrees : Agrees outcomes (results ++ more)) : Agrees outcomes results := by
  intro j result known
  obtain ⟨inside, _⟩ := List.getElem?_eq_some_iff.mp known
  exact agrees j result ((List.getElem?_append_left inside).trans known)

theorem Agrees.last {outcomes : Nat → CallResult} {results : List CallResult} {result : CallResult}
    (agrees : Agrees outcomes (results ++ [result])) : outcomes results.length = result :=
  agrees _ result List.getElem?_concat_length

theorem scanned_drop {outcomes : Nat → CallResult} {i : Nat} {entry : Unsent} {queue : List Unsent}
    (here : queue[i]? = some entry) :
    scanned outcomes i (queue.drop i) =
      if outcomes i = .shutdownOrNetworkError then queue.drop i
      else (retried entry (outcomes i)).toList ++ scanned outcomes (i + 1) (queue.drop (i + 1)) := by
  obtain ⟨inside, rfl⟩ := List.getElem?_eq_some_iff.mp here
  rw [← List.getElem_cons_drop inside, scanned]

theorem Scanning.of_idle (idle : state.resending = false) : Scanning state := by
  intro queue results i errorPos resending
  simp [AggregatorRpcClient.resending, resending] at idle

theorem Scanning.step (scanning : Scanning state) (step : RpcStep state event after) : Scanning after := by
  cases step with
  | @callFails _ result => cases result <;> exact scanning
  | @requestReturns result => cases result <;> exact scanning
  | append _ unlocked => exact .of_idle unlocked
  | tick => exact .of_idle rfl
  | findClient => exact .of_idle rfl
  | missClient => exact .of_idle rfl
  | dialNeedless => exact .of_idle rfl
  | dialConnects => exact .of_idle rfl
  | dialFails => exact .of_idle rfl
  | findNothing => exact .of_idle rfl
  | findMessages => exact .of_idle rfl
  | finishResend => exact .of_idle rfl
  | enterResend =>
    intro queue results i errorPos resending
    cases resending
    exact ⟨Nat.le_refl 0, rfl, fun outcomes _ => tryResendFromDeque_scanned outcomes _⟩
  | @resend queue results i errorPos entry result connection resending here present =>
    obtain ⟨behind, length, onTheWay⟩ := scanning _ _ _ _ resending
    obtain ⟨inside, _⟩ := List.getElem?_eq_some_iff.mp here
    have leaves := (ResendLoop.mk state.unsentMessages i errorPos).iterate_leaves behind inside entry result
    simp only [AggregatorRpcClient.resend, present]
    split
    next loop iterated =>
      rw [iterated] at leaves
      obtain ⟨answered, next, behindAfter, _, ahead, behindCursor⟩ := leaves
      intro _ _ _ _ goesOn
      cases goesOn
      refine ⟨behindAfter, by simp [length, next], fun outcomes agrees => ?_⟩
      have result_eq : outcomes i = result := length ▸ agrees.last
      rw [onTheWay outcomes agrees.front, scanned_drop here, result_eq, if_neg answered, behindCursor, ahead, next,
        List.append_assoc]
    next => exact .of_idle rfl
  | _ => exact scanning

def RpcEvent.results : RpcEvent → List CallResult
  | .resend _ result => [result]
  | _ => []

/-- A scan that ends leaves what `tryResendFromDeque` computes from the results of its calls. -/
theorem scan_ends (scanning : Scanning state) (step : RpcStep state event after) {queue : List Unsent}
    {results : List CallResult} {i errorPos : Nat} (resending : state.ticker = .resending queue results i errorPos)
    (ends : after.ticker = .waiting) {outcomes : Nat → CallResult} (agrees : Agrees outcomes (results ++ event.results)) :
    after.unsentMessages = tryResendFromDeque outcomes queue := by
  obtain ⟨behind, length, onTheWay⟩ := scanning _ _ _ _ resending
  rw [onTheWay outcomes agrees.front]
  cases step with
  | @resend _ _ _ _ entry result connection same here present =>
    cases resending.symm.trans same
    obtain ⟨inside, _⟩ := List.getElem?_eq_some_iff.mp here
    have leaves := (ResendLoop.mk state.unsentMessages i errorPos).iterate_leaves behind inside entry result
    have result_eq : outcomes i = result := length ▸ agrees.last
    simp only [AggregatorRpcClient.resend, present] at ends ⊢
    split at ends
    next => cases ends
    next unsent iterated =>
      rw [iterated] at leaves
      obtain ⟨failed, kept⟩ := leaves
      rw [scanned_drop here, result_eq, if_pos failed]
      exact kept
  | @finishResend _ _ _ _ same ended =>
    cases resending.symm.trans same
    rw [List.drop_of_length_le ended, scanned, List.append_nil]
  | tick waiting => cases resending.symm.trans waiting
  | findClient initializing => cases resending.symm.trans initializing
  | missClient initializing => cases resending.symm.trans initializing
  | dialNeedless dialing => cases resending.symm.trans dialing
  | dialConnects dialing => cases resending.symm.trans dialing
  | dialFails dialing => cases resending.symm.trans dialing
  | findNothing initialized => cases resending.symm.trans initialized
  | findMessages initialized => cases resending.symm.trans initialized
  | enterResend entering => cases resending.symm.trans entering
  | @callFails _ result => cases result <;> cases resending.symm.trans ends
  | @requestReturns result => cases result <;> cases resending.symm.trans ends
  | _ => cases resending.symm.trans ends

/-! ## Whole runs -/

structure Kept (history : List RpcEvent) (state : AggregatorRpcClient) : Prop where
  scanning : Scanning state
  located : state.custody.Located
  ordered : state.custody.Ordered history
  counted : state.crashed = false → state.custody.Counted history

theorem Kept.step (kept : Kept history state) (running : state.crashed = false) (step : RpcStep state event after) :
    Kept (history ++ [event]) after := by
  have scanning := kept.scanning.step step
  rcases custody_step kept.scanning step with moved | ⟨crashed, same⟩
  · refine ⟨scanning, kept.located.step moved, kept.ordered.step moved, fun _ => ?_⟩
    exact (kept.counted running).step kept.located moved
  · refine ⟨scanning, same ▸ kept.located, ?_, fun running => absurd (running.symm.trans crashed) nofun⟩
    rw [same]
    exact kept.ordered.later event

theorem kept_of_run (run : rpcClients.Run history state) : Kept history state := by
  refine run.invariant Kept ?_ ?_
  · rintro _ rfl
    exact ⟨nofun, rfl, .refl _, fun _ => ⟨fun _ _ => rfl, nofun, nofun, nofun⟩⟩
  · intro history before event next kept _ one
    obtain ⟨running, step⟩ := rpcStep_of_advance one
    exact kept.step running step

/-- Each message handed over is in flight, acknowledged, queued or dropped: in one of these places and there once. The
messages dropped are those whose resending failed `MaxRetries` times with an application error. The queue is in the
order of the appends. A scan leaves the entries before its first shutdown or network error that failed and have
retries left, and all entries from that error on. -/
theorem sendQueue_keeps_messages (run : rpcClients.Run history state) :
    (↑(state.senders.map Sender.message) + ↑state.acknowledged + messagesOf state.queued + ↑state.dropped =
        Multiset.range state.nextMessage) ∧
      (state.resending = false → state.queued = state.unsentMessages) ∧
      (state.queued.map UnsentRpcMessage.message).Sublist (history.filterMap RpcEvent.appended) ∧
      (state.crashed = false →
        (∀ message ∈ state.dropped, resendFailures history message = MaxRetries) ∧
          ∀ entry ∈ state.queued, resendFailures history entry.message = entry.retries ∧ entry.retries < MaxRetries) ∧
      ∀ event after queue results i errorPos, state.advance event = some after →
        state.ticker = .resending queue results i errorPos → after.ticker = .waiting →
        ∀ outcomes k, Agrees outcomes (results ++ event.results) → k ≤ queue.length →
          (∀ j < k, outcomes j ≠ .shutdownOrNetworkError) →
          (k < queue.length → outcomes k = .shutdownOrNetworkError) →
          after.unsentMessages = resent outcomes k queue := by
  have kept := kept_of_run run
  refine ⟨kept.located, queued_of_idle, kept.ordered, fun running => ?_, ?_⟩
  · exact ⟨(kept.counted running).dropped, (kept.counted running).queued⟩
  · intro event after queue results i errorPos one resending ends outcomes k agrees inside answered failed
    rw [scan_ends kept.scanning (rpcStep_of_advance one).2 resending ends agrees]
    exact tryResendFromDeque_eq inside answered failed

theorem sendQueue_keeps_messages_retry :
    ∃ state, rpcClients.Run (connectEvents ++ failEvents 0 .shutdownOrNetworkError ++ failEvents 1 .applicationError ++
        findEvents ++ [.enterResend, .resend 0 .applicationError]) state ∧
      state.queued = [⟨0, 1⟩, ⟨1, 0⟩] ∧
      ↑(state.senders.map Sender.message) + ↑state.acknowledged + messagesOf state.queued + ↑state.dropped =
        Multiset.range state.nextMessage := by
  have run : rpcClients.Run (connectEvents ++ failEvents 0 .shutdownOrNetworkError ++ failEvents 1 .applicationError ++
    findEvents ++ [.enterResend, .resend 0 .applicationError]) _ := guardedRun_of_advances rfl
  exact ⟨_, run, rfl, (sendQueue_keeps_messages run).1⟩

end Client

end Sffl.Operator
