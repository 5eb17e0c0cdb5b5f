import Sffl.Indexer.Candidates
import Sffl.Semantics.Conveyor
import Sffl.Semantics.Run

/-! The candidates validator's two tasks.

`process_candidates` asks for the outcome of every candidate and publishes the
payloads of those that succeeded. A candidate that has not finished waits in a
queue under a lock, together with all that come after it. A ticker flushes the
queue, and so does `process_candidates` before it looks at a new candidate. Both
call `flush`, but only the ticker goes on when an outcome cannot be fetched.
-/

set_option autoImplicit false

namespace Sffl.Indexer.CandidatesValidator

open Sffl.Evm Sffl.Semantics

/-! ## What is asked and what is published -/

inductive FinalExecutionStatus where
  | notStarted
  | started
  | failure
  | successValue
  deriving DecidableEq, Repr

/-- The view client cannot be reached, or it does not know the transaction's status. -/
inductive FetchError where
  | mailbox
  | txStatus
  deriving DecidableEq, Repr

abbrev Answer := Except FetchError (Option FinalExecutionStatus)

def fetchExecutionOutcome (answer : Answer) : Except FetchError FinalExecutionStatus := do
  let executionOutcome ← answer
  return executionOutcome.getD .notStarted

def EXCHANGE_NAME : String := "rollup_exchange"

def DEFAULT_ROUTING_KEY : String := "da-mq"

def PERSISTENT_DELIVERY_MODE : UInt8 := 2

def MESSAGE_TTL_MS : UInt32 := 120000

structure PublishOptions where
  exchange : String := EXCHANGE_NAME
  routingKey : String := DEFAULT_ROUTING_KEY
  deliveryMode : UInt8 := PERSISTENT_DELIVERY_MODE
  expiration : String := toString MESSAGE_TTL_MS
  deriving DecidableEq, Repr

structure PublisherContext where
  blockHash : CryptoHash
  deriving DecidableEq, Repr

structure PublishPayload where
  transactionId : CryptoHash
  data : Bytes
  deriving DecidableEq, Repr

structure PublishData where
  publishOptions : PublishOptions
  cx : PublisherContext
  payload : PublishPayload
  deriving DecidableEq, Repr

def getRoutingKey (rollupId : UInt32) : String := "rollup" ++ toString rollupId

def publishData (candidate : CandidateData) (data : Bytes) : PublishData where
  publishOptions := { routingKey := getRoutingKey candidate.rollupId }
  cx := ⟨candidate.transaction.executionOutcome.blockHash⟩
  payload := ⟨candidate.transaction.transaction.hash, data⟩

def publications (candidate : CandidateData) : List PublishData := candidate.payloads.map (publishData candidate)

/-! ## The tasks -/

inductive Verdict where
  | published
  | discarded
  deriving DecidableEq, Repr

/-- What the two tasks share. The lock is held by a task that is flushing. -/
structure Shared where
  queue : List CandidateData
  published : List PublishData
  /-- The outcomes that could be fetched. -/
  outcomes : List (CandidateData × FinalExecutionStatus)
  departed : List (CandidateData × Verdict)
  deriving DecidableEq

/-- A call of `flush`: it asks about the front of the queue, or publishes its payloads from the `i`-th one on. -/
inductive Flush where
  | fetching
  | sending (i : Nat)
  | returned (flushed : Bool)
  deriving DecidableEq, Repr

inductive Process where
  | receiving
  | locking (candidate : CandidateData)
  | flushing (candidate : CandidateData) (flush : Flush)
  | checking (candidate : CandidateData)
  | fetching (candidate : CandidateData)
  /-- The execution is not finished. -/
  | relocking (candidate : CandidateData)
  | sending (candidate : CandidateData) (i : Nat)
  /-- `process_candidates` has returned an error. -/
  | ended
  deriving DecidableEq

inductive Ticker where
  | waiting
  | locking
  | flushing (flush : Flush)
  | ended
  deriving DecidableEq

structure Validator where
  received : List CandidateData
  shared : Shared
  process : Process
  ticker : Ticker
  deriving DecidableEq

inductive ValidatorEvent where
  | receive (candidate : CandidateData)
  | lock
  | fetch (answer : Answer)
  | publish
  | flushed
  | check
  | relock
  | tick
  | tickerLock
  | tickerFetch (answer : Answer)
  | tickerPublish
  | tickerFlushed
  /-- The sender of `done` was dropped. -/
  | tickerDone

def newValidator : Validator where
  received := []
  shared := { queue := [], published := [], outcomes := [], departed := [] }
  process := .receiving
  ticker := .waiting

def nextFetch (queue : List CandidateData) : Flush := if queue.isEmpty then .returned true else .fetching

def Shared.fetched (shared : Shared) (candidate : CandidateData) (status : FinalExecutionStatus) : Shared :=
  { shared with outcomes := shared.outcomes ++ [(candidate, status)] }

def Shared.depart (shared : Shared) (candidate : CandidateData) (verdict : Verdict) : Shared :=
  { shared with departed := shared.departed ++ [(candidate, verdict)] }

def Shared.publish (shared : Shared) (candidate : CandidateData) (data : Bytes) : Shared :=
  { shared with published := shared.published ++ [publishData candidate data] }

def Shared.flushFetch (shared : Shared) (answer : Answer) : Option (Except FetchError (Shared × Flush)) :=
  -- the queue is not empty here
  match shared.queue with
  | [] => none
  | candidate :: rest => some do
    let status ← fetchExecutionOutcome answer
    let shared := shared.fetched candidate status
    match status with
    | .notStarted => return (shared, .returned false)
    | .started => return (shared, .returned false)
    | .successValue => return (shared, .sending 0)
    | .failure => return ({ shared.depart candidate .discarded with queue := rest }, nextFetch rest)

def Shared.flushPublish (shared : Shared) (i : Nat) : Option (Shared × Flush) :=
  match shared.queue with
  | [] => none
  | candidate :: rest =>
    match candidate.payloads[i]? with
    | some data => some (shared.publish candidate data, .sending (i + 1))
    | none => some ({ shared.depart candidate .published with queue := rest }, nextFetch rest)

def Process.holdsLock : Process → Bool
  | .flushing _ _ => true
  | _ => false

def Ticker.holdsLock : Ticker → Bool
  | .flushing _ => true
  | _ => false

def Validator.step (validator : Validator) : ValidatorEvent → Option Validator
  | .receive candidate =>
    if validator.process = .receiving then
      some { validator with received := validator.received ++ [candidate], process := .locking candidate }
    else none
  | .lock =>
    match validator.process with
    | .locking candidate =>
      if validator.ticker.holdsLock then none
      else some { validator with process := .flushing candidate (nextFetch validator.shared.queue) }
    | _ => none
  | .fetch answer =>
    match validator.process with
    | .flushing candidate .fetching =>
      match validator.shared.flushFetch answer with
      | none => none
      -- the error is propagated, and the candidate in hand is dropped
      | some (.error _) => some { validator with process := .ended }
      | some (.ok (shared, flush)) => some { validator with shared, process := .flushing candidate flush }
    | .fetching candidate =>
      match fetchExecutionOutcome answer with
      | .error _ => some { validator with process := .ended }
      | .ok status =>
        let shared := validator.shared.fetched candidate status
        match status with
        | .notStarted => some { validator with shared, process := .relocking candidate }
        | .started => some { validator with shared, process := .relocking candidate }
        | .successValue => some { validator with shared, process := .sending candidate 0 }
        | .failure => some { validator with shared := shared.depart candidate .discarded, process := .receiving }
    | _ => none
  | .publish =>
    match validator.process with
    | .flushing candidate (.sending i) =>
      (validator.shared.flushPublish i).map fun (shared, flush) =>
        { validator with shared, process := .flushing candidate flush }
    | .sending candidate i =>
      match candidate.payloads[i]? with
      | some data =>
        some { validator with shared := validator.shared.publish candidate data, process := .sending candidate (i + 1) }
      | none => some { validator with shared := validator.shared.depart candidate .published, process := .receiving }
    | _ => none
  | .flushed =>
    match validator.process with
    | .flushing candidate (.returned true) => some { validator with process := .checking candidate }
    | .flushing candidate (.returned false) =>
      some { validator with
        shared := { validator.shared with queue := validator.shared.queue ++ [candidate] }
        process := .receiving }
    | _ => none
  | .check =>
    match validator.process with
    | .checking candidate =>
      if candidate.transaction.executionOutcome.status = .failure then
        some { validator with shared := validator.shared.depart candidate .discarded, process := .receiving }
      else some { validator with process := .fetching candidate }
    | _ => none
  | .relock =>
    match validator.process with
    | .relocking candidate =>
      if validator.ticker.holdsLock then none
      else some { validator with
        shared := { validator.shared with queue := validator.shared.queue ++ [candidate] }
        process := .receiving }
    | _ => none
  | .tick => if validator.ticker = .waiting then some { validator with ticker := .locking } else none
  | .tickerLock =>
    if validator.ticker = .locking ∧ ¬ validator.process.holdsLock then
      some { validator with ticker := .flushing (nextFetch validator.shared.queue) }
    else none
  | .tickerFetch answer =>
    match validator.ticker with
    | .flushing .fetching =>
      match validator.shared.flushFetch answer with
      | none => none
      -- the ticker ignores the error
      | some (.error _) => some { validator with ticker := .waiting }
      | some (.ok (shared, flush)) => some { validator with shared, ticker := .flushing flush }
    | _ => none
  | .tickerPublish =>
    match validator.ticker with
    | .flushing (.sending i) =>
      (validator.shared.flushPublish i).map fun (shared, flush) => { validator with shared, ticker := .flushing flush }
    | _ => none
  | .tickerFlushed =>
    match validator.ticker with
    | .flushing (.returned _) => some { validator with ticker := .waiting }
    | _ => none
  | .tickerDone =>
    -- no task is left that holds the queue
    if validator.process = .ended ∧ validator.ticker = .waiting then
      some { validator with shared := { validator.shared with queue := [] }, ticker := .ended }
    else none

def validators : System Validator ValidatorEvent where
  initial validator := validator = newValidator
  step validator event after := validator.step event = some after

/-! ## What becomes of the candidates -/

def Process.held : Process → List CandidateData
  | .receiving => []
  | .locking candidate => [candidate]
  | .flushing candidate _ => [candidate]
  | .checking candidate => [candidate]
  | .fetching candidate => [candidate]
  | .relocking candidate => [candidate]
  | .sending candidate _ => [candidate]
  | .ended => []

def Validator.belt (validator : Validator) : Conveyor CandidateData Verdict where
  departed := validator.shared.departed
  queue := validator.shared.queue
  hand := validator.process.held

def Flush.underway (queue : List CandidateData) : Flush → List PublishData
  | .sending i => (queue.head?.toList.flatMap publications).take i
  | _ => []

def Process.underway (queue : List CandidateData) : Process → List PublishData
  | .flushing _ flush => flush.underway queue
  | .sending candidate i => (publications candidate).take i
  | _ => []

def Ticker.underway (queue : List CandidateData) : Ticker → List PublishData
  | .flushing flush => flush.underway queue
  | _ => []

def Validator.underway (validator : Validator) : List PublishData :=
  validator.process.underway validator.shared.queue ++ validator.ticker.underway validator.shared.queue

def Process.Direct : Process → Prop
  | .flushing _ flush => flush = .returned true
  | .checking _ => True
  | .fetching _ => True
  | .relocking _ => True
  | .sending _ _ => True
  | _ => False

def Flush.Filled (queue : List CandidateData) : Flush → Prop
  | .returned _ => True
  | _ => queue ≠ []

def Process.Filled (queue : List CandidateData) : Process → Prop
  | .flushing _ flush => flush.Filled queue
  | _ => True

def Ticker.Filled (queue : List CandidateData) : Ticker → Prop
  | .flushing flush => flush.Filled queue
  | _ => True

/-- `process_candidates` gets an answer to what it asks. -/
def Answered : ValidatorEvent → Prop
  | .fetch (.error _) => False
  | _ => True

theorem nextFetch_filled (queue : List CandidateData) : (nextFetch queue).Filled queue := by
  unfold nextFetch
  split
  next => trivial
  next nonempty => exact fun empty => nonempty (List.isEmpty_iff.mpr empty)

theorem nextFetch_underway (queue other : List CandidateData) : (nextFetch queue).underway other = [] := by
  unfold nextFetch
  split <;> rfl

theorem nextFetch_returned {queue : List CandidateData} (returned : nextFetch queue = .returned true) : queue = [] := by
  unfold nextFetch at returned
  split at returned
  next empty => exact List.isEmpty_iff.mp empty
  next => cases returned

inductive FlushRound (shared : Shared) : Flush → Shared × Flush → Prop where
  | unfinished {candidate : CandidateData} {status : FinalExecutionStatus} :
      FlushRound shared .fetching (shared.fetched candidate status, .returned false)
  | succeeded {candidate : CandidateData} {rest : List CandidateData} : shared.queue = candidate :: rest →
      FlushRound shared .fetching (shared.fetched candidate .successValue, .sending 0)
  | failed {candidate : CandidateData} {rest : List CandidateData} : shared.queue = candidate :: rest →
      FlushRound shared .fetching
        ({ (shared.fetched candidate .failure).depart candidate .discarded with queue := rest }, nextFetch rest)
  | publish {candidate : CandidateData} {rest : List CandidateData} {i : Nat} {data : Bytes} :
      shared.queue = candidate :: rest → candidate.payloads[i]? = some data →
      FlushRound shared (.sending i) (shared.publish candidate data, .sending (i + 1))
  | sent {candidate : CandidateData} {rest : List CandidateData} {i : Nat} :
      shared.queue = candidate :: rest → candidate.payloads[i]? = none →
      FlushRound shared (.sending i) ({ shared.depart candidate .published with queue := rest }, nextFetch rest)

theorem answered_of_fetch {answer : Answer} {status : FinalExecutionStatus}
    (fetched : fetchExecutionOutcome answer = .ok status) : Answered (.fetch answer) := by
  cases answer with
  | error => cases fetched
  | ok => trivial

theorem fetchExecutionOutcome_error {answer : Answer} {error : FetchError}
    (failed : fetchExecutionOutcome answer = .error error) : answer = .error error := by
  cases answer with
  | error reason =>
    cases failed
    rfl
  | ok => cases failed

theorem flushRound_fetch {shared after : Shared} {flush : Flush} {answer : Answer}
    (done : shared.flushFetch answer = some (.ok (after, flush))) :
    Answered (.fetch answer) ∧ FlushRound shared .fetching (after, flush) := by
  unfold Shared.flushFetch at done
  split at done
  next => cases done
  next candidate rest waiting =>
    obtain ⟨status, fetched, result⟩ := bind_eq_ok.mp (Option.some.inj done)
    refine ⟨answered_of_fetch fetched, ?_⟩
    cases status with
    | notStarted =>
      cases result
      exact .unfinished
    | started =>
      cases result
      exact .unfinished
    | successValue =>
      cases result
      exact .succeeded waiting
    | failure =>
      cases result
      exact .failed waiting

theorem flushRound_publish {shared after : Shared} {flush : Flush} {i : Nat}
    (done : shared.flushPublish i = some (after, flush)) : FlushRound shared (.sending i) (after, flush) := by
  unfold Shared.flushPublish at done
  split at done
  next => cases done
  next candidate rest waiting =>
    split at done
    next data here =>
      cases done
      exact .publish waiting here
    next last =>
      cases done
      exact .sent waiting last

theorem flushFetch_error {shared : Shared} {answer : Answer} {error : FetchError}
    (failed : shared.flushFetch answer = some (.error error)) : answer = .error error := by
  unfold Shared.flushFetch at failed
  split at failed
  next => cases failed
  next =>
    cases fetched : fetchExecutionOutcome answer with
    | error reason =>
      rw [fetched] at failed
      cases failed
      exact fetchExecutionOutcome_error fetched
    | ok status =>
      rw [fetched] at failed
      cases status <;> cases failed

def Flush.Confirmed (shared : Shared) : Flush → Prop
  | .sending _ => ∀ candidate ∈ shared.queue.head?, (candidate, .successValue) ∈ shared.outcomes
  | _ => True

def Process.Confirmed (shared : Shared) : Process → Prop
  | .flushing _ flush => flush.Confirmed shared
  | .sending candidate _ => (candidate, .successValue) ∈ shared.outcomes
  | _ => True

def Ticker.Confirmed (shared : Shared) : Ticker → Prop
  | .flushing flush => flush.Confirmed shared
  | _ => True

theorem nextFetch_confirmed {shared : Shared} (queue : List CandidateData) : (nextFetch queue).Confirmed shared := by
  unfold nextFetch
  split <;> trivial

inductive ValidatorStep (validator : Validator) : ValidatorEvent → Validator → Prop where
  | receive {candidate : CandidateData} : validator.process = .receiving →
      ValidatorStep validator (.receive candidate)
        { validator with received := validator.received ++ [candidate], process := .locking candidate }
  /-- `process_candidates` goes on with the same candidate, and may have learned its status. -/
  | turn {event : ValidatorEvent} {before process : Process} {outcomes : List (CandidateData × FinalExecutionStatus)} :
      Answered event → validator.process = before → validator.shared.outcomes ⊆ outcomes →
      before ≠ .ended → process ≠ .ended → process.held = before.held →
      (process.holdsLock → ¬ validator.ticker.holdsLock) →
      (process.Direct → before.Direct ∨ validator.shared.queue = []) →
      process.Filled validator.shared.queue →
      before.underway validator.shared.queue = [] → process.underway validator.shared.queue = [] →
      process.Confirmed { validator.shared with outcomes } →
      ValidatorStep validator event { validator with shared := { validator.shared with outcomes }, process }
  | flush {event : ValidatorEvent} {candidate : CandidateData} {flush next : Flush} {shared : Shared} :
      Answered event → validator.process = .flushing candidate flush → FlushRound validator.shared flush (shared, next) →
      ValidatorStep validator event { validator with shared, process := .flushing candidate next }
  | enqueue {event : ValidatorEvent} {before : Process} {candidate : CandidateData} :
      Answered event → validator.process = before → before ≠ .ended → before.held = [candidate] →
      before.holdsLock ∨ ¬ validator.ticker.holdsLock → before.underway validator.shared.queue = [] →
      ValidatorStep validator event { validator with
        shared := { validator.shared with queue := validator.shared.queue ++ [candidate] }
        process := .receiving }
  | discard {event : ValidatorEvent} {before : Process} {candidate : CandidateData}
      {outcomes : List (CandidateData × FinalExecutionStatus)} :
      Answered event → validator.process = before → before.held = [candidate] → before.Direct →
      before.underway validator.shared.queue = [] → validator.shared.outcomes ⊆ outcomes →
      candidate.transaction.executionOutcome.status = .failure ∨ (candidate, .failure) ∈ outcomes →
      ValidatorStep validator event { validator with
        shared := { validator.shared.depart candidate .discarded with outcomes }
        process := .receiving }
  | publish {candidate : CandidateData} {i : Nat} {data : Bytes} :
      validator.process = .sending candidate i → candidate.payloads[i]? = some data →
      ValidatorStep validator .publish
        { validator with shared := validator.shared.publish candidate data, process := .sending candidate (i + 1) }
  | sent {candidate : CandidateData} {i : Nat} :
      validator.process = .sending candidate i → candidate.payloads[i]? = none →
      ValidatorStep validator .publish
        { validator with shared := validator.shared.depart candidate .published, process := .receiving }
  | fail {before : Process} {candidate : CandidateData} {error : FetchError} :
      validator.process = before → before ≠ .ended → before.held = [candidate] →
      before.underway validator.shared.queue = [] →
      ValidatorStep validator (.fetch (.error error)) { validator with process := .ended }
  | tickerTurn {event : ValidatorEvent} {before ticker : Ticker} :
      Answered event → validator.ticker = before → (ticker.holdsLock → ¬ validator.process.holdsLock) →
      ticker.Filled validator.shared.queue →
      before.underway validator.shared.queue = [] → ticker.underway validator.shared.queue = [] →
      ticker.Confirmed validator.shared → ValidatorStep validator event { validator with ticker }
  | tickerFlush {event : ValidatorEvent} {flush next : Flush} {shared : Shared} :
      Answered event → validator.ticker = .flushing flush → FlushRound validator.shared flush (shared, next) →
      ValidatorStep validator event { validator with shared, ticker := .flushing next }
  | tickerDone : validator.process = .ended → validator.ticker = .waiting →
      ValidatorStep validator .tickerDone
        { validator with shared := { validator.shared with queue := [] }, ticker := .ended }

theorem validatorStep_of_status {validator : Validator} {candidate : CandidateData} {status : FinalExecutionStatus}
    {answer : Answer} {after : Validator} (fetching : validator.process = .fetching candidate)
    (fetched : fetchExecutionOutcome answer = .ok status) (step : validator.step (.fetch answer) = some after) :
    ValidatorStep validator (.fetch answer) after := by
  have answered := answered_of_fetch fetched
  have learned : validator.shared.outcomes ⊆ validator.shared.outcomes ++ [(candidate, status)] :=
    List.subset_append_left ..
  simp only [Validator.step, fetching, fetched] at step
  cases status with
  | notStarted =>
    cases step
    exact .turn answered fetching learned (by simp) (by simp) rfl (absurd · Bool.false_ne_true) (fun _ => .inl trivial)
      trivial rfl rfl trivial
  | started =>
    cases step
    exact .turn answered fetching learned (by simp) (by simp) rfl (absurd · Bool.false_ne_true) (fun _ => .inl trivial)
      trivial rfl rfl trivial
  | successValue =>
    cases step
    exact .turn answered fetching learned (by simp) (by simp) rfl (absurd · Bool.false_ne_true) (fun _ => .inl trivial)
      trivial rfl rfl (List.mem_append_right _ (List.mem_singleton.mpr rfl))
  | failure =>
    cases step
    exact .discard answered fetching rfl trivial rfl learned (.inr (List.mem_append_right _ (List.mem_singleton.mpr rfl)))

theorem validatorStep_of_step {validator after : Validator} {event : ValidatorEvent}
    (step : validator.step event = some after) : ValidatorStep validator event after := by
  cases event with
  | receive candidate =>
    simp only [Validator.step] at step
    split at step
    next receiving =>
      cases step
      exact .receive receiving
    next => cases step
  | lock =>
    simp only [Validator.step] at step
    split at step
    next candidate locking =>
      split at step
      next => cases step
      next free =>
        cases step
        exact .turn trivial locking (List.Subset.refl _) (by simp) (by simp) rfl (fun _ => free)
          (fun direct => .inr (nextFetch_returned direct)) (nextFetch_filled _) rfl (nextFetch_underway _ _)
          (nextFetch_confirmed _)
    next => cases step
  | fetch answer =>
    have whole := step
    simp only [Validator.step] at step
    split at step
    next candidate flushing =>
      split at step
      next => cases step
      next error failed =>
        cases step
        cases flushFetch_error failed
        exact .fail flushing (by simp) rfl rfl
      next shared flush fetched =>
        cases step
        obtain ⟨answered, round⟩ := flushRound_fetch fetched
        exact .flush answered flushing round
    next candidate fetching =>
      split at step
      next error failed =>
        cases step
        cases fetchExecutionOutcome_error failed
        exact .fail fetching (by simp) rfl rfl
      next status fetched => exact validatorStep_of_status fetching fetched whole
    next => cases step
  | publish =>
    simp only [Validator.step] at step
    split at step
    next candidate i flushing =>
      obtain ⟨⟨shared, flush⟩, published, rfl⟩ := Option.map_eq_some_iff.mp step
      exact .flush trivial flushing (flushRound_publish published)
    next candidate i sending =>
      split at step
      next data here =>
        cases step
        exact .publish sending here
      next last =>
        cases step
        exact .sent sending last
    next => cases step
  | flushed =>
    simp only [Validator.step] at step
    split at step
    next candidate flushing =>
      cases step
      exact .turn trivial flushing (List.Subset.refl _) (by simp) (by simp) rfl (absurd · Bool.false_ne_true)
        (fun _ => .inl rfl) trivial rfl rfl trivial
    next candidate flushing =>
      cases step
      exact .enqueue trivial flushing (by simp) rfl (.inl rfl) rfl
    next => cases step
  | check =>
    simp only [Validator.step] at step
    split at step
    next candidate checking =>
      split at step
      next failed =>
        cases step
        exact .discard trivial checking rfl trivial rfl (List.Subset.refl _) (.inl failed)
      next =>
        cases step
        exact .turn trivial checking (List.Subset.refl _) (by simp) (by simp) rfl (absurd · Bool.false_ne_true)
          (fun _ => .inl trivial) trivial rfl rfl trivial
    next => cases step
  | relock =>
    simp only [Validator.step] at step
    split at step
    next candidate relocking =>
      split at step
      next => cases step
      next free =>
        cases step
        exact .enqueue trivial relocking (by simp) rfl (.inr free) rfl
    next => cases step
  | tick =>
    simp only [Validator.step] at step
    split at step
    next waiting =>
      cases step
      exact .tickerTurn trivial waiting (absurd · Bool.false_ne_true) trivial rfl rfl trivial
    next => cases step
  | tickerLock =>
    simp only [Validator.step] at step
    split at step
    next free =>
      cases step
      exact .tickerTurn trivial free.1 (fun _ => free.2) (nextFetch_filled _) rfl (nextFetch_underway _ _)
        (nextFetch_confirmed _)
    next => cases step
  | tickerFetch answer =>
    simp only [Validator.step] at step
    split at step
    next flushing =>
      split at step
      next => cases step
      next =>
        cases step
        exact .tickerTurn trivial flushing (absurd · Bool.false_ne_true) trivial rfl rfl trivial
      next shared flush fetched =>
        cases step
        exact .tickerFlush trivial flushing (flushRound_fetch fetched).2
    next => cases step
  | tickerPublish =>
    simp only [Validator.step] at step
    split at step
    next i flushing =>
      obtain ⟨⟨shared, flush⟩, published, rfl⟩ := Option.map_eq_some_iff.mp step
      exact .tickerFlush trivial flushing (flushRound_publish published)
    next => cases step
  | tickerFlushed =>
    simp only [Validator.step] at step
    split at step
    next flushed flushing =>
      cases step
      exact .tickerTurn trivial flushing (absurd · Bool.false_ne_true) trivial rfl rfl trivial
    next => cases step
  | tickerDone =>
    simp only [Validator.step] at step
    split at step
    next ended =>
      cases step
      exact .tickerDone ended.1 ended.2
    next => cases step

end Sffl.Indexer.CandidatesValidator
