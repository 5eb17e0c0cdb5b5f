import Sffl.Indexer.CandidatesValidator

/-! What the candidates validator keeps in every run.

While `process_candidates` is alive the two tasks move candidates as a conveyor
does, and publish the payloads of one candidate at a time. An outcome that it
cannot fetch ends it, and costs it the candidate in hand.
-/

set_option autoImplicit false

namespace Sffl.Indexer.CandidatesValidator

open Sffl.Evm Sffl.Semantics

/-! ## What is published -/

def publishedFor (departed : List (CandidateData × Verdict)) : List PublishData :=
  ((departed.filter (·.2 = .published)).map Prod.fst).flatMap publications

theorem publishedFor_published (departed : List (CandidateData × Verdict)) (candidate : CandidateData) :
    publishedFor (departed ++ [(candidate, .published)]) = publishedFor departed ++ publications candidate := by
  simp [publishedFor]

theorem publishedFor_discarded (departed : List (CandidateData × Verdict)) (candidate : CandidateData) :
    publishedFor (departed ++ [(candidate, .discarded)]) = publishedFor departed := by
  simp [publishedFor]

theorem publications_take_succ {candidate : CandidateData} {i : Nat} {data : Bytes}
    (here : candidate.payloads[i]? = some data) :
    (publications candidate).take (i + 1) = (publications candidate).take i ++ [publishData candidate data] := by
  rw [List.take_add_one, publications, List.getElem?_map, here]
  rfl

theorem publications_take_all {candidate : CandidateData} {i : Nat} (last : candidate.payloads[i]? = none) :
    (publications candidate).take i = publications candidate := by
  apply List.take_of_length_le
  rw [publications, List.length_map]
  exact List.getElem?_eq_none_iff.mp last

theorem underway_cons (candidate : CandidateData) (rest : List CandidateData) (i : Nat) :
    (Flush.sending i).underway (candidate :: rest) = (publications candidate).take i := by
  simp [Flush.underway]

def Shared.Judged (shared : Shared) : Prop :=
  ∀ candidate, (candidate, .discarded) ∈ shared.departed →
    candidate.transaction.executionOutcome.status = .failure ∨ (candidate, .failure) ∈ shared.outcomes

theorem Shared.Judged.learn {shared : Shared} {outcomes : List (CandidateData × FinalExecutionStatus)}
    (judged : shared.Judged) (learned : shared.outcomes ⊆ outcomes) : { shared with outcomes : Shared }.Judged :=
  fun candidate member => (judged candidate member).imp_right (learned ·)

theorem Shared.Judged.depart {shared : Shared} (judged : shared.Judged) (candidate : CandidateData) (verdict : Verdict)
    (reason : verdict = .discarded →
      candidate.transaction.executionOutcome.status = .failure ∨ (candidate, .failure) ∈ shared.outcomes) :
    (shared.depart candidate verdict).Judged := by
  intro other member
  rcases List.mem_append.mp member with earlier | last
  · exact judged other earlier
  · cases List.mem_singleton.mp last
    exact reason rfl

section Rounds
variable {shared after : Shared} {flush next : Flush} (round : FlushRound shared flush (after, next))
include round

theorem FlushRound.belt (hand : List CandidateData) :
    Conveyor.Step ⟨shared.departed, shared.queue, hand⟩ [] ⟨after.departed, after.queue, hand⟩ := by
  cases round with
  | unfinished => exact .idle
  | succeeded => exact .idle
  | publish => exact .idle
  | failed waiting =>
    rw [waiting]
    exact .leave
  | sent waiting =>
    rw [waiting]
    exact .leave

theorem FlushRound.filled : next.Filled after.queue := by
  cases round with
  | unfinished => trivial
  | succeeded waiting => exact List.ne_nil_of_mem (waiting ▸ List.mem_cons_self)
  | publish waiting => exact List.ne_nil_of_mem (waiting ▸ List.mem_cons_self)
  | failed => exact nextFetch_filled _
  | sent => exact nextFetch_filled _

theorem FlushRound.queue_empty (returned : next = .returned true) : after.queue = [] := by
  cases round with
  | unfinished => cases returned
  | succeeded => cases returned
  | publish => cases returned
  | failed => exact nextFetch_returned returned
  | sent => exact nextFetch_returned returned

theorem FlushRound.published (before : shared.published = publishedFor shared.departed ++ flush.underway shared.queue) :
    after.published = publishedFor after.departed ++ next.underway after.queue := by
  cases round with
  | unfinished => exact before
  | succeeded => exact before
  | @publish candidate rest i data waiting here =>
    rw [waiting, underway_cons] at before
    show shared.published ++ _ = publishedFor shared.departed ++ Flush.underway shared.queue _
    rw [before, waiting, underway_cons, publications_take_succ here, List.append_assoc]
  | @failed candidate rest waiting =>
    show shared.published = publishedFor (shared.departed ++ _) ++ _
    rw [publishedFor_discarded, nextFetch_underway]
    exact before
  | @sent candidate rest i waiting last =>
    rw [waiting, underway_cons, publications_take_all last] at before
    show shared.published = publishedFor (shared.departed ++ _) ++ _
    rw [publishedFor_published, nextFetch_underway, before, List.append_nil]

theorem FlushRound.judged (judged : shared.Judged) : after.Judged := by
  cases round with
  | unfinished => exact judged.learn (List.subset_append_left ..)
  | succeeded => exact judged.learn (List.subset_append_left ..)
  | publish => exact judged
  | @failed candidate rest waiting =>
    have failed : (candidate, .failure) ∈ shared.outcomes ++ [(candidate, .failure)] :=
      List.mem_append_right _ (List.mem_singleton.mpr rfl)
    exact (judged.learn (List.subset_append_left ..)).depart candidate .discarded fun _ => .inr failed
  | sent => exact judged.depart _ .published (by simp)

theorem FlushRound.nonempty (filled : flush.Filled shared.queue) : shared.queue ≠ [] := by
  cases round <;> exact filled

end Rounds

/-! ## The invariant -/

theorem Ticker.underway_of_free {ticker : Ticker} (free : ¬ ticker.holdsLock) (queue : List CandidateData) :
    ticker.underway queue = [] := by
  cases ticker with
  | flushing => exact absurd rfl free
  | _ => rfl

theorem Process.underway_of_free {process : Process} (free : ¬ process.holdsLock) (indirect : ¬ process.Direct)
    (queue : List CandidateData) : process.underway queue = [] := by
  cases process with
  | flushing => exact absurd rfl free
  | sending => exact absurd trivial indirect
  | _ => rfl

theorem Process.Filled.of_free {process : Process} (free : ¬ process.holdsLock) (queue : List CandidateData) :
    process.Filled queue := by
  cases process with
  | flushing => exact absurd rfl free
  | _ => trivial

theorem Ticker.Filled.of_free {ticker : Ticker} (free : ¬ ticker.holdsLock) (queue : List CandidateData) :
    ticker.Filled queue := by
  cases ticker with
  | flushing => exact absurd rfl free
  | _ => trivial

structure Validator.Kept (validator : Validator) : Prop where
  exclusive : validator.process.holdsLock → ¬ validator.ticker.holdsLock
  /-- The queue is empty whenever a candidate is published past it. -/
  direct : validator.process.Direct → validator.shared.queue = []
  processFilled : validator.process.Filled validator.shared.queue
  tickerFilled : validator.ticker.Filled validator.shared.queue
  published : validator.shared.published = publishedFor validator.shared.departed ++ validator.underway
  judged : validator.shared.Judged
  taken : validator.process ≠ .ended → validator.belt.taken = validator.received
  /-- An error costs the candidate in hand. -/
  lost : validator.process = .ended → validator.belt.taken.length < validator.received.length

theorem Validator.Kept.ticker_idle {validator : Validator} (kept : validator.Kept) (empty : validator.shared.queue = []) :
    validator.ticker.underway validator.shared.queue = [] := by
  have filled := kept.tickerFilled
  cases here : validator.ticker with
  | flushing flush =>
    rw [here, empty] at filled
    cases flush with
    | sending i => exact absurd rfl filled
    | _ => rfl
  | _ => rfl

/-- While `process_candidates` is alive, its steps are steps of the conveyor. -/
theorem belt_step {validator after : Validator} {event : ValidatorEvent} (kept : validator.Kept)
    (step : ValidatorStep validator event after) (alive : after.process ≠ .ended) :
    ∃ items, Conveyor.Step validator.belt items after.belt ∧ after.received = validator.received ++ items := by
  cases step with
  | @receive candidate receiving =>
    refine ⟨[candidate], ?_, rfl⟩
    rw [Validator.belt, receiving]
    exact .take
  | turn _ here _ _ _ held =>
    refine ⟨[], ?_, (List.append_nil _).symm⟩
    rw [Validator.belt, Validator.belt, here, held]
    exact .idle
  | flush _ flushing round =>
    refine ⟨[], ?_, (List.append_nil _).symm⟩
    rw [Validator.belt, flushing]
    exact round.belt _
  | enqueue _ here _ held =>
    refine ⟨[], ?_, (List.append_nil _).symm⟩
    rw [Validator.belt, here, held]
    exact .enqueue
  | discard _ here held direct =>
    have empty := kept.direct (here ▸ direct)
    refine ⟨[], ?_, (List.append_nil _).symm⟩
    show Conveyor.Step validator.belt [] ⟨_, validator.shared.queue, []⟩
    rw [Validator.belt, here, held, empty]
    exact .pass
  | publish sending =>
    refine ⟨[], ?_, (List.append_nil _).symm⟩
    rw [Validator.belt, sending]
    exact .idle
  | sent sending =>
    have empty := kept.direct (sending ▸ trivial)
    refine ⟨[], ?_, (List.append_nil _).symm⟩
    show Conveyor.Step validator.belt [] ⟨_, validator.shared.queue, []⟩
    rw [Validator.belt, sending, empty]
    exact .pass
  | fail => exact absurd rfl alive
  | tickerTurn => exact ⟨[], .idle, (List.append_nil _).symm⟩
  | tickerFlush _ _ round => exact ⟨[], round.belt _, (List.append_nil _).symm⟩
  | tickerDone ended => exact absurd ended alive

theorem alive_step {validator after : Validator} {event : ValidatorEvent} (step : ValidatorStep validator event after) :
    after.process ≠ .ended ↔ validator.process ≠ .ended ∧ Answered event := by
  cases step with
  | receive receiving => simp [receiving, Answered]
  | turn answered here _ before process => simp [here, before, process, answered]
  | flush answered flushing => simp [flushing, answered]
  | enqueue answered here before => simp [here, before, answered]
  | discard answered here held =>
    have before : validator.process ≠ .ended := by
      intro ended
      rw [← here, ended] at held
      cases held
    simp [before, answered]
  | publish sending => simp [sending, Answered]
  | sent sending => simp [sending, Answered]
  | fail => simp [Answered]
  | tickerTurn answered => simp [answered]
  | tickerFlush answered => simp [answered]
  | tickerDone ended => simp [ended]

theorem lost_step {validator after : Validator} {event : ValidatorEvent} (kept : validator.Kept)
    (step : ValidatorStep validator event after) (ended : after.process = .ended) :
    after.belt.taken.length < after.received.length := by
  cases step with
  | receive => cases ended
  | turn _ _ _ _ alive => exact absurd ended alive
  | flush => cases ended
  | enqueue => cases ended
  | discard => cases ended
  | publish => cases ended
  | sent => cases ended
  | fail here before held =>
    -- all were accounted for, and the one in hand is gone
    have all := kept.taken (here ▸ before)
    rw [Conveyor.taken_eq, Validator.belt, here, held] at all
    rw [← all, Conveyor.taken_eq]
    simp [Validator.belt, Process.held]
  | tickerTurn => exact kept.lost ended
  | tickerFlush _ _ round =>
    have moved := (round.belt validator.process.held).taken_eq
    rw [List.append_nil] at moved
    show (Conveyor.mk _ _ _).taken.length < _
    rw [moved]
    exact kept.lost ended
  | tickerDone =>
    have fewer := kept.lost ended
    rw [Conveyor.taken_eq] at fewer ⊢
    simp only [Validator.belt, List.length_append, List.length_nil] at fewer ⊢
    omega

theorem Validator.Kept.step {validator after : Validator} {event : ValidatorEvent} (kept : validator.Kept)
    (step : ValidatorStep validator event after) : after.Kept := by
  have taken (alive : after.process ≠ .ended) : after.belt.taken = after.received := by
    obtain ⟨items, moved, received⟩ := belt_step kept step alive
    rw [moved.taken_eq, received, kept.taken ((alive_step step).mp alive).1]
  have lost := lost_step kept step
  have published := kept.published
  rw [Validator.underway] at published
  cases step with
  | receive receiving =>
    rw [receiving] at published
    exact ⟨(absurd · Bool.false_ne_true), False.elim, trivial, kept.tickerFilled, published, kept.judged, taken, lost⟩
  | @turn event before process outcomes _ here learned _ _ _ lock direct filled nothing still =>
    rw [here, nothing] at published
    refine ⟨lock, fun now => ?_, filled, kept.tickerFilled, ?_, kept.judged.learn learned, taken, lost⟩
    · exact (direct now).elim (fun earlier => kept.direct (here ▸ earlier)) id
    · rw [Validator.underway, still]
      exact published
  | @flush event candidate flush next shared _ flushing round =>
    -- the ticker waits for the lock, so what is underway is this flush's
    have free := kept.exclusive (by rw [flushing]; rfl)
    rw [flushing, validator.ticker.underway_of_free free, List.append_nil] at published
    refine ⟨fun _ => free, round.queue_empty, round.filled, .of_free free _, ?_, round.judged kept.judged, taken, lost⟩
    rw [Validator.underway, validator.ticker.underway_of_free free, List.append_nil]
    exact round.published published
  | @enqueue event before candidate _ here _ _ holds nothing =>
    have free : ¬ validator.ticker.holdsLock := holds.elim (fun holds => kept.exclusive (here ▸ holds)) id
    rw [here, nothing, validator.ticker.underway_of_free free] at published
    refine ⟨(absurd · Bool.false_ne_true), False.elim, trivial, .of_free free _, ?_, kept.judged, taken, lost⟩
    rw [Validator.underway, validator.ticker.underway_of_free free]
    exact published
  | @discard event before candidate outcomes _ here _ _ nothing learned reason =>
    rw [here, nothing] at published
    have judged := (kept.judged.learn learned).depart candidate .discarded fun _ => reason
    refine ⟨(absurd · Bool.false_ne_true), False.elim, trivial, kept.tickerFilled, ?_, judged, taken, lost⟩
    show validator.shared.published = publishedFor (validator.shared.departed ++ _) ++ _
    rw [publishedFor_discarded]
    exact published
  | @publish candidate i data sending here =>
    -- a ticker that holds the lock finds an empty queue
    have empty := kept.direct (sending ▸ trivial)
    have idle := kept.ticker_idle empty
    rw [sending, idle, List.append_nil, Process.underway] at published
    refine ⟨(absurd · Bool.false_ne_true), fun _ => empty, trivial, kept.tickerFilled, ?_, kept.judged, taken, lost⟩
    show validator.shared.published ++ _ =
      _ ++ ((publications candidate).take (i + 1) ++ validator.ticker.underway validator.shared.queue)
    rw [published, publications_take_succ here, idle, List.append_nil, List.append_assoc]
    rfl
  | @sent candidate i sending last =>
    have empty := kept.direct (sending ▸ trivial)
    have idle := kept.ticker_idle empty
    rw [sending, idle, List.append_nil, Process.underway, publications_take_all last] at published
    have judged := kept.judged.depart candidate .published (by simp)
    refine ⟨(absurd · Bool.false_ne_true), False.elim, trivial, kept.tickerFilled, ?_, judged, taken, lost⟩
    show validator.shared.published =
      publishedFor (validator.shared.departed ++ _) ++ ([] ++ validator.ticker.underway validator.shared.queue)
    rw [publishedFor_published, published, idle, List.append_nil, List.append_nil]
  | @fail before candidate error here _ _ nothing =>
    rw [here, nothing] at published
    exact ⟨(absurd · Bool.false_ne_true), False.elim, trivial, kept.tickerFilled, published, kept.judged, taken, lost⟩
  | @tickerTurn event before ticker _ here lock filled nothing still =>
    rw [here, nothing] at published
    refine ⟨fun holds now => lock now holds, kept.direct, kept.processFilled, filled, ?_, kept.judged, taken, lost⟩
    rw [Validator.underway, still]
    exact published
  | @tickerFlush event flush next shared _ flushing round =>
    -- there is a front to work on, so `process_candidates` is not sending past it
    have filled := kept.tickerFilled
    rw [flushing] at filled
    have nonempty := round.nonempty filled
    have free : ¬ validator.process.holdsLock := fun holds => kept.exclusive holds (by rw [flushing]; rfl)
    have indirect : ¬ validator.process.Direct := fun direct => nonempty (kept.direct direct)
    rw [validator.process.underway_of_free free indirect, flushing, List.nil_append] at published
    refine ⟨fun holds => absurd holds free, fun direct => absurd direct indirect, .of_free free _, round.filled, ?_,
      round.judged kept.judged, taken, lost⟩
    rw [Validator.underway, validator.process.underway_of_free free indirect, List.nil_append]
    exact round.published published
  | tickerDone ended waiting =>
    rw [ended, waiting] at published
    refine ⟨fun _ => Bool.false_ne_true, fun _ => rfl, ?_, trivial, ?_, kept.judged, taken, lost⟩
    · rw [ended]
      trivial
    · rw [Validator.underway, ended]
      exact published

theorem newValidator_kept : newValidator.Kept where
  exclusive := (absurd · Bool.false_ne_true)
  direct := False.elim
  processFilled := trivial
  tickerFilled := trivial
  published := rfl
  judged := by simp [Shared.Judged, newValidator]
  taken _ := rfl
  lost := by simp [newValidator]

theorem kept_of_run {history : List ValidatorEvent} {validator : Validator} (run : validators.Run history validator) :
    validator.Kept := by
  apply run.invariant fun _ => Validator.Kept
  · rintro _ rfl
    exact newValidator_kept
  · intro _ validator event after kept _ step
    exact kept.step (validatorStep_of_step step)

/-! ## Accounting for every candidate -/

/-- Every received candidate is published, discarded, in the queue or in hand, in the order in which they were received. -/
structure Validator.Accounted (validator : Validator) : Prop where
  received : validator.belt.places.map Prod.fst = validator.received
  /-- Of the candidates that are not published yet, at most one has been started. -/
  published : validator.shared.published =
    (validator.belt.itemsAt (.departed .published)).flatMap publications ++ validator.underway
  underway : validator.underway = [] ∨ ∃ candidate i,
    (candidate ∈ validator.shared.queue ∨ candidate ∈ validator.process.held) ∧
      validator.underway = (publications candidate).take i
  discarded : ∀ candidate, (candidate, .departed .discarded) ∈ validator.belt.places →
    candidate.transaction.executionOutcome.status = .failure ∨ (candidate, .failure) ∈ validator.shared.outcomes
  inOrder : (validator.belt.itemsAt (.departed .published)).Sublist validator.received

theorem Flush.underway_cases (flush : Flush) (queue : List CandidateData) :
    flush.underway queue = [] ∨ ∃ candidate i, candidate ∈ queue ∧ flush.underway queue = (publications candidate).take i := by
  cases flush with
  | sending i =>
    cases queue with
    | nil => exact .inl List.take_nil
    | cons candidate rest => exact .inr ⟨candidate, i, List.mem_cons_self, underway_cons candidate rest i⟩
  | _ => exact .inl rfl

theorem Process.underway_cases (process : Process) (queue : List CandidateData) :
    process.underway queue = [] ∨ ∃ candidate i, (candidate ∈ queue ∨ candidate ∈ process.held) ∧
      process.underway queue = (publications candidate).take i := by
  cases process with
  | flushing candidate flush =>
    refine (flush.underway_cases queue).imp_right ?_
    rintro ⟨front, i, member, same⟩
    exact ⟨front, i, .inl member, same⟩
  | sending candidate i => exact .inr ⟨candidate, i, .inr (List.mem_singleton.mpr rfl), rfl⟩
  | _ => exact .inl rfl

theorem Ticker.underway_cases (ticker : Ticker) (queue : List CandidateData) :
    ticker.underway queue = [] ∨ ∃ candidate i, candidate ∈ queue ∧ ticker.underway queue = (publications candidate).take i := by
  cases ticker with
  | flushing flush => exact flush.underway_cases queue
  | _ => exact .inl rfl

/-- The two tasks are never both in the middle of a candidate. -/
theorem Validator.Kept.underway_cases {validator : Validator} (kept : validator.Kept) :
    validator.underway = [] ∨ ∃ candidate i, (candidate ∈ validator.shared.queue ∨ candidate ∈ validator.process.held) ∧
      validator.underway = (publications candidate).take i := by
  unfold Validator.underway
  by_cases holds : validator.ticker.holdsLock
  · have free : ¬ validator.process.holdsLock := fun both => kept.exclusive both holds
    by_cases direct : validator.process.Direct
    · rw [kept.ticker_idle (kept.direct direct), List.append_nil]
      exact validator.process.underway_cases _
    · rw [validator.process.underway_of_free free direct, List.nil_append]
      refine (validator.ticker.underway_cases _).imp_right ?_
      rintro ⟨front, i, member, same⟩
      exact ⟨front, i, .inl member, same⟩
  · rw [validator.ticker.underway_of_free holds, List.append_nil]
    exact validator.process.underway_cases _

theorem accounted_iff {validator : Validator} (kept : validator.Kept) : validator.Accounted ↔ validator.process ≠ .ended := by
  constructor
  · intro accounted ended
    have fewer := kept.lost ended
    rw [Conveyor.taken, accounted.received] at fewer
    exact Nat.lt_irrefl _ fewer
  · intro alive
    have taken := kept.taken alive
    refine ⟨taken, ?_, kept.underway_cases, ?_, ?_⟩
    · rw [Conveyor.itemsAt_departed]
      exact kept.published
    · intro candidate member
      exact kept.judged candidate (validator.belt.departed_mem_places.mp member)
    · rw [← taken]
      exact validator.belt.itemsAt_sublist _

/-- Nothing is lost, published twice or published out of order exactly as long as `process_candidates` gets its answers.
The ticker's failed questions do no harm. -/
theorem validator_accounts_iff {history : List ValidatorEvent} {validator : Validator}
    (run : validators.Run history validator) :
    validator.Accounted ↔ validators.GuardedRun (fun _ event => Answered event) history validator := by
  apply run.iff_guardedRun Validator.Accounted
  · rintro _ rfl
    exact (accounted_iff newValidator_kept).mpr (by simp [newValidator])
  · intro history validator event after run step
    have cases := validatorStep_of_step step
    have kept := kept_of_run run
    rw [accounted_iff (kept.step cases), accounted_iff kept]
    exact alive_step cases

def submitted (hash : CryptoHash) : CandidateData where
  rollupId := 1
  transaction := ⟨⟨"sequencer.near", "da.near", [.functionCall "submit" [1], .functionCall "submit" [2]], hash⟩,
    ⟨0, .successReceiptId⟩⟩
  payloads := [[1], [2]]

def answeredRun : List ValidatorEvent :=
  [.receive (submitted 1), .lock, .flushed, .check, .fetch (.ok (some .started)), .relock,
    .tick, .tickerLock, .tickerFetch (.error .mailbox),
    .tick, .tickerLock, .tickerFetch (.ok (some .successValue)), .tickerPublish]

theorem validator_accounts_iff_answered :
    ∃ validator, validators.Run answeredRun validator ∧ validator.Accounted ∧
      validators.GuardedRun (fun _ event => Answered event) answeredRun validator ∧
      validator.belt.places = [(submitted 1, .queued)] ∧
      validator.shared.published = [publishData (submitted 1) [1]] := by
  have computed : ∃ validator, answeredRun.foldlM Validator.step newValidator = some validator ∧
      validator.process = .receiving ∧ validator.belt.places = [(submitted 1, .queued)] ∧
      validator.shared.published = [publishData (submitted 1) [1]] := ⟨_, rfl, rfl, rfl, rfl⟩
  obtain ⟨validator, computed, process, places, published⟩ := computed
  have run : validators.Run answeredRun validator := System.Run.of_steps (fun _ _ _ one => one) rfl computed
  have accounted : validator.Accounted := (accounted_iff (kept_of_run run)).mpr (by simp [process])
  exact ⟨validator, run, accounted, (validator_accounts_iff run).mp accounted, places, published⟩

def unansweredRun : List ValidatorEvent :=
  [.receive (submitted 1), .lock, .flushed, .check, .fetch (.ok (some .started)), .relock,
    .receive (submitted 2), .lock, .fetch (.error .txStatus), .tickerDone]

/-- Both tasks have ended, nothing is published, and neither candidate is anywhere. -/
theorem unanswered_loses :
    ∃ validator, validators.Run unansweredRun validator ∧ validator.received = [submitted 1, submitted 2] ∧
      validator.process = .ended ∧ validator.ticker = .ended ∧ validator.shared.published = [] ∧
      validator.belt.places = [] ∧ ¬ validator.Accounted := by
  have computed : ∃ validator, unansweredRun.foldlM Validator.step newValidator = some validator ∧
      validator.received = [submitted 1, submitted 2] ∧ validator.process = .ended ∧ validator.ticker = .ended ∧
      validator.shared.published = [] ∧ validator.belt.places = [] := ⟨_, rfl, rfl, rfl, rfl, rfl, rfl⟩
  obtain ⟨validator, computed, received, process, ticker, published, places⟩ := computed
  have run : validators.Run unansweredRun validator := System.Run.of_steps (fun _ _ _ one => one) rfl computed
  refine ⟨validator, run, received, process, ticker, published, places, fun accounted => ?_⟩
  have all := accounted.received
  rw [places, received] at all
  cases all

end Sffl.Indexer.CandidatesValidator
