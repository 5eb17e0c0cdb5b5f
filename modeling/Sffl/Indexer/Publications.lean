import Mathlib.Data.List.Flatten
import Sffl.Indexer.ValidatorRuns

/-! What stands behind the validator's publications.

Whatever becomes of the tasks, what they have published are payloads of received
candidates, in the order of the candidates, each at most once, and only those of
candidates whose execution was seen to succeed.
-/

set_option autoImplicit false

namespace Sffl.Indexer.CandidatesValidator

open Sffl.Evm Sffl.Semantics

/-! ## Order -/

section Order
variable {validator after : Validator} {event : ValidatorEvent} {history : List ValidatorEvent}

theorem taken_sublist_step (kept : validator.Kept) (before : validator.belt.taken.Sublist validator.received)
    (step : ValidatorStep validator event after) : after.belt.taken.Sublist after.received := by
  -- an error costs the candidate in hand, and the end of the ticker those in the queue
  by_cases alive : after.process = .ended
  · cases step with
    | receive => cases alive
    | turn _ _ _ _ process => exact absurd alive process
    | flush => cases alive
    | enqueue => cases alive
    | discard => cases alive
    | publish => cases alive
    | sent => cases alive
    | fail here _ held =>
      refine List.Sublist.trans ?_ before
      rw [Conveyor.taken_eq, Conveyor.taken_eq]
      exact List.Sublist.append_left (List.nil_sublist _) _
    | tickerTurn => exact before
    | tickerFlush _ _ round =>
      have moved := (round.belt validator.process.held).taken_eq
      rw [List.append_nil] at moved
      show (Conveyor.mk _ _ _).taken.Sublist _
      rw [moved]
      exact before
    | tickerDone ended =>
      refine List.Sublist.trans ?_ before
      rw [Conveyor.taken_eq, Conveyor.taken_eq]
      exact ((List.nil_sublist _).append_left _).append_right _
  · obtain ⟨items, moved, received⟩ := belt_step kept step alive
    rw [moved.taken_eq, received]
    exact before.append_right items

theorem taken_sublist (run : validators.Run history validator) : validator.belt.taken.Sublist validator.received := by
  induction run with
  | start initial =>
    cases initial
    exact List.nil_sublist _
  | next run _ step before => exact taken_sublist_step (kept_of_run run) before (validatorStep_of_step step)

theorem published_grows (step : ValidatorStep validator event after) :
    validator.shared.published <+: after.shared.published := by
  have round {shared next : Shared} {flush flushed : Flush} (done : FlushRound shared flush (next, flushed)) :
      shared.published <+: next.published := by
    cases done with
    | publish => exact List.prefix_append _ _
    | _ => exact List.prefix_refl _
  cases step with
  | flush _ _ done => exact round done
  | tickerFlush _ _ done => exact round done
  | publish => exact List.prefix_append _ _
  | _ => exact List.prefix_refl _

end Order

/-! ## Success -/

def Shared.Confirmed (received : List CandidateData) (shared : Shared) : Prop :=
  ∀ data ∈ shared.published, ∃ candidate ∈ received, (candidate, .successValue) ∈ shared.outcomes ∧
    data ∈ publications candidate

structure Validator.Confirmed (validator : Validator) : Prop where
  shared : validator.shared.Confirmed validator.received
  process : validator.process.Confirmed validator.shared
  ticker : validator.ticker.Confirmed validator.shared

section Success
variable {received : List CandidateData} {shared after : Shared} {flush next : Flush}

theorem Ticker.Confirmed.of_free {ticker : Ticker} (free : ¬ ticker.holdsLock) : ticker.Confirmed shared := by
  cases ticker with
  | flushing => exact absurd rfl free
  | _ => trivial

theorem Process.Confirmed.of_free {process : Process} (free : ¬ process.holdsLock) (confirmed : process.Confirmed shared)
    (learned : shared.outcomes ⊆ after.outcomes) : process.Confirmed after := by
  -- without the lock, what a task needs does not depend on the queue
  cases process with
  | flushing => exact absurd rfl free
  | sending candidate i => exact learned confirmed
  | _ => trivial

theorem Ticker.Confirmed.learn {ticker : Ticker} (confirmed : ticker.Confirmed shared) (queue : after.queue = shared.queue)
    (learned : shared.outcomes ⊆ after.outcomes) : ticker.Confirmed after := by
  cases ticker with
  | flushing flush =>
    cases flush with
    | sending i =>
      intro candidate front
      rw [queue] at front
      exact learned (confirmed candidate front)
    | _ => trivial
  | _ => trivial

theorem Shared.Confirmed.learn (confirmed : shared.Confirmed received) (published : after.published = shared.published)
    (learned : shared.outcomes ⊆ after.outcomes) : after.Confirmed received := by
  intro data member
  rw [published] at member
  obtain ⟨candidate, known, success, payload⟩ := confirmed data member
  exact ⟨candidate, known, learned success, payload⟩

theorem Shared.Confirmed.publish (confirmed : shared.Confirmed received) {candidate : CandidateData} {i : Nat} {data : Bytes}
    (known : candidate ∈ received) (success : (candidate, .successValue) ∈ shared.outcomes)
    (payload : candidate.payloads[i]? = some data) : (shared.publish candidate data).Confirmed received := by
  intro published member
  rcases List.mem_append.mp member with earlier | last
  · exact confirmed published earlier
  · rw [List.mem_singleton.mp last]
    exact ⟨candidate, known, success, List.mem_map_of_mem (List.mem_of_getElem? payload)⟩

theorem outcomes_fetched (shared : Shared) (candidate : CandidateData) (status : FinalExecutionStatus) :
    shared.outcomes ⊆ (shared.fetched candidate status).outcomes :=
  List.subset_append_left _ _

theorem mem_outcomes_fetched (shared : Shared) (candidate : CandidateData) (status : FinalExecutionStatus) :
    (candidate, status) ∈ (shared.fetched candidate status).outcomes :=
  List.mem_append_right _ (List.mem_singleton.mpr rfl)

theorem FlushRound.confirmed (round : FlushRound shared flush (after, next)) (queued : shared.queue ⊆ received)
    (before : shared.Confirmed received) (sending : flush.Confirmed shared) :
    after.Confirmed received ∧ next.Confirmed after ∧ shared.outcomes ⊆ after.outcomes := by
  cases round with
  | @unfinished candidate status =>
    have learned := outcomes_fetched shared candidate status
    exact ⟨before.learn rfl learned, trivial, learned⟩
  | @succeeded candidate rest waiting =>
    have learned := outcomes_fetched shared candidate .successValue
    refine ⟨before.learn rfl learned, ?_, learned⟩
    intro front here
    have same : (candidate :: rest).head? = some front := by
      rw [← waiting]
      exact here
    cases same
    exact mem_outcomes_fetched shared candidate .successValue
  | @failed candidate rest waiting =>
    have learned := outcomes_fetched shared candidate .failure
    exact ⟨before.learn rfl learned, nextFetch_confirmed rest, learned⟩
  | @publish candidate rest i data waiting payload =>
    have success := sending candidate (by rw [waiting]; rfl)
    have known := queued (by rw [waiting]; exact List.mem_cons_self)
    exact ⟨before.publish known success payload, sending, List.Subset.refl _⟩
  | @sent candidate rest i waiting => exact ⟨before.learn rfl (List.Subset.refl _), nextFetch_confirmed rest, List.Subset.refl _⟩

end Success

section Steps
variable {validator after : Validator} {event : ValidatorEvent}

theorem Validator.Confirmed.step (confirmed : validator.Confirmed) (kept : validator.Kept)
    (taken : validator.belt.taken.Sublist validator.received) (step : ValidatorStep validator event after) :
    after.Confirmed := by
  rw [Conveyor.taken_eq] at taken
  have queued : validator.shared.queue ⊆ validator.received := fun candidate member =>
    taken.subset (List.mem_append_left _ (List.mem_append_right _ member))
  have unlearned := List.Subset.refl validator.shared.outcomes
  obtain ⟨shared, process, ticker⟩ := confirmed
  cases step with
  | receive =>
    refine ⟨fun data member => ?_, trivial, ticker⟩
    obtain ⟨earlier, known, success⟩ := shared data member
    exact ⟨earlier, List.mem_append_left _ known, success⟩
  | turn _ _ learned _ _ _ _ _ _ _ _ next => exact ⟨shared.learn rfl learned, next, ticker.learn rfl learned⟩
  | flush _ flushing round =>
    rw [flushing] at process
    obtain ⟨flushed, next, _⟩ := round.confirmed queued shared process
    exact ⟨flushed, next, .of_free (kept.exclusive (by rw [flushing]; rfl))⟩
  | enqueue _ here _ _ free =>
    refine ⟨shared.learn rfl unlearned, trivial, .of_free ?_⟩
    exact free.elim (fun holds => kept.exclusive (by rw [here]; exact holds)) id
  | discard _ _ _ _ _ learned => exact ⟨shared.learn rfl learned, trivial, ticker.learn rfl learned⟩
  | @publish candidate i data sending payload =>
    rw [sending] at process
    have known : candidate ∈ validator.received := by
      apply taken.subset
      apply List.mem_append_right
      rw [Validator.belt, sending]
      exact List.mem_singleton.mpr rfl
    exact ⟨shared.publish known process payload, process, ticker.learn rfl unlearned⟩
  | sent => exact ⟨shared.learn rfl unlearned, trivial, ticker.learn rfl unlearned⟩
  | fail => exact ⟨shared, trivial, ticker⟩
  | tickerTurn _ _ _ _ _ _ next => exact ⟨shared, process, next⟩
  | tickerFlush _ flushing round =>
    rw [flushing] at ticker
    have free : ¬ validator.process.holdsLock := fun holds => kept.exclusive holds (by rw [flushing]; rfl)
    obtain ⟨flushed, next, learned⟩ := round.confirmed queued shared ticker
    exact ⟨flushed, .of_free free process learned, next⟩
  | tickerDone ended =>
    refine ⟨shared.learn rfl unlearned, ?_, trivial⟩
    rw [ended]
    trivial

theorem confirmed_of_run {history : List ValidatorEvent} (run : validators.Run history validator) : validator.Confirmed := by
  induction run with
  | start initial =>
    cases initial
    exact ⟨nofun, trivial, trivial⟩
  | next run _ step confirmed => exact confirmed.step (kept_of_run run) (taken_sublist run) (validatorStep_of_step step)

end Steps

end Sffl.Indexer.CandidatesValidator
