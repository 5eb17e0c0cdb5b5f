import Sffl.Relayer.Ticker

/-! What the relayer hands over and submits.

Every header ends up in one batch, in the order of their arrival. A batch is
submitted a bounded number of times, and not again once a submission succeeded
or failed with an error the relayer does not know.
-/

set_option autoImplicit false

namespace Sffl.Relayer

open Sffl.Semantics

section Batches
variable {Block : Type}

def RelayerEvent.headerOf : RelayerEvent Block → Option Block
  | .header block => some block
  | _ => none

def SubmitAnswer.isRetried : SubmitAnswer → Bool
  | .invalidNonce => true
  | .expired => true
  | .timeout => true
  | .submitted => false
  | .unknown => false

def noteAttempt : List (List SubmitAnswer) → RelayerEvent Block → List (List SubmitAnswer)
  | tries, .send => [] :: tries
  | current :: earlier, .submit answer => (current ++ [answer]) :: earlier
  | tries, _ => tries

def attempts (history : List (RelayerEvent Block)) : List (List SubmitAnswer) := history.foldl noteAttempt []

/-- The headers that are in no batch. Between the hand-over and the next statement, `blocks` still holds the batch. -/
def pending (relayer : Relayer Block) : List Block :=
  match relayer.listener with
  | .clearing => []
  | _ => relayer.blocks

inductive Finished : List SubmitAnswer → Prop where
  /-- The blocks could not be encoded. -/
  | unsubmitted : Finished []
  | exhausted {answers : List SubmitAnswer} (retried : ∀ answer ∈ answers, answer.isRetried)
      (all : answers.length = SUBMIT_BLOCK_RETRIES) : Finished answers
  | returned {earlier : List SubmitAnswer} {last : SubmitAnswer} (retried : ∀ answer ∈ earlier, answer.isRetried)
      (inRange : earlier.length < SUBMIT_BLOCK_RETRIES) (final : last.isRetried = false) : Finished (earlier ++ [last])

/-- Where the handler is in the submissions of the newest batch. -/
inductive Attempted : Handler → List (List SubmitAnswer) → Prop where
  | waiting {tries : List (List SubmitAnswer)} (finished : ∀ answers ∈ tries, Finished answers) : Attempted .waiting tries
  | encoding {tries : List (List SubmitAnswer)} (finished : ∀ answers ∈ tries, Finished answers) :
      Attempted .encoding ([] :: tries)
  | submitting {answers : List SubmitAnswer} {tries : List (List SubmitAnswer)}
      (finished : ∀ answers ∈ tries, Finished answers) (retried : ∀ answer ∈ answers, answer.isRetried)
      (inRange : answers.length < SUBMIT_BLOCK_RETRIES) : Attempted (.submitting answers.length) (answers :: tries)
  | sleeping {answers : List SubmitAnswer} {last : SubmitAnswer} {tries : List (List SubmitAnswer)}
      (finished : ∀ answers ∈ tries, Finished answers) (retried : ∀ answer ∈ answers ++ [last], answer.isRetried)
      (inRange : answers.length < SUBMIT_BLOCK_RETRIES) :
      Attempted (.sleeping answers.length) ((answers ++ [last]) :: tries)
  | resetting {tries : List (List SubmitAnswer)} (finished : ∀ answers ∈ tries, Finished answers) :
      Attempted .resetting tries

structure Collected (history : List (RelayerEvent Block)) (relayer : Relayer Block) : Prop where
  headers : relayer.received.flatten ++ relayer.pending = history.filterMap RelayerEvent.headerOf
  nonempty : ∀ batch ∈ relayer.received, batch ≠ []
  sending : relayer.listener = .sending → relayer.blocks ≠ []

variable {relayer after : Relayer Block} {event : RelayerEvent Block} {history : List (RelayerEvent Block)}

theorem pending_of_ne (elsewhere : relayer.listener ≠ .clearing) : relayer.pending = relayer.blocks := by
  unfold Relayer.pending
  split
  next clearing => exact absurd clearing elsewhere
  next => rfl

theorem pending_of_clearing (clearing : relayer.listener = .clearing) : relayer.pending = [] := by
  unfold Relayer.pending
  rw [clearing]

theorem headers_concat (history : List (RelayerEvent Block)) (event : RelayerEvent Block) :
    (history ++ [event]).filterMap RelayerEvent.headerOf =
      history.filterMap RelayerEvent.headerOf ++ event.headerOf.toList := by
  rw [List.filterMap_append]
  rfl

theorem Collected.same (collected : relayer.Collected history) (received : after.received = relayer.received)
    (pending : after.pending = relayer.pending) (sending : after.listener = .sending → after.blocks ≠ [])
    (other : event.headerOf = none) : after.Collected (history ++ [event]) := by
  refine ⟨?_, ?_, sending⟩
  · rw [headers_concat, other, Option.toList_none, List.append_nil, received, pending]
    exact collected.headers
  · rw [received]
    exact collected.nonempty

theorem Collected.step (collected : relayer.Collected history) (one : RelayerStep relayer event after) :
    after.Collected (history ++ [event]) := by
  cases one with
  | fire => exact collected.same rfl rfl collected.sending rfl
  | @header block selecting =>
    refine ⟨?_, collected.nonempty, ?_⟩
    · have before := collected.headers
      rw [pending_of_ne (by simp [selecting])] at before ⊢
      rw [headers_concat, ← before, List.append_assoc]
      rfl
    · intro sending
      rw [selecting] at sending
      cases sending
  | tick selecting =>
    refine collected.same rfl ?_ ?_ rfl
    · rw [pending_of_ne, pending_of_ne]
      · simp [selecting]
      · split <;> simp
    · intro sending empty
      have stays : relayer.blocks = [] := empty
      rw [if_pos stays] at sending
      cases sending
  | send sending =>
    refine ⟨?_, ?_, nofun⟩
    · have before := collected.headers
      rw [pending_of_ne (by simp [sending])] at before
      rw [pending_of_clearing rfl, headers_concat, ← before, List.flatten_append]
      simp [RelayerEvent.headerOf]
    · exact List.forall_mem_append.mpr ⟨collected.nonempty, List.forall_mem_singleton.mpr (collected.sending sending)⟩
  | clear clearing =>
    refine collected.same rfl ?_ nofun rfl
    rw [pending_of_clearing clearing, pending_of_ne]
    simp
  | stop stopping =>
    refine collected.same rfl ?_ nofun rfl
    rw [pending_of_ne, pending_of_ne]
    · simp [stopping]
    · simp
  | encode => exact collected.same rfl rfl collected.sending rfl
  | submit => exact collected.same rfl rfl collected.sending rfl
  | retry => exact collected.same rfl rfl collected.sending rfl
  | reset => exact collected.same rfl rfl collected.sending rfl

theorem attempts_concat (history : List (RelayerEvent Block)) (event : RelayerEvent Block) :
    attempts (history ++ [event]) = noteAttempt (attempts history) event := List.foldl_append

theorem afterSubmit_of_retried {answer : SubmitAnswer} (retried : answer.isRetried = true) (i : Nat) :
    Handler.afterSubmit i answer = .sleeping i := by
  cases answer with
  | submitted => cases retried
  | unknown => cases retried
  | _ => rfl

theorem afterSubmit_of_final {answer : SubmitAnswer} (final : answer.isRetried = false) (i : Nat) :
    Handler.afterSubmit i answer = .resetting := by
  cases answer with
  | submitted => rfl
  | unknown => rfl
  | _ => cases final

theorem Attempted.step {tries : List (List SubmitAnswer)} (attempted : Attempted relayer.handler tries)
    (one : RelayerStep relayer event after) : Attempted after.handler (noteAttempt tries event) := by
  cases one with
  | fire => exact attempted
  | header => exact attempted
  | tick => exact attempted
  | clear => exact attempted
  | stop => exact attempted
  | send _ waiting =>
    rw [waiting] at attempted
    cases attempted with
    | waiting finished => exact .encoding finished
  | @encode ok encoding =>
    rw [encoding] at attempted
    cases attempted with
    | encoding finished =>
      cases ok with
      | true =>
        have inRange : ([] : List SubmitAnswer).length < SUBMIT_BLOCK_RETRIES := by decide
        exact .submitting finished (List.forall_mem_nil _) inRange
      | false => exact .resetting (List.forall_mem_cons.mpr ⟨.unsubmitted, finished⟩)
  | @submit answer i submitting =>
    rw [submitting] at attempted
    cases attempted with
    | @submitting answers _ finished retried inRange =>
      show Attempted (Handler.afterSubmit answers.length answer) _
      cases again : answer.isRetried with
      | true =>
        rw [afterSubmit_of_retried again]
        exact .sleeping finished (List.forall_mem_append.mpr ⟨retried, List.forall_mem_singleton.mpr again⟩) inRange
      | false =>
        rw [afterSubmit_of_final again]
        exact .resetting (List.forall_mem_cons.mpr ⟨.returned retried inRange again, finished⟩)
  | @retry i sleeping =>
    rw [sleeping] at attempted
    cases attempted with
    | @sleeping answers last tries finished retried inRange =>
      show Attempted (Handler.afterSleep answers.length) _
      have longer : (answers ++ [last]).length = answers.length + 1 := List.length_append
      unfold Handler.afterSleep
      split
      next more =>
        rw [← longer] at more ⊢
        exact .submitting finished retried more
      next ended =>
        have all : (answers ++ [last]).length = SUBMIT_BLOCK_RETRIES := by omega
        exact .resetting (List.forall_mem_cons.mpr ⟨.exhausted retried all, finished⟩)
  | reset resetting =>
    rw [resetting] at attempted
    cases attempted with
    | resetting finished => exact .waiting finished

theorem Finished.bounded {answers : List SubmitAnswer} (finished : Finished answers) :
    answers.length ≤ SUBMIT_BLOCK_RETRIES ∧ ∀ answer ∈ answers.dropLast, answer.isRetried := by
  cases finished with
  | unsubmitted => exact ⟨Nat.zero_le _, nofun⟩
  | exhausted retried all => exact ⟨Nat.le_of_eq all, fun answer among => retried answer (List.dropLast_subset _ among)⟩
  | returned retried inRange =>
    rw [List.dropLast_concat, List.length_append]
    exact ⟨inRange, retried⟩

theorem Attempted.bounded {handler : Handler} {tries : List (List SubmitAnswer)} (attempted : Attempted handler tries) :
    ∀ answers ∈ tries, answers.length ≤ SUBMIT_BLOCK_RETRIES ∧ ∀ answer ∈ answers.dropLast, answer.isRetried := by
  cases attempted with
  | waiting finished => exact fun answers among => (finished answers among).bounded
  | resetting finished => exact fun answers among => (finished answers among).bounded
  | encoding finished =>
    exact List.forall_mem_cons.mpr ⟨⟨Nat.zero_le _, nofun⟩, fun answers among => (finished answers among).bounded⟩
  | submitting finished retried inRange =>
    refine List.forall_mem_cons.mpr ⟨⟨Nat.le_of_lt inRange, ?_⟩, fun answers among => (finished answers among).bounded⟩
    exact fun answer among => retried answer (List.dropLast_subset _ among)
  | sleeping finished retried inRange =>
    refine List.forall_mem_cons.mpr ⟨⟨?_, ?_⟩, fun answers among => (finished answers among).bounded⟩
    · rw [List.length_append]
      exact inRange
    · exact fun answer among => retried answer (List.dropLast_subset _ among)

theorem Attempted.finished_tail {handler : Handler} {tries : List (List SubmitAnswer)} (attempted : Attempted handler tries) :
    ∀ answers ∈ tries.tail, Finished answers := by
  cases attempted with
  | waiting finished => exact fun answers among => finished answers (List.mem_of_mem_tail among)
  | resetting finished => exact fun answers among => finished answers (List.mem_of_mem_tail among)
  | encoding finished => exact finished
  | submitting finished => exact finished
  | sleeping finished => exact finished

theorem attempts_length_step (one : RelayerStep relayer event after)
    (same : (attempts history).length = relayer.received.length) :
    (attempts (history ++ [event])).length = after.received.length := by
  rw [attempts_concat]
  cases one with
  | send =>
    show (attempts history).length + 1 = (relayer.received ++ [relayer.blocks]).length
    rw [List.length_append, same]
    rfl
  | submit =>
    cases tries : attempts history with
    | nil =>
      rw [tries] at same
      exact same
    | cons =>
      rw [tries] at same
      exact same
  | _ => exact same

/-- No header is lost, doubled or moved on its way into a batch. Of each batch, a submission follows another one only if
that one failed with an error that is retried, and the last batch but one is finished when the next is handed over. -/
theorem relayer_batches_headers (run : (relayers Block).Run history relayer) :
    relayer.received.flatten ++ relayer.pending = history.filterMap RelayerEvent.headerOf ∧
    (∀ batch ∈ relayer.received, batch ≠ []) ∧
    (attempts history).length = relayer.received.length ∧
    (∀ answers ∈ attempts history,
      answers.length ≤ SUBMIT_BLOCK_RETRIES ∧ ∀ answer ∈ answers.dropLast, answer.isRetried) ∧
    ∀ answers ∈ (attempts history).tail, Finished answers := by
  have kept : relayer.Collected history ∧ Attempted relayer.handler (attempts history) ∧
      (attempts history).length = relayer.received.length := by
    induction run with
    | start initial =>
      cases initial
      exact ⟨⟨rfl, nofun, nofun⟩, .waiting nofun, rfl⟩
    | @next history _ _ event _ _ one before =>
      obtain ⟨collected, attempted, same⟩ := before
      have step := relayerStep_of_step one
      refine ⟨collected.step step, ?_, attempts_length_step step same⟩
      rw [attempts_concat]
      exact attempted.step step
  obtain ⟨collected, attempted, same⟩ := kept
  exact ⟨collected.headers, collected.nonempty, same, attempted.bounded, attempted.finished_tail⟩

end Batches

def retriedBatch : List (RelayerEvent Nat) :=
  [.header 7, .header 8, .fire, .tick, .send, .clear, .stop, .encode true, .submit .timeout, .header 9, .retry,
    .submit .submitted, .reset]

theorem relayer_batches_headers_retried :
    ∃ relayer, (relayers Nat).Run retriedBatch relayer ∧ relayer.received = [[7, 8]] ∧ relayer.pending = [9] ∧
      attempts retriedBatch = [[.timeout, .submitted]] ∧ relayer.received.flatten ++ relayer.pending = [7, 8, 9] := by
  have computed : ∃ relayer, retriedBatch.foldlM Relayer.step (newRelayer Nat) = some relayer ∧
      relayer.received = [[7, 8]] ∧ relayer.pending = [9] := ⟨_, rfl, rfl, rfl⟩
  obtain ⟨relayer, computed, received, pending⟩ := computed
  have run : (relayers Nat).Run retriedBatch relayer := System.Run.of_steps (fun _ _ _ one => one) rfl computed
  exact ⟨relayer, run, received, pending, rfl, (relayer_batches_headers run).1⟩

end Sffl.Relayer
