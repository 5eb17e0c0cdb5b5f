import Sffl.Aggregator.Soundness

/-! The responses of an aggregation round.

The first loop sends at most one response without an error, and leaves with it.
From there on the round speaks for one digest, whose signers and stakes only
grow, until full stake or the timer ends it.
-/

set_option autoImplicit false

namespace Sffl.Aggregator

open Sffl.Evm Sffl.Golang Sffl.Semantics

variable {M Sig Key : Type} {interface : MessageInterface M}

section Definitions
variable (info : ValidationInfo Key)

def StakeReached (aggregation : Aggregation Sig Key) (messageDigest : MessageDigest) : Prop :=
  ∃ entry, aggregation.aggregatedOperatorsDict messageDigest = some entry ∧
    ∀ quorumNum percentage, info.quorumThresholdPercentagesMap quorumNum = some percentage →
      ∃ signedStake totalStake, aggregation.stakes entry.signersTotalStakePerQuorum quorumNum = some signedStake ∧
        info.totalStakePerQuorum quorumNum = some totalStake ∧ totalStake * percentage.toNat ≤ signedStake * 100

variable [AddCommGroup Sig] [AddCommGroup Key] (scheme : SignatureScheme Sig Key)

def conversations (interface : MessageInterface M) (messageKey : MessageKey) :
    System (Round M Sig Key × List (SharedResponse M Sig Key)) (Event interface Sig info) where
  initial state := state = (Round.initial info, [])
  step state event after := ∃ effect, state.1.step scheme info messageKey event = some effect ∧
    after = (effect.round, state.2 ++ effect.response.toList)

end Definitions

/-! ## What a response says -/

section Response
variable {info : ValidationInfo Key} {aggregation : Aggregation Sig Key} {message : M} {messageDigest : MessageDigest}
  {forceFinished : Bool} {indices : Option CheckSignaturesIndices} {orders : Orders info}
  {response : SharedResponse M Sig Key}

theorem stakeReached_iff {entry : AggregatedOperators Sig Key}
    (known : aggregation.aggregatedOperatorsDict messageDigest = some entry) (order : List QuorumNum)
    (visits : info.quorumThresholdPercentagesMap.Visits order) :
    StakeReached info aggregation messageDigest ↔
      checkIfStakeThresholdsMet (aggregation.stakes entry.signersTotalStakePerQuorum) info.totalStakePerQuorum
        (info.quorumThresholdPercentagesMap.range order) = .ok true := by
  rw [checkIfStakeThresholdsMet_true]
  constructor
  · rintro ⟨other, known', reached⟩ threshold member
    cases known.symm.trans known'
    exact reached threshold.1 threshold.2 (visits.mem_range.mp member)
  · intro reached
    exact ⟨entry, known, fun quorumNum percentage found =>
      reached (quorumNum, percentage) (visits.mem_range.mpr found)⟩

theorem response_finished (built : getMessageBlsAggregationResponse info interface aggregation message messageDigest
      forceFinished indices orders = .ok response) :
    response.finished = (decide (response.status = .fullStakeThresholdMet) || forceFinished) := by
  unfold getMessageBlsAggregationResponse at built
  split at built
  · cases built
    simp [errorResponse]
  · split at built
    · cases built
    · cases built
      simp [errorResponse]
    · split at built
      · cases built
        simp [errorResponse]
      · cases built
        rfl

theorem response_message (built : getMessageBlsAggregationResponse info interface aggregation message messageDigest
      forceFinished indices orders = .ok response) : response.message = some message := by
  unfold getMessageBlsAggregationResponse at built
  split at built
  · cases built
    rfl
  · split at built
    · cases built
    · cases built
      rfl
    · split at built <;> cases built <;> rfl

theorem response_status (built : getMessageBlsAggregationResponse info interface aggregation message messageDigest
      forceFinished indices orders = .ok response) : response.err = none ↔ response.status ≠ .none := by
  obtain ⟨_, noError, filled⟩ := getMessageBlsAggregationResponse_ok built
  refine ⟨fun none => ?_, noError⟩
  obtain ⟨_, _, computed, _⟩ := filled none
  obtain ⟨_, _, notReached | ⟨full, _⟩ | ⟨reached, _⟩⟩ := getMessageBlsAggregationStatus_ok computed
  · simp [notReached]
  · simp [full]
  · simp [reached]

theorem response_status_cases (built : getMessageBlsAggregationResponse info interface aggregation message messageDigest
      forceFinished indices orders = .ok response) (noError : response.err = none)
    (reached : response.status ≠ .thresholdNotReached) :
    response.status = .thresholdReached ∨ response.status = .fullStakeThresholdMet := by
  have filled := (response_status built).mp noError
  cases status : response.status with
  | thresholdReached => exact Or.inl rfl
  | fullStakeThresholdMet => exact Or.inr rfl
  | thresholdNotReached => exact absurd status reached
  | none => exact absurd status filled

theorem stakeReached_of_response (built : getMessageBlsAggregationResponse info interface aggregation message
      messageDigest forceFinished indices orders = .ok response) (reached : response.status = .thresholdReached) :
    StakeReached info aggregation messageDigest := by
  obtain ⟨_, noError, filled⟩ := getMessageBlsAggregationResponse_ok built
  obtain ⟨entry, known, computed, _⟩ := filled (noError (by simp [reached]))
  rw [reached] at computed
  obtain ⟨entry', known', impossible | ⟨impossible, _⟩ | ⟨_, enough⟩⟩ := getMessageBlsAggregationStatus_ok computed
  · cases impossible
  · cases impossible
  · exact ⟨entry', known', enough⟩

theorem StakeReached.status (reached : StakeReached info aggregation messageDigest)
    {status : MessageBlsAggregationStatus}
    (computed : getMessageBlsAggregationStatus info aggregation messageDigest orders = .ok status) :
    status ≠ .thresholdNotReached := by
  obtain ⟨entry, known, _⟩ := id reached
  rw [stakeReached_iff known orders.thresholds orders.thresholds_visits] at reached
  simp only [getMessageBlsAggregationStatus, known] at computed
  obtain ⟨full, _, rest⟩ := bind_eq_ok.mp computed
  cases full with
  | true =>
    cases rest
    simp
  | false =>
    simp only [Bool.false_eq_true, if_false, reached, ok_bind] at rest
    cases rest
    simp

theorem nonSigners_antitone {signers larger : Finset OperatorId} (subset : signers ⊆ larger)
    (orders later : Orders info) :
    nonSignersG1Pubkeys info (nonSignersOperatorIds info larger later) ⊆
      nonSignersG1Pubkeys info (nonSignersOperatorIds info signers orders) := by
  intro pubkey member
  obtain ⟨operatorId, listed, found⟩ := List.mem_filterMap.mp member
  obtain ⟨known, absent⟩ := mem_nonSignersOperatorIds.mp listed
  exact List.mem_filterMap.mpr ⟨operatorId,
    mem_nonSignersOperatorIds.mpr ⟨known, fun signer => absent (subset signer)⟩, found⟩

end Response

/-! ## What a step sends -/

theorem StakeReached.mono {info : ValidationInfo Key} {before after : Aggregation Sig Key} (grows : Grows before after)
    {messageDigest : MessageDigest} (reached : StakeReached info before messageDigest) :
    StakeReached info after messageDigest := by
  obtain ⟨entry, known, enough⟩ := reached
  obtain ⟨entry', known', sameMap, _⟩ := grows.entry messageDigest entry known
  refine ⟨entry', known', fun quorumNum percentage threshold => ?_⟩
  obtain ⟨signedStake, totalStake, signed, total, least⟩ := enough quorumNum percentage threshold
  obtain ⟨larger, signed', le⟩ := grows.stake _ quorumNum signedStake signed
  exact ⟨larger, totalStake, sameMap ▸ signed', total, least.trans (Nat.mul_le_mul_right 100 le)⟩

section Steps
variable [AddCommGroup Sig] [AddCommGroup Key] {scheme : SignatureScheme Sig Key} {info : ValidationInfo Key}

variable {messageKey : MessageKey} {round : Round M Sig Key} {event : Event interface Sig info}
  {effect : Effect M Sig Key}

inductive Answer (messageKey : MessageKey) (round : Round M Sig Key) (event : Event interface Sig info)
    (effect : Effect M Sig Key) : Prop where
  | silent (nothing : effect.response = none)
      (phase : effect.round.phase = round.phase ∨ effect.round.phase = .crashed)
  | expired (phase : round.phase = .preThreshold) (sent : effect.response = some (expiredResponse info messageKey))
      (ended : effect.round.phase = .finished)
  | first (signedMessage : SignedMessage interface Sig) (indices : Option CheckSignaturesIndices)
      (orders : Orders info) (response : SharedResponse M Sig Key) (received : event = .signed signedMessage indices orders)
      (phase : round.phase = .preThreshold) (sent : effect.response = some response)
      (built : getMessageBlsAggregationResponse info interface effect.round.aggregation signedMessage.message
        signedMessage.messageDigest false indices orders = .ok response)
      (status : response.status ≠ .thresholdNotReached)
      (next : effect.round.phase = phaseAfter interface signedMessage.message response.status)
  | later (message majority : M) (messageDigest : MessageDigest) (forceFinished : Bool)
      (indices : Option CheckSignaturesIndices) (orders : Orders info) (response : SharedResponse M Sig Key)
      (phase : round.phase = .thresholdReached majority messageDigest) (sent : effect.response = some response)
      (built : getMessageBlsAggregationResponse info interface effect.round.aggregation message messageDigest
        forceFinished indices orders = .ok response)
      (next : effect.round.phase =
        if response.status = .fullStakeThresholdMet ∨ forceFinished then .finished else round.phase)

theorem step_answer (taken : round.step scheme info messageKey event = some effect) :
    Answer messageKey round event effect := by
  unfold Round.step at taken
  split at taken
  next signedMessage indices orders phase =>
    cases taken
    rcases signedPreThreshold_cases scheme round signedMessage indices orders with
      ⟨_, silent, next⟩ | ⟨⟨_, built⟩, ⟨silent, next⟩ | ⟨response, sent, status, next⟩⟩
    · exact .silent silent next
    · exact .silent silent next
    · exact .first signedMessage indices orders response rfl phase sent (built response sent) status next
  next indices orders phase =>
    cases taken
    exact .expired phase rfl rfl
  next majority messageDigest signedMessage indices orders phase =>
    cases taken
    unfold signedThresholdReached
    split
    · exact .silent rfl (Or.inl rfl)
    next same =>
      split
      · exact .silent rfl (Or.inr rfl)
      · exact .silent rfl (Or.inl rfl)
      · split
        · exact .silent rfl (Or.inr rfl)
        next aggregation _ response built =>
          refine .later signedMessage.message majority messageDigest false indices orders response phase rfl ?_ ?_
          · rw [← not_not.mp same]
            exact built
          · simp
  next majority messageDigest indices orders phase =>
    cases taken
    unfold timerThresholdReached
    split
    · exact .silent rfl (Or.inr rfl)
    next response built =>
      exact .later majority majority messageDigest true indices orders response phase rfl built (by simp)
  · cases taken
  · cases taken

end Steps

/-! ## The responses of a run -/

section Runs

/-- Two responses without an error speak for one digest, the later one with no new non-signers. -/
def Follows (earlier later : SharedResponse M Sig Key) : Prop :=
  earlier.err = none → later.err = none →
    later.aggregation.messageDigest = earlier.aggregation.messageDigest ∧
    later.aggregation.nonSignersPubkeysG1 ⊆ earlier.aggregation.nonSignersPubkeysG1

def Concluded (responses : List (SharedResponse M Sig Key)) : Prop :=
  ∃ earlier last, responses = earlier ++ [last] ∧ last.finished = true ∧
    ∀ response ∈ earlier, response.finished = false

/-- The round's digest has its stake, and whoever has not signed it by now had
not signed it when the response was sent. -/
structure Backs (info : ValidationInfo Key) (aggregation : Aggregation Sig Key) (messageDigest : MessageDigest)
    (response : SharedResponse M Sig Key) : Prop where
  digest : response.aggregation.messageDigest = messageDigest
  nonSigners : ∀ entry, aggregation.aggregatedOperatorsDict messageDigest = some entry → ∀ orders : Orders info,
    nonSignersG1Pubkeys info (nonSignersOperatorIds info entry.signersOperatorIdsSet orders) ⊆
      response.aggregation.nonSignersPubkeysG1

structure Orderly (info : ValidationInfo Key) (round : Round M Sig Key) (responses : List (SharedResponse M Sig Key)) :
    Prop where
  concluded : round.phase = .finished → Concluded responses
  unfinished : round.phase ≠ .finished → ∀ response ∈ responses, response.finished = false
  undecided : round.phase = .preThreshold → ∀ response ∈ responses, response.err ≠ none
  majority : ∀ message messageDigest, round.phase = .thresholdReached message messageDigest →
    StakeReached info round.aggregation messageDigest ∧
    ∀ response ∈ responses, response.err = none → Backs info round.aggregation messageDigest response
  follows : responses.Pairwise Follows
  status : ∀ response ∈ responses, response.err = none →
    response.status = .thresholdReached ∨ response.status = .fullStakeThresholdMet

variable {info : ValidationInfo Key}

theorem Backs.mono {before after : Aggregation Sig Key} (grows : Grows before after) {messageDigest : MessageDigest}
    (reached : StakeReached info before messageDigest) {response : SharedResponse M Sig Key}
    (backs : Backs info before messageDigest response) : Backs info after messageDigest response := by
  refine ⟨backs.digest, fun entry' known' orders => ?_⟩
  obtain ⟨entry, known, _⟩ := reached
  obtain ⟨larger, found, _, subset⟩ := grows.entry messageDigest entry known
  cases found.symm.trans known'
  exact List.Subset.trans (nonSigners_antitone subset orders orders) (backs.nonSigners entry known orders)

theorem backs_of_built {aggregation : Aggregation Sig Key} {message : M} {messageDigest : MessageDigest}
    {forceFinished : Bool} {indices : Option CheckSignaturesIndices} {orders : Orders info}
    {response : SharedResponse M Sig Key}
    (built : getMessageBlsAggregationResponse info interface aggregation message messageDigest forceFinished indices
      orders = .ok response) (noError : response.err = none) : Backs info aggregation messageDigest response := by
  obtain ⟨digest, _, filled⟩ := getMessageBlsAggregationResponse_ok built
  obtain ⟨entry, known, _, _, _, nonSigners⟩ := filled noError
  refine ⟨digest, fun entry' known' other => ?_⟩
  cases known.symm.trans known'
  rw [nonSigners]
  exact nonSigners_antitone (Finset.Subset.refl _) orders other

/-- A response that is built from the grown aggregation follows the ones that the old one backs. -/
theorem Backs.follows {before after : Aggregation Sig Key} (grows : Grows before after) {messageDigest : MessageDigest}
    (reached : StakeReached info before messageDigest) {earlier later : SharedResponse M Sig Key}
    (backs : Backs info before messageDigest earlier) {message : M} {forceFinished : Bool}
    {indices : Option CheckSignaturesIndices} {orders : Orders info}
    (built : getMessageBlsAggregationResponse info interface after message messageDigest forceFinished indices
      orders = .ok later) (noError : later.err = none) :
    later.aggregation.messageDigest = earlier.aggregation.messageDigest ∧
      later.aggregation.nonSignersPubkeysG1 ⊆ earlier.aggregation.nonSignersPubkeysG1 := by
  obtain ⟨digest, _, filled⟩ := getMessageBlsAggregationResponse_ok built
  obtain ⟨entry, known, _, _, _, nonSigners⟩ := filled noError
  refine ⟨digest.trans backs.digest.symm, ?_⟩
  rw [nonSigners]
  exact (backs.mono grows reached).nonSigners entry known orders

theorem Concluded.concat {responses : List (SharedResponse M Sig Key)} {response : SharedResponse M Sig Key}
    (unfinished : ∀ earlier ∈ responses, earlier.finished = false) (finished : response.finished = true) :
    Concluded (responses ++ [response]) :=
  ⟨responses, response, rfl, finished, unfinished⟩

theorem follows_concat {responses : List (SharedResponse M Sig Key)} {response : SharedResponse M Sig Key}
    (pairs : responses.Pairwise Follows) (follows : ∀ earlier ∈ responses, Follows earlier response) :
    (responses ++ [response]).Pairwise Follows := by
  refine List.pairwise_append.mpr ⟨pairs, List.pairwise_singleton _ _, ?_⟩
  intro earlier member last same
  cases List.mem_singleton.mp same
  exact follows earlier member

theorem phaseAfter_finished {message : M} {status : MessageBlsAggregationStatus} :
    phaseAfter interface message status = .finished ↔ status = .fullStakeThresholdMet := by
  cases status with
  | thresholdReached =>
    unfold phaseAfter
    cases interface.digest message <;> simp
  | fullStakeThresholdMet => simp [phaseAfter]
  | thresholdNotReached => simp [phaseAfter]
  | none => simp [phaseAfter]

section OneStep
variable {round : Round M Sig Key} {responses : List (SharedResponse M Sig Key)} {effect : Effect M Sig Key}

theorem Orderly.silent (orderly : Orderly info round responses) (grows : Grows round.aggregation effect.round.aggregation)
    (running : round.phase ≠ .finished) (phase : effect.round.phase = round.phase ∨ effect.round.phase = .crashed) :
    Orderly info effect.round responses where
  concluded ended := by
    rcases phase with same | crashed
    · exact absurd (same.symm.trans ended) running
    · rw [crashed] at ended
      cases ended
  unfinished _ := orderly.unfinished running
  undecided first := by
    rcases phase with same | crashed
    · exact orderly.undecided (same.symm.trans first)
    · rw [crashed] at first
      cases first
  majority message messageDigest second := by
    rcases phase with same | crashed
    · obtain ⟨reached, backed⟩ := orderly.majority message messageDigest (same.symm.trans second)
      exact ⟨reached.mono grows, fun response member noError => (backed response member noError).mono grows reached⟩
    · rw [crashed] at second
      cases second
  follows := orderly.follows
  status := orderly.status

/-- A step that sends a response, which is finished exactly if the round is then over. -/
theorem Orderly.sent (orderly : Orderly info round responses) {response : SharedResponse M Sig Key}
    (running : round.phase ≠ .finished) (ended : effect.round.phase = .finished ↔ response.finished = true)
    (undecided : effect.round.phase = .preThreshold → round.phase = .preThreshold ∧ response.err ≠ none)
    (majority : ∀ message messageDigest, effect.round.phase = .thresholdReached message messageDigest →
      StakeReached info effect.round.aggregation messageDigest ∧ ∀ earlier ∈ responses ++ [response],
        earlier.err = none → Backs info effect.round.aggregation messageDigest earlier)
    (follows : ∀ earlier ∈ responses, Follows earlier response)
    (status : response.err = none → response.status = .thresholdReached ∨ response.status = .fullStakeThresholdMet) :
    Orderly info effect.round (responses ++ [response]) where
  concluded finished := .concat (orderly.unfinished running) (ended.mp finished)
  unfinished open_ := by
    intro earlier member
    rcases List.mem_append.mp member with old | new
    · exact orderly.unfinished running earlier old
    · cases List.mem_singleton.mp new
      exact Bool.eq_false_iff.mpr fun finished => open_ (ended.mpr finished)
  undecided first := by
    obtain ⟨before, failed⟩ := undecided first
    intro earlier member
    rcases List.mem_append.mp member with old | new
    · exact orderly.undecided before earlier old
    · cases List.mem_singleton.mp new
      exact failed
  majority := majority
  follows := follows_concat orderly.follows follows
  status := by
    intro earlier member noError
    rcases List.mem_append.mp member with old | new
    · exact orderly.status earlier old noError
    · cases List.mem_singleton.mp new
      exact status noError

theorem Orderly.first (orderly : Orderly info round responses) (phase : round.phase = .preThreshold)
    {signedMessage : SignedMessage interface Sig} {indices : Option CheckSignaturesIndices} {orders : Orders info}
    {response : SharedResponse M Sig Key}
    (built : getMessageBlsAggregationResponse info interface effect.round.aggregation signedMessage.message
      signedMessage.messageDigest false indices orders = .ok response)
    (status : response.status ≠ .thresholdNotReached)
    (next : effect.round.phase = phaseAfter interface signedMessage.message response.status) :
    Orderly info effect.round (responses ++ [response]) := by
  have failed := orderly.undecided phase
  apply orderly.sent
  · simp [phase]
  · rw [next, phaseAfter_finished, response_finished built]
    simp
  · intro still
    refine ⟨phase, fun noError => ?_⟩
    rw [next] at still
    rcases response_status_cases built noError status with reached | full
    · simp [reached, phaseAfter, signedMessage.digest_eq] at still
    · simp [full, phaseAfter] at still
  · intro message messageDigest second
    rw [next] at second
    cases reported : response.status with
    | thresholdReached =>
      rw [reported, phaseAfter, signedMessage.digest_eq] at second
      cases second
      refine ⟨stakeReached_of_response built reported, fun earlier member noError => ?_⟩
      rcases List.mem_append.mp member with old | new
      · exact absurd noError (failed earlier old)
      · cases List.mem_singleton.mp new
        exact backs_of_built built noError
    | fullStakeThresholdMet => rw [reported] at second; cases second
    | thresholdNotReached => rw [reported] at second; cases second
    | none => rw [reported] at second; cases second
  · exact fun earlier old noError => absurd noError (failed earlier old)
  · exact fun noError => response_status_cases built noError status

theorem Orderly.later (orderly : Orderly info round responses)
    (grows : Grows round.aggregation effect.round.aggregation) {message majority : M} {messageDigest : MessageDigest}
    (phase : round.phase = .thresholdReached majority messageDigest) {forceFinished : Bool}
    {indices : Option CheckSignaturesIndices} {orders : Orders info} {response : SharedResponse M Sig Key}
    (built : getMessageBlsAggregationResponse info interface effect.round.aggregation message messageDigest
      forceFinished indices orders = .ok response)
    (next : effect.round.phase =
      if response.status = .fullStakeThresholdMet ∨ forceFinished then .finished else round.phase) :
    Orderly info effect.round (responses ++ [response]) := by
  obtain ⟨reached, backed⟩ := orderly.majority majority messageDigest phase
  have ended : effect.round.phase = .finished ↔ response.finished = true := by
    rw [next, response_finished built]
    split <;> simp_all
  apply orderly.sent
  · simp [phase]
  · exact ended
  · intro first
    rw [next, phase] at first
    split at first <;> cases first
  · intro other otherDigest second
    rw [next, phase] at second
    split at second
    · cases second
    · cases second
      refine ⟨reached.mono grows, fun earlier member noError => ?_⟩
      rcases List.mem_append.mp member with old | new
      · exact (backed earlier old noError).mono grows reached
      · cases List.mem_singleton.mp new
        exact backs_of_built built noError
  · exact fun earlier old noError later => (backed earlier old noError).follows grows reached built later
  · intro noError
    obtain ⟨_, _, filled⟩ := getMessageBlsAggregationResponse_ok built
    obtain ⟨_, _, computed, _⟩ := filled noError
    exact response_status_cases built noError ((reached.mono grows).status computed)

variable [AddCommGroup Sig] [AddCommGroup Key] {scheme : SignatureScheme Sig Key} {messageKey : MessageKey}
  {event : Event interface Sig info}

theorem Orderly.step (orderly : Orderly info round responses)
    (taken : round.step scheme info messageKey event = some effect) :
    Orderly info effect.round (responses ++ effect.response.toList) := by
  have grows := step_grows taken
  cases step_answer taken with
  | silent nothing phase =>
    rw [nothing, Option.toList_none, List.append_nil]
    refine orderly.silent grows (fun ended => ?_) phase
    simp [Round.step, ended] at taken
  | expired phase sent ended =>
    rw [sent]
    apply orderly.sent
    · simp [phase]
    · simp [ended, expiredResponse]
    · simp [ended]
    · simp [ended]
    · intro _ _ _ noError
      cases noError
    · intro noError
      cases noError
  | first signedMessage indices orders response received phase sent built status next =>
    rw [sent]
    exact orderly.first phase built status next
  | later message majority messageDigest forceFinished indices orders response phase sent built next =>
    rw [sent]
    exact orderly.later grows phase built next

theorem conversations_orderly {history : List (Event interface Sig info)}
    (run : (conversations info scheme interface messageKey).Run history (round, responses)) :
    Orderly info round responses := by
  refine System.GuardedRun.invariant (fun _ state => Orderly info state.1 state.2) ?_ ?_ run
  · rintro state rfl
    exact ⟨by simp [Round.initial], by simp, by simp, by simp [Round.initial], List.Pairwise.nil, by simp⟩
  · rintro _ state event after orderly _ ⟨effect, taken, rfl⟩
    exact orderly.step taken

/-- A round that is over has sent one finished response, at the end. Its responses without an error speak for one
digest, with ever fewer non-signers and never below the threshold. -/
theorem response_protocol {history : List (Event interface Sig info)}
    (run : (conversations info scheme interface messageKey).Run history (round, responses)) :
    (round.phase = .finished → Concluded responses) ∧
    (round.phase ≠ .finished → ∀ response ∈ responses, response.finished = false) ∧
    responses.Pairwise Follows ∧
    ∀ response ∈ responses, response.err = none →
      response.status = .thresholdReached ∨ response.status = .fullStakeThresholdMet := by
  have orderly := conversations_orderly run
  exact ⟨orderly.concluded, orderly.unfinished, orderly.follows, orderly.status⟩

end OneStep

/-! ## Running a list of events -/

section Executions
variable [AddCommGroup Sig] [AddCommGroup Key]

def converse (info : ValidationInfo Key) (scheme : SignatureScheme Sig Key) (interface : MessageInterface M)
    (messageKey : MessageKey) (events : List (Event interface Sig info)) :
    Option (Round M Sig Key × List (SharedResponse M Sig Key)) :=
  events.foldlM (fun state event => (state.1.step scheme info messageKey event).map fun effect =>
    (effect.round, state.2 ++ effect.response.toList)) (Round.initial info, [])

theorem converse_run {scheme : SignatureScheme Sig Key} {messageKey : MessageKey}
    {events : List (Event interface Sig info)} {state : Round M Sig Key × List (SharedResponse M Sig Key)}
    (done : converse info scheme interface messageKey events = some state) :
    (conversations info scheme interface messageKey).Run events state := by
  have start : (conversations info scheme interface messageKey).Run [] (Round.initial info, []) := .start rfl
  refine start.of_foldlM ?_ done
  intro state event after one
  obtain ⟨effect, taken, rfl⟩ := Option.map_eq_some_iff.mp one
  exact ⟨trivial, effect, taken, rfl⟩

end Executions

end Runs

theorem response_protocol_full_stake :
    ∃ round responses, converse thirds smallScheme plainMessages 5 [thirdSigns 1, thirdSigns 2, thirdSigns 3] =
        some (round, responses) ∧
      responses.map (fun response => (response.status, response.finished)) =
        [(.thresholdReached, false), (.fullStakeThresholdMet, true)] ∧
      responses.Pairwise Follows := by
  have responded : (converse thirds smallScheme plainMessages 5 [thirdSigns 1, thirdSigns 2, thirdSigns 3]).map
      (fun state => state.2.map fun response => (response.status, response.finished)) =
        some [(.thresholdReached, false), (.fullStakeThresholdMet, true)] := by
    decide +kernel
  obtain ⟨⟨round, responses⟩, done, sent⟩ := Option.map_eq_some_iff.mp responded
  exact ⟨round, responses, done, sent, (response_protocol (converse_run done)).2.2.1⟩

end Sffl.Aggregator
