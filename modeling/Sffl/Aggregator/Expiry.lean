import Sffl.Aggregator.Responses

/-! Rounds that expire.

The first loop stays where it is after a response with an error. If the error is
a failed `GetCheckSignaturesIndices` call for a digest that has just reached its
thresholds, nothing looks at that digest again until its next signer, and the
timer reports the message as expired.
-/

set_option autoImplicit false

namespace Sffl.Aggregator

open Sffl.Evm Sffl.Golang Sffl.Semantics

variable {M Sig Key : Type} {interface : MessageInterface M}

section Definitions
variable (info : ValidationInfo Key)

/-- No digest of the round passes the code's own test. -/
def NoQuorum (aggregation : Aggregation Sig Key) : Prop :=
  ∀ messageDigest entry, aggregation.aggregatedOperatorsDict messageDigest = some entry → ∀ orders : Orders info,
    checkIfStakeThresholdsMet (aggregation.stakes entry.signersTotalStakePerQuorum) info.totalStakePerQuorum
      (info.quorumThresholdPercentagesMap.range orders.thresholds) ≠ .ok true

def stakesWith (aggregation : Aggregation Sig Key) (messageDigest : MessageDigest) (operatorId : OperatorId) :
    Map QuorumNum Nat :=
  match aggregation.aggregatedOperatorsDict messageDigest with
  | none => aggregation.stakes operatorId
  | some entry => addStakes (aggregation.stakes entry.signersTotalStakePerQuorum) (aggregation.stakes operatorId)

/-- The registry answers when a valid message in the first loop completes its digest's stake. -/
def ReadsSucceed (scheme : SignatureScheme Sig Key) (round : Round M Sig Key) (event : Event interface Sig info) :
    Prop :=
  ∀ signedMessage indices orders operatorG2Pubkey, event = .signed signedMessage indices orders →
    round.phase = .preThreshold → verifySignature scheme info signedMessage = .ok operatorG2Pubkey →
    checkIfStakeThresholdsMet
      (stakesWith round.aggregation signedMessage.messageDigest signedMessage.operatorId) info.totalStakePerQuorum
      (info.quorumThresholdPercentagesMap.range orders.thresholds) = .ok true → indices.isSome = true

end Definitions

section Stakes
variable {info : ValidationInfo Key} {aggregation : Aggregation Sig Key}

theorem noQuorum_iff (orders : Orders info) :
    NoQuorum info aggregation ↔ ∀ messageDigest, ¬ StakeReached info aggregation messageDigest := by
  constructor
  · intro without messageDigest reached
    obtain ⟨entry, known, _⟩ := id reached
    exact without messageDigest entry known orders
      ((stakeReached_iff known orders.thresholds orders.thresholds_visits).mp reached)
  · intro without messageDigest entry known other met
    exact without messageDigest ((stakeReached_iff known other.thresholds other.thresholds_visits).mpr met)

theorem checkIfFullStakeThresholdMet_error {totalStakePerQuorum : Map QuorumNum Nat} {signed : List (QuorumNum × Nat)}
    {fault : Fault} (failed : checkIfFullStakeThresholdMet totalStakePerQuorum signed = .error fault) :
    fault = .crashed := by
  induction signed with
  | nil => cases failed
  | cons entry signed ih =>
    unfold checkIfFullStakeThresholdMet at failed
    split at failed
    · cases failed
      rfl
    · split at failed
      · exact ih failed
      · cases failed

theorem StakeReached.status_cases {messageDigest : MessageDigest}
    (reached : StakeReached info aggregation messageDigest) (orders : Orders info) :
    getMessageBlsAggregationStatus info aggregation messageDigest orders = .error .crashed ∨
    getMessageBlsAggregationStatus info aggregation messageDigest orders = .ok .fullStakeThresholdMet ∨
    getMessageBlsAggregationStatus info aggregation messageDigest orders = .ok .thresholdReached := by
  obtain ⟨entry, known, _⟩ := id reached
  rw [stakeReached_iff known orders.thresholds orders.thresholds_visits] at reached
  simp only [getMessageBlsAggregationStatus, known]
  cases full : checkIfFullStakeThresholdMet info.totalStakePerQuorum
      ((aggregation.stakes entry.signersTotalStakePerQuorum).range
        (orders.signed (aggregation.stakes entry.signersTotalStakePerQuorum))) with
  | error fault =>
    cases checkIfFullStakeThresholdMet_error full
    exact Or.inl rfl
  | ok met =>
    right
    cases met with
    | true => exact Or.inl rfl
    | false =>
      right
      simp only [ok_bind, Bool.false_eq_true, if_false, reached]
      rfl

end Stakes

/-! ## Recording a signer -/

section Recording
variable [AddCommGroup Sig] [AddCommGroup Key] {info : ValidationInfo Key} {aggregation : Aggregation Sig Key}
  {digest : MessageDigest} {operatorId : OperatorId} {operatorG2Pubkey : Key} {blsSignature : Sig}

variable (aggregation digest operatorId operatorG2Pubkey blsSignature) in
theorem recordSigner_stakesWith : ∃ entry,
    (recordSigner aggregation digest operatorId operatorG2Pubkey blsSignature).aggregatedOperatorsDict digest =
      some entry ∧
    (recordSigner aggregation digest operatorId operatorG2Pubkey blsSignature).stakes
      entry.signersTotalStakePerQuorum = stakesWith aggregation digest operatorId := by
  unfold recordSigner stakesWith
  cases aggregation.aggregatedOperatorsDict digest with
  | none => exact ⟨_, Map.insert_self .., rfl⟩
  | some entry => exact ⟨_, Map.insert_self .., Function.update_self ..⟩

theorem stakeReached_recorded_iff (orders : Orders info) :
    StakeReached info (recordSigner aggregation digest operatorId operatorG2Pubkey blsSignature) digest ↔
      checkIfStakeThresholdsMet (stakesWith aggregation digest operatorId) info.totalStakePerQuorum
        (info.quorumThresholdPercentagesMap.range orders.thresholds) = .ok true := by
  obtain ⟨entry, known, stakes⟩ := recordSigner_stakesWith aggregation digest operatorId operatorG2Pubkey blsSignature
  rw [stakeReached_iff known orders.thresholds orders.thresholds_visits, stakes]

/-- A digest gets over its thresholds only along with the one that is signed:
either its accumulator is left alone, or the two digests share it. -/
theorem stakeReached_record {other : MessageDigest}
    (reached : StakeReached info (recordSigner aggregation digest operatorId operatorG2Pubkey blsSignature) other) :
    StakeReached info aggregation other ∨
      StakeReached info (recordSigner aggregation digest operatorId operatorG2Pubkey blsSignature) digest := by
  by_cases same : other = digest
  · exact Or.inr (same ▸ reached)
  obtain ⟨shared, known, enough⟩ := reached
  unfold recordSigner at known enough ⊢
  cases signed : aggregation.aggregatedOperatorsDict digest with
  | none =>
    simp only [signed, Map.insert_of_ne _ _ same] at known enough
    exact Or.inl ⟨shared, known, enough⟩
  | some entry =>
    simp only [signed, Map.insert_of_ne _ _ same] at known enough ⊢
    by_cases accumulator : shared.signersTotalStakePerQuorum = entry.signersTotalStakePerQuorum
    · rw [accumulator] at enough
      exact Or.inr ⟨_, Map.insert_self .., enough⟩
    · rw [Function.update_of_ne accumulator] at enough
      exact Or.inl ⟨shared, known, enough⟩

end Recording

/-! ## Steps of the first loop -/

section Steps
variable [AddCommGroup Sig] [AddCommGroup Key] {scheme : SignatureScheme Sig Key} {info : ValidationInfo Key}
  {messageKey : MessageKey} {round : Round M Sig Key} {signedMessage : SignedMessage interface Sig}
  {indices : Option CheckSignaturesIndices} {orders : Orders info} {operatorG2Pubkey : Key}

theorem handleSignedMessageDigest_verified {aggregation : Aggregation Sig Key}
    (verified : verifySignature scheme info signedMessage = .ok operatorG2Pubkey) :
    handleSignedMessageDigest scheme info aggregation signedMessage =
      .ok (recordSigner aggregation signedMessage.messageDigest signedMessage.operatorId operatorG2Pubkey
        signedMessage.blsSignature) := by
  rw [handleSignedMessageDigest, verified, ok_bind, signedMessage.digest_eq]
  rfl

theorem signedPreThreshold_records (verified : verifySignature scheme info signedMessage = .ok operatorG2Pubkey) :
    (signedPreThreshold scheme info round signedMessage indices orders).round.aggregation =
      recordSigner round.aggregation signedMessage.messageDigest signedMessage.operatorId operatorG2Pubkey
        signedMessage.blsSignature := by
  unfold signedPreThreshold
  rw [handleSignedMessageDigest_verified verified]
  simp only
  split
  · rfl
  · split <;> rfl

/-- A digest with enough stake ends the first loop if the registry answers. -/
theorem signedPreThreshold_leaves (verified : verifySignature scheme info signedMessage = .ok operatorG2Pubkey)
    (reached : StakeReached info (recordSigner round.aggregation signedMessage.messageDigest signedMessage.operatorId
      operatorG2Pubkey signedMessage.blsSignature) signedMessage.messageDigest) (answered : indices.isSome = true) :
    (signedPreThreshold scheme info round signedMessage indices orders).round.phase ≠ .preThreshold := by
  obtain ⟨found, rfl⟩ := Option.isSome_iff_exists.mp answered
  obtain ⟨entry, known, _⟩ := id reached
  unfold signedPreThreshold
  rw [handleSignedMessageDigest_verified verified]
  simp only [getMessageBlsAggregationResponse, known]
  rcases reached.status_cases orders with crashed | full | enough
  · simp [crashed, crash]
  · simp [full, phaseAfter]
  · simp [enough, phaseAfter, signedMessage.digest_eq]

theorem step_without_quorum {event : Event interface Sig info} {effect : Effect M Sig Key}
    (without : round.phase = .preThreshold → ∀ messageDigest, ¬ StakeReached info round.aggregation messageDigest)
    (reads : ReadsSucceed info scheme round event) (taken : round.step scheme info messageKey event = some effect)
    (still : effect.round.phase = .preThreshold) (messageDigest : MessageDigest) :
    ¬ StakeReached info effect.round.aggregation messageDigest := by
  intro reached
  unfold Round.step at taken
  split at taken
  next signedMessage indices orders phase =>
    cases taken
    rcases signedPreThreshold_cases scheme round signedMessage indices orders with
      ⟨same, _⟩ | ⟨⟨⟨operatorG2Pubkey, verified, recorded⟩, _⟩, _⟩
    · rw [same] at reached
      exact without phase messageDigest reached
    · rw [recorded] at reached
      rcases stakeReached_record reached with old | signed
      · exact without phase messageDigest old
      · refine signedPreThreshold_leaves verified signed ?_ still
        exact reads signedMessage indices orders operatorG2Pubkey rfl phase verified
          ((stakeReached_recorded_iff orders).mp signed)
  next => cases taken; cases still
  next majority digest signedMessage indices orders phase =>
    cases taken
    rcases (signedThresholdReached_cases scheme round digest signedMessage indices orders).1 with
      same | finished | crashed
    · cases phase.symm.trans (same.symm.trans still)
    · cases finished.symm.trans still
    · cases crashed.symm.trans still
  next =>
    cases taken
    unfold timerThresholdReached at still
    split at still <;> cases still
  · cases taken
  · cases taken

theorem phase_of_expired {event : Event interface Sig info} {effect : Effect M Sig Key}
    (taken : round.step scheme info messageKey event = some effect)
    (sent : effect.response = some (expiredResponse info messageKey)) : round.phase = .preThreshold := by
  cases step_answer taken with
  | silent nothing => cases nothing.symm.trans sent
  | expired phase => exact phase
  | first _ _ _ _ _ phase => exact phase
  | later _ _ _ _ _ _ response _ same built =>
    cases same.symm.trans sent
    cases response_message built

end Steps

/-! ## Runs -/

section Runs
variable [AddCommGroup Sig] [AddCommGroup Key] {scheme : SignatureScheme Sig Key} {info : ValidationInfo Key}
  {messageKey : MessageKey} {round : Round M Sig Key} {history : List (Event interface Sig info)}

theorem run_without_quorum
    (run : (rounds scheme info interface messageKey).GuardedRun (ReadsSucceed info scheme) history round)
    (phase : round.phase = .preThreshold) (messageDigest : MessageDigest) :
    ¬ StakeReached info round.aggregation messageDigest := by
  refine run.invariant (fun _ round => round.phase = .preThreshold → ∀ messageDigest,
    ¬ StakeReached info round.aggregation messageDigest) ?_ ?_ phase messageDigest
  · rintro round rfl _ messageDigest ⟨_, known, _⟩
    cases known
  · rintro _ round event after without reads ⟨effect, taken, rfl⟩
    exact step_without_quorum without reads taken

theorem reads_succeed_of_without (run : (rounds scheme info interface messageKey).Run history round)
    (without : ∀ messageDigest, ¬ StakeReached info round.aggregation messageDigest) :
    (rounds scheme info interface messageKey).GuardedRun (ReadsSucceed info scheme) history round := by
  -- stakes only grow, so a read that failed for a complete digest leaves its quorum behind
  induction run with
  | start initial => exact .start initial
  | @next history round after event run _ one ih =>
    obtain ⟨effect, taken, rfl⟩ := one
    refine .next (ih fun messageDigest reached => ?_) ?_ ⟨effect, taken, rfl⟩
    · exact without messageDigest (reached.mono (step_grows taken))
    · intro signedMessage indices orders operatorG2Pubkey received phase verified met
      exfalso
      apply without signedMessage.messageDigest
      simp only [received, Round.step, phase] at taken
      cases taken
      rw [signedPreThreshold_records verified]
      exact (stakeReached_recorded_iff orders).mpr met

/-- A round that expires has no quorum exactly if no read failed when a digest had just got one. -/
theorem expired_without_quorum_iff {event : Event interface Sig info} {effect : Effect M Sig Key}
    (run : (rounds scheme info interface messageKey).Run history round)
    (taken : round.step scheme info messageKey event = some effect)
    (sent : effect.response = some (expiredResponse info messageKey)) :
    NoQuorum info round.aggregation ↔
      (rounds scheme info interface messageKey).GuardedRun (ReadsSucceed info scheme) history round := by
  have orders : Orders info := match event with
    | .signed _ _ orders => orders
    | .timer _ orders => orders
  rw [noQuorum_iff orders]
  exact ⟨reads_succeed_of_without run, fun guarded => run_without_quorum guarded (phase_of_expired taken sent)⟩

end Runs

/-! ## Two of three operators and a failed read -/

theorem thirdsMembers_distinct : (thirdsMembers.map fun entry => multipleHash entry.1).Nodup := by decide

def thirdsOrders : Orders thirds := smallOrders thirdsMembers 66 twoThirds_valid thirdsMembers_distinct

def thirdsTimer : Event plainMessages (ZMod 7) thirds := .timer (some CheckSignaturesIndices.empty) thirdsOrders

theorem expired_without_quorum_iff_one_signer : NoQuorum thirds thirdsRound.aggregation := by
  have guarded : (rounds smallScheme thirds plainMessages 5).GuardedRun (ReadsSucceed thirds smallScheme)
      [thirdSigns 1] thirdsRound := by
    refine .next (.start rfl) ?_ thirdsRound_step
    intro signedMessage indices orders operatorG2Pubkey received _ _ _
    cases received
    rfl
  have taken : thirdsRound.step smallScheme thirds 5 thirdsTimer =
      some ⟨{ thirdsRound with phase := .finished }, none, some (expiredResponse thirds 5)⟩ := rfl
  exact (expired_without_quorum_iff (.next (.start rfl) trivial thirdsRound_step) taken rfl).mpr guarded

def secondUnread : Event plainMessages (ZMod 7) thirds :=
  .signed ⟨5, 5, smallScheme.sign (2 : Nat) 5, multipleHash (2 : Nat), plainMessages_digest 5⟩ none thirdsOrders

def unreadRound : Round MessageDigest (ZMod 7) (ZMod 7) where
  aggregation := recordSigner thirdsRound.aggregation 5 (multipleHash (2 : Nat)) (2 : Nat) (smallScheme.sign (2 : Nat) 5)
  phase := .preThreshold

theorem unreadRound_step :
    (rounds smallScheme thirds plainMessages 5).step thirdsRound secondUnread unreadRound :=
  ⟨⟨unreadRound, some none, some (errorResponse thirds plainMessages 5 5 false .registryCall)⟩, rfl, rfl⟩

/-- Two of three operators sign, the read for the second one fails, and the timer throws the quorum away. -/
theorem failed_read_loses_quorum :
    ∃ effect, (rounds smallScheme thirds plainMessages 5).Run [thirdSigns 1, secondUnread] unreadRound ∧
      unreadRound.step smallScheme thirds 5 thirdsTimer = some effect ∧
      effect.response = some (expiredResponse thirds 5) ∧ ¬ NoQuorum thirds unreadRound.aggregation := by
  refine ⟨_, .next (.next (.start rfl) trivial thirdsRound_step) trivial unreadRound_step, rfl, rfl, ?_⟩
  intro without
  exact without 5 _ rfl thirdsOrders (by decide +kernel)

end Sffl.Aggregator
