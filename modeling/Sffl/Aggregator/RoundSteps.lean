import Sffl.Aggregator.Round

/-! What one step of an aggregation round can do.

Each function of the round has one lemma that says what its success means, and
the step has one lemma for each thing that later proofs follow through a run: the
aggregation, the phase and the response.
-/

set_option autoImplicit false

namespace Sffl.Aggregator

open Sffl.Evm Sffl.Golang

section Stakes
variable {signedStakePerQuorum totalStakePerQuorum : Map QuorumNum Nat}

theorem checkIfStakeThresholdsMet_true {thresholds : List (QuorumNum × QuorumThresholdPercentage)} :
    checkIfStakeThresholdsMet signedStakePerQuorum totalStakePerQuorum thresholds = .ok true ↔
      ∀ threshold ∈ thresholds, ∃ signedStake totalStake, signedStakePerQuorum threshold.1 = some signedStake ∧
        totalStakePerQuorum threshold.1 = some totalStake ∧ totalStake * threshold.2.toNat ≤ signedStake * 100 := by
  induction thresholds with
  | nil => simp [checkIfStakeThresholdsMet]
  | cons threshold thresholds ih =>
    obtain ⟨quorumNum, percentage⟩ := threshold
    simp only [checkIfStakeThresholdsMet, bind_eq_ok, List.mem_cons, forall_eq_or_imp, ← ih]
    cases signed : signedStakePerQuorum quorumNum with
    | none => simp [stakeThresholdMet]
    | some signedStake =>
      cases total : totalStakePerQuorum quorumNum with
      | none => simp [stakeThresholdMet]
      | some totalStake =>
        by_cases met : totalStake * percentage.toNat ≤ signedStake * 100
        · simp [stakeThresholdMet, met]
        · simp [stakeThresholdMet, met, pure, Except.pure]

theorem checkIfFullStakeThresholdMet_true {signed : List (QuorumNum × Nat)} :
    checkIfFullStakeThresholdMet totalStakePerQuorum signed = .ok true ↔
      ∀ entry ∈ signed, totalStakePerQuorum entry.1 = some entry.2 := by
  induction signed with
  | nil => simp [checkIfFullStakeThresholdMet]
  | cons entry signed ih =>
    obtain ⟨quorumNum, signedStake⟩ := entry
    simp only [checkIfFullStakeThresholdMet, List.mem_cons, forall_eq_or_imp, ← ih]
    cases totalStakePerQuorum quorumNum with
    | none => simp
    | some totalStake =>
      by_cases full : signedStake = totalStake
      · simp [full]
      · simp [full, Ne.symm full]

theorem checkIfFullStakeThresholdMet_ok {signed : List (QuorumNum × Nat)}
    (totalled : ∀ entry ∈ signed, (totalStakePerQuorum entry.1).isSome) :
    ∃ met, checkIfFullStakeThresholdMet totalStakePerQuorum signed = .ok met := by
  induction signed with
  | nil => exact ⟨true, rfl⟩
  | cons entry signed ih =>
    obtain ⟨quorumNum, signedStake⟩ := entry
    obtain ⟨here, rest⟩ := List.forall_mem_cons.mp totalled
    obtain ⟨totalStake, total⟩ := Option.isSome_iff_exists.mp here
    simp only [checkIfFullStakeThresholdMet, total]
    split
    · exact ih rest
    · exact ⟨false, rfl⟩

end Stakes

variable {M Sig Key : Type} {interface : MessageInterface M} {scheme : SignatureScheme Sig Key}
  {info : ValidationInfo Key}

theorem verifySignature_ok {signedMessage : SignedMessage interface Sig} {operatorG2Pubkey : Key}
    (verified : verifySignature scheme info signedMessage = .ok operatorG2Pubkey) :
    (∃ operator, info.operatorsAvsStateDict.states signedMessage.operatorId = some operator ∧
      operator.G2Pubkey = some operatorG2Pubkey) ∧
    signedMessage.blsSignature = scheme.sign operatorG2Pubkey signedMessage.messageDigest := by
  unfold verifySignature at verified
  split at verified
  · cases verified
  next operator found =>
    split at verified
    · cases verified
    next key known =>
      split at verified
      · cases verified
      · cases verified
      next valid =>
        cases verified
        exact ⟨⟨operator, found, known⟩, scheme.verify_unique _ _ _ valid⟩

theorem getMessageBlsAggregationStatus_ok {aggregation : Aggregation Sig Key} {messageDigest : MessageDigest}
    {orders : Orders info} {status : MessageBlsAggregationStatus}
    (found : getMessageBlsAggregationStatus info aggregation messageDigest orders = .ok status) :
    ∃ digestAggregatedOperators, aggregation.aggregatedOperatorsDict messageDigest = some digestAggregatedOperators ∧
      let signed := aggregation.stakes digestAggregatedOperators.signersTotalStakePerQuorum
      status = .thresholdNotReached ∨
      status = .fullStakeThresholdMet ∧ (∀ quorumNum signedStake, signed quorumNum = some signedStake →
        info.totalStakePerQuorum quorumNum = some signedStake) ∨
      status = .thresholdReached ∧ ∀ quorumNum percentage,
        info.quorumThresholdPercentagesMap quorumNum = some percentage →
        ∃ signedStake totalStake, signed quorumNum = some signedStake ∧
          info.totalStakePerQuorum quorumNum = some totalStake ∧
          totalStake * percentage.toNat ≤ signedStake * 100 := by
  unfold getMessageBlsAggregationStatus at found
  cases entry : aggregation.aggregatedOperatorsDict messageDigest with
  | none => simp [entry] at found
  | some digestAggregatedOperators =>
    simp only [entry] at found
    obtain ⟨full, fullChecked, rest⟩ := bind_eq_ok.mp found
    refine ⟨digestAggregatedOperators, rfl, ?_⟩
    cases full with
    | true =>
      cases rest
      refine Or.inr (Or.inl ⟨rfl, fun quorumNum signedStake signed => ?_⟩)
      exact checkIfFullStakeThresholdMet_true.mp fullChecked (quorumNum, signedStake)
        ((orders.signed_visits _).mem_range.mpr signed)
    | false =>
      obtain ⟨met, metChecked, result⟩ := bind_eq_ok.mp rest
      cases met with
      | false =>
        cases result
        exact Or.inl rfl
      | true =>
        cases result
        refine Or.inr (Or.inr ⟨rfl, fun quorumNum percentage threshold => ?_⟩)
        exact checkIfStakeThresholdsMet_true.mp metChecked (quorumNum, percentage)
          (orders.thresholds_visits.mem_range.mpr threshold)

/-- A response without an error carries the digest's accumulated key and
signature and the keys of everybody else. -/
theorem getMessageBlsAggregationResponse_ok {aggregation : Aggregation Sig Key} {message : M}
    {messageDigest : MessageDigest} {forceFinished : Bool} {indices : Option CheckSignaturesIndices}
    {orders : Orders info} {response : SharedResponse M Sig Key}
    (built : getMessageBlsAggregationResponse info interface aggregation message messageDigest forceFinished indices
      orders = .ok response) :
    response.aggregation.messageDigest = messageDigest ∧
    (response.status ≠ .none → response.err = none) ∧
    (response.err = none → ∃ digestAggregatedOperators,
      aggregation.aggregatedOperatorsDict messageDigest = some digestAggregatedOperators ∧
      getMessageBlsAggregationStatus info aggregation messageDigest orders = .ok response.status ∧
      response.aggregation.signersApkG2 = some digestAggregatedOperators.signersApkG2 ∧
      response.aggregation.signersAggSigG1 = some digestAggregatedOperators.signersAggSigG1 ∧
      response.aggregation.nonSignersPubkeysG1 = nonSignersG1Pubkeys info
        (nonSignersOperatorIds info digestAggregatedOperators.signersOperatorIdsSet orders)) := by
  have failed : ∀ err, response = errorResponse info interface message messageDigest forceFinished err →
      response.aggregation.messageDigest = messageDigest ∧ (response.status ≠ .none → response.err = none) ∧
      response.err ≠ none := by
    rintro err rfl
    exact ⟨rfl, fun some => absurd rfl some, nofun⟩
  unfold getMessageBlsAggregationResponse at built
  split at built
  · obtain ⟨digest, status, err⟩ := failed _ (Except.ok.inj built).symm
    exact ⟨digest, status, fun none => absurd none err⟩
  next digestAggregatedOperators entry =>
    -- a crash gives no response, and the other faults give one with an error
    split at built
    · cases built
    · obtain ⟨digest, status, err⟩ := failed _ (Except.ok.inj built).symm
      exact ⟨digest, status, fun none => absurd none err⟩
    next status found =>
      split at built
      · obtain ⟨digest, status, err⟩ := failed _ (Except.ok.inj built).symm
        exact ⟨digest, status, fun none => absurd none err⟩
      next =>
        cases built
        exact ⟨rfl, fun _ => rfl, fun _ => ⟨digestAggregatedOperators, entry, found, rfl, rfl, rfl⟩⟩

theorem mem_nonSignersOperatorIds {signers : Finset OperatorId} {orders : Orders info} {operatorId : OperatorId} :
    operatorId ∈ nonSignersOperatorIds info signers orders ↔
      (info.operatorsAvsStateDict.states operatorId).isSome ∧ operatorId ∉ signers := by
  rw [nonSignersOperatorIds, List.mem_insertionSort, List.mem_filter, orders.operators_visits.keys,
    orders.operators_visits.all, decide_eq_true_iff]

/-! ## Aggregations only grow -/

/-- Signers and stakes are added, and a digest keeps its accumulator. -/
structure Grows (before after : Aggregation Sig Key) : Prop where
  entry : ∀ messageDigest entry, before.aggregatedOperatorsDict messageDigest = some entry →
    ∃ entry', after.aggregatedOperatorsDict messageDigest = some entry' ∧
      entry'.signersTotalStakePerQuorum = entry.signersTotalStakePerQuorum ∧
      entry.signersOperatorIdsSet ⊆ entry'.signersOperatorIdsSet
  stake : ∀ operatorId quorumNum stake, before.stakes operatorId quorumNum = some stake →
    ∃ stake', after.stakes operatorId quorumNum = some stake' ∧ stake ≤ stake'

theorem Grows.refl (aggregation : Aggregation Sig Key) : Grows aggregation aggregation :=
  ⟨fun _ entry known => ⟨entry, known, rfl, Finset.Subset.refl _⟩, fun _ _ stake found => ⟨stake, found, Nat.le_refl _⟩⟩

theorem addStakes_mono {accumulator stakePerQuorum : Map QuorumNum Nat} {quorumNum : QuorumNum} {stake : Nat}
    (found : accumulator quorumNum = some stake) :
    ∃ stake', addStakes accumulator stakePerQuorum quorumNum = some stake' ∧ stake ≤ stake' := by
  unfold addStakes
  cases stakePerQuorum quorumNum with
  | none => exact ⟨stake, found, Nat.le_refl _⟩
  | some added => exact ⟨stake + added, by simp [found], Nat.le_add_right _ _⟩

variable [AddCommGroup Sig] [AddCommGroup Key]

theorem recordSigner_grows (aggregation : Aggregation Sig Key) (digest : MessageDigest) (operatorId : OperatorId)
    (operatorG2Pubkey : Key) (blsSignature : Sig) :
    Grows aggregation (recordSigner aggregation digest operatorId operatorG2Pubkey blsSignature) := by
  constructor
  · intro messageDigest entry known
    unfold recordSigner
    by_cases same : messageDigest = digest
    · subst same
      simp only [known]
      exact ⟨_, Map.insert_self .., rfl, Finset.subset_insert ..⟩
    · cases aggregation.aggregatedOperatorsDict digest <;>
        exact ⟨entry, (Map.insert_of_ne _ _ same).trans known, rfl, Finset.Subset.refl _⟩
  · intro other quorumNum stake found
    unfold recordSigner
    cases aggregation.aggregatedOperatorsDict digest with
    | none => exact ⟨stake, found, Nat.le_refl _⟩
    | some entry =>
      by_cases accumulator : other = entry.signersTotalStakePerQuorum
      · subst accumulator
        simp only [Function.update_self]
        exact addStakes_mono found
      · simp only [Function.update_of_ne accumulator]
        exact ⟨stake, found, Nat.le_refl _⟩

theorem handleSignedMessageDigest_ok {aggregation after : Aggregation Sig Key}
    {signedMessage : SignedMessage interface Sig}
    (handled : handleSignedMessageDigest scheme info aggregation signedMessage = .ok after) :
    ∃ operatorG2Pubkey, verifySignature scheme info signedMessage = .ok operatorG2Pubkey ∧
      after = recordSigner aggregation signedMessage.messageDigest signedMessage.operatorId operatorG2Pubkey
        signedMessage.blsSignature := by
  obtain ⟨operatorG2Pubkey, verified, rest⟩ := bind_eq_ok.mp handled
  rw [signedMessage.digest_eq] at rest
  exact ⟨operatorG2Pubkey, verified, (Except.ok.inj rest).symm⟩

/-! ## Steps -/

/-- What a received message does to a round: nothing that counts, or its signer
is recorded, and then perhaps a response goes out. -/
structure Recorded (scheme : SignatureScheme Sig Key) (round : Round M Sig Key)
    (signedMessage : SignedMessage interface Sig) (indices : Option CheckSignaturesIndices) (orders : Orders info)
    (effect : Effect M Sig Key) : Prop where
  signer : ∃ operatorG2Pubkey, verifySignature scheme info signedMessage = .ok operatorG2Pubkey ∧
    effect.round.aggregation = recordSigner round.aggregation signedMessage.messageDigest signedMessage.operatorId
      operatorG2Pubkey signedMessage.blsSignature
  response : ∀ response ∈ effect.response, getMessageBlsAggregationResponse info interface effect.round.aggregation
    signedMessage.message signedMessage.messageDigest false indices orders = .ok response

theorem Recorded.silent {round : Round M Sig Key} {signedMessage : SignedMessage interface Sig}
    {indices : Option CheckSignaturesIndices} {orders : Orders info} {effect : Effect M Sig Key}
    (signer : ∃ operatorG2Pubkey, verifySignature scheme info signedMessage = .ok operatorG2Pubkey ∧
      effect.round.aggregation = recordSigner round.aggregation signedMessage.messageDigest signedMessage.operatorId
        operatorG2Pubkey signedMessage.blsSignature)
    (nothing : effect.response = none) : Recorded scheme round signedMessage indices orders effect := by
  refine ⟨signer, fun response sent => ?_⟩
  rw [nothing] at sent
  cases sent

def Unrecorded (round : Round M Sig Key) (effect : Effect M Sig Key) : Prop :=
  effect.round.aggregation = round.aggregation ∧ effect.response = none ∧
    (effect.round.phase = round.phase ∨ effect.round.phase = .crashed)

variable (scheme) in
theorem signedPreThreshold_cases (round : Round M Sig Key) (signedMessage : SignedMessage interface Sig)
    (indices : Option CheckSignaturesIndices) (orders : Orders info) :
    let effect := signedPreThreshold scheme info round signedMessage indices orders
    Unrecorded round effect ∨ Recorded scheme round signedMessage indices orders effect ∧
      ((effect.response = none ∧ (effect.round.phase = round.phase ∨ effect.round.phase = .crashed)) ∨
        ∃ response, effect.response = some response ∧ response.status ≠ .thresholdNotReached ∧
          effect.round.phase = phaseAfter interface signedMessage.message response.status) := by
  intro effect
  simp only [effect, signedPreThreshold]
  cases handled : handleSignedMessageDigest scheme info round.aggregation signedMessage with
  | error fault =>
    left
    cases fault with
    | crashed => exact ⟨rfl, rfl, Or.inr rfl⟩
    | failed err => exact ⟨rfl, rfl, Or.inl rfl⟩
  | ok aggregation =>
    right
    obtain ⟨operatorG2Pubkey, verified, rfl⟩ := handleSignedMessageDigest_ok handled
    simp only
    split
    · exact ⟨.silent ⟨operatorG2Pubkey, verified, rfl⟩ rfl, Or.inl ⟨rfl, Or.inr rfl⟩⟩
    next response built =>
      by_cases notReached : response.status = .thresholdNotReached
      · rw [if_pos notReached]
        exact ⟨.silent ⟨operatorG2Pubkey, verified, rfl⟩ rfl, Or.inl ⟨rfl, Or.inl rfl⟩⟩
      · rw [if_neg notReached]
        refine ⟨⟨⟨operatorG2Pubkey, verified, rfl⟩, ?_⟩, Or.inr ⟨response, rfl, notReached, rfl⟩⟩
        rintro other same
        cases same
        exact built

variable (scheme) in
theorem signedThresholdReached_cases (round : Round M Sig Key) (messageDigest : MessageDigest)
    (signedMessage : SignedMessage interface Sig) (indices : Option CheckSignaturesIndices) (orders : Orders info) :
    let effect := signedThresholdReached scheme info round messageDigest signedMessage indices orders
    (effect.round.phase = round.phase ∨ effect.round.phase = .finished ∨ effect.round.phase = .crashed) ∧
    (Unrecorded round effect ∨
      signedMessage.messageDigest = messageDigest ∧ Recorded scheme round signedMessage indices orders effect) := by
  intro effect
  simp only [effect, signedThresholdReached]
  by_cases other : signedMessage.messageDigest ≠ messageDigest
  · rw [if_pos other]
    exact ⟨Or.inl rfl, Or.inl ⟨rfl, rfl, Or.inl rfl⟩⟩
  rw [if_neg other]
  cases handled : handleSignedMessageDigest scheme info round.aggregation signedMessage with
  | error fault =>
    cases fault with
    | crashed => exact ⟨Or.inr (Or.inr rfl), Or.inl ⟨rfl, rfl, Or.inr rfl⟩⟩
    | failed err => exact ⟨Or.inl rfl, Or.inl ⟨rfl, rfl, Or.inl rfl⟩⟩
  | ok aggregation =>
    obtain ⟨operatorG2Pubkey, verified, rfl⟩ := handleSignedMessageDigest_ok handled
    simp only
    split
    · exact ⟨Or.inr (Or.inr rfl), Or.inr ⟨not_not.mp other, .silent ⟨operatorG2Pubkey, verified, rfl⟩ rfl⟩⟩
    next response built =>
      refine ⟨?_, Or.inr ⟨not_not.mp other, ⟨operatorG2Pubkey, verified, rfl⟩, ?_⟩⟩
      · simp only
        split
        · exact Or.inr (Or.inl rfl)
        · exact Or.inl rfl
      · rintro other same
        cases same
        exact built

section Step
variable {messageKey : MessageKey} {round : Round M Sig Key} {event : Event interface Sig info}
  {effect : Effect M Sig Key} (taken : round.step scheme info messageKey event = some effect)
include taken

/-- The aggregation changes only when a valid signature is recorded, in the
second loop only for the digest that reached the threshold. -/
theorem step_aggregation :
    effect.round.aggregation = round.aggregation ∨
    ∃ signedMessage indices orders operatorG2Pubkey, event = .signed signedMessage indices orders ∧
      (∀ message messageDigest, round.phase = .thresholdReached message messageDigest →
        signedMessage.messageDigest = messageDigest) ∧
      verifySignature scheme info signedMessage = .ok operatorG2Pubkey ∧
      effect.round.aggregation = recordSigner round.aggregation signedMessage.messageDigest signedMessage.operatorId
        operatorG2Pubkey signedMessage.blsSignature := by
  unfold Round.step at taken
  split at taken
  next signedMessage indices orders phase =>
    cases taken
    rcases signedPreThreshold_cases scheme round signedMessage indices orders with ⟨same, _⟩ | ⟨⟨signer, _⟩, _⟩
    · exact Or.inl same
    · obtain ⟨operatorG2Pubkey, verified, recorded⟩ := signer
      exact Or.inr ⟨signedMessage, indices, orders, operatorG2Pubkey, rfl, by simp [phase], verified, recorded⟩
  next =>
    cases taken
    exact Or.inl rfl
  next message messageDigest signedMessage indices orders phase =>
    cases taken
    rcases signedThresholdReached_cases scheme round messageDigest signedMessage indices orders with
      ⟨_, ⟨same, _⟩ | ⟨sameDigest, ⟨signer, _⟩⟩⟩
    · exact Or.inl same
    · obtain ⟨operatorG2Pubkey, verified, recorded⟩ := signer
      refine Or.inr ⟨signedMessage, indices, orders, operatorG2Pubkey, rfl, ?_, verified, recorded⟩
      rintro other otherDigest reached
      rw [phase] at reached
      cases reached
      exact sameDigest
  next message messageDigest indices orders phase =>
    cases taken
    left
    unfold timerThresholdReached
    split <;> rfl
  · cases taken
  · cases taken

theorem step_grows :
    Grows round.aggregation effect.round.aggregation := by
  rcases step_aggregation taken with same | ⟨_, _, _, _, _, _, _, recorded⟩
  · rw [same]
    exact Grows.refl _
  · rw [recorded]
    exact recordSigner_grows ..

/-- A response without an error is built from the aggregation after the step:
in the first loop for a digest that has got somewhere, in the second loop for
the digest that reached the threshold. -/
theorem step_response {response : SharedResponse M Sig Key} (sent : effect.response = some response)
    (noError : response.err = none) :
    ∃ message messageDigest forceFinished indices orders,
      getMessageBlsAggregationResponse info interface effect.round.aggregation message messageDigest forceFinished
        indices orders = .ok response ∧
      (response.status ≠ .thresholdNotReached ∨ ∃ other, round.phase = .thresholdReached other messageDigest) := by
  unfold Round.step at taken
  split at taken
  next signedMessage indices orders phase =>
    cases taken
    rcases signedPreThreshold_cases scheme round signedMessage indices orders with
      ⟨_, silent, _⟩ | ⟨⟨_, built⟩, ⟨silent, _⟩ | ⟨other, same, reached, _⟩⟩
    · rw [silent] at sent
      cases sent
    · rw [silent] at sent
      cases sent
    · cases same.symm.trans sent
      exact ⟨_, _, _, _, _, built response sent, Or.inl reached⟩
  next =>
    cases taken
    cases sent
    cases noError
  next message messageDigest signedMessage indices orders phase =>
    cases taken
    rcases signedThresholdReached_cases scheme round messageDigest signedMessage indices orders with
      ⟨_, ⟨_, silent, _⟩ | ⟨rfl, ⟨_, built⟩⟩⟩
    · rw [silent] at sent
      cases sent
    · exact ⟨_, _, _, _, _, built response sent, Or.inr ⟨message, phase⟩⟩
  next message messageDigest indices orders phase =>
    cases taken
    unfold timerThresholdReached at sent ⊢
    split at sent
    · cases sent
    next other built =>
      cases sent
      exact ⟨message, messageDigest, true, indices, orders, built, Or.inr ⟨message, phase⟩⟩
  · cases taken
  · cases taken

theorem step_phase {message : M} {messageDigest : MessageDigest}
    (reached : effect.round.phase = .thresholdReached message messageDigest) :
    round.phase = .thresholdReached message messageDigest ∨
    ∃ response, effect.response = some response ∧ response.err = none ∧
      response.aggregation.messageDigest = messageDigest := by
  unfold Round.step at taken
  split at taken
  next signedMessage indices orders phase =>
    cases taken
    rcases signedPreThreshold_cases scheme round signedMessage indices orders with
      ⟨_, _, same | crashed⟩ | ⟨⟨_, built⟩, ⟨_, same | crashed⟩ | ⟨response, sent, _, after⟩⟩
    · exact Or.inl (same.symm.trans reached)
    · rw [crashed] at reached
      cases reached
    · exact Or.inl (same.symm.trans reached)
    · rw [crashed] at reached
      cases reached
    · rw [reached] at after
      refine Or.inr ⟨response, sent, ?_⟩
      obtain ⟨digest, noError, _⟩ := getMessageBlsAggregationResponse_ok (built response sent)
      cases status : response.status with
      | thresholdReached =>
        rw [status, phaseAfter, signedMessage.digest_eq] at after
        cases after
        exact ⟨noError (by simp [status]), digest⟩
      | fullStakeThresholdMet => rw [status] at after; cases after
      | thresholdNotReached => rw [status] at after; cases after
      | none => rw [status] at after; cases after
  next =>
    cases taken
    cases reached
  next other otherDigest signedMessage indices orders phase =>
    cases taken
    rcases (signedThresholdReached_cases scheme round otherDigest signedMessage indices orders).1 with
      same | finished | crashed
    · exact Or.inl (same.symm.trans reached)
    · rw [finished] at reached
      cases reached
    · rw [crashed] at reached
      cases reached
  next other otherDigest indices orders phase =>
    cases taken
    unfold timerThresholdReached at reached
    split at reached <;> cases reached
  · cases taken
  · cases taken

end Step

end Sffl.Aggregator
