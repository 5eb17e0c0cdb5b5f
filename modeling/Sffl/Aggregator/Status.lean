import Sffl.Aggregator.Digests

/-! When the status of a digest is right.

The test for the full stake goes through the quorums that have signers, the test
for the thresholds through those that were requested. A quorum without a signer is
skipped by the first, and the second reads a stake there that does not exist.
-/

set_option autoImplicit false

namespace Sffl.Aggregator

open Sffl.Evm Sffl.Golang

section Definitions
variable (signedStakePerQuorum totalStakePerQuorum : Map QuorumNum Nat)
  (quorumThresholdPercentagesMap : Map QuorumNum QuorumThresholdPercentage)

/-- `getMessageBlsAggregationStatus` for the stakes of a digest, under any percentages. -/
def stakeStatus (signedOrder thresholdsOrder : List QuorumNum) : Except Fault MessageBlsAggregationStatus := do
  let fullStakeThresholdMet ← checkIfFullStakeThresholdMet totalStakePerQuorum (signedStakePerQuorum.range signedOrder)
  if fullStakeThresholdMet then return .fullStakeThresholdMet
  else do
    let stakeThresholdsMet ← checkIfStakeThresholdsMet signedStakePerQuorum totalStakePerQuorum
      (quorumThresholdPercentagesMap.range thresholdsOrder)
    return if stakeThresholdsMet then .thresholdReached else .thresholdNotReached

def FullySigned (quorumNumbers : List QuorumNum) : Prop :=
  ∀ quorumNum ∈ quorumNumbers, totalStakePerQuorum quorumNum = some ((signedStakePerQuorum quorumNum).getD 0)

def EnoughSigned (quorumNumbers : List QuorumNum) : Prop :=
  ∀ quorumNum ∈ quorumNumbers, ∃ totalStake percentage, totalStakePerQuorum quorumNum = some totalStake ∧
    quorumThresholdPercentagesMap quorumNum = some percentage ∧
    totalStake * percentage.toNat ≤ (signedStakePerQuorum quorumNum).getD 0 * 100

def StatusRight (quorumNumbers : List QuorumNum) (result : Except Fault MessageBlsAggregationStatus) : Prop :=
  ∃ status, result = .ok status ∧
    (status = .fullStakeThresholdMet → FullySigned signedStakePerQuorum totalStakePerQuorum quorumNumbers) ∧
    (status = .thresholdReached →
      EnoughSigned signedStakePerQuorum totalStakePerQuorum quorumThresholdPercentagesMap quorumNumbers) ∧
    (status = .fullStakeThresholdMet →
      EnoughSigned signedStakePerQuorum totalStakePerQuorum quorumThresholdPercentagesMap quorumNumbers)

/-- Every quorum has a signer, or the quorums that have are fully signed and nobody has stake in the others. -/
def EveryQuorumSigned (quorumNumbers : List QuorumNum) : Prop :=
  (∀ quorumNum ∈ quorumNumbers, (signedStakePerQuorum quorumNum).isSome) ∨
    (∀ quorumNum signedStake, signedStakePerQuorum quorumNum = some signedStake →
      totalStakePerQuorum quorumNum = some signedStake) ∧
    ∀ quorumNum ∈ quorumNumbers, signedStakePerQuorum quorumNum = none → totalStakePerQuorum quorumNum = some 0

end Definitions

/-- The percentages are those of the requested quorums, which all have a total stake, and operators have stake in no
other quorum. -/
structure Requested {Key : Type} (info : ValidationInfo Key)
    (quorumThresholdPercentagesMap : Map QuorumNum QuorumThresholdPercentage) : Prop where
  listed : ∀ quorumNum, (quorumThresholdPercentagesMap quorumNum).isSome ↔ quorumNum ∈ info.quorumNumbers
  bounded : ∀ quorumNum percentage, quorumThresholdPercentagesMap quorumNum = some percentage → percentage.toNat ≤ 100
  totalled : ∀ quorumNum ∈ info.quorumNumbers, (info.totalStakePerQuorum quorumNum).isSome
  joined : ∀ operatorId quorumNum, (fetchedStakes info operatorId quorumNum).isSome → quorumNum ∈ info.quorumNumbers

/-! ## The two loops -/

section Loops
variable {signedStakePerQuorum totalStakePerQuorum : Map QuorumNum Nat}

theorem checkIfStakeThresholdsMet_ok {thresholds : List (QuorumNum × QuorumThresholdPercentage)}
    (stakes : ∀ threshold ∈ thresholds,
      (signedStakePerQuorum threshold.1).isSome ∧ (totalStakePerQuorum threshold.1).isSome) :
    ∃ met, checkIfStakeThresholdsMet signedStakePerQuorum totalStakePerQuorum thresholds = .ok met := by
  induction thresholds with
  | nil => exact ⟨true, rfl⟩
  | cons threshold thresholds ih =>
    obtain ⟨quorumNum, percentage⟩ := threshold
    obtain ⟨⟨signedHere, totalHere⟩, rest⟩ := List.forall_mem_cons.mp stakes
    obtain ⟨signedStake, signed⟩ := Option.isSome_iff_exists.mp signedHere
    obtain ⟨totalStake, total⟩ := Option.isSome_iff_exists.mp totalHere
    simp only [checkIfStakeThresholdsMet, signed, total, stakeThresholdMet, ok_bind]
    split
    · exact ih rest
    · exact ⟨false, rfl⟩

theorem checkIfStakeThresholdsMet_crashes {quorumNum : QuorumNum} {percentage : QuorumThresholdPercentage}
    {rest : List (QuorumNum × QuorumThresholdPercentage)} (unsigned : signedStakePerQuorum quorumNum = none) :
    checkIfStakeThresholdsMet signedStakePerQuorum totalStakePerQuorum ((quorumNum, percentage) :: rest) =
      .error .crashed := by
  rw [checkIfStakeThresholdsMet, unsigned]
  rfl

end Loops

/-! ## The status of given stakes -/

section Stakes
variable {signedStakePerQuorum totalStakePerQuorum : Map QuorumNum Nat}
  {quorumThresholdPercentagesMap : Map QuorumNum QuorumThresholdPercentage} {quorumNumbers : List QuorumNum}
  (listed : ∀ quorumNum, (quorumThresholdPercentagesMap quorumNum).isSome ↔ quorumNum ∈ quorumNumbers)
  (bounded : ∀ quorumNum percentage, quorumThresholdPercentagesMap quorumNum = some percentage → percentage.toNat ≤ 100)
  (totalled : ∀ quorumNum ∈ quorumNumbers, (totalStakePerQuorum quorumNum).isSome)
  (joined : ∀ quorumNum, (signedStakePerQuorum quorumNum).isSome → quorumNum ∈ quorumNumbers)

include listed bounded in
theorem FullySigned.enough (fully : FullySigned signedStakePerQuorum totalStakePerQuorum quorumNumbers) :
    EnoughSigned signedStakePerQuorum totalStakePerQuorum quorumThresholdPercentagesMap quorumNumbers := by
  intro quorumNum member
  obtain ⟨percentage, found⟩ := Option.isSome_iff_exists.mp ((listed quorumNum).mpr member)
  exact ⟨_, percentage, fully quorumNum member, found, Nat.mul_le_mul_left _ (bounded quorumNum percentage found)⟩

theorem checkIfFullStakeThresholdMet_range {signedOrder : List QuorumNum}
    (visits : signedStakePerQuorum.Visits signedOrder) :
    checkIfFullStakeThresholdMet totalStakePerQuorum (signedStakePerQuorum.range signedOrder) = .ok true ↔
      ∀ quorumNum signedStake, signedStakePerQuorum quorumNum = some signedStake →
        totalStakePerQuorum quorumNum = some signedStake := by
  rw [checkIfFullStakeThresholdMet_true]
  constructor
  · intro all quorumNum signedStake signed
    exact all (quorumNum, signedStake) (visits.mem_range.mpr signed)
  · intro all entry member
    exact all entry.1 entry.2 (visits.mem_range.mp member)

include totalled joined in
theorem checkIfFullStakeThresholdMet_range_ok {signedOrder : List QuorumNum}
    (visits : signedStakePerQuorum.Visits signedOrder) :
    ∃ met, checkIfFullStakeThresholdMet totalStakePerQuorum (signedStakePerQuorum.range signedOrder) = .ok met := by
  apply checkIfFullStakeThresholdMet_ok
  intro entry member
  exact totalled entry.1 (joined entry.1 (Option.isSome_of_eq_some (visits.mem_range.mp member)))

include listed totalled in
theorem checkIfStakeThresholdsMet_range_ok {thresholdsOrder : List QuorumNum}
    (visits : quorumThresholdPercentagesMap.Visits thresholdsOrder)
    (signed : ∀ quorumNum ∈ quorumNumbers, (signedStakePerQuorum quorumNum).isSome) :
    ∃ met, checkIfStakeThresholdsMet signedStakePerQuorum totalStakePerQuorum
      (quorumThresholdPercentagesMap.range thresholdsOrder) = .ok met := by
  apply checkIfStakeThresholdsMet_ok
  intro threshold member
  have requested := (listed threshold.1).mp (Option.isSome_of_eq_some (visits.mem_range.mp member))
  exact ⟨signed threshold.1 requested, totalled threshold.1 requested⟩

include listed in
theorem enoughSigned_of_met {thresholdsOrder : List QuorumNum}
    (visits : quorumThresholdPercentagesMap.Visits thresholdsOrder)
    (met : checkIfStakeThresholdsMet signedStakePerQuorum totalStakePerQuorum
      (quorumThresholdPercentagesMap.range thresholdsOrder) = .ok true) :
    EnoughSigned signedStakePerQuorum totalStakePerQuorum quorumThresholdPercentagesMap quorumNumbers := by
  intro quorumNum member
  obtain ⟨percentage, found⟩ := Option.isSome_iff_exists.mp ((listed quorumNum).mpr member)
  obtain ⟨signedStake, totalStake, signed, total, enough⟩ :=
    checkIfStakeThresholdsMet_true.mp met (quorumNum, percentage) (visits.mem_range.mpr found)
  exact ⟨totalStake, percentage, total, found, by rwa [signed]⟩

theorem stakeStatus_full {signedOrder thresholdsOrder : List QuorumNum}
    (visits : signedStakePerQuorum.Visits signedOrder)
    (equal : ∀ quorumNum signedStake, signedStakePerQuorum quorumNum = some signedStake →
      totalStakePerQuorum quorumNum = some signedStake) :
    stakeStatus signedStakePerQuorum totalStakePerQuorum quorumThresholdPercentagesMap signedOrder thresholdsOrder =
      .ok .fullStakeThresholdMet := by
  rw [stakeStatus, (checkIfFullStakeThresholdMet_range visits).mpr equal]
  rfl

theorem stakeStatus_crashes {signedOrder thresholdsOrder : List QuorumNum} {quorumNum : QuorumNum}
    {percentage : QuorumThresholdPercentage} {rest : List (QuorumNum × QuorumThresholdPercentage)}
    (checked : checkIfFullStakeThresholdMet totalStakePerQuorum (signedStakePerQuorum.range signedOrder) = .ok false)
    (first : quorumThresholdPercentagesMap.range thresholdsOrder = (quorumNum, percentage) :: rest)
    (unsigned : signedStakePerQuorum quorumNum = none) :
    stakeStatus signedStakePerQuorum totalStakePerQuorum quorumThresholdPercentagesMap signedOrder thresholdsOrder =
      .error .crashed := by
  rw [stakeStatus, checked, first, checkIfStakeThresholdsMet_crashes unsigned]
  rfl

include listed bounded totalled joined in
theorem statusRight_of_everyQuorumSigned
    (every : EveryQuorumSigned signedStakePerQuorum totalStakePerQuorum quorumNumbers)
    {signedOrder thresholdsOrder : List QuorumNum} (visits : signedStakePerQuorum.Visits signedOrder)
    (visits' : quorumThresholdPercentagesMap.Visits thresholdsOrder) :
    StatusRight signedStakePerQuorum totalStakePerQuorum quorumThresholdPercentagesMap quorumNumbers
      (stakeStatus signedStakePerQuorum totalStakePerQuorum quorumThresholdPercentagesMap signedOrder
        thresholdsOrder) := by
  obtain ⟨full, checked⟩ := checkIfFullStakeThresholdMet_range_ok totalled joined visits
  simp only [stakeStatus, checked, ok_bind]
  cases full with
  | true =>
    have equal := (checkIfFullStakeThresholdMet_range visits).mp checked
    have fully : FullySigned signedStakePerQuorum totalStakePerQuorum quorumNumbers := by
      intro quorumNum member
      cases signed : signedStakePerQuorum quorumNum with
      | some signedStake => exact equal quorumNum signedStake signed
      | none =>
        rcases every with present | ⟨_, empty⟩
        · have here := present quorumNum member
          simp [signed] at here
        · exact empty quorumNum member signed
    exact ⟨.fullStakeThresholdMet, rfl, fun _ => fully, by simp, fun _ => fully.enough listed bounded⟩
  | false =>
    rcases every with present | ⟨equal, _⟩
    · obtain ⟨met, metChecked⟩ := checkIfStakeThresholdsMet_range_ok listed totalled visits' present
      simp only [metChecked, ok_bind]
      cases met with
      | true =>
        exact ⟨.thresholdReached, rfl, by simp, fun _ => enoughSigned_of_met listed visits' metChecked, by simp⟩
      | false => exact ⟨.thresholdNotReached, rfl, by simp, by simp, by simp⟩
    · have met := (checkIfFullStakeThresholdMet_range visits).mpr equal
      simp [met] at checked

theorem exists_visits_first {percentage : QuorumThresholdPercentage} {quorumNum : QuorumNum}
    (found : quorumThresholdPercentagesMap quorumNum = some percentage) :
    ∃ order rest, quorumThresholdPercentagesMap.Visits order ∧
      quorumThresholdPercentagesMap.range order = (quorumNum, percentage) :: rest := by
  obtain ⟨order, visits⟩ := Map.Visits.of_fintype quorumThresholdPercentagesMap
  have member := visits.mem_range.mpr (show _ = some (quorumNum, percentage).2 from found)
  obtain ⟨visits', same⟩ := visits.rearrange (List.perm_cons_erase member).symm
  exact ⟨_, _, visits', same⟩

include listed bounded totalled joined in
/-- The status is right for all orders of the loops exactly if every quorum is signed. If one is not, then either the
full stake is wrong or there is an order that comes to the missing stake first. -/
theorem stakeStatus_right_iff :
    (∀ signedOrder thresholdsOrder, signedStakePerQuorum.Visits signedOrder →
      quorumThresholdPercentagesMap.Visits thresholdsOrder →
      StatusRight signedStakePerQuorum totalStakePerQuorum quorumThresholdPercentagesMap quorumNumbers
        (stakeStatus signedStakePerQuorum totalStakePerQuorum quorumThresholdPercentagesMap signedOrder
          thresholdsOrder)) ↔
      EveryQuorumSigned signedStakePerQuorum totalStakePerQuorum quorumNumbers := by
  constructor
  · intro right
    by_cases present : ∀ quorumNum ∈ quorumNumbers, (signedStakePerQuorum quorumNum).isSome
    · exact .inl present
    right
    obtain ⟨quorumNum, unsigned⟩ := not_forall.mp present
    obtain ⟨member, missing⟩ := Classical.not_imp.mp unsigned
    have unsigned : signedStakePerQuorum quorumNum = none := by simpa using missing
    obtain ⟨percentage, found⟩ := Option.isSome_iff_exists.mp ((listed quorumNum).mpr member)
    -- the map may be visited from the unsigned quorum on
    obtain ⟨thresholdsOrder, rest, visits', first⟩ := exists_visits_first found
    obtain ⟨signedOrder, visits⟩ := Map.Visits.of_fintype signedStakePerQuorum
    obtain ⟨status, computed, fully, _⟩ := right signedOrder thresholdsOrder visits visits'
    obtain ⟨full, checked⟩ := checkIfFullStakeThresholdMet_range_ok totalled joined visits
    cases full with
    | false =>
      rw [stakeStatus_crashes checked first unsigned] at computed
      cases computed
    | true =>
      have equal := (checkIfFullStakeThresholdMet_range visits).mp checked
      rw [stakeStatus_full visits equal] at computed
      cases computed
      refine ⟨equal, ?_⟩
      intro other member' none
      rw [fully rfl other member', none, Option.getD_none]
  · intro every signedOrder thresholdsOrder visits visits'
    exact statusRight_of_everyQuorumSigned listed bounded totalled joined every visits visits'

end Stakes

/-! ## The status of a digest -/

section Digests
variable {M Sig Key : Type} {interface : MessageInterface M} [AddCommGroup Sig] [AddCommGroup Key]
  {scheme : SignatureScheme Sig Key} {info : ValidationInfo Key} {messages : List (SignedMessage interface Sig)}
  {aggregation : Aggregation Sig Key} {quorumThresholdPercentagesMap : Map QuorumNum QuorumThresholdPercentage}
  {quorumNumbers : List QuorumNum} {messageDigest : MessageDigest} {entry : AggregatedOperators Sig Key}

theorem isSome_of_addStakes {accumulator stakePerQuorum : Map QuorumNum Nat} {quorumNum : QuorumNum}
    (present : (addStakes accumulator stakePerQuorum quorumNum).isSome) :
    (accumulator quorumNum).isSome ∨ (stakePerQuorum quorumNum).isSome := by
  unfold addStakes at present
  cases added : stakePerQuorum quorumNum with
  | none => exact .inl (by simpa [added] using present)
  | some stake => exact .inr rfl

theorem joined_record {operatorId : OperatorId} {operatorG2Pubkey : Key} {blsSignature : Sig}
    (joined : ∀ operatorId quorumNum, (aggregation.stakes operatorId quorumNum).isSome → quorumNum ∈ quorumNumbers)
    (other : OperatorId) (quorumNum : QuorumNum)
    (present : ((recordSigner aggregation messageDigest operatorId operatorG2Pubkey blsSignature).stakes other
      quorumNum).isSome) : quorumNum ∈ quorumNumbers := by
  unfold recordSigner at present
  cases known : aggregation.aggregatedOperatorsDict messageDigest with
  | none =>
    simp only [known] at present
    exact joined other quorumNum present
  | some entry =>
    simp only [known] at present
    by_cases same : other = entry.signersTotalStakePerQuorum
    · subst same
      rw [Function.update_self] at present
      rcases isSome_of_addStakes present with before | added
      · exact joined _ quorumNum before
      · exact joined _ quorumNum added
    · rw [Function.update_of_ne same] at present
      exact joined other quorumNum present

theorem joined_of_handled (requested : Requested info quorumThresholdPercentagesMap)
    (handled : handleSignedMessages info scheme messages = .ok aggregation) :
    ∀ operatorId quorumNum, (aggregation.stakes operatorId quorumNum).isSome → quorumNum ∈ info.quorumNumbers := by
  induction messages using List.reverseRecOn generalizing aggregation with
  | nil =>
    cases handled
    exact requested.joined
  | append_singleton messages signedMessage ih =>
    rw [handleSignedMessages_concat] at handled
    obtain ⟨before, earlier, last⟩ := bind_eq_ok.mp handled
    obtain ⟨operatorG2Pubkey, _, rfl⟩ := handleSignedMessageDigest_ok last
    exact joined_record (ih earlier)

omit [AddCommGroup Sig] [AddCommGroup Key] in
theorem getMessageBlsAggregationStatus_eq (known : aggregation.aggregatedOperatorsDict messageDigest = some entry)
    (orders : Orders info) :
    getMessageBlsAggregationStatus info aggregation messageDigest orders =
      stakeStatus (aggregation.stakes entry.signersTotalStakePerQuorum) info.totalStakePerQuorum
        info.quorumThresholdPercentagesMap (orders.signed (aggregation.stakes entry.signersTotalStakePerQuorum))
        orders.thresholds := by
  simp only [getMessageBlsAggregationStatus, known]
  rfl

/-- However its signers came in, the status of a digest is right for all orders of the loops exactly if every requested
quorum is signed. -/
theorem status_right_iff (requested : Requested info quorumThresholdPercentagesMap)
    (handled : handleSignedMessages info scheme messages = .ok aggregation)
    (known : aggregation.aggregatedOperatorsDict messageDigest = some entry) :
    (∀ orders : Orders info, getMessageBlsAggregationStatus info aggregation messageDigest orders =
      stakeStatus (aggregation.stakes entry.signersTotalStakePerQuorum) info.totalStakePerQuorum
        info.quorumThresholdPercentagesMap (orders.signed (aggregation.stakes entry.signersTotalStakePerQuorum))
        orders.thresholds) ∧
    ((∀ signedOrder thresholdsOrder,
      (aggregation.stakes entry.signersTotalStakePerQuorum).Visits signedOrder →
      quorumThresholdPercentagesMap.Visits thresholdsOrder →
      StatusRight (aggregation.stakes entry.signersTotalStakePerQuorum) info.totalStakePerQuorum
        quorumThresholdPercentagesMap info.quorumNumbers
        (stakeStatus (aggregation.stakes entry.signersTotalStakePerQuorum) info.totalStakePerQuorum
          quorumThresholdPercentagesMap signedOrder thresholdsOrder)) ↔
      EveryQuorumSigned (aggregation.stakes entry.signersTotalStakePerQuorum) info.totalStakePerQuorum
        info.quorumNumbers) := by
  constructor
  · exact getMessageBlsAggregationStatus_eq known
  · apply stakeStatus_right_iff requested.listed requested.bounded requested.totalled
    exact joined_of_handled requested handled entry.signersTotalStakePerQuorum

end Digests

/-! ## Two quorums -/

def splitMembers : List (ZMod 7 × QuorumNum × Nat) := [(1, 0, 40), ((2 : Nat), 1, 60), ((3 : Nat), 1, 40)]

def splitStates : Map OperatorId (OperatorAvsState (ZMod 7)) := fun operatorId =>
  (splitMembers.find? fun member => multipleHash member.1 = operatorId).map fun member => {
    G1Pubkey := generatorMultiple member.1
    G2Pubkey := some member.1
    stakePerQuorum := Map.empty.insert member.2.1 member.2.2 }

theorem splitStates_pubkeys_distinct : ∀ operatorId other state state', splitStates operatorId = some state →
    splitStates other = some state' → state.G1Pubkey = state'.G1Pubkey → operatorId = other := by
  intro operatorId other state state' found found' same
  obtain ⟨member, place, rfl⟩ := Option.map_eq_some_iff.mp found
  obtain ⟨member', place', rfl⟩ := Option.map_eq_some_iff.mp found'
  have injective : ∀ first second : ZMod 7, generatorMultiple first = generatorMultiple second → first = second := by
    decide
  have here : multipleHash member.1 = operatorId := by simpa using List.find?_some place
  have there : multipleHash member'.1 = other := by simpa using List.find?_some place'
  rw [← here, ← there, injective _ _ same]

def splitPercentages : Map QuorumNum QuorumThresholdPercentage := (Map.empty.insert 0 66).insert 1 66

theorem splitPercentages_valid : ∀ quorumNum percentage, splitPercentages quorumNum = some percentage →
    ValidPercentage percentage := by
  intro quorumNum percentage found
  by_cases second : quorumNum = 1
  · subst second
    cases found
    decide
  · rw [splitPercentages, Map.insert_of_ne _ _ second] at found
    rw [(Map.insert_empty_eq_some.mp found).2]
    decide

def splitInfo : ValidationInfo (ZMod 7) where
  operatorsAvsStateDict := ⟨splitStates, splitStates_pubkeys_distinct⟩
  totalStakePerQuorum := (Map.empty.insert 0 40).insert 1 100
  quorumApksG1 := [some (generatorMultiple 1), some (generatorMultiple (5 : Nat))]
  quorumThresholdPercentagesMap := splitPercentages
  quorumNumbers := [0, 1]
  ethBlockNumber := 1
  percentages_valid := splitPercentages_valid

theorem splitRequested : Requested splitInfo splitPercentages where
  listed quorumNum := by
    by_cases first : quorumNum = 0
    · subst first
      decide
    · by_cases second : quorumNum = 1
      · subst second
        decide
      · rw [splitPercentages, Map.insert_of_ne _ _ second, Map.insert_of_ne _ _ first]
        refine iff_of_false (by simp [Map.empty]) fun member => ?_
        rcases List.mem_cons.mp member with here | there
        · exact first here
        · exact second (List.mem_singleton.mp there)
  bounded quorumNum percentage found := (splitPercentages_valid quorumNum percentage found).2
  totalled := by decide
  joined operatorId quorumNum present := by
    obtain ⟨stake, found⟩ := Option.isSome_iff_exists.mp present
    unfold fetchedStakes at found
    cases place : splitInfo.operatorsAvsStateDict.states operatorId with
    | none => simp [place, Map.empty] at found
    | some state =>
      obtain ⟨member, listed, rfl⟩ := Option.map_eq_some_iff.mp place
      simp only [place, Option.map_some, Option.getD_some] at found
      obtain ⟨rfl, _⟩ := Map.insert_empty_eq_some.mp found
      have requested : ∀ member ∈ splitMembers, member.2.1 ∈ splitInfo.quorumNumbers := by decide
      exact requested member (List.mem_of_find?_eq_some listed)

def splitSigned (signers : List (ZMod 7)) : List (SignedMessage plainMessages (ZMod 7)) :=
  signers.map (signsDigest · 5)

theorem status_right_iff_split :
    ∃ aggregation entry, handleSignedMessages splitInfo smallScheme (splitSigned [1, 2]) = .ok aggregation ∧
      aggregation.aggregatedOperatorsDict 5 = some entry ∧
      EveryQuorumSigned (aggregation.stakes entry.signersTotalStakePerQuorum) splitInfo.totalStakePerQuorum
        splitInfo.quorumNumbers ∧
      ∀ signedOrder thresholdsOrder, (aggregation.stakes entry.signersTotalStakePerQuorum).Visits signedOrder →
        splitPercentages.Visits thresholdsOrder →
        StatusRight (aggregation.stakes entry.signersTotalStakePerQuorum) splitInfo.totalStakePerQuorum
          splitPercentages splitInfo.quorumNumbers
          (stakeStatus (aggregation.stakes entry.signersTotalStakePerQuorum) splitInfo.totalStakePerQuorum
            splitPercentages signedOrder thresholdsOrder) := by
  have signs : ∃ aggregation entry, handleSignedMessages splitInfo smallScheme (splitSigned [1, 2]) = .ok aggregation ∧
      aggregation.aggregatedOperatorsDict 5 = some entry ∧
      ∀ quorumNum ∈ splitInfo.quorumNumbers,
        (aggregation.stakes entry.signersTotalStakePerQuorum quorumNum).isSome :=
    ⟨_, _, rfl, rfl, by decide⟩
  obtain ⟨aggregation, entry, handled, known, present⟩ := signs
  have right := (status_right_iff splitRequested handled known).2
  exact ⟨aggregation, entry, handled, known, .inl present, right.mpr (.inl present)⟩

/-- When the operator of the first quorum signs, the full stake is met although nobody of the second quorum has signed.
When one of the second quorum signs instead, a loop that visits the first quorum first crashes. -/
theorem split_quorums_misjudged :
    (∃ aggregation entry, handleSignedMessages splitInfo smallScheme (splitSigned [1]) = .ok aggregation ∧
      aggregation.aggregatedOperatorsDict 5 = some entry ∧
      aggregation.stakes entry.signersTotalStakePerQuorum 1 = none ∧
      splitInfo.totalStakePerQuorum 1 = some 100 ∧
      ∀ orders : Orders splitInfo,
        getMessageBlsAggregationStatus splitInfo aggregation 5 orders = .ok .fullStakeThresholdMet) ∧
    ∃ aggregation entry, handleSignedMessages splitInfo smallScheme (splitSigned [2]) = .ok aggregation ∧
      aggregation.aggregatedOperatorsDict 5 = some entry ∧
      ∃ orders : Orders splitInfo,
        getMessageBlsAggregationStatus splitInfo aggregation 5 orders = .error .crashed := by
  constructor
  · refine ⟨_, _, rfl, rfl, rfl, rfl, ?_⟩
    intro orders
    rw [getMessageBlsAggregationStatus_eq rfl]
    apply stakeStatus_full (orders.signed_visits _)
    intro quorumNum signedStake signed
    obtain ⟨rfl, rfl⟩ := Map.insert_empty_eq_some.mp (signed : (Map.empty.insert 0 40 : Map QuorumNum Nat) _ = _)
    rfl
  · have signs : ∃ aggregation entry, handleSignedMessages splitInfo smallScheme (splitSigned [2]) = .ok aggregation ∧
        aggregation.aggregatedOperatorsDict 5 = some entry ∧
        aggregation.stakes entry.signersTotalStakePerQuorum = Map.empty.insert 1 60 := ⟨_, _, rfl, rfl, rfl⟩
    obtain ⟨aggregation, entry, handled, known, stakes⟩ := signs
    obtain ⟨order, rest, visits, first⟩ := exists_visits_first (rfl : splitPercentages 0 = some 66)
    obtain ⟨operators, operatorsVisits⟩ := Map.Visits.of_fintype splitInfo.operatorsAvsStateDict.states
    choose signed signedVisits using fun map : Map QuorumNum Nat => Map.Visits.of_fintype map
    refine ⟨aggregation, entry, handled, known, ⟨operators, order, signed, operatorsVisits, visits, signedVisits⟩, ?_⟩
    obtain ⟨met, checked⟩ := checkIfFullStakeThresholdMet_range_ok splitRequested.totalled
      (joined_of_handled splitRequested handled entry.signersTotalStakePerQuorum) (signedVisits _)
    rw [getMessageBlsAggregationStatus_eq known]
    refine stakeStatus_crashes ?_ first (stakes ▸ rfl)
    cases met with
    | false => exact checked
    | true =>
      have full := (checkIfFullStakeThresholdMet_range (signedVisits _)).mp checked 1 60 (stakes ▸ rfl)
      exact absurd full (by decide)

end Sffl.Aggregator
