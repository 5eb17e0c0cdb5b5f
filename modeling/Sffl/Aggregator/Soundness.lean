import Mathlib.Algebra.BigOperators.Group.Finset.Basic
import Mathlib.Algebra.Order.BigOperators.Group.Finset
import Sffl.Aggregator.RoundSteps

/-! Quorum soundness of an aggregation round.

A digest's accumulators stay in step with its set of signers as long as no
signer is counted twice and no stake map is read or handed over after another
digest has added to it. The first signer's map must also cover the quorums that
have a threshold, since the check for full stake only looks at the quorums that
the map has.
-/

set_option autoImplicit false

namespace Sffl.Aggregator

open Sffl.Evm Sffl.Golang Sffl.Semantics

variable {M Sig Key : Type} [AddCommGroup Sig] [AddCommGroup Key] {interface : MessageInterface M}

section Definitions
variable (scheme : SignatureScheme Sig Key) (info : ValidationInfo Key)

def g2Key (operatorId : OperatorId) : Key :=
  ((info.operatorsAvsStateDict.states operatorId).bind OperatorAvsState.G2Pubkey).getD 0

def stakeOf (operatorId : OperatorId) (quorumNum : QuorumNum) : Nat :=
  (((info.operatorsAvsStateDict.states operatorId).bind fun operator => operator.stakePerQuorum quorumNum)).getD 0

def Received (history : List (Event interface Sig info)) (messageDigest : MessageDigest) (operatorId : OperatorId) :
    Prop :=
  ∃ signedMessage indices orders, Event.signed signedMessage indices orders ∈ history ∧
    signedMessage.messageDigest = messageDigest ∧ signedMessage.operatorId = operatorId ∧
    ∃ operatorG2Pubkey, verifySignature scheme info signedMessage = .ok operatorG2Pubkey

open scoped Classical in
noncomputable def validSigners (history : List (Event interface Sig info)) (messageDigest : MessageDigest) :
    Finset OperatorId :=
  Finset.univ.filter (Received scheme info history messageDigest)

omit [AddCommGroup Sig] [AddCommGroup Key] in
@[simp] theorem mem_validSigners {history : List (Event interface Sig info)} {messageDigest : MessageDigest}
    {operatorId : OperatorId} : operatorId ∈ validSigners scheme info history messageDigest ↔
      Received scheme info history messageDigest operatorId := by
  simp [validSigners]

open scoped Classical in
noncomputable def unlisted (pubkeys : List G1Point) : Finset OperatorId :=
  Finset.univ.filter fun operatorId =>
    ∃ operator, info.operatorsAvsStateDict.states operatorId = some operator ∧ operator.G1Pubkey ∉ pubkeys

/-- The signers hold the required part of the total in every quorum with a threshold. -/
def ThresholdsMet (signers : Finset OperatorId) : Prop :=
  ∀ quorumNum percentage, info.quorumThresholdPercentagesMap quorumNum = some percentage →
    ∃ totalStake, info.totalStakePerQuorum quorumNum = some totalStake ∧
      totalStake * percentage.toNat ≤ (∑ operatorId ∈ signers, stakeOf info operatorId quorumNum) * 100

/-- The condition under which recording a signer keeps the accumulators right. -/
structure Fresh (aggregation : Aggregation Sig Key) (messageDigest : MessageDigest) (operatorId : OperatorId) :
    Prop where
  /-- The operator has not been counted for this digest. -/
  uncounted : ∀ entry, aggregation.aggregatedOperatorsDict messageDigest = some entry →
    operatorId ∉ entry.signersOperatorIdsSet
  /-- If the operator's map is another digest's accumulator, then it still holds the operator's own stakes only, and
  this digest has an accumulator of its own. -/
  unshared : ∀ other entry, other ≠ messageDigest → aggregation.aggregatedOperatorsDict other = some entry →
    entry.signersTotalStakePerQuorum = operatorId →
    (aggregation.aggregatedOperatorsDict messageDigest).isSome ∧ entry.signersOperatorIdsSet = {operatorId}
  /-- A first signer has a stake entry in every quorum with a threshold. -/
  complete : aggregation.aggregatedOperatorsDict messageDigest = none →
    ∀ quorumNum, (info.quorumThresholdPercentagesMap quorumNum).isSome →
      (aggregation.stakes operatorId quorumNum).isSome

def CountsFresh (round : Round M Sig Key) (event : Event interface Sig info) : Prop :=
  ∀ signedMessage indices orders operatorG2Pubkey, event = .signed signedMessage indices orders →
    (∀ message messageDigest, round.phase = .thresholdReached message messageDigest →
      signedMessage.messageDigest = messageDigest) →
    verifySignature scheme info signedMessage = .ok operatorG2Pubkey →
    Fresh info round.aggregation signedMessage.messageDigest signedMessage.operatorId

def LeavesDigest (messageDigest : MessageDigest) (_ : Round M Sig Key) (event : Event interface Sig info) : Prop :=
  ∀ signedMessage indices orders operatorG2Pubkey, event = .signed signedMessage indices orders →
    verifySignature scheme info signedMessage = .ok operatorG2Pubkey → signedMessage.messageDigest ≠ messageDigest

def Located (aggregation : Aggregation Sig Key) : Prop :=
  ∀ messageDigest entry, aggregation.aggregatedOperatorsDict messageDigest = some entry →
    entry.signersApkG2 = ⟨messageDigest⟩ ∧ entry.signersAggSigG1 = ⟨messageDigest⟩

structure PointsKept (messageDigest : MessageDigest) (before after : Points Sig Key) : Prop where
  apk : after.apksG2 messageDigest = before.apksG2 messageDigest
  signature : after.aggSigsG1 messageDigest = before.aggSigsG1 messageDigest

structure Tallied (history : List (Event interface Sig info)) (stakes : OperatorId → Map QuorumNum Nat)
    (points : Points Sig Key) (messageDigest : MessageDigest) (entry : AggregatedOperators Sig Key) : Prop where
  first : entry.signersTotalStakePerQuorum ∈ entry.signersOperatorIdsSet
  received : ∀ operatorId ∈ entry.signersOperatorIdsSet, Received scheme info history messageDigest operatorId
  apk : points.apksG2 messageDigest = ∑ operatorId ∈ entry.signersOperatorIdsSet, g2Key info operatorId
  signature : points.aggSigsG1 messageDigest =
    ∑ operatorId ∈ entry.signersOperatorIdsSet, scheme.sign (g2Key info operatorId) messageDigest
  stake : ∀ quorumNum, (stakes entry.signersTotalStakePerQuorum quorumNum).getD 0 =
    ∑ operatorId ∈ entry.signersOperatorIdsSet, stakeOf info operatorId quorumNum
  complete : ∀ quorumNum, (info.quorumThresholdPercentagesMap quorumNum).isSome →
    (stakes entry.signersTotalStakePerQuorum quorumNum).isSome

structure Accumulated (history : List (Event interface Sig info)) (aggregation : Aggregation Sig Key) : Prop where
  located : Located aggregation
  tallied : ∀ messageDigest entry, aggregation.aggregatedOperatorsDict messageDigest = some entry →
    Tallied scheme info history aggregation.stakes aggregation.points messageDigest entry
  separate : ∀ messageDigest other entry entry',
    aggregation.aggregatedOperatorsDict messageDigest = some entry →
    aggregation.aggregatedOperatorsDict other = some entry' →
    entry.signersTotalStakePerQuorum = entry'.signersTotalStakePerQuorum → messageDigest = other
  untouched : ∀ operatorId, (∀ messageDigest entry, aggregation.aggregatedOperatorsDict messageDigest = some entry →
    entry.signersTotalStakePerQuorum ≠ operatorId) →
    ∀ quorumNum, (aggregation.stakes operatorId quorumNum).getD 0 = stakeOf info operatorId quorumNum

end Definitions

/-! ## The digests' points -/

section Points
variable {aggregation : Aggregation Sig Key}

theorem recordSigner_located (located : Located aggregation) (digest : MessageDigest) (operatorId : OperatorId)
    (operatorG2Pubkey : Key) (blsSignature : Sig) :
    Located (recordSigner aggregation digest operatorId operatorG2Pubkey blsSignature) := by
  intro messageDigest entry known
  unfold recordSigner at known
  by_cases same : messageDigest = digest
  · subst same
    cases before : aggregation.aggregatedOperatorsDict messageDigest with
    | none =>
      simp only [before, Map.insert_self, Option.some.injEq] at known
      subst known
      exact ⟨rfl, rfl⟩
    | some entry' =>
      simp only [before, Map.insert_self, Option.some.injEq] at known
      subst known
      exact located messageDigest entry' before
  · cases before : aggregation.aggregatedOperatorsDict digest <;>
      simp only [before, Map.insert_of_ne _ _ same] at known <;> exact located messageDigest entry known

omit [AddCommGroup Sig] [AddCommGroup Key] in
theorem Points.write_kept (points : Points Sig Key) {messageDigest digest : MessageDigest}
    (different : messageDigest ≠ digest) (key : Key) (signature : Sig) :
    PointsKept messageDigest points (points.write ⟨digest⟩ ⟨digest⟩ key signature) :=
  ⟨Function.update_of_ne different .., Function.update_of_ne different ..⟩

theorem recordSigner_points (located : Located aggregation) {messageDigest digest : MessageDigest}
    (different : messageDigest ≠ digest) (operatorId : OperatorId) (operatorG2Pubkey : Key) (blsSignature : Sig) :
    PointsKept messageDigest aggregation.points
      (recordSigner aggregation digest operatorId operatorG2Pubkey blsSignature).points := by
  unfold recordSigner
  cases known : aggregation.aggregatedOperatorsDict digest with
  | none => exact aggregation.points.write_kept different _ _
  | some entry =>
    obtain ⟨apk, aggSig⟩ := located digest entry known
    simp only [apk, aggSig]
    exact aggregation.points.write_kept different _ _

variable {scheme : SignatureScheme Sig Key} {info : ValidationInfo Key} {messageKey : MessageKey}
  {round after : Round M Sig Key} {later : List (Event interface Sig info)} {messageDigest : MessageDigest}

/-- What is read does not change until the digest's next signature. -/
theorem Located.kept_until (located : Located round.aggregation)
    (run : ((rounds scheme info interface messageKey).startingAt round).GuardedRun
      (LeavesDigest scheme info messageDigest) later after) :
    Located after.aggregation ∧ PointsKept messageDigest round.aggregation.points after.aggregation.points := by
  refine run.invariant (fun _ state => Located state.aggregation ∧
    PointsKept messageDigest round.aggregation.points state.aggregation.points) (fun state initial => ?_)
    fun _ state event _ holds leaves one => ?_
  · cases initial
    exact ⟨located, rfl, rfl⟩
  · obtain ⟨effect, taken, rfl⟩ := one
    obtain ⟨located, kept⟩ := holds
    rcases step_aggregation taken with same |
      ⟨signedMessage, indices, orders, operatorG2Pubkey, rfl, _, verified, recorded⟩
    · rw [same]
      exact ⟨located, kept⟩
    · have other := leaves signedMessage indices orders operatorG2Pubkey rfl verified
      have unchanged := recordSigner_points located other.symm signedMessage.operatorId operatorG2Pubkey
        signedMessage.blsSignature
      rw [recorded]
      exact ⟨recordSigner_located located _ _ _ _, unchanged.apk.trans kept.apk,
        unchanged.signature.trans kept.signature⟩

end Points

/-! ## Recording a signer -/

theorem addStakes_getD (accumulator stakePerQuorum : Map QuorumNum Nat) (quorumNum : QuorumNum) :
    (addStakes accumulator stakePerQuorum quorumNum).getD 0 =
      (accumulator quorumNum).getD 0 + (stakePerQuorum quorumNum).getD 0 := by
  unfold addStakes
  cases stakePerQuorum quorumNum <;> simp

theorem addStakes_isSome {accumulator stakePerQuorum : Map QuorumNum Nat} {quorumNum : QuorumNum}
    (known : (accumulator quorumNum).isSome) : (addStakes accumulator stakePerQuorum quorumNum).isSome := by
  unfold addStakes
  cases stakePerQuorum quorumNum with
  | none => exact known
  | some stake => rfl

section Recording
variable {scheme : SignatureScheme Sig Key} {info : ValidationInfo Key} {history : List (Event interface Sig info)}
  {aggregation : Aggregation Sig Key}

omit [AddCommGroup Sig] [AddCommGroup Key] in
theorem Received.extend {messageDigest : MessageDigest} {operatorId : OperatorId}
    (received : Received scheme info history messageDigest operatorId) (event : Event interface Sig info) :
    Received scheme info (history ++ [event]) messageDigest operatorId := by
  obtain ⟨signedMessage, indices, orders, member, rest⟩ := received
  exact ⟨signedMessage, indices, orders, List.mem_append_left _ member, rest⟩

theorem Tallied.extend {stakes stakes' : OperatorId → Map QuorumNum Nat} {points points' : Points Sig Key}
    {messageDigest : MessageDigest} {entry : AggregatedOperators Sig Key}
    (tallied : Tallied scheme info history stakes points messageDigest entry) (event : Event interface Sig info)
    (same : stakes' entry.signersTotalStakePerQuorum = stakes entry.signersTotalStakePerQuorum)
    (kept : PointsKept messageDigest points points') :
    Tallied scheme info (history ++ [event]) stakes' points' messageDigest entry where
  first := tallied.first
  received operatorId member := (tallied.received operatorId member).extend event
  apk := kept.apk.trans tallied.apk
  signature := kept.signature.trans tallied.signature
  stake := same ▸ tallied.stake
  complete := same ▸ tallied.complete

omit [AddCommGroup Sig] in
theorem g2Key_of_verified {signedMessage : SignedMessage interface Sig} {operatorG2Pubkey : Key}
    (verified : verifySignature scheme info signedMessage = .ok operatorG2Pubkey) :
    g2Key info signedMessage.operatorId = operatorG2Pubkey := by
  obtain ⟨⟨operator, found, known⟩, _⟩ := verifySignature_ok verified
  simp [g2Key, found, known]

/-- The operator's map still holds the operator's own stakes when a fresh signer is recorded. -/
theorem Accumulated.own_stake (accumulated : Accumulated scheme info history aggregation)
    {messageDigest : MessageDigest} {operatorId : OperatorId} (fresh : Fresh info aggregation messageDigest operatorId)
    (quorumNum : QuorumNum) : (aggregation.stakes operatorId quorumNum).getD 0 = stakeOf info operatorId quorumNum := by
  by_cases shared : ∃ other entry, aggregation.aggregatedOperatorsDict other = some entry ∧
      entry.signersTotalStakePerQuorum = operatorId
  · obtain ⟨other, entry, found, rfl⟩ := shared
    by_cases same : other = messageDigest
    -- the owner of this digest's accumulator has been counted, a fresh signer has not
    · subst same
      exact absurd (accumulated.tallied other entry found).first (fresh.uncounted entry found)
    · obtain ⟨_, alone⟩ := fresh.unshared other entry same found rfl
      rw [(accumulated.tallied other entry found).stake quorumNum, alone, Finset.sum_singleton]
  · exact accumulated.untouched operatorId (fun other entry found same => shared ⟨other, entry, found, same⟩) quorumNum

theorem Accumulated.insert (accumulated : Accumulated scheme info history aggregation)
    {event : Event interface Sig info} {after : Aggregation Sig Key} {messageDigest : MessageDigest}
    {entry : AggregatedOperators Sig Key}
    (inserted : after.aggregatedOperatorsDict = aggregation.aggregatedOperatorsDict.insert messageDigest entry)
    (located : Located after)
    (points : ∀ other, other ≠ messageDigest → PointsKept other aggregation.points after.points)
    (tallied : Tallied scheme info (history ++ [event]) after.stakes after.points messageDigest entry)
    (separate : ∀ other entry', other ≠ messageDigest → aggregation.aggregatedOperatorsDict other = some entry' →
      entry'.signersTotalStakePerQuorum ≠ entry.signersTotalStakePerQuorum)
    (moved : ∀ entry', aggregation.aggregatedOperatorsDict messageDigest = some entry' →
      entry'.signersTotalStakePerQuorum = entry.signersTotalStakePerQuorum)
    (kept : ∀ operatorId, operatorId ≠ entry.signersTotalStakePerQuorum →
      after.stakes operatorId = aggregation.stakes operatorId) :
    Accumulated scheme info (history ++ [event]) after := by
  have lookup : ∀ other entry', after.aggregatedOperatorsDict other = some entry' →
      other = messageDigest ∧ entry' = entry ∨
      other ≠ messageDigest ∧ aggregation.aggregatedOperatorsDict other = some entry' := by
    intro other entry' found
    rw [inserted] at found
    by_cases same : other = messageDigest
    · subst same
      rw [Map.insert_self] at found
      exact Or.inl ⟨rfl, (Option.some.inj found).symm⟩
    · rw [Map.insert_of_ne _ _ same] at found
      exact Or.inr ⟨same, found⟩
  refine ⟨located, ?_, ?_, ?_⟩
  · intro other entry' found
    rcases lookup other entry' found with ⟨rfl, rfl⟩ | ⟨different, found⟩
    · exact tallied
    · exact (accumulated.tallied other entry' found).extend event (kept _ (separate other entry' different found))
        (points other different)
  · intro first second entry' entry'' foundFirst foundSecond same
    rcases lookup first entry' foundFirst with ⟨rfl, rfl⟩ | ⟨different, oldFirst⟩
    · rcases lookup second entry'' foundSecond with ⟨rfl, rfl⟩ | ⟨different, oldSecond⟩
      · rfl
      · exact absurd same.symm (separate second entry'' different oldSecond)
    · rcases lookup second entry'' foundSecond with ⟨rfl, rfl⟩ | ⟨_, oldSecond⟩
      · exact absurd same (separate first entry' different oldFirst)
      · exact accumulated.separate first second entry' entry'' oldFirst oldSecond same
  · intro operatorId unused quorumNum
    rw [inserted] at unused
    have notHere := (unused messageDigest entry (Map.insert_self ..)).symm
    rw [kept operatorId notHere]
    refine accumulated.untouched operatorId (fun other entry' found same => ?_) quorumNum
    by_cases here : other = messageDigest
    · subst here
      exact notHere (same ▸ moved entry' found)
    · exact unused other entry' ((Map.insert_of_ne _ _ here).trans found) same

variable {signedMessage : SignedMessage interface Sig} {indices : Option CheckSignaturesIndices}
  {orders : Orders info} {operatorG2Pubkey : Key}
  (accumulated : Accumulated scheme info history aggregation)
  (verified : verifySignature scheme info signedMessage = .ok operatorG2Pubkey)
  (fresh : Fresh info aggregation signedMessage.messageDigest signedMessage.operatorId)
include accumulated verified fresh

theorem Accumulated.record :
    Accumulated scheme info (history ++ [.signed signedMessage indices orders])
      (recordSigner aggregation signedMessage.messageDigest signedMessage.operatorId operatorG2Pubkey
        signedMessage.blsSignature) := by
  have now : Received scheme info (history ++ [.signed signedMessage indices orders]) signedMessage.messageDigest
      signedMessage.operatorId :=
    ⟨signedMessage, indices, orders, by simp, rfl, rfl, operatorG2Pubkey, verified⟩
  have key := g2Key_of_verified verified
  have signature := (verifySignature_ok verified).2
  have own := accumulated.own_stake fresh
  have located := recordSigner_located accumulated.located signedMessage.messageDigest signedMessage.operatorId
    operatorG2Pubkey signedMessage.blsSignature
  have points := fun other (different : other ≠ signedMessage.messageDigest) =>
    recordSigner_points accumulated.located different signedMessage.operatorId operatorG2Pubkey
      signedMessage.blsSignature
  unfold recordSigner at located points ⊢
  cases known : aggregation.aggregatedOperatorsDict signedMessage.messageDigest with
  | none =>
    simp only [known] at located points ⊢
    have unused : ∀ other entry, other ≠ signedMessage.messageDigest →
        aggregation.aggregatedOperatorsDict other = some entry →
        entry.signersTotalStakePerQuorum ≠ signedMessage.operatorId := by
      intro other entry different found same
      have shared := (fresh.unshared other entry different found same).1
      rw [known] at shared
      exact absurd shared nofun
    -- the first signer: the operator's own map becomes the accumulator, as it is
    refine accumulated.insert rfl located points ?_ unused (by simp [known]) fun _ _ => rfl
    refine ⟨Finset.mem_singleton_self _, ?_, ?_, ?_, ?_, fresh.complete known⟩
    · intro operatorId member
      rw [Finset.mem_singleton.mp member]
      exact now
    · simp only [Points.write, Function.update_self, Finset.sum_singleton, key, zero_add]
    · simp only [Points.write, Function.update_self, Finset.sum_singleton, key, signature]
    · intro quorumNum
      rw [Finset.sum_singleton, own]
  | some entry =>
    simp only [known] at located points ⊢
    have tallied := accumulated.tallied _ entry known
    have uncounted := fresh.uncounted entry known
    obtain ⟨apk, aggSig⟩ := accumulated.located _ entry known
    refine accumulated.insert rfl located points ⟨?_, ?_, ?_, ?_, ?_, ?_⟩ ?_ ?_ ?_
    · exact Finset.mem_insert_of_mem tallied.first
    · intro operatorId member
      rcases Finset.mem_insert.mp member with rfl | member
      · exact now
      · exact (tallied.received operatorId member).extend _
    -- the sums gain one term because the signer is a new one
    · simp only [Points.write, Points.apk, apk, Function.update_self]
      rw [Finset.sum_insert uncounted, key, ← tallied.apk, add_comm]
    · simp only [Points.write, Points.aggSig, aggSig, Function.update_self]
      rw [Finset.sum_insert uncounted, key, ← tallied.signature, ← signature, add_comm]
    · intro quorumNum
      simp only [Function.update_self]
      rw [addStakes_getD, Finset.sum_insert uncounted, tallied.stake, own, add_comm]
    · intro quorumNum threshold
      simp only [Function.update_self]
      exact addStakes_isSome (tallied.complete quorumNum threshold)
    · intro other entry' different found same
      exact different (accumulated.separate other _ entry' entry found known same)
    · intro entry' found
      cases known.symm.trans found
      rfl
    · intro operatorId different
      exact Function.update_of_ne different _ _

end Recording

/-! ## The status of a digest -/

section Status
variable {scheme : SignatureScheme Sig Key} {info : ValidationInfo Key} {history : List (Event interface Sig info)}
  {aggregation : Aggregation Sig Key}

omit [AddCommGroup Key] in
theorem ThresholdsMet.mono {signers larger : Finset OperatorId} (met : ThresholdsMet info signers)
    (subset : signers ⊆ larger) : ThresholdsMet info larger := by
  intro quorumNum percentage threshold
  obtain ⟨totalStake, total, enough⟩ := met quorumNum percentage threshold
  exact ⟨totalStake, total, enough.trans (Nat.mul_le_mul_right 100 (Finset.sum_le_sum_of_subset subset))⟩

/-- A status above the threshold is right about the digest's signers. -/
theorem Accumulated.thresholdsMet (accumulated : Accumulated scheme info history aggregation)
    {messageDigest : MessageDigest} {orders : Orders info} {status : MessageBlsAggregationStatus}
    (found : getMessageBlsAggregationStatus info aggregation messageDigest orders = .ok status)
    (reached : status ≠ .thresholdNotReached) :
    ∃ entry, aggregation.aggregatedOperatorsDict messageDigest = some entry ∧
      ThresholdsMet info entry.signersOperatorIdsSet := by
  obtain ⟨entry, known, notReached | ⟨_, full⟩ | ⟨_, enough⟩⟩ := getMessageBlsAggregationStatus_ok found
  · exact absurd notReached reached
  · refine ⟨entry, known, fun quorumNum percentage threshold => ?_⟩
    have tallied := accumulated.tallied messageDigest entry known
    -- the check has only looked at the quorums of the accumulator, which has all quorums with a threshold
    obtain ⟨signedStake, signed⟩ := Option.isSome_iff_exists.mp (tallied.complete quorumNum (by simp [threshold]))
    have stake := tallied.stake quorumNum
    rw [signed, Option.getD_some] at stake
    refine ⟨signedStake, full quorumNum signedStake signed, ?_⟩
    rw [← stake]
    exact Nat.mul_le_mul_left signedStake (info.percentages_valid quorumNum percentage threshold).2
  · refine ⟨entry, known, fun quorumNum percentage threshold => ?_⟩
    obtain ⟨signedStake, totalStake, signed, total, enough⟩ := enough quorumNum percentage threshold
    have stake := (accumulated.tallied messageDigest entry known).stake quorumNum
    rw [signed, Option.getD_some] at stake
    exact ⟨totalStake, total, stake ▸ enough⟩

end Status

/-! ## Runs -/

section Runs
variable {scheme : SignatureScheme Sig Key} {info : ValidationInfo Key} {history : List (Event interface Sig info)}

theorem Tallied.unlisted_eq {stakes : OperatorId → Map QuorumNum Nat} {points : Points Sig Key}
    {messageDigest : MessageDigest} {entry : AggregatedOperators Sig Key}
    (tallied : Tallied scheme info history stakes points messageDigest entry) (orders : Orders info) :
    unlisted info (nonSignersG1Pubkeys info (nonSignersOperatorIds info entry.signersOperatorIdsSet orders)) =
      entry.signersOperatorIdsSet := by
  ext operatorId
  simp only [unlisted, Finset.mem_filter, Finset.mem_univ, true_and, nonSignersG1Pubkeys, List.mem_filterMap,
    Option.map_eq_some_iff, not_exists, not_and, mem_nonSignersOperatorIds]
  constructor
  · rintro ⟨operator, found, notListed⟩
    by_contra absent
    exact notListed operatorId ⟨by simp [found], absent⟩ operator found rfl
  · intro member
    obtain ⟨signedMessage, _, _, _, _, rfl, operatorG2Pubkey, verified⟩ := tallied.received operatorId member
    obtain ⟨⟨operator, found, _⟩, _⟩ := verifySignature_ok verified
    refine ⟨operator, found, fun other otherListed state otherFound same => ?_⟩
    -- a listed key is a non-signer's, and no two operators of the table share a key
    have itself := info.operatorsAvsStateDict.pubkeys_distinct _ _ _ _ otherFound found same
    exact otherListed.2 (itself ▸ member)

variable (scheme info) in
/-- The state of a round whose steps have all counted fresh signers. -/
structure Sound (history : List (Event interface Sig info)) (round : Round M Sig Key) : Prop where
  accumulated : Accumulated scheme info history round.aggregation
  reached : ∀ message messageDigest, round.phase = .thresholdReached message messageDigest →
    ∃ entry, round.aggregation.aggregatedOperatorsDict messageDigest = some entry ∧
      ThresholdsMet info entry.signersOperatorIdsSet

theorem Sound.initial : Sound scheme info ([] : List (Event interface Sig info)) (Round.initial info) := by
  refine ⟨⟨fun _ _ => nofun, fun _ _ => nofun, fun _ _ _ _ => nofun, fun operatorId _ quorumNum => ?_⟩, nofun⟩
  simp only [Round.initial, stakeOf]
  cases info.operatorsAvsStateDict.states operatorId <;> rfl

variable {messageKey : MessageKey} {round : Round M Sig Key} {event : Event interface Sig info}
  {effect : Effect M Sig Key} (sound : Sound scheme info history round)
  (fresh : CountsFresh scheme info round event) (taken : round.step scheme info messageKey event = some effect)
include sound fresh taken

theorem Sound.accumulated_step : Accumulated scheme info (history ++ [event]) effect.round.aggregation := by
  rcases step_aggregation taken with same |
    ⟨signedMessage, indices, orders, operatorG2Pubkey, rfl, reached, verified, recorded⟩
  · rw [same]
    exact { sound.accumulated with
      tallied messageDigest entry known :=
        (sound.accumulated.tallied messageDigest entry known).extend event rfl ⟨rfl, rfl⟩ }
  · rw [recorded]
    exact sound.accumulated.record verified
      (fresh signedMessage indices orders operatorG2Pubkey rfl reached verified)

omit fresh in
theorem Sound.thresholdsMet_step {message : M} {messageDigest : MessageDigest}
    (phase : round.phase = .thresholdReached message messageDigest) :
    ∃ entry, effect.round.aggregation.aggregatedOperatorsDict messageDigest = some entry ∧
      ThresholdsMet info entry.signersOperatorIdsSet := by
  obtain ⟨entry, known, met⟩ := sound.reached message messageDigest phase
  obtain ⟨entry', known', _, subset⟩ := (step_grows taken).entry messageDigest entry known
  exact ⟨entry', known', met.mono subset⟩

/-- A response without an error speaks for a digest whose signers hold enough stake. -/
theorem Sound.response {response : SharedResponse M Sig Key} (sent : effect.response = some response)
    (noError : response.err = none) :
    ∃ entry orders,
      effect.round.aggregation.aggregatedOperatorsDict response.aggregation.messageDigest = some entry ∧
      ThresholdsMet info entry.signersOperatorIdsSet ∧
      response.aggregation.signersApkG2 = some entry.signersApkG2 ∧
      response.aggregation.signersAggSigG1 = some entry.signersAggSigG1 ∧
      response.aggregation.nonSignersPubkeysG1 =
        nonSignersG1Pubkeys info (nonSignersOperatorIds info entry.signersOperatorIdsSet orders) := by
  obtain ⟨message, messageDigest, forceFinished, indices, orders, built, above⟩ := step_response taken sent noError
  obtain ⟨rfl, _, filled⟩ := getMessageBlsAggregationResponse_ok built
  obtain ⟨entry, known, status, apk, signature, nonSigners⟩ := filled noError
  refine ⟨entry, orders, known, ?_, apk, signature, nonSigners⟩
  have met : ∃ entry',
      effect.round.aggregation.aggregatedOperatorsDict response.aggregation.messageDigest = some entry' ∧
      ThresholdsMet info entry'.signersOperatorIdsSet := by
    -- the status says so, or the digest is the one that had reached the threshold before
    rcases above with reached | ⟨other, phase⟩
    · exact (sound.accumulated_step fresh taken).thresholdsMet status reached
    · exact sound.thresholdsMet_step taken phase
  obtain ⟨entry', known', met⟩ := met
  cases known.symm.trans known'
  exact met

theorem Sound.step : Sound scheme info (history ++ [event]) effect.round := by
  refine ⟨sound.accumulated_step fresh taken, fun message messageDigest phase => ?_⟩
  rcases step_phase taken phase with before | ⟨response, sent, noError, rfl⟩
  · exact sound.thresholdsMet_step taken before
  · obtain ⟨entry, _, known, met, _⟩ := sound.response fresh taken sent noError
    exact ⟨entry, known, met⟩

omit sound fresh taken in
theorem Sound.of_run (run : (rounds scheme info interface messageKey).GuardedRun (CountsFresh scheme info) history
    round) : Sound scheme info history round := by
  refine run.invariant (Sound scheme info) (fun state initial => ?_) fun history state event after sound fresh one => ?_
  · rw [initial]
    exact Sound.initial
  · obtain ⟨effect, taken, rfl⟩ := one
    exact sound.step fresh taken

omit sound fresh taken in
/-- In every run that counts fresh signers only, a response without an error is backed by enough stake of operators
whose signatures have come in. Read before the next valid signature over its digest, whatever else comes in by then,
its key and signature are those of the operators that it does not list. -/
theorem quorum_soundness
    (run : (rounds scheme info interface messageKey).GuardedRun (CountsFresh scheme info) history round)
    (fresh : CountsFresh scheme info round event) (taken : round.step scheme info messageKey event = some effect)
    {response : SharedResponse M Sig Key} (sent : effect.response = some response) (noError : response.err = none)
    {later : List (Event interface Sig info)} {after : Round M Sig Key}
    (untilRead : ((rounds scheme info interface messageKey).startingAt effect.round).GuardedRun
      (LeavesDigest scheme info response.aggregation.messageDigest) later after) :
    let messageDigest := response.aggregation.messageDigest
    let aggregation := (response.read after.aggregation.points).aggregation
    let signers := unlisted info aggregation.nonSignersPubkeysG1
    ThresholdsMet info (validSigners scheme info (history ++ [event]) messageDigest) ∧
    aggregation.signersApkG2 = some (∑ operatorId ∈ signers, g2Key info operatorId) ∧
    aggregation.signersAggSigG1 =
      some (∑ operatorId ∈ signers, scheme.sign (g2Key info operatorId) messageDigest) := by
  intro messageDigest aggregation signers
  have sound := Sound.of_run run
  have accumulated := sound.accumulated_step fresh taken
  obtain ⟨entry, orders, known, met, apk, signature, nonSigners⟩ := sound.response fresh taken sent noError
  have tallied := accumulated.tallied messageDigest entry known
  obtain ⟨apkOwn, aggSigOwn⟩ := accumulated.located messageDigest entry known
  have kept := (accumulated.located.kept_until untilRead).2
  have same : signers = entry.signersOperatorIdsSet := by
    have listed : aggregation.nonSignersPubkeysG1 = response.aggregation.nonSignersPubkeysG1 := rfl
    simp only [signers, listed, nonSigners]
    exact tallied.unlisted_eq orders
  refine ⟨met.mono fun operatorId member => ?_, ?_, ?_⟩
  · exact mem_validSigners scheme info |>.mpr (tallied.received operatorId member)
  · calc aggregation.signersApkG2
        = some (after.aggregation.points.apk entry.signersApkG2) := by
          simp only [aggregation, Response.read, MessageBlsAggregation.read, apk, Option.map_some]
      _ = some (effect.round.aggregation.points.apksG2 messageDigest) := by rw [apkOwn]; exact congrArg some kept.apk
      _ = some (∑ operatorId ∈ signers, g2Key info operatorId) := by rw [same, tallied.apk]
  · calc aggregation.signersAggSigG1
        = some (after.aggregation.points.aggSig entry.signersAggSigG1) := by
          simp only [aggregation, Response.read, MessageBlsAggregation.read, signature, Option.map_some]
      _ = some (effect.round.aggregation.points.aggSigsG1 messageDigest) := by
          rw [aggSigOwn]
          exact congrArg some kept.signature
      _ = some (∑ operatorId ∈ signers, scheme.sign (g2Key info operatorId) messageDigest) := by
          rw [same, tallied.signature]

end Runs

/-! ## Three operators with a third of the stake each -/

def thirdsMembers : List (ZMod 7 × Nat) := [(1, 40), ((2 : Nat), 40), ((3 : Nat), 40)]

def thirds : ValidationInfo (ZMod 7) := smallInfo thirdsMembers 66 (by decide)

def thirdSigns (operator : ZMod 7) : Event plainMessages (ZMod 7) thirds :=
  .signed ⟨5, 5, smallScheme.sign operator 5, multipleHash operator, rfl⟩ (some CheckSignaturesIndices.empty)
    (smallOrders thirdsMembers 66 (by decide) (by decide))

def thirdsRound : Round MessageDigest (ZMod 7) (ZMod 7) where
  aggregation := recordSigner (Round.initial thirds : Round MessageDigest _ _).aggregation 5 (multipleHash 1) 1
    (smallScheme.sign 1 5)
  phase := .preThreshold

theorem thirdsRound_step :
    (rounds smallScheme thirds plainMessages 5).step (Round.initial thirds) (thirdSigns 1) thirdsRound :=
  ⟨⟨thirdsRound, some none, none⟩, rfl, rfl⟩

theorem thirds_fresh : CountsFresh smallScheme thirds (Round.initial thirds) (thirdSigns 1) := by
  intro signedMessage indices orders operatorG2Pubkey same _ _
  cases same
  refine ⟨fun _ => nofun, fun _ _ _ => nofun, fun _ quorumNum threshold => ?_⟩
  obtain ⟨percentage, found⟩ := Option.isSome_iff_exists.mp threshold
  rw [(Map.insert_empty_eq_some.mp found).1]
  rfl

theorem thirdsRound_fresh : CountsFresh smallScheme thirds thirdsRound (thirdSigns 2) := by
  intro signedMessage indices orders operatorG2Pubkey same _ _
  cases same
  refine ⟨fun entry known => ?_, fun other entry different known => ?_, nofun⟩
  · cases known
    decide
  · have absent : thirdsRound.aggregation.aggregatedOperatorsDict other = none := Map.insert_of_ne _ _ different
    rw [absent] at known
    cases known

def signsOther : Event plainMessages (ZMod 7) thirds :=
  .signed ⟨6, 6, smallScheme.sign (3 : Nat) 6, multipleHash (3 : Nat), rfl⟩ (some CheckSignaturesIndices.empty)
    (smallOrders thirdsMembers 66 (by decide) (by decide))

theorem signsOther_leaves (round : Round MessageDigest (ZMod 7) (ZMod 7)) :
    LeavesDigest smallScheme thirds 5 round signsOther := by
  intro signedMessage indices orders operatorG2Pubkey same _
  cases same
  decide

theorem quorum_soundness_two_of_three :
    ∃ effect response after, thirdsRound.step smallScheme thirds 5 (thirdSigns 2) = some effect ∧
      effect.response = some response ∧
      (rounds smallScheme thirds plainMessages 5).step effect.round signsOther after ∧
      ThresholdsMet thirds (validSigners smallScheme thirds [thirdSigns 1, thirdSigns 2] 5) ∧
      (response.read after.aggregation.points).aggregation.signersApkG2 =
        some (∑ operatorId ∈ unlisted thirds response.aggregation.nonSignersPubkeysG1, g2Key thirds operatorId) := by
  have responded : (thirdsRound.step smallScheme thirds 5 (thirdSigns 2)).bind (fun effect =>
      effect.response.map fun response => (response.err, response.aggregation.messageDigest, effect.round.phase)) =
      some (none, 5, .thresholdReached 5 5) := by
    decide +kernel
  obtain ⟨effect, taken, mapped⟩ := Option.bind_eq_some_iff.mp responded
  obtain ⟨response, sent, fields⟩ := Option.map_eq_some_iff.mp mapped
  simp only [Prod.mk.injEq] at fields
  obtain ⟨noError, digest, phase⟩ := fields
  have other : (rounds smallScheme thirds plainMessages 5).step effect.round signsOther effect.round := by
    refine ⟨⟨effect.round, some none, none⟩, ?_, rfl⟩
    simp only [Round.step, phase, signsOther]
    rfl
  have run := System.GuardedRun.next (.start rfl) thirds_fresh thirdsRound_step
  have untilRead : ((rounds smallScheme thirds plainMessages 5).startingAt effect.round).GuardedRun
      (LeavesDigest smallScheme thirds response.aggregation.messageDigest) [signsOther] effect.round :=
    .next (.start rfl) (digest ▸ signsOther_leaves effect.round) other
  have sound := quorum_soundness run thirdsRound_fresh taken sent noError untilRead
  exact ⟨effect, response, effect.round, taken, sent, other, digest ▸ sound.1, sound.2.1⟩

/-- The first operator's message comes in twice. The round reports that the threshold is reached, with a third of the
stake behind it and with a key that is not that of the one signer. -/
theorem repeated_message_reaches_threshold :
    ∃ effect response, (rounds smallScheme thirds plainMessages 5).Run [thirdSigns 1] thirdsRound ∧
      thirdsRound.step smallScheme thirds 5 (thirdSigns 1) = some effect ∧ effect.response = some response ∧
      response.err = none ∧
      ¬ ThresholdsMet thirds (validSigners smallScheme thirds [thirdSigns 1, thirdSigns 1]
        response.aggregation.messageDigest) ∧
      (response.read effect.round.aggregation.points).aggregation.signersApkG2 ≠
        some (∑ operatorId ∈ unlisted thirds response.aggregation.nonSignersPubkeysG1, g2Key thirds operatorId) := by
  have responded : (thirdsRound.step smallScheme thirds 5 (thirdSigns 1)).bind (fun effect =>
      effect.response.map fun response =>
        (response.err, (response.read effect.round.aggregation.points).aggregation.signersApkG2,
          response.aggregation.nonSignersPubkeysG1)) =
      some (none, some 2, [generatorMultiple 2, generatorMultiple 3]) := by
    decide +kernel
  obtain ⟨effect, taken, mapped⟩ := Option.bind_eq_some_iff.mp responded
  obtain ⟨response, sent, fields⟩ := Option.map_eq_some_iff.mp mapped
  simp only [Prod.mk.injEq] at fields
  obtain ⟨noError, apk, nonSigners⟩ := fields
  refine ⟨effect, response, .next (.start rfl) trivial thirdsRound_step, taken, sent, noError, ?_, ?_⟩
  · have only : validSigners smallScheme thirds [thirdSigns 1, thirdSigns 1] response.aggregation.messageDigest ⊆
        {multipleHash 1} := by
      intro operatorId member
      obtain ⟨signedMessage, indices, orders, received, _, rfl, _⟩ := mem_validSigners _ _ |>.mp member
      simp only [List.mem_cons, List.not_mem_nil, or_false, or_self] at received
      cases received
      exact Finset.mem_singleton_self _
    intro met
    obtain ⟨totalStake, total, enough⟩ := met.mono only 0 66 rfl
    cases total
    rw [Finset.sum_singleton] at enough
    exact absurd enough (by decide)
  · have only : unlisted thirds [generatorMultiple 2, generatorMultiple 3] = {multipleHash 1} := by
      ext operatorId
      simp only [unlisted, Finset.mem_filter, Finset.mem_univ, true_and, Finset.mem_singleton]
      constructor
      · rintro ⟨operator, found, notListed⟩
        obtain ⟨entry, member, rfl, key, _⟩ := smallStates_eq_some found
        rw [key] at notListed
        simp only [thirdsMembers, List.mem_cons, List.not_mem_nil, or_false] at member
        rcases member with rfl | rfl | rfl
        · rfl
        · exact absurd (by decide) notListed
        · exact absurd (by decide) notListed
      · rintro rfl
        exact ⟨_, rfl, by decide⟩
    rw [apk, nonSigners, only, Finset.sum_singleton]
    decide

end Sffl.Aggregator
