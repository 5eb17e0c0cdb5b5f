import Sffl.Aggregator.Soundness
import Sffl.Rollup.Attestation

/-! What the aggregator submits to a rollup, and what the rollup makes of it.

The aggregator lists everybody of the table who has not signed. The rollup keeps
the operators with weight only: it rejects a listed operator without stake, and
a signer without stake has no part in the key that it computes.
-/

set_option autoImplicit false

namespace Sffl.Aggregator

open Sffl.Evm Sffl.Golang Sffl.Rollup Sffl.Algebra

variable {M Sig Key G : Type} [AddCommGroup G]

structure PointConversion (Sig Key : Type) where
  convertToBN254G1Point : Sig → G1Point
  convertToBN254G2Point : Key → G2Point

def extractBindingRollup (conversion : PointConversion Sig Key) (msg : MessageBlsAggregation Sig Key) :
    Except Fault SignatureInfo :=
  -- an aggregation without a key or a signature has nil pointers here
  match msg.signersApkG2, msg.signersAggSigG1 with
  | some signersApkG2, some signersAggSigG1 => .ok {
      nonSignerPubkeys := msg.nonSignersPubkeysG1
      apkG2 := conversion.convertToBN254G2Point signersApkG2
      sigma := conversion.convertToBN254G1Point signersAggSigG1 }
  | _, _ => .error .crashed

section Definitions
variable (evm : Precompiles G) (info : ValidationInfo Key)

/-- The table of the first quorum: every operator stands under the hash of its key and has a stake, perhaps zero. -/
structure FirstQuorum : Prop where
  id_eq : ∀ operatorId operator, info.operatorsAvsStateDict.states operatorId = some operator →
    evm.hashG1Point operator.G1Pubkey = operatorId
  valid : ∀ operatorId operator, info.operatorsAvsStateDict.states operatorId = some operator →
    (evm.decode operator.G1Pubkey).isSome
  stake : ∀ operatorId operator, info.operatorsAvsStateDict.states operatorId = some operator →
    ∃ stake : Uint 96, operator.stakePerQuorum = Map.empty.insert 0 stake.toNat
  total : info.totalStakePerQuorum = Map.empty.insert 0 (∑ operatorId, stakeOf info operatorId 0)
  threshold : ∃ percentage, info.quorumThresholdPercentagesMap = Map.empty.insert 0 percentage

def pubkeyOf (operatorId : OperatorId) : G1Point :=
  ((info.operatorsAvsStateDict.states operatorId).map OperatorAvsState.G1Pubkey).getD ⟨0, 0⟩

/-- The rollup's set holds exactly the operators of the table, with their stakes as weights. -/
def CopyOf (set : OperatorSet) : Prop :=
  Represents evm set fun pubkey => stakeOf info (evm.hashG1Point pubkey) 0

structure Collected (aggregation : Aggregation Sig Key) (messageDigest : MessageDigest) (signers : Finset OperatorId) :
    Prop where
  known : ∀ operatorId ∈ signers, (info.operatorsAvsStateDict.states operatorId).isSome
  entry : ∃ entry, aggregation.aggregatedOperatorsDict messageDigest = some entry ∧
    entry.signersOperatorIdsSet = signers ∧
    aggregation.stakes entry.signersTotalStakePerQuorum =
      Map.empty.insert 0 (∑ operatorId ∈ signers, stakeOf info operatorId 0)

def AcceptedFor (set : OperatorSet) (signers : Finset OperatorId) (signatureInfo : SignatureInfo) : Prop :=
  ∃ weight, signersOf evm set signatureInfo.nonSignerPubkeys =
      .ok (evm.encode (∑ operatorId ∈ signers, evm.value (pubkeyOf info operatorId)), weight) ∧
    weight.toNat = ∑ operatorId ∈ signers, stakeOf info operatorId 0

end Definitions

variable {evm : Precompiles G} {info : ValidationInfo Key}

/-! ## The list of non-signers -/

section NonSigners
variable (quorum : FirstQuorum evm info) {signers : Finset OperatorId} {orders : Orders info}

theorem nonSignersOperatorIds_sorted :
    (nonSignersOperatorIds info signers orders).Pairwise fun first second => first.toNat < second.toNat := by
  let atMost : OperatorId → OperatorId → Prop := fun first second => first.toNat ≤ second.toNat
  have : Std.Total atMost := ⟨fun first second => Nat.le_total first.toNat second.toNat⟩
  have : IsTrans OperatorId atMost := ⟨fun _ _ _ => Nat.le_trans⟩
  have distinct : (nonSignersOperatorIds info signers orders).Nodup := by
    rw [nonSignersOperatorIds, (List.perm_insertionSort _ _).nodup_iff, orders.operators_visits.keys]
    exact orders.operators_visits.once.filter _
  have ascending : (nonSignersOperatorIds info signers orders).Pairwise atMost := List.pairwise_insertionSort atMost _
  exact ascending.imp₂ (fun _ _ le ne => Nat.lt_of_le_of_ne le (mt BitVec.eq_of_toNat_eq ne)) distinct

include quorum

theorem FirstQuorum.hash_pubkeyOf {operatorId : OperatorId}
    (known : (info.operatorsAvsStateDict.states operatorId).isSome) :
    evm.hashG1Point (pubkeyOf info operatorId) = operatorId := by
  obtain ⟨operator, found⟩ := Option.isSome_iff_exists.mp known
  simpa [pubkeyOf, found] using quorum.id_eq operatorId operator found

theorem FirstQuorum.pubkeyOf_hash {pubkey : G1Point}
    (known : (info.operatorsAvsStateDict.states (evm.hashG1Point pubkey)).isSome) :
    pubkeyOf info (evm.hashG1Point pubkey) = pubkey := by
  obtain ⟨operator, found⟩ := Option.isSome_iff_exists.mp known
  have valid : (evm.decode (pubkeyOf info (evm.hashG1Point pubkey))).isSome := by
    simpa [pubkeyOf, found] using quorum.valid _ operator found
  exact (evm.hashG1Point_inj valid (quorum.hash_pubkeyOf known).symm).symm

theorem FirstQuorum.nonSigners_hashes :
    (nonSignersG1Pubkeys info (nonSignersOperatorIds info signers orders)).map evm.hashG1Point =
      nonSignersOperatorIds info signers orders := by
  have all : ∀ operatorIds : List OperatorId,
      (∀ operatorId ∈ operatorIds, (info.operatorsAvsStateDict.states operatorId).isSome) →
      (nonSignersG1Pubkeys info operatorIds).map evm.hashG1Point = operatorIds := by
    intro operatorIds known
    induction operatorIds with
    | nil => rfl
    | cons operatorId operatorIds ih =>
      simp only [List.mem_cons, forall_eq_or_imp] at known
      obtain ⟨operator, found⟩ := Option.isSome_iff_exists.mp known.1
      have rest := ih known.2
      rw [nonSignersG1Pubkeys] at rest ⊢
      simp only [List.filterMap_cons, found, Option.map_some, List.map_cons, rest,
        quorum.id_eq operatorId operator found]
  exact all _ fun operatorId member => (mem_nonSignersOperatorIds.mp member).1

theorem FirstQuorum.nonSigners_sorted :
    SortedAfter evm none (nonSignersG1Pubkeys info (nonSignersOperatorIds info signers orders)) := by
  rw [SortedAfter, Option.toList, List.nil_append, quorum.nonSigners_hashes]
  exact nonSignersOperatorIds_sorted

theorem FirstQuorum.mem_nonSigners {pubkey : G1Point} :
    pubkey ∈ nonSignersG1Pubkeys info (nonSignersOperatorIds info signers orders) ↔
      (info.operatorsAvsStateDict.states (evm.hashG1Point pubkey)).isSome ∧ evm.hashG1Point pubkey ∉ signers := by
  constructor
  · intro member
    have hashed := List.mem_map_of_mem (f := evm.hashG1Point) member
    rw [quorum.nonSigners_hashes] at hashed
    exact mem_nonSignersOperatorIds.mp hashed
  · intro nonSigner
    obtain ⟨operator, found⟩ := Option.isSome_iff_exists.mp nonSigner.1
    refine List.mem_filterMap.mpr ⟨evm.hashG1Point pubkey, mem_nonSignersOperatorIds.mpr nonSigner, ?_⟩
    have same := quorum.pubkeyOf_hash nonSigner.1
    rw [pubkeyOf, found, Option.map_some, Option.getD_some] at same
    rw [found, Option.map_some, same]

variable {set : OperatorSet} (copy : CopyOf evm info set)
include copy

omit quorum in
theorem CopyOf.weights_eq (pubkey : G1Point) :
    weights evm set.toTally pubkey = stakeOf info (evm.hashG1Point pubkey) 0 :=
  congrFun copy.weights pubkey

/-- The rollup's checks are about the stakes of the non-signers only. -/
theorem FirstQuorum.checked_iff :
    Checked evm set (nonSignersG1Pubkeys info (nonSignersOperatorIds info signers orders)) ↔
      ∀ operatorId, (info.operatorsAvsStateDict.states operatorId).isSome → operatorId ∉ signers →
        stakeOf info operatorId 0 ≠ 0 := by
  constructor
  · intro checked operatorId known absent
    have hash := quorum.hash_pubkeyOf known
    have weighted := checked.weighted (pubkeyOf info operatorId)
      (quorum.mem_nonSigners.mpr ⟨hash.symm ▸ known, hash.symm ▸ absent⟩)
    rwa [copy.weights_eq, hash] at weighted
  · intro staked
    refine ⟨quorum.nonSigners_sorted, fun pubkey member => ?_⟩
    obtain ⟨known, absent⟩ := quorum.mem_nonSigners.mp member
    rw [copy.weights_eq]
    exact staked _ known absent

/-- What the rollup adds up over the members that are not listed, it adds up over the signers with stake. -/
theorem FirstQuorum.sum_remaining {A : Type} [AddCommMonoid A]
    (known : ∀ operatorId ∈ signers, (info.operatorsAvsStateDict.states operatorId).isSome) (f : G1Point → A) :
    ∑ pubkey ∈ members (weights evm set.toTally) \
        (nonSignersG1Pubkeys info (nonSignersOperatorIds info signers orders)).toFinset, f pubkey =
      ∑ operatorId ∈ signers with stakeOf info operatorId 0 ≠ 0, f (pubkeyOf info operatorId) := by
  symm
  -- a signer with stake is a member that is not listed, and the other way round
  refine Finset.sum_nbij (pubkeyOf info) ?_ ?_ ?_ fun _ _ => rfl
  · intro operatorId member
    obtain ⟨signer, staked⟩ := Finset.mem_filter.mp member
    have hash := quorum.hash_pubkeyOf (known operatorId signer)
    refine Finset.mem_sdiff.mpr ⟨mem_members.mpr ?_, fun listed => ?_⟩
    · rwa [copy.weights_eq, hash]
    · have nonSigner := (quorum.mem_nonSigners.mp (List.mem_toFinset.mp listed)).2
      exact nonSigner (hash.symm ▸ signer)
  · intro first firstMember second secondMember same
    have hash := congrArg evm.hashG1Point same
    rwa [quorum.hash_pubkeyOf (known first (Finset.mem_filter.mp firstMember).1),
      quorum.hash_pubkeyOf (known second (Finset.mem_filter.mp secondMember).1)] at hash
  · intro pubkey member
    obtain ⟨weighted, unlisted⟩ := Finset.mem_sdiff.mp member
    have staked : stakeOf info (evm.hashG1Point pubkey) 0 ≠ 0 := copy.weights_eq pubkey ▸ mem_members.mp weighted
    have present : (info.operatorsAvsStateDict.states (evm.hashG1Point pubkey)).isSome := by
      by_contra absent
      simp [stakeOf, Option.not_isSome_iff_eq_none.mp absent] at staked
    have signer : evm.hashG1Point pubkey ∈ signers := by
      by_contra absent
      exact unlisted (List.mem_toFinset.mpr (quorum.mem_nonSigners.mpr ⟨present, absent⟩))
    exact ⟨evm.hashG1Point pubkey, Finset.mem_filter.mpr ⟨signer, staked⟩, quorum.pubkeyOf_hash present⟩

theorem FirstQuorum.accepted_iff
    (known : ∀ operatorId ∈ signers, (info.operatorsAvsStateDict.states operatorId).isSome)
    {signatureInfo : SignatureInfo}
    (listed : signatureInfo.nonSignerPubkeys = nonSignersG1Pubkeys info (nonSignersOperatorIds info signers orders)) :
    AcceptedFor evm info set signers signatureInfo ↔
      (∀ operatorId, (info.operatorsAvsStateDict.states operatorId).isSome → operatorId ∉ signers →
        stakeOf info operatorId 0 ≠ 0) ∧
      ∑ operatorId ∈ signers with stakeOf info operatorId 0 = 0, evm.value (pubkeyOf info operatorId) = 0 := by
  -- the rollup's key lacks the signers without stake, and encodings of different sums differ
  have split := Finset.sum_filter_add_sum_filter_not signers (fun operatorId => stakeOf info operatorId 0 = 0)
    fun operatorId => evm.value (pubkeyOf info operatorId)
  rw [AcceptedFor, listed, ← quorum.checked_iff copy]
  constructor
  · rintro ⟨weight, success, _⟩
    have checked := signersOf_only_checked copy.consistent success
    obtain ⟨weight', result, _⟩ := signersOf_checked copy.consistent checked
    rw [quorum.sum_remaining copy known, success, Except.ok.injEq, Prod.mk.injEq] at result
    have same := evm.encode_injective result.1
    rw [← split] at same
    exact ⟨checked, add_eq_right.mp same⟩
  · rintro ⟨checked, cancelled⟩
    obtain ⟨weight, result, sum⟩ := signersOf_checked copy.consistent checked
    rw [quorum.sum_remaining copy known] at result sum
    refine ⟨weight, ?_, ?_⟩
    · rw [result, ← split, cancelled, zero_add]
    · rw [sum, ← Finset.sum_filter_ne_zero signers (f := fun operatorId => stakeOf info operatorId 0)]
      refine Finset.sum_congr rfl fun operatorId member => ?_
      rw [copy.weights_eq, quorum.hash_pubkeyOf (known operatorId (Finset.mem_filter.mp member).1)]

end NonSigners

/-! ## The response -/

section Response
variable (interface : MessageInterface M) {aggregation : Aggregation Sig Key} {messageDigest : MessageDigest}
  {signers : Finset OperatorId} (quorum : FirstQuorum evm info)
  (collected : Collected info aggregation messageDigest signers)

include quorum collected

theorem FirstQuorum.status_ok (met : ThresholdsMet info signers) (orders : Orders info) :
    ∃ status, getMessageBlsAggregationStatus info aggregation messageDigest orders = .ok status ∧
      status ≠ .thresholdNotReached := by
  obtain ⟨entry, found, _, stakes⟩ := collected.entry
  obtain ⟨percentage, threshold⟩ := quorum.threshold
  simp only [getMessageBlsAggregationStatus, found, stakes]
  generalize signed : (Map.empty.insert 0 (∑ operatorId ∈ signers, stakeOf info operatorId 0) : Map QuorumNum Nat) =
    signedStakePerQuorum
  have known : ∀ entry ∈ signedStakePerQuorum.range (orders.signed signedStakePerQuorum),
      (info.totalStakePerQuorum entry.1).isSome := by
    intro entry member
    have here := (orders.signed_visits signedStakePerQuorum).mem_range.mp member
    rw [← signed, Map.insert_empty_eq_some] at here
    rw [here.1, quorum.total, Map.insert_self]
    rfl
  have reached : checkIfStakeThresholdsMet signedStakePerQuorum info.totalStakePerQuorum
      (info.quorumThresholdPercentagesMap.range orders.thresholds) = .ok true := by
    refine checkIfStakeThresholdsMet_true.mpr fun entry member => ?_
    have here := orders.thresholds_visits.mem_range.mp member
    obtain ⟨totalStake, total, enough⟩ := met entry.1 entry.2 here
    rw [threshold, Map.insert_empty_eq_some] at here
    rw [here.1] at total enough ⊢
    exact ⟨_, totalStake, signed ▸ Map.insert_self .., total, enough⟩
  obtain ⟨full, checked⟩ := checkIfFullStakeThresholdMet_ok known
  rw [checked]
  cases full with
  | true => exact ⟨.fullStakeThresholdMet, rfl, nofun⟩
  | false =>
    rw [reached]
    exact ⟨.thresholdReached, rfl, nofun⟩

/-- A submission gets through the rollup's checks, with the signers' stake and key, exactly if nobody without stake is
listed and the signers without stake make no difference to the key. -/
theorem submission_iff (met : ThresholdsMet info signers) {set : OperatorSet} (copy : CopyOf evm info set)
    (conversion : PointConversion Sig Key) (message : M) (forceFinished : Bool) (indices : CheckSignaturesIndices)
    (orders : Orders info) :
    ∃ response,
      getMessageBlsAggregationResponse info interface aggregation message messageDigest forceFinished (some indices)
        orders = .ok response ∧ response.err = none ∧ ∀ points, ∃ signatureInfo,
      extractBindingRollup conversion (response.aggregation.read points) = .ok signatureInfo ∧
      (AcceptedFor evm info set signers signatureInfo ↔
        (∀ operatorId, (info.operatorsAvsStateDict.states operatorId).isSome → operatorId ∉ signers →
          stakeOf info operatorId 0 ≠ 0) ∧
        ∑ operatorId ∈ signers with stakeOf info operatorId 0 = 0, evm.value (pubkeyOf info operatorId) = 0) := by
  obtain ⟨entry, found, rfl, _⟩ := collected.entry
  obtain ⟨status, computed, _⟩ := quorum.status_ok collected met orders
  obtain ⟨response, built, noError⟩ : ∃ response, getMessageBlsAggregationResponse info interface aggregation message
      messageDigest forceFinished (some indices) orders = .ok response ∧ response.err = none := by
    simp only [getMessageBlsAggregationResponse, found, computed]
    exact ⟨_, rfl, rfl⟩
  obtain ⟨_, _, filled⟩ := getMessageBlsAggregationResponse_ok built
  obtain ⟨entry', found', _, apk, signature, nonSigners⟩ := filled noError
  cases found.symm.trans found'
  refine ⟨response, built, noError, fun points => ?_⟩
  -- the checks do not look at the points, so it does not matter when they are read
  have extracted : extractBindingRollup conversion (response.aggregation.read points) = .ok {
      nonSignerPubkeys := response.aggregation.nonSignersPubkeysG1
      apkG2 := conversion.convertToBN254G2Point (points.apk entry.signersApkG2)
      sigma := conversion.convertToBN254G1Point (points.aggSig entry.signersAggSigG1) } := by
    simp only [extractBindingRollup, MessageBlsAggregation.read, apk, signature, Option.map_some]
  exact ⟨_, extracted, quorum.accepted_iff copy collected.known nonSigners⟩

end Response

/-! ## Two operators, the second perhaps without stake -/

section Pair

theorem stakeOf_small (members : List (ZMod 7 × Nat)) (percentage : QuorumThresholdPercentage)
    (valid : ValidPercentage percentage) (pubkey : G1Point) :
    stakeOf (smallInfo members percentage valid) (smallCurve.hashG1Point pubkey) 0 =
      ((members.find? fun entry => generatorMultiple entry.1 = pubkey).map Prod.snd).getD 0 := by
  have hashes : (fun entry : ZMod 7 × Nat => decide (multipleHash entry.1 = smallCurve.hashG1Point pubkey)) =
      fun entry => decide (generatorMultiple entry.1 = pubkey) := by
    funext entry
    have onCurve : (smallCurve.decode (generatorMultiple entry.1)).isSome := by rw [smallCurve_decode]; rfl
    rw [← smallCurve_hash, decide_eq_decide]
    exact ⟨fun same => (smallCurve.hashG1Point_inj onCurve same.symm).symm, fun same => by rw [same]⟩
  simp only [stakeOf, smallInfo, smallTable, smallStates, hashes]
  cases members.find? fun entry => decide (generatorMultiple entry.1 = pubkey) <;> rfl

def pairMembers (stake : Uint 96) : List (ZMod 7 × Nat) := [(1, 5), ((2 : Nat), stake.toNat)]

def pairInfo (stake : Uint 96) : ValidationInfo (ZMod 7) := smallInfo (pairMembers stake) 51 (by decide)

theorem pairMembers_distinct (stake : Uint 96) :
    ((pairMembers stake).map fun entry => multipleHash entry.1).Nodup :=
  show [multipleHash 1, multipleHash 2].Nodup by decide

def pairOrders (stake : Uint 96) : Orders (pairInfo stake) :=
  smallOrders (pairMembers stake) 51 (by decide) (pairMembers_distinct stake)

theorem pair_known {stake : Uint 96} {operatorId : OperatorId} :
    ((pairInfo stake).operatorsAvsStateDict.states operatorId).isSome ↔
      operatorId = multipleHash 1 ∨ operatorId = multipleHash 2 := by
  refine (smallStates_isSome (pairMembers stake) operatorId).trans ?_
  simp [pairMembers]

theorem pairInfo_firstQuorum (stake : Uint 96) : FirstQuorum smallCurve (pairInfo stake) where
  id_eq operatorId operator found := by
    obtain ⟨entry, _, rfl, key, _⟩ := smallStates_eq_some found
    rw [key, smallCurve_hash]
  valid operatorId operator found := by
    obtain ⟨entry, _, _, key, _⟩ := smallStates_eq_some found
    rw [key, smallCurve_decode]
    rfl
  stake operatorId operator found := by
    obtain ⟨entry, member, _, _, stakes⟩ := smallStates_eq_some found
    simp only [pairMembers, List.mem_cons, List.not_mem_nil, or_false] at member
    rcases member with rfl | rfl
    · exact ⟨5, stakes⟩
    · exact ⟨stake, stakes⟩
  total := by
    have others : ∀ operatorId ∈ Finset.univ, operatorId ∉ ({multipleHash 1, multipleHash 2} : Finset OperatorId) →
        stakeOf (pairInfo stake) operatorId 0 = 0 := by
      intro operatorId _ other
      have absent : ¬ ((pairInfo stake).operatorsAvsStateDict.states operatorId).isSome := by
        rw [pair_known]
        simpa using other
      simp [stakeOf, Option.not_isSome_iff_eq_none.mp absent]
    rw [← Finset.sum_subset (Finset.subset_univ _) others, Finset.sum_pair (by decide)]
    rfl
  threshold := ⟨51, rfl⟩

theorem pairInfo_weights (stake : Uint 96) :
    (fun pubkey => stakeOf (pairInfo stake) (smallCurve.hashG1Point pubkey) 0) =
      Function.update (Function.update (fun _ => 0) (generatorMultiple 1) 5) (generatorMultiple 2) stake.toNat := by
  funext pubkey
  rw [pairInfo, stakeOf_small]
  by_cases first : pubkey = generatorMultiple 1
  · subst first
    rfl
  · by_cases second : pubkey = generatorMultiple 2
    · subst second
      rw [Function.update_self]
      rfl
    · simp [pairMembers, List.find?, first, second, eq_comm]

def pairAggregation (stake : Uint 96) (operator : ZMod 7) : Aggregation (ZMod 7) (ZMod 7) :=
  recordSigner (Round.initial (pairInfo stake) : Round MessageDigest _ _).aggregation 5 (multipleHash operator) operator
    (smallScheme.sign operator 5)

theorem pairAggregation_collected (stake : Uint 96) {operator : ZMod 7} (known : operator = 1 ∨ operator = 2) :
    Collected (pairInfo stake) (pairAggregation stake operator) 5 {multipleHash operator} where
  known := by
    intro operatorId member
    rw [Finset.mem_singleton.mp member, pair_known]
    rcases known with rfl | rfl
    · exact Or.inl rfl
    · exact Or.inr rfl
  entry := by
    refine ⟨_, rfl, rfl, ?_⟩
    rw [Finset.sum_singleton]
    rcases known with rfl | rfl <;> rfl

theorem pair_thresholdsMet {stake : Uint 96} {operator : ZMod 7}
    (enough : (5 + stake.toNat) * 51 ≤ stakeOf (pairInfo stake) (multipleHash operator) 0 * 100) :
    ThresholdsMet (pairInfo stake) {multipleHash operator} := by
  intro quorumNum percentage threshold
  obtain ⟨rfl, rfl⟩ := Map.insert_empty_eq_some.mp threshold
  refine ⟨5 + stake.toNat, rfl, ?_⟩
  rw [Finset.sum_singleton]
  exact enough

def plainConversion : PointConversion (ZMod 7) (ZMod 7) := ⟨generatorMultiple, fun _ => ⟨(0, 0), (0, 0)⟩⟩

theorem submission_iff_bothStaked :
    ∃ set response signatureInfo,
      update smallCurve OperatorSet.empty [⟨generatorMultiple 1, 5⟩, ⟨generatorMultiple 2, 7⟩] = .ok set ∧
      getMessageBlsAggregationResponse (pairInfo 7) plainMessages (pairAggregation 7 2) 5 5 false
        (some CheckSignaturesIndices.empty) (pairOrders 7) = .ok response ∧
      extractBindingRollup plainConversion (response.aggregation.read (pairAggregation 7 2).points) = .ok signatureInfo ∧
      AcceptedFor smallCurve (pairInfo 7) set {multipleHash 2} signatureInfo := by
  obtain ⟨set, success⟩ : ∃ set, update smallCurve OperatorSet.empty
      [⟨generatorMultiple 1, 5⟩, ⟨generatorMultiple 2, 7⟩] = .ok set := ⟨_, rfl⟩
  have empty : Represents smallCurve OperatorSet.empty fun _ => 0 := ⟨consistent_empty, rfl⟩
  have copy : CopyOf smallCurve (pairInfo 7) set := by
    rw [CopyOf, pairInfo_weights]
    exact empty.update success
  obtain ⟨response, built, _, read⟩ :=
    submission_iff plainMessages (pairInfo_firstQuorum 7) (pairAggregation_collected 7 (Or.inr rfl))
      (pair_thresholdsMet (by decide)) copy plainConversion 5 false CheckSignaturesIndices.empty (pairOrders 7)
  obtain ⟨signatureInfo, extracted, accepted⟩ := read (pairAggregation 7 2).points
  refine ⟨set, response, signatureInfo, success, built, extracted, accepted.mpr ⟨?_, ?_⟩⟩
  · intro operatorId known _
    rcases pair_known.mp known with rfl | rfl <;> decide
  · rw [Finset.filter_singleton, if_neg (by decide), Finset.sum_empty]

/-- The second operator is registered without stake. The first one's signature is enough for the aggregator, and the
rollup rejects the submission because it lists the second one. -/
theorem submission_listing_zero_stake :
    ∃ set response signatureInfo,
      update smallCurve OperatorSet.empty [⟨generatorMultiple 1, 5⟩] = .ok set ∧ CopyOf smallCurve (pairInfo 0) set ∧
      getMessageBlsAggregationResponse (pairInfo 0) plainMessages (pairAggregation 0 1) 5 5 false
        (some CheckSignaturesIndices.empty) (pairOrders 0) = .ok response ∧
      response.status = .fullStakeThresholdMet ∧
      extractBindingRollup plainConversion (response.aggregation.read (pairAggregation 0 1).points) = .ok signatureInfo ∧
      signersOf smallCurve set signatureInfo.nonSignerPubkeys = .error (.reason "Operator has zero weight") := by
  have copy : ∀ set, update smallCurve OperatorSet.empty [⟨generatorMultiple 1, 5⟩] = .ok set →
      CopyOf smallCurve (pairInfo 0) set := by
    intro set success
    have empty : Represents smallCurve OperatorSet.empty fun _ => 0 := ⟨consistent_empty, rfl⟩
    have unchanged : Function.update (Function.update (fun _ => 0) (generatorMultiple 1) 5) (generatorMultiple 2)
        (0 : Uint 96).toNat = Function.update (fun _ => 0) (generatorMultiple 1) 5 :=
      Function.update_eq_iff.mpr ⟨by decide, fun _ _ => rfl⟩
    rw [CopyOf, pairInfo_weights, unchanged]
    exact empty.update success
  refine ⟨_, _, _, rfl, copy _ rfl, rfl, ?_, rfl, ?_⟩
  · decide +kernel
  · decide +kernel

end Pair

end Sffl.Aggregator
