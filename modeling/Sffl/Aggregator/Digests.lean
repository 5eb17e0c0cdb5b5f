import Sffl.Aggregator.Soundness
import Sffl.Semantics.Prefixes

/-! Whether the digests of one round stay apart.

The first signer's stake map is a digest's accumulator, and it stays the
operator's entry of the table. A second signer with stake therefore changes the
table, and the change is read again when the first signer signs another digest.
-/

set_option autoImplicit false

namespace Sffl.Aggregator

open Sffl.Evm Sffl.Golang Sffl.Semantics

variable {M Sig Key : Type} {interface : MessageInterface M}

section Definitions
variable (info : ValidationInfo Key)

def fetchedStakes (operatorId : OperatorId) : Map QuorumNum Nat :=
  ((info.operatorsAvsStateDict.states operatorId).map OperatorAvsState.stakePerQuorum).getD Map.empty

def signedStake (aggregation : Aggregation Sig Key) (messageDigest : MessageDigest) (quorumNum : QuorumNum) : Nat :=
  ((aggregation.aggregatedOperatorsDict messageDigest).bind fun entry =>
    aggregation.stakes entry.signersTotalStakePerQuorum quorumNum).getD 0

def signersIn (messages : List (SignedMessage interface Sig)) (messageDigest : MessageDigest) : Finset OperatorId :=
  ((messages.filter fun signedMessage => signedMessage.messageDigest = messageDigest).map
    SignedMessage.operatorId).toFinset

def firstSigner? (messages : List (SignedMessage interface Sig)) (messageDigest : MessageDigest) : Option OperatorId :=
  (messages.find? fun signedMessage => signedMessage.messageDigest = messageDigest).map SignedMessage.operatorId

/-- Every digest's stake is that of its own signers. -/
def StakesSeparate (messages : List (SignedMessage interface Sig)) (aggregation : Aggregation Sig Key) : Prop :=
  ∀ messageDigest quorumNum, signedStake aggregation messageDigest quorumNum =
    ∑ operatorId ∈ signersIn messages messageDigest, stakeOf info operatorId quorumNum

def TableKept (aggregation : Aggregation Sig Key) : Prop := aggregation.stakes = fetchedStakes info

/-- The message finds the operator's own stakes in the table and, if the operator has stake, no other digest that has
the same accumulator. -/
structure Apart (aggregation : Aggregation Sig Key) (signedMessage : SignedMessage interface Sig) : Prop where
  own : ∀ quorumNum, (aggregation.stakes signedMessage.operatorId quorumNum).getD 0 =
    stakeOf info signedMessage.operatorId quorumNum
  unshared : ∀ other entry entry', other ≠ signedMessage.messageDigest →
    aggregation.aggregatedOperatorsDict signedMessage.messageDigest = some entry →
    aggregation.aggregatedOperatorsDict other = some entry' →
    entry.signersTotalStakePerQuorum = entry'.signersTotalStakePerQuorum →
    ∀ quorumNum, stakeOf info signedMessage.operatorId quorumNum = 0

/-- If the digest has been signed before, all stakes of the operator are zero, in quorums of the first signer. -/
def FirstOrUnstaked (messages : List (SignedMessage interface Sig)) (signedMessage : SignedMessage interface Sig) : Prop :=
  ∀ first, firstSigner? messages signedMessage.messageDigest = some first →
    ∀ quorumNum stake, fetchedStakes info signedMessage.operatorId quorumNum = some stake →
      stake = 0 ∧ (fetchedStakes info first quorumNum).isSome

variable [AddCommGroup Sig] [AddCommGroup Key] (scheme : SignatureScheme Sig Key)

def handleSignedMessages (messages : List (SignedMessage interface Sig)) : Except Fault (Aggregation Sig Key) :=
  messages.foldlM (handleSignedMessageDigest scheme info) (Round.initial info : Round M Sig Key).aggregation

end Definitions

theorem stakeOf_eq (info : ValidationInfo Key) (operatorId : OperatorId) (quorumNum : QuorumNum) :
    stakeOf info operatorId quorumNum = (fetchedStakes info operatorId quorumNum).getD 0 := by
  unfold stakeOf fetchedStakes
  cases info.operatorsAvsStateDict.states operatorId <;> rfl

/-! ## The signers of a digest -/

section Signers
variable {messages : List (SignedMessage interface Sig)} {signedMessage : SignedMessage interface Sig}

theorem signersIn_concat (messageDigest : MessageDigest) :
    signersIn (messages ++ [signedMessage]) messageDigest =
      if signedMessage.messageDigest = messageDigest then
        insert signedMessage.operatorId (signersIn messages messageDigest)
      else signersIn messages messageDigest := by
  unfold signersIn
  by_cases same : signedMessage.messageDigest = messageDigest
  · ext operatorId
    simp [same]
  · simp [same]

theorem firstSigner?_concat (messageDigest : MessageDigest) :
    firstSigner? (messages ++ [signedMessage]) messageDigest =
      if signedMessage.messageDigest = messageDigest then
        some ((firstSigner? messages messageDigest).getD signedMessage.operatorId)
      else firstSigner? messages messageDigest := by
  unfold firstSigner?
  rw [List.find?_append]
  by_cases same : signedMessage.messageDigest = messageDigest
  · cases messages.find? fun signedMessage => signedMessage.messageDigest = messageDigest <;> simp [same]
  · cases messages.find? fun signedMessage => signedMessage.messageDigest = messageDigest <;> simp [same]

theorem not_mem_signersIn
    (once : ((messages ++ [signedMessage]).map fun each => (each.operatorId, each.messageDigest)).Nodup) :
    signedMessage.operatorId ∉ signersIn messages signedMessage.messageDigest := by
  intro member
  simp only [signersIn, List.mem_toFinset, List.mem_map, List.mem_filter, decide_eq_true_eq] at member
  obtain ⟨earlier, ⟨listed, sameDigest⟩, sameOperator⟩ := member
  rw [List.map_append, List.nodup_append] at once
  refine once.2.2 (earlier.operatorId, earlier.messageDigest) (List.mem_map.mpr ⟨earlier, listed, rfl⟩)
    (signedMessage.operatorId, signedMessage.messageDigest) (by simp) ?_
  rw [sameDigest, sameOperator]

end Signers

/-! ## One more signer -/

section Record
variable [AddCommGroup Sig] [AddCommGroup Key] {aggregation : Aggregation Sig Key} {messageDigest : MessageDigest}
  (operatorId : OperatorId) (operatorG2Pubkey : Key) (blsSignature : Sig) (quorumNum : QuorumNum)

theorem signedStake_record_self :
    signedStake (recordSigner aggregation messageDigest operatorId operatorG2Pubkey blsSignature) messageDigest
        quorumNum =
      signedStake aggregation messageDigest quorumNum + (aggregation.stakes operatorId quorumNum).getD 0 := by
  unfold signedStake recordSigner
  cases known : aggregation.aggregatedOperatorsDict messageDigest with
  | none => simp
  | some entry => simp [addStakes_getD]

theorem signedStake_record_shared {other : MessageDigest} (different : other ≠ messageDigest)
    {entry entry' : AggregatedOperators Sig Key}
    (known : aggregation.aggregatedOperatorsDict messageDigest = some entry)
    (known' : aggregation.aggregatedOperatorsDict other = some entry')
    (shared : entry.signersTotalStakePerQuorum = entry'.signersTotalStakePerQuorum) :
    signedStake (recordSigner aggregation messageDigest operatorId operatorG2Pubkey blsSignature) other quorumNum =
      signedStake aggregation other quorumNum + (aggregation.stakes operatorId quorumNum).getD 0 := by
  unfold signedStake recordSigner
  simp [known, known', Map.insert_of_ne _ _ different, shared, addStakes_getD]

theorem signedStake_record_unshared {other : MessageDigest} (different : other ≠ messageDigest)
    (unshared : ∀ entry entry', aggregation.aggregatedOperatorsDict messageDigest = some entry →
      aggregation.aggregatedOperatorsDict other = some entry' →
      entry.signersTotalStakePerQuorum ≠ entry'.signersTotalStakePerQuorum) :
    signedStake (recordSigner aggregation messageDigest operatorId operatorG2Pubkey blsSignature) other quorumNum =
      signedStake aggregation other quorumNum := by
  unfold signedStake recordSigner
  cases known : aggregation.aggregatedOperatorsDict messageDigest with
  | none => simp [Map.insert_of_ne _ _ different]
  | some entry =>
    simp only [Map.insert_of_ne _ _ different]
    cases known' : aggregation.aggregatedOperatorsDict other with
    | none => rfl
    | some entry' =>
      have elsewhere := (unshared entry entry' known known').symm
      simp [Function.update_of_ne elsewhere]

theorem accumulator_record (other : MessageDigest) :
    ((recordSigner aggregation messageDigest operatorId operatorG2Pubkey blsSignature).aggregatedOperatorsDict
        other).map AggregatedOperators.signersTotalStakePerQuorum =
      if messageDigest = other then
        some (((aggregation.aggregatedOperatorsDict messageDigest).map
          AggregatedOperators.signersTotalStakePerQuorum).getD operatorId)
      else (aggregation.aggregatedOperatorsDict other).map AggregatedOperators.signersTotalStakePerQuorum := by
  unfold recordSigner
  by_cases same : messageDigest = other
  · subst same
    cases aggregation.aggregatedOperatorsDict messageDigest <;> simp
  · rw [if_neg same]
    cases aggregation.aggregatedOperatorsDict messageDigest <;> simp [Map.insert_of_ne _ _ (Ne.symm same)]

theorem addStakes_eq_self {accumulator stakePerQuorum : Map QuorumNum Nat} :
    addStakes accumulator stakePerQuorum = accumulator ↔
      ∀ quorumNum stake, stakePerQuorum quorumNum = some stake → stake = 0 ∧ (accumulator quorumNum).isSome := by
  constructor
  · intro same quorumNum stake found
    have here := congrFun same quorumNum
    simp only [addStakes, found] at here
    cases place : accumulator quorumNum with
    | none => simp [place] at here
    | some before => simpa [place] using here
  · intro zero
    funext quorumNum
    unfold addStakes
    cases found : stakePerQuorum quorumNum with
    | none => rfl
    | some stake =>
      obtain ⟨rfl, present⟩ := zero quorumNum stake found
      obtain ⟨before, place⟩ := Option.isSome_iff_exists.mp present
      simp [place]

end Record

/-! ## Whole rounds -/

section Messages
variable [AddCommGroup Sig] [AddCommGroup Key] {scheme : SignatureScheme Sig Key} {info : ValidationInfo Key}
  {messages : List (SignedMessage interface Sig)} {signedMessage : SignedMessage interface Sig}
  {aggregation : Aggregation Sig Key} {operatorG2Pubkey : Key}

theorem handleSignedMessages_concat :
    handleSignedMessages info scheme (messages ++ [signedMessage]) =
      (handleSignedMessages info scheme messages >>= fun aggregation =>
        handleSignedMessageDigest scheme info aggregation signedMessage) := by
  simp [handleSignedMessages, List.foldlM_append]

theorem handleSignedMessages_record (handled : handleSignedMessages info scheme messages = .ok aggregation)
    (verified : verifySignature scheme info signedMessage = .ok operatorG2Pubkey) :
    handleSignedMessages info scheme (messages ++ [signedMessage]) =
      .ok (recordSigner aggregation signedMessage.messageDigest signedMessage.operatorId operatorG2Pubkey
        signedMessage.blsSignature) := by
  rw [handleSignedMessages_concat, handled, ok_bind, handleSignedMessageDigest, verified, ok_bind,
    signedMessage.digest_eq]
  rfl

theorem accumulator_eq_first (handled : handleSignedMessages info scheme messages = .ok aggregation)
    (messageDigest : MessageDigest) :
    (aggregation.aggregatedOperatorsDict messageDigest).map AggregatedOperators.signersTotalStakePerQuorum =
      firstSigner? messages messageDigest := by
  induction messages using List.reverseRecOn generalizing aggregation with
  | nil =>
    cases handled
    rfl
  | append_singleton messages signedMessage ih =>
    rw [handleSignedMessages_concat] at handled
    obtain ⟨before, earlier, last⟩ := bind_eq_ok.mp handled
    obtain ⟨operatorG2Pubkey, _, rfl⟩ := handleSignedMessageDigest_ok last
    rw [accumulator_record, firstSigner?_concat]
    by_cases same : signedMessage.messageDigest = messageDigest
    · subst same
      rw [if_pos rfl, if_pos rfl, ih earlier]
    · rw [if_neg same, if_neg same, ih earlier]

theorem StakesSeparate.record_iff (separate : StakesSeparate info messages aggregation)
    (fresh : signedMessage.operatorId ∉ signersIn messages signedMessage.messageDigest) :
    StakesSeparate info (messages ++ [signedMessage]) (recordSigner aggregation signedMessage.messageDigest
      signedMessage.operatorId operatorG2Pubkey signedMessage.blsSignature) ↔ Apart info aggregation signedMessage := by
  constructor
  · intro after
    have own : ∀ quorumNum, (aggregation.stakes signedMessage.operatorId quorumNum).getD 0 =
        stakeOf info signedMessage.operatorId quorumNum := by
      intro quorumNum
      have here := after signedMessage.messageDigest quorumNum
      rw [signedStake_record_self, separate, signersIn_concat, if_pos rfl, Finset.sum_insert fresh] at here
      omega
    refine ⟨own, fun other entry entry' different known known' shared quorumNum => ?_⟩
    -- the other digest has gained the stake as well, and none of its signers
    have there := after other quorumNum
    rw [signedStake_record_shared _ _ _ _ different known known' shared, separate, signersIn_concat,
      if_neg (Ne.symm different), own] at there
    omega
  · intro apart messageDigest quorumNum
    by_cases same : messageDigest = signedMessage.messageDigest
    · subst same
      rw [signedStake_record_self, separate, signersIn_concat, if_pos rfl, Finset.sum_insert fresh, apart.own,
        add_comm]
    · rw [signersIn_concat, if_neg (Ne.symm same), ← separate messageDigest quorumNum]
      by_cases shared : ∃ entry entry',
          aggregation.aggregatedOperatorsDict signedMessage.messageDigest = some entry ∧
          aggregation.aggregatedOperatorsDict messageDigest = some entry' ∧
          entry.signersTotalStakePerQuorum = entry'.signersTotalStakePerQuorum
      · obtain ⟨entry, entry', known, known', sameMap⟩ := shared
        rw [signedStake_record_shared _ _ _ _ same known known' sameMap, apart.own,
          apart.unshared messageDigest entry entry' same known known' sameMap, add_zero]
      · exact signedStake_record_unshared _ _ _ _ same fun entry entry' known known' sameMap =>
          shared ⟨entry, entry', known, known', sameMap⟩

theorem TableKept.record_iff (kept : TableKept info aggregation)
    (handled : handleSignedMessages info scheme messages = .ok aggregation) :
    TableKept info (recordSigner aggregation signedMessage.messageDigest signedMessage.operatorId operatorG2Pubkey
      signedMessage.blsSignature) ↔ FirstOrUnstaked info messages signedMessage := by
  have first := accumulator_eq_first handled signedMessage.messageDigest
  unfold FirstOrUnstaked
  rw [← first]
  unfold recordSigner
  unfold TableKept at kept ⊢
  cases known : aggregation.aggregatedOperatorsDict signedMessage.messageDigest with
  | none => simp [kept]
  | some entry =>
    simp only [Option.map_some, Option.some.injEq, forall_eq', kept, ← addStakes_eq_self]
    constructor
    · intro after
      simpa using congrFun after entry.signersTotalStakePerQuorum
    · intro unchanged
      rw [unchanged, Function.update_eq_self]

theorem FirstOrUnstaked.apart (unstaked : FirstOrUnstaked info messages signedMessage)
    (handled : handleSignedMessages info scheme messages = .ok aggregation) (kept : TableKept info aggregation) :
    Apart info aggregation signedMessage := by
  refine ⟨fun quorumNum => ?_, fun other entry entry' _ known _ _ quorumNum => ?_⟩
  · rw [stakeOf_eq, kept]
  · have first := accumulator_eq_first handled signedMessage.messageDigest
    rw [known, Option.map_some] at first
    rw [stakeOf_eq]
    cases found : fetchedStakes info signedMessage.operatorId quorumNum with
    | none => rfl
    | some stake => exact (unstaked _ first.symm quorumNum stake found).1

/-- The stakes of the digests and the table stay right through a round without repetitions exactly if every signer
after a digest's first one has no stake. The stakes of the digests alone stay right exactly if every message is apart
from the digests before it. -/
theorem digests_separate_iff
    (valid : ∀ signedMessage ∈ messages, ∃ operatorG2Pubkey,
      verifySignature scheme info signedMessage = .ok operatorG2Pubkey)
    (once : (messages.map fun each => (each.operatorId, each.messageDigest)).Nodup) :
    ((∀ processed, processed <+: messages → ∃ aggregation,
        handleSignedMessages info scheme processed = .ok aggregation ∧
        StakesSeparate info processed aggregation ∧ TableKept info aggregation) ↔
      ∀ processed signedMessage, processed ++ [signedMessage] <+: messages →
        FirstOrUnstaked info processed signedMessage) ∧
    ((∀ processed, processed <+: messages → ∃ aggregation,
        handleSignedMessages info scheme processed = .ok aggregation ∧ StakesSeparate info processed aggregation) ↔
      ∀ processed signedMessage, processed ++ [signedMessage] <+: messages →
        ∀ aggregation, handleSignedMessages info scheme processed = .ok aggregation →
          Apart info aggregation signedMessage) := by
  have verified : ∀ processed signedMessage, processed ++ [signedMessage] <+: messages →
      ∃ operatorG2Pubkey, verifySignature scheme info signedMessage = .ok operatorG2Pubkey :=
    fun processed signedMessage initial => valid signedMessage (initial.subset (by simp))
  have fresh : ∀ processed signedMessage, processed ++ [signedMessage] <+: messages →
      signedMessage.operatorId ∉ signersIn processed signedMessage.messageDigest :=
    fun processed signedMessage initial => not_mem_signersIn (once.sublist (initial.sublist.map _))
  have start : StakesSeparate info ([] : List (SignedMessage interface Sig))
      (Round.initial info : Round M Sig Key).aggregation := fun _ _ => rfl
  constructor
  · apply forall_prefix_iff
    · exact ⟨_, rfl, start, rfl⟩
    · rintro processed signedMessage initial ⟨aggregation, handled, separate, kept⟩
      obtain ⟨operatorG2Pubkey, signature⟩ := verified processed signedMessage initial
      rw [handleSignedMessages_record handled signature]
      simp only [Except.ok.injEq, exists_eq_left', separate.record_iff (fresh processed signedMessage initial),
        kept.record_iff handled, and_iff_right_iff_imp]
      exact fun unstaked => unstaked.apart handled kept
  · apply forall_prefix_iff
    · exact ⟨_, rfl, start⟩
    · rintro processed signedMessage initial ⟨aggregation, handled, separate⟩
      obtain ⟨operatorG2Pubkey, signature⟩ := verified processed signedMessage initial
      rw [handleSignedMessages_record handled signature, handled]
      simp only [Except.ok.injEq, exists_eq_left', forall_eq', separate.record_iff (fresh processed signedMessage initial)]

end Messages

/-! ## Operators that sign two digests -/

def signsDigest (operator : ZMod 7) (messageDigest : MessageDigest) : SignedMessage plainMessages (ZMod 7) :=
  ⟨messageDigest, messageDigest, smallScheme.sign operator messageDigest, multipleHash operator, rfl⟩

def unstakedSecond : ValidationInfo (ZMod 7) := smallInfo [(1, 40), ((2 : Nat), 0)] 66 twoThirds_valid

theorem digests_separate_iff_unstakedSecond :
    ∃ aggregation, handleSignedMessages unstakedSecond smallScheme [signsDigest 1 5, signsDigest 2 5] =
        .ok aggregation ∧
      StakesSeparate unstakedSecond [signsDigest 1 5, signsDigest 2 5] aggregation ∧
      TableKept unstakedSecond aggregation := by
  have valid : ∀ signedMessage ∈ [signsDigest 1 5, signsDigest 2 5], ∃ operatorG2Pubkey,
      verifySignature smallScheme unstakedSecond signedMessage = .ok operatorG2Pubkey := by
    simp only [List.mem_cons, List.not_mem_nil, or_false, forall_eq_or_imp, forall_eq]
    exact ⟨⟨1, by decide⟩, ⟨2, by decide⟩⟩
  refine ((digests_separate_iff valid (by decide)).1.mpr ?_) _ (List.prefix_refl _)
  intro processed signedMessage initial first signed
  -- the first message has nobody before it, so the second one is meant
  match processed, initial with
  | [], _ => cases signed
  | [_], initial =>
    obtain ⟨rfl, rfl, _⟩ := by simpa using initial
    cases signed
    intro quorumNum stake found
    obtain ⟨rfl, rfl⟩ := Map.insert_empty_eq_some.mp found
    exact ⟨rfl, rfl⟩
  | _ :: _ :: _, initial => simpa using initial.length_le

/-- Two operators sign one digest, and the first of them signs another one, which starts with the stake of both. -/
theorem second_digest_takes_foreign_stake :
    let messages := [signsDigest 1 5, signsDigest 2 5, signsDigest 1 6]
    (messages.map fun each => (each.operatorId, each.messageDigest)).Nodup ∧
    ∃ aggregation, handleSignedMessages thirds smallScheme messages = .ok aggregation ∧
      signedStake aggregation 6 0 = 80 ∧ signersIn messages 6 = {multipleHash 1} ∧
      stakeOf thirds (multipleHash 1) 0 = 40 ∧ ¬ TableKept thirds aggregation := by
  refine ⟨by decide, ?_⟩
  have recorded : (handleSignedMessages thirds smallScheme
      [signsDigest 1 5, signsDigest 2 5, signsDigest 1 6] >>= fun aggregation =>
        .ok (signedStake aggregation 6 0, aggregation.stakes (multipleHash 1) 0)) = .ok (80, some 80) := by
    decide +kernel
  obtain ⟨aggregation, handled, fields⟩ := bind_eq_ok.mp recorded
  obtain ⟨stake, table⟩ := Prod.mk.inj (Except.ok.inj fields)
  refine ⟨aggregation, handled, stake, by decide, by decide, fun kept => ?_⟩
  rw [kept] at table
  revert table
  decide

end Sffl.Aggregator
