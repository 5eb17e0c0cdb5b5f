import Mathlib.Algebra.BigOperators.Group.Finset.Sigma
import Sffl.Rollup.Representation

/-! What an accepted attestation says about the operator set.

The non-signer loop succeeds exactly on the lists whose key hashes increase and
whose keys all carry weight. Such a list has no repetition and names members
only, so what the loop leaves is the weight and the key sum of the members that
are not listed.
-/

set_option autoImplicit false

namespace Sffl.Rollup

open Sffl.Evm Sffl.Algebra

variable {G : Type} [AddCommGroup G] (evm : Precompiles G)

/-- Increasing hashes, after the hash of the previous non-signer if there is one. -/
def SortedAfter (previous : Option Bytes32) (pubkeys : List G1Point) : Prop :=
  (previous.toList ++ pubkeys.map evm.hashG1Point).Pairwise fun first second => first.toNat < second.toNat

structure Checked (set : OperatorSet) (pubkeys : List G1Point) : Prop where
  sorted : SortedAfter evm none pubkeys
  weighted : ∀ pubkey ∈ pubkeys, weights evm set.toTally pubkey ≠ 0

variable {evm}

theorem sortedAfter_cons {previous : Option Bytes32} {pubkey : G1Point} {pubkeys : List G1Point} :
    SortedAfter evm previous (pubkey :: pubkeys) ↔
      (∀ hash ∈ previous, hash.toNat < (evm.hashG1Point pubkey).toNat) ∧
        SortedAfter evm (some (evm.hashG1Point pubkey)) pubkeys := by
  cases previous with
  | none => simp [SortedAfter]
  | some hash =>
    simp only [SortedAfter, Option.toList, List.map_cons, List.cons_append, List.nil_append,
      List.pairwise_cons, List.mem_cons, Option.mem_def, Option.some.injEq]
    constructor
    · rintro ⟨first, rest⟩
      exact ⟨fun _ same => same ▸ first _ (Or.inl rfl), rest⟩
    · rintro ⟨first, rest⟩
      refine ⟨fun other place => ?_, rest⟩
      rcases place with rfl | later
      · exact first hash rfl
      · exact (first hash rfl).trans (rest.1 other later)

theorem subtractNonSigner_eq_ok {self : OperatorSet} {loop after : NonSigners} {pubkey : G1Point} :
    subtractNonSigner evm self loop pubkey = .ok after ↔
      (∀ hash ∈ loop.previous, hash.toNat < (evm.hashG1Point pubkey).toNat) ∧
      weights evm self.toTally pubkey ≠ 0 ∧
      evm.plus loop.apk pubkey = .ok after.apk ∧
      loop.weight.toNat = after.weight.toNat + weights evm self.toTally pubkey ∧
      after.previous = some (evm.hashG1Point pubkey) := by
  have extended := word_toNat (self.pubkeyHashToWeight (evm.hashG1Point pubkey)) (by decide)
  simp only [subtractNonSigner, bind_eq_ok, require_eq_ok, checkedSub_eq_ok, extended, ne_eq,
    ← toNat_eq_zero, weights, Option.all_eq_true, decide_eq_true_eq, ← Option.mem_def]
  constructor
  · rintro ⟨_, sorted, _, weighted, apk, added, weight, left, result⟩
    cases result
    exact ⟨sorted, weighted, added, left, rfl⟩
  · rintro ⟨sorted, weighted, added, left, previous⟩
    refine ⟨(), sorted, (), weighted, after.apk, added, after.weight, left, ?_⟩
    cases after
    simp_all [pure, Except.pure]

/-- A loop that ran to its end has seen a checked list and has moved each listed
key and weight once from the locals. -/
theorem nonSignerLoop_sound {self : OperatorSet} (consistent : Consistent evm self.toTally)
    (pubkeys : List G1Point) {sum : G} {weight : Uint 256} {previous : Option Bytes32} {loop : NonSigners}
    (success : pubkeys.foldlM (subtractNonSigner evm self) ⟨evm.encode sum, weight, previous⟩ = .ok loop) :
    SortedAfter evm previous pubkeys ∧ (∀ pubkey ∈ pubkeys, weights evm self.toTally pubkey ≠ 0) ∧
      loop.apk = evm.encode (sum + (pubkeys.map evm.value).sum) ∧
      weight.toNat = loop.weight.toNat + (pubkeys.map (weights evm self.toTally)).sum := by
  -- the locals change with every iteration, so they are general in the induction
  induction pubkeys generalizing sum weight previous with
  | nil =>
    simp only [List.foldlM_nil, pure, Except.pure, Except.ok.injEq] at success
    subst loop
    cases previous <;> simp [SortedAfter]
  | cons pubkey pubkeys ih =>
    rw [List.foldlM_cons] at success
    obtain ⟨⟨apk, rest, seen⟩, one, others⟩ := bind_eq_ok.mp success
    obtain ⟨first, weighted, added, left, rfl⟩ := subtractNonSigner_eq_ok.mp one
    rw [evm.plus_encode sum (consistent.valid weighted)] at added
    obtain rfl := Except.ok.inj added
    obtain ⟨sorted, allWeighted, key, remaining⟩ := ih others
    refine ⟨sortedAfter_cons.mpr ⟨first, sorted⟩, ?_, ?_, ?_⟩
    · simpa using ⟨weighted, allWeighted⟩
    · rw [key, List.map_cons, List.sum_cons, add_assoc]
    · simp only [List.map_cons, List.sum_cons] at left remaining ⊢
      omega

theorem nonSignerLoop_complete {self : OperatorSet} (consistent : Consistent evm self.toTally)
    (pubkeys : List G1Point) (sum : G) (weight : Uint 256) (previous : Option Bytes32)
    (sorted : SortedAfter evm previous pubkeys)
    (weighted : ∀ pubkey ∈ pubkeys, weights evm self.toTally pubkey ≠ 0)
    (covered : (pubkeys.map (weights evm self.toTally)).sum ≤ weight.toNat) :
    ∃ loop, pubkeys.foldlM (subtractNonSigner evm self) ⟨evm.encode sum, weight, previous⟩ = .ok loop := by
  induction pubkeys generalizing sum weight previous with
  | nil => exact ⟨_, rfl⟩
  | cons pubkey pubkeys ih =>
    obtain ⟨first, rest⟩ := sortedAfter_cons.mp sorted
    have here : weights evm self.toTally pubkey ≠ 0 := weighted pubkey (by simp)
    simp only [List.map_cons, List.sum_cons] at covered
    have small : weight.toNat - weights evm self.toTally pubkey < 2 ^ 256 :=
      Nat.lt_of_le_of_lt (Nat.sub_le _ _) weight.isLt
    have one : subtractNonSigner evm self ⟨evm.encode sum, weight, previous⟩ pubkey =
        .ok ⟨evm.encode (sum + evm.value pubkey), BitVec.ofNatLT _ small, some (evm.hashG1Point pubkey)⟩ := by
      refine subtractNonSigner_eq_ok.mpr ⟨first, here, evm.plus_encode sum (consistent.valid here), ?_, rfl⟩
      simp only [BitVec.toNat_ofNatLT]
      omega
    have smaller : (pubkeys.map (weights evm self.toTally)).sum ≤ (BitVec.ofNatLT _ small).toNat := by
      simp only [BitVec.toNat_ofNatLT]
      omega
    obtain ⟨loop, others⟩ := ih (sum + evm.value pubkey) _ _ rest
      (fun key member => weighted key (by simp [member])) smaller
    exact ⟨loop, by rw [List.foldlM_cons, one]; exact others⟩

theorem Checked.nodup {self : OperatorSet} {pubkeys : List G1Point} (checked : Checked evm self pubkeys) :
    pubkeys.Nodup := by
  have hashes : (pubkeys.map evm.hashG1Point).Nodup :=
    checked.sorted.imp fun less same => absurd (congrArg BitVec.toNat same) (Nat.ne_of_lt less)
  exact hashes.of_map

theorem Checked.subset {self : OperatorSet} {pubkeys : List G1Point} (checked : Checked evm self pubkeys) :
    pubkeys.toFinset ⊆ members (weights evm self.toTally) := by
  intro pubkey member
  exact mem_members.mpr (checked.weighted pubkey (List.mem_toFinset.mp member))

theorem signersOf_checked {self : OperatorSet} (consistent : Consistent evm self.toTally)
    {pubkeys : List G1Point} (checked : Checked evm self pubkeys) :
    ∃ weight, signersOf evm self pubkeys =
        .ok (evm.encode (∑ pubkey ∈ members (weights evm self.toTally) \ pubkeys.toFinset, evm.value pubkey),
          weight) ∧
      weight.toNat =
        ∑ pubkey ∈ members (weights evm self.toTally) \ pubkeys.toFinset, weights evm self.toTally pubkey := by
  have extended := word_toNat self.totalWeight (by decide)
  -- the listed weights are part of the total, so the subtractions never underflow
  have split := total_sdiff checked.subset
  rw [List.sum_toFinset (weights evm self.toTally) checked.nodup, ← consistent.totalWeight] at split
  obtain ⟨loop, run⟩ := nonSignerLoop_complete consistent pubkeys 0 (word self.totalWeight) none
    checked.sorted checked.weighted (by omega)
  obtain ⟨_, _, key, left⟩ := nonSignerLoop_sound consistent pubkeys run
  rw [zero_add] at key
  have final : evm.plus self.apk (evm.negate loop.apk) = .ok (evm.encode
      (∑ pubkey ∈ members (weights evm self.toTally) \ pubkeys.toFinset, evm.value pubkey)) := by
    -- `plus` takes the negated sum because it is the encoding of a group element
    have valid : (evm.decode loop.apk).isSome := by simp [key, evm.decode_encode]
    obtain ⟨negated, value⟩ := evm.negate_valid valid
    rw [consistent.apk, evm.plus_encode _ negated, value, key, evm.value_encode,
      keySum_sdiff evm.value checked.subset, List.sum_toFinset _ checked.nodup]
  refine ⟨loop.weight, ?_, by omega⟩
  simp only [signersOf, ← evm.encode_zero, run, ok_bind, final]
  rfl

/-- Only checked lists get past the loop, whatever order or content they have. -/
theorem signersOf_only_checked {self : OperatorSet} (consistent : Consistent evm self.toTally)
    {pubkeys : List G1Point} {result : G1Point × Uint 256}
    (success : signersOf evm self pubkeys = .ok result) : Checked evm self pubkeys := by
  simp only [signersOf, bind_eq_ok, ← evm.encode_zero] at success
  obtain ⟨loop, run, _⟩ := success
  obtain ⟨sorted, weighted, _⟩ := nonSignerLoop_sound consistent pubkeys run
  exact ⟨sorted, weighted⟩

/-- A verification that returns has run the pairing on the key of `signersOf`. -/
theorem verifyCalldata_eq_ok {self : OperatorSet} {msgHash : Bytes32} {signatureInfo : SignatureInfo}
    {accepted : Bool} (success : verifyCalldata evm self msgHash signatureInfo = .ok accepted) :
    ∃ apk weight, signersOf evm self signatureInfo.nonSignerPubkeys = .ok (apk, weight) ∧
      trySignatureAndApkVerification evm msgHash apk signatureInfo.apkG2 signatureInfo.sigma = .ok (true, true) ∧
      meetsQuorum weight self.totalWeight self.quorumThreshold = .ok accepted := by
  simp only [verifyCalldata, bind_eq_ok, require_eq_ok] at success
  obtain ⟨_, _, ⟨apk, weight⟩, signers, ⟨_, _⟩, pairing, _, rfl, _, rfl, quorum⟩ := success
  exact ⟨apk, weight, signers, pairing, quorum⟩

end Sffl.Rollup
