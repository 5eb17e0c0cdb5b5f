import Sffl.Aggregator.RoundSteps
import Sffl.Eth.TaskManager
import Sffl.Evm.SmallCurve
import Sffl.Rollup.Attestation

/-! The three quorum tests side by side.

The task manager and the aggregator multiply both sides of the comparison out.
The rollup divides the required weight by the denominator and so rounds it down,
which lets signers pass who are short of the threshold by less than one unit of
weight.
-/

set_option autoImplicit false

namespace Sffl.Aggregator

open Sffl.Evm Sffl.Golang Sffl.Eth Sffl.Rollup

/-- A single quorum, in the smallest of the types that the tests use, small enough for their products. -/
structure QuorumCase where
  totalWeight : Uint 96
  signedWeight : Uint 96
  threshold : Uint 8
  initialized : totalWeight.toNat ≠ 0
  signed_le : signedWeight.toNat ≤ totalWeight.toNat
  threshold_le : threshold.toNat ≤ 100
  signed_fits : signedWeight.toNat * 100 < 2 ^ 96
  required_fits : totalWeight.toNat * threshold.toNat < 2 ^ 96

namespace QuorumCase
variable (quorum : QuorumCase)

def Reached : Prop :=
  quorum.threshold.toNat * quorum.totalWeight.toNat ≤ 100 * quorum.signedWeight.toNat

instance : Decidable quorum.Reached := inferInstanceAs (Decidable (_ ≤ _))

theorem decide_reached : decide (quorum.totalWeight.toNat * quorum.threshold.toNat ≤ quorum.signedWeight.toNat * 100) =
    decide quorum.Reached := by
  rw [decide_eq_decide, Reached, Nat.mul_comm quorum.threshold.toNat, Nat.mul_comm 100]

/-- The last comparison of `verifyCalldata`. -/
def rollupTest : Call Bool :=
  meetsQuorum (word quorum.signedWeight) (quorum.totalWeight.setWidth 128) (quorum.threshold.setWidth 128)

/-- `checkQuorum` for one quorum, with the stakes as the signature check reports them. -/
def taskManagerTest (quorumNumber : Uint 8) (hashOfNonSigners : Bytes32) : Call (Bool × Bytes32) :=
  checkQuorum (.ok (⟨[quorum.signedWeight], [quorum.totalWeight]⟩, hashOfNonSigners)) [quorumNumber]
    (quorum.threshold.setWidth 32)

def aggregatorTest (quorumNum : QuorumNum) : Except Fault Bool :=
  checkIfStakeThresholdsMet (Map.empty.insert quorumNum quorum.signedWeight.toNat)
    (Map.empty.insert quorumNum quorum.totalWeight.toNat) [(quorumNum, quorum.threshold)]

def TestsAgree : Prop :=
  quorum.rollupTest = .ok (decide quorum.Reached) ∧
  (∀ quorumNumber hashOfNonSigners,
    quorum.taskManagerTest quorumNumber hashOfNonSigners = .ok (decide quorum.Reached, hashOfNonSigners)) ∧
  ∀ quorumNum, quorum.aggregatorTest quorumNum = .ok (decide quorum.Reached)

theorem rollupTest_eq : quorum.rollupTest =
    .ok (decide (quorum.totalWeight.toNat * quorum.threshold.toNat / 100 ≤ quorum.signedWeight.toNat)) := by
  have weight := word_toNat quorum.signedWeight (by decide)
  have total : (quorum.totalWeight.setWidth 128).toNat = quorum.totalWeight.toNat :=
    BitVec.toNat_setWidth_of_le (by decide)
  have threshold : (quorum.threshold.setWidth 128).toNat = quorum.threshold.toNat :=
    BitVec.toNat_setWidth_of_le (by decide)
  have fits : quorum.totalWeight.toNat * quorum.threshold.toNat < 2 ^ 128 :=
    quorum.required_fits.trans (by decide)
  have product : checkedMul (quorum.totalWeight.setWidth 128) (quorum.threshold.setWidth 128) =
      .ok (BitVec.ofNatLT _ fits) := by
    rw [checkedMul_eq_ok, total, threshold, BitVec.toNat_ofNatLT]
  rw [rollupTest, meetsQuorum, product, ok_bind, weight, BitVec.toNat_ofNatLT]
  rfl

theorem taskManagerTest_eq (quorumNumber : Uint 8) (hashOfNonSigners : Bytes32) :
    quorum.taskManagerTest quorumNumber hashOfNonSigners = .ok (decide quorum.Reached, hashOfNonSigners) := by
  have widened : ((quorum.threshold.setWidth 32).setWidth 96).toNat = quorum.threshold.toNat :=
    (BitVec.toNat_setWidth_of_le (by decide)).trans (BitVec.toNat_setWidth_of_le (by decide))
  have signed : checkedMul quorum.signedWeight Eth.THRESHOLD_DENOMINATOR = .ok (BitVec.ofNatLT _ quorum.signed_fits) := by
    rw [checkedMul_eq_ok, BitVec.toNat_ofNatLT]
    rfl
  have required : checkedMul quorum.totalWeight ((quorum.threshold.setWidth 32).setWidth 96) =
      .ok (BitVec.ofNatLT _ quorum.required_fits) := by
    rw [checkedMul_eq_ok, BitVec.toNat_ofNatLT, widened]
  have passes : quorumPasses ⟨[quorum.signedWeight], [quorum.totalWeight]⟩ (quorum.threshold.setWidth 32) 0 =
      .ok (decide quorum.Reached) := by
    simp only [quorumPasses, stakeAt, List.getElem?_cons_zero, ok_bind, signed, required, BitVec.toNat_ofNatLT]
    exact congrArg Except.ok quorum.decide_reached
  have only : List.range [quorumNumber].length = [0] := rfl
  simp only [taskManagerTest, checkQuorum, ok_bind, only, checkQuorums, passes]
  cases decide quorum.Reached <;> rfl

theorem aggregatorTest_eq (quorumNum : QuorumNum) : quorum.aggregatorTest quorumNum = .ok (decide quorum.Reached) := by
  have met : stakeThresholdMet (some quorum.signedWeight.toNat) (some quorum.totalWeight.toNat) quorum.threshold =
      .ok (decide quorum.Reached) := congrArg Except.ok quorum.decide_reached
  simp only [aggregatorTest, checkIfStakeThresholdsMet, Map.insert_self, met, ok_bind]
  cases decide quorum.Reached <;> rfl

/-- The rounding only matters when the signers have exactly the rounded weight. -/
theorem testsAgree_iff :
    quorum.TestsAgree ↔
      100 ∣ quorum.threshold.toNat * quorum.totalWeight.toNat ∨
        quorum.signedWeight.toNat ≠ quorum.threshold.toNat * quorum.totalWeight.toNat / 100 := by
  have others : quorum.TestsAgree ↔ quorum.rollupTest = .ok (decide quorum.Reached) :=
    and_iff_left ⟨quorum.taskManagerTest_eq, quorum.aggregatorTest_eq⟩
  rw [others, rollupTest_eq, Except.ok.injEq, decide_eq_decide, Reached, Nat.mul_comm quorum.totalWeight.toNat]
  generalize quorum.threshold.toNat * quorum.totalWeight.toNat = required
  omega

def nobodySigns : QuorumCase where
  totalWeight := 1
  signedWeight := 0
  threshold := 66
  initialized := by decide
  signed_le := by decide
  threshold_le := by decide
  signed_fits := by decide
  required_fits := by decide

/-- The rollup accepts the attestation that lists its only operator as a non-signer. With nobody's key left, the points
at infinity are a valid signature. -/
theorem nobodySigns_accepted :
    nobodySigns.rollupTest = .ok true ∧ nobodySigns.taskManagerTest 0 0 = .ok (false, 0) ∧
      nobodySigns.aggregatorTest 0 = .ok false ∧
      ((update smallCurve { OperatorSet.empty with quorumThreshold := 66 } [⟨generatorMultiple 1, 1⟩]).bind fun set =>
        verifyCalldata smallCurve set 5 ⟨[generatorMultiple 1], ⟨(0, 0), (0, 0)⟩, ⟨0, 0⟩⟩) = .ok true := by
  decide +kernel

end QuorumCase

end Sffl.Aggregator
