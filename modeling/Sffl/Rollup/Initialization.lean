import Sffl.Eth.OperatorSetUpdateRegistry
import Sffl.Rollup.Registry

/-! The first operator set of a rollup.

The aggregator reads the set of a mainnet update and enters it as it is. An
operator that is registered with no stake is part of such a set.
-/

set_option autoImplicit false

namespace Sffl.Rollup

open Sffl.Evm Sffl.Algebra Sffl.Eth

variable {G : Type} [AddCommGroup G] {evm : Precompiles G}

def getOperatorSetById (registries : AvsRegistries evm) (updates : OperatorSetUpdateRegistry) (id : Uint 64) :
    Call (List Operator) := do
  let (_, newOperatorSet) ← getOperatorSetUpdate registries updates id
  return newOperatorSet

/-- The call that `RollupWriter` sends. Its id arithmetic is that of Go's `uint64`. -/
def initializeOperatorSet (evm : Precompiles G) (state : Registry) (sender : Address)
    (operators : List Operator) (operatorSetUpdateId : Uint 64) : Call Registry :=
  setInitialOperatorSet evm state sender operators (operatorSetUpdateId + 1)

def tryInitializeRollupOperatorSet (registries : AvsRegistries evm) (updates : OperatorSetUpdateRegistry)
    (state : Registry) (sender : Address) : Call Registry :=
  if state.nextOperatorUpdateId ≠ 0 then .ok state
  else do
    let id := getOperatorSetUpdateCount updates - 1
    let operators ← getOperatorSetById registries updates id
    initializeOperatorSet evm state sender operators id

theorem update_takes_next {state after : Registry} {message : OperatorSetUpdate}
    (accepted : (∃ signatureInfo, updateOperatorSet evm state message signatureInfo = .ok after) ∨
      ∃ sender, forceOperatorSetUpdate evm state sender message = .ok after) :
    message.id = state.nextOperatorUpdateId := by
  rcases accepted with ⟨signatureInfo, success⟩ | ⟨sender, success⟩
  · exact (updateOperatorSet_eq_ok success).1
  · exact (forceOperatorSetUpdate_eq_ok success).1

variable (evm) in
theorem initializeRegistry_eq_ok {state : Registry} {quorumThreshold : Uint 128} {initialOwner aggregator : Address}
    (success : initializeRegistry quorumThreshold initialOwner aggregator = .ok state) :
    state.aggregator = aggregator ∧ state.operatorSet.totalWeight = 0 ∧
      Represents evm state.operatorSet (listed []) := by
  simp only [initializeRegistry, bind_eq_ok, setQuorumThreshold_eq_ok] at success
  obtain ⟨operatorSet, ⟨_, rfl⟩, result⟩ := success
  cases result
  exact ⟨rfl, rfl, consistent_empty, rfl⟩

theorem update_empty_iff {self : OperatorSet} (empty : Represents evm self (listed []))
    {operators : List Operator} (wellFormed : WellFormed evm (2 ^ 96) operators) :
    (∃ after, update evm self operators = .ok after) ↔ ∀ operator ∈ operators, operator.weight ≠ 0 := by
  constructor
  · rintro ⟨after, success⟩ operator member
    -- an entry must change the weight that it finds, and an empty set has no weight
    have changed := updateLoop_changed empty.consistent wellFormed.distinct (update_eq_ok.mp success).1
      operator member
    rw [empty.weights] at changed
    exact mt toNat_eq_zero.mpr changed
  · intro weighted
    refine empty.update_succeeds wellFormed.distinct wellFormed.valid ?_ ?_
    · intro operator member
      exact mt toNat_eq_zero.mp (weighted operator member)
    · have small := wellFormed.total
      have none : total (listed ([] : List (G1Point × Nat))) = 0 := total_listed List.nodup_nil
      omega

/-- A fresh rollup can be initialised from a mainnet update exactly when every
operator of the update's set has stake. -/
theorem initializeOperatorSet_iff {registries : AvsRegistries evm} {updates : OperatorSetUpdateRegistry}
    {id : Uint 64} {operators : List Operator} (read : getOperatorSetById registries updates id = .ok operators)
    {fresh : Registry} {quorumThreshold : Uint 128} {initialOwner aggregator : Address}
    (initialised : initializeRegistry quorumThreshold initialOwner aggregator = .ok fresh) :
    (∃ after, initializeOperatorSet evm fresh aggregator operators id = .ok after ∧
      Represents evm after.operatorSet (listed (operators.map Operator.entry)) ∧
      after.operatorSet.totalWeight.toNat = (operators.map fun operator => operator.weight.toNat).sum ∧
      after.nextOperatorUpdateId = id + 1 ∧
      ∀ message later,
        (∃ signatureInfo, updateOperatorSet evm after message signatureInfo = .ok later) ∨
          (∃ sender, forceOperatorSetUpdate evm after sender message = .ok later) →
        message.id = id + 1) ↔
      ∀ operator ∈ operators, operator.weight ≠ 0 := by
  obtain ⟨⟨previous, _⟩, pair, result⟩ := bind_eq_ok.mp read
  cases result
  have wellFormed := (getOperatorSetUpdate_wellFormed pair).2
  obtain ⟨sender, uninitialised, empty⟩ := initializeRegistry_eq_ok evm initialised
  rw [← update_empty_iff empty wellFormed]
  constructor
  · rintro ⟨after, success, _⟩
    obtain ⟨_, _, operatorSet, updated, _⟩ := setInitialOperatorSet_eq_ok.mp success
    exact ⟨operatorSet, updated⟩
  · rintro ⟨operatorSet, updated⟩
    have represents : Represents evm operatorSet (listed _) := empty.update updated
    refine ⟨{ fresh with operatorSet, nextOperatorUpdateId := id + 1 },
      setInitialOperatorSet_eq_ok.mpr ⟨sender.symm, uninitialised, operatorSet, updated, rfl⟩,
      represents, ?_, rfl, fun message later accepted => update_takes_next accepted⟩
    rw [represents.consistent.totalWeight, represents.weights, wellFormed.total_listed]

def twoRegistered (first second : Uint 96) (fits : first.toNat + second.toNat < 2 ^ 96) :
    AvsRegistries smallCurve where
  getOperatorListAtBlockNumber _ := [multipleHash 1, multipleHash (2 : Nat)]
  getOperatorFromPubkeyHash operatorId := if operatorId = multipleHash 1 then 1 else 2
  getRegisteredPubkey operator := if operator = 1 then generatorMultiple 1 else generatorMultiple (2 : Nat)
  getStakeAtBlockNumber operatorId _ := if operatorId = multipleHash 1 then first else second
  getTotalStakeAtBlockNumber _ := BitVec.ofNatLT (first.toNat + second.toNat) fits
  listed_once _ := by decide
  registered _ := by
    simp only [List.mem_cons, List.not_mem_nil, or_false, forall_eq_or_imp, forall_eq]
    decide +kernel
  totalStake _ := by
    have different : multipleHash 2 ≠ multipleHash 1 := by decide
    simp [different]

theorem initializeOperatorSet_iff_bothStaked :
    ∃ after, initializeOperatorSet smallCurve freshRegistry 2
        [⟨generatorMultiple 1, 5⟩, ⟨generatorMultiple 2, 7⟩] 0 = .ok after ∧
      after.nextOperatorUpdateId = 0 + 1 := by
  have read : getOperatorSetById (twoRegistered 5 7 (by decide)) ⟨[100]⟩ 0 =
      .ok [⟨generatorMultiple 1, 5⟩, ⟨generatorMultiple 2, 7⟩] := by decide +kernel
  have initialised : initializeRegistry 66 1 2 = .ok freshRegistry := rfl
  obtain ⟨after, success, _, _, next, _⟩ :=
    (initializeOperatorSet_iff read initialised).mpr (by simp)
  exact ⟨after, success, next⟩

/-- One registered operator without stake makes the whole call revert. -/
theorem initializeOperatorSet_zeroStake :
    getOperatorSetById (twoRegistered 5 0 (by decide)) ⟨[100]⟩ 0 =
        .ok [⟨generatorMultiple 1, 5⟩, ⟨generatorMultiple 2, 0⟩] ∧
      initializeRegistry 66 1 2 = .ok freshRegistry ∧
      initializeOperatorSet smallCurve freshRegistry 2
        [⟨generatorMultiple 1, 5⟩, ⟨generatorMultiple 2, 0⟩] 0 =
        .error (.reason "Operator is up to date") :=
  ⟨by decide +kernel, rfl, rfl⟩

theorem tryInitializeRollupOperatorSet_next {registries : AvsRegistries evm}
    {updates : OperatorSetUpdateRegistry} {state after : Registry} {sender : Address}
    (uninitialised : state.nextOperatorUpdateId = 0)
    (success : tryInitializeRollupOperatorSet registries updates state sender = .ok after) :
    after.nextOperatorUpdateId = getOperatorSetUpdateCount updates := by
  rw [tryInitializeRollupOperatorSet, if_neg (not_not_intro uninitialised)] at success
  obtain ⟨operators, _, entered⟩ := bind_eq_ok.mp success
  obtain ⟨_, _, operatorSet, _, rfl⟩ := setInitialOperatorSet_eq_ok.mp entered
  exact BitVec.sub_add_cancel _ _

end Sffl.Rollup
