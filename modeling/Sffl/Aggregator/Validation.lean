import Sffl.Evm.SmallCurve
import Sffl.Golang.Map

/-! What an aggregation round knows about the operators and their stakes.

`fetchValidationInfo` puts it together from the registry at one block. The
registry clients are EigenLayer's: their results are arguments here, and a call
that fails is one that has no result.
-/

set_option autoImplicit false

namespace Sffl.Aggregator

open Sffl.Evm Sffl.Golang

abbrev OperatorId := Bytes32

abbrev QuorumNum := Uint 8

abbrev QuorumThresholdPercentage := Uint 8

abbrev MessageDigest := Bytes32

abbrev MessageKey := Bytes32

inductive ServiceError where
  | messageExpired
  | messageNotFound (messageDigest : MessageDigest)
  | operatorNotPartOfMessageQuorum (operatorId : OperatorId) (messageDigest : MessageDigest)
  | signatureVerification
  | incorrectSignature
  | messageDigestNotFound
  | quorumThresholdPercentageOutOfBounds
  | quorumThresholdPercentageLessThan51
  | registryCall
  | contextDone
  deriving DecidableEq, Repr

/-- A function returns an error, or it takes the process down: with a fatal log
entry, a nil dereference or an index out of range. -/
inductive Fault where
  | failed (error : ServiceError)
  | crashed
  deriving DecidableEq, Repr

def validateQuorumThresholdPercentages : List QuorumThresholdPercentage → Except Fault Unit
  | [] => .ok ()
  | percentage :: rest =>
    if 100 < percentage.toNat then .error (.failed .quorumThresholdPercentageOutOfBounds)
    else if percentage.toNat < 51 then .error (.failed .quorumThresholdPercentageLessThan51)
    else validateQuorumThresholdPercentages rest

def ValidPercentage (percentage : QuorumThresholdPercentage) : Prop :=
  51 ≤ percentage.toNat ∧ percentage.toNat ≤ 100

instance : DecidablePred ValidPercentage := fun _ => inferInstanceAs (Decidable (_ ∧ _))

theorem validate_eq_ok {percentages : List QuorumThresholdPercentage} :
    validateQuorumThresholdPercentages percentages = .ok () ↔ ∀ percentage ∈ percentages, ValidPercentage percentage := by
  induction percentages with
  | nil => simp [validateQuorumThresholdPercentages]
  | cons percentage rest ih =>
    simp only [validateQuorumThresholdPercentages, List.mem_cons, forall_eq_or_imp, ValidPercentage]
    split
    · simp only [reduceCtorEq, false_iff]
      omega
    · split
      · simp only [reduceCtorEq, false_iff]
        omega
      · rw [ih]
        simp only [ValidPercentage, iff_and_self]
        omega

/-! ## Registry results -/

section Registry
variable (Key : Type)

/-- An operator of the registry. The second key is missing if the registry's
index has not seen it. -/
structure OperatorAvsState where
  G1Pubkey : G1Point
  G2Pubkey : Option Key
  stakePerQuorum : Map QuorumNum Nat

structure OperatorTable where
  states : Map OperatorId (OperatorAvsState Key)
  pubkeys_distinct : ∀ operatorId other state state', states operatorId = some state → states other = some state' →
    state.G1Pubkey = state'.G1Pubkey → operatorId = other

structure QuorumAvsState where
  totalStake : Nat
  aggPubkeyG1 : G1Point

/-- The results of the calls that `fetchValidationInfo` makes. -/
structure RegistryResults where
  blockNumber : Option (Uint 64)
  operators : Option (OperatorTable Key)
  quorums : Option (Map QuorumNum QuorumAvsState)

/-- `signedMessageDigestValidationInfo`, apart from the dictionary that the round fills. -/
structure ValidationInfo where
  operatorsAvsStateDict : OperatorTable Key
  totalStakePerQuorum : Map QuorumNum Nat
  quorumApksG1 : List (Option G1Point)
  quorumThresholdPercentagesMap : Map QuorumNum QuorumThresholdPercentage
  quorumNumbers : List QuorumNum
  ethBlockNumber : Uint 64
  percentages_valid : ∀ quorumNum percentage, quorumThresholdPercentagesMap quorumNum = some percentage →
    ValidPercentage percentage

end Registry

variable {Key : Type}

def percentagesMap (map : Map QuorumNum QuorumThresholdPercentage) :
    List QuorumNum → List QuorumThresholdPercentage → Except Fault (Map QuorumNum QuorumThresholdPercentage)
  | [], _ => .ok map
  | quorumNumber :: quorumNumbers, percentage :: percentages =>
      percentagesMap (map.insert quorumNumber percentage) quorumNumbers percentages
  | _ :: _, [] => .error .crashed

theorem percentagesMap_valid {quorumNumbers : List QuorumNum} {percentages : List QuorumThresholdPercentage}
    {map result : Map QuorumNum QuorumThresholdPercentage}
    (built : percentagesMap map quorumNumbers percentages = .ok result)
    (valid : ∀ percentage ∈ percentages, ValidPercentage percentage)
    (before : ∀ quorumNum percentage, map quorumNum = some percentage → ValidPercentage percentage) :
    ∀ quorumNum percentage, result quorumNum = some percentage → ValidPercentage percentage := by
  induction quorumNumbers generalizing map percentages with
  | nil =>
    cases built
    exact before
  | cons quorumNumber quorumNumbers ih =>
    cases percentages with
    | nil => cases built
    | cons percentage percentages =>
      refine ih built (fun other member => valid other (List.mem_cons_of_mem _ member)) ?_
      intro quorumNum other found
      by_cases same : quorumNum = quorumNumber
      · subst same
        rw [Map.insert_self] at found
        cases found
        exact valid percentage List.mem_cons_self
      · rw [Map.insert_of_ne _ _ same] at found
        exact before quorumNum other found

def currentBlock (ethBlockNumber : Uint 64) (blockNumber : Option (Uint 64)) : Except Fault (Uint 64) :=
  if ethBlockNumber = 0 then
    match blockNumber with
    | some current => .ok current
    | none => .error .crashed
  else .ok ethBlockNumber

def registryCall {A : Type} (result : Option A) : Except Fault A :=
  match result with
  | some value => .ok value
  | none => .error (.failed .registryCall)

def fetchValidationInfo (quorumNumbers : List QuorumNum) (percentages : List QuorumThresholdPercentage)
    (valid : ∀ percentage ∈ percentages, ValidPercentage percentage) (ethBlockNumber : Uint 64)
    (results : RegistryResults Key) : Except Fault (ValidationInfo Key) := do
  let ethBlockNumber ← currentBlock ethBlockNumber results.blockNumber
  let operatorsAvsStateDict ← registryCall results.operators
  let quorumsAvsStakeDict ← registryCall results.quorums
  let totalStakePerQuorum : Map QuorumNum Nat := fun quorumNum => (quorumsAvsStakeDict quorumNum).map (·.totalStake)
  let quorumApksG1 := quorumNumbers.map fun quorumNumber => (quorumsAvsStakeDict quorumNumber).map (·.aggPubkeyG1)
  -- the percentages have passed `validateQuorumThresholdPercentages` before
  match built : percentagesMap Map.empty quorumNumbers percentages with
  | .error fault => .error fault
  | .ok quorumThresholdPercentagesMap =>
    return {
      operatorsAvsStateDict, totalStakePerQuorum, quorumApksG1, quorumThresholdPercentagesMap, quorumNumbers,
      ethBlockNumber
      percentages_valid := percentagesMap_valid built valid fun _ _ => nofun }

/-! ## A concrete table

Operators of the small curve with a stake in the first quorum. The scalar stands
for both keys of an operator.
-/

def smallStates (members : List (ZMod 7 × Nat)) : Map OperatorId (OperatorAvsState (ZMod 7)) := fun operatorId =>
  (members.find? fun entry => multipleHash entry.1 = operatorId).map fun entry => {
    G1Pubkey := generatorMultiple entry.1
    G2Pubkey := some entry.1
    stakePerQuorum := Map.empty.insert 0 entry.2 }

theorem smallStates_eq_some {members : List (ZMod 7 × Nat)} {operatorId : OperatorId}
    {state : OperatorAvsState (ZMod 7)} (found : smallStates members operatorId = some state) :
    ∃ entry ∈ members, multipleHash entry.1 = operatorId ∧ state.G1Pubkey = generatorMultiple entry.1 ∧
      state.stakePerQuorum = Map.empty.insert 0 entry.2 := by
  obtain ⟨entry, place, rfl⟩ := Option.map_eq_some_iff.mp found
  exact ⟨entry, List.mem_of_find?_eq_some place, by simpa using List.find?_some place, rfl, rfl⟩

theorem smallStates_isSome (members : List (ZMod 7 × Nat)) (operatorId : OperatorId) :
    (smallStates members operatorId).isSome ↔ operatorId ∈ members.map fun entry => multipleHash entry.1 := by
  simp [smallStates]

def smallTable (members : List (ZMod 7 × Nat)) : OperatorTable (ZMod 7) where
  states := smallStates members
  pubkeys_distinct := by
    intro operatorId other state state' found otherFound same
    obtain ⟨entry, _, rfl, key, _⟩ := smallStates_eq_some found
    obtain ⟨entry', _, rfl, key', _⟩ := smallStates_eq_some otherFound
    have injective : ∀ first second : ZMod 7, generatorMultiple first = generatorMultiple second → first = second := by
      decide
    rw [injective _ _ (key.symm.trans (same.trans key'))]

def smallInfo (members : List (ZMod 7 × Nat)) (percentage : QuorumThresholdPercentage)
    (valid : ValidPercentage percentage) : ValidationInfo (ZMod 7) where
  operatorsAvsStateDict := smallTable members
  totalStakePerQuorum := Map.empty.insert 0 (members.map Prod.snd).sum
  quorumApksG1 := [some (generatorMultiple (members.map Prod.fst).sum)]
  quorumThresholdPercentagesMap := Map.empty.insert 0 percentage
  quorumNumbers := [0]
  ethBlockNumber := 1
  percentages_valid := by
    intro quorumNum other found
    rw [(Map.insert_empty_eq_some.mp found).2]
    exact valid

theorem twoThirds_valid : ValidPercentage 66 := by decide

end Sffl.Aggregator
