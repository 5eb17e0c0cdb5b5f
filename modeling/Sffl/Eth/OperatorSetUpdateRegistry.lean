import Sffl.Rollup.Representation

/-! The mainnet registry of operator set updates.

An update is a block number; its operator set is read back from the AVS
registries as they stood at that block. Those registries are EigenLayer's: only
their view functions appear here, with what they keep true of an operator list.
-/

set_option autoImplicit false

namespace Sffl.Eth

open Sffl.Evm Sffl.Algebra Sffl.Rollup

variable {G : Type} [AddCommGroup G] (evm : Precompiles G)

/-- The views of the index, key and stake registries for quorum 0. An operator
id is the hash of the registered key, a key is registered once and only with a
signature that proves possession, and the stakes of a quorum have their total in
96 bits. There is no lower bound on a stake. -/
structure AvsRegistries where
  getOperatorListAtBlockNumber : Uint 32 → List Bytes32
  getOperatorFromPubkeyHash : Bytes32 → Address
  getRegisteredPubkey : Address → G1Point
  getStakeAtBlockNumber : Bytes32 → Uint 32 → Uint 96
  getTotalStakeAtBlockNumber : Uint 32 → Uint 96
  listed_once : ∀ blockNumber, (getOperatorListAtBlockNumber blockNumber).Nodup
  registered : ∀ blockNumber, ∀ operatorId ∈ getOperatorListAtBlockNumber blockNumber,
    let pubkey := getRegisteredPubkey (getOperatorFromPubkeyHash operatorId)
    evm.hashG1Point pubkey = operatorId ∧ (evm.decode pubkey).isSome
  totalStake : ∀ blockNumber, (getTotalStakeAtBlockNumber blockNumber).toNat =
    ((getOperatorListAtBlockNumber blockNumber).map fun operatorId =>
      (getStakeAtBlockNumber operatorId blockNumber).toNat).sum

structure OperatorSetUpdateRegistry where
  operatorSetUpdateIdToBlockNumber : List (Uint 32)

def getOperatorSetUpdateCount (state : OperatorSetUpdateRegistry) : Uint 64 :=
  BitVec.ofNat 64 state.operatorSetUpdateIdToBlockNumber.length

def blockNumberOf (state : OperatorSetUpdateRegistry) (id : Uint 64) : Call (Uint 32) :=
  match state.operatorSetUpdateIdToBlockNumber[id.toNat]? with
  | some blockNumber => .ok blockNumber
  | none => .error .panic

theorem blockNumberOf_eq_ok {state : OperatorSetUpdateRegistry} {id : Uint 64} {blockNumber : Uint 32} :
    blockNumberOf state id = .ok blockNumber ↔
      state.operatorSetUpdateIdToBlockNumber[id.toNat]? = some blockNumber := by
  unfold blockNumberOf
  cases state.operatorSetUpdateIdToBlockNumber[id.toNat]? <;> simp

def recordedInBlock (state : OperatorSetUpdateRegistry) (blockNumber : Uint 256) : Call Bool :=
  let id := getOperatorSetUpdateCount state
  if 0 < id.toNat then do
    let last ← blockNumberOf state (id - 1)
    return decide (last.setWidth 256 = blockNumber)
  else .ok false

def recordOperatorSetUpdate (registryCoordinator : Address) (state : OperatorSetUpdateRegistry) (sender : Address)
    (blockNumber : Uint 256) : Call OperatorSetUpdateRegistry := do
  require (sender = registryCoordinator)
    "SFFLOperatorSetUpdateRegistry.onlyRegistryCoordinator: caller is not the registry coordinator"
  let recorded ← recordedInBlock state blockNumber
  if recorded then return state
  return ⟨state.operatorSetUpdateIdToBlockNumber ++ [blockNumber.setWidth 32]⟩

theorem recordedInBlock_eq {state : OperatorSetUpdateRegistry} {blockNumber : Uint 256}
    (small : blockNumber.toNat < 2 ^ 32) (few : state.operatorSetUpdateIdToBlockNumber.length < 2 ^ 64) :
    recordedInBlock state blockNumber =
      .ok (decide (state.operatorSetUpdateIdToBlockNumber.getLast? = some (blockNumber.setWidth 32))) := by
  obtain ⟨numbers⟩ := state
  have count : (getOperatorSetUpdateCount ⟨numbers⟩).toNat = numbers.length := Nat.mod_eq_of_lt few
  unfold recordedInBlock
  dsimp only
  rw [count]
  rcases List.eq_nil_or_concat numbers with rfl | ⟨earlier, last, rfl⟩
  · rfl
  · rw [List.concat_eq_append] at count ⊢
    have place : (getOperatorSetUpdateCount ⟨earlier ++ [last]⟩ - 1).toNat = earlier.length := by
      rw [List.length_append, List.length_singleton] at count
      bv_omega
    have fits : last.setWidth 256 = blockNumber ↔ last = blockNumber.setWidth 32 := by
      rw [← BitVec.toNat_inj, ← BitVec.toNat_inj, BitVec.toNat_setWidth, BitVec.toNat_setWidth,
        Nat.mod_eq_of_lt small, Nat.mod_eq_of_lt (last.isLt.trans (by decide))]
    rw [if_pos (by simp), blockNumberOf, place, List.getElem?_concat_length]
    simp [fits, pure, Except.pure]

theorem recordOperatorSetUpdate_ok {registryCoordinator sender : Address} {state after : OperatorSetUpdateRegistry}
    {blockNumber : Uint 256} (small : blockNumber.toNat < 2 ^ 32)
    (few : state.operatorSetUpdateIdToBlockNumber.length < 2 ^ 64)
    (success : recordOperatorSetUpdate registryCoordinator state sender blockNumber = .ok after) :
    after.operatorSetUpdateIdToBlockNumber =
      if state.operatorSetUpdateIdToBlockNumber.getLast? = some (blockNumber.setWidth 32) then
        state.operatorSetUpdateIdToBlockNumber
      else state.operatorSetUpdateIdToBlockNumber ++ [blockNumber.setWidth 32] := by
  simp only [recordOperatorSetUpdate, bind_eq_ok, recordedInBlock_eq small few, Except.ok.injEq] at success
  obtain ⟨_, _, recorded, rfl, result⟩ := success
  split
  next same =>
    rw [if_pos (decide_eq_true same)] at result
    cases result
    rfl
  next different =>
    rw [if_neg (by simpa using different)] at result
    cases result
    rfl

variable {evm}

def getOperatorSetAtBlock (registries : AvsRegistries evm) (blockNumber : Uint 32) : List Operator :=
  (registries.getOperatorListAtBlockNumber blockNumber).map fun operatorId =>
    let operator := registries.getOperatorFromPubkeyHash operatorId
    let pubkey := registries.getRegisteredPubkey operator
    let stake := registries.getStakeAtBlockNumber operatorId blockNumber
    { pubkey, weight := stake.setWidth 128 }

/-- The first half of `getOperatorSetUpdate`. -/
def getPreviousOperatorSet (registries : AvsRegistries evm) (state : OperatorSetUpdateRegistry)
    (operatorSetUpdateId : Uint 64) : Call (List Operator) :=
  if 0 < operatorSetUpdateId.toNat then do
    let blockNumber ← blockNumberOf state (operatorSetUpdateId - 1)
    return getOperatorSetAtBlock registries blockNumber
  else .ok []

def getOperatorSetUpdate (registries : AvsRegistries evm) (state : OperatorSetUpdateRegistry)
    (operatorSetUpdateId : Uint 64) : Call (List Operator × List Operator) := do
  let previousOperatorSet ← getPreviousOperatorSet registries state operatorSetUpdateId
  let blockNumber ← blockNumberOf state operatorSetUpdateId
  let newOperatorSet := getOperatorSetAtBlock registries blockNumber
  return (previousOperatorSet, newOperatorSet)

/-! ## The sets that can be read back -/

variable (evm) in
structure WellFormed (bound : Nat) (operators : List Operator) : Prop where
  distinct : (operators.map Operator.pubkey).Nodup
  valid : ∀ operator ∈ operators, (evm.decode operator.pubkey).isSome
  total : (operators.map fun operator => operator.weight.toNat).sum < bound

theorem WellFormed.mono {operators : List Operator} {bound larger : Nat}
    (wellFormed : WellFormed evm bound operators) (le : bound ≤ larger) : WellFormed evm larger operators :=
  ⟨wellFormed.distinct, wellFormed.valid, wellFormed.total.trans_le le⟩

theorem wellFormed_nil {bound : Nat} (positive : 0 < bound) : WellFormed evm bound [] :=
  ⟨List.nodup_nil, by simp, by simpa using positive⟩

theorem WellFormed.distinct_entries {bound : Nat} {operators : List Operator}
    (wellFormed : WellFormed evm bound operators) : ((operators.map Operator.entry).map Prod.fst).Nodup := by
  rw [List.map_map]
  exact wellFormed.distinct

theorem WellFormed.total_listed {bound : Nat} {operators : List Operator}
    (wellFormed : WellFormed evm bound operators) :
    Algebra.total (listed (operators.map Operator.entry)) =
      (operators.map fun operator => operator.weight.toNat).sum := by
  rw [Algebra.total_listed wellFormed.distinct_entries, List.map_map]
  rfl

theorem WellFormed.valid_of_listed {bound : Nat} {operators : List Operator}
    (wellFormed : WellFormed evm bound operators) {pubkey : G1Point}
    (weighted : listed (operators.map Operator.entry) pubkey ≠ 0) : (evm.decode pubkey).isSome := by
  by_contra invalid
  apply weighted
  apply overwrite_of_not_mem
  rw [List.map_map]
  intro member
  obtain ⟨operator, listed, rfl⟩ := List.mem_map.mp member
  exact invalid (wellFormed.valid operator listed)

theorem getOperatorSetAtBlock_wellFormed (registries : AvsRegistries evm) (blockNumber : Uint 32) :
    WellFormed evm (2 ^ 96) (getOperatorSetAtBlock registries blockNumber) := by
  have registered := registries.registered blockNumber
  refine ⟨?_, ?_, ?_⟩
  · rw [getOperatorSetAtBlock, List.map_map]
    -- an id is the hash of its key, so operators with one key have one id
    refine List.Nodup.map_on ?_ (registries.listed_once blockNumber)
    intro first firstListed second secondListed same
    rw [← (registered first firstListed).1, ← (registered second secondListed).1]
    exact congrArg evm.hashG1Point same
  · simp only [getOperatorSetAtBlock, List.mem_map]
    rintro operator ⟨operatorId, member, rfl⟩
    exact (registered operatorId member).2
  · have stakes : ((getOperatorSetAtBlock registries blockNumber).map fun operator => operator.weight.toNat).sum =
        (registries.getTotalStakeAtBlockNumber blockNumber).toNat := by
      rw [registries.totalStake, getOperatorSetAtBlock, List.map_map]
      exact congrArg List.sum (List.map_congr_left fun _ _ => BitVec.toNat_setWidth_of_le (by decide))
    rw [stakes]
    exact (registries.getTotalStakeAtBlockNumber blockNumber).isLt

/-- Both sets of an update are read back at recorded blocks; the first update
starts from the empty set. -/
theorem getOperatorSetUpdate_ok {registries : AvsRegistries evm} {state : OperatorSetUpdateRegistry}
    {id : Uint 64} {previous new : List Operator}
    (success : getOperatorSetUpdate registries state id = .ok (previous, new)) :
    (id = 0 ∧ previous = [] ∨ ∃ blockNumber, blockNumberOf state (id - 1) = .ok blockNumber ∧
      previous = getOperatorSetAtBlock registries blockNumber) ∧
    ∃ blockNumber, blockNumberOf state id = .ok blockNumber ∧
      new = getOperatorSetAtBlock registries blockNumber := by
  obtain ⟨before, previousSet, rest⟩ := bind_eq_ok.mp success
  obtain ⟨blockNumber, recorded, result⟩ := bind_eq_ok.mp rest
  cases result
  refine ⟨?_, blockNumber, recorded, rfl⟩
  unfold getPreviousOperatorSet at previousSet
  by_cases positive : 0 < id.toNat
  · rw [if_pos positive] at previousSet
    obtain ⟨earlier, found, read⟩ := bind_eq_ok.mp previousSet
    cases read
    exact Or.inr ⟨earlier, found, rfl⟩
  · rw [if_neg positive] at previousSet
    cases previousSet
    exact Or.inl ⟨toNat_eq_zero.mp (by omega), rfl⟩

theorem getOperatorSetUpdate_wellFormed {registries : AvsRegistries evm} {state : OperatorSetUpdateRegistry}
    {id : Uint 64} {previous new : List Operator}
    (success : getOperatorSetUpdate registries state id = .ok (previous, new)) :
    WellFormed evm (2 ^ 96) previous ∧ WellFormed evm (2 ^ 96) new := by
  obtain ⟨⟨_, rfl⟩ | ⟨before, _, rfl⟩, after, _, rfl⟩ := getOperatorSetUpdate_ok success
  · exact ⟨wellFormed_nil (by decide), getOperatorSetAtBlock_wellFormed registries after⟩
  · exact ⟨getOperatorSetAtBlock_wellFormed registries before, getOperatorSetAtBlock_wellFormed registries after⟩

/-- Consecutive updates share the set between them. -/
theorem getOperatorSetUpdate_consecutive {registries : AvsRegistries evm} {state : OperatorSetUpdateRegistry}
    {id : Uint 64} {previous shared before new : List Operator} (noWrap : id + 1 ≠ 0)
    (first : getOperatorSetUpdate registries state id = .ok (previous, shared))
    (second : getOperatorSetUpdate registries state (id + 1) = .ok (before, new)) : before = shared := by
  obtain ⟨_, blockNumber, recorded, rfl⟩ := getOperatorSetUpdate_ok first
  obtain ⟨⟨zero, _⟩ | ⟨other, found, rfl⟩, _⟩ := getOperatorSetUpdate_ok second
  · exact absurd zero noWrap
  · rw [BitVec.add_sub_cancel, recorded] at found
    rw [Except.ok.inj found]

/-! ## Reading while updates are recorded -/

section Updates
variable {registries : AvsRegistries evm} {updates : OperatorSetUpdateRegistry} {id : Uint 64}

theorem blockNumberOf_append {blockNumber : Uint 32} (more : List (Uint 32))
    (found : blockNumberOf updates id = .ok blockNumber) :
    blockNumberOf ⟨updates.operatorSetUpdateIdToBlockNumber ++ more⟩ id = .ok blockNumber := by
  have place := blockNumberOf_eq_ok.mp found
  refine blockNumberOf_eq_ok.mpr ?_
  rw [← place]
  exact List.getElem?_append_left (List.getElem?_eq_some_iff.mp place).1

theorem getPreviousOperatorSet_append {operators : List Operator} (more : List (Uint 32))
    (read : getPreviousOperatorSet registries updates id = .ok operators) :
    getPreviousOperatorSet registries ⟨updates.operatorSetUpdateIdToBlockNumber ++ more⟩ id = .ok operators := by
  unfold getPreviousOperatorSet at read ⊢
  split at read
  next later =>
    obtain ⟨blockNumber, found, result⟩ := bind_eq_ok.mp read
    rw [if_pos later, blockNumberOf_append more found]
    exact result
  next first =>
    rw [if_neg first]
    exact read

theorem getOperatorSetUpdate_append {previous new : List Operator} (more : List (Uint 32))
    (read : getOperatorSetUpdate registries updates id = .ok (previous, new)) :
    getOperatorSetUpdate registries ⟨updates.operatorSetUpdateIdToBlockNumber ++ more⟩ id = .ok (previous, new) := by
  obtain ⟨before, previousSet, rest⟩ := bind_eq_ok.mp read
  obtain ⟨blockNumber, found, result⟩ := bind_eq_ok.mp rest
  rw [getOperatorSetUpdate, getPreviousOperatorSet_append more previousSet, ok_bind, blockNumberOf_append more found]
  exact result

theorem getPreviousOperatorSet_next {previous new : List Operator} {next : Uint 64} (successor : next.toNat = id.toNat + 1)
    (read : getOperatorSetUpdate registries updates id = .ok (previous, new)) :
    getPreviousOperatorSet registries updates next = .ok new := by
  obtain ⟨_, blockNumber, found, rfl⟩ := getOperatorSetUpdate_ok read
  have before : next - 1 = id := by bv_omega
  rw [getPreviousOperatorSet, if_pos (by omega), before, found]
  rfl

theorem getOperatorSetUpdate_fst {previous new operators : List Operator}
    (read : getOperatorSetUpdate registries updates id = .ok (previous, new))
    (expected : getPreviousOperatorSet registries updates id = .ok operators) : previous = operators := by
  obtain ⟨before, previousSet, rest⟩ := bind_eq_ok.mp read
  obtain ⟨blockNumber, found, result⟩ := bind_eq_ok.mp rest
  cases result
  exact Except.ok.inj (previousSet.symm.trans expected)

theorem getOperatorSetUpdate_lt {previous new : List Operator}
    (read : getOperatorSetUpdate registries updates id = .ok (previous, new)) :
    id.toNat < updates.operatorSetUpdateIdToBlockNumber.length := by
  obtain ⟨_, blockNumber, found, _⟩ := getOperatorSetUpdate_ok read
  exact (List.getElem?_eq_some_iff.mp (blockNumberOf_eq_ok.mp found)).1

theorem getPreviousOperatorSet_wellFormed {operators : List Operator}
    (read : getPreviousOperatorSet registries updates id = .ok operators) : WellFormed evm (2 ^ 96) operators := by
  unfold getPreviousOperatorSet at read
  split at read
  · obtain ⟨blockNumber, _, result⟩ := bind_eq_ok.mp read
    cases result
    exact getOperatorSetAtBlock_wellFormed registries blockNumber
  · cases read
    exact wellFormed_nil (by decide)

theorem recordOperatorSetUpdate_append {registryCoordinator sender : Address} {after : OperatorSetUpdateRegistry}
    {blockNumber : Uint 256} (success : recordOperatorSetUpdate registryCoordinator updates sender blockNumber = .ok after) :
    ∃ more, after = ⟨updates.operatorSetUpdateIdToBlockNumber ++ more⟩ ∧ more.length ≤ 1 := by
  simp only [recordOperatorSetUpdate, bind_eq_ok] at success
  obtain ⟨_, _, recorded, _, result⟩ := success
  split at result
  · cases result
    exact ⟨[], by rw [List.append_nil], Nat.zero_le 1⟩
  · cases result
    exact ⟨[_], rfl, Nat.le_refl 1⟩

end Updates

end Sffl.Eth
