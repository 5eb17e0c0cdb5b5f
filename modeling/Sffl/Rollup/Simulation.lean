import Sffl.Chainio.DeltaAgreement
import Sffl.Rollup.Registry

/-! The rollup copy follows the mainnet operator set.

A rollup that represents one mainnet set and applies the delta to the next one
represents the next one, whatever the arrangement of the delta. So it follows
any history of sets, through operators that leave, return, change their weight or
have none.
-/

set_option autoImplicit false

namespace Sffl.Rollup

open Sffl.Evm Sffl.Algebra Sffl.Golang Sffl.Eth Sffl.Chainio

variable {G : Type} [AddCommGroup G] (evm : Precompiles G) (random : Nat → Nat → Nat)

/-- Consecutive operator sets, from a first to a last one, with the deltas
between them, each in any arrangement of what the chain reader returns. -/
inductive History (first : List Operator) : List (List Operator) → List Operator → Prop where
  | start : WellFormed evm (2 ^ 127) first → History first [] first
  | next {deltas : List (List Operator)} {middle last delta : List Operator} {order : List String} :
      History first deltas middle → WellFormed evm (2 ^ 127) last →
      (operatorUpdates middle last).Visits order →
      delta.Perm (getOperatorSetUpdateDelta random evm.keccak256 middle last order) →
      History first (deltas ++ [delta]) last

variable {evm random}

section Step
variable {previous new delta : List Operator} {order : List String}
  (previousSet : WellFormed evm (2 ^ 127) previous) (newSet : WellFormed evm (2 ^ 127) new)
  (visits : (operatorUpdates previous new).Visits order)
  (arranged : delta.Perm (getOperatorSetUpdateDelta random evm.keccak256 previous new order))
include visits arranged

theorem mem_delta {operator : Operator} :
    operator ∈ delta ↔
      listed (previous.map Operator.entry) operator.pubkey ≠ listed (new.map Operator.entry) operator.pubkey ∧
      operator.weight.toNat = listed (new.map Operator.entry) operator.pubkey := by
  rw [arranged.mem_iff, (getOperatorSetUpdateDelta_perm random evm.keccak256).mem_iff]
  exact mem_unsortedDelta visits

theorem delta_distinct : (delta.map Operator.pubkey).Nodup := by
  have same := (arranged.trans (getOperatorSetUpdateDelta_perm random evm.keccak256)).map Operator.pubkey
  exact same.nodup_iff.mpr (unsortedDelta_distinct visits)

theorem overwrite_delta :
    overwrite (listed (previous.map Operator.entry)) (delta.map Operator.entry) =
      listed (new.map Operator.entry) := by
  have distinct : ((delta.map Operator.entry).map Prod.fst).Nodup := by
    rw [List.map_map]
    exact delta_distinct visits arranged
  funext pubkey
  by_cases changed : listed (previous.map Operator.entry) pubkey = listed (new.map Operator.entry) pubkey
  · rw [overwrite_of_not_mem, changed]
    rw [List.map_map]
    intro member
    obtain ⟨operator, inDelta, rfl⟩ := List.mem_map.mp member
    exact ((mem_delta visits arranged).mp inDelta).1 changed
  · let operator : Operator := ⟨pubkey, BitVec.ofNatLT _ (listed_lt new pubkey)⟩
    have inDelta : operator ∈ delta := (mem_delta visits arranged).mpr ⟨changed, rfl⟩
    exact overwrite_of_mem distinct (List.mem_map_of_mem inDelta)

include previousSet newSet

theorem delta_valid : ∀ operator ∈ delta, (evm.decode operator.pubkey).isSome := by
  intro operator member
  obtain ⟨changed, _⟩ := (mem_delta visits arranged).mp member
  -- whoever is in the delta has weight in one of the two sets
  by_cases absent : listed (previous.map Operator.entry) operator.pubkey = 0
  · exact newSet.valid_of_listed (absent ▸ changed.symm)
  · exact previousSet.valid_of_listed absent

theorem Represents.follows {self : OperatorSet}
    (represents : Represents evm self (listed (previous.map Operator.entry))) :
    ∃ after, Rollup.update evm self delta = .ok after ∧
      Represents evm after (listed (new.map Operator.entry)) := by
  have distinct := delta_distinct visits arranged
  have valid := delta_valid previousSet newSet visits arranged
  have changed : ∀ operator ∈ delta,
      operator.weight.toNat ≠ listed (previous.map Operator.entry) operator.pubkey := by
    intro operator member
    obtain ⟨different, weight⟩ := (mem_delta visits arranged).mp member
    rw [weight]
    exact different.symm
  have newWeights : (delta.map fun operator => operator.weight.toNat).sum ≤
      Algebra.total (listed (new.map Operator.entry)) := by
    have same : (delta.map fun operator => operator.weight.toNat) =
        (delta.map Operator.pubkey).map (listed (new.map Operator.entry)) := by
      rw [List.map_map]
      exact List.map_congr_left fun operator member => ((mem_delta visits arranged).mp member).2
    rw [same]
    exact sum_distinct_le_total _ distinct
  -- no partial total exceeds the sum of the two sets' totals
  have fits : Algebra.total (listed (previous.map Operator.entry)) +
      (delta.map fun operator => operator.weight.toNat).sum < 2 ^ 128 := by
    have previousSmall := previousSet.total
    have newSmall := newSet.total
    rw [newSet.total_listed] at newWeights
    rw [previousSet.total_listed]
    omega
  obtain ⟨after, success⟩ := represents.update_succeeds distinct valid changed fits
  refine ⟨after, success, ?_⟩
  rw [← overwrite_delta visits arranged]
  exact represents.update success

end Step

theorem History.wellFormed {first last : List Operator} {deltas : List (List Operator)}
    (history : History evm random first deltas last) : WellFormed evm (2 ^ 127) last := by
  cases history with
  | start wellFormed => exact wellFormed
  | next _ wellFormed _ _ => exact wellFormed

/-- The updates that mainnet has recorded from some id on are such a history. -/
theorem History.of_updates {registries : AvsRegistries evm} {updates : OperatorSetUpdateRegistry} {id : Uint 64}
    {previous new : Nat → List Operator} {deltas : List (List Operator)} (noWrap : id.toNat + deltas.length < 2 ^ 64)
    (reads : ∀ k ≤ deltas.length,
      getOperatorSetUpdate registries updates (id + BitVec.ofNat 64 k) = .ok (previous k, new k))
    (arranged : ∀ k delta, deltas[k]? = some delta → ∃ order,
      (operatorUpdates (previous (k + 1)) (new (k + 1))).Visits order ∧
      delta.Perm (getOperatorSetUpdateDelta random evm.keccak256 (previous (k + 1)) (new (k + 1)) order)) :
    History evm random (new 0) deltas (new deltas.length) := by
  have wellFormed : ∀ k ≤ deltas.length, WellFormed evm (2 ^ 127) (new k) := fun k le =>
    (getOperatorSetUpdate_wellFormed (reads k le)).2.mono (by decide)
  induction deltas using List.reverseRecOn with
  | nil => exact .start (wellFormed 0 (Nat.le_refl 0))
  | append_singleton deltas delta ih =>
    rw [List.length_append, List.length_singleton] at *
    have earlier := ih (by omega) (fun k le => reads k (by omega))
      (fun k other found => arranged k other (List.getElem?_append_left (List.getElem?_eq_some_iff.mp found).1 ▸ found))
      (fun k le => wellFormed k (by omega))
    obtain ⟨order, visits, same⟩ := arranged deltas.length delta List.getElem?_concat_length
    have successor : id + BitVec.ofNat 64 (deltas.length + 1) = id + BitVec.ofNat 64 deltas.length + 1 := by
      rw [BitVec.ofNat_add, BitVec.add_assoc]
      rfl
    have later := reads (deltas.length + 1) (Nat.le_refl _)
    rw [successor] at later
    have nonzero : id + BitVec.ofNat 64 deltas.length + 1 ≠ 0 := by
      have value : (id + BitVec.ofNat 64 (deltas.length + 1)).toNat = id.toNat + (deltas.length + 1) := by
        rw [BitVec.toNat_add, BitVec.toNat_ofNat]
        omega
      intro zero
      rw [successor, toNat_eq_zero.mpr zero] at value
      omega
    -- the set before this delta is the one that the previous update has left
    rw [getOperatorSetUpdate_consecutive nonzero (reads deltas.length (by omega)) later] at visits same
    exact earlier.next (wellFormed _ (Nat.le_refl _)) visits same

/-- Applying the deltas of any history never reverts and ends in the copy of its
last set. -/
theorem rollup_simulates {first last : List Operator} {deltas : List (List Operator)}
    (history : History evm random first deltas last) {self : OperatorSet}
    (represents : Represents evm self (listed (first.map Operator.entry))) :
    ∃ after, deltas.foldlM (update evm) self = .ok after ∧
      Represents evm after (listed (last.map Operator.entry)) ∧
      after.totalWeight.toNat = (last.map fun operator => operator.weight.toNat).sum ∧
      after.apk = evm.encode
        (∑ pubkey with listed (last.map Operator.entry) pubkey ≠ 0, evm.value pubkey) := by
  suffices follows : ∃ after, deltas.foldlM (update evm) self = .ok after ∧
      Represents evm after (listed (last.map Operator.entry)) by
    obtain ⟨after, success, represents⟩ := follows
    refine ⟨after, success, represents, ?_, ?_⟩
    · rw [represents.consistent.totalWeight, represents.weights, history.wellFormed.total_listed]
    · rw [represents.consistent.apk, represents.weights]
      rfl
  induction history with
  | start => exact ⟨self, rfl, represents⟩
  | next earlier wellFormed visits arranged ih =>
    obtain ⟨between, success, betweenRepresents⟩ := ih
    obtain ⟨after, applied, represents⟩ :=
      betweenRepresents.follows earlier.wellFormed wellFormed visits arranged
    refine ⟨after, ?_, represents⟩
    rw [List.foldlM_append, success, ok_bind, List.foldlM_cons, applied]
    rfl

def firstLeft : List Operator := [⟨generatorMultiple (2 : Nat), 7⟩, ⟨generatorMultiple (3 : Nat), 9⟩]

def secondRaised : List Operator := [⟨generatorMultiple (2 : Nat), 8⟩, ⟨generatorMultiple (3 : Nat), 9⟩]

theorem firstLeft_visits : (operatorUpdates pairOfOperators firstLeft).Visits (visitThree [3, 1, 2]) := by
  refine visits_of_keys (by decide +kernel) fun key => ?_
  simp only [visitThree, pairOfOperators, firstLeft, List.map_cons, List.map_nil, List.cons_append, List.nil_append,
    List.mem_cons, List.not_mem_nil, or_false, Nat.cast_ofNat]
  tauto

theorem secondRaised_visits : (operatorUpdates firstLeft secondRaised).Visits (visitThree [2, 3]) := by
  refine visits_of_keys (by decide +kernel) fun key => ?_
  simp only [visitThree, firstLeft, secondRaised, List.map_cons, List.map_nil, List.cons_append, List.nil_append,
    List.mem_cons, List.not_mem_nil, or_false, Nat.cast_ofNat]
  tauto

/-- One operator leaves while another joins, and then a third one's weight changes. -/
theorem rollup_simulates_leaving :
    ∃ self after, Represents smallCurve self (listed (pairOfOperators.map Operator.entry)) ∧
      [[⟨generatorMultiple 1, 0⟩, ⟨generatorMultiple 3, 9⟩], [⟨generatorMultiple 2, 8⟩]].foldlM (update smallCurve) self =
        .ok after ∧
      Represents smallCurve after (listed (secondRaised.map Operator.entry)) ∧ after.totalWeight.toNat = 17 := by
  have wellFormed : ∀ operators ∈ [pairOfOperators, firstLeft, secondRaised], WellFormed smallCurve (2 ^ 127) operators := by
    simp only [List.mem_cons, List.not_mem_nil, or_false, forall_eq_or_imp, forall_eq]
    exact ⟨⟨by decide, by decide, by decide⟩, ⟨by decide, by decide, by decide⟩, ⟨by decide, by decide, by decide⟩⟩
  have left : [⟨generatorMultiple 1, 0⟩, ⟨generatorMultiple 3, 9⟩].Perm (getOperatorSetUpdateDelta (fun _ _ => 0)
      smallCurve.keccak256 pairOfOperators firstLeft (visitThree [3, 1, 2])) := by decide +kernel
  have raised : [⟨generatorMultiple 2, 8⟩].Perm (getOperatorSetUpdateDelta (fun _ _ => 0) smallCurve.keccak256
      firstLeft secondRaised (visitThree [2, 3])) := by decide +kernel
  have history := ((History.start (wellFormed _ (by simp))).next (wellFormed _ (by simp)) firstLeft_visits left).next
    (wellFormed _ (by simp)) secondRaised_visits raised
  obtain ⟨self, entered⟩ : ∃ self, update smallCurve OperatorSet.empty pairOfOperators = .ok self := ⟨_, rfl⟩
  have empty : Represents smallCurve OperatorSet.empty fun _ => 0 := ⟨consistent_empty, rfl⟩
  obtain ⟨after, success, represents, total, _⟩ := rollup_simulates history (empty.update entered)
  exact ⟨self, after, empty.update entered, success, represents, total⟩

end Sffl.Rollup
