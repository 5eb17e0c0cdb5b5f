import Sffl.Algebra.WeightedSet
import Sffl.Rollup.Operators

/-! What a rollup's operator set stands for.

The weighted set of a tally gives every public key the weight stored under its
hash. A tally is consistent when its total weight and its aggregate key are
those of this weighted set. One entry of an update changes one weight of it, and
the non-signer loop takes members out of it.
-/

set_option autoImplicit false

namespace Sffl.Rollup

open Sffl.Evm Sffl.Algebra

variable {G : Type} [AddCommGroup G] (evm : Precompiles G)

def weights (tally : Tally) (pubkey : G1Point) : Nat :=
  (tally.pubkeyHashToWeight (evm.hashG1Point pubkey)).toNat

structure Consistent (tally : Tally) : Prop where
  known : ∀ pubkeyHash, tally.pubkeyHashToWeight pubkeyHash ≠ 0 →
    ∃ pubkey, evm.hashG1Point pubkey = pubkeyHash ∧ (evm.decode pubkey).isSome
  totalWeight : tally.totalWeight.toNat = total (weights evm tally)
  apk : tally.apk = evm.encode (keySum evm.value (weights evm tally))

variable {evm}

theorem weights_eq_zero {tally : Tally} {pubkey : G1Point} :
    weights evm tally pubkey = 0 ↔ tally.pubkeyHashToWeight (evm.hashG1Point pubkey) = 0 :=
  toNat_eq_zero

theorem Consistent.valid {tally : Tally} (consistent : Consistent evm tally) {pubkey : G1Point}
    (member : weights evm tally pubkey ≠ 0) : (evm.decode pubkey).isSome := by
  obtain ⟨other, sameHash, valid⟩ := consistent.known _ (mt weights_eq_zero.mpr member)
  rwa [evm.hashG1Point_inj valid sameHash.symm]

/-- The entries of the map add up to the weighted set's total: no weight is
stored under a word that is not the hash of a member. -/
theorem Consistent.sum_entries {tally : Tally} (consistent : Consistent evm tally) :
    ∑ pubkeyHash, (tally.pubkeyHashToWeight pubkeyHash).toNat = total (weights evm tally) := by
  rw [← Finset.sum_filter_ne_zero, total_eq_members]
  symm
  apply Finset.sum_nbij evm.hashG1Point
  · intro pubkey member
    simpa [weights] using member
  -- only valid keys are known to have hashes of their own
  · intro first firstMember second _ same
    exact (evm.hashG1Point_inj (consistent.valid (by simpa using firstMember)) same.symm).symm
  · intro pubkeyHash nonzero
    have stored : tally.pubkeyHashToWeight pubkeyHash ≠ 0 := mt toNat_eq_zero.mpr (by simpa using nonzero)
    obtain ⟨pubkey, rfl, _⟩ := consistent.known pubkeyHash stored
    exact ⟨pubkey, by simpa [weights] using nonzero, rfl⟩
  · intro pubkey _
    rfl

theorem consistent_empty : Consistent evm OperatorSet.empty.toTally where
  known := by simp [OperatorSet.empty]
  totalWeight := by simp [OperatorSet.empty, total, weights]
  apk := by simp [OperatorSet.empty, keySum, members, weights, evm.encode_zero]

/-! ## One entry of an update -/

theorem updateOperator_eq_ok {tally after : Tally} {operator : Operator} :
    updateOperator evm tally operator = .ok after ↔
      operator.weight ≠ tally.pubkeyHashToWeight (evm.hashG1Point operator.pubkey) ∧
      (weights evm tally operator.pubkey ≤ tally.totalWeight.toNat ∧
        tally.totalWeight.toNat + operator.weight.toNat =
          after.totalWeight.toNat + weights evm tally operator.pubkey) ∧
      updateApk evm tally.apk operator.pubkey
        (tally.pubkeyHashToWeight (evm.hashG1Point operator.pubkey)) operator.weight = .ok after.apk ∧
      after.pubkeyHashToWeight = Function.update tally.pubkeyHashToWeight
        (evm.hashG1Point operator.pubkey) operator.weight := by
  simp only [updateOperator, bind_eq_ok, require_eq_ok, checkedSub_eq_ok, checkedAdd_eq_ok, weights]
  constructor
  · rintro ⟨_, changed, reduced, sub, total, add, apk, moved, result⟩
    cases result
    exact ⟨changed, ⟨by omega, by simp only; omega⟩, moved, rfl⟩
  · rintro ⟨changed, ⟨le, balance⟩, moved, map⟩
    have difference := BitVec.toNat_sub_of_le (BitVec.le_def.mpr le)
    refine ⟨(), changed, tally.totalWeight - tally.pubkeyHashToWeight (evm.hashG1Point operator.pubkey),
      ?_, after.totalWeight, ?_, after.apk, moved, ?_⟩
    · omega
    · omega
    · cases after
      simp_all [pure, Except.pure]

/-- A key whose hash holds a weight, or that the curve precompile takes, keeps
its hash to itself; so one entry changes one weight. -/
theorem weights_update {tally after : Tally} {operator : Operator}
    (valid : (evm.decode operator.pubkey).isSome)
    (map : after.pubkeyHashToWeight = Function.update tally.pubkeyHashToWeight
      (evm.hashG1Point operator.pubkey) operator.weight) :
    weights evm after = Function.update (weights evm tally) operator.pubkey operator.weight.toNat := by
  funext pubkey
  by_cases same : pubkey = operator.pubkey
  · subst same
    simp [weights, map]
  · have different : evm.hashG1Point pubkey ≠ evm.hashG1Point operator.pubkey :=
      fun equal => same (evm.hashG1Point_inj valid equal)
    simp [weights, map, Function.update_of_ne same, Function.update_of_ne different]

theorem updateApk_spec {tally : Tally} (consistent : Consistent evm tally) {operator : Operator}
    (valid : (evm.decode operator.pubkey).isSome)
    (changed : operator.weight ≠ tally.pubkeyHashToWeight (evm.hashG1Point operator.pubkey)) :
    updateApk evm tally.apk operator.pubkey
        (tally.pubkeyHashToWeight (evm.hashG1Point operator.pubkey)) operator.weight =
      .ok (evm.encode (keySum evm.value
        (Function.update (weights evm tally) operator.pubkey operator.weight.toNat))) := by
  rw [consistent.apk]
  unfold updateApk
  -- the cases of the source: the operator enters, leaves, or stays with another weight
  by_cases absent : tally.pubkeyHashToWeight (evm.hashG1Point operator.pubkey) = 0
  · have enters : operator.weight.toNat ≠ 0 :=
      mt toNat_eq_zero.mp (absent ▸ changed)
    rw [if_pos absent, evm.plus_encode _ valid,
      keySum_update_insert evm.value (weights_eq_zero.mpr absent) enters]
  · have present : weights evm tally operator.pubkey ≠ 0 := mt weights_eq_zero.mp absent
    rw [if_neg absent]
    by_cases leaves : operator.weight = 0
    · obtain ⟨negated, value⟩ := evm.negate_valid valid
      rw [if_pos leaves, evm.plus_encode _ negated, value, toNat_eq_zero.mpr leaves,
        keySum_update_erase evm.value present]
    · have stays : operator.weight.toNat ≠ 0 := mt toNat_eq_zero.mp leaves
      rw [if_neg leaves, keySum_update_keep evm.value present stays]

/-- A successful entry is about a point of the curve: an insertion has added the
point, and any other entry is about a member. -/
theorem updateOperator_valid {tally after : Tally} (consistent : Consistent evm tally) {operator : Operator}
    (success : updateOperator evm tally operator = .ok after) : (evm.decode operator.pubkey).isSome := by
  obtain ⟨_, _, moved, _⟩ := updateOperator_eq_ok.mp success
  by_cases absent : tally.pubkeyHashToWeight (evm.hashG1Point operator.pubkey) = 0
  · rw [updateApk, if_pos absent] at moved
    exact (evm.plus_eq_ok moved).2
  · exact consistent.valid (mt weights_eq_zero.mp absent)

theorem Consistent.of_update {tally after : Tally} (consistent : Consistent evm tally) {operator : Operator}
    (valid : (evm.decode operator.pubkey).isSome)
    (map : after.pubkeyHashToWeight = Function.update tally.pubkeyHashToWeight
      (evm.hashG1Point operator.pubkey) operator.weight)
    (balance : tally.totalWeight.toNat + operator.weight.toNat =
      after.totalWeight.toNat + weights evm tally operator.pubkey)
    (apk : after.apk = evm.encode (keySum evm.value
      (Function.update (weights evm tally) operator.pubkey operator.weight.toNat))) :
    Consistent evm after := by
  refine ⟨?_, ?_, ?_⟩
  · intro pubkeyHash stored
    by_cases same : pubkeyHash = evm.hashG1Point operator.pubkey
    · exact ⟨operator.pubkey, same.symm, valid⟩
    · rw [map, Function.update_of_ne same] at stored
      exact consistent.known pubkeyHash stored
  · have change := total_update (weights evm tally) operator.pubkey operator.weight.toNat
    rw [weights_update valid map]
    rw [← consistent.totalWeight] at change
    omega
  · rw [apk, weights_update valid map]

theorem updateOperator_spec {tally after : Tally} (consistent : Consistent evm tally) {operator : Operator}
    (success : updateOperator evm tally operator = .ok after) :
    Consistent evm after ∧
      weights evm after = Function.update (weights evm tally) operator.pubkey operator.weight.toNat := by
  have valid := updateOperator_valid consistent success
  obtain ⟨changed, ⟨_, balance⟩, moved, map⟩ := updateOperator_eq_ok.mp success
  rw [updateApk_spec consistent valid changed] at moved
  exact ⟨consistent.of_update valid map balance (Except.ok.inj moved).symm, weights_update valid map⟩

/-- An entry that changes the weight of a valid key succeeds if the new total fits. -/
theorem updateOperator_succeeds {tally : Tally} (consistent : Consistent evm tally) {operator : Operator}
    (valid : (evm.decode operator.pubkey).isSome)
    (changed : operator.weight.toNat ≠ weights evm tally operator.pubkey)
    (fits : total (Function.update (weights evm tally) operator.pubkey operator.weight.toNat) < 2 ^ 128) :
    ∃ after, updateOperator evm tally operator = .ok after := by
  have le := weight_le_total (weights evm tally) operator.pubkey
  have change := total_update (weights evm tally) operator.pubkey operator.weight.toNat
  have moved := updateApk_spec consistent valid (mt (congrArg BitVec.toNat) changed)
  rw [← consistent.totalWeight] at le change
  refine ⟨⟨_, _, BitVec.ofNatLT _ fits⟩, updateOperator_eq_ok.mpr ⟨mt (congrArg BitVec.toNat) changed, ⟨le, ?_⟩, moved, rfl⟩⟩
  exact change.symm

/-! ## A whole list of operators -/

def Operator.entry (operator : Operator) : G1Point × Nat := (operator.pubkey, operator.weight.toNat)

theorem listed_lt (operators : List Operator) (pubkey : G1Point) :
    listed (operators.map Operator.entry) pubkey < 2 ^ 128 := by
  suffices general : ∀ weights : G1Point → Nat, weights pubkey < 2 ^ 128 →
      overwrite weights (operators.map Operator.entry) pubkey < 2 ^ 128 from general (fun _ => 0) (by decide)
  induction operators with
  | nil => exact fun _ small => small
  | cons operator operators ih =>
    intro weights small
    rw [List.map_cons, overwrite_cons]
    apply ih
    by_cases same : pubkey = operator.pubkey
    · subst same
      simpa [Operator.entry] using operator.weight.isLt
    · rwa [Operator.entry, Function.update_of_ne same]

variable (evm) in
structure Represents (set : OperatorSet) (expected : G1Point → Nat) : Prop where
  consistent : Consistent evm set.toTally
  weights : weights evm set.toTally = expected

theorem updateLoop_spec {tally after : Tally} (consistent : Consistent evm tally) {operators : List Operator}
    (success : operators.foldlM (updateOperator evm) tally = .ok after) :
    Consistent evm after ∧
      weights evm after = overwrite (weights evm tally) (operators.map Operator.entry) := by
  induction operators generalizing tally with
  | nil =>
    cases success
    exact ⟨consistent, rfl⟩
  | cons operator operators ih =>
    rw [List.foldlM_cons] at success
    obtain ⟨next, one, rest⟩ := bind_eq_ok.mp success
    obtain ⟨nextConsistent, changed⟩ := updateOperator_spec consistent one
    rw [List.map_cons, overwrite_cons, Operator.entry, ← changed]
    exact ih nextConsistent rest

/-- Distinct valid keys with changed weights are all taken, as long as the set's
total and the new weights together fit the total's type. -/
theorem updateLoop_succeeds {tally : Tally} (consistent : Consistent evm tally) {operators : List Operator}
    (distinct : (operators.map Operator.pubkey).Nodup)
    (valid : ∀ operator ∈ operators, (evm.decode operator.pubkey).isSome)
    (changed : ∀ operator ∈ operators, operator.weight.toNat ≠ weights evm tally operator.pubkey)
    (fits : total (weights evm tally) + (operators.map fun operator => operator.weight.toNat).sum < 2 ^ 128) :
    ∃ after, operators.foldlM (updateOperator evm) tally = .ok after := by
  induction operators generalizing tally with
  | nil => exact ⟨tally, rfl⟩
  | cons operator operators ih =>
    simp only [List.map_cons, List.nodup_cons, List.sum_cons, List.mem_cons, forall_eq_or_imp] at *
    have bound := total_update_le (weights evm tally) operator.pubkey operator.weight.toNat
    obtain ⟨next, one⟩ := updateOperator_succeeds consistent valid.1 changed.1 (by omega)
    obtain ⟨nextConsistent, moved⟩ := updateOperator_spec consistent one
    -- the other keys are distinct from this one, so their weights still differ
    have rest : ∀ other ∈ operators, other.weight.toNat ≠ weights evm next other.pubkey := by
      intro other member
      have different : other.pubkey ≠ operator.pubkey :=
        fun same => distinct.1 (same ▸ List.mem_map_of_mem member)
      rw [moved, Function.update_of_ne different]
      exact changed.2 other member
    obtain ⟨after, loop⟩ := ih nextConsistent distinct.2 valid.2 rest (by rw [moved]; omega)
    exact ⟨after, by rw [List.foldlM_cons, one]; exact loop⟩

/-- The loop only gets past entries with distinct keys that change a weight. -/
theorem updateLoop_changed {tally after : Tally} (consistent : Consistent evm tally) {operators : List Operator}
    (distinct : (operators.map Operator.pubkey).Nodup)
    (success : operators.foldlM (updateOperator evm) tally = .ok after) :
    ∀ operator ∈ operators, operator.weight.toNat ≠ weights evm tally operator.pubkey := by
  induction operators generalizing tally with
  | nil => simp
  | cons operator operators ih =>
    simp only [List.map_cons, List.nodup_cons, List.mem_cons, forall_eq_or_imp] at *
    rw [List.foldlM_cons] at success
    obtain ⟨next, one, rest⟩ := bind_eq_ok.mp success
    obtain ⟨nextConsistent, moved⟩ := updateOperator_spec consistent one
    refine ⟨mt BitVec.eq_of_toNat_eq (updateOperator_eq_ok.mp one).1, ?_⟩
    intro other member
    have different : other.pubkey ≠ operator.pubkey :=
      fun same => distinct.1 (same ▸ List.mem_map_of_mem member)
    have later := ih nextConsistent distinct.2 rest other member
    rwa [moved, Function.update_of_ne different] at later

theorem update_eq_ok {self after : OperatorSet} {operators : List Operator} :
    update evm self operators = .ok after ↔
      operators.foldlM (updateOperator evm) self.toTally = .ok after.toTally ∧
        after.quorumThreshold = self.quorumThreshold := by
  simp only [update, bind_eq_ok]
  constructor
  · rintro ⟨tally, loop, result⟩
    cases result
    exact ⟨loop, rfl⟩
  · rintro ⟨loop, kept⟩
    refine ⟨after.toTally, loop, ?_⟩
    cases after
    simp_all [pure, Except.pure]

theorem Represents.update {self after : OperatorSet} {expected : G1Point → Nat}
    (represents : Represents evm self expected) {operators : List Operator}
    (success : update evm self operators = .ok after) :
    Represents evm after (overwrite expected (operators.map Operator.entry)) := by
  obtain ⟨consistent, moved⟩ := updateLoop_spec represents.consistent (update_eq_ok.mp success).1
  exact ⟨consistent, represents.weights ▸ moved⟩

theorem Represents.update_succeeds {self : OperatorSet} {expected : G1Point → Nat}
    (represents : Represents evm self expected) {operators : List Operator}
    (distinct : (operators.map Operator.pubkey).Nodup)
    (valid : ∀ operator ∈ operators, (evm.decode operator.pubkey).isSome)
    (changed : ∀ operator ∈ operators, operator.weight.toNat ≠ expected operator.pubkey)
    (fits : total expected + (operators.map fun operator => operator.weight.toNat).sum < 2 ^ 128) :
    ∃ after, Rollup.update evm self operators = .ok after := by
  rw [← represents.weights] at changed fits
  obtain ⟨tally, loop⟩ := updateLoop_succeeds represents.consistent distinct valid changed fits
  exact ⟨{ self with toTally := tally }, update_eq_ok.mpr ⟨loop, rfl⟩⟩

theorem update_consistent {self after : OperatorSet} (consistent : Consistent evm self.toTally)
    {operators : List Operator} (success : update evm self operators = .ok after) :
    Consistent evm after.toTally ∧ after.quorumThreshold = self.quorumThreshold := by
  obtain ⟨loop, kept⟩ := update_eq_ok.mp success
  exact ⟨(updateLoop_spec consistent loop).1, kept⟩

end Sffl.Rollup
