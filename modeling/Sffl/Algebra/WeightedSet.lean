import Mathlib.Algebra.BigOperators.Group.Finset.Basic
import Mathlib.Algebra.BigOperators.Group.Finset.Piecewise
import Mathlib.Algebra.GroupWithZero.Nat
import Mathlib.Algebra.Order.BigOperators.Group.Finset

/-! Weighted sets over a finite key type.

A weighted set gives every key a weight, and its members are the keys with
non-zero weight. Every key also stands for an element of a commutative group;
the key sum adds up the members. The changes of one weight and of a list of
weights are described here, together with what is left after some members are
taken away.
-/

set_option autoImplicit false

namespace Sffl.Algebra

open Finset

variable {K G : Type} [Fintype K] [AddCommGroup G]

def members (weights : K → Nat) : Finset K := univ.filter fun key => weights key ≠ 0

def total (weights : K → Nat) : Nat := ∑ key, weights key

def keySum (value : K → G) (weights : K → Nat) : G := ∑ key ∈ members weights, value key

@[simp] theorem mem_members {weights : K → Nat} {key : K} : key ∈ members weights ↔ weights key ≠ 0 := by
  simp [members]

theorem total_eq_members (weights : K → Nat) : total weights = ∑ key ∈ members weights, weights key := by
  simp only [total, members, sum_filter_ne_zero]

theorem weight_le_total (weights : K → Nat) (key : K) : weights key ≤ total weights :=
  single_le_sum_of_canonicallyOrdered (mem_univ key)

variable [DecidableEq K]

theorem total_update (weights : K → Nat) (key : K) (weight : Nat) :
    total (Function.update weights key weight) + weights key = total weights + weight := by
  simp only [total]
  rw [sum_update_of_mem (mem_univ key), ← add_sum_erase univ weights (mem_univ key),
    sdiff_singleton_eq_erase]
  omega

theorem members_update_keep {weights : K → Nat} {key : K} {weight : Nat} (present : weights key ≠ 0)
    (stays : weight ≠ 0) : members (Function.update weights key weight) = members weights := by
  ext other
  by_cases same : other = key
  · subst other; simp [present, stays]
  · simp [same]

theorem members_update_insert {weights : K → Nat} {key : K} {weight : Nat} (enters : weight ≠ 0) :
    members (Function.update weights key weight) = insert key (members weights) := by
  ext other
  by_cases same : other = key
  · subst other; simp [enters]
  · simp [same]

theorem members_update_erase (weights : K → Nat) (key : K) :
    members (Function.update weights key 0) = (members weights).erase key := by
  ext other
  by_cases same : other = key
  · subst other; simp
  · simp [same]

theorem keySum_update_keep (value : K → G) {weights : K → Nat} {key : K} {weight : Nat}
    (present : weights key ≠ 0) (stays : weight ≠ 0) :
    keySum value (Function.update weights key weight) = keySum value weights := by
  rw [keySum, members_update_keep present stays, keySum]

theorem keySum_update_insert (value : K → G) {weights : K → Nat} {key : K} {weight : Nat}
    (absent : weights key = 0) (enters : weight ≠ 0) :
    keySum value (Function.update weights key weight) = keySum value weights + value key := by
  rw [keySum, members_update_insert enters, sum_insert (by simp [absent]), keySum, add_comm]

theorem keySum_update_erase (value : K → G) {weights : K → Nat} {key : K} (present : weights key ≠ 0) :
    keySum value (Function.update weights key 0) = keySum value weights + -value key := by
  rw [keySum, members_update_erase, keySum, ← sum_erase_add _ _ (mem_members.mpr present), add_neg_cancel_right]

omit [DecidableEq K] in
theorem sum_le_total (weights : K → Nat) (keys : Finset K) : ∑ key ∈ keys, weights key ≤ total weights :=
  Finset.sum_le_sum_of_subset (Finset.subset_univ keys)

/-- What two sets have together beyond the total is what they have in common. -/
theorem sum_add_sum_le (weights : K → Nat) (first second : Finset K) :
    ∑ key ∈ first, weights key + ∑ key ∈ second, weights key ≤ total weights + ∑ key ∈ first ∩ second, weights key := by
  rw [← Finset.sum_union_inter]
  exact Nat.add_le_add_right (sum_le_total weights _) _

omit [Fintype K] in
/-- Keys that are heavier than all bad ones together are not all bad. -/
theorem exists_mem_of_heavier {weights : K → Nat} {keys known good : Finset K} (subset : keys ⊆ known)
    (heavier : ∑ key ∈ known \ good, weights key < ∑ key ∈ keys, weights key) : ∃ key ∈ keys, key ∈ good := by
  by_contra bad
  have fewer : keys ⊆ known \ good := by
    intro key member
    exact mem_sdiff.mpr ⟨subset member, fun goodKey => bad ⟨key, member, goodKey⟩⟩
  exact absurd (sum_le_sum_of_subset fewer) (Nat.not_le.mpr heavier)

theorem total_sdiff {weights : K → Nat} {absent : Finset K} (known : absent ⊆ members weights) :
    ∑ key ∈ members weights \ absent, weights key + ∑ key ∈ absent, weights key = total weights := by
  rw [sum_sdiff known, total_eq_members]

theorem keySum_sdiff (value : K → G) {weights : K → Nat} {absent : Finset K}
    (known : absent ⊆ members weights) :
    ∑ key ∈ members weights \ absent, value key = keySum value weights + -∑ key ∈ absent, value key := by
  rw [keySum, ← sum_sdiff known, add_neg_cancel_right]

/-! ## Lists of entries -/

section Entries
variable {K : Type} [DecidableEq K]

/-- A list of new weights written over a weighted set, one after another. -/
def overwrite (weights : K → Nat) (entries : List (K × Nat)) : K → Nat :=
  entries.foldl (fun weights entry => Function.update weights entry.1 entry.2) weights

/-- The weighted set that a list of entries describes by itself. -/
def listed (entries : List (K × Nat)) : K → Nat := overwrite (fun _ => 0) entries

theorem overwrite_cons (weights : K → Nat) (entry : K × Nat) (entries : List (K × Nat)) :
    overwrite weights (entry :: entries) = overwrite (Function.update weights entry.1 entry.2) entries :=
  rfl

theorem overwrite_of_not_mem {weights : K → Nat} {entries : List (K × Nat)} {key : K}
    (unlisted : key ∉ entries.map Prod.fst) : overwrite weights entries key = weights key := by
  induction entries generalizing weights with
  | nil => rfl
  | cons entry entries ih =>
    simp only [List.map_cons, List.mem_cons, not_or] at unlisted
    rw [overwrite_cons, ih unlisted.2, Function.update_of_ne unlisted.1]

theorem overwrite_of_mem {weights : K → Nat} {entries : List (K × Nat)} {entry : K × Nat}
    (distinct : (entries.map Prod.fst).Nodup) (member : entry ∈ entries) :
    overwrite weights entries entry.1 = entry.2 := by
  induction entries generalizing weights with
  | nil => cases member
  | cons first entries ih =>
    rw [List.map_cons, List.nodup_cons] at distinct
    rcases List.mem_cons.mp member with rfl | member
    · rw [overwrite_cons, overwrite_of_not_mem distinct.1, Function.update_self]
    · exact ih distinct.2 member

variable [Fintype K]

theorem total_update_le (weights : K → Nat) (key : K) (weight : Nat) :
    total (Function.update weights key weight) ≤ total weights + weight := by
  have change := total_update weights key weight
  omega

theorem sum_distinct_le_total (weights : K → Nat) {keys : List K} (distinct : keys.Nodup) :
    (keys.map weights).sum ≤ total weights := by
  rw [← List.sum_toFinset weights distinct]
  exact sum_le_univ_sum_of_nonneg fun _ => Nat.zero_le _

theorem total_listed {entries : List (K × Nat)} (distinct : (entries.map Prod.fst).Nodup) :
    total (listed entries) = (entries.map Prod.snd).sum := by
  suffices general : ∀ weights : K → Nat, (∀ key ∈ entries.map Prod.fst, weights key = 0) →
      total (overwrite weights entries) = total weights + (entries.map Prod.snd).sum by
    simpa [total, listed] using general (fun _ => 0) (fun _ _ => rfl)
  induction entries with
  | nil => intro weights _; rfl
  | cons entry entries ih =>
    intro weights fresh
    rw [List.map_cons, List.nodup_cons] at distinct
    simp only [List.map_cons, List.mem_cons, forall_eq_or_imp] at fresh
    have untouched : ∀ key ∈ entries.map Prod.fst, Function.update weights entry.1 entry.2 key = 0 := by
      intro key member
      have different : key ≠ entry.1 := fun same => distinct.1 (same ▸ member)
      rw [Function.update_of_ne different, fresh.2 key member]
    have change := total_update weights entry.1 entry.2
    rw [overwrite_cons, ih distinct.2 _ untouched, List.map_cons, List.sum_cons]
    omega

end Entries

end Sffl.Algebra
