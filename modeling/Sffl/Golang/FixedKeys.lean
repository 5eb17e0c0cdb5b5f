import Mathlib.Data.List.Sort
import Mathlib.Logic.Equiv.Basic
import Sffl.Golang.SortQuestions

/-! Sorting a slice by keys that stay in place.

A comparison that looks its keys up in a second slice, which is not rearranged
along with the first, compares positions as they were at the start. With at most
two elements the sort does not notice. With three or more distinct keys the
result depends on the arrangement that the sort started from.
-/

set_option autoImplicit false

namespace Sffl.Golang

open Routine

variable {D : Type}

def keyLess (keys : List Nat) (i j : Nat) : Bool :=
  match keys[i]?, keys[j]? with
  | some first, some second => first < second
  | _, _ => false

def sortFixed (random : Nat → Nat → Nat) (key : D → Nat) (data : List D) : List D :=
  sortSlice random (fun _ => keyLess (data.map key)) data

theorem sortFixed_perm (random : Nat → Nat → Nat) (key : D → Nat) (data : List D) :
    (sortFixed random key data).Perm data :=
  run_perm _ _

/-! ## At most two elements -/

theorem sortSlice_pair (random : Nat → Nat → Nat) (less : List D → Nat → Nat → Bool) (first second : D) :
    sortSlice random less [first, second] = if less [first, second] 1 0 then [second, first] else [first, second] := by
  cases answer : less [first, second] 1 0 with
  | false => simp [sortSlice, pdqsort, maxInsertion, insertionSort, insertionLoop, shiftLeft, answer]
  | true => simp [sortSlice, pdqsort, maxInsertion, insertionSort, insertionLoop, shiftLeft, answer, swapAt]

theorem sortFixed_ascending (random : Nat → Nat → Nat) {key : D → Nat} {data : List D} (short : data.length ≤ 2)
    (distinct : (data.map key).Nodup) : ((sortFixed random key data).map key).Pairwise (· < ·) := by
  match data, short with
  | [], _ => exact List.Pairwise.nil
  | [single], _ => exact List.pairwise_singleton _ _
  | [first, second], _ =>
    have different : key first ≠ key second := by simpa using distinct
    rw [sortFixed, sortSlice_pair]
    by_cases descending : key second < key first
    · simp [keyLess, descending]
    · simp only [keyLess, List.map_cons, List.map_nil, List.getElem?_cons_succ, List.getElem?_cons_zero, descending,
        decide_false, Bool.false_eq_true, if_false, List.pairwise_cons, List.mem_singleton, forall_eq,
        List.not_mem_nil, false_implies, implies_true, List.Pairwise.nil, and_true]
      omega

/-! ## Exchanging two elements with neighbouring keys -/

section Exchange
variable [DecidableEq D] {key : D → Nat} {data : List D} {u v : D}

/-- No other element has a key between those of `u` and `v`. -/
def Close (key : D → Nat) (data : List D) (u v : D) : Prop :=
  ∀ x ∈ data, x ≠ u → x ≠ v → (key x < key u ↔ key x < key v) ∧ (key u < key x ↔ key v < key x)

theorem exchange_cases (u v x : D) :
    x = u ∧ Equiv.swap u v x = v ∨ x = v ∧ Equiv.swap u v x = u ∨ x ≠ u ∧ x ≠ v ∧ Equiv.swap u v x = x := by
  by_cases isFirst : x = u
  · exact Or.inl ⟨isFirst, by rw [isFirst, Equiv.swap_apply_left]⟩
  · by_cases isSecond : x = v
    · exact Or.inr (Or.inl ⟨isSecond, by rw [isSecond, Equiv.swap_apply_right]⟩)
    · exact Or.inr (Or.inr ⟨isFirst, isSecond, Equiv.swap_apply_of_ne_of_ne isFirst isSecond⟩)

theorem keyLess_exchange (close : Close key data u v) {i j : Nat}
    (other : ¬(data[i]? = some u ∧ data[j]? = some v) ∧ ¬(data[i]? = some v ∧ data[j]? = some u)) :
    keyLess (data.map key) i j = keyLess ((data.map (Equiv.swap u v)).map key) i j := by
  simp only [keyLess, List.getElem?_map]
  cases first : data[i]? with
  | none => rfl
  | some x =>
    cases second : data[j]? with
    | none => rfl
    | some y =>
      have closeX := close x (List.mem_of_getElem? first)
      have closeY := close y (List.mem_of_getElem? second)
      simp only [first, second, Option.some.injEq] at other
      simp only [Option.map_some, decide_eq_decide]
      rcases exchange_cases u v x with ⟨rfl, movedX⟩ | ⟨rfl, movedX⟩ | ⟨xu, xv, movedX⟩
      · rcases exchange_cases x v y with ⟨rfl, movedY⟩ | ⟨rfl, movedY⟩ | ⟨yu, yv, movedY⟩
        · simp
        · exact absurd ⟨rfl, rfl⟩ other.1
        · rw [movedX, movedY]
          exact (closeY yu yv).2
      · rcases exchange_cases u x y with ⟨rfl, movedY⟩ | ⟨rfl, movedY⟩ | ⟨yu, yv, movedY⟩
        · exact absurd ⟨rfl, rfl⟩ other.2
        · simp
        · rw [movedX, movedY]
          exact (closeY yu yv).2.symm
      · rcases exchange_cases u v y with ⟨rfl, movedY⟩ | ⟨rfl, movedY⟩ | ⟨_, _, movedY⟩
        · rw [movedX, movedY]
          exact (closeX xu xv).1
        · rw [movedX, movedY]
          exact (closeX xu xv).1.symm
        · rw [movedX, movedY]

/-- A sort that never compares the positions of `u` and `v` moves both
arrangements alike, so it cannot bring them to one result. -/
theorem sortFixed_exchange (random : Nat → Nat → Nat) (close : Close key data u v) (member : u ∈ data) (different : u ≠ v)
    (unnoticed : ∀ other, (∀ i j, ¬(data[i]? = some u ∧ data[j]? = some v) ∧ ¬(data[i]? = some v ∧ data[j]? = some u) →
        keyLess (data.map key) i j = other i j) →
      Agree D (keyLess (data.map key)) other (pdqsort random (data.length + 1) 0 data.length (bitsLen data.length) true true)) :
    sortFixed random key data ≠ sortFixed random key (data.map (Equiv.swap u v)) := by
  intro same
  -- both runs get the same answers, so they make the same swaps
  have agree := unnoticed _ fun i j other => keyLess_exchange close other
  have moved : sortFixed random key (data.map (Equiv.swap u v)) =
      (sortFixed random key data).map (Equiv.swap u v) := by
    unfold sortFixed sortSlice
    rw [List.length_map, ← agree, run_map]
  rw [moved] at same
  have kept : u ∈ sortFixed random key data := (sortFixed_perm random key data).mem_iff.mpr member
  -- equal results would be a fixed point of the exchange, element by element
  have fixed : ∀ x ∈ sortFixed random key data, id x = Equiv.swap u v x := by
    rw [← List.map_inj_left, List.map_id]
    exact same
  have fixedU := fixed u kept
  rw [Equiv.swap_apply_left] at fixedU
  exact different fixedU

theorem exchange_perm (distinct : data.Nodup) (memberU : u ∈ data) (memberV : v ∈ data) :
    (data.map (Equiv.swap u v)).Perm data := by
  rw [List.perm_ext_iff_of_nodup (distinct.map (Equiv.injective _)) distinct]
  intro x
  rw [List.mem_map]
  constructor
  · rintro ⟨y, member, rfl⟩
    rcases exchange_cases u v y with ⟨_, moved⟩ | ⟨_, moved⟩ | ⟨_, _, moved⟩
    · rwa [moved]
    · rwa [moved]
    · rwa [moved]
  · intro member
    refine ⟨Equiv.swap u v x, ?_, Equiv.swap_apply_self u v x⟩
    rcases exchange_cases u v x with ⟨_, moved⟩ | ⟨_, moved⟩ | ⟨_, _, moved⟩
    · rwa [moved]
    · rwa [moved]
    · rwa [moved]

omit [DecidableEq D] in
theorem position_unique (distinct : data.Nodup) {x : D} {i k : Nat} (here : data[k]? = some x)
    (there : data[i]? = some x) : i = k :=
  (List.getElem?_inj (List.getElem?_eq_some_iff.mp there).1 distinct).mp (there.trans here.symm)

/-- Up to twelve elements, the sort is one insertion sort, and two elements that
are not neighbours are not compared. -/
theorem sortFixed_short (random : Nat → Nat → Nat) (short : data.length ≤ maxInsertion) (distinct : data.Nodup)
    (close : Close key data u v) {i : Nat} (atU : data[i]? = some u) (atV : data[i + 2]? = some v) :
    sortFixed random key data ≠ sortFixed random key (data.map (Equiv.swap u v)) := by
  have different : u ≠ v := by
    rintro rfl
    have same := position_unique distinct atU atV
    omega
  refine sortFixed_exchange random close (List.mem_of_getElem? atU) different fun other same => ?_
  unfold pdqsort
  rw [if_pos (by omega)]
  -- an insertion sort compares neighbours only, and `u` and `v` are two positions apart
  refine (insertionSort_asks (fun j => ?_) 0 data.length).agree same
  refine ⟨?_, ?_⟩
  · rintro ⟨first, second⟩
    have here := position_unique distinct atU first
    have there := position_unique distinct atV second
    omega
  · rintro ⟨first, second⟩
    have here := position_unique distinct atV first
    have there := position_unique distinct atU second
    omega

theorem sortFixed_long (random : Nat → Nat → Nat) (long : maxInsertion < data.length) (distinct : data.Nodup)
    (close : Close key data u v) (atU : data[1]? = some u) (atV : data[3]? = some v)
    (split : LowSplit (keyLess (data.map key)) data.length) :
    sortFixed random key data ≠ sortFixed random key (data.map (Equiv.swap u v)) := by
  have different : u ≠ v := by
    rintro rfl
    have same := position_unique distinct atU atV
    omega
  refine sortFixed_exchange random close (List.mem_of_getElem? atU) different fun other same => ?_
  refine split.agree long (fun i j unlike => same i j ⟨?_, ?_⟩) random
  · rintro ⟨first, second⟩
    exact unlike.1 ⟨position_unique distinct atU first, position_unique distinct atV second⟩
  · rintro ⟨first, second⟩
    exact unlike.2 ⟨position_unique distinct atV first, position_unique distinct atU second⟩

end Exchange

/-! ## Three or more elements -/

theorem exists_ascending (key : D → Nat) {data : List D} (distinct : (data.map key).Nodup) :
    ∃ sorted : List D, sorted.Perm data ∧ sorted.Pairwise fun first second => key first < key second := by
  let sorted := data.mergeSort fun first second => key first ≤ key second
  have perm : sorted.Perm data := List.mergeSort_perm data _
  have ordered : sorted.Pairwise fun first second => decide (key first ≤ key second) = true := by
    apply List.pairwise_mergeSort
    · intro first second third
      simp only [decide_eq_true_eq]
      omega
    · intro first second
      simp only [Bool.or_eq_true, decide_eq_true_eq]
      omega
  have apart : sorted.Pairwise fun first second => key first ≠ key second :=
    List.pairwise_map.mp ((perm.map key).nodup_iff.mpr distinct)
  refine ⟨sorted, perm, (ordered.and apart).imp ?_⟩
  rintro first second ⟨le, ne⟩
  simp only [decide_eq_true_eq] at le
  omega

theorem ascending_nodup {key : D → Nat} {sorted : List D}
    (ascending : sorted.Pairwise fun first second => key first < key second) : sorted.Nodup := by
  refine ascending.imp ?_
  rintro first _ less rfl
  exact Nat.lt_irrefl _ less

section Arrangements
variable [DecidableEq D] {key : D → Nat} {e₀ e₁ e₂ e₃ e₄ : D} {rest : List D}

theorem exchangeable_short (random : Nat → Nat → Nat)
    (ascending : (e₀ :: e₁ :: e₂ :: rest).Pairwise fun first second => key first < key second)
    (short : (e₀ :: e₁ :: e₂ :: rest).length ≤ maxInsertion) :
    (e₀ :: e₂ :: e₁ :: rest).Perm (e₀ :: e₁ :: e₂ :: rest) ∧
      sortFixed random key (e₀ :: e₂ :: e₁ :: rest) ≠
        sortFixed random key ((e₀ :: e₂ :: e₁ :: rest).map (Equiv.swap e₀ e₁)) := by
  have rearranged : (e₀ :: e₂ :: e₁ :: rest).Perm (e₀ :: e₁ :: e₂ :: rest) := (List.Perm.swap e₁ e₂ rest).cons e₀
  have nodup := rearranged.nodup_iff.mpr (ascending_nodup ascending)
  have atFirst : (e₀ :: e₂ :: e₁ :: rest)[0]? = some e₀ := rfl
  refine ⟨rearranged, sortFixed_short random short nodup ?_ atFirst rfl⟩
  simp only [List.pairwise_cons, List.mem_cons, forall_eq_or_imp] at ascending
  obtain ⟨⟨_, _, above₀⟩, ⟨_, above₁⟩, _⟩ := ascending
  intro x member notFirst notSecond
  simp only [List.mem_cons] at member
  rcases member with rfl | rfl | rfl | member
  · exact absurd rfl notFirst
  · omega
  · exact absurd rfl notSecond
  · have low := above₀ x member
    have high := above₁ x member
    omega

theorem exchangeable_long (random : Nat → Nat → Nat)
    (ascending : (e₀ :: e₁ :: e₂ :: e₃ :: e₄ :: rest).Pairwise fun first second => key first < key second)
    (long : maxInsertion < (e₀ :: e₁ :: e₂ :: e₃ :: e₄ :: rest).length) :
    (e₂ :: e₃ :: e₀ :: e₄ :: (rest ++ [e₁])).Perm (e₀ :: e₁ :: e₂ :: e₃ :: e₄ :: rest) ∧
      sortFixed random key (e₂ :: e₃ :: e₀ :: e₄ :: (rest ++ [e₁])) ≠
        sortFixed random key ((e₂ :: e₃ :: e₀ :: e₄ :: (rest ++ [e₁])).map (Equiv.swap e₃ e₄)) := by
  have rearranged : (e₂ :: e₃ :: e₀ :: e₄ :: (rest ++ [e₁])).Perm (e₀ :: e₁ :: e₂ :: e₃ :: e₄ :: rest) := by
    rw [List.perm_iff_count]
    intro x
    simp only [List.count_cons, List.count_append, List.count_nil]
    omega
  have nodup := rearranged.nodup_iff.mpr (ascending_nodup ascending)
  rw [← rearranged.length_eq] at long
  simp only [List.pairwise_cons, List.mem_cons, forall_eq_or_imp] at ascending
  obtain ⟨⟨_, _, _, _, _⟩, ⟨_, _, _, _⟩, ⟨_, _, above₂⟩, ⟨_, above₃⟩, above₄, _⟩ := ascending
  -- `e₃` and `e₄` stand at positions 1 and 3; the last four goals are the answers that send the first
  -- partition between them
  refine ⟨rearranged, sortFixed_long random long nodup ?_ rfl rfl ⟨?_, ?_, ?_, ?_⟩⟩
  · intro x member notFirst notSecond
    simp only [List.mem_cons, List.mem_append, List.not_mem_nil, or_false] at member
    rcases member with rfl | rfl | rfl | rfl | member | rfl
    · omega
    · exact absurd rfl notFirst
    · omega
    · exact absurd rfl notSecond
    · have low := above₃ x member
      have high := above₄ x member
      omega
    · omega
  · simp only [keyLess, List.map_cons, List.getElem?_cons_succ, List.getElem?_cons_zero, decide_eq_false_iff_not]
    omega
  · simp only [keyLess, List.map_cons, List.getElem?_cons_succ, List.getElem?_cons_zero, decide_eq_true_eq]
    omega
  · intro k above below
    obtain ⟨k, rfl⟩ : ∃ i, k = i + 3 := ⟨k - 3, by omega⟩
    simp only [List.length_cons, List.length_append, List.length_nil] at below
    simp only [keyLess, List.map_cons, List.getElem?_cons_succ, List.getElem?_cons_zero]
    cases k with
    | zero =>
      simp only [List.getElem?_cons_zero, decide_eq_false_iff_not]
      omega
    | succ k =>
      have inside : k < rest.length := by omega
      have high := above₂ _ (List.getElem_mem inside)
      simp only [List.getElem?_cons_succ, List.map_append, List.getElem?_append_left (List.length_map key ▸ inside),
        List.getElem?_map, List.getElem?_eq_getElem inside, Option.map_some, decide_eq_false_iff_not]
      omega
  · have atLast : ((e₂ :: e₃ :: e₀ :: e₄ :: (rest ++ [e₁])).map key)[(e₂ :: e₃ :: e₀ :: e₄ :: (rest ++ [e₁])).length - 1]? =
        some (key e₁) := by simp
    rw [keyLess, atLast]
    simp only [List.map_cons, List.getElem?_cons_zero, decide_eq_true_eq]
    omega

end Arrangements

/-- With three or more distinct keys, the sort takes some two arrangements of
the same data to different results. -/
theorem sortFixed_arrangements (random : Nat → Nat → Nat) {key : D → Nat} {data : List D}
    (distinct : (data.map key).Nodup) (several : 3 ≤ data.length) :
    ∃ first second : List D, first.Perm data ∧ second.Perm data ∧
      sortFixed random key first ≠ sortFixed random key second := by
  classical
  obtain ⟨sorted, perm, ascending⟩ := exists_ascending key distinct
  -- it is enough to find two elements to exchange in one arrangement
  suffices exchangeable : ∃ (arranged : List D) (u v : D), u ∈ sorted ∧ v ∈ sorted ∧ arranged.Perm sorted ∧
      sortFixed random key arranged ≠ sortFixed random key (arranged.map (Equiv.swap u v)) by
    obtain ⟨arranged, u, v, memberU, memberV, rearranged, different⟩ := exchangeable
    have exchanged := exchange_perm (rearranged.nodup_iff.mpr (ascending_nodup ascending))
      (rearranged.mem_iff.mpr memberU) (rearranged.mem_iff.mpr memberV)
    exact ⟨arranged, arranged.map (Equiv.swap u v), rearranged.trans perm,
      exchanged.trans (rearranged.trans perm), different⟩
  rw [← perm.length_eq] at several
  by_cases short : sorted.length ≤ maxInsertion
  · match sorted, several, ascending with
    | e₀ :: e₁ :: e₂ :: rest, _, ascending =>
      exact ⟨_, e₀, e₁, by simp, by simp, exchangeable_short random ascending short⟩
  · match sorted, several, ascending with
    | e₀ :: e₁ :: e₂ :: e₃ :: e₄ :: rest, _, ascending =>
      exact ⟨_, e₃, e₄, by simp, by simp, exchangeable_long random ascending (by omega)⟩
    | [_, _, _], _, _ => simp [maxInsertion] at short
    | [_, _, _, _], _, _ => simp [maxInsertion] at short

end Sffl.Golang
