import Sffl.Golang.Sort

/-! Which positions `sort.Slice` compares.

Insertion compares neighbours only. The other routines compare positions of
their own slice and the position before it. So a sort leaves some pairs of
positions uncompared whenever its slice is split between them early.
-/

set_option autoImplicit false

namespace Sffl.Golang

open Routine

variable {Question : Nat → Nat → Prop}

theorem notLess_asks {i j : Nat} (asked : Question i j) : Asks Question (fun _ => True) (notLess i j) :=
  (Asks.callLess asked).bind fun _ _ => Asks.pure trivial

section Neighbours
variable (neighbours : ∀ j, Question (j + 1) j)
include neighbours

theorem shiftLeft_asks (a j : Nat) : Asks Question (fun _ => True) (shiftLeft a j) := by
  induction j with
  | zero => exact Asks.pure trivial
  | succ j ih =>
    unfold shiftLeft
    split
    · refine (Asks.callLess (neighbours j)).bind fun answer _ => ?_
      split
      · exact (Asks.callSwap (j + 1) j).bind fun _ _ => ih
      · exact Asks.pure trivial
    · exact Asks.pure trivial

theorem insertionLoop_asks (a count i : Nat) : Asks Question (fun _ => True) (insertionLoop a count i) := by
  induction count generalizing i with
  | zero => exact Asks.pure trivial
  | succ count ih => exact (shiftLeft_asks neighbours a i).bind fun _ _ => ih (i + 1)

theorem insertionSort_asks (a b : Nat) : Asks Question (fun _ => True) (insertionSort a b) :=
  insertionLoop_asks neighbours a _ _

theorem shiftRight_asks (count j : Nat) (positive : 0 < j) : Asks Question (fun _ => True) (shiftRight count j) := by
  induction count generalizing j with
  | zero => exact Asks.pure trivial
  | succ count ih =>
    obtain ⟨i, rfl⟩ : ∃ i, j = i + 1 := ⟨j - 1, by omega⟩
    refine (Asks.callLess (neighbours i)).bind fun answer _ => ?_
    split
    · exact (Asks.callSwap (i + 1) i).bind fun _ _ => ih (i + 2) (by omega)
    · exact Asks.pure trivial

end Neighbours

/-! ## Scans and partitions -/

def Between (a b i j : Nat) : Prop := a < i ∧ i ≤ b ∧ a ≤ j ∧ j < b

theorem scanUp_asks {go : Nat → Routine Bool} {a b : Nat}
    (asked : ∀ k, a < k → k < b → Asks Question (fun _ => True) (go k)) (fuel i j : Nat) (inside : Between a b i j) :
    Asks Question (fun k => Between a b k j) (scanUp go fuel i j) := by
  unfold Between at *
  induction fuel generalizing i with
  | zero => exact Asks.pure inside
  | succ fuel ih =>
    unfold scanUp
    split
    · refine (asked i (by omega) (by omega)).bind fun answer _ => ?_
      split
      · exact ih (i + 1) (by omega)
      · exact Asks.pure inside
    · exact Asks.pure inside

theorem scanDown_asks {go : Nat → Routine Bool} {a b : Nat}
    (asked : ∀ k, a < k → k < b → Asks Question (fun _ => True) (go k)) (fuel i j : Nat) (inside : Between a b i j) :
    Asks Question (fun k => Between a b i k) (scanDown go fuel i j) := by
  unfold Between at *
  induction fuel generalizing j with
  | zero => exact Asks.pure inside
  | succ fuel ih =>
    unfold scanDown
    split
    · refine (asked j (by omega) (by omega)).bind fun answer _ => ?_
      split
      · exact ih (j - 1) (by omega)
      · exact Asks.pure inside
    · exact Asks.pure inside

theorem sweep_asks {up down : Nat → Routine Bool} {a b : Nat}
    (askedUp : ∀ k, a < k → k < b → Asks Question (fun _ => True) (up k))
    (askedDown : ∀ k, a < k → k < b → Asks Question (fun _ => True) (down k))
    (fuel i j : Nat) (inside : Between a b i j) :
    Asks Question (fun ends => Between a b ends.1 ends.2) (sweep up down fuel i j) := by
  induction fuel generalizing i j with
  | zero => exact Asks.pure inside
  | succ fuel ih =>
    refine (scanUp_asks askedUp _ i j inside).bind fun i inside => ?_
    refine (scanDown_asks askedDown _ i j inside).bind fun j inside => ?_
    split
    · exact Asks.pure inside
    · refine (Asks.callSwap i j).bind fun _ _ => ih (i + 1) (j - 1) ?_
      unfold Between at *
      omega

theorem partition_asks {a b : Nat} (pivot : Nat) (nonempty : a < b) (asked : ∀ k, a < k → k < b → Question k a) :
    Asks Question (fun result => a ≤ result.1 ∧ result.1 < b) (partition a b pivot) := by
  have up : ∀ k, a < k → k < b → Asks Question (fun _ => True) (callLess k a) :=
    fun k above below => Asks.callLess (asked k above below)
  have down : ∀ k, a < k → k < b → Asks Question (fun _ => True) (notLess k a) :=
    fun k above below => notLess_asks (asked k above below)
  have start : Between a b (a + 1) (b - 1) := by unfold Between; omega
  refine (Asks.callSwap a pivot).bind fun _ _ => ?_
  refine (scanUp_asks up _ _ _ start).bind fun i inside => ?_
  refine (scanDown_asks down _ _ _ inside).bind fun j inside => ?_
  split
  · exact (Asks.callSwap j a).bind fun _ _ => Asks.pure ⟨inside.2.2.1, inside.2.2.2⟩
  · refine (Asks.callSwap i j).bind fun _ _ => ?_
    have next : Between a b (i + 1) (j - 1) := by unfold Between at *; omega
    refine (sweep_asks up down _ _ _ next).bind fun ends inside => ?_
    exact (Asks.callSwap ends.2 a).bind fun _ _ => Asks.pure ⟨inside.2.2.1, inside.2.2.2⟩

theorem partitionEqual_asks {a b : Nat} (pivot : Nat) (nonempty : a < b) (asked : ∀ k, a < k → k < b → Question a k) :
    Asks Question (fun i => a < i ∧ i ≤ b) (partitionEqual a b pivot) := by
  have start : Between a b (a + 1) (b - 1) := by unfold Between; omega
  refine (Asks.callSwap a pivot).bind fun _ _ => ?_
  refine (sweep_asks (fun k above below => notLess_asks (asked k above below))
    (fun k above below => Asks.callLess (asked k above below)) _ _ _ start).bind fun ends inside => ?_
  exact Asks.pure ⟨inside.1, inside.2.1⟩

theorem partialInsertionSort_asks (neighbours : ∀ j, Question (j + 1) j) {a b : Nat} (nonempty : a < b) :
    Asks Question (fun _ => True) (partialInsertionSort a b) := by
  have scanned : ∀ k, a < k → k < b → Asks Question (fun _ => True) (notLess k (k - 1)) := by
    intro k above _
    obtain ⟨i, rfl⟩ : ∃ i, k = i + 1 := ⟨k - 1, by omega⟩
    exact notLess_asks (neighbours i)
  have start : Between a b (a + 1) (b - 1) := by unfold Between; omega
  unfold partialInsertionSort
  generalize maxSteps = steps
  generalize a + 1 = i at start
  induction steps generalizing i with
  | zero => exact Asks.pure trivial
  | succ steps ih =>
    refine (scanUp_asks scanned _ _ _ start).bind fun i inside => ?_
    split
    · exact Asks.pure trivial
    · split
      · exact Asks.pure trivial
      · have smaller : Asks Question (fun _ => True) (shiftSmaller a i) := by
          unfold shiftSmaller
          split
          · exact shiftLeft_asks neighbours 0 (i - 1)
          · exact Asks.pure trivial
        have greater : Asks Question (fun _ => True) (shiftGreater b i) := by
          unfold shiftGreater
          split
          · exact shiftRight_asks neighbours _ _ (by omega)
          · exact Asks.pure trivial
        exact (Asks.callSwap i (i - 1)).bind fun _ _ => smaller.bind fun _ _ => greater.bind fun _ _ => ih i inside

/-! ## Pivots -/

section Pivot
variable {Sample : Nat → Prop} (asked : ∀ i j, Sample i → Sample j → Question i j)
include asked

theorem order2_asks {a b : Nat} (swaps : Nat) (first : Sample a) (second : Sample b) :
    Asks Question (fun result => Sample result.1 ∧ Sample result.2.1) (order2 a b swaps) := by
  refine (Asks.callLess (asked b a second first)).bind fun answer _ => ?_
  split
  · exact Asks.pure ⟨second, first⟩
  · exact Asks.pure ⟨first, second⟩

theorem median_asks {a b c : Nat} (swaps : Nat) (first : Sample a) (second : Sample b) (third : Sample c) :
    Asks Question (fun result => Sample result.1) (median a b c swaps) := by
  refine (order2_asks asked swaps first second).bind fun low lowSamples => ?_
  refine (order2_asks asked low.2.2 lowSamples.2 third).bind fun high highSamples => ?_
  refine (order2_asks asked high.2.2 lowSamples.1 highSamples.1).bind fun middle samples => ?_
  exact Asks.pure samples.2

theorem pivotSamples_asks {l i j k : Nat} (near : ∀ p ∈ [i, j, k], Sample (p - 1) ∧ Sample p ∧ Sample (p + 1)) :
    Asks Question (fun result => Sample result.1 ∧ Sample result.2.1 ∧ Sample result.2.2.1) (pivotSamples l i j k) := by
  simp only [List.mem_cons, List.not_mem_nil, or_false, forall_eq_or_imp, forall_eq] at near
  obtain ⟨⟨i₀, i₁, i₂⟩, ⟨j₀, j₁, j₂⟩, k₀, k₁, k₂⟩ := near
  unfold pivotSamples
  split
  · refine (median_asks asked 0 i₀ i₁ i₂).bind fun first firstSample => ?_
    refine (median_asks asked first.2 j₀ j₁ j₂).bind fun second secondSample => ?_
    refine (median_asks asked second.2 k₀ k₁ k₂).bind fun third thirdSample => ?_
    exact Asks.pure ⟨firstSample, secondSample, thirdSample⟩
  · exact Asks.pure ⟨i₁, j₁, k₁⟩

end Pivot

theorem choosePivot_asks {a b lo : Nat} (long : 8 ≤ b - a) (low : lo + 1 ≤ a + (b - a) / 4)
    (asked : ∀ i j, lo ≤ i → lo ≤ j → Question i j) :
    Asks Question (fun result => lo ≤ result.1 ∧ result.1 < b) (choosePivot a b) := by
  have sampled : ∀ i j, (lo ≤ i ∧ i < b) → (lo ≤ j ∧ j < b) → Question i j :=
    fun i j first second => asked i j first.1 second.1
  have near : ∀ p ∈ [a + (b - a) / 4 * 1, a + (b - a) / 4 * 2, a + (b - a) / 4 * 3],
      (lo ≤ p - 1 ∧ p - 1 < b) ∧ (lo ≤ p ∧ p < b) ∧ (lo ≤ p + 1 ∧ p + 1 < b) := by
    simp only [List.mem_cons, List.not_mem_nil, or_false, forall_eq_or_imp, forall_eq]
    omega
  simp only [choosePivot, if_pos long]
  refine (pivotSamples_asks sampled near).bind fun samples inside => ?_
  refine (median_asks sampled samples.2.2.2 inside.1 inside.2.1 inside.2.2).bind fun pivot chosen => ?_
  exact Asks.pure chosen

theorem orientPivot_asks {a b lo : Nat} (long : 8 ≤ b - a) (low : lo + 1 ≤ a + (b - a) / 4)
    (asked : ∀ i j, lo ≤ i → lo ≤ j → Question i j) :
    Asks Question (fun result => min lo a ≤ result.1) (orientPivot a b) := by
  have silent : ∀ fuel i j, Asks Question (fun _ => True) (reverseLoop fuel i j) := by
    intro fuel
    induction fuel with
    | zero => exact fun _ _ => Asks.pure trivial
    | succ fuel ih =>
      intro i j
      unfold reverseLoop
      split
      · exact (Asks.callSwap i j).bind fun _ _ => ih (i + 1) (j - 1)
      · exact Asks.pure trivial
  refine (choosePivot_asks long low asked).bind ?_
  rintro ⟨pivot, hint⟩ inside
  simp only at inside ⊢
  split
  · refine (silent (b - a) a (b - 1)).bind fun _ _ => Asks.pure ?_
    simp only
    omega
  · exact Asks.pure (Nat.le_trans (Nat.min_le_left lo a) inside.1)

/-! ## Heaps -/

theorem siftDown_asks {first : Nat} (asked : ∀ i j, first ≤ i → first ≤ j → Question i j) (hi fuel root : Nat) :
    Asks Question (fun _ => True) (siftDown first hi fuel root) := by
  induction fuel generalizing root with
  | zero => exact Asks.pure trivial
  | succ fuel ih =>
    have chosen : Asks Question (fun _ => True) (greaterChild first (2 * root + 1) hi) := by
      unfold greaterChild
      split
      · exact (Asks.callLess (asked _ _ (by omega) (by omega))).bind fun _ _ => Asks.pure trivial
      · exact Asks.pure trivial
    unfold siftDown
    split
    · exact Asks.pure trivial
    · refine chosen.bind fun child _ => ?_
      refine (Asks.callLess (asked _ _ (by omega) (by omega))).bind fun answer _ => ?_
      split
      · exact (Asks.callSwap _ _).bind fun _ _ => ih child
      · exact Asks.pure trivial

theorem heapSort_asks {a : Nat} (asked : ∀ i j, a ≤ i → a ≤ j → Question i j) (b : Nat) :
    Asks Question (fun _ => True) (heapSort a b) := by
  have build : ∀ i, Asks Question (fun _ => True) (buildHeap a (b - a) i) := by
    intro i
    induction i with
    | zero => exact siftDown_asks asked _ _ 0
    | succ i ih => exact (siftDown_asks asked _ _ (i + 1)).bind fun _ _ => ih
  have pop : ∀ i, Asks Question (fun _ => True) (popHeap a i) := by
    intro i
    induction i with
    | zero => exact Asks.pure trivial
    | succ i ih =>
      exact (Asks.callSwap a (a + i)).bind fun _ _ => (siftDown_asks asked i i 0).bind fun _ _ => ih
  exact (build _).bind fun _ _ => pop _

/-! ## The whole sort -/

theorem rebalance_asks (random : Nat → Nat → Nat) (a b limit : Nat) (wasBalanced : Bool) :
    Asks Question (fun _ => True) (rebalance random a b limit wasBalanced) := by
  unfold rebalance
  split
  · exact Asks.pure trivial
  · have silent : Asks Question (fun _ => True) (breakPatterns random a b) := by
      unfold breakPatterns
      simp only
      split
      · exact (Asks.callSwap _ _).bind fun _ _ => (Asks.callSwap _ _).bind fun _ _ => Asks.callSwap _ _
      · exact Asks.pure trivial
    exact silent.bind fun _ _ => Asks.pure trivial

theorem likelySorted_asks (neighbours : ∀ j, Question (j + 1) j) {a b : Nat} (nonempty : a < b)
    (wasBalanced wasPartitioned : Bool) (hint : SortedHint) :
    Asks Question (fun _ => True) (likelySorted a b wasBalanced wasPartitioned hint) := by
  unfold likelySorted
  split
  · exact partialInsertionSort_asks neighbours nonempty
  · exact Asks.pure trivial

def Above (lo i j : Nat) : Prop := i = j + 1 ∨ lo ≤ i ∧ lo ≤ j

theorem pdqsort_asks (random : Nat → Nat → Nat) (lo fuel a b limit : Nat) (wasBalanced wasPartitioned : Bool)
    (below : lo < a) :
    Asks (Above lo) (fun _ => True) (pdqsort random fuel a b limit wasBalanced wasPartitioned) := by
  have neighbours : ∀ j, Above lo (j + 1) j := fun j => Or.inl rfl
  have inside : ∀ i j, lo ≤ i → lo ≤ j → Above lo i j := fun i j first second => Or.inr ⟨first, second⟩
  induction fuel generalizing a b limit wasBalanced wasPartitioned with
  | zero => exact Asks.pure trivial
  | succ fuel ih =>
    unfold pdqsort
    split
    · exact insertionSort_asks neighbours a b
    next long =>
    rw [maxInsertion] at long
    split
    · exact heapSort_asks (fun i j first second => inside i j (by omega) (by omega)) b
    refine (rebalance_asks random a b limit wasBalanced).bind fun limit _ => ?_
    refine (orientPivot_asks (by omega) (by omega) inside).bind fun oriented pivotAbove => ?_
    refine (likelySorted_asks neighbours (by omega) wasBalanced wasPartitioned oriented.2).bind fun sorted _ => ?_
    split
    · exact Asks.pure trivial
    have repeats : Asks (Above lo) (fun _ => True) (pivotRepeats a oriented.1) := by
      unfold pivotRepeats
      split
      · exact notLess_asks (inside _ _ (by omega) (by omega))
      · exact Asks.pure trivial
    refine repeats.bind fun repeats _ => ?_
    split
    · refine (partitionEqual_asks _ (by omega) fun k above _ => inside a k (by omega) (by omega)).bind
        fun mid midInside => ?_
      exact ih mid b limit wasBalanced wasPartitioned (by omega)
    · refine (partition_asks _ (by omega) fun k above _ => inside k a (by omega) (by omega)).bind
        fun result midInside => ?_
      simp only
      split
      · exact (ih a _ _ _ _ below).bind fun _ _ => ih _ b _ _ _ (by omega)
      · exact (ih _ b _ _ _ (by omega)).bind fun _ _ => ih a _ _ _ _ below

/-- A round more changes nothing once there are as many as positions in the
slice: the fuel never ends a sort. -/
theorem pdqsort_fuel (random : Nat → Nat → Nat) {fuel other a b : Nat} (limit : Nat)
    (wasBalanced wasPartitioned : Bool) (enough : b - a < fuel) (otherEnough : b - a < other) :
    pdqsort random fuel a b limit wasBalanced wasPartitioned =
      pdqsort random other a b limit wasBalanced wasPartitioned := by
  induction fuel generalizing other a b limit wasBalanced wasPartitioned with
  | zero => omega
  | succ fuel ih =>
    obtain ⟨other, rfl⟩ : ∃ fewer, other = fewer + 1 := ⟨other - 1, by omega⟩
    unfold pdqsort
    split
    · rfl
    next long =>
    split
    · rfl
    refine congrArg (Bind.bind _) (funext fun limit => congrArg (Bind.bind _) (funext fun oriented => ?_))
    refine congrArg (Bind.bind _) (funext fun sorted => ?_)
    split
    · rfl
    refine congrArg (Bind.bind _) (funext fun repeats => ?_)
    have nonempty : a < b := by omega
    -- only the recursive calls depend on the fuel, and their slices are shorter
    split
    · have bounds : Asks (fun _ _ => True) (fun i => a < i ∧ i ≤ b) (partitionEqual a b oriented.1) :=
        partitionEqual_asks oriented.1 nonempty fun _ _ _ => trivial
      refine bounds.bind_congr fun mid inside => ?_
      exact ih limit wasBalanced wasPartitioned (by omega) (by omega)
    · have bounds : Asks (fun _ _ => True) (fun result => a ≤ result.1 ∧ result.1 < b) (partition a b oriented.1) :=
        partition_asks oriented.1 nonempty fun _ _ _ => trivial
      refine bounds.bind_congr ?_
      rintro ⟨mid, alreadyPartitioned⟩ inside
      simp only at inside ⊢
      rw [ih limit true true (by omega : mid - a < fuel) (by omega : mid - a < other),
        ih limit true true (by omega : b - (mid + 1) < fuel) (by omega : b - (mid + 1) < other),
        ih limit _ _ (by omega : mid - a < fuel) (by omega : mid - a < other),
        ih limit _ _ (by omega : b - (mid + 1) < fuel) (by omega : b - (mid + 1) < other)]

/-! ## A slice that is split at its third position

With the second smallest element last and the two smallest ones nowhere else but
in front, the first partition leaves positions 1 and 3 on different sides of
the pivot, and the sort never compares them.
-/

section LowSplit
variable {D : Type} {answers : Nat → Nat → Bool} {go : Nat → Routine Bool} {value : Nat → Bool}
  (reads : ∀ k (data : List D), (go k).run (fun _ => answers) data = (value k, data))
include reads

theorem scanUp_run {fuel i j stop : Nat} (data : List D) (enough : j + 1 - i ≤ fuel) (first : i ≤ stop)
    (last : stop ≤ j + 1) (goes : ∀ k, i ≤ k → k < stop → value k = true) (stops : stop ≤ j → value stop = false) :
    (scanUp go fuel i j).run (fun _ => answers) data = (stop, data) := by
  induction fuel generalizing i with
  | zero =>
    obtain rfl : i = stop := by omega
    rfl
  | succ fuel ih =>
    unfold scanUp
    by_cases inside : i ≤ j
    · rw [if_pos inside, run_bind, reads]
      rcases Nat.eq_or_lt_of_le first with rfl | before
      · rw [stops inside]
        rfl
      · rw [goes i (Nat.le_refl i) before]
        exact ih (by omega) before fun k above below => goes k (by omega) below
    · obtain rfl : i = stop := by omega
      rw [if_neg inside]
      rfl

theorem scanDown_run {fuel i j stop : Nat} (data : List D) (enough : j + 1 - i ≤ fuel) (positive : 0 < i)
    (last : stop ≤ j) (first : i ≤ stop + 1) (goes : ∀ k, stop < k → k ≤ j → value k = true)
    (stops : i ≤ stop → value stop = false) :
    (scanDown go fuel i j).run (fun _ => answers) data = (stop, data) := by
  induction fuel generalizing j with
  | zero =>
    obtain rfl : j = stop := by omega
    rfl
  | succ fuel ih =>
    unfold scanDown
    by_cases inside : i ≤ j
    · rw [if_pos inside, run_bind, reads]
      rcases Nat.eq_or_lt_of_le last with rfl | before
      · rw [stops inside]
        rfl
      · rw [goes j before (Nat.le_refl j)]
        exact ih (by omega) (by omega) fun k above below => goes k above (by omega)
    · obtain rfl : j = stop := by omega
      rw [if_neg inside]
      rfl

end LowSplit

/-- Compared with position 0, only positions 2 and `n - 1` hold less. -/
structure LowSplit (answers : Nat → Nat → Bool) (n : Nat) : Prop where
  second : answers 1 0 = false
  third : answers 2 0 = true
  middle : ∀ k, 3 ≤ k → k < n - 1 → answers k 0 = false
  last : answers (n - 1) 0 = true

theorem LowSplit.partition {D : Type} {answers : Nat → Nat → Bool} {n : Nat} (split : LowSplit answers n)
    (long : 12 < n) (pivot : Nat) (data : List D) :
    ((partition 0 n pivot).run (fun _ => answers) data).1 = (2, false) := by
  have up : ∀ k (data : List D), (callLess k 0).run (fun _ => answers) data = (answers k 0, data) :=
    fun _ _ => rfl
  have down : ∀ k (data : List D), (notLess k 0).run (fun _ => answers) data = (!answers k 0, data) :=
    fun _ _ => rfl
  have firstUp : ∀ data : List D,
      (scanUp (fun i => callLess i 0) (n - 1 + 1 - (0 + 1)) (0 + 1) (n - 1)).run (fun _ => answers) data = (1, data) := by
    intro data
    exact scanUp_run up data (by omega) (by omega) (by omega) (by omega) fun _ => split.second
  have firstDown : ∀ data : List D,
      (scanDown (fun j => notLess j 0) (n - 1 + 1 - 1) 1 (n - 1)).run (fun _ => answers) data = (n - 1, data) := by
    intro data
    exact scanDown_run down data (by omega) (by omega) (by omega) (by omega) (by omega) fun _ => by simp [split.last]
  have secondUp : ∀ data : List D,
      (scanUp (fun i => callLess i 0) (n - 1 - 1 + 1 - 2) 2 (n - 1 - 1)).run (fun _ => answers) data = (3, data) := by
    intro data
    refine scanUp_run up data (by omega) (by omega) (by omega) ?_ fun _ => split.middle 3 (by omega) (by omega)
    intro k above below
    obtain rfl : k = 2 := by omega
    exact split.third
  have secondDown : ∀ data : List D,
      (scanDown (fun j => notLess j 0) (n - 1 - 1 + 1 - 3) 3 (n - 1 - 1)).run (fun _ => answers) data = (2, data) := by
    intro data
    refine scanDown_run down data (by omega) (by omega) (by omega) (by omega) ?_ (by omega)
    intro k above below
    simp [split.middle k (by omega) (by omega)]
  obtain ⟨rounds, fuel⟩ : ∃ rounds, n - 0 = rounds + 1 := ⟨n - 1, by omega⟩
  have apart : ¬n - 1 < 1 := by omega
  simp only [Golang.partition, run_bind, run_callSwap, firstUp, firstDown, if_neg apart, fuel, sweep, secondUp,
    secondDown, Nat.reduceLT, if_true, run_pure]

def OtherThan13 (i j : Nat) : Prop := ¬(i = 1 ∧ j = 3) ∧ ¬(i = 3 ∧ j = 1)

theorem LowSplit.agree {D : Type} {answers other : Nat → Nat → Bool} {n : Nat} (split : LowSplit answers n)
    (long : 12 < n) (same : ∀ i j, OtherThan13 i j → answers i j = other i j) (random : Nat → Nat → Nat) :
    Agree D answers other (pdqsort random (n + 1) 0 n (bitsLen n) true true) := by
  have neighbours : ∀ j, OtherThan13 (j + 1) j := by unfold OtherThan13; omega
  have fromTwo : ∀ i j, 2 ≤ i → 2 ≤ j → OtherThan13 i j := by unfold OtherThan13; omega
  have limited : bitsLen n ≠ 0 := by unfold bitsLen; split <;> omega
  unfold pdqsort
  rw [if_neg (by rw [maxInsertion]; omega), if_neg limited]
  refine ((rebalance_asks random 0 n _ true).agree same).bind fun data => ?_
  refine ((orientPivot_asks (by omega) (by omega) fromTwo).agree same).bind fun data => ?_
  refine ((likelySorted_asks neighbours (by omega) true true _).agree same).bind fun data => ?_
  split
  · exact fun _ => rfl
  refine Agree.bind (fun _ => rfl) fun data => ?_
  -- there is no element before the slice, so the pivot repeats none
  have noLowerBound : ∀ pivot, ((pivotRepeats 0 pivot).run (fun _ => answers) data).1 = false := fun _ => rfl
  rw [noLowerBound, if_neg (by decide)]
  have pivotCompared : ∀ k, 0 < k → k < n → OtherThan13 k 0 := by unfold OtherThan13; omega
  refine ((partition_asks _ (by omega) pivotCompared).agree same).bind fun data => ?_
  rw [split.partition long]
  simp only
  rw [if_pos (by omega)]
  obtain ⟨rounds, rfl⟩ : ∃ rounds, n = rounds + 1 := ⟨n - 1, by omega⟩
  have left : ∀ limit, Asks OtherThan13 (fun _ => True) (pdqsort random (rounds + 1) 0 2 limit true true) := by
    intro limit
    unfold pdqsort
    rw [if_pos (by decide)]
    exact insertionSort_asks neighbours 0 2
  have right : ∀ limit balanced partitioned, Asks OtherThan13 (fun _ => True)
      (pdqsort random (rounds + 1) (2 + 1) (rounds + 1) limit balanced partitioned) := by
    intro limit balanced partitioned
    refine (pdqsort_asks random 2 _ _ _ _ _ _ (by omega)).mono ?_ fun _ _ => trivial
    rintro i j (rfl | ⟨first, second⟩)
    · exact neighbours j
    · exact fromTwo i j first second
  exact ((left _).agree same).bind fun _ => (right _ _ _).agree same

end Sffl.Golang
