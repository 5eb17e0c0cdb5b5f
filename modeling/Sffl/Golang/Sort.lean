import Sffl.Golang.Routine

/-! Go's `sort.Slice`.

The routines are those of the pattern-defeating quicksort that the library has
used since Go 1.19: short slices are sorted by insertion, longer ones are
partitioned, and heap sort steps in after too many bad partitions.
-/

set_option autoImplicit false

namespace Sffl.Golang

/-! ## Insertion sort and heap sort -/

/-- The loop `for j := i; j > a && Less(j, j-1); j--` of swaps to the left. -/
def shiftLeft (a : Nat) : Nat → Routine Unit
  | 0 => pure ()
  | j + 1 =>
    if a < j + 1 then do
      if ← callLess (j + 1) j then
        callSwap (j + 1) j
        shiftLeft a j
    else pure ()

def insertionLoop (a : Nat) : (count i : Nat) → Routine Unit
  | 0, _ => pure ()
  | count + 1, i => do
    shiftLeft a i
    insertionLoop a count (i + 1)

def insertionSort (a b : Nat) : Routine Unit := insertionLoop a (b - (a + 1)) (a + 1)

def greaterChild (first child hi : Nat) : Routine Nat :=
  if child + 1 < hi then do
    let right ← callLess (first + child) (first + child + 1)
    return if right then child + 1 else child
  else pure child

def siftDown (first hi : Nat) : (fuel root : Nat) → Routine Unit
  | 0, _ => pure ()
  | fuel + 1, root =>
    if hi ≤ 2 * root + 1 then pure ()
    else do
      let child ← greaterChild first (2 * root + 1) hi
      if ← callLess (first + root) (first + child) then
        callSwap (first + root) (first + child)
        siftDown first hi fuel child

def buildHeap (first hi : Nat) : Nat → Routine Unit
  | 0 => siftDown first hi hi 0
  | i + 1 => do
    siftDown first hi hi (i + 1)
    buildHeap first hi i

def popHeap (first : Nat) : Nat → Routine Unit
  | 0 => pure ()
  | i + 1 => do
    callSwap first (first + i)
    siftDown first i i 0
    popHeap first i

def heapSort (a b : Nat) : Routine Unit := do
  buildHeap a (b - a) ((b - a - 1) / 2)
  popHeap a (b - a)

/-! ## Partitions -/

/-- The loop `for i <= j && go(i) { i++ }`. -/
def scanUp (go : Nat → Routine Bool) : (fuel i j : Nat) → Routine Nat
  | 0, i, _ => pure i
  | fuel + 1, i, j =>
    if i ≤ j then do
      if ← go i then scanUp go fuel (i + 1) j else pure i
    else pure i

/-- The loop `for i <= j && go(j) { j-- }`. -/
def scanDown (go : Nat → Routine Bool) : (fuel i j : Nat) → Routine Nat
  | 0, _, j => pure j
  | fuel + 1, i, j =>
    if i ≤ j then do
      if ← go j then scanDown go fuel i (j - 1) else pure j
    else pure j

def sweep (up down : Nat → Routine Bool) : (fuel i j : Nat) → Routine (Nat × Nat)
  | 0, i, j => pure (i, j)
  | fuel + 1, i, j => do
    let i ← scanUp up (j + 1 - i) i j
    let j ← scanDown down (j + 1 - i) i j
    if j < i then pure (i, j)
    else do
      callSwap i j
      sweep up down fuel (i + 1) (j - 1)

def notLess (i j : Nat) : Routine Bool := do
  let answer ← callLess i j
  return !answer

def partition (a b pivot : Nat) : Routine (Nat × Bool) := do
  -- the pivot waits at `a` until its place is known
  callSwap a pivot
  let i ← scanUp (fun i => callLess i a) (b - 1 + 1 - (a + 1)) (a + 1) (b - 1)
  let j ← scanDown (fun j => notLess j a) (b - 1 + 1 - i) i (b - 1)
  -- the scans met, so every element was on its side of the pivot
  if j < i then do
    callSwap j a
    return (j, true)
  else do
    callSwap i j
    let (_, j) ← sweep (fun i => callLess i a) (fun j => notLess j a) (b - a) (i + 1) (j - 1)
    callSwap j a
    return (j, false)

def partitionEqual (a b pivot : Nat) : Routine Nat := do
  callSwap a pivot
  let (i, _) ← sweep (fun i => notLess a i) (fun j => callLess a j) (b - a) (a + 1) (b - 1)
  return i

/-- The loop `for ; j < b; j++` of swaps to the right. -/
def shiftRight : (count j : Nat) → Routine Unit
  | 0, _ => pure ()
  | count + 1, j => do
    if ← callLess j (j - 1) then
      callSwap j (j - 1)
      shiftRight count (j + 1)

def shortestShifting : Nat := 50

def shiftSmaller (a i : Nat) : Routine Unit := if 2 ≤ i - a then shiftLeft 0 (i - 1) else pure ()

def shiftGreater (b i : Nat) : Routine Unit := if 2 ≤ b - i then shiftRight (b - (i + 1)) (i + 1) else pure ()

def partialInsertionLoop (a b : Nat) : (steps i : Nat) → Routine Bool
  | 0, _ => pure false
  | steps + 1, i => do
    let i ← scanUp (fun i => notLess i (i - 1)) (b - i) i (b - 1)
    -- at the end of the slice nothing is out of order; a short slice is not worth shifting
    if i = b then return true
    else if b - a < shortestShifting then return false
    else do
      callSwap i (i - 1)
      shiftSmaller a i
      shiftGreater b i
      partialInsertionLoop a b steps i

def maxSteps : Nat := 5

def partialInsertionSort (a b : Nat) : Routine Bool := partialInsertionLoop a b maxSteps (a + 1)

/-! ## The choice of a pivot -/

def breakPatterns (random : Nat → Nat → Nat) (a b : Nat) : Routine Unit :=
  -- the pseudo-random positions depend on the length only
  let length := b - a
  if 8 ≤ length then do
    -- three neighbours around the middle change places with random elements
    let idx := a + length / 4 * 2 - 1
    callSwap (idx - 1) (a + random length 0)
    callSwap idx (a + random length 1)
    callSwap (idx + 1) (a + random length 2)
  else pure ()

inductive SortedHint where
  | unknownHint
  | increasingHint
  | decreasingHint
  deriving DecidableEq, Repr

def order2 (a b swaps : Nat) : Routine (Nat × Nat × Nat) := do
  if ← callLess b a then return (b, a, swaps + 1)
  else return (a, b, swaps)

def median (a b c swaps : Nat) : Routine (Nat × Nat) := do
  let (a, b, swaps) ← order2 a b swaps
  let (b, _, swaps) ← order2 b c swaps
  let (_, b, swaps) ← order2 a b swaps
  return (b, swaps)

def medianAdjacent (a swaps : Nat) : Routine (Nat × Nat) := median (a - 1) a (a + 1) swaps

def shortestNinther : Nat := 50

def maxSwaps : Nat := 12

def tukeyNinther (i j k : Nat) : Routine (Nat × Nat × Nat × Nat) := do
  let (i, swaps) ← medianAdjacent i 0
  let (j, swaps) ← medianAdjacent j swaps
  let (k, swaps) ← medianAdjacent k swaps
  return (i, j, k, swaps)

def pivotSamples (l i j k : Nat) : Routine (Nat × Nat × Nat × Nat) :=
  if shortestNinther ≤ l then tukeyNinther i j k else pure (i, j, k, 0)

def hintOf (swaps : Nat) : SortedHint :=
  if swaps = 0 then .increasingHint else if swaps = maxSwaps then .decreasingHint else .unknownHint

def choosePivot (a b : Nat) : Routine (Nat × SortedHint) :=
  let l := b - a
  let i := a + l / 4 * 1
  let j := a + l / 4 * 2
  let k := a + l / 4 * 3
  if 8 ≤ l then do
    let (i, j, k, swaps) ← pivotSamples l i j k
    let (j, swaps) ← median i j k swaps
    return (j, hintOf swaps)
  else pure (j, hintOf 0)

def reverseLoop : (fuel i j : Nat) → Routine Unit
  | 0, _, _ => pure ()
  | fuel + 1, i, j =>
    if i < j then do
      callSwap i j
      reverseLoop fuel (i + 1) (j - 1)
    else pure ()

def reverseRange (a b : Nat) : Routine Unit := reverseLoop (b - a) a (b - 1)

/-! ## Quicksort -/

def maxInsertion : Nat := 12

def orientPivot (a b : Nat) : Routine (Nat × SortedHint) := do
  let (pivot, hint) ← choosePivot a b
  if hint = .decreasingHint then do
    reverseRange a b
    return ((b - 1) - (pivot - a), .increasingHint)
  else return (pivot, hint)

def likelySorted (a b : Nat) (wasBalanced wasPartitioned : Bool) (hint : SortedHint) : Routine Bool :=
  if wasBalanced && wasPartitioned && hint = .increasingHint then partialInsertionSort a b else pure false

def pivotRepeats (a pivot : Nat) : Routine Bool :=
  if 0 < a then notLess (a - 1) pivot else pure false

def rebalance (random : Nat → Nat → Nat) (a b limit : Nat) (wasBalanced : Bool) : Routine Nat :=
  if wasBalanced then pure limit
  else do
    breakPatterns random a b
    return limit - 1

/-- The loop of `pdqsort_func`; a recursive call starts it afresh. Every round
works on a shorter slice, so the slice's length bounds the rounds. -/
def pdqsort (random : Nat → Nat → Nat) : (fuel a b limit : Nat) → (wasBalanced wasPartitioned : Bool) → Routine Unit
  | 0, _, _, _, _, _ => pure ()
  | fuel + 1, a, b, limit, wasBalanced, wasPartitioned =>
    if b - a ≤ maxInsertion then insertionSort a b
    else if limit = 0 then heapSort a b
    else do
      -- an unbalanced partition costs one of the remaining attempts
      let limit ← rebalance random a b limit wasBalanced
      let (pivot, hint) ← orientPivot a b
      let sorted ← likelySorted a b wasBalanced wasPartitioned hint
      if sorted then pure ()
      else do
        let repeats ← pivotRepeats a pivot
        if repeats then do
          let mid ← partitionEqual a b pivot
          -- the elements up to `mid` equal the pivot and are in place
          pdqsort random fuel mid b limit wasBalanced wasPartitioned
        else do
          let (mid, alreadyPartitioned) ← partition a b pivot
          let balanceThreshold := (b - a) / 8
          -- the shorter side is the recursive call, the longer one the next round
          if mid - a < b - mid then do
            pdqsort random fuel a mid limit true true
            pdqsort random fuel (mid + 1) b limit (balanceThreshold ≤ mid - a) alreadyPartitioned
          else do
            pdqsort random fuel (mid + 1) b limit true true
            pdqsort random fuel a mid limit (balanceThreshold ≤ b - mid) alreadyPartitioned

def bitsLen (n : Nat) : Nat := if n = 0 then 0 else n.log2 + 1

def sortSlice {D : Type} (random : Nat → Nat → Nat) (less : List D → Nat → Nat → Bool) (data : List D) : List D :=
  ((pdqsort random (data.length + 1) 0 data.length (bitsLen data.length) true true).run less data).2

end Sffl.Golang
