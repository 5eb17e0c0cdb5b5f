import Mathlib.Data.List.Basic

/-! The resending of queued messages.

`tryResendFromDeque` scans the queue and compacts it in place: entries that are
to be tried again are written behind each other at a cursor that never overtakes
the scan. A shutdown or network error ends the scan and keeps the rest.
-/

set_option autoImplicit false

namespace Sffl.Operator

def MaxRetries : Nat := 10

inductive CallResult where
  | success
  | applicationError
  | shutdownOrNetworkError
  deriving DecidableEq, Repr

structure UnsentRpcMessage (M : Type) where
  message : M
  retries : Nat
  deriving DecidableEq, Repr

/-- The queue, which is written to, and the two positions in it. -/
structure ResendLoop (M : Type) where
  unsentMessages : List (UnsentRpcMessage M)
  i : Nat
  errorPos : Nat

inductive Iteration (M : Type) where
  | next (loop : ResendLoop M)
  | returned (unsentMessages : List (UnsentRpcMessage M))

section Loop
variable {M : Type}

/-- The inner loop, with the number of entries from `j` on. -/
def shiftTail (unsentMessages : List (UnsentRpcMessage M)) (j errorPos : Nat) :
    Nat → List (UnsentRpcMessage M) × Nat
  | 0 => (unsentMessages, errorPos)
  | count + 1 =>
    match unsentMessages[j]? with
    | none => (unsentMessages, errorPos)
    | some rpcMessage => shiftTail (unsentMessages.set errorPos rpcMessage) (j + 1) (errorPos + 1) count

namespace ResendLoop

def iterate (loop : ResendLoop M) (entry : UnsentRpcMessage M) : CallResult → Iteration M
  | .success => .next { loop with i := loop.i + 1 }
  | .shutdownOrNetworkError =>
    if loop.errorPos = 0 then .returned (loop.unsentMessages.drop loop.i)
    else
      let (unsentMessages, errorPos) :=
        shiftTail loop.unsentMessages loop.i loop.errorPos (loop.unsentMessages.length - loop.i)
      .returned (unsentMessages.take errorPos)
  | .applicationError =>
    let entry := { entry with retries := entry.retries + 1 }
    if MaxRetries ≤ entry.retries then .next { loop with i := loop.i + 1 }
    else .next ⟨loop.unsentMessages.set loop.errorPos entry, loop.i + 1, loop.errorPos + 1⟩

/-- The loop and the statement after it. The results are those of the calls, by position. -/
def run (results : Nat → CallResult) : Nat → ResendLoop M → List (UnsentRpcMessage M)
  | 0, loop => loop.unsentMessages.take loop.errorPos
  | fuel + 1, loop =>
    match loop.unsentMessages[loop.i]? with
    | none => loop.unsentMessages.take loop.errorPos
    | some entry =>
      match loop.iterate entry (results loop.i) with
      | .next loop => run results fuel loop
      | .returned unsentMessages => unsentMessages

end ResendLoop

def tryResendFromDeque (results : Nat → CallResult) (unsentMessages : List (UnsentRpcMessage M)) :
    List (UnsentRpcMessage M) :=
  ResendLoop.run results unsentMessages.length ⟨unsentMessages, 0, 0⟩

/-! ## What an iteration leaves -/

def retried (entry : UnsentRpcMessage M) (result : CallResult) : Option (UnsentRpcMessage M) :=
  if result = .applicationError ∧ entry.retries + 1 < MaxRetries then
    some { entry with retries := entry.retries + 1 }
  else none

/-- The entries that count: those written behind the cursor and those not scanned yet. -/
def ResendLoop.live (loop : ResendLoop M) : List (UnsentRpcMessage M) :=
  loop.unsentMessages.take loop.errorPos ++ loop.unsentMessages.drop loop.i

theorem take_set_append_drop {unsentMessages : List (UnsentRpcMessage M)} {errorPos i : Nat} (behind : errorPos ≤ i)
    (inside : i < unsentMessages.length) (entry : UnsentRpcMessage M) :
    (unsentMessages.set errorPos entry).take (errorPos + 1) ++ (unsentMessages.set errorPos entry).drop (i + 1) =
      unsentMessages.take errorPos ++ [entry] ++ unsentMessages.drop (i + 1) := by
  -- writing at the cursor does not touch what is still to be scanned
  have written : errorPos < (unsentMessages.set errorPos entry).length := by rw [List.length_set]; omega
  rw [List.drop_set_of_lt (by omega), List.take_succ_eq_append_getElem written, List.take_set_of_le (by omega),
    List.getElem_set_self]

theorem shiftTail_take {unsentMessages : List (UnsentRpcMessage M)} {j errorPos count : Nat} (behind : errorPos ≤ j)
    (rest : j + count = unsentMessages.length) :
    (shiftTail unsentMessages j errorPos count).1.take (shiftTail unsentMessages j errorPos count).2 =
      unsentMessages.take errorPos ++ unsentMessages.drop j := by
  induction count generalizing unsentMessages j errorPos with
  | zero => simp [shiftTail, ← rest]
  | succ count ih =>
    have inside : j < unsentMessages.length := by omega
    simp only [shiftTail, List.getElem?_eq_getElem inside]
    rw [ih (by omega) (by rw [List.length_set]; omega), take_set_append_drop behind inside, List.append_assoc,
      List.singleton_append, List.getElem_cons_drop]

def Iteration.Leaves (loop : ResendLoop M) (entry : UnsentRpcMessage M) (result : CallResult) : Iteration M → Prop
  | .next after => result ≠ .shutdownOrNetworkError ∧ after.i = loop.i + 1 ∧ after.errorPos ≤ after.i ∧
      after.unsentMessages.length = loop.unsentMessages.length ∧
      after.unsentMessages.drop after.i = loop.unsentMessages.drop (loop.i + 1) ∧
      after.unsentMessages.take after.errorPos =
        loop.unsentMessages.take loop.errorPos ++ (retried entry result).toList
  | .returned unsentMessages => result = .shutdownOrNetworkError ∧ unsentMessages = loop.live

theorem ResendLoop.iterate_leaves {loop : ResendLoop M} (behind : loop.errorPos ≤ loop.i)
    (inside : loop.i < loop.unsentMessages.length) (entry : UnsentRpcMessage M) (result : CallResult) :
    (loop.iterate entry result).Leaves loop entry result := by
  have length : loop.i + (loop.unsentMessages.length - loop.i) = loop.unsentMessages.length := by omega
  cases result with
  | success => simp [iterate, Iteration.Leaves, retried, Nat.le_succ_of_le behind]
  | shutdownOrNetworkError =>
    unfold iterate
    by_cases first : loop.errorPos = 0
    · simp [first, Iteration.Leaves, live]
    · simp [first, Iteration.Leaves, live, shiftTail_take behind length]
  | applicationError =>
    unfold iterate
    by_cases last : MaxRetries ≤ entry.retries + 1
    · simp [last, Iteration.Leaves, retried, Nat.not_lt.mpr last, Nat.le_succ_of_le behind]
    · have set_length : (loop.unsentMessages.set loop.errorPos
          { entry with retries := entry.retries + 1 }).length = loop.unsentMessages.length := List.length_set
      simp only [last, if_false, Iteration.Leaves]
      refine ⟨nofun, trivial, by omega, set_length, List.drop_set_of_lt (by omega), ?_⟩
      rw [List.take_succ_eq_append_getElem (by omega), List.take_set_of_le (by omega), List.getElem_set_self]
      simp [retried, Nat.not_le.mp last]

/-! ## What a run leaves -/

def scanned (results : Nat → CallResult) : Nat → List (UnsentRpcMessage M) → List (UnsentRpcMessage M)
  | _, [] => []
  | i, entry :: rest =>
    if results i = .shutdownOrNetworkError then entry :: rest
    else (retried entry (results i)).toList ++ scanned results (i + 1) rest

theorem ResendLoop.run_eq {results : Nat → CallResult} {loop : ResendLoop M} (fuel : Nat)
    (behind : loop.errorPos ≤ loop.i) (enough : loop.unsentMessages.length ≤ loop.i + fuel) :
    loop.run results fuel =
      loop.unsentMessages.take loop.errorPos ++ scanned results loop.i (loop.unsentMessages.drop loop.i) := by
  induction fuel generalizing loop with
  | zero =>
    rw [Nat.add_zero] at enough
    rw [run, List.drop_of_length_le enough, scanned, List.append_nil]
  | succ fuel ih =>
    unfold run
    by_cases inside : loop.i < loop.unsentMessages.length
    · have leaves := loop.iterate_leaves behind inside loop.unsentMessages[loop.i] (results loop.i)
      rw [List.getElem?_eq_getElem inside, ← List.getElem_cons_drop inside, scanned]
      dsimp only
      cases iterated : loop.iterate loop.unsentMessages[loop.i] (results loop.i) with
      | returned unsentMessages =>
        rw [iterated] at leaves
        obtain ⟨failed, rfl⟩ := leaves
        rw [if_pos failed, List.getElem_cons_drop]
        rfl
      | next after =>
        rw [iterated] at leaves
        obtain ⟨answered, position, behindAfter, length, dropped, taken⟩ := leaves
        rw [if_neg answered, ← List.append_assoc, ← taken, ← dropped, ← position]
        exact ih behindAfter (by omega)
    · simp [List.getElem?_eq_none (Nat.not_lt.mp inside), List.drop_of_length_le (Nat.not_lt.mp inside), scanned]

/-- The entries before the position that are to be tried again, and all from it on. -/
def resent (results : Nat → CallResult) (k : Nat) (unsentMessages : List (UnsentRpcMessage M)) :
    List (UnsentRpcMessage M) :=
  ((unsentMessages.take k).zipIdx.filterMap fun entry => retried entry.1 (results entry.2)) ++ unsentMessages.drop k

theorem scanned_eq {results : Nat → CallResult} {i k : Nat} {entries : List (UnsentRpcMessage M)}
    (inside : k ≤ entries.length) (answered : ∀ j < k, results (i + j) ≠ .shutdownOrNetworkError)
    (failed : k < entries.length → results (i + k) = .shutdownOrNetworkError) :
    scanned results i entries =
      (((entries.take k).zipIdx i).filterMap fun entry => retried entry.1 (results entry.2)) ++ entries.drop k := by
  induction entries generalizing i k with
  | nil => simp [scanned]
  | cons entry rest ih =>
    cases k with
    | zero => simpa [scanned] using fun other => absurd (failed (Nat.succ_pos _)) other
    | succ k =>
      have here : results i ≠ .shutdownOrNetworkError := answered 0 (Nat.succ_pos k)
      have shifted : ∀ j, i + 1 + j = i + (j + 1) := fun j => by omega
      rw [scanned, if_neg here, ih (Nat.le_of_succ_le_succ inside)]
      · cases retry : retried entry (results i) <;> simp [retry]
      · intro j small
        rw [shifted]
        exact answered (j + 1) (Nat.succ_lt_succ small)
      · intro small
        rw [shifted]
        exact failed (Nat.succ_lt_succ small)

/-- A run keeps the entries before the first shutdown or network error that failed and have retries left, and all from
that error on. -/
theorem tryResendFromDeque_eq {results : Nat → CallResult} {k : Nat} {unsentMessages : List (UnsentRpcMessage M)}
    (inside : k ≤ unsentMessages.length) (answered : ∀ j < k, results j ≠ .shutdownOrNetworkError)
    (failed : k < unsentMessages.length → results k = .shutdownOrNetworkError) :
    tryResendFromDeque results unsentMessages = resent results k unsentMessages := by
  unfold tryResendFromDeque resent
  rw [ResendLoop.run_eq _ (Nat.le_refl 0) (by simp)]
  rw [List.take_zero, List.nil_append, List.drop_zero]
  exact scanned_eq inside (by simpa using answered) (by simpa using failed)

end Loop

end Sffl.Operator
