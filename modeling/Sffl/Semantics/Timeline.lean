import Mathlib.Data.List.Basic

/-! Values that change over time, and a log of the times at which they may have changed.

The value at a time is the one after everything that happened at that time. The
log may hold more times than there are changes, but every change is logged.
-/

set_option autoImplicit false

namespace Sffl.Semantics

variable {V : Type}

structure Logged (initial : V) (value : Nat → V) (times : List Nat) : Prop where
  increasing : times.Pairwise (· < ·)
  start : 0 ∉ times → value 0 = initial
  quiet : ∀ time, time + 1 ∉ times → value (time + 1) = value time

namespace Logged
variable {initial : V} {value : Nat → V} {times : List Nat}

theorem constant (logged : Logged initial value times) {first last : Nat} (ordered : first ≤ last)
    (silent : ∀ time, first < time → time ≤ last → time ∉ times) : value last = value first := by
  induction ordered with
  | refl => rfl
  | @step last ordered ih =>
    rw [logged.quiet last (silent (last + 1) (Nat.lt_succ_of_le ordered) (Nat.le_refl _))]
    exact ih fun time after until_last => silent time after (Nat.le_succ_of_le until_last)

theorem lt_of_lt (logged : Logged initial value times) {i j first second : Nat} (at_first : times[i]? = some first)
    (at_second : times[j]? = some second) (less : i < j) : first < second := by
  obtain ⟨_, rfl⟩ := List.getElem?_eq_some_iff.mp at_first
  obtain ⟨_, rfl⟩ := List.getElem?_eq_some_iff.mp at_second
  exact List.pairwise_iff_getElem.mp logged.increasing i j _ _ less

/-- From one entry of the log to the next, and after the last one for ever, the value stays. -/
theorem between (logged : Logged initial value times) {k first last : Nat} (at_first : times[k]? = some first)
    (ordered : first ≤ last) (before : ∀ next, times[k + 1]? = some next → last < next) : value last = value first := by
  refine logged.constant ordered fun time after until_last member => ?_
  obtain ⟨i, at_time⟩ := List.mem_iff_getElem?.mp member
  -- the entry stands after the first one, so it is the next or stands after that
  have later : k < i := by
    rcases Nat.lt_trichotomy i k with earlier | same | later
    · exact absurd (logged.lt_of_lt at_time at_first earlier) (Nat.lt_asymm after)
    · rw [same, at_first] at at_time
      exact absurd (Option.some.inj at_time) (Nat.ne_of_lt after)
    · exact later
  obtain ⟨inside, _⟩ := List.getElem?_eq_some_iff.mp at_time
  obtain ⟨next, at_next⟩ : ∃ next, times[k + 1]? = some next :=
    ⟨_, List.getElem?_eq_getElem (Nat.lt_of_le_of_lt later inside)⟩
  have next_le : next ≤ time := by
    rcases Nat.lt_or_eq_of_le (Nat.succ_le_of_lt later) with less | same
    · exact Nat.le_of_lt (logged.lt_of_lt at_next at_time less)
    · subst same
      exact Nat.le_of_eq (Option.some.inj (at_next.symm.trans at_time))
  have last_lt := before next at_next
  omega

theorem before_next (logged : Logged initial value times) {k first next : Nat} (at_first : times[k]? = some first)
    (at_next : times[k + 1]? = some next) : value (next - 1) = value first := by
  have less := logged.lt_of_lt at_first at_next (Nat.lt_succ_self k)
  refine logged.between at_first (by omega) fun other at_other => ?_
  cases at_next.symm.trans at_other
  omega

theorem before_first (logged : Logged initial value times) {last : Nat}
    (before : ∀ first, times[0]? = some first → last < first) : value last = initial := by
  have silent : ∀ time ≤ last, time ∉ times := by
    intro time until_last member
    obtain ⟨i, at_time⟩ := List.mem_iff_getElem?.mp member
    obtain ⟨inside, _⟩ := List.getElem?_eq_some_iff.mp at_time
    have at_first : times[0]? = some times[0] := List.getElem?_eq_getElem (Nat.zero_lt_of_lt inside)
    have first_le : times[0] ≤ time := by
      rcases Nat.eq_zero_or_pos i with rfl | positive
      · exact Nat.le_of_eq (Option.some.inj (at_first.symm.trans at_time))
      · exact Nat.le_of_lt (logged.lt_of_lt at_first at_time positive)
    have last_lt := before _ at_first
    omega
  rw [logged.constant (Nat.zero_le last) fun time _ until_last => silent time until_last]
  exact logged.start (silent 0 (Nat.zero_le last))

theorem record (logged : Logged initial value times) {now : Nat} (recent : ∀ time ∈ times, time < now) (latest : V) :
    Logged initial (fun time => if time < now then value time else latest) (times ++ [now]) := by
  refine ⟨List.pairwise_append.mpr ⟨logged.increasing, List.pairwise_singleton _ _, ?_⟩, ?_, ?_⟩
  · intro time member last same
    rw [List.mem_singleton.mp same]
    exact recent time member
  · intro absent
    simp only [List.mem_append, List.mem_singleton, not_or] at absent
    rw [if_pos (Nat.pos_of_ne_zero (Ne.symm absent.2))]
    exact logged.start absent.1
  · intro time absent
    simp only [List.mem_append, List.mem_singleton, not_or] at absent
    by_cases earlier : time + 1 < now
    · rw [if_pos earlier, if_pos (Nat.lt_of_succ_lt earlier)]
      exact logged.quiet time absent.1
    · rw [if_neg earlier, if_neg (by omega)]

end Logged

end Sffl.Semantics
