import Sffl.Semantics.Run

/-! Safe subscriptions.

The loops of `SubscribeFilterLogs` and `SubscribeNewHead` replace the underlying
subscription of the one they returned. A replacement is made without the lock and
installed with it, while anybody may call `Unsubscribe`.
-/

set_option autoImplicit false

namespace Sffl.Safeclient

open Sffl.Semantics

/-- Underlying subscriptions are numbered in the order the node makes them. -/
abbrev Underlying := Nat

structure SafeSubscription where
  underlying : Underlying
  unsubscribed : Bool
  /-- How often `errC` has been closed. -/
  closes : Nat
  /-- The underlying subscriptions whose `Unsubscribe` has been called. -/
  released : List Underlying
  deriving DecidableEq, Repr

def newSafeSubscription (sub : Underlying) : SafeSubscription where
  underlying := sub
  unsubscribed := false
  closes := 0
  released := []

/-- `Unsubscribe` up to its unlocking, and whether it goes on to close `errC`. -/
def SafeSubscription.unsubscribe (safeSub : SafeSubscription) : SafeSubscription × Bool :=
  if safeSub.unsubscribed then (safeSub, false)
  else ({ safeSub with released := safeSub.underlying :: safeSub.released, unsubscribed := true }, true)

def SafeSubscription.setUnderlyingSub (safeSub : SafeSubscription) (sub : Underlying) : SafeSubscription :=
  { safeSub with released := safeSub.underlying :: safeSub.released, underlying := sub }

/-- The loop of a subscription. A resubscription asks for a new underlying
subscription, installs it and, for logs, catches up. -/
inductive LoopStage where
  | selecting
  | resubscribing
  | obtained (sub : Underlying)
  | installed
  | ended
  deriving DecidableEq, Repr

def LoopStage.inResub : LoopStage → Bool
  | .selecting => false
  | .ended => false
  | _ => true

structure Subscribed where
  safeSub : SafeSubscription
  created : Nat
  loop : LoopStage
  /-- The calls of `Unsubscribe` that wait for the lock. -/
  calls : Nat
  /-- The calls that have unsubscribed and are yet to close `errC`. -/
  closing : Nat
  returned : Nat
  deriving DecidableEq, Repr

def newSubscribed : Subscribed where
  safeSub := newSafeSubscription 0
  created := 1
  loop := .selecting
  calls := 0
  closing := 0
  returned := 0

inductive SubscriptionEvent where
  | callUnsubscribe
  | lockUnsubscribe
  | closeErr
  | resub
  | subscribe (ok : Bool)
  | setUnderlyingSub
  | finishResub
  | stop
  | endLoop
  deriving DecidableEq, Repr

namespace Subscribed

def lockUnsubscribe (state : Subscribed) : Subscribed :=
  match state.safeSub.unsubscribe with
  | (safeSub, true) => { state with safeSub, calls := state.calls - 1, closing := state.closing + 1 }
  | (safeSub, false) => { state with safeSub, calls := state.calls - 1, returned := state.returned + 1 }

def closeErr (state : Subscribed) : Subscribed :=
  { state with
    safeSub := { state.safeSub with closes := state.safeSub.closes + 1 }
    closing := state.closing - 1
    returned := state.returned + 1 }

def step (state : Subscribed) : SubscriptionEvent → Option Subscribed
  | .callUnsubscribe => some { state with calls := state.calls + 1 }
  | .lockUnsubscribe => if 0 < state.calls then some state.lockUnsubscribe else none
  | .closeErr => if 0 < state.closing then some state.closeErr else none
  | .resub => if state.loop = .selecting then some { state with loop := .resubscribing } else none
  | .subscribe ok =>
    if state.loop = .resubscribing then
      if ok then some { state with loop := .obtained state.created, created := state.created + 1 }
      else some { state with loop := .selecting }
    else none
  | .setUnderlyingSub =>
    match state.loop with
    | .obtained sub => some { state with safeSub := state.safeSub.setUnderlyingSub sub, loop := .installed }
    | _ => none
  | .finishResub => if state.loop = .installed then some { state with loop := .selecting } else none
  -- the client is closed or the context done: the loop calls Unsubscribe and ends
  | .stop => if state.loop = .selecting then some { state with loop := .ended, calls := state.calls + 1 } else none
  | .endLoop => if state.loop = .selecting ∧ 0 < state.safeSub.closes then some { state with loop := .ended } else none

end Subscribed

def subscriptions : System Subscribed SubscriptionEvent where
  initial state := state = newSubscribed
  step state event after := state.step event = some after

variable {state after : Subscribed} {event : SubscriptionEvent} {history : List SubscriptionEvent}

/-! ## What a step does -/

inductive SubscriptionStep (state : Subscribed) : SubscriptionEvent → Subscribed → Prop where
  | call : SubscriptionStep state .callUnsubscribe { state with calls := state.calls + 1 }
  | unsubscribe (subscribed : state.safeSub.unsubscribed = false) :
      SubscriptionStep state .lockUnsubscribe { state with
        safeSub := { state.safeSub with
          released := state.safeSub.underlying :: state.safeSub.released, unsubscribed := true }
        calls := state.calls - 1
        closing := state.closing + 1 }
  | unsubscribedBefore (unsubscribed : state.safeSub.unsubscribed = true) :
      SubscriptionStep state .lockUnsubscribe { state with calls := state.calls - 1, returned := state.returned + 1 }
  | closeErr (closing : 0 < state.closing) : SubscriptionStep state .closeErr state.closeErr
  | resub (selecting : state.loop = .selecting) : SubscriptionStep state .resub { state with loop := .resubscribing }
  | subscribe (resubscribing : state.loop = .resubscribing) :
      SubscriptionStep state (.subscribe true)
        { state with loop := .obtained state.created, created := state.created + 1 }
  | subscribeFails (resubscribing : state.loop = .resubscribing) :
      SubscriptionStep state (.subscribe false) { state with loop := .selecting }
  | setUnderlyingSub {sub : Underlying} (obtained : state.loop = .obtained sub) :
      SubscriptionStep state .setUnderlyingSub
        { state with safeSub := state.safeSub.setUnderlyingSub sub, loop := .installed }
  | finishResub (installed : state.loop = .installed) :
      SubscriptionStep state .finishResub { state with loop := .selecting }
  | stop (selecting : state.loop = .selecting) :
      SubscriptionStep state .stop { state with loop := .ended, calls := state.calls + 1 }
  | endLoop (selecting : state.loop = .selecting) : SubscriptionStep state .endLoop { state with loop := .ended }

theorem subscriptionStep_of_step (one : state.step event = some after) : SubscriptionStep state event after := by
  cases event with
  | callUnsubscribe =>
    cases one
    exact .call
  | lockUnsubscribe =>
    obtain ⟨_, done⟩ := Option.ite_none_right_eq_some.mp one
    cases done
    unfold Subscribed.lockUnsubscribe SafeSubscription.unsubscribe
    by_cases unsubscribed : state.safeSub.unsubscribed = true
    · rw [if_pos unsubscribed]
      exact .unsubscribedBefore unsubscribed
    · rw [if_neg unsubscribed]
      exact .unsubscribe (by simpa using unsubscribed)
  | closeErr =>
    obtain ⟨closing, done⟩ := Option.ite_none_right_eq_some.mp one
    cases done
    exact .closeErr closing
  | resub =>
    obtain ⟨selecting, done⟩ := Option.ite_none_right_eq_some.mp one
    cases done
    exact .resub selecting
  | subscribe ok =>
    obtain ⟨resubscribing, done⟩ := Option.ite_none_right_eq_some.mp one
    cases ok with
    | true =>
      cases done
      exact .subscribe resubscribing
    | false =>
      cases done
      exact .subscribeFails resubscribing
  | setUnderlyingSub =>
    cases stage : state.loop with
    | obtained sub =>
      simp only [Subscribed.step, stage] at one
      cases one
      exact .setUnderlyingSub stage
    | selecting => simp [Subscribed.step, stage] at one
    | resubscribing => simp [Subscribed.step, stage] at one
    | installed => simp [Subscribed.step, stage] at one
    | ended => simp [Subscribed.step, stage] at one
  | finishResub =>
    obtain ⟨installed, done⟩ := Option.ite_none_right_eq_some.mp one
    cases done
    exact .finishResub installed
  | stop =>
    obtain ⟨selecting, done⟩ := Option.ite_none_right_eq_some.mp one
    cases done
    exact .stop selecting
  | endLoop =>
    obtain ⟨⟨selecting, _⟩, done⟩ := Option.ite_none_right_eq_some.mp one
    cases done
    exact .endLoop selecting

/-! ## What holds in every run -/

/-- The subscriptions that may still be live are the one installed and the one obtained. -/
structure Owned (state : Subscribed) : Prop where
  closed : state.safeSub.closes + state.closing = if state.safeSub.unsubscribed then 1 else 0
  returned : 0 < state.returned → state.safeSub.unsubscribed = true
  underlying : state.safeSub.underlying < state.created
  obtained : ∀ sub, state.loop = .obtained sub →
    sub < state.created ∧ sub ≠ state.safeSub.underlying ∧ sub ∉ state.safeSub.released
  released : ∀ sub ∈ state.safeSub.released, sub < state.created
  others : ∀ sub < state.created,
    sub ∈ state.safeSub.released ∨ sub = state.safeSub.underlying ∨ state.loop = .obtained sub

/-- A new underlying subscription is installed only while nobody has unsubscribed. -/
def InstalledInTime (state : Subscribed) : SubscriptionEvent → Prop
  | .setUnderlyingSub => state.safeSub.unsubscribed = false
  | _ => True

/-- Who has unsubscribed has unsubscribed from the subscription there is. -/
def Final (safeSub : SafeSubscription) : Prop :=
  safeSub.unsubscribed = true → safeSub.underlying ∈ safeSub.released

theorem Owned.moveLoop (owned : Owned state) {loop : LoopStage} (calls : Nat)
    (nothingBefore : ∀ sub, state.loop ≠ .obtained sub) (nothingAfter : ∀ sub, loop ≠ .obtained sub) :
    Owned { state with loop, calls } where
  closed := owned.closed
  returned := owned.returned
  underlying := owned.underlying
  obtained sub stage := absurd stage (nothingAfter sub)
  released := owned.released
  others sub small := (owned.others sub small).imp_right fun installed =>
    .inl (installed.resolve_right (nothingBefore sub))

theorem Owned.step (owned : Owned state) (step : SubscriptionStep state event after) : Owned after := by
  cases step with
  | call => exact { owned with }
  | unsubscribe subscribed =>
    have open_ := owned.closed
    rw [subscribed] at open_
    refine { owned with closed := ?_, returned := fun _ => rfl, obtained := ?_, released := ?_, others := ?_ }
    · simp only [Bool.false_eq_true, if_false, if_true] at open_ ⊢
      omega
    · intro sub stage
      obtain ⟨small, other, live⟩ := owned.obtained sub stage
      exact ⟨small, other, List.not_mem_cons_of_ne_of_not_mem other live⟩
    · exact List.forall_mem_cons.mpr ⟨owned.underlying, owned.released⟩
    · intro sub small
      exact (owned.others sub small).imp_left (List.mem_cons_of_mem _)
  | unsubscribedBefore unsubscribed => exact { owned with returned := fun _ => unsubscribed }
  | closeErr closing =>
    have exactly := owned.closed
    have unsubscribed : state.safeSub.unsubscribed = true := by
      apply Decidable.byContradiction
      intro subscribed
      rw [if_neg subscribed] at exactly
      omega
    rw [if_pos unsubscribed] at exactly
    refine { owned with closed := ?_, returned := fun _ => unsubscribed }
    simp only [Subscribed.closeErr, unsubscribed, if_true]
    omega
  | resub selecting => exact owned.moveLoop _ (by simp [selecting]) (by simp)
  | subscribe resubscribing =>
    refine { owned with underlying := ?_, obtained := ?_, released := ?_, others := ?_ }
    · exact Nat.lt_succ_of_lt owned.underlying
    · intro sub stage
      cases stage
      refine ⟨Nat.lt_succ_self _, Nat.ne_of_gt owned.underlying, fun old => ?_⟩
      exact Nat.lt_irrefl _ (owned.released _ old)
    · exact fun sub member => Nat.lt_succ_of_lt (owned.released sub member)
    · intro sub small
      rcases Nat.lt_succ_iff_lt_or_eq.mp small with old | rfl
      · refine (owned.others sub old).imp_right fun installed => .inl ?_
        exact installed.resolve_right (by simp [resubscribing])
      · exact .inr (.inr rfl)
  | subscribeFails resubscribing => exact owned.moveLoop _ (by simp [resubscribing]) (by simp)
  | @setUnderlyingSub sub obtained =>
    obtain ⟨small, _, _⟩ := owned.obtained sub obtained
    refine { owned with underlying := small, obtained := nofun, released := ?_, others := ?_ }
    · exact List.forall_mem_cons.mpr ⟨owned.underlying, owned.released⟩
    · intro other inside
      rcases owned.others other inside with released | rfl | same
      · exact .inl (List.mem_cons_of_mem _ released)
      · exact .inl List.mem_cons_self
      · cases obtained.symm.trans same
        exact .inr (.inl rfl)
  | finishResub installed => exact owned.moveLoop _ (by simp [installed]) (by simp)
  | stop selecting => exact owned.moveLoop _ (by simp [selecting]) (by simp)
  | endLoop selecting => exact owned.moveLoop _ (by simp [selecting]) (by simp)

theorem owned_of_run (run : subscriptions.Run history state) : Owned state := by
  refine run.invariant (fun _ => Owned) ?_ ?_
  · rintro _ rfl
    refine ⟨rfl, nofun, Nat.zero_lt_one, nofun, nofun, fun sub small => .inr (.inl ?_)⟩
    exact Nat.lt_one_iff.mp small
  · exact fun _ _ _ _ owned _ one => owned.step (subscriptionStep_of_step one)

theorem final_step (owned : Owned state) (step : SubscriptionStep state event after) :
    Final after.safeSub ↔ Final state.safeSub ∧ InstalledInTime state event := by
  cases step with
  | unsubscribe subscribed =>
    have before : Final state.safeSub := fun unsubscribed => absurd (subscribed.symm.trans unsubscribed) nofun
    exact iff_of_true (fun _ => List.mem_cons_self) ⟨before, trivial⟩
  | @setUnderlyingSub sub obtained =>
    obtain ⟨_, other, live⟩ := owned.obtained sub obtained
    have gone : sub ∉ state.safeSub.underlying :: state.safeSub.released := List.not_mem_cons_of_ne_of_not_mem other live
    constructor
    · intro final
      have subscribed : state.safeSub.unsubscribed = false :=
        Bool.eq_false_iff.mpr fun unsubscribed => gone (final unsubscribed)
      exact ⟨fun unsubscribed => absurd (subscribed.symm.trans unsubscribed) nofun, subscribed⟩
    · rintro ⟨_, subscribed⟩ unsubscribed
      exact absurd (Eq.trans subscribed.symm unsubscribed) nofun
  | _ => exact (and_iff_left trivial).symm

theorem inResub_eq_false (idle : state.loop.inResub = false) (sub : Underlying) : state.loop ≠ .obtained sub := by
  intro obtained
  rw [obtained] at idle
  cases idle

/-- `errC` is closed at most once, and once all calls have returned exactly once. After a call of `Unsubscribe` has
returned, and outside a resubscription, nothing is left subscribed exactly if no resubscription of the run came too
late. -/
theorem unsubscribe_final_iff (run : subscriptions.Run history state) :
    state.safeSub.closes ≤ 1 ∧
      (0 < state.returned → state.closing = 0 → state.safeSub.closes = 1) ∧
      (0 < state.returned → state.loop.inResub = false →
        ((∀ sub < state.created, sub ∈ state.safeSub.released) ↔
          subscriptions.GuardedRun InstalledInTime history state)) := by
  have owned := owned_of_run run
  have closed := owned.closed
  refine ⟨?_, fun some none => ?_, fun some idle => ?_⟩
  · split at closed <;> omega
  · rw [if_pos (owned.returned some)] at closed
    omega
  · have final : Final state.safeSub ↔ subscriptions.GuardedRun InstalledInTime history state := by
      refine run.iff_guardedRun (fun state => Final state.safeSub) ?_ ?_
      · rintro _ rfl
        exact nofun
      · exact fun run one => final_step (owned_of_run run) (subscriptionStep_of_step one)
    rw [← final]
    constructor
    · exact fun all _ => all _ owned.underlying
    · intro final sub small
      rcases owned.others sub small with released | rfl | obtained
      · exact released
      · exact final (owned.returned some)
      · exact absurd obtained (inResub_eq_false idle sub)

def overtakenResub : List SubscriptionEvent :=
  [.resub, .subscribe true, .callUnsubscribe, .lockUnsubscribe, .closeErr, .setUnderlyingSub, .finishResub, .endLoop]

theorem subscribedRun_of_steps {events : List SubscriptionEvent}
    (done : events.foldlM Subscribed.step newSubscribed = some state) : subscriptions.Run events state :=
  System.Run.of_steps (fun _ _ _ one => one) rfl done

theorem unsubscribe_final_iff_overtaken :
    ∃ state, subscriptions.Run overtakenResub state ∧ 0 < state.returned ∧ state.loop.inResub = false ∧
      state.safeSub.closes = 1 := by
  have run := @subscribedRun_of_steps _ overtakenResub rfl
  exact ⟨_, run, Nat.zero_lt_one, rfl, (unsubscribe_final_iff run).2.1 Nat.zero_lt_one rfl⟩

/-- The new underlying subscription outlives the subscription. -/
theorem overtaken_resub_stays_live :
    ∃ state, subscriptions.Run overtakenResub state ∧ 0 < state.returned ∧ state.calls = 0 ∧ state.closing = 0 ∧
      state.loop = .ended ∧ 1 < state.created ∧ 1 ∉ state.safeSub.released :=
  ⟨_, subscribedRun_of_steps rfl, by decide, rfl, rfl, rfl, by decide, by decide⟩

end Sffl.Safeclient
