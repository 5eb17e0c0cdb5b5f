import Sffl.Semantics.Run

/-! The relayer's two routines and the ticker they share.

`listenToBlocks` collects headers and hands the batch over when the ticker fires.
It then stops the ticker, and `handleBlocks` starts it again when the batch has
been submitted, or has failed. The hand-over does not order the two.
-/

set_option autoImplicit false

namespace Sffl

open Sffl.Semantics

namespace Relayer

def SUBMIT_BLOCK_RETRIES : Nat := 3

/-- Where `listenToBlocks` is: at its select, or at one of the statements of a tick with blocks. -/
inductive Listener where
  | selecting
  | sending
  | clearing
  | stopping
  deriving DecidableEq, Repr

inductive Handler where
  | waiting
  | encoding
  | submitting (i : Nat)
  | sleeping (i : Nat)
  | resetting
  deriving DecidableEq, Repr

/-- What `ForceSubmit` answers. The errors are told apart by their texts. -/
inductive SubmitAnswer where
  | submitted
  | invalidNonce
  | expired
  | timeout
  | unknown
  deriving DecidableEq, Repr

/-- A tick stays in the channel when the ticker is stopped. -/
structure Ticker where
  running : Bool
  ticked : Bool
  deriving DecidableEq, Repr

end Relayer

open Relayer in
structure Relayer (Block : Type) where
  blocks : List Block
  listener : Listener
  handler : Handler
  ticker : Ticker
  /-- The batches that `Start` has received. -/
  received : List (List Block)
  deriving DecidableEq

namespace Relayer

inductive RelayerEvent (Block : Type) where
  | fire
  | header (block : Block)
  | tick
  | send
  | clear
  | stop
  | encode (ok : Bool)
  | submit (answer : SubmitAnswer)
  | retry
  | reset
  deriving DecidableEq

def Handler.afterSubmit (i : Nat) : SubmitAnswer → Handler
  | .submitted => .resetting
  | .invalidNonce => .sleeping i
  | .expired => .sleeping i
  | .timeout => .sleeping i
  | .unknown => .resetting

def Handler.afterSleep (i : Nat) : Handler :=
  if i + 1 < SUBMIT_BLOCK_RETRIES then .submitting (i + 1) else .resetting

section Machine
variable {Block : Type}

def newRelayer (Block : Type) : Relayer Block where
  blocks := []
  listener := .selecting
  handler := .waiting
  ticker := ⟨true, false⟩
  received := []

def step (relayer : Relayer Block) : RelayerEvent Block → Option (Relayer Block)
  | .fire =>
    if relayer.ticker.running then some { relayer with ticker := { relayer.ticker with ticked := true } } else none
  | .header block =>
    if relayer.listener = .selecting then some { relayer with blocks := relayer.blocks ++ [block] } else none
  | .tick =>
    if relayer.listener = .selecting ∧ relayer.ticker.ticked then some { relayer with
      ticker := { relayer.ticker with ticked := false }
      listener := if relayer.blocks = [] then .selecting else .sending }
    else none
  | .send =>
    -- the channel is unbuffered, so both routines go on from here
    if relayer.listener = .sending ∧ relayer.handler = .waiting then some { relayer with
      listener := .clearing
      handler := .encoding
      received := relayer.received ++ [relayer.blocks] }
    else none
  | .clear => if relayer.listener = .clearing then some { relayer with blocks := [], listener := .stopping } else none
  | .stop =>
    if relayer.listener = .stopping then some { relayer with
      ticker := { relayer.ticker with running := false }
      listener := .selecting }
    else none
  | .encode ok =>
    if relayer.handler = .encoding then
      some { relayer with handler := if ok then .submitting 0 else .resetting }
    else none
  | .submit answer =>
    match relayer.handler with
    | .submitting i => some { relayer with handler := .afterSubmit i answer }
    | _ => none
  | .retry =>
    match relayer.handler with
    | .sleeping i => some { relayer with handler := .afterSleep i }
    | _ => none
  | .reset =>
    if relayer.handler = .resetting then some { relayer with
      ticker := { relayer.ticker with running := true }
      handler := .waiting }
    else none

def relayers (Block : Type) : System (Relayer Block) (RelayerEvent Block) where
  initial relayer := relayer = newRelayer Block
  step relayer event after := relayer.step event = some after

/-- If no batch is being handled and the listener is at its select, the ticker is running. -/
def Ticking (relayer : Relayer Block) : Prop :=
  relayer.listener = .selecting → relayer.handler = .waiting → relayer.ticker.running = true

/-- The listener stops the ticker while the batch that it has handed over is still being handled. -/
def StopsWhileHandled (relayer : Relayer Block) : RelayerEvent Block → Prop
  | .stop => relayer.handler ≠ .waiting
  | _ => True

end Machine

/-! ## What a step does -/

section Steps
variable {Block : Type} {relayer after : Relayer Block} {event : RelayerEvent Block}

inductive RelayerStep (relayer : Relayer Block) : RelayerEvent Block → Relayer Block → Prop where
  | fire (running : relayer.ticker.running = true) :
      RelayerStep relayer .fire { relayer with ticker := { relayer.ticker with ticked := true } }
  | header {block : Block} (selecting : relayer.listener = .selecting) :
      RelayerStep relayer (.header block) { relayer with blocks := relayer.blocks ++ [block] }
  | tick (selecting : relayer.listener = .selecting) (ticked : relayer.ticker.ticked = true) :
      RelayerStep relayer .tick { relayer with
        ticker := { relayer.ticker with ticked := false }
        listener := if relayer.blocks = [] then .selecting else .sending }
  | send (sending : relayer.listener = .sending) (waiting : relayer.handler = .waiting) :
      RelayerStep relayer .send { relayer with
        listener := .clearing
        handler := .encoding
        received := relayer.received ++ [relayer.blocks] }
  | clear (clearing : relayer.listener = .clearing) :
      RelayerStep relayer .clear { relayer with blocks := [], listener := .stopping }
  | stop (stopping : relayer.listener = .stopping) :
      RelayerStep relayer .stop { relayer with
        ticker := { relayer.ticker with running := false }
        listener := .selecting }
  | encode {ok : Bool} (encoding : relayer.handler = .encoding) :
      RelayerStep relayer (.encode ok) { relayer with handler := if ok then .submitting 0 else .resetting }
  | submit {answer : SubmitAnswer} {i : Nat} (submitting : relayer.handler = .submitting i) :
      RelayerStep relayer (.submit answer) { relayer with handler := .afterSubmit i answer }
  | retry {i : Nat} (sleeping : relayer.handler = .sleeping i) :
      RelayerStep relayer .retry { relayer with handler := .afterSleep i }
  | reset (resetting : relayer.handler = .resetting) :
      RelayerStep relayer .reset { relayer with
        ticker := { relayer.ticker with running := true }
        handler := .waiting }

theorem relayerStep_of_step (one : relayer.step event = some after) : RelayerStep relayer event after := by
  cases event with
  | fire =>
    obtain ⟨running, done⟩ := Option.ite_none_right_eq_some.mp one
    cases done
    exact .fire running
  | header block =>
    obtain ⟨selecting, done⟩ := Option.ite_none_right_eq_some.mp one
    cases done
    exact .header selecting
  | tick =>
    obtain ⟨⟨selecting, ticked⟩, done⟩ := Option.ite_none_right_eq_some.mp one
    cases done
    exact .tick selecting ticked
  | send =>
    obtain ⟨⟨sending, waiting⟩, done⟩ := Option.ite_none_right_eq_some.mp one
    cases done
    exact .send sending waiting
  | clear =>
    obtain ⟨clearing, done⟩ := Option.ite_none_right_eq_some.mp one
    cases done
    exact .clear clearing
  | stop =>
    obtain ⟨stopping, done⟩ := Option.ite_none_right_eq_some.mp one
    cases done
    exact .stop stopping
  | encode ok =>
    obtain ⟨encoding, done⟩ := Option.ite_none_right_eq_some.mp one
    cases done
    exact .encode encoding
  | submit answer =>
    simp only [Relayer.step] at one
    split at one
    next submitting =>
      cases one
      exact .submit submitting
    next => cases one
  | retry =>
    simp only [Relayer.step] at one
    split at one
    next sleeping =>
      cases one
      exact .retry sleeping
    next => cases one
  | reset =>
    obtain ⟨resetting, done⟩ := Option.ite_none_right_eq_some.mp one
    cases done
    exact .reset resetting

theorem afterSubmit_ne_waiting (i : Nat) (answer : SubmitAnswer) : Handler.afterSubmit i answer ≠ .waiting := by
  cases answer <;> simp [Handler.afterSubmit]

theorem afterSleep_ne_waiting (i : Nat) : Handler.afterSleep i ≠ .waiting := by
  unfold Handler.afterSleep
  split <;> simp

/-- Only stopping the ticker after the handler has started it again leaves it stopped. -/
theorem ticking_step (ticking : relayer.Ticking) (one : RelayerStep relayer event after) :
    after.Ticking ↔ StopsWhileHandled relayer event := by
  cases one with
  | fire => exact iff_of_true ticking trivial
  | header => exact iff_of_true ticking trivial
  | tick selecting =>
    refine iff_of_true (fun _ waiting => ?_) trivial
    exact ticking selecting waiting
  | send => exact iff_of_true (fun selecting => by cases selecting) trivial
  | clear => exact iff_of_true (fun selecting => by cases selecting) trivial
  | stop =>
    constructor
    · intro still waiting
      exact Bool.false_ne_true (still rfl waiting)
    · intro busy _ waiting
      exact absurd waiting busy
  | @encode ok =>
    refine iff_of_true (fun _ waiting => ?_) trivial
    cases ok <;> cases waiting
  | @submit answer i =>
    exact iff_of_true (fun _ waiting => absurd waiting (afterSubmit_ne_waiting i answer)) trivial
  | @retry i => exact iff_of_true (fun _ waiting => absurd waiting (afterSleep_ne_waiting i)) trivial
  | reset => exact iff_of_true (fun _ _ => rfl) trivial

/-- The ticker is running in all states of a run in which both routines are at their selects, exactly if the listener
always stops it before the batch has been handled. -/
theorem relayer_ticking_iff {history : List (RelayerEvent Block)} :
    (relayers Block).GuardedRun (fun relayer _ => relayer.Ticking) history relayer ∧ relayer.Ticking ↔
      (relayers Block).GuardedRun StopsWhileHandled history relayer := by
  refine System.guardedRun_iff (fun _ _ => True) Relayer.Ticking ?_ ?_ ?_ ?_
  · rintro relayer rfl _ _
    rfl
  · exact fun _ _ ticking => ⟨trivial, ticking⟩
  · exact fun _ _ _ => trivial
  · intro history relayer event after _ ticking one
    rw [and_iff_right ticking]
    exact ticking_step ticking (relayerStep_of_step one)

/-! ## A relayer that has fallen silent -/

/-- Both routines are at their selects, and the ticker is stopped and has left no tick behind. -/
structure Silent (relayer : Relayer Block) : Prop where
  selecting : relayer.listener = .selecting
  waiting : relayer.handler = .waiting
  stopped : relayer.ticker.running = false
  unticked : relayer.ticker.ticked = false

theorem Silent.step (silent : Silent relayer) (one : RelayerStep relayer event after) :
    Silent after ∧ after.received = relayer.received := by
  obtain ⟨selecting, waiting, stopped, unticked⟩ := silent
  cases one with
  | header => exact ⟨⟨selecting, waiting, stopped, unticked⟩, rfl⟩
  | _ => simp_all

theorem Silent.forever (silent : Silent relayer) {events : List (RelayerEvent Block)}
    (done : events.foldlM Relayer.step relayer = some after) : Silent after ∧ after.received = relayer.received := by
  induction events generalizing relayer with
  | nil =>
    cases done
    exact ⟨silent, rfl⟩
  | cons event events ih =>
    rw [List.foldlM_cons] at done
    obtain ⟨next, one, rest⟩ := Option.bind_eq_some_iff.mp done
    obtain ⟨still, same⟩ := silent.step (relayerStep_of_step one)
    obtain ⟨final, same'⟩ := ih still rest
    exact ⟨final, same'.trans same⟩

end Steps

def fastFailure : List (RelayerEvent Nat) :=
  [.header 7, .fire, .tick, .send, .encode true, .submit .unknown, .reset, .clear, .stop]

/-- The ticker is stopped for good: whatever happens afterwards, `Start` receives no other batch. -/
theorem fastFailure_silences :
    ∃ relayer, (relayers Nat).Run fastFailure relayer ∧ ¬ relayer.Ticking ∧
      ∀ (events : List (RelayerEvent Nat)) (after : Relayer Nat), events.foldlM Relayer.step relayer = some after →
        ¬ after.Ticking ∧ after.received = relayer.received := by
  refine ⟨_, System.Run.of_steps (fun _ _ _ one => one) rfl rfl, ?_, ?_⟩
  · exact fun ticking => Bool.false_ne_true (ticking rfl rfl)
  · intro events after done
    obtain ⟨silent, same⟩ := Silent.forever ⟨rfl, rfl, rfl, rfl⟩ done
    refine ⟨fun ticking => ?_, same⟩
    exact Bool.false_ne_true (silent.stopped.symm.trans (ticking silent.selecting silent.waiting))

end Relayer

end Sffl
