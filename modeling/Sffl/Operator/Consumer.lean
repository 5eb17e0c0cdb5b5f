import Sffl.Semantics.Run

/-! The consumer's reconnect loop.

The loop dials, watches the connection, sets up a channel and watches that. When
one of them closes it reads whether the error can be recovered from. Of the
message queue's library it is assumed that a channel given to `NotifyClose` gets
one error and is then closed when the connection or channel is lost, that it is
closed without an error when they are closed gracefully, and that it is closed at
once if they are closed already. An error that is read from a closed channel is
nil.
-/

set_option autoImplicit false

namespace Sffl.Operator

open Sffl.Semantics

/-! ## The loop -/

namespace Consumer

/-- A channel that was given to `NotifyClose`. A pending error says whether it can be recovered from. -/
inductive Notify where
  | quiet
  | pending (recover : Bool)
  /-- The error was read, and the channel is not closed yet. -/
  | received
  | closed
  deriving DecidableEq, Repr

def Notify.close (error : Option Bool) : Notify → Notify
  -- a graceful closure has no error
  | .quiet =>
    match error with
    | some recover => .pending recover
    | none => .closed
  | other => other

def Notify.receive : Notify → Option (Option Bool × Notify)
  | .pending recover => some (some recover, .received)
  | .closed => some (none, .closed)
  | _ => none

inductive Loop where
  | connecting
  /-- At the select after a failed dial. -/
  | connectDelay
  /-- Dialled, and not the consumer's connection yet. -/
  | dialed (closed : Bool)
  /-- The consumer's connection, and not watched yet. -/
  | connectionChanged (closed : Bool)
  | settingUp
  /-- The channel is set up, and not the consumer's channel yet. -/
  | channelUp (closed : Bool)
  | channelChanged (closed : Bool)
  /-- At the select of `ResetChannel`. -/
  | setupDelay
  /-- At the select of `reconnect`. -/
  | connected
  | ended
  /-- `Recover` was read from nil. -/
  | crashed
  deriving DecidableEq, Repr

inductive Closing where
  | idle
  | checked
  | cancelled
  | channelClosed
  deriving DecidableEq, Repr

end Consumer

open Consumer in
structure Consumer where
  isReady : Bool
  /-- The context is done. -/
  cancelled : Bool
  loop : Loop
  connClosedErrC : Option Notify
  chanClosedErrC : Option Notify
  closing : Closing
  deriving DecidableEq, Repr

inductive ConsumerEvent where
  | dial (ok : Bool)
  | changeConnection
  | notifyConnection
  | setup (ok : Bool)
  | changeChannel
  | notifyChannel
  /-- A select takes the context's end, the delay's end, or a closed connection or channel. -/
  | done
  | timeout
  | connClosed
  | chanClosed
  /-- The library closes the channel whose error was read. -/
  | connNotified
  | chanNotified
  | connectionCloses (error : Option Bool)
  | channelCloses (error : Option Bool)
  | cancel
  | closeCheck
  | closeCancel
  | closeChannel (ok : Bool)
  | closeConnection (ok : Bool)
  deriving DecidableEq, Repr

/-- Steps of the loop itself, and of the library when it closes a channel whose error was read. -/
def ConsumerEvent.own : ConsumerEvent → Bool
  | .dial _ => true
  | .changeConnection => true
  | .notifyConnection => true
  | .setup _ => true
  | .changeChannel => true
  | .notifyChannel => true
  | .done => true
  | .timeout => true
  | .connClosed => true
  | .chanClosed => true
  | .connNotified => true
  | .chanNotified => true
  | _ => false

namespace Consumer

def newConsumer : Consumer where
  isReady := false
  cancelled := false
  loop := .connecting
  connClosedErrC := none
  chanClosedErrC := none
  closing := .idle

def resetAfter : Option Bool → Loop
  | none => .crashed
  | some false => .ended
  | some true => .connected

def reconnectAfter : Option Bool → Loop
  | none => .crashed
  -- the break leaves the select, not the loop
  | some false => .connecting
  | some true => .connecting

def notifyClose (closed : Bool) : Notify := if closed then .closed else .quiet

def connectionCloses (consumer : Consumer) (error : Option Bool) : Consumer :=
  -- a connection that is not watched yet tells nobody
  match consumer.loop with
  | .dialed _ => { consumer with loop := .dialed true }
  | .connectionChanged _ => { consumer with loop := .connectionChanged true }
  | _ => { consumer with connClosedErrC := consumer.connClosedErrC.map (Notify.close error) }

def channelCloses (consumer : Consumer) (error : Option Bool) : Consumer :=
  match consumer.loop with
  | .channelUp _ => { consumer with loop := .channelUp true }
  | .channelChanged _ => { consumer with loop := .channelChanged true }
  | _ => { consumer with chanClosedErrC := consumer.chanClosedErrC.map (Notify.close error) }

/-- `Close` closes the consumer's connection, which after a dial is still the one before. -/
def closeConnection (consumer : Consumer) : Consumer :=
  match consumer.loop with
  | .dialed _ => { consumer with connClosedErrC := consumer.connClosedErrC.map (Notify.close none) }
  | _ => consumer.connectionCloses none

def closeChannel (consumer : Consumer) : Consumer :=
  match consumer.loop with
  | .channelUp _ => { consumer with chanClosedErrC := consumer.chanClosedErrC.map (Notify.close none) }
  | _ => consumer.channelCloses none

def step (consumer : Consumer) : ConsumerEvent → Option Consumer
  | .dial ok =>
    if consumer.loop = .connecting then
      some { consumer with loop := if ok then .dialed false else .connectDelay }
    else none
  | .changeConnection =>
    match consumer.loop with
    | .dialed closed => some { consumer with loop := .connectionChanged closed }
    | _ => none
  | .notifyConnection =>
    match consumer.loop with
    | .connectionChanged closed => some { consumer with connClosedErrC := some (notifyClose closed), loop := .settingUp }
    | _ => none
  | .setup ok =>
    if consumer.loop = .settingUp then
      if ok then
        -- no channel can be opened on a closed connection
        if consumer.connClosedErrC = some .quiet then some { consumer with loop := .channelUp false } else none
      else some { consumer with loop := .setupDelay }
    else none
  | .changeChannel =>
    match consumer.loop with
    | .channelUp closed => some { consumer with loop := .channelChanged closed }
    | _ => none
  | .notifyChannel =>
    match consumer.loop with
    | .channelChanged closed =>
      some { consumer with chanClosedErrC := some (notifyClose closed), isReady := true, loop := .connected }
    | _ => none
  | .done =>
    if consumer.cancelled ∧ (consumer.loop = .connectDelay ∨ consumer.loop = .setupDelay ∨ consumer.loop = .connected) then
      some { consumer with loop := .ended }
    else none
  | .timeout =>
    match consumer.loop with
    | .connectDelay => some { consumer with isReady := false, loop := .connecting }
    | .setupDelay => some { consumer with isReady := false, loop := .settingUp }
    | _ => none
  | .connClosed =>
    match consumer.loop, consumer.connClosedErrC.bind Notify.receive with
    | .setupDelay, some (error, connClosedErrC) =>
      some { consumer with connClosedErrC := some connClosedErrC, loop := resetAfter error }
    | .connected, some (error, connClosedErrC) =>
      some { consumer with connClosedErrC := some connClosedErrC, isReady := false, loop := reconnectAfter error }
    | _, _ => none
  | .chanClosed =>
    match consumer.loop, consumer.chanClosedErrC.bind Notify.receive with
    | .connected, some (error, chanClosedErrC) =>
      some { consumer with chanClosedErrC := some chanClosedErrC, isReady := false, loop := reconnectAfter error }
    | _, _ => none
  | .connNotified =>
    if consumer.connClosedErrC = some .received then some { consumer with connClosedErrC := some .closed } else none
  | .chanNotified =>
    if consumer.chanClosedErrC = some .received then some { consumer with chanClosedErrC := some .closed } else none
  | .connectionCloses error => some (consumer.connectionCloses error)
  | .channelCloses error => some (consumer.channelCloses error)
  | .cancel => some { consumer with cancelled := true }
  | .closeCheck =>
    if consumer.closing = .idle then
      some { consumer with closing := if consumer.isReady then .checked else .idle }
    else none
  | .closeCancel =>
    if consumer.closing = .checked then some { consumer with cancelled := true, closing := .cancelled } else none
  | .closeChannel ok =>
    if consumer.closing = .cancelled then
      some { consumer.closeChannel with closing := if ok then .channelClosed else .idle }
    else none
  | .closeConnection ok =>
    if consumer.closing = .channelClosed then
      some { consumer.closeConnection with
        isReady := if ok then false else consumer.isReady
        closing := .idle }
    else none

def consumers : System Consumer ConsumerEvent where
  initial consumer := consumer = newConsumer
  step consumer event after := consumer.step event = some after

/-! ## Missing close reasons -/

/-- The loop can come to read `Recover` from nil if nothing else happens. -/
def CanCrash (consumer : Consumer) : Prop :=
  ∃ (events : List ConsumerEvent) (after : Consumer), (∀ event ∈ events, event.own) ∧
    events.foldlM Consumer.step consumer = some after ∧ after.loop = .crashed

/-- The connection may close in this way: not before it is watched, not gracefully while it is watched, and not with an
error to recover from while the channel is set up. -/
def ToleratesConnection (consumer : Consumer) (error : Option Bool) : Prop :=
  match consumer.loop with
  | .dialed _ => False
  | .connectionChanged _ => False
  | .settingUp => consumer.connClosedErrC = some .quiet → error = some false
  | .setupDelay => consumer.connClosedErrC = some .quiet → error = some false
  | .channelUp _ => consumer.connClosedErrC = some .quiet → error ≠ none
  | .channelChanged _ => consumer.connClosedErrC = some .quiet → error ≠ none
  | .connected => consumer.connClosedErrC = some .quiet → error ≠ none
  | _ => True

def ToleratesChannel (consumer : Consumer) (error : Option Bool) : Prop :=
  match consumer.loop with
  | .channelUp _ => False
  | .channelChanged _ => False
  | .connected => consumer.chanClosedErrC = some .quiet → error ≠ none
  | _ => True

/-- `Close` may close the connection: one that the loop has turned away from, or as any other closure. -/
def ToleratesCloseConnection (consumer : Consumer) : Prop :=
  match consumer.loop with
  | .dialed _ => True
  | _ => consumer.ToleratesConnection none

def ToleratesCloseChannel (consumer : Consumer) : Prop :=
  match consumer.loop with
  | .channelUp _ => True
  | _ => consumer.ToleratesChannel none

def Tolerated (consumer : Consumer) : ConsumerEvent → Prop
  | .connectionCloses error => consumer.ToleratesConnection error
  | .channelCloses error => consumer.ToleratesChannel error
  | .closeChannel _ => consumer.ToleratesCloseChannel
  | .closeConnection _ => consumer.ToleratesCloseConnection
  | _ => True

instance (consumer : Consumer) (error : Option Bool) : Decidable (consumer.ToleratesConnection error) := by
  unfold Consumer.ToleratesConnection
  split <;> infer_instance

instance (consumer : Consumer) (error : Option Bool) : Decidable (consumer.ToleratesChannel error) := by
  unfold Consumer.ToleratesChannel
  split <;> infer_instance

instance (consumer : Consumer) : Decidable consumer.ToleratesCloseConnection := by
  unfold Consumer.ToleratesCloseConnection
  split <;> infer_instance

instance (consumer : Consumer) : Decidable consumer.ToleratesCloseChannel := by
  unfold Consumer.ToleratesCloseChannel
  split <;> infer_instance

instance (consumer : Consumer) (event : ConsumerEvent) : Decidable (Tolerated consumer event) := by
  unfold Tolerated
  split <;> infer_instance

/-! ## Where the loop is exposed -/

def Spent (notify : Option Notify) : Prop := notify = some .received ∨ notify = some .closed

def Exposed (consumer : Consumer) : Prop :=
  match consumer.loop with
  | .dialed closed => closed = true
  | .connectionChanged closed => closed = true
  | .settingUp => Spent consumer.connClosedErrC ∨ consumer.connClosedErrC = some (.pending true)
  | .setupDelay => Spent consumer.connClosedErrC ∨ consumer.connClosedErrC = some (.pending true)
  | .channelUp closed => closed = true ∨ Spent consumer.connClosedErrC
  | .channelChanged closed => closed = true ∨ Spent consumer.connClosedErrC
  | .connected => Spent consumer.connClosedErrC ∨ Spent consumer.chanClosedErrC
  | .crashed => True
  | _ => False

theorem not_spent_notifyClose {closed : Bool} (opened : ¬ closed = true) : ¬ Spent (some (notifyClose closed)) := by
  simp [Spent, notifyClose, opened]

theorem receive_some {notify : Option Notify} {error : Option Bool} {after : Notify} (alive : ¬ Spent notify)
    (received : notify.bind Notify.receive = some (error, after)) :
    ∃ recover, error = some recover ∧ notify = some (.pending recover) := by
  cases notify with
  | none => cases received
  | some notify =>
    cases notify with
    | quiet => cases received
    | pending recover =>
      cases received
      exact ⟨recover, rfl, rfl⟩
    | received => exact absurd (.inl rfl) alive
    | closed => exact absurd (.inr rfl) alive

theorem safe_own {consumer after : Consumer} {event : ConsumerEvent} (safe : ¬ consumer.Exposed) (own : event.own = true)
    (step : consumer.step event = some after) : ¬ after.Exposed := by
  cases event with
  | dial ok =>
    simp only [Consumer.step] at step
    split at step
    next =>
      cases step
      cases ok <;> simp [Consumer.Exposed]
    next => cases step
  | changeConnection =>
    simp only [Consumer.step] at step
    split at step
    next closed here =>
      cases step
      simpa only [Consumer.Exposed, here] using safe
    next => cases step
  | notifyConnection =>
    simp only [Consumer.step] at step
    split at step
    next closed here =>
      cases step
      simp only [Consumer.Exposed, here] at safe
      simp [Consumer.Exposed, Spent, notifyClose, safe]
    next => cases step
  | setup ok =>
    simp only [Consumer.step] at step
    split at step
    next here =>
      simp only [Consumer.Exposed, here] at safe
      cases ok with
      | false =>
        cases step
        exact safe
      | true =>
        rw [if_pos rfl] at step
        split at step
        next quiet =>
          cases step
          simp [Consumer.Exposed, Spent, quiet]
        next => cases step
    next => cases step
  | changeChannel =>
    simp only [Consumer.step] at step
    split at step
    next closed here =>
      cases step
      simpa only [Consumer.Exposed, here] using safe
    next => cases step
  | notifyChannel =>
    simp only [Consumer.step] at step
    split at step
    next closed here =>
      cases step
      simp only [Consumer.Exposed, here, not_or] at safe
      simp [Consumer.Exposed, not_spent_notifyClose safe.1, safe.2]
    next => cases step
  | done =>
    simp only [Consumer.step] at step
    split at step
    next =>
      cases step
      exact id
    next => cases step
  | timeout =>
    simp only [Consumer.step] at step
    split at step
    next =>
      cases step
      exact id
    next here =>
      cases step
      simpa only [Consumer.Exposed, here] using safe
    next => cases step
  | connClosed =>
    simp only [Consumer.step] at step
    split at step
    next error connClosedErrC here read =>
      cases step
      simp only [Consumer.Exposed, here, not_or] at safe
      obtain ⟨recover, rfl, pending⟩ := receive_some safe.1 read
      cases recover with
      | false => exact id
      -- the loop would go on to ask the same channel again
      | true => exact absurd pending safe.2
    next error connClosedErrC here read =>
      cases step
      simp only [Consumer.Exposed, here, not_or] at safe
      obtain ⟨recover, rfl, _⟩ := receive_some safe.1 read
      cases recover <;> exact id
    next => cases step
  | chanClosed =>
    simp only [Consumer.step] at step
    split at step
    next error chanClosedErrC here read =>
      cases step
      simp only [Consumer.Exposed, here, not_or] at safe
      obtain ⟨recover, rfl, _⟩ := receive_some safe.2 read
      cases recover <;> exact id
    next => cases step
  | connNotified =>
    simp only [Consumer.step] at step
    split at step
    next received =>
      cases step
      cases here : consumer.loop <;> simp_all [Consumer.Exposed, Spent]
    next => cases step
  | chanNotified =>
    simp only [Consumer.step] at step
    split at step
    next received =>
      cases step
      cases here : consumer.loop <;> simp_all [Consumer.Exposed, Spent]
    next => cases step
  | _ => cases own

theorem close_quiet_spent (error : Option Bool) {notify : Option Notify} (alive : ¬ Spent notify) :
    Spent (notify.map (Notify.close error)) ↔ notify = some .quiet ∧ error = none := by
  cases notify with
  | none => simp [Spent]
  | some notify =>
    cases notify with
    | quiet => cases error <;> simp [Spent, Notify.close]
    | pending recover => simp [Spent, Notify.close]
    | received => exact absurd (.inl rfl) alive
    | closed => exact absurd (.inr rfl) alive

theorem close_pending (error : Option Bool) {notify : Option Notify} (alive : ¬ notify = some (.pending true)) :
    notify.map (Notify.close error) = some (.pending true) ↔ notify = some .quiet ∧ error = some true := by
  cases notify with
  | none => simp
  | some notify =>
    cases notify with
    | quiet => cases error <;> simp [Notify.close]
    | pending recover =>
      have other : recover ≠ true := fun same => alive (by rw [same])
      simp [Notify.close, other]
    | received => simp [Notify.close]
    | closed => simp [Notify.close]

theorem connection_safe {consumer : Consumer} (safe : ¬ consumer.Exposed) (error : Option Bool) :
    ¬ (consumer.connectionCloses error).Exposed ↔ consumer.ToleratesConnection error := by
  unfold Consumer.connectionCloses Consumer.ToleratesConnection
  cases here : consumer.loop with
  | dialed closed => simp [Consumer.Exposed]
  | connectionChanged closed => simp [Consumer.Exposed]
  | settingUp =>
    simp only [Consumer.Exposed, here, not_or] at safe
    simp only [Consumer.Exposed, close_quiet_spent error safe.1, close_pending error safe.2]
    rcases error with _ | _ | _ <;> simp
  | setupDelay =>
    simp only [Consumer.Exposed, here, not_or] at safe
    simp only [Consumer.Exposed, close_quiet_spent error safe.1, close_pending error safe.2]
    rcases error with _ | _ | _ <;> simp
  | channelUp closed =>
    simp only [Consumer.Exposed, here, not_or] at safe
    simp [Consumer.Exposed, close_quiet_spent error safe.2, safe.1]
  | channelChanged closed =>
    simp only [Consumer.Exposed, here, not_or] at safe
    simp [Consumer.Exposed, close_quiet_spent error safe.2, safe.1]
  | connected =>
    simp only [Consumer.Exposed, here, not_or] at safe
    simp [Consumer.Exposed, close_quiet_spent error safe.1, safe.2]
  | crashed => simp [Consumer.Exposed, here] at safe
  | _ => simp [Consumer.Exposed]

theorem channel_safe {consumer : Consumer} (safe : ¬ consumer.Exposed) (error : Option Bool) :
    ¬ (consumer.channelCloses error).Exposed ↔ consumer.ToleratesChannel error := by
  unfold Consumer.channelCloses Consumer.ToleratesChannel
  cases here : consumer.loop with
  | channelUp closed => simp [Consumer.Exposed]
  | channelChanged closed => simp [Consumer.Exposed]
  | connected =>
    simp only [Consumer.Exposed, here, not_or] at safe
    simp [Consumer.Exposed, close_quiet_spent error safe.2, safe.1]
  | _ => simp_all [Consumer.Exposed]

theorem closeConnection_safe {consumer : Consumer} (safe : ¬ consumer.Exposed) :
    ¬ consumer.closeConnection.Exposed ↔ consumer.ToleratesCloseConnection := by
  unfold Consumer.closeConnection Consumer.ToleratesCloseConnection
  split
  next closed here =>
    -- the loop never asks the connection before again
    simp only [Consumer.Exposed, here] at safe
    simpa only [Consumer.Exposed, here, iff_true] using safe
  next => exact connection_safe safe none

theorem closeChannel_safe {consumer : Consumer} (safe : ¬ consumer.Exposed) :
    ¬ consumer.closeChannel.Exposed ↔ consumer.ToleratesCloseChannel := by
  unfold Consumer.closeChannel Consumer.ToleratesCloseChannel
  split
  next closed here =>
    simp only [Consumer.Exposed, here] at safe
    simpa only [Consumer.Exposed, here, iff_true] using safe
  next => exact channel_safe safe none

theorem safe_step {consumer after : Consumer} {event : ConsumerEvent} (safe : ¬ consumer.Exposed)
    (step : consumer.step event = some after) : ¬ after.Exposed ↔ Tolerated consumer event := by
  cases event with
  | connectionCloses error =>
    cases step
    exact connection_safe safe error
  | channelCloses error =>
    cases step
    exact channel_safe safe error
  | cancel =>
    cases step
    exact iff_of_true safe trivial
  | closeCheck =>
    simp only [Consumer.step] at step
    split at step
    next =>
      cases step
      exact iff_of_true safe trivial
    next => cases step
  | closeCancel =>
    simp only [Consumer.step] at step
    split at step
    next =>
      cases step
      exact iff_of_true safe trivial
    next => cases step
  | closeChannel ok =>
    simp only [Consumer.step] at step
    split at step
    next =>
      cases step
      exact closeChannel_safe safe
    next => cases step
  | closeConnection ok =>
    simp only [Consumer.step] at step
    split at step
    next =>
      cases step
      exact closeConnection_safe safe
    next => cases step
  | _ => exact iff_of_true (safe_own safe rfl step) trivial

/-! ## Being exposed is being able to crash -/

theorem CanCrash.of_step {consumer after : Consumer} (event : ConsumerEvent) (own : event.own = true)
    (step : consumer.step event = some after) (crash : after.CanCrash) : consumer.CanCrash := by
  obtain ⟨events, last, allOwn, run, crashed⟩ := crash
  refine ⟨event :: events, last, ?_, ?_, crashed⟩
  · intro other member
    rcases List.mem_cons.mp member with rfl | later
    · exact own
    · exact allOwn other later
  · rw [List.foldlM_cons, step]
    exact run

theorem canCrash_of_crashed {consumer : Consumer} (crashed : consumer.loop = .crashed) : consumer.CanCrash :=
  ⟨[], consumer, by simp, rfl, crashed⟩

section Exposures
variable {isReady cancelled : Bool} {conn chan : Option Notify} {closing : Closing}

theorem canCrash_connected_conn (spent : Spent conn) :
    (Consumer.mk isReady cancelled .connected conn chan closing).CanCrash := by
  have closed : (Consumer.mk isReady cancelled .connected (some .closed) chan closing).CanCrash :=
    .of_step .connClosed rfl rfl (canCrash_of_crashed rfl)
  rcases spent with rfl | rfl
  · exact .of_step .connNotified rfl rfl closed
  · exact closed

theorem canCrash_connected_chan (spent : Spent chan) :
    (Consumer.mk isReady cancelled .connected conn chan closing).CanCrash := by
  have closed : (Consumer.mk isReady cancelled .connected conn (some .closed) closing).CanCrash :=
    .of_step .chanClosed rfl rfl (canCrash_of_crashed rfl)
  rcases spent with rfl | rfl
  · exact .of_step .chanNotified rfl rfl closed
  · exact closed

theorem canCrash_setupDelay (exposed : Spent conn ∨ conn = some (.pending true)) :
    (Consumer.mk isReady cancelled .setupDelay conn chan closing).CanCrash := by
  -- the error is read once by `ResetChannel` and then asked for again by `reconnect`
  have closed : (Consumer.mk isReady cancelled .setupDelay (some .closed) chan closing).CanCrash :=
    .of_step .connClosed rfl rfl (canCrash_of_crashed rfl)
  rcases exposed with (rfl | rfl) | rfl
  · exact .of_step .connNotified rfl rfl closed
  · exact closed
  · exact .of_step .connClosed rfl rfl (canCrash_connected_conn (.inl rfl))

theorem canCrash_settingUp (exposed : Spent conn ∨ conn = some (.pending true)) :
    (Consumer.mk isReady cancelled .settingUp conn chan closing).CanCrash :=
  .of_step (.setup false) rfl rfl (canCrash_setupDelay exposed)

theorem canCrash_connectionChanged {closed : Bool} (exposed : closed = true) :
    (Consumer.mk isReady cancelled (.connectionChanged closed) conn chan closing).CanCrash := by
  subst exposed
  exact .of_step .notifyConnection rfl rfl (canCrash_settingUp (.inl (.inr rfl)))

theorem canCrash_channelChanged {closed : Bool} (exposed : closed = true ∨ Spent conn) :
    (Consumer.mk isReady cancelled (.channelChanged closed) conn chan closing).CanCrash := by
  rcases exposed with rfl | spent
  · exact .of_step .notifyChannel rfl rfl (canCrash_connected_chan (.inr rfl))
  · exact .of_step .notifyChannel rfl rfl (canCrash_connected_conn spent)

end Exposures

theorem canCrash_of_exposed {consumer : Consumer} (exposed : consumer.Exposed) : consumer.CanCrash := by
  obtain ⟨isReady, cancelled, loop, conn, chan, closing⟩ := consumer
  cases loop with
  | dialed closed =>
    cases exposed
    exact .of_step .changeConnection rfl rfl (canCrash_connectionChanged rfl)
  | connectionChanged closed => exact canCrash_connectionChanged exposed
  | settingUp => exact canCrash_settingUp exposed
  | setupDelay => exact canCrash_setupDelay exposed
  | channelUp closed => exact .of_step .changeChannel rfl rfl (canCrash_channelChanged exposed)
  | channelChanged closed => exact canCrash_channelChanged exposed
  | connected =>
    rcases exposed with spent | spent
    · exact canCrash_connected_conn spent
    · exact canCrash_connected_chan spent
  | crashed => exact canCrash_of_crashed rfl
  | connecting => exact exposed.elim
  | connectDelay => exact exposed.elim
  | ended => exact exposed.elim

theorem safe_run {events : List ConsumerEvent} {consumer after : Consumer} (safe : ¬ consumer.Exposed)
    (own : ∀ event ∈ events, event.own) (run : events.foldlM Consumer.step consumer = some after) : ¬ after.Exposed := by
  induction events generalizing consumer with
  | nil =>
    cases run
    exact safe
  | cons event events ih =>
    rw [List.foldlM_cons] at run
    obtain ⟨next, step, rest⟩ := Option.bind_eq_some_iff.mp run
    have ownFirst := own event List.mem_cons_self
    exact ih (safe_own safe ownFirst step) (fun other later => own other (List.mem_cons_of_mem _ later)) rest

theorem canCrash_iff (consumer : Consumer) : consumer.CanCrash ↔ consumer.Exposed := by
  constructor
  · rintro ⟨events, after, own, run, crashed⟩
    -- a crashed loop is exposed, and the loop's own steps do not expose it
    apply Classical.byContradiction
    intro safe
    have stays := safe_run safe own run
    simp [Consumer.Exposed, crashed] at stays
  · exact canCrash_of_exposed

/-- As long as everything closes in a way that the loop can handle, it reads `Recover` from errors only; and the first
closure of another kind leaves it able to read it from nil. -/
theorem consumer_safe_iff (history : List ConsumerEvent) (consumer : Consumer) :
    (consumers.GuardedRun (fun consumer _ => ¬ consumer.CanCrash) history consumer ∧ ¬ consumer.CanCrash ↔
      consumers.GuardedRun Tolerated history consumer) ∧
    (consumers.GuardedRun Tolerated history consumer → consumer.loop ≠ .crashed) := by
  have exact_condition : consumers.GuardedRun (fun consumer _ => ¬ consumer.CanCrash) history consumer ∧
      ¬ consumer.CanCrash ↔ consumers.GuardedRun Tolerated history consumer := by
    apply System.guardedRun_iff (fun _ _ => True) fun consumer : Consumer => ¬ consumer.CanCrash
    · rintro _ rfl
      rw [canCrash_iff]
      exact id
    · exact fun _ _ safe => ⟨trivial, safe⟩
    · exact fun _ _ _ => trivial
    · intro _ consumer event after _ safe step
      rw [canCrash_iff] at safe
      rw [canCrash_iff, canCrash_iff, and_iff_right safe]
      exact safe_step safe step
  refine ⟨exact_condition, fun tolerated crashed => ?_⟩
  exact (exact_condition.mpr tolerated).2 (canCrash_of_crashed crashed)

def becomeReady : List ConsumerEvent :=
  [.dial true, .changeConnection, .notifyConnection, .setup true, .changeChannel, .notifyChannel]

def recovering : List ConsumerEvent :=
  becomeReady ++ [.closeCheck, .connectionCloses (some true), .connClosed, .closeCancel, .closeChannel true, .dial true,
    .closeConnection true, .changeConnection, .notifyConnection, .setup false, .done]

theorem consumer_safe_iff_recovering :
    ∃ consumer, consumers.GuardedRun Tolerated recovering consumer ∧ consumer.loop = .ended ∧ ¬ consumer.CanCrash := by
  have computed : ∃ consumer, recovering.foldlM
      (fun consumer event => if Tolerated consumer event then consumer.step event else none) newConsumer =
        some consumer ∧ consumer.loop = .ended := ⟨_, rfl, rfl⟩
  obtain ⟨consumer, computed, ended⟩ := computed
  have run : consumers.GuardedRun Tolerated recovering consumer := .of_steps (fun _ _ _ one => one) rfl computed
  exact ⟨consumer, run, ended, ((consumer_safe_iff recovering consumer).1.mpr run).2⟩

/-! ## Three ways to crash -/

def lostDuringSetup : List ConsumerEvent :=
  [.dial true, .changeConnection, .notifyConnection, .connectionCloses (some true), .setup false, .connClosed,
    .connNotified, .connClosed]

def lostBeforeWatched : List ConsumerEvent :=
  [.dial true, .connectionCloses (some false), .changeConnection, .notifyConnection, .setup false, .connClosed]

def closedWhenReady : List ConsumerEvent :=
  becomeReady ++ [.closeCheck, .closeCancel, .closeChannel true, .chanClosed]

theorem loop_crashes :
    (∃ consumer, consumers.Run lostDuringSetup consumer ∧ consumer.loop = .crashed) ∧
    (∃ consumer, consumers.Run lostBeforeWatched consumer ∧ consumer.loop = .crashed) ∧
    (∃ consumer, consumers.Run closedWhenReady consumer ∧ consumer.loop = .crashed) := by
  have run {events : List ConsumerEvent} {consumer : Consumer}
      (done : events.foldlM Consumer.step newConsumer = some consumer) : consumers.Run events consumer :=
    System.Run.of_steps (fun _ _ _ one => one) rfl done
  exact ⟨⟨_, run rfl, rfl⟩, ⟨_, run rfl, rfl⟩, ⟨_, run rfl, rfl⟩⟩

end Consumer

end Sffl.Operator
