import Sffl.Indexer.Candidates
import Sffl.Semantics.Conveyor
import Sffl.Semantics.Run

/-! The block listener's two tasks.

`process_stream` sends a block's candidates to the validator. If the channel is
full they wait in a queue under a lock, which `process_stream` flushes before it
sends anything new, and a ticker flushes from time to time. A flush removes the
candidates that have waited for too long.
-/

set_option autoImplicit false

namespace Sffl.Indexer.BlockListener

open Sffl.Semantics

structure ExpirableCandidateData where
  timestamp : Nat
  inner : CandidateData
  deriving DecidableEq, Repr

/-- How a candidate has left the listener: sent, or removed by a flush, with the time of each. -/
inductive Departure where
  | sent
  | expired (enqueued removed : Nat)
  deriving DecidableEq, Repr

/-- What the two tasks and the receiver share. The lock is held by a task that is flushing. -/
structure Shared where
  clock : Nat
  queue : List ExpirableCandidateData
  channel : List CandidateData
  /-- What the receiver has taken from the channel. -/
  received : List CandidateData
  departed : List (CandidateData × Departure)
  deriving DecidableEq

/-- A call of `flush`: in its loop, with the time it has read, or at its end. -/
inductive Flush where
  | looping (now : Nat)
  | returned (flushed : Bool)
  deriving DecidableEq, Repr

inductive Stream where
  | receiving
  | locking (candidates : List CandidateData)
  | flushing (candidates : List CandidateData) (flush : Flush)
  | sending (candidates : List CandidateData)
  /-- The channel was full. -/
  | relocking (candidates : List CandidateData)
  deriving DecidableEq

inductive Ticker where
  | waiting
  | locking
  | flushing (flush : Flush)
  deriving DecidableEq

structure Listener where
  /-- The messages that `process_stream` has received. -/
  messages : List StreamerMessage
  shared : Shared
  stream : Stream
  ticker : Ticker

inductive ListenerEvent where
  | message (message : StreamerMessage)
  | lock
  | flush
  | flushed
  | trySend
  | allSent
  | relock
  | tick
  | tickerLock
  | tickerFlush
  | tickerFlushed
  /-- The validator reads a candidate. -/
  | read
  | wait (elapsed : Nat)

structure ListenerConfig where
  addressesToRollupIds : AccountId → Option UInt32
  capacity : Nat
  expirationTimeout : Nat

def newListener : Listener where
  messages := []
  shared := { clock := 0, queue := [], channel := [], received := [], departed := [] }
  stream := .receiving
  ticker := .waiting

section Machine
variable (config : ListenerConfig)

def Shared.trySend (shared : Shared) (candidate : CandidateData) : Option Shared :=
  if shared.channel.length < config.capacity then some { shared with
    channel := shared.channel ++ [candidate]
    departed := shared.departed ++ [(candidate, .sent)] }
  else none

def Shared.startFlush (shared : Shared) : Flush :=
  if shared.queue.isEmpty then .returned true else .looping shared.clock

def Shared.flush (shared : Shared) (now : Nat) : Shared × Flush :=
  match shared.queue with
  | [] => (shared, .returned true)
  | candidate :: rest =>
    if config.expirationTimeout ≤ now - candidate.timestamp then
      ({ shared with
        queue := rest
        departed := shared.departed ++ [(candidate.inner, .expired candidate.timestamp shared.clock)] }, .looping now)
    else
      match shared.trySend config candidate.inner with
      | some after => ({ after with queue := rest }, .looping now)
      | none => (shared, .returned false)

def Shared.enqueue (shared : Shared) (candidates : List CandidateData) : Shared :=
  -- the time is read once for all candidates, and nothing is awaited until they are in the queue
  { shared with queue := shared.queue ++ candidates.map (⟨shared.clock, ·⟩) }

def Stream.holdsLock : Stream → Bool
  | .flushing _ _ => true
  | _ => false

def Ticker.holdsLock : Ticker → Bool
  | .flushing _ => true
  | _ => false

def Listener.step (listener : Listener) : ListenerEvent → Option Listener
  | .message message =>
    if listener.stream = .receiving then
      let candidates := extractCandidates config.addressesToRollupIds message
      some { listener with
        messages := listener.messages ++ [message]
        stream := if candidates.isEmpty then .receiving else .locking candidates }
    else none
  | .lock =>
    match listener.stream with
    | .locking candidates =>
      if listener.ticker.holdsLock then none
      else some { listener with stream := .flushing candidates listener.shared.startFlush }
    | _ => none
  | .flush =>
    match listener.stream with
    | .flushing candidates (.looping now) =>
      let (shared, flush) := listener.shared.flush config now
      some { listener with shared, stream := .flushing candidates flush }
    | _ => none
  | .flushed =>
    match listener.stream with
    | .flushing candidates (.returned true) => some { listener with stream := .sending candidates }
    | .flushing candidates (.returned false) =>
      some { listener with shared := listener.shared.enqueue candidates, stream := .receiving }
    | _ => none
  | .trySend =>
    match listener.stream with
    | .sending (candidate :: rest) =>
      match listener.shared.trySend config candidate with
      | some shared => some { listener with shared, stream := .sending rest }
      | none => some { listener with stream := .relocking (candidate :: rest) }
    | _ => none
  | .allSent => if listener.stream = .sending [] then some { listener with stream := .receiving } else none
  | .relock =>
    match listener.stream with
    | .relocking candidates =>
      if listener.ticker.holdsLock then none
      else some { listener with shared := listener.shared.enqueue candidates, stream := .receiving }
    | _ => none
  | .tick => if listener.ticker = .waiting then some { listener with ticker := .locking } else none
  | .tickerLock =>
    if listener.ticker = .locking ∧ ¬ listener.stream.holdsLock then
      some { listener with ticker := .flushing listener.shared.startFlush }
    else none
  | .tickerFlush =>
    match listener.ticker with
    | .flushing (.looping now) =>
      let (shared, flush) := listener.shared.flush config now
      some { listener with shared, ticker := .flushing flush }
    | _ => none
  | .tickerFlushed =>
    match listener.ticker with
    | .flushing (.returned _) => some { listener with ticker := .waiting }
    | _ => none
  | .read =>
    match listener.shared.channel with
    | [] => none
    | candidate :: rest => some { listener with shared := { listener.shared with
        channel := rest
        received := listener.shared.received ++ [candidate] } }
  | .wait elapsed => some { listener with shared := { listener.shared with clock := listener.shared.clock + elapsed } }

def listeners : System Listener ListenerEvent where
  initial listener := listener = newListener
  step listener event after := listener.step config event = some after

end Machine

/-! ## What becomes of the candidates -/

def Stream.held : Stream → List CandidateData
  | .receiving => []
  | .locking candidates => candidates
  | .flushing candidates _ => candidates
  | .sending candidates => candidates
  | .relocking candidates => candidates

def Listener.extracted (config : ListenerConfig) (listener : Listener) : List CandidateData :=
  listener.messages.flatMap (extractCandidates config.addressesToRollupIds)

def Listener.sent (listener : Listener) : List CandidateData := listener.shared.received ++ listener.shared.channel

def Listener.belt (listener : Listener) : Conveyor CandidateData Departure where
  departed := listener.shared.departed
  queue := listener.shared.queue.map ExpirableCandidateData.inner
  hand := listener.stream.held

/-- No candidate is behind another one in the queue: `process_stream` may send without looking. -/
def Stream.Direct : Stream → Prop
  | .flushing _ flush => flush = .returned true
  | .sending _ => True
  | _ => False

def Flush.Started (clock : Nat) : Flush → Prop
  | .looping now => now ≤ clock
  | .returned _ => True

def Stream.Started (clock : Nat) : Stream → Prop
  | .flushing _ flush => flush.Started clock
  | _ => True

def Ticker.Started (clock : Nat) : Ticker → Prop
  | .flushing flush => flush.Started clock
  | _ => True

section Steps
variable {config : ListenerConfig}

inductive FlushRound (config : ListenerConfig) (shared : Shared) (now : Nat) : Shared × Flush → Prop where
  | flushed : shared.queue = [] → FlushRound config shared now (shared, .returned true)
  | expire {candidate : ExpirableCandidateData} {rest : List ExpirableCandidateData} :
      shared.queue = candidate :: rest → config.expirationTimeout ≤ now - candidate.timestamp →
      FlushRound config shared now
        ({ shared with
          queue := rest
          departed := shared.departed ++ [(candidate.inner, .expired candidate.timestamp shared.clock)] }, .looping now)
  | send {candidate : ExpirableCandidateData} {rest : List ExpirableCandidateData} :
      shared.queue = candidate :: rest →
      FlushRound config shared now
        ({ shared with
          queue := rest
          channel := shared.channel ++ [candidate.inner]
          departed := shared.departed ++ [(candidate.inner, .sent)] }, .looping now)
  | full : FlushRound config shared now (shared, .returned false)

theorem trySend_eq_some {shared after : Shared} {candidate : CandidateData}
    (sent : shared.trySend config candidate = some after) :
    after = { shared with
      channel := shared.channel ++ [candidate]
      departed := shared.departed ++ [(candidate, .sent)] } := by
  rw [Shared.trySend] at sent
  split at sent
  next => exact (Option.some.inj sent).symm
  next => cases sent

theorem flushRound_flush (shared : Shared) (now : Nat) : FlushRound config shared now (shared.flush config now) := by
  unfold Shared.flush
  split
  next empty => exact .flushed empty
  next candidate rest waiting =>
    split
    next due => exact .expire waiting due
    next =>
      split
      next after sent =>
        cases trySend_eq_some sent
        exact .send waiting
      next => exact .full

theorem startFlush_started (shared : Shared) : shared.startFlush.Started shared.clock := by
  unfold Shared.startFlush
  split
  next => trivial
  next => exact Nat.le_refl _

theorem startFlush_returned {shared : Shared} (returned : shared.startFlush = .returned true) : shared.queue = [] := by
  unfold Shared.startFlush at returned
  split at returned
  next empty => exact List.isEmpty_iff.mp empty
  next => cases returned

inductive ListenerStep (config : ListenerConfig) (listener : Listener) : ListenerEvent → Listener → Prop where
  | message {message : StreamerMessage} {stream : Stream} :
      listener.stream = .receiving → stream.held = extractCandidates config.addressesToRollupIds message →
      ¬ stream.Direct → stream.Started listener.shared.clock →
      ListenerStep config listener (.message message) { listener with messages := listener.messages ++ [message], stream }
  /-- `process_stream` goes on with the same candidates. -/
  | turn {event : ListenerEvent} {stream : Stream} :
      stream.held = listener.stream.held → (stream.Direct → listener.stream.Direct ∨ listener.shared.queue = []) →
      stream.Started listener.shared.clock →
      ListenerStep config listener event { listener with stream }
  | flush {candidates : List CandidateData} {now : Nat} {shared : Shared} {flush : Flush} :
      listener.stream = .flushing candidates (.looping now) → FlushRound config listener.shared now (shared, flush) →
      ListenerStep config listener .flush { listener with shared, stream := .flushing candidates flush }
  | enqueue {event : ListenerEvent} :
      ListenerStep config listener event
        { listener with shared := listener.shared.enqueue listener.stream.held, stream := .receiving }
  | send {candidate : CandidateData} {rest : List CandidateData} :
      listener.stream = .sending (candidate :: rest) →
      ListenerStep config listener .trySend { listener with
        shared := { listener.shared with
          channel := listener.shared.channel ++ [candidate]
          departed := listener.shared.departed ++ [(candidate, .sent)] }
        stream := .sending rest }
  | tickerTurn {event : ListenerEvent} {ticker : Ticker} :
      ticker.Started listener.shared.clock → ListenerStep config listener event { listener with ticker }
  | tickerFlush {now : Nat} {shared : Shared} {flush : Flush} :
      listener.ticker = .flushing (.looping now) → FlushRound config listener.shared now (shared, flush) →
      ListenerStep config listener .tickerFlush { listener with shared, ticker := .flushing flush }
  | read {candidate : CandidateData} {rest : List CandidateData} :
      listener.shared.channel = candidate :: rest →
      ListenerStep config listener .read { listener with
        shared := { listener.shared with channel := rest, received := listener.shared.received ++ [candidate] } }
  | wait {elapsed : Nat} :
      ListenerStep config listener (.wait elapsed)
        { listener with shared := { listener.shared with clock := listener.shared.clock + elapsed } }

theorem listenerStep_of_step {listener after : Listener} {event : ListenerEvent}
    (step : listener.step config event = some after) : ListenerStep config listener event after := by
  cases event with
  | message message =>
    simp only [Listener.step] at step
    split at step
    next receiving =>
      cases step
      split
      next empty => exact .message receiving (List.isEmpty_iff.mp empty).symm id trivial
      next => exact .message receiving rfl id trivial
    next => cases step
  | lock =>
    simp only [Listener.step] at step
    split at step
    next candidates locking =>
      split at step
      next => cases step
      next =>
        cases step
        exact .turn (by rw [locking]; rfl) (fun direct => .inr (startFlush_returned direct)) (startFlush_started _)
    next => cases step
  | flush =>
    simp only [Listener.step] at step
    split at step
    next candidates now flushing =>
      cases step
      exact .flush flushing (flushRound_flush _ _)
    next => cases step
  | flushed =>
    simp only [Listener.step] at step
    split at step
    next candidates flushing =>
      cases step
      exact .turn (by rw [flushing]; rfl) (fun _ => .inl (by rw [flushing]; rfl)) trivial
    next candidates flushing =>
      cases step
      have held : listener.stream.held = candidates := by rw [flushing]; rfl
      rw [← held]
      exact .enqueue
    next => cases step
  | trySend =>
    simp only [Listener.step] at step
    split at step
    next candidate rest sending =>
      split at step
      next shared sent =>
        cases step
        cases trySend_eq_some sent
        exact .send sending
      next =>
        cases step
        exact .turn (by rw [sending]; rfl) False.elim trivial
    next => cases step
  | allSent =>
    simp only [Listener.step] at step
    split at step
    next sending =>
      cases step
      exact .turn (by rw [sending]; rfl) False.elim trivial
    next => cases step
  | relock =>
    simp only [Listener.step] at step
    split at step
    next candidates relocking =>
      split at step
      next => cases step
      next =>
        cases step
        have held : listener.stream.held = candidates := by rw [relocking]; rfl
        rw [← held]
        exact .enqueue
    next => cases step
  | tick =>
    simp only [Listener.step] at step
    split at step
    next =>
      cases step
      exact .tickerTurn trivial
    next => cases step
  | tickerLock =>
    simp only [Listener.step] at step
    split at step
    next =>
      cases step
      exact .tickerTurn (startFlush_started _)
    next => cases step
  | tickerFlush =>
    simp only [Listener.step] at step
    split at step
    next now flushing =>
      cases step
      exact .tickerFlush flushing (flushRound_flush _ _)
    next => cases step
  | tickerFlushed =>
    simp only [Listener.step] at step
    split at step
    next =>
      cases step
      exact .tickerTurn trivial
    next => cases step
  | read =>
    simp only [Listener.step] at step
    split at step
    next => cases step
    next candidate rest waiting =>
      cases step
      exact .read waiting
  | wait elapsed =>
    cases step
    exact .wait

end Steps

/-! ## What holds in every run -/

def Departure.Due (timeout : Nat) : Departure → Prop
  | .sent => True
  | .expired enqueued removed => enqueued + timeout ≤ removed

structure Shared.Sound (timeout : Nat) (shared : Shared) : Prop where
  sent : shared.received ++ shared.channel = (shared.departed.filter (·.2 = .sent)).map Prod.fst
  stamped : ∀ candidate ∈ shared.queue, candidate.timestamp ≤ shared.clock
  due : ∀ departure ∈ shared.departed, departure.2.Due timeout

structure Listener.Kept (config : ListenerConfig) (listener : Listener) : Prop where
  shared : listener.shared.Sound config.expirationTimeout
  streamStarted : listener.stream.Started listener.shared.clock
  tickerStarted : listener.ticker.Started listener.shared.clock
  /-- The queue is empty whenever a candidate is sent past it. -/
  direct : listener.stream.Direct → listener.shared.queue = []
  taken : listener.belt.taken = listener.extracted config

section Runs
variable {config : ListenerConfig}

theorem Shared.Sound.send {timeout : Nat} {shared : Shared} (sound : shared.Sound timeout) (candidate : CandidateData)
    {queue : List ExpirableCandidateData} (kept : queue ⊆ shared.queue) :
    { shared with
      queue
      channel := shared.channel ++ [candidate]
      departed := shared.departed ++ [(candidate, .sent)] : Shared }.Sound timeout where
  sent := by
    show shared.received ++ (shared.channel ++ [candidate]) = _
    rw [← List.append_assoc, sound.sent, List.filter_append, List.map_append]
    rfl
  stamped := fun waiting member => sound.stamped waiting (kept member)
  due := by
    intro departure member
    rcases List.mem_append.mp member with earlier | last
    · exact sound.due departure earlier
    · cases List.mem_singleton.mp last
      trivial

theorem Shared.Sound.flushRound {shared after : Shared} {now : Nat} {flush : Flush}
    (sound : shared.Sound config.expirationTimeout) (started : now ≤ shared.clock)
    (round : FlushRound config shared now (after, flush)) : after.Sound config.expirationTimeout := by
  cases round with
  | flushed => exact sound
  | full => exact sound
  | send waiting => exact sound.send _ (by rw [waiting]; exact List.subset_cons_self ..)
  | @expire candidate rest waiting due =>
    -- the age is taken at the time that the flush read when it started, which is not after the clock
    have stamped := sound.stamped candidate (by rw [waiting]; exact List.mem_cons_self)
    constructor
    · show shared.received ++ shared.channel = _
      rw [sound.sent, List.filter_append, List.map_append]
      exact (List.append_nil _).symm
    · intro other member
      exact sound.stamped other (by rw [waiting]; exact List.mem_cons_of_mem _ member)
    · intro departure member
      rcases List.mem_append.mp member with earlier | last
      · exact sound.due departure earlier
      · cases List.mem_singleton.mp last
        show candidate.timestamp + config.expirationTimeout ≤ shared.clock
        omega

theorem Shared.Sound.enqueue {timeout : Nat} {shared : Shared} (sound : shared.Sound timeout)
    (candidates : List CandidateData) : (shared.enqueue candidates).Sound timeout where
  sent := sound.sent
  stamped := by
    intro candidate member
    rcases List.mem_append.mp member with earlier | new
    · exact sound.stamped candidate earlier
    · obtain ⟨_, _, rfl⟩ := List.mem_map.mp new
      exact Nat.le_refl _
  due := sound.due

theorem FlushRound.queue_empty {shared after : Shared} {now : Nat} {flush : Flush}
    (round : FlushRound config shared now (after, flush)) (empty : shared.queue = [] ∨ flush = .returned true) :
    after.queue = [] := by
  cases round with
  | flushed here => exact here
  | full => exact empty.resolve_right (by simp)
  | send waiting => simp [waiting] at empty
  | expire waiting => simp [waiting] at empty

theorem FlushRound.started {shared after : Shared} {now clock : Nat} {flush : Flush} (started : now ≤ clock)
    (round : FlushRound config shared now (after, flush)) : flush.Started clock := by
  cases round with
  | flushed => trivial
  | full => trivial
  | send => exact started
  | expire => exact started

theorem FlushRound.clock {shared after : Shared} {now : Nat} {flush : Flush}
    (round : FlushRound config shared now (after, flush)) : after.clock = shared.clock := by
  cases round <;> rfl

theorem Flush.Started.mono {clock later : Nat} {flush : Flush} (started : flush.Started clock) (ordered : clock ≤ later) :
    flush.Started later := by
  cases flush with
  | looping now => exact Nat.le_trans started ordered
  | returned => trivial

theorem Stream.Started.mono {clock later : Nat} {stream : Stream} (started : stream.Started clock)
    (ordered : clock ≤ later) : stream.Started later := by
  cases stream with
  | flushing candidates flush => exact Flush.Started.mono started ordered
  | _ => trivial

theorem Ticker.Started.mono {clock later : Nat} {ticker : Ticker} (started : ticker.Started clock)
    (ordered : clock ≤ later) : ticker.Started later := by
  cases ticker with
  | flushing flush => exact Flush.Started.mono started ordered
  | _ => trivial

theorem FlushRound.belt {shared after : Shared} {now : Nat} {flush : Flush} (round : FlushRound config shared now (after, flush))
    (hand : List CandidateData) :
    Conveyor.Step ⟨shared.departed, shared.queue.map ExpirableCandidateData.inner, hand⟩ []
      ⟨after.departed, after.queue.map ExpirableCandidateData.inner, hand⟩ := by
  cases round with
  | flushed => exact .idle
  | full => exact .idle
  | send waiting =>
    rw [waiting, List.map_cons]
    exact .leave
  | expire waiting =>
    rw [waiting, List.map_cons]
    exact .leave

/-- Every step of the listener is a step of the conveyor. -/
theorem belt_step {listener after : Listener} {event : ListenerEvent}
    (direct : listener.stream.Direct → listener.shared.queue = []) (step : ListenerStep config listener event after) :
    ∃ items, Conveyor.Step listener.belt items after.belt ∧ after.extracted config = listener.extracted config ++ items := by
  cases step with
  | @message message stream receiving held =>
    refine ⟨extractCandidates config.addressesToRollupIds message, ?_, by simp [Listener.extracted]⟩
    rw [Listener.belt, Listener.belt, receiving, held]
    exact .take
  | turn held =>
    refine ⟨[], ?_, (List.append_nil _).symm⟩
    rw [Listener.belt, Listener.belt, held]
    exact .idle
  | flush flushing round =>
    refine ⟨[], ?_, (List.append_nil _).symm⟩
    rw [Listener.belt, flushing]
    exact round.belt _
  | enqueue =>
    refine ⟨[], ?_, (List.append_nil _).symm⟩
    have stored : (listener.shared.enqueue listener.stream.held).queue.map ExpirableCandidateData.inner =
        listener.shared.queue.map ExpirableCandidateData.inner ++ listener.stream.held := by
      simp [Shared.enqueue, Function.comp_def]
    rw [Listener.belt, Listener.belt, stored]
    exact .enqueue
  | send sending =>
    -- nothing that was extracted earlier is left in the queue
    have empty := direct (by rw [sending]; trivial)
    refine ⟨[], ?_, (List.append_nil _).symm⟩
    rw [Listener.belt, Listener.belt, sending, empty]
    exact .pass
  | tickerTurn => exact ⟨[], .idle, (List.append_nil _).symm⟩
  | tickerFlush _ round => exact ⟨[], round.belt _, (List.append_nil _).symm⟩
  | read => exact ⟨[], .idle, (List.append_nil _).symm⟩
  | wait => exact ⟨[], .idle, (List.append_nil _).symm⟩

theorem Listener.Kept.step {listener after : Listener} {event : ListenerEvent} (kept : listener.Kept config)
    (step : ListenerStep config listener event after) : after.Kept config := by
  have taken : after.belt.taken = after.extracted config := by
    obtain ⟨items, moved, extracted⟩ := belt_step kept.direct step
    rw [moved.taken_eq, extracted, kept.taken]
  cases step with
  | message _ _ indirect started =>
    exact ⟨kept.shared, started, kept.tickerStarted, fun direct => absurd direct indirect, taken⟩
  | turn _ direct started =>
    exact ⟨kept.shared, started, kept.tickerStarted, fun here => (direct here).elim kept.direct id, taken⟩
  | flush flushing round =>
    have started := kept.streamStarted
    rw [flushing] at started
    refine ⟨kept.shared.flushRound started round, ?_, ?_, fun direct => round.queue_empty (.inr direct), taken⟩
    · exact round.started (by rw [round.clock]; exact started)
    · exact kept.tickerStarted.mono (Nat.le_of_eq round.clock.symm)
  | enqueue => exact ⟨kept.shared.enqueue _, trivial, kept.tickerStarted, False.elim, taken⟩
  | send sending =>
    have empty := kept.direct (by rw [sending]; trivial)
    exact ⟨kept.shared.send _ (List.Subset.refl _), trivial, kept.tickerStarted, fun _ => empty, taken⟩
  | tickerTurn started => exact ⟨kept.shared, kept.streamStarted, started, kept.direct, taken⟩
  | tickerFlush flushing round =>
    -- the ticker only takes from the queue, so it does not disturb a direct send
    have started := kept.tickerStarted
    rw [flushing] at started
    refine ⟨kept.shared.flushRound started round, ?_, ?_, fun direct => round.queue_empty (.inl (kept.direct direct)), taken⟩
    · exact kept.streamStarted.mono (Nat.le_of_eq round.clock.symm)
    · exact round.started (by rw [round.clock]; exact started)
  | @read candidate rest waiting =>
    have sent : listener.shared.received ++ [candidate] ++ rest =
        (listener.shared.departed.filter (·.2 = .sent)).map Prod.fst := by
      rw [List.append_assoc, List.singleton_append, ← waiting, kept.shared.sent]
    exact ⟨⟨sent, kept.shared.stamped, kept.shared.due⟩, kept.streamStarted, kept.tickerStarted, kept.direct, taken⟩
  | @wait elapsed =>
    have later := Nat.le_add_right listener.shared.clock elapsed
    have stamped := fun candidate member => Nat.le_trans (kept.shared.stamped candidate member) later
    exact ⟨⟨kept.shared.sent, stamped, kept.shared.due⟩, kept.streamStarted.mono later, kept.tickerStarted.mono later,
      kept.direct, taken⟩

theorem newListener_kept : newListener.Kept config where
  shared := { sent := rfl, stamped := by simp [newListener], due := by simp [newListener] }
  streamStarted := trivial
  tickerStarted := trivial
  direct := False.elim
  taken := rfl

theorem kept_of_run {history : List ListenerEvent} {listener : Listener} (run : (listeners config).Run history listener) :
    listener.Kept config := by
  apply run.invariant fun _ => Listener.Kept config
  · rintro _ rfl
    exact newListener_kept
  · intro _ listener event after kept _ step
    exact kept.step (listenerStep_of_step step)

end Runs

/-! ## Accounting for every candidate -/

/-- Every extracted candidate has one place, in the order of extraction, and the places are where the tasks have them. -/
structure Listener.Accounted (config : ListenerConfig) (listener : Listener) : Prop where
  extracted : listener.belt.places.map Prod.fst = listener.extracted config
  sent : listener.sent = listener.belt.itemsAt (.departed .sent)
  subsequence : listener.sent.Sublist (listener.extracted config)
  queued : listener.shared.queue.map ExpirableCandidateData.inner = listener.belt.itemsAt .queued
  held : listener.stream.held = listener.belt.itemsAt .held
  expired : ∀ candidate enqueued removed, (candidate, .departed (.expired enqueued removed)) ∈ listener.belt.places →
    enqueued + config.expirationTimeout ≤ removed

/-- No candidate is lost, sent twice or sent out of order, whatever the capacity, the reads and the ticker's flushes. -/
theorem listener_accounts (config : ListenerConfig) {history : List ListenerEvent} {listener : Listener}
    (run : (listeners config).Run history listener) : listener.Accounted config := by
  have kept := kept_of_run run
  have sent : listener.sent = listener.belt.itemsAt (.departed .sent) :=
    kept.shared.sent.trans (listener.belt.itemsAt_departed .sent).symm
  have subsequence : (listener.belt.itemsAt (.departed .sent)).Sublist (listener.extracted config) := by
    rw [← kept.taken]
    exact listener.belt.itemsAt_sublist _
  refine ⟨kept.taken, sent, sent ▸ subsequence, listener.belt.itemsAt_queued.symm, listener.belt.itemsAt_held.symm, ?_⟩
  intro candidate enqueued removed member
  exact kept.shared.due _ (listener.belt.departed_mem_places.mp member)

/-- Nanoseconds. -/
def EXPIRATION_TIMEOUT : Nat := 30 * 10 ^ 9

def submission (hash : CryptoHash) : IndexerTransactionWithOutcome where
  transaction := ⟨"sequencer.near", "da.near", [.functionCall "submit" [1]], hash⟩
  executionOutcome := ⟨0, .successReceiptId⟩

def narrowConfig : ListenerConfig where
  addressesToRollupIds account := if account = "da.near" then some 1 else none
  capacity := 1
  expirationTimeout := EXPIRATION_TIMEOUT

def expiringRun : List ListenerEvent :=
  [.message ⟨[⟨none⟩, ⟨some ⟨[submission 1, submission 2]⟩⟩]⟩, .lock, .flushed, .trySend, .trySend, .relock,
    .wait EXPIRATION_TIMEOUT, .tick, .tickerLock, .tickerFlush]

theorem listener_accounts_expiring :
    ∃ listener, (listeners narrowConfig).Run expiringRun listener ∧ listener.Accounted narrowConfig ∧
      listener.belt.places =
        [(⟨1, submission 1, [[1]]⟩, .departed .sent),
          (⟨1, submission 2, [[1]]⟩, .departed (.expired 0 EXPIRATION_TIMEOUT))] := by
  have computed : ∃ listener, expiringRun.foldlM (Listener.step narrowConfig) newListener = some listener ∧
      listener.belt.places = [(⟨1, submission 1, [[1]]⟩, .departed .sent),
        (⟨1, submission 2, [[1]]⟩, .departed (.expired 0 EXPIRATION_TIMEOUT))] := ⟨_, rfl, rfl⟩
  obtain ⟨listener, computed, places⟩ := computed
  have run : (listeners narrowConfig).Run expiringRun listener := System.Run.of_steps (fun _ _ _ one => one) rfl computed
  exact ⟨listener, run, listener_accounts narrowConfig run, places⟩

end Sffl.Indexer.BlockListener
