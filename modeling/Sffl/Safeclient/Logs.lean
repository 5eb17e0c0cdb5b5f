import Sffl.Evm.Bytes
import Sffl.Golang.Lru
import Sffl.Semantics.Run

/-! `SubscribeFilterLogs`: the loop that passes logs on, and the node it asks.

Logs come from underlying subscriptions through `proxyC` and from the queries
that follow a resubscription. Both pass through the cache of hashes and move
`lastBlock`, the block the next queries start from. The answers of the node are
arguments of the steps; what an honest node answers is said where it is assumed.
-/

set_option autoImplicit false

namespace Sffl.Safeclient

open Sffl.Evm Sffl.Golang Sffl.Semantics

/-- The fields of a log that are read. -/
structure Log where
  address : Address
  topics : List Bytes32
  data : Bytes
  blockNumber : Uint 64
  blockHash : Bytes32
  txHash : Bytes32
  index : Nat
  deriving DecidableEq

structure LogFilteringParams where
  blockChunkSize : Uint 64
  blockMaxRange : Uint 64
  deriving DecidableEq, Repr

structure SafeEthClient (Digest : Type) extends LogFilteringParams where
  sha256 : Bytes → Digest
  encodeRLP : Address → List Bytes32 → Bytes → Bytes

/-- The bytes of a `big.Int`, without leading zeros. -/
def bigIntBytes (value : Nat) : Bytes := bigEndian (if value = 0 then 0 else value.log2 / 8 + 1) value

def SafeEthClient.hashLog {Digest : Type} (client : SafeEthClient Digest) (log : Log) : Digest :=
  client.sha256 (client.encodeRLP log.address log.topics log.data ++ wordBytes log.blockHash ++ wordBytes log.txHash ++
    bigIntBytes log.index)

/-- An underlying subscription: how many of the logs mined it is past, and whether it still delivers. -/
structure Feed where
  next : Nat
  live : Bool
  deriving DecidableEq

inductive LogLoop where
  | calling
  | subscribing
  | selecting
  | resubscribing
  | replacing (newSub : Feed)
  | asking
  | filtering (fromBlock currentBlock : Uint 64) (missedLogs : List Log)
  | forwarding (currentBlock : Uint 64) (missedLogs : List Log)
  | ended
  deriving DecidableEq

def proxySize : Nat := 100

def cacheSize : Nat := 100

structure LogSubscription (Digest : Type) where
  proxyC : List Log
  /-- What has been sent to `ch`. -/
  ch : List Log
  logCache : Lru Digest cacheSize
  lastBlock : Uint 64
  loop : LogLoop
  underlying : Feed
  /-- The first answer to `BlockNumber`. -/
  initialBlock : Uint 64
  head : Nat
  /-- The logs that match the query, as they were mined. -/
  mined : List Log
  /-- During a resubscription, how many logs had been mined when the new underlying subscription was made. -/
  gap : Nat

structure Chain (head : Nat) (mined : List Log) : Prop where
  ascending : mined.Pairwise fun earlier later => earlier.blockNumber.toNat ≤ later.blockNumber.toNat
  reached : ∀ log ∈ mined, log.blockNumber.toNat ≤ head

def newLogSubscription (Digest : Type) (head : Nat) (mined : List Log) : LogSubscription Digest where
  proxyC := []
  ch := []
  logCache := .empty
  lastBlock := 0
  loop := .calling
  underlying := ⟨0, false⟩
  initialBlock := 0
  head
  mined
  gap := 0

inductive LogEvent where
  | mine (logs : List Log)
  | deliver (log : Log)
  | deliverNew (log : Log)
  | endSubscription
  | endNewSubscription
  | blockNumber (answer : Option (Uint 64))
  | subscribe (ok : Bool)
  | takeLog
  | resub
  | setUnderlyingSub
  | filterLogs (answer : Option (List Log))
  | forward
  | finishResub
  | stop
  deriving DecidableEq

/-! ## Ranges of blocks -/

def maxBlock (first second : Uint 64) : Uint 64 := if first < second then second else first

def minBlock (first second : Uint 64) : Uint 64 := if first < second then first else second

theorem maxBlock_toNat (first second : Uint 64) : (maxBlock first second).toNat = max first.toNat second.toNat := by
  unfold maxBlock
  split
  · next less => exact (Nat.max_eq_right (Nat.le_of_lt (BitVec.lt_def.mp less))).symm
  · next less => exact (Nat.max_eq_left (Nat.not_lt.mp fun lt => less (BitVec.lt_def.mpr lt))).symm

theorem maxBlock_le {first second bound : Uint 64} (le : first ≤ bound) (le' : second ≤ bound) :
    maxBlock first second ≤ bound := by
  rw [BitVec.le_def, maxBlock_toNat]
  exact Nat.max_le.mpr ⟨le, le'⟩

theorem minBlock_toNat (first second : Uint 64) : (minBlock first second).toNat = min first.toNat second.toNat := by
  unfold minBlock
  split
  · next less => exact (Nat.min_eq_left (Nat.le_of_lt (BitVec.lt_def.mp less))).symm
  · next less => exact (Nat.min_eq_right (Nat.not_lt.mp fun lt => less (BitVec.lt_def.mpr lt))).symm

structure FilterQuery where
  fromBlock : Int
  toBlock : Int
  deriving DecidableEq, Repr

def FilterQuery.range (query : FilterQuery) : Int × Int := (query.fromBlock, query.toBlock)

def FilterQuery.Selects (query : FilterQuery) (log : Log) : Prop :=
  query.fromBlock ≤ log.blockNumber.toNat ∧ log.blockNumber.toNat ≤ query.toBlock

instance (query : FilterQuery) (log : Log) : Decidable (query.Selects log) := inferInstanceAs (Decidable (_ ∧ _))

namespace LogFilteringParams
variable (params : LogFilteringParams)

def firstBlock (lastBlock currentBlock : Uint 64) : Uint 64 :=
  let rangeStartBlock := currentBlock - params.blockMaxRange
  let rangeStartBlock := if params.blockMaxRange > currentBlock then 0 else rangeStartBlock
  maxBlock lastBlock (rangeStartBlock + 1)

def toBlock (fromBlock currentBlock : Uint 64) : Uint 64 :=
  minBlock (fromBlock + params.blockChunkSize - 1) currentBlock

def query (fromBlock currentBlock : Uint 64) : FilterQuery :=
  -- the numbers are converted to `int64`
  ⟨fromBlock.toInt, (params.toBlock fromBlock currentBlock).toInt⟩

end LogFilteringParams

/-! ## The loop -/

section Client
variable {Digest : Type} (client : SafeEthClient Digest)

def LogLoop.query (fromBlock currentBlock : Uint 64) (missedLogs : List Log) : LogLoop :=
  if fromBlock ≤ currentBlock then .filtering fromBlock currentBlock missedLogs else .forwarding currentBlock missedLogs

namespace LogSubscription

section Loop
variable (state : LogSubscription Digest)

def received : LogEvent → Option Log
  | .takeLog =>
    match state.loop with
    | .selecting => state.proxyC.head?
    | _ => none
  | .forward =>
    match state.loop with
    | .forwarding _ missedLogs => missedLogs.head?
    | _ => none
  | _ => none

def resubbed : LogSubscription Digest := { state with loop := .selecting, gap := 0 }

def blockNumber : Option (Uint 64) → Option (LogSubscription Digest)
  | none =>
    match state.loop with
    | .calling => some { state with loop := .ended }
    | .asking => some state.resubbed
    | _ => none
  | some currentBlock =>
    match state.loop with
    | .calling => some { state with loop := .subscribing, lastBlock := currentBlock, initialBlock := currentBlock }
    | .asking =>
      if state.lastBlock ≥ currentBlock then some state.resubbed
      else some { state with loop := .query (client.firstBlock state.lastBlock currentBlock) currentBlock [] }
    | _ => none

def subscribe (ok : Bool) : Option (LogSubscription Digest) :=
  match state.loop with
  | .subscribing =>
    if ok then some { state with loop := .selecting, underlying := ⟨state.mined.length, true⟩ }
    else some { state with loop := .ended }
  | .resubscribing =>
    if ok then some { state with loop := .replacing ⟨state.mined.length, true⟩, gap := state.mined.length }
    else some { state with loop := .selecting }
  | _ => none

end Loop

variable [DecidableEq Digest] (state : LogSubscription Digest)

/-- What is done with a log, wherever it is from. -/
def receive (log : Log) : LogSubscription Digest :=
  match state.logCache.containsOrAdd (client.hashLog log) with
  | (true, _) => state
  | (false, logCache) => { state with
      logCache
      lastBlock := maxBlock state.lastBlock log.blockNumber
      ch := state.ch ++ [log] }

def step : LogEvent → Option (LogSubscription Digest)
  | .mine logs => some { state with head := state.head + 1, mined := state.mined ++ logs }
  | .deliver log =>
    if state.underlying.live = true ∧ state.proxyC.length < proxySize then
      some { state with
        proxyC := state.proxyC ++ [log]
        underlying := { state.underlying with next := state.underlying.next + 1 } }
    else none
  | .deliverNew log =>
    match state.loop with
    | .replacing newSub =>
      if newSub.live = true ∧ state.proxyC.length < proxySize then
        some { state with
          proxyC := state.proxyC ++ [log]
          loop := .replacing { newSub with next := newSub.next + 1 } }
      else none
    | _ => none
  | .endSubscription => some { state with underlying := { state.underlying with live := false } }
  | .endNewSubscription =>
    match state.loop with
    | .replacing newSub => some { state with loop := .replacing { newSub with live := false } }
    | _ => none
  | .blockNumber answer => state.blockNumber client answer
  | .subscribe ok => state.subscribe ok
  | .takeLog =>
    match state.loop, state.proxyC with
    | .selecting, log :: proxyC => some ({ state with proxyC }.receive client log)
    | _, _ => none
  | .resub => if state.loop = .selecting then some { state with loop := .resubscribing } else none
  | .setUnderlyingSub =>
    match state.loop with
    | .replacing newSub => some { state with loop := .asking, underlying := newSub }
    | _ => none
  | .filterLogs answer =>
    match state.loop, answer with
    | .filtering _ _ _, none => some state.resubbed
    | .filtering fromBlock currentBlock missedLogs, some logs =>
      some { state with loop := .query (fromBlock + client.blockChunkSize) currentBlock (missedLogs ++ logs) }
    | _, _ => none
  | .forward =>
    match state.loop with
    | .forwarding currentBlock (log :: missedLogs) =>
      some ({ state with loop := .forwarding currentBlock missedLogs }.receive client log)
    | _ => none
  | .finishResub =>
    match state.loop with
    | .forwarding _ [] => some state.resubbed
    | _ => none
  | .stop =>
    if state.loop = .selecting then
      some { state with loop := .ended, underlying := { state.underlying with live := false } }
    else none

end LogSubscription

def logSubscriptions [DecidableEq Digest] : System (LogSubscription Digest) LogEvent where
  initial state := ∃ head mined, Chain head mined ∧ state = newLogSubscription Digest head mined
  step state event after := state.step client event = some after

/-! ## What a step does -/

inductive LogStep [DecidableEq Digest] (state : LogSubscription Digest) : LogEvent → LogSubscription Digest → Prop where
  | mine (logs : List Log) :
      LogStep state (.mine logs) { state with head := state.head + 1, mined := state.mined ++ logs }
  | deliver {log : Log} (live : state.underlying.live = true) :
      LogStep state (.deliver log) { state with
        proxyC := state.proxyC ++ [log]
        underlying := { state.underlying with next := state.underlying.next + 1 } }
  | deliverNew {log : Log} {newSub : Feed} (replacing : state.loop = .replacing newSub) (live : newSub.live = true) :
      LogStep state (.deliverNew log) { state with
        proxyC := state.proxyC ++ [log]
        loop := .replacing { newSub with next := newSub.next + 1 } }
  | endSubscription :
      LogStep state .endSubscription { state with underlying := { state.underlying with live := false } }
  | endNewSubscription {newSub : Feed} (replacing : state.loop = .replacing newSub) :
      LogStep state .endNewSubscription { state with loop := .replacing { newSub with live := false } }
  | call {currentBlock : Uint 64} (calling : state.loop = .calling) :
      LogStep state (.blockNumber (some currentBlock))
        { state with loop := .subscribing, lastBlock := currentBlock, initialBlock := currentBlock }
  | callFails (calling : state.loop = .calling) : LogStep state (.blockNumber none) { state with loop := .ended }
  | ask {currentBlock : Uint 64} (asking : state.loop = .asking) (ahead : state.lastBlock < currentBlock) :
      LogStep state (.blockNumber (some currentBlock))
        { state with loop := .query (client.firstBlock state.lastBlock currentBlock) currentBlock [] }
  | upToDate {currentBlock : Uint 64} (asking : state.loop = .asking) (reached : currentBlock ≤ state.lastBlock) :
      LogStep state (.blockNumber (some currentBlock)) state.resubbed
  | askFails (asking : state.loop = .asking) : LogStep state (.blockNumber none) state.resubbed
  | subscribe (subscribing : state.loop = .subscribing) :
      LogStep state (.subscribe true) { state with loop := .selecting, underlying := ⟨state.mined.length, true⟩ }
  | subscribeFails (subscribing : state.loop = .subscribing) :
      LogStep state (.subscribe false) { state with loop := .ended }
  | resubscribe (resubscribing : state.loop = .resubscribing) :
      LogStep state (.subscribe true)
        { state with loop := .replacing ⟨state.mined.length, true⟩, gap := state.mined.length }
  | resubscribeFails (resubscribing : state.loop = .resubscribing) :
      LogStep state (.subscribe false) { state with loop := .selecting }
  | takeLog {log : Log} {proxyC : List Log} (selecting : state.loop = .selecting) (waiting : state.proxyC = log :: proxyC) :
      LogStep state .takeLog ({ state with proxyC }.receive client log)
  | resub (selecting : state.loop = .selecting) : LogStep state .resub { state with loop := .resubscribing }
  | setUnderlyingSub {newSub : Feed} (replacing : state.loop = .replacing newSub) :
      LogStep state .setUnderlyingSub { state with loop := .asking, underlying := newSub }
  | filterLogs {fromBlock currentBlock : Uint 64} {missedLogs logs : List Log}
      (filtering : state.loop = .filtering fromBlock currentBlock missedLogs) :
      LogStep state (.filterLogs (some logs))
        { state with loop := .query (fromBlock + client.blockChunkSize) currentBlock (missedLogs ++ logs) }
  | filterFails {fromBlock currentBlock : Uint 64} {missedLogs : List Log}
      (filtering : state.loop = .filtering fromBlock currentBlock missedLogs) :
      LogStep state (.filterLogs none) state.resubbed
  | forward {currentBlock : Uint 64} {log : Log} {missedLogs : List Log}
      (forwarding : state.loop = .forwarding currentBlock (log :: missedLogs)) :
      LogStep state .forward ({ state with loop := .forwarding currentBlock missedLogs }.receive client log)
  | finishResub {currentBlock : Uint 64} (forwarding : state.loop = .forwarding currentBlock []) :
      LogStep state .finishResub state.resubbed
  | stop (selecting : state.loop = .selecting) :
      LogStep state .stop { state with loop := .ended, underlying := { state.underlying with live := false } }

variable {client} [DecidableEq Digest] {state after : LogSubscription Digest} {event : LogEvent}

theorem logStep_of_step (one : state.step client event = some after) : LogStep client state event after := by
  unfold LogSubscription.step at one
  split at one
  next logs =>
    cases one
    exact .mine logs
  next log =>
    obtain ⟨⟨live, _⟩, done⟩ := Option.ite_none_right_eq_some.mp one
    cases done
    exact .deliver live
  next log =>
    split at one
    next replacing =>
      obtain ⟨⟨live, _⟩, done⟩ := Option.ite_none_right_eq_some.mp one
      cases done
      exact .deliverNew replacing live
    next => cases one
  next =>
    cases one
    exact .endSubscription
  next =>
    split at one
    next replacing =>
      cases one
      exact .endNewSubscription replacing
    next => cases one
  next answer =>
    unfold LogSubscription.blockNumber at one
    cases answer with
    | none =>
      dsimp only at one
      split at one
      next calling =>
        cases one
        exact .callFails calling
      next asking =>
        cases one
        exact .askFails asking
      next => cases one
    | some currentBlock =>
      dsimp only at one
      split at one
      next calling =>
        cases one
        exact .call calling
      next asking =>
        split at one
        next reached =>
          cases one
          exact .upToDate asking reached
        next ahead =>
          cases one
          exact .ask asking (BitVec.not_le.mp ahead)
      next => cases one
  next ok =>
    unfold LogSubscription.subscribe at one
    cases ok with
    | true =>
      split at one
      next subscribing =>
        cases one
        exact .subscribe subscribing
      next resubscribing =>
        cases one
        exact .resubscribe resubscribing
      next => cases one
    | false =>
      split at one
      next subscribing =>
        cases one
        exact .subscribeFails subscribing
      next resubscribing =>
        cases one
        exact .resubscribeFails resubscribing
      next => cases one
  next =>
    split at one
    next selecting waiting =>
      cases one
      exact .takeLog selecting waiting
    next => cases one
  next =>
    obtain ⟨selecting, done⟩ := Option.ite_none_right_eq_some.mp one
    cases done
    exact .resub selecting
  next =>
    split at one
    next replacing =>
      cases one
      exact .setUnderlyingSub replacing
    next => cases one
  next answer =>
    split at one
    next filtering =>
      cases one
      exact .filterFails filtering
    next filtering =>
      cases one
      exact .filterLogs filtering
    next => cases one
  next =>
    split at one
    next forwarding =>
      cases one
      exact .forward forwarding
    next => cases one
  next =>
    split at one
    next forwarding =>
      cases one
      exact .finishResub forwarding
    next => cases one
  next =>
    obtain ⟨selecting, done⟩ := Option.ite_none_right_eq_some.mp one
    cases done
    exact .stop selecting

theorem guardedRun_of_steps {guard : LogSubscription Digest → LogEvent → Prop}
    [∀ state event, Decidable (guard state event)] {history events : List LogEvent}
    (run : (logSubscriptions client).GuardedRun guard history state)
    (done : events.foldlM (fun state event => if guard state event then state.step client event else none) state =
      some after) : (logSubscriptions client).GuardedRun guard (history ++ events) after :=
  System.GuardedRun.of_foldlM (fun _ _ _ one => Option.ite_none_right_eq_some.mp one) run done

theorem run_of_steps {history events : List LogEvent} (run : (logSubscriptions client).Run history state)
    (done : events.foldlM (LogSubscription.step client) state = some after) :
    (logSubscriptions client).Run (history ++ events) after :=
  System.GuardedRun.of_foldlM (fun _ _ _ one => ⟨trivial, one⟩) run done

theorem receive_of_mem {log : Log} (cached : client.hashLog log ∈ state.logCache.keys) :
    state.receive client log = state := by
  simp only [LogSubscription.receive, Lru.containsOrAdd_of_mem cached]

theorem receive_of_not_mem {log : Log} (absent : client.hashLog log ∉ state.logCache.keys) :
    state.receive client log = { state with
      logCache := state.logCache.add (client.hashLog log) absent
      lastBlock := maxBlock state.lastBlock log.blockNumber
      ch := state.ch ++ [log] } := by
  simp only [LogSubscription.receive, Lru.containsOrAdd_of_not_mem absent]

end Client

end Sffl.Safeclient
