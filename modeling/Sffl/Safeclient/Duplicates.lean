import Sffl.Safeclient.Logs

/-! Logs that are passed on twice.

The cache knows the last hundred logs that were passed on. A log that comes again
after more than that is taken for a new one.
-/

set_option autoImplicit false

namespace Sffl.Safeclient

open Sffl.Evm Sffl.Golang Sffl.Semantics

section Client
variable {Digest : Type} {client : SafeEthClient Digest}

variable (client) in
/-- The hashes of what was passed on, last first. -/
def LogSubscription.sent (state : LogSubscription Digest) : List Digest := (state.ch.map client.hashLog).reverse

variable (client) in
/-- A log that was passed on comes again only while it is among the last hundred. -/
def RepeatsSoon (state : LogSubscription Digest) (event : LogEvent) : Prop :=
  ∀ log, state.received event = some log → client.hashLog log ∈ state.sent client →
    client.hashLog log ∈ (state.sent client).take cacheSize

variable [DecidableEq Digest] {state after : LogSubscription Digest} {event : LogEvent} {history : List LogEvent}

variable (state) in
theorem receive_sent (remembers : state.logCache.Remembers (state.sent client)) (log : Log) :
    (state.receive client log).logCache.Remembers ((state.receive client log).sent client) ∧
      (state.receive client log).sent client =
        if client.hashLog log ∈ (state.sent client).take cacheSize then state.sent client
        else client.hashLog log :: state.sent client := by
  rw [← (remembers : state.logCache.keys = _)]
  by_cases cached : client.hashLog log ∈ state.logCache.keys
  · rw [receive_of_mem cached, if_pos cached]
    exact ⟨remembers, rfl⟩
  · rw [receive_of_not_mem cached, if_neg cached]
    have sent : (((state.ch ++ [log]).map client.hashLog).reverse) = client.hashLog log :: state.sent client := by
      simp [LogSubscription.sent]
    refine ⟨?_, sent⟩
    rw [LogSubscription.sent, sent]
    exact remembers.add cached

theorem sent_step (remembers : state.logCache.Remembers (state.sent client)) (step : LogStep client state event after) :
    after.logCache.Remembers (after.sent client) ∧
      after.sent client = match state.received event with
        | none => state.sent client
        | some log =>
          if client.hashLog log ∈ (state.sent client).take cacheSize then state.sent client
          else client.hashLog log :: state.sent client := by
  cases step with
  | @takeLog log proxyC selecting waiting =>
    have received : state.received .takeLog = some log := by simp [LogSubscription.received, selecting, waiting]
    rw [received]
    exact receive_sent { state with proxyC } remembers log
  | @forward currentBlock log missedLogs forwarding =>
    have received : state.received .forward = some log := by simp [LogSubscription.received, forwarding]
    rw [received]
    exact receive_sent { state with loop := .forwarding currentBlock missedLogs } remembers log
  | _ => exact ⟨remembers, rfl⟩

theorem remembers_of_run (run : (logSubscriptions client).Run history state) :
    state.logCache.Remembers (state.sent client) := by
  refine run.invariant (fun _ state => state.logCache.Remembers (state.sent client)) ?_ ?_
  · rintro _ ⟨head, mined, _, rfl⟩
    exact Lru.remembers_empty
  · exact fun _ _ _ _ remembers _ one => (sent_step remembers (logStep_of_step one)).1

/-- A step sends a hash for the second time exactly if a log comes again too late. -/
theorem nodup_step (remembers : state.logCache.Remembers (state.sent client)) (step : LogStep client state event after) :
    (after.sent client).Nodup ↔ (state.sent client).Nodup ∧ RepeatsSoon client state event := by
  rw [(sent_step remembers step).2]
  cases received : state.received event with
  | none => simp [RepeatsSoon, received]
  | some log =>
    by_cases recent : client.hashLog log ∈ (state.sent client).take cacheSize
    · simp [RepeatsSoon, received, recent]
    · simp [RepeatsSoon, received, recent, and_comm]

/-- What is passed on has no hash twice exactly if every log that comes again comes while it is among the last hundred
that were passed on. -/
theorem no_duplicates_iff (run : (logSubscriptions client).Run history state) :
    (state.ch.map client.hashLog).Nodup ↔ (logSubscriptions client).GuardedRun (RepeatsSoon client) history state := by
  rw [← List.nodup_reverse]
  refine run.iff_guardedRun (fun state => (state.sent client).Nodup) ?_ ?_
  · rintro _ ⟨head, mined, _, rfl⟩
    exact List.nodup_nil
  · exact fun run one => nodup_step (remembers_of_run run) (logStep_of_step one)

/-! ## A log that comes again -/

def passOn (logs : List Log) : List LogEvent := logs.flatMap fun log => [.deliver log, .takeLog]

theorem passOn_fresh {logs : List Log} (selecting : state.loop = .selecting) (drained : state.proxyC = [])
    (live : state.underlying.live = true) (remembers : state.logCache.Remembers (state.sent client))
    (fresh : (logs.map client.hashLog).Nodup) (unseen : ∀ log ∈ logs, client.hashLog log ∉ state.sent client)
    {block : Uint 64} (reached : state.lastBlock ≤ block) (within : ∀ log ∈ logs, log.blockNumber ≤ block) :
    ∃ after, (passOn logs).foldlM (LogSubscription.step client) state = some after ∧
      after.loop = .selecting ∧ after.ch = state.ch ++ logs ∧ after.lastBlock ≤ block := by
  induction logs generalizing state with
  | nil => exact ⟨state, rfl, selecting, (List.append_nil _).symm, reached⟩
  | cons log logs ih =>
    obtain ⟨new, fresh⟩ := List.nodup_cons.mp fresh
    obtain ⟨unseenHere, unseen⟩ := List.forall_mem_cons.mp unseen
    obtain ⟨withinHere, within⟩ := List.forall_mem_cons.mp within
    have absent : client.hashLog log ∉ state.logCache.keys := fun cached => unseenHere (remembers.mem cached)
    let delivered : LogSubscription Digest :=
      { state with underlying := { state.underlying with next := state.underlying.next + 1 } }
    let taken : LogSubscription Digest := { delivered with
      logCache := state.logCache.add (client.hashLog log) absent
      lastBlock := maxBlock state.lastBlock log.blockNumber
      ch := state.ch ++ [log] }
    have received : delivered.receive client log = taken :=
      @receive_of_not_mem _ client _ delivered log absent
    have passed : [.deliver log, .takeLog].foldlM (LogSubscription.step client) state = some taken := by
      rw [← received]
      simp [LogSubscription.step, live, drained, selecting, proxySize, delivered]
    have sent : taken.sent client = client.hashLog log :: state.sent client := by
      simp [LogSubscription.sent, taken]
    have unseenAfter : ∀ other ∈ logs, client.hashLog other ∉ taken.sent client := by
      intro other member
      rw [sent]
      refine List.not_mem_cons_of_ne_of_not_mem (fun same => new ?_) (unseen other member)
      exact same ▸ List.mem_map_of_mem member
    have remembersAfter : taken.logCache.Remembers (taken.sent client) := sent ▸ remembers.add absent
    obtain ⟨after, rest, selectingAfter, ch, low⟩ :=
      @ih taken selecting drained live remembersAfter fresh unseenAfter (maxBlock_le reached withinHere) within
    refine ⟨after, ?_, selectingAfter, ?_, low⟩
    · rw [passOn, List.flatMap_cons, List.foldlM_append, passed]
      exact rest
    · rw [ch, List.append_assoc]
      rfl

end Client

/-! ## A block with a hundred and one logs -/

def plainClient : SafeEthClient Bytes where
  sha256 := id
  encodeRLP _ _ data := data
  blockChunkSize := 100
  blockMaxRange := 100

def crowdedLog (index : Nat) : Log := ⟨0, [], [UInt8.ofNat index], 1, 0, 0, index⟩

def crowdedBlock : List Log := (List.range 101).map crowdedLog

theorem crowdedBlock_fresh : (crowdedBlock.map plainClient.hashLog).Nodup := by
  rw [crowdedBlock, List.map_map]
  refine List.Nodup.map_on ?_ List.nodup_range
  intro first small second small' same
  have bytes : UInt8.ofNat first = UInt8.ofNat second := (List.cons.inj same).1
  have residues : first % 256 = second % 256 := by simpa using congrArg UInt8.toNat bytes
  rw [List.mem_range] at small small'
  omega

def crowdedEvents : List LogEvent :=
  [.blockNumber (some 0), .subscribe true, .mine crowdedBlock] ++ passOn crowdedBlock

def refetchEvents : List LogEvent :=
  [.mine [], .resub, .subscribe true, .setUnderlyingSub, .blockNumber (some 2), .filterLogs (some crowdedBlock)]

theorem crowded_run : ∃ state, (logSubscriptions plainClient).Run crowdedEvents state ∧
    state.loop = .selecting ∧ state.ch = crowdedBlock ∧ state.lastBlock ≤ 1 := by
  let subscribed : LogSubscription Bytes := { newLogSubscription Bytes 0 [] with
    loop := .selecting
    underlying := ⟨0, true⟩
    head := 1
    mined := crowdedBlock }
  have start : (logSubscriptions plainClient).Run
      ([] ++ [.blockNumber (some 0), .subscribe true, .mine crowdedBlock]) subscribed :=
    run_of_steps (.start ⟨0, [], ⟨.nil, nofun⟩, rfl⟩) rfl
  obtain ⟨passed, passes, selecting, ch, low⟩ := @passOn_fresh _ plainClient _ subscribed crowdedBlock rfl rfl rfl
    Lru.remembers_empty crowdedBlock_fresh nofun 1 (Nat.zero_le 1) (by simp [crowdedBlock, crowdedLog])
  exact ⟨passed, run_of_steps start passes, selecting, ch, low⟩

theorem no_duplicates_iff_crowded : ∃ state, (logSubscriptions plainClient).Run crowdedEvents state ∧
    state.ch = crowdedBlock ∧ (logSubscriptions plainClient).GuardedRun (RepeatsSoon plainClient) crowdedEvents state := by
  obtain ⟨state, run, _, ch, _⟩ := crowded_run
  exact ⟨state, run, ch, (no_duplicates_iff run).mp (ch ▸ crowdedBlock_fresh)⟩

theorem refetch_run : ∃ state, (logSubscriptions plainClient).Run (crowdedEvents ++ refetchEvents) state ∧
    state.loop = .forwarding 2 crowdedBlock ∧ state.ch = crowdedBlock := by
  obtain ⟨passed, run, selecting, ch, low⟩ := crowded_run
  have behind : ¬ 2#64 ≤ passed.lastBlock := by bv_omega
  have first : plainClient.firstBlock passed.lastBlock 2#64 = 1#64 := by
    obtain same | same : passed.lastBlock = 0 ∨ passed.lastBlock = 1 := by bv_omega
    all_goals rw [same]; decide
  have past : ¬ 1#64 + plainClient.blockChunkSize ≤ 2#64 := by decide
  have asks : refetchEvents.foldlM (LogSubscription.step plainClient) passed = some { passed with
      loop := .forwarding 2 crowdedBlock
      underlying := ⟨passed.mined.length, true⟩
      head := passed.head + 1
      gap := passed.mined.length } := by
    simp [refetchEvents, LogSubscription.step, LogSubscription.subscribe, LogSubscription.blockNumber, LogLoop.query,
      selecting, behind, first, past]
  exact ⟨_, run_of_steps run asks, rfl, ch⟩

/-- The first log of the block has left the cache when the block is asked for again. -/
theorem refetched_log_sent_twice :
    ∃ state, (logSubscriptions plainClient).Run (crowdedEvents ++ refetchEvents ++ [.forward]) state ∧
      ¬ (state.ch.map plainClient.hashLog).Nodup := by
  obtain ⟨refetched, run, forwarding, ch⟩ := refetch_run
  let others : List Log := (List.range 100).map fun index => crowdedLog (index + 1)
  have block : crowdedBlock = crowdedLog 0 :: others := by
    rw [crowdedBlock, List.range_succ_eq_map, List.map_cons, List.map_map]
    rfl
  rw [block] at forwarding
  have one : refetched.step plainClient .forward =
      some ({ refetched with loop := .forwarding 2 others }.receive plainClient (crowdedLog 0)) := by
    simp only [LogSubscription.step, forwarding]
  refine ⟨_, run.next trivial one, fun distinct => ?_⟩
  have soon := (nodup_step (remembers_of_run run) (logStep_of_step one)).mp (List.nodup_reverse.mpr distinct) |>.2
  have sent : refetched.sent plainClient =
      (others.map plainClient.hashLog).reverse ++ [plainClient.hashLog (crowdedLog 0)] := by
    rw [LogSubscription.sent, ch, block, List.map_cons, List.reverse_cons]
  have recent : (refetched.sent plainClient).take cacheSize = (others.map plainClient.hashLog).reverse := by
    rw [sent]
    exact List.take_left' (by simp [others, cacheSize])
  have again := soon (crowdedLog 0) (by simp [LogSubscription.received, forwarding]) (by simp [sent])
  rw [recent, List.mem_reverse] at again
  have fresh := crowdedBlock_fresh
  rw [block, List.map_cons] at fresh
  exact (List.nodup_cons.mp fresh).1 again

end Sffl.Safeclient
