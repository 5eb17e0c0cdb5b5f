import Sffl.Safeclient.CatchUp
import Sffl.Safeclient.Duplicates

/-! The block that a resubscription starts from.

A log is missing if it was mined after the subscription was made and is neither
sent nor waiting in `proxyC`. Nothing below `lastBlock` may be missing, since no
later query asks for it. Queries after a resubscription find what was missed; if
they are left out or fail, the next live log moves `lastBlock` past it.
-/

set_option autoImplicit false

namespace Sffl.Safeclient

open Sffl.Evm Sffl.Golang Sffl.Semantics

section Client
variable {Digest : Type} {client : SafeEthClient Digest}

/-! ## The node -/

variable (client) in
/-- There are no reorganisations, queries are answered from the chain, underlying subscriptions deliver what is mined
in order, the head is within range and an `int64`, and no two logs collide. -/
def Honest (state : LogSubscription Digest) : LogEvent → Prop
  | .mine logs => ∀ log ∈ logs, log.blockNumber.toNat = state.head + 1
  | .deliver log => state.mined[state.underlying.next]? = some log
  | .deliverNew log =>
    match state.loop with
    | .replacing newSub => state.mined[newSub.next]? = some log
    | _ => True
  | .blockNumber answer => ∀ currentBlock ∈ answer, currentBlock.toNat = state.head ∧
      (state.loop = .asking → currentBlock.toNat < state.lastBlock.toNat + client.blockMaxRange.toNat ∧
        currentBlock.toNat < 2 ^ 63)
  | .filterLogs answer =>
    match state.loop with
    | .filtering fromBlock currentBlock _ =>
      ∀ logs ∈ answer, logs = state.mined.filter fun log => (client.query fromBlock currentBlock).Selects log
    | _ => True
  | event => ∀ log ∈ state.received event, ∀ sent ∈ state.ch, client.hashLog sent = client.hashLog log → sent = log

def LogSubscription.Accounted (state : LogSubscription Digest) (log : Log) : Prop := log ∈ state.ch ∨ log ∈ state.proxyC

def NothingMissing (state : LogSubscription Digest) (count : Nat) : Prop :=
  ∀ log ∈ state.mined.take count, state.initialBlock < log.blockNumber → state.Accounted log

/-- Where the logs mined before an underlying subscription are not asked for, none of them is missing. -/
def CaughtUp (state : LogSubscription Digest) : LogEvent → Prop
  | .subscribe ok => ok = true → state.loop = .subscribing → NothingMissing state state.mined.length
  | .blockNumber none => state.loop = .asking → NothingMissing state state.gap
  | .blockNumber (some currentBlock) =>
    state.loop = .asking → currentBlock ≤ state.lastBlock → NothingMissing state state.gap
  | .filterLogs none => NothingMissing state state.gap
  | _ => True

/-! ## Invariants -/

/-- Up to this position every log is accounted for, but for those of the gap. -/
structure Reach (state : LogSubscription Digest) (position : Nat) : Prop where
  inside : position ≤ state.mined.length
  accounted : ∀ log ∈ state.mined.take position, state.initialBlock < log.blockNumber →
    state.Accounted log ∨ log ∈ state.mined.take state.gap

structure Query (state : LogSubscription Digest) (fromBlock currentBlock : Nat) (missedLogs : List Log) : Prop where
  current : currentBlock ≤ state.head
  gap : ∀ log ∈ state.mined.take state.gap, log.blockNumber.toNat ≤ currentBlock
  found : ∀ log ∈ state.mined, state.initialBlock < log.blockNumber → log.blockNumber.toNat < fromBlock →
    log.blockNumber.toNat ≤ currentBlock → state.Accounted log ∨ log ∈ missedLogs
  missed : ∀ log ∈ missedLogs, log ∈ state.mined ∧ log.blockNumber.toNat ≤ currentBlock
  /-- Logs of lower blocks come first. -/
  ordered : ∀ position log, missedLogs[position]? = some log → ∀ other ∈ state.mined,
    state.initialBlock < other.blockNumber → other.blockNumber < log.blockNumber →
    state.Accounted other ∨ other ∈ missedLogs.take position

structure Unstarted (state : LogSubscription Digest) : Prop where
  closed : state.gap = 0
  quiet : state.underlying.live = false
  drained : state.proxyC = []
  level : state.lastBlock = state.initialBlock

def LoopSound (state : LogSubscription Digest) : LogLoop → Prop
  | .calling => Unstarted state
  | .subscribing => Unstarted state
  | .replacing newSub => Reach state newSub.next
  | .asking => True
  | .filtering fromBlock currentBlock missedLogs =>
    fromBlock ≤ currentBlock ∧ currentBlock.toNat < 2 ^ 63 ∧ Query state fromBlock.toNat currentBlock.toNat missedLogs
  | .forwarding currentBlock missedLogs => Query state (currentBlock.toNat + 1) currentBlock.toNat missedLogs
  | _ => state.gap = 0

structure Core (state : LogSubscription Digest) : Prop where
  chain : Chain state.head state.mined
  last : state.lastBlock.toNat ≤ state.head
  gap : state.gap ≤ state.mined.length
  proxy : ∀ log ∈ state.proxyC, log ∈ state.mined
  below : ∀ log ∈ state.mined, state.initialBlock < log.blockNumber → log.blockNumber < state.lastBlock →
    state.Accounted log
  waiting : ∀ queued ∈ state.proxyC, ∀ log ∈ state.mined, state.initialBlock < log.blockNumber →
    log.blockNumber < queued.blockNumber → state.Accounted log ∨ log ∈ state.mined.take state.gap

structure Sound (state : LogSubscription Digest) : Prop where
  core : Core state
  reach : Reach state state.underlying.next
  loop : LoopSound state state.loop

/-! ## Steps that leave the chain alone -/

structure Later (state after : LogSubscription Digest) : Prop where
  mined : after.mined = state.mined
  head : after.head = state.head
  initialBlock : after.initialBlock = state.initialBlock
  gap : after.gap = state.gap
  accounted : ∀ log, state.Accounted log → after.Accounted log

variable {state after : LogSubscription Digest}

theorem Reach.later {position : Nat} (reach : Reach state position) (later : Later state after) : Reach after position := by
  refine ⟨later.mined ▸ reach.inside, ?_⟩
  rw [later.mined, later.initialBlock, later.gap]
  exact fun log member new => (reach.accounted log member new).imp_left (later.accounted log)

theorem Query.later {fromBlock currentBlock : Nat} {missedLogs : List Log}
    (query : Query state fromBlock currentBlock missedLogs) (later : Later state after) :
    Query after fromBlock currentBlock missedLogs := by
  refine ⟨later.head ▸ query.current, ?_, ?_, ?_, ?_⟩
  · rw [later.mined, later.gap]
    exact query.gap
  · rw [later.mined, later.initialBlock]
    exact fun log member new low inside => (query.found log member new low inside).imp_left (later.accounted log)
  · rw [later.mined]
    exact query.missed
  · rw [later.mined, later.initialBlock]
    intro position log here other member new low
    exact (query.ordered position log here other member new low).imp_left (later.accounted other)

def LogLoop.starting : LogLoop → Bool
  | .calling => true
  | .subscribing => true
  | _ => false

theorem LoopSound.later {loop : LogLoop} (sound : LoopSound state loop) (later : Later state after)
    (unstarted : loop.starting = true → Unstarted state → Unstarted after) : LoopSound after loop := by
  cases loop with
  | calling => exact unstarted rfl sound
  | subscribing => exact unstarted rfl sound
  | replacing => exact Reach.later sound later
  | asking => trivial
  | filtering => exact ⟨sound.1, sound.2.1, sound.2.2.later later⟩
  | forwarding => exact Query.later sound later
  | selecting => exact later.gap.trans sound
  | resubscribing => exact later.gap.trans sound
  | ended => exact later.gap.trans sound

/-! ## A log is delivered -/

theorem mem_take_of_lt {position : Nat} {logs : List Log} {log other : Log}
    (ascending : logs.Pairwise fun earlier later => earlier.blockNumber.toNat ≤ later.blockNumber.toNat)
    (here : logs[position]? = some log) (member : other ∈ logs) (lower : other.blockNumber < log.blockNumber) :
    other ∈ logs.take position := by
  obtain ⟨index, there⟩ := List.mem_iff_getElem?.mp member
  have before : index < position := by
    obtain ⟨inside, rfl⟩ := List.getElem?_eq_some_iff.mp here
    obtain ⟨inside', rfl⟩ := List.getElem?_eq_some_iff.mp there
    apply Decidable.byContradiction
    intro notBefore
    rcases Nat.lt_or_eq_of_le (Nat.not_lt.mp notBefore) with later | rfl
    · have ascends := List.pairwise_iff_getElem.mp ascending position index inside inside' later
      exact absurd ascends (Nat.not_le.mpr lower)
    · exact Nat.lt_irrefl _ lower
  exact List.mem_iff_getElem?.mpr ⟨index, by rw [List.getElem?_take_of_lt before, there]⟩

section Deliver
variable {log : Log} (underlying : Feed) (loop : LogLoop)

theorem later_deliver (log : Log) : Later state { state with proxyC := state.proxyC ++ [log], underlying, loop } :=
  ⟨rfl, rfl, rfl, rfl, fun _ => Or.imp_right (List.mem_append_left _)⟩

variable {position : Nat} (here : state.mined[position]? = some log)
include here

theorem Reach.deliver (reach : Reach state position) :
    Reach { state with proxyC := state.proxyC ++ [log], underlying, loop } (position + 1) := by
  have before := reach.later (later_deliver underlying loop log)
  obtain ⟨inside, same⟩ := List.getElem?_eq_some_iff.mp here
  refine ⟨inside, fun other member new => ?_⟩
  rw [List.take_succ_eq_append_getElem inside, List.mem_append, List.mem_singleton] at member
  rcases member with old | rfl
  · exact before.accounted other old new
  · exact .inl (.inr (same ▸ List.mem_append_right _ (List.mem_singleton_self _)))

theorem Core.deliver (core : Core state) (reach : Reach state position) :
    Core { state with proxyC := state.proxyC ++ [log], underlying, loop } := by
  have later := @later_deliver _ state underlying loop log
  refine { core with proxy := fun other member => ?_, below := fun other member new low => ?_, waiting := ?_ }
  · rcases List.mem_append.mp member with old | new
    · exact core.proxy other old
    · cases List.mem_singleton.mp new
      exact List.mem_of_getElem? here
  · exact later.accounted other (core.below other member new low)
  · intro queued member other mined new low
    rcases List.mem_append.mp member with old | last
    · exact (core.waiting queued old other mined new low).imp_left (later.accounted other)
    · cases List.mem_singleton.mp last
      exact (reach.accounted other (mem_take_of_lt core.chain.ascending here mined low) new).imp_left (later.accounted other)

end Deliver

/-! ## A block is mined -/

section Mine
variable {logs : List Log} (honest : ∀ log ∈ logs, log.blockNumber.toNat = state.head + 1)
include honest

theorem Chain.mine (chain : Chain state.head state.mined) : Chain (state.head + 1) (state.mined ++ logs) where
  ascending := by
    refine List.pairwise_append.mpr ⟨chain.ascending, ?_, fun earlier old later new => ?_⟩
    · refine List.pairwise_of_forall_mem_list fun earlier first later second => ?_
      exact Nat.le_of_eq ((honest earlier first).trans (honest later second).symm)
    · have low := chain.reached earlier old
      have high := honest later new
      omega
  reached log member := by
    rcases List.mem_append.mp member with old | new
    · exact Nat.le_succ_of_le (chain.reached log old)
    · exact Nat.le_of_eq (honest log new)

theorem mem_of_mine {log : Log} (member : log ∈ state.mined ++ logs) (low : log.blockNumber.toNat ≤ state.head) :
    log ∈ state.mined := by
  -- what is said about logs of lower blocks is not about the new ones
  rcases List.mem_append.mp member with old | new
  · exact old
  · have high := honest log new
    omega

omit honest in
theorem Reach.mine {position : Nat} (gap : state.gap ≤ state.mined.length) (reach : Reach state position) :
    Reach { state with head := state.head + 1, mined := state.mined ++ logs } position := by
  refine ⟨Nat.le_trans reach.inside (by simp), ?_⟩
  dsimp only
  rw [List.take_append_of_le_length reach.inside, List.take_append_of_le_length gap]
  exact reach.accounted

theorem Query.mine {fromBlock currentBlock : Nat} {missedLogs : List Log} (gap : state.gap ≤ state.mined.length)
    (query : Query state fromBlock currentBlock missedLogs) :
    Query { state with head := state.head + 1, mined := state.mined ++ logs } fromBlock currentBlock missedLogs := by
  refine ⟨Nat.le_succ_of_le query.current, ?_, fun log member new low inside => ?_, ?_, ?_⟩
  · dsimp only
    rw [List.take_append_of_le_length gap]
    exact query.gap
  · have old := mem_of_mine honest member (Nat.le_trans inside query.current)
    exact query.found log old new low inside
  · exact fun log member => (query.missed log member).imp_left (List.mem_append_left _)
  · intro position log here other member new low
    have inside := (query.missed log (List.mem_of_getElem? here)).2
    have lower := Nat.le_of_lt (BitVec.lt_def.mp low)
    have old := mem_of_mine honest member (Nat.le_trans lower (Nat.le_trans inside query.current))
    exact query.ordered position log here other old new low

theorem LoopSound.mine {loop : LogLoop} (gap : state.gap ≤ state.mined.length) (sound : LoopSound state loop) :
    LoopSound { state with head := state.head + 1, mined := state.mined ++ logs } loop := by
  cases loop with
  | calling => exact { (sound : Unstarted state) with }
  | subscribing => exact { (sound : Unstarted state) with }
  | replacing => exact Reach.mine gap sound
  | asking => trivial
  | filtering => exact ⟨sound.1, sound.2.1, sound.2.2.mine honest gap⟩
  | forwarding => exact Query.mine honest gap sound
  | selecting => exact sound
  | resubscribing => exact sound
  | ended => exact sound

theorem Sound.mine (sound : Sound state) :
    Sound { state with head := state.head + 1, mined := state.mined ++ logs } := by
  have core := sound.core
  refine ⟨⟨core.chain.mine honest, Nat.le_succ_of_le core.last, ?_, ?_, fun log member new low => ?_, ?_⟩,
    sound.reach.mine core.gap, ?_⟩
  · exact Nat.le_trans core.gap (by simp)
  · exact fun log member => List.mem_append_left _ (core.proxy log member)
  · have old := mem_of_mine honest member (Nat.le_trans (Nat.le_of_lt low) core.last)
    exact core.below log old new low
  · intro queued member log mined new low
    have reached := core.chain.reached queued (core.proxy queued member)
    have old := mem_of_mine honest mined (Nat.le_trans (Nat.le_of_lt low) reached)
    dsimp only
    rw [List.take_append_of_le_length core.gap]
    exact core.waiting queued member log old new low
  · exact sound.loop.mine honest core.gap

end Mine

/-! ## A gap is opened and closed -/

theorem reach_openGap {position : Nat} (inside : position ≤ state.mined.length) (loop : LogLoop) :
    Reach { state with loop, gap := state.mined.length } position := by
  refine ⟨inside, fun log member _ => .inr ?_⟩
  dsimp only
  rw [List.take_length]
  exact List.mem_of_mem_take member

theorem Core.openGap (core : Core state) (loop : LogLoop) : Core { state with loop, gap := state.mined.length } := by
  refine { core with gap := Nat.le_refl _, waiting := fun queued member log mined new low => .inr ?_ }
  dsimp only
  rw [List.take_length]
  exact mined

theorem Reach.settle {position : Nat} (reach : Reach state position) (nothing : NothingMissing state state.gap)
    (loop : LogLoop) : Reach { state with loop, gap := 0 } position := by
  refine ⟨reach.inside, fun log member new => .inl ?_⟩
  exact (reach.accounted log member new).elim id fun missed => nothing log missed new

theorem Core.settle (core : Core state) (nothing : NothingMissing state state.gap) (loop : LogLoop) :
    Core { state with loop, gap := 0 } := by
  refine { core with gap := Nat.zero_le _, waiting := fun queued member log mined new low => .inl ?_ }
  exact (core.waiting queued member log mined new low).elim id fun missed => nothing log missed new

theorem Sound.resubbed (sound : Sound state) (nothing : NothingMissing state state.gap) : Sound state.resubbed :=
  ⟨sound.core.settle nothing .selecting, sound.reach.settle nothing .selecting, rfl⟩

/-! ## Queries -/

section Words
variable {fromBlock currentBlock : Uint 64} {missedLogs : List Log} (small : currentBlock.toNat < 2 ^ 63)
include small

theorem Core.firstQuery (core : Core state) (current : currentBlock.toNat = state.head)
    (inRange : currentBlock.toNat < state.lastBlock.toNat + client.blockMaxRange.toNat) :
    Query state (client.firstBlock state.lastBlock currentBlock).toNat currentBlock.toNat [] := by
  have first := @firstBlock_toNat client.toLogFilteringParams state.lastBlock _ small
  -- all lower blocks have been asked for, or never have to be
  refine ⟨current.le, fun log member => ?_, fun log member new low _ => .inl ?_, nofun, nofun⟩
  · exact current ▸ core.chain.reached log (List.mem_of_mem_take member)
  · refine core.below log member new (BitVec.lt_def.mpr ?_)
    have above : state.initialBlock.toNat < log.blockNumber.toNat := new
    omega

theorem Query.loop (query : Query state fromBlock.toNat currentBlock.toNat missedLogs) :
    LoopSound state (.query fromBlock currentBlock missedLogs) := by
  unfold LogLoop.query
  split
  · next inside => exact ⟨inside, small, query⟩
  · next past =>
    refine { query with found := fun log member new _ inside => ?_ }
    exact query.found log member new (Nat.lt_of_le_of_lt inside (Nat.not_le.mp past)) inside

theorem selects_query (inside : fromBlock ≤ currentBlock) (log : Log) :
    (client.query fromBlock currentBlock).Selects log ↔ fromBlock.toNat ≤ log.blockNumber.toNat ∧
      log.blockNumber.toNat ≤ (fromBlock + client.blockChunkSize - 1).toNat ∧
      log.blockNumber.toNat ≤ currentBlock.toNat := by
  have stop : (client.toBlock fromBlock currentBlock).toNat =
      min (fromBlock + client.blockChunkSize - 1).toNat currentBlock.toNat := minBlock_toNat _ _
  simp only [query_eq small inside, FilterQuery.Selects]
  omega

theorem Query.next (chain : Chain state.head state.mined) (inside : fromBlock ≤ currentBlock)
    (query : Query state fromBlock.toNat currentBlock.toNat missedLogs) :
    Query state (fromBlock + client.blockChunkSize).toNat currentBlock.toNat
      (missedLogs ++ state.mined.filter fun log => (client.query fromBlock currentBlock).Selects log) := by
  have selects := @selects_query _ client _ _ small inside
  refine { query with found := ?_, missed := ?_, ordered := ?_ }
  · -- if the next start has wrapped, it is below this one
    intro log member new low within
    by_cases asked : log.blockNumber.toNat < fromBlock.toNat
    · exact (query.found log member new asked within).imp_right (List.mem_append_left _)
    · refine .inr (List.mem_append_right _ (List.mem_filter.mpr ⟨member, decide_eq_true ?_⟩))
      exact (selects log).mpr ⟨Nat.not_lt.mp asked, by bv_omega, within⟩
  · intro log member
    rcases List.mem_append.mp member with old | new
    · exact query.missed log old
    · obtain ⟨mined, asked⟩ := List.mem_filter.mp new
      exact ⟨mined, ((selects log).mp (of_decide_eq_true asked)).2.2⟩
  · intro position log here other member new low
    rcases Nat.lt_or_ge position missedLogs.length with old | past
    · rw [List.getElem?_append_left old] at here
      rw [List.take_append_of_le_length (Nat.le_of_lt old)]
      exact query.ordered position log here other member new low
    · rw [List.getElem?_append_right past] at here
      rw [List.take_append, List.take_of_length_le past]
      have asked := (selects log).mp (of_decide_eq_true (List.mem_filter.mp (List.mem_of_getElem? here)).2)
      have lower : other.blockNumber.toNat < log.blockNumber.toNat := low
      by_cases before : other.blockNumber.toNat < fromBlock.toNat
      · exact (query.found other member new before (by omega)).imp_right (List.mem_append_left _)
      · refine .inr (List.mem_append_right _ (mem_take_of_lt (chain.ascending.filter _) here ?_ low))
        refine List.mem_filter.mpr ⟨member, decide_eq_true ?_⟩
        exact (selects other).mpr ⟨Nat.not_lt.mp before, by omega, by omega⟩

end Words

theorem Query.sent {fromBlock currentBlock : Nat} {log : Log} {missedLogs : List Log}
    (query : Query state fromBlock currentBlock (log :: missedLogs)) (accounted : state.Accounted log) :
    Query state fromBlock currentBlock missedLogs := by
  have rest {other : Log} {logs : List Log} : state.Accounted other ∨ other ∈ log :: logs →
      state.Accounted other ∨ other ∈ logs := by
    rintro (before | missed)
    · exact .inl before
    · rcases List.mem_cons.mp missed with rfl | rest
      · exact .inl accounted
      · exact .inr rest
  refine { query with found := fun other member new low inside => ?_, missed := ?_, ordered := ?_ }
  · exact rest (query.found other member new low inside)
  · exact fun other member => query.missed other (List.mem_cons_of_mem log member)
  · intro position later here other member new low
    exact rest (query.ordered (position + 1) later here other member new low)

theorem Query.done {currentBlock : Nat} (query : Query state (currentBlock + 1) currentBlock []) :
    NothingMissing state state.gap := by
  intro log member new
  have inside := query.gap log member
  have found := query.found log (List.mem_of_mem_take member) new (Nat.lt_succ_of_le inside) inside
  exact found.resolve_right List.not_mem_nil

/-! ## A log is received -/

variable [DecidableEq Digest] {event : LogEvent} {history : List LogEvent}

section Receive
variable {log : Log} {proxyC : List Log} (loop : LogLoop) (remembers : state.logCache.Remembers (state.sent client))
  (distinct : ∀ sent ∈ state.ch, client.hashLog sent = client.hashLog log → sent = log)
  (kept : ∀ other ∈ state.proxyC, other = log ∨ other ∈ proxyC)
include remembers distinct kept

omit kept in
theorem sent_receive : log ∈ ({ state with proxyC, loop }.receive client log).ch := by
  by_cases cached : client.hashLog log ∈ state.logCache.keys
  · obtain ⟨sent, member, same⟩ := List.mem_map.mp (List.mem_reverse.mp (remembers.mem cached))
    rw [@receive_of_mem _ client _ { state with proxyC, loop } log cached]
    exact distinct sent member same ▸ member
  · rw [@receive_of_not_mem _ client _ { state with proxyC, loop } log cached]
    exact List.mem_append_right _ (List.mem_singleton_self _)

omit remembers distinct kept in
theorem receive_eq (state : LogSubscription Digest) (log : Log) :
    ∃ logCache lastBlock sent, lastBlock ≤ maxBlock state.lastBlock log.blockNumber ∧
      state.receive client log = { state with logCache, lastBlock, ch := state.ch ++ sent } := by
  by_cases cached : client.hashLog log ∈ state.logCache.keys
  · refine ⟨state.logCache, state.lastBlock, [], ?_, ?_⟩
    · exact BitVec.le_def.mpr (maxBlock_toNat _ _ ▸ Nat.le_max_left _ _)
    · rw [receive_of_mem cached, List.append_nil]
  · exact ⟨_, _, [log], BitVec.le_refl _, receive_of_not_mem cached⟩

theorem later_receive : Later state ({ state with proxyC, loop }.receive client log) := by
  have sent := @sent_receive _ client state _ log proxyC loop remembers distinct
  obtain ⟨_, _, more, _, received⟩ := @receive_eq _ client _ { state with proxyC, loop } log
  rw [received] at sent ⊢
  refine ⟨rfl, rfl, rfl, rfl, fun other accounted => ?_⟩
  rcases accounted with before | waiting
  · exact .inl (List.mem_append_left more before)
  · rcases kept other waiting with rfl | still
    · exact .inl sent
    · exact .inr still

theorem Sound.receive (sound : Sound state) (fewer : ∀ other ∈ proxyC, other ∈ state.proxyC) (member : log ∈ state.mined)
    (ahead : ∀ other ∈ state.mined, state.initialBlock < other.blockNumber → other.blockNumber < log.blockNumber →
      state.Accounted other)
    (next : LoopSound ({ state with proxyC, loop }.receive client log) loop) :
    Sound ({ state with proxyC, loop }.receive client log) := by
  have core := sound.core
  have later := later_receive loop remembers distinct kept
  obtain ⟨_, lastBlock, more, low, received⟩ := @receive_eq _ client _ { state with proxyC, loop } log
  rw [received] at later next ⊢
  have low : lastBlock.toNat ≤ max state.lastBlock.toNat log.blockNumber.toNat := maxBlock_toNat _ _ ▸ low
  refine ⟨⟨core.chain, ?_, core.gap, ?_, ?_, ?_⟩, sound.reach.later later, next⟩
  · exact Nat.le_trans low (Nat.max_le.mpr ⟨core.last, core.chain.reached log member⟩)
  · exact fun other waiting => core.proxy other (fewer other waiting)
  · intro other mined new below
    apply later.accounted
    rcases lt_max_iff.mp (Nat.lt_of_lt_of_le below low) with below | below
    · exact core.below other mined new below
    · exact ahead other mined new below
  · intro queued waiting other mined new below
    exact (core.waiting queued (fewer queued waiting) other mined new below).imp_left (later.accounted other)

end Receive

/-! ## Whole runs -/

omit [DecidableEq Digest] in
theorem Sound.move (sound : Sound state) (loop : LogLoop) (underlying : Feed) (reach : Reach state underlying.next)
    (next : LoopSound state loop) (quiet : loop.starting = true → Unstarted state → underlying.live = false) :
    Sound { state with loop, underlying } := by
  have later : Later state { state with loop, underlying } := ⟨rfl, rfl, rfl, rfl, fun _ => id⟩
  exact ⟨{ sound.core with }, reach.later later,
    next.later later fun starting unstarted => { unstarted with quiet := quiet starting unstarted }⟩

omit [DecidableEq Digest] in
/-- Once it has begun, nothing is asked of the underlying subscription but its position. -/
theorem Sound.moveOn (sound : Sound state) (loop : LogLoop) (underlying : Feed) (reach : Reach state underlying.next)
    (next : LoopSound state loop) (begun : loop.starting = false) : Sound { state with loop, underlying } :=
  sound.move loop underlying reach next fun starting => absurd (begun.symm.trans starting) Bool.false_ne_true

theorem Sound.step (sound : Sound state) (remembers : state.logCache.Remembers (state.sent client))
    (honest : Honest client state event) (caughtUp : CaughtUp state event) (step : LogStep client state event after) :
    Sound after := by
  have core := sound.core
  have loop := sound.loop
  cases step with
  | mine logs => exact sound.mine honest
  | deliver live =>
    refine ⟨core.deliver _ _ honest sound.reach, sound.reach.deliver _ _ honest, ?_⟩
    refine loop.later (later_deliver _ _ _) fun _ unstarted => ?_
    exact absurd (unstarted.quiet.symm.trans live) Bool.false_ne_true
  | @deliverNew log newSub replacing live =>
    rw [replacing] at loop
    have here : state.mined[newSub.next]? = some log := by simpa only [Honest, replacing] using honest
    exact ⟨core.deliver _ _ here loop, sound.reach.later (later_deliver _ _ _), Reach.deliver _ _ here loop⟩
  | endSubscription => exact sound.move _ _ sound.reach loop fun _ _ => rfl
  | endNewSubscription replacing =>
    rw [replacing] at loop
    exact sound.moveOn (.replacing _) _ sound.reach loop rfl
  | @call currentBlock calling =>
    rw [calling] at loop
    have unstarted : Unstarted state := loop
    obtain ⟨current, _⟩ := honest currentBlock rfl
    have old : ∀ log ∈ state.mined, ¬ currentBlock < log.blockNumber :=
      fun log member => Nat.not_lt.mpr (current ▸ core.chain.reached log member)
    refine ⟨{ core with last := current.le, below := ?_, waiting := ?_ }, ⟨sound.reach.inside, ?_⟩,
      { unstarted with level := rfl }⟩
    · exact fun log member new => absurd new (old log member)
    · exact fun _ _ log member new => absurd new (old log member)
    · exact fun log member new => absurd new (old log (List.mem_of_mem_take member))
  | callFails calling =>
    rw [calling] at loop
    exact sound.moveOn .ended _ sound.reach (Unstarted.closed loop) rfl
  | @ask currentBlock asking ahead =>
    obtain ⟨current, room⟩ := honest currentBlock rfl
    obtain ⟨inRange, small⟩ := room asking
    exact sound.move _ _ sound.reach ((core.firstQuery small current inRange).loop small) fun _ => Unstarted.quiet
  | upToDate asking reached => exact sound.resubbed (caughtUp asking reached)
  | askFails asking => exact sound.resubbed (caughtUp asking)
  | subscribe subscribing =>
    rw [subscribing] at loop
    have nothing := caughtUp rfl subscribing
    have reach : Reach state state.mined.length := ⟨Nat.le_refl _, fun log member new => .inl (nothing log member new)⟩
    exact sound.moveOn .selecting ⟨state.mined.length, true⟩ reach (Unstarted.closed loop) rfl
  | subscribeFails subscribing =>
    rw [subscribing] at loop
    exact sound.moveOn .ended _ sound.reach (Unstarted.closed loop) rfl
  | resubscribe resubscribing =>
    exact ⟨core.openGap _, reach_openGap sound.reach.inside _, reach_openGap (Nat.le_refl _) _⟩
  | resubscribeFails resubscribing =>
    rw [resubscribing] at loop
    exact sound.moveOn .selecting _ sound.reach loop rfl
  | @takeLog log proxyC selecting waiting =>
    rw [selecting] at loop
    have distinct := honest log (by simp [LogSubscription.received, selecting, waiting])
    have kept : ∀ other ∈ state.proxyC, other = log ∨ other ∈ proxyC := fun other => by simp [waiting]
    have later := later_receive state.loop remembers distinct kept
    refine sound.receive state.loop remembers distinct kept ?_ ?_ ?_ ?_
    · exact fun other member => waiting ▸ List.mem_cons_of_mem log member
    · exact core.proxy log (waiting ▸ List.mem_cons_self)
    · intro other mined new low
      have accounted := core.waiting log (waiting ▸ List.mem_cons_self) other mined new low
      rw [(loop : state.gap = 0)] at accounted
      exact accounted.resolve_right List.not_mem_nil
    · rw [selecting] at later ⊢
      exact later.gap.trans loop
  | resub selecting =>
    rw [selecting] at loop
    exact sound.moveOn .resubscribing _ sound.reach loop rfl
  | setUnderlyingSub replacing =>
    rw [replacing] at loop
    exact sound.moveOn .asking _ loop trivial rfl
  | @filterLogs fromBlock currentBlock missedLogs logs filtering =>
    rw [filtering] at loop
    simp only [Honest, filtering] at honest
    cases honest logs rfl
    obtain ⟨inside, small, query⟩ := loop
    exact sound.move _ _ sound.reach ((query.next small core.chain inside).loop small) fun _ => Unstarted.quiet
  | filterFails => exact sound.resubbed caughtUp
  | @forward currentBlock log missedLogs forwarding =>
    rw [forwarding] at loop
    have query : Query state (currentBlock.toNat + 1) currentBlock.toNat (log :: missedLogs) := loop
    obtain ⟨mined, inside⟩ := query.missed log List.mem_cons_self
    have distinct := honest log (by simp [LogSubscription.received, forwarding])
    have later := later_receive (.forwarding currentBlock missedLogs) remembers distinct fun _ => .inr
    have sent := @sent_receive _ client state _ log state.proxyC (.forwarding currentBlock missedLogs) remembers distinct
    refine sound.receive _ remembers distinct (fun _ => .inr) (fun _ => id) mined ?_ ((query.later later).sent (.inl sent))
    intro other member new low
    exact (query.ordered 0 log rfl other member new low).resolve_right List.not_mem_nil
  | finishResub forwarding =>
    rw [forwarding] at loop
    exact sound.resubbed (Query.done loop)
  | stop selecting =>
    rw [selecting] at loop
    exact sound.moveOn .ended _ sound.reach loop rfl

/-- While the logs mined before an underlying subscription are asked for, or none of them is missing, every log in a
block below `lastBlock` has been sent or is waiting. -/
theorem lastBlock_sound_of_caughtUp (run : (logSubscriptions client).GuardedRun
      (fun state event => Honest client state event ∧ CaughtUp state event) history state) :
    ∀ log ∈ state.mined, state.initialBlock < log.blockNumber → log.blockNumber < state.lastBlock →
      log ∈ state.ch ∨ log ∈ state.proxyC := by
  have sound : Sound state := by
    induction run with
    | start initial =>
      obtain ⟨head, mined, chain, rfl⟩ := initial
      exact ⟨⟨chain, Nat.zero_le _, Nat.zero_le _, nofun, nofun, nofun⟩, ⟨Nat.zero_le _, nofun⟩, ⟨rfl, rfl, rfl, rfl⟩⟩
    | next run guard one ih =>
      have remembers := remembers_of_run (run.mono fun _ _ _ => trivial)
      exact ih.step remembers guard.1 guard.2 (logStep_of_step one)
  exact sound.core.below

/-! ## Computed runs -/

instance (state : LogSubscription Digest) (event : LogEvent) : Decidable (Honest client state event) := by
  cases event with
  | blockNumber answer => exact Option.decidableForallMem answer
  | _ => dsimp only [Honest]; (try split) <;> infer_instance

instance (state : LogSubscription Digest) (count : Nat) : Decidable (NothingMissing state count) :=
  inferInstanceAs (Decidable (∀ log ∈ state.mined.take count, state.initialBlock < log.blockNumber →
    log ∈ state.ch ∨ log ∈ state.proxyC))

instance (state : LogSubscription Digest) (event : LogEvent) : Decidable (CaughtUp state event) := by
  cases event with
  | blockNumber answer => cases answer <;> dsimp only [CaughtUp] <;> infer_instance
  | filterLogs answer => cases answer <;> dsimp only [CaughtUp] <;> infer_instance
  | _ => dsimp only [CaughtUp]; infer_instance

end Client

def logAt (blockNumber : Uint 64) : Log := ⟨0, [], [UInt8.ofNat blockNumber.toNat], blockNumber, 0, 0, 0⟩

def interruptedEvents : List LogEvent :=
  [.blockNumber (some 0), .subscribe true, .endSubscription, .mine [logAt 1], .resub, .subscribe true, .setUnderlyingSub]

def liveEvents : List LogEvent := [.mine [logAt 2], .deliver (logAt 2), .takeLog]

def caughtUpEvents : List LogEvent :=
  interruptedEvents ++ [.blockNumber (some 1), .filterLogs (some [logAt 1]), .forward, .finishResub] ++ liveEvents

theorem lastBlock_sound_of_caughtUp_interrupted :
    ∃ state, (logSubscriptions plainClient).GuardedRun
        (fun state event => Honest plainClient state event ∧ CaughtUp state event) caughtUpEvents state ∧
      logAt 1 ∈ state.mined ∧ state.initialBlock < 1 ∧ 1 < state.lastBlock ∧
      (logAt 1 ∈ state.ch ∨ logAt 1 ∈ state.proxyC) := by
  have run : (logSubscriptions plainClient).GuardedRun
      (fun state event => Honest plainClient state event ∧ CaughtUp state event) caughtUpEvents _ :=
    @guardedRun_of_steps _ plainClient _ (newLogSubscription Bytes 0 []) _ _ inferInstance [] caughtUpEvents
      (.start ⟨0, [], ⟨.nil, nofun⟩, rfl⟩) rfl
  have mined : logAt 1 ∈ [logAt 1, logAt 2] := List.mem_cons_self
  exact ⟨_, run, mined, Nat.zero_lt_one, Nat.one_lt_two,
    lastBlock_sound_of_caughtUp run (logAt 1) mined Nat.zero_lt_one Nat.one_lt_two⟩

/-- An underlying subscription ends only after it has delivered all that was mined. -/
def DeliversAll {Digest : Type} (state : LogSubscription Digest) : LogEvent → Prop
  | .endSubscription => state.underlying.live = true → state.underlying.next = state.mined.length
  | .endNewSubscription =>
    match state.loop with
    | .replacing newSub => newSub.live = true → newSub.next = state.mined.length
    | _ => True
  | .setUnderlyingSub => state.underlying.live = true → state.underlying.next = state.mined.length
  | .stop => state.underlying.live = true → state.underlying.next = state.mined.length
  | _ => True

instance {Digest : Type} (state : LogSubscription Digest) (event : LogEvent) : Decidable (DeliversAll state event) := by
  cases event <;> dsimp only [DeliversAll] <;> (try split) <;> infer_instance

def overlookedEvents : List LogEvent := interruptedEvents ++ [.blockNumber none] ++ liveEvents

theorem overlooked_log_missing :
    ∃ state, (logSubscriptions plainClient).GuardedRun
        (fun state event => Honest plainClient state event ∧ DeliversAll state event) overlookedEvents state ∧
      logAt 1 ∈ state.mined ∧ state.initialBlock < 1 ∧ 1 < state.lastBlock ∧
      ¬ (logAt 1 ∈ state.ch ∨ logAt 1 ∈ state.proxyC) := by
  have run : (logSubscriptions plainClient).GuardedRun
      (fun state event => Honest plainClient state event ∧ DeliversAll state event) overlookedEvents _ :=
    @guardedRun_of_steps _ plainClient _ (newLogSubscription Bytes 0 []) _ _ inferInstance [] overlookedEvents
      (.start ⟨0, [], ⟨.nil, nofun⟩, rfl⟩) rfl
  have mined : logAt 1 ∈ [logAt 1, logAt 2] := List.mem_cons_self
  exact ⟨_, run, mined, Nat.zero_lt_one, Nat.one_lt_two, by decide⟩

end Sffl.Safeclient
