import Sffl.Aggregator.Broadcast

/-! The order in which updates reach a rollup.

An update that gets the writer's lock out of turn is dropped. As long as reads
and transactions succeed, the next id of a rollup is therefore determined by the
order in which the goroutines took the lock of its writer, and no update is lost
exactly if that is the order of the ids.
-/

set_option autoImplicit false

namespace Sffl.Aggregator

open Sffl.Evm Sffl.Rollup Sffl.Semantics

/-! ## Ids that are served in turn -/

/-- The next id after requests that are served only in turn. -/
def served (next : Nat) (ids : List Nat) : Nat :=
  ids.foldl (fun next id => if id = next then next + 1 else next) next

theorem served_concat (next : Nat) (ids : List Nat) (id : Nat) :
    served next (ids ++ [id]) = if id = served next ids then served next ids + 1 else served next ids :=
  List.foldl_concat ..

theorem served_le (next : Nat) (ids : List Nat) : served next ids ≤ next + ids.length := by
  induction ids using List.reverseRecOn with
  | nil => exact Nat.le_refl _
  | append_singleton ids id ih =>
    rw [served_concat, List.length_append, List.length_singleton]
    split <;> omega

theorem served_eq_iff (next : Nat) (ids : List Nat) :
    served next ids = next + ids.length ↔ ids = List.range' next ids.length := by
  induction ids using List.reverseRecOn with
  | nil => exact iff_of_true rfl rfl
  | append_singleton ids id ih =>
    have bound := served_le next ids
    rw [served_concat, List.length_append, List.length_singleton, List.range'_concat, Nat.one_mul]
    constructor
    · intro all
      split at all
      next here =>
        have before : served next ids = next + ids.length := by omega
        rw [← ih.mp before, here, before]
      next => omega
    · intro turns
      obtain ⟨earlier, last⟩ := List.append_inj' turns rfl
      have before := ih.mpr earlier
      rw [before, if_pos (List.singleton_inj.mp last)]
      omega

/-! ## What one rollup sees -/

section View
variable (rollupId : Uint 32)

def WriterUpdate.waitsFor (update : WriterUpdate) : Bool :=
  decide (update.rollupId = rollupId ∧ update.stage = .locking)

def WriterUpdate.holds (update : WriterUpdate) : Bool :=
  decide (update.rollupId = rollupId ∧ update.stage ≠ .locking)

def holders (state : RollupBroadcaster) : List WriterUpdate := state.updates.filter (WriterUpdate.holds rollupId)

/-- The goroutines that wait for the writer's lock or are still to be started. -/
def queued (state : RollupBroadcaster) : Nat :=
  state.updates.countP (WriterUpdate.waitsFor rollupId) + state.loops.countP fun loop => rollupId ∈ loop.writers

structure Unseen (state after : RollupBroadcaster) : Prop where
  registry : after.registries rollupId = state.registries rollupId
  lock : after.operatorSetUpdateLock rollupId = state.operatorSetUpdateLock rollupId
  holders : holders rollupId after = holders rollupId state
  queued : queued rollupId after ≤ queued rollupId state

end View

variable {rollupId : Uint 32} {state after : RollupBroadcaster} {update : WriterUpdate}

theorem holds_iff : update.holds rollupId = true ↔ update.rollupId = rollupId ∧ update.stage ≠ .locking :=
  decide_eq_true_iff

theorem waitsFor_iff : update.waitsFor rollupId = true ↔ update.rollupId = rollupId ∧ update.stage = .locking :=
  decide_eq_true_iff

theorem mem_holders : update ∈ holders rollupId state ↔
    update ∈ state.updates ∧ update.rollupId = rollupId ∧ update.stage ≠ .locking := by
  rw [holders, List.mem_filter, holds_iff]

variable (rollupId state update) in
theorem filter_replaced (news : List WriterUpdate) :
    (news ++ state.updates.erase update).filter (WriterUpdate.holds rollupId) =
      news.filter (WriterUpdate.holds rollupId) ++ (holders rollupId state).erase update := by
  rw [List.filter_append, holders, List.erase_filter]

variable (state) in
theorem holders_continueAt {stage : UpdateStage} (own : update.rollupId = rollupId) (unlocking : stage ≠ .locking) :
    holders rollupId (state.continueAt update stage) = { update with stage } :: (holders rollupId state).erase update := by
  have holds : ({ update with stage } : WriterUpdate).holds rollupId = true := holds_iff.mpr ⟨own, unlocking⟩
  have replaced := filter_replaced rollupId state update [{ update with stage }]
  rw [List.filter_cons_of_pos holds] at replaced
  exact replaced

theorem countP_replaced {news : List WriterUpdate} (waitless : ∀ new ∈ news, new.waitsFor rollupId = false) :
    (news ++ state.updates.erase update).countP (WriterUpdate.waitsFor rollupId) ≤
      state.updates.countP (WriterUpdate.waitsFor rollupId) := by
  rw [List.countP_append, List.countP_eq_zero.mpr fun new member => by simp [waitless new member], Nat.zero_add]
  exact List.erase_sublist.countP_le

theorem unseen_of_foreign (news : List WriterUpdate) (foreign : update.rollupId ≠ rollupId)
    (others : ∀ new ∈ news, new.rollupId = update.rollupId)
    (registry : after.registries rollupId = state.registries rollupId)
    (lock : after.operatorSetUpdateLock rollupId = state.operatorSetUpdateLock rollupId)
    (loops : after.loops = state.loops) (updates : after.updates = news ++ state.updates.erase update) :
    Unseen rollupId state after := by
  refine ⟨registry, lock, ?_, ?_⟩
  · have unheld : update ∉ holders rollupId state := fun member => foreign (mem_holders.mp member).2.1
    rw [holders, updates, filter_replaced, List.erase_of_not_mem unheld, List.filter_eq_nil_iff.mpr]
    · rfl
    · intro new member held
      exact foreign ((others new member).symm.trans (holds_iff.mp held).1)
  · unfold queued
    rw [loops, updates]
    refine Nat.add_le_add_right (countP_replaced fun new member => ?_) _
    exact Bool.eq_false_iff.mpr fun waits => foreign ((others new member).symm.trans (waitsFor_iff.mp waits).1)

theorem continueAt_unseen (foreign : update.rollupId ≠ rollupId) (stage : UpdateStage) :
    Unseen rollupId state (state.continueAt update stage) :=
  unseen_of_foreign [{ update with stage }] foreign (by simp) rfl rfl rfl rfl

theorem returnFrom_unseen (foreign : update.rollupId ≠ rollupId) (error : Option String) :
    Unseen rollupId state (state.returnFrom update error) := by
  refine unseen_of_foreign _ foreign ?_ rfl (Function.update_of_ne foreign.symm ..) rfl rfl
  intro new member
  obtain ⟨text, _, rfl⟩ := List.mem_map.mp member
  rfl

theorem lock_unseen (foreign : update.rollupId ≠ rollupId) : Unseen rollupId state (state.lock update) :=
  unseen_of_foreign [{ update with stage := .reading 0 }] foreign (by simp) rfl
    (Function.update_of_ne foreign.symm ..) rfl rfl

theorem Unseen.trans {last : RollupBroadcaster} (first : Unseen rollupId state after)
    (second : Unseen rollupId after last) : Unseen rollupId state last :=
  ⟨second.registry.trans first.registry, second.lock.trans first.lock, second.holders.trans first.holders,
    second.queued.trans first.queued⟩

theorem wake_unseen (foreign : update.rollupId ≠ rollupId) (i : Nat) (contextError : Option String) :
    Unseen rollupId state (state.wake update i contextError) := by
  unfold RollupBroadcaster.wake
  cases contextError with
  | some error => exact returnFrom_unseen foreign _
  | none =>
    dsimp only
    split
    · exact continueAt_unseen foreign _
    · exact returnFrom_unseen foreign _

theorem read_unseen (foreign : update.rollupId ≠ rollupId) (i : Nat) (answered : Bool) :
    Unseen rollupId state (state.read update i answered) := by
  unfold RollupBroadcaster.read
  split
  · exact continueAt_unseen foreign _
  · split
    · exact returnFrom_unseen foreign _
    · exact continueAt_unseen foreign _

section Chain
variable {G : Type} [AddCommGroup G] {evm : Precompiles G} {writers : List (Uint 32)}

theorem mine_unseen (foreign : update.rollupId ≠ rollupId) : Unseen rollupId state (state.mine evm update) :=
  ⟨Function.update_of_ne foreign.symm .., rfl, rfl, Nat.le_refl _⟩

theorem send_unseen (foreign : update.rollupId ≠ rollupId) (i : Nat) (result : SendResult) :
    Unseen rollupId state (state.send evm update i result) := by
  cases result with
  | failed => exact continueAt_unseen foreign _
  | unconfirmed => exact (mine_unseen foreign).trans (continueAt_unseen foreign _)
  | confirmed => exact (mine_unseen foreign).trans (returnFrom_unseen foreign _)

end Chain

/-! ## Turns at the lock -/

/-- The lock of the writer is free, or one goroutine holds it, which is the last
in the order and has not been served yet. -/
inductive Turn (rollupId : Uint 32) (start : Nat) (order : List Nat) (state : RollupBroadcaster) : Prop where
  | free (unlocked : state.operatorSetUpdateLock rollupId = false) (holders : holders rollupId state = [])
      (next : (state.registries rollupId).nextOperatorUpdateId.toNat = served start order)
  | held (update : WriterUpdate) (earlier : List Nat) (locked : state.operatorSetUpdateLock rollupId = true)
      (holders : holders rollupId state = [update]) (last : order = earlier ++ [update.broadcast.message.id.toNat])
      (next : (state.registries rollupId).nextOperatorUpdateId.toNat = served start earlier)
      (stage : (∃ i, update.stage = .reading i) ∨ ∃ i, update.stage = .sending i)

structure InTurns (rollupId : Uint 32) (start : Nat) (history : List BroadcastEvent) (state : RollupBroadcaster) :
    Prop where
  distinct : ∀ loop ∈ state.loops, loop.writers.Nodup
  counted : (lockOrder rollupId history).length + queued rollupId state ≤ (broadcastIds history).length
  turn : Turn rollupId start (lockOrder rollupId history) state

section Turns
variable {start : Nat} {order : List Nat}

theorem Turn.congr (turn : Turn rollupId start order state)
    (registry : after.registries rollupId = state.registries rollupId)
    (lock : after.operatorSetUpdateLock rollupId = state.operatorSetUpdateLock rollupId)
    (holders : holders rollupId after = holders rollupId state) : Turn rollupId start order after := by
  cases turn with
  | free unlocked none next => exact .free (lock.trans unlocked) (holders.trans none) (registry ▸ next)
  | held update earlier locked held last next stage =>
    exact .held update earlier (lock.trans locked) (holders.trans held) last (registry ▸ next) stage

theorem Turn.of_holder (turn : Turn rollupId start order state) (member : update ∈ holders rollupId state) :
    ∃ earlier, holders rollupId state = [update] ∧ order = earlier ++ [update.broadcast.message.id.toNat] ∧
      (state.registries rollupId).nextOperatorUpdateId.toNat = served start earlier ∧
      state.operatorSetUpdateLock rollupId = true ∧
      ((∃ i, update.stage = .reading i) ∨ ∃ i, update.stage = .sending i) := by
  cases turn with
  | free _ none _ =>
    rw [none] at member
    cases member
  | held holder earlier locked held last next stage =>
    rw [held] at member
    obtain rfl := List.mem_singleton.mp member
    exact ⟨earlier, held, last, next, locked, stage⟩

theorem queued_replaced (news : List WriterUpdate) (waitless : ∀ new ∈ news, new.waitsFor rollupId = false)
    (loops : after.loops = state.loops) (updates : after.updates = news ++ state.updates.erase update) :
    queued rollupId after ≤ queued rollupId state := by
  unfold queued
  rw [loops, updates]
  exact Nat.add_le_add_right (countP_replaced waitless) _

theorem Turn.lock (turn : Turn rollupId start order state) (own : update.rollupId = rollupId)
    (unlocked : state.operatorSetUpdateLock rollupId = false) :
    Turn rollupId start (order ++ [update.broadcast.message.id.toNat]) (state.lock update) := by
  cases turn with
  | held _ _ locked => exact absurd (unlocked.symm.trans locked) Bool.false_ne_true
  | free _ none next =>
    refine .held { update with stage := .reading 0 } order ?_ ?_ rfl next (Or.inl ⟨0, rfl⟩)
    · rw [← own]
      exact Function.update_self ..
    · have past : UpdateStage.reading 0 ≠ .locking := nofun
      have replaced := holders_continueAt state own past
      rw [none, List.erase_nil] at replaced
      exact replaced

theorem queued_lock (own : update.rollupId = rollupId) (locking : update.stage = .locking)
    (member : update ∈ state.updates) : queued rollupId (state.lock update) + 1 ≤ queued rollupId state := by
  have waits : update.waitsFor rollupId = true := waitsFor_iff.mpr ⟨own, locking⟩
  have past : ({ update with stage := .reading 0 } : WriterUpdate).waitsFor rollupId = false :=
    Bool.eq_false_iff.mpr fun again => nomatch (waitsFor_iff.mp again).2
  have some : 0 < state.updates.countP (WriterUpdate.waitsFor rollupId) := List.countP_pos_iff.mpr ⟨update, member, waits⟩
  simp only [queued, RollupBroadcaster.lock, RollupBroadcaster.continueAt, List.countP_cons, past, List.countP_erase,
    member, waits]
  simp only [true_and, if_true, Bool.false_eq_true, if_false]
  omega

theorem Turn.continue {earlier : List Nat} {stage : UpdateStage} (held : holders rollupId state = [update])
    (own : update.rollupId = rollupId) (locked : state.operatorSetUpdateLock rollupId = true)
    (next : (state.registries rollupId).nextOperatorUpdateId.toNat = served start earlier)
    (past : (∃ i, stage = .reading i) ∨ ∃ i, stage = .sending i) :
    Turn rollupId start (earlier ++ [update.broadcast.message.id.toNat]) (state.continueAt update stage) := by
  refine .held { update with stage } earlier locked ?_ rfl next past
  have unlocking : stage ≠ .locking := by
    rintro rfl
    rcases past with ⟨_, same⟩ | ⟨_, same⟩ <;> cases same
  rw [holders_continueAt state own unlocking, held, List.erase_cons_head]

theorem Turn.return (held : holders rollupId state = [update]) (own : update.rollupId = rollupId)
    (next : (state.registries rollupId).nextOperatorUpdateId.toNat = served start order) :
    Turn rollupId start order (state.returnFrom update none) := by
  refine .free ?_ ?_ next
  · rw [← own]
    exact Function.update_self ..
  · have replaced := filter_replaced rollupId state update []
    rw [held, List.erase_cons_head] at replaced
    exact replaced

theorem queued_continueAt {stage : UpdateStage} (unlocking : stage ≠ .locking) :
    queued rollupId (state.continueAt update stage) ≤ queued rollupId state := by
  refine queued_replaced [{ update with stage }] ?_ rfl rfl
  intro new member
  rw [List.mem_singleton.mp member]
  exact Bool.eq_false_iff.mpr fun waits => unlocking (waitsFor_iff.mp waits).2

theorem queued_returnFrom_none : queued rollupId (state.returnFrom update none) ≤ queued rollupId state :=
  queued_replaced [] nofun rfl rfl

theorem Turn.read (turn : Turn rollupId start order state) (own : update.rollupId = rollupId) {i : Nat}
    (reading : update.stage = .reading i) (member : update ∈ state.updates) :
    Turn rollupId start order (state.read update i true) ∧
      queued rollupId (state.read update i true) ≤ queued rollupId state := by
  have past : update.stage ≠ .locking := by simp [reading]
  obtain ⟨earlier, held, rfl, next, locked, _⟩ := turn.of_holder (mem_holders.mpr ⟨member, own, past⟩)
  unfold RollupBroadcaster.read
  rw [if_neg (by decide)]
  split
  next different =>
    -- the update is dropped, and the next id stays
    have out_of_turn : update.broadcast.message.id.toNat ≠ served start earlier := by
      rw [← next, ← own]
      exact fun same => different (BitVec.toNat_inj.mp same)
    refine ⟨Turn.return held own ?_, queued_returnFrom_none⟩
    rw [served_concat, if_neg out_of_turn, next]
  next same => exact ⟨Turn.continue held own locked next (Or.inr ⟨i, rfl⟩), queued_continueAt nofun⟩

theorem Turn.send {G : Type} [AddCommGroup G] {evm : Precompiles G} (turn : Turn rollupId start order state)
    (own : update.rollupId = rollupId) {i : Nat} (sending : update.stage = .sending i) (member : update ∈ state.updates)
    (accepted : (updateOperatorSet evm (state.registries update.rollupId) update.broadcast.message
      update.broadcast.signatureInfo).isOk = true) :
    Turn rollupId start order (state.send evm update i .confirmed) ∧
      queued rollupId (state.send evm update i .confirmed) ≤ queued rollupId state := by
  have past : update.stage ≠ .locking := by simp [sending]
  obtain ⟨earlier, held, rfl, next, locked, _⟩ := turn.of_holder (mem_holders.mpr ⟨member, own, past⟩)
  refine ⟨Turn.return held own ?_, queued_returnFrom_none⟩
  subst own
  cases executed : updateOperatorSet evm (state.registries update.rollupId) update.broadcast.message
      update.broadcast.signatureInfo with
  | error =>
    rw [executed] at accepted
    cases accepted
  | ok registry =>
    obtain ⟨in_turn, advanced, _⟩ := updateOperatorSet_eq_ok executed
    rw [served_concat, if_pos (by rw [in_turn, next]), ← next]
    simp only [RollupBroadcaster.mine, executed, settle, Function.update_self]
    exact advanced

theorem lockOrder_concat (history : List BroadcastEvent) (event : BroadcastEvent) :
    lockOrder rollupId (history ++ [event]) = lockOrder rollupId history ++ lockOrder rollupId [event] :=
  List.filterMap_append

theorem broadcastIds_concat (history : List BroadcastEvent) (event : BroadcastEvent) :
    broadcastIds (history ++ [event]) = broadcastIds history ++ broadcastIds [event] :=
  List.filterMap_append

/-- A step that neither locks the writer nor broadcasts. -/
theorem InTurns.keep {history : List BroadcastEvent} {event : BroadcastEvent}
    (turns : InTurns rollupId start history state) (loops : ∀ loop ∈ after.loops, loop.writers.Nodup)
    (silent : lockOrder rollupId [event] = []) (queued : queued rollupId after ≤ queued rollupId state)
    (turn : Turn rollupId start (lockOrder rollupId history) after) :
    InTurns rollupId start (history ++ [event]) after := by
  refine ⟨loops, ?_, ?_⟩
  · rw [lockOrder_concat, silent, List.append_nil, broadcastIds_concat, List.length_append]
    exact (Nat.add_le_add_left queued _).trans (turns.counted.trans (Nat.le_add_right _ _))
  · rw [lockOrder_concat, silent, List.append_nil]
    exact turn

theorem InTurns.unseen {history : List BroadcastEvent} {event : BroadcastEvent}
    (turns : InTurns rollupId start history state) (unseen : Unseen rollupId state after)
    (loops : after.loops = state.loops) (silent : lockOrder rollupId [event] = []) :
    InTurns rollupId start (history ++ [event]) after :=
  turns.keep (loops ▸ turns.distinct) silent unseen.queued (turns.turn.congr unseen.registry unseen.lock unseen.holders)

theorem iterate_unseen {loop : WriterLoop} (member : loop ∈ state.loops) (distinct : loop.writers.Nodup) (done : Bool) :
    Unseen rollupId state (state.iterate loop done) := by
  -- an iteration turns a goroutine that is still to be started into one that waits, or gives it up
  have given_up : Unseen rollupId state { state with loops := state.loops.erase loop } :=
    ⟨rfl, rfl, rfl, Nat.add_le_add_left List.erase_sublist.countP_le _⟩
  obtain ⟨broadcast, writers⟩ := loop
  unfold RollupBroadcaster.iterate
  cases writers with
  | nil => exact given_up
  | cons writer writers =>
    cases done with
    | true => exact given_up
    | false =>
      have waits : ¬ (WriterUpdate.mk writer broadcast .locking).holds rollupId = true :=
        fun holds => (holds_iff.mp holds).2 rfl
      refine ⟨rfl, rfl, List.filter_cons_of_neg waits, ?_⟩
      have absent := (List.nodup_cons.mp distinct).1
      simp only [queued, Bool.false_eq_true, if_false, List.countP_cons, List.countP_erase, member, true_and,
        decide_eq_true_iff, List.mem_cons, waitsFor_iff, and_true]
      by_cases own : writer = rollupId
      · subst own
        have some : 0 < state.loops.countP fun loop => writer ∈ loop.writers :=
          List.countP_pos_iff.mpr ⟨_, member, by simp⟩
        simp only [absent, true_or, if_true, if_false]
        omega
      · by_cases later : rollupId ∈ writers
        · have some : 0 < state.loops.countP fun loop => rollupId ∈ loop.writers :=
            List.countP_pos_iff.mpr ⟨_, member, by simp [later]⟩
          simp only [own, later, or_true, if_true, if_false]
          omega
        · simp only [own, later, or_false, if_false]
          omega

theorem iterate_distinct {loop : WriterLoop} (distinct : ∀ loop ∈ state.loops, loop.writers.Nodup)
    (member : loop ∈ state.loops) (done : Bool) :
    ∀ other ∈ (state.iterate loop done).loops, other.writers.Nodup := by
  have others : ∀ other ∈ state.loops.erase loop, other.writers.Nodup :=
    fun other remaining => distinct other (List.mem_of_mem_erase remaining)
  obtain ⟨broadcast, writers⟩ := loop
  unfold RollupBroadcaster.iterate
  cases writers with
  | nil => exact others
  | cons writer writers =>
    cases done with
    | true => exact others
    | false => exact List.forall_mem_cons.mpr ⟨(List.nodup_cons.mp (distinct _ member)).2, others⟩

theorem read_loops (i : Nat) (answered : Bool) : (state.read update i answered).loops = state.loops := by
  unfold RollupBroadcaster.read
  split
  · rfl
  · split <;> rfl

theorem wake_loops (i : Nat) (contextError : Option String) : (state.wake update i contextError).loops = state.loops := by
  unfold RollupBroadcaster.wake
  cases contextError with
  | some error => rfl
  | none =>
    dsimp only
    split <;> rfl

variable {G : Type} [AddCommGroup G] {evm : Precompiles G} {writers : List (Uint 32)} {history : List BroadcastEvent}
  {event : BroadcastEvent}

theorem send_loops (i : Nat) (result : SendResult) : (state.send evm update i result).loops = state.loops := by
  cases result <;> rfl

theorem InTurns.broadcast (turns : InTurns rollupId start history state) (distinct : writers.Nodup)
    (broadcast : Broadcast) :
    InTurns rollupId start (history ++ [.broadcastOperatorSetUpdate broadcast])
      { state with loops := ⟨broadcast, writers⟩ :: state.loops } := by
  refine ⟨List.forall_mem_cons.mpr ⟨distinct, turns.distinct⟩, ?_, ?_⟩
  · have counted := turns.counted
    rw [lockOrder_concat, broadcastIds_concat]
    simp only [queued, List.countP_cons, lockOrder, broadcastIds, List.filterMap_cons, List.filterMap_nil,
      List.length_append, List.length_nil, List.length_singleton] at counted ⊢
    split <;> omega
  · rw [lockOrder_concat]
    exact (List.append_nil (lockOrder rollupId history)).symm ▸ turns.turn.congr rfl rfl rfl

theorem InTurns.lock (turns : InTurns rollupId start history state) (member : update ∈ state.updates)
    (locking : update.stage = .locking) (unlocked : state.operatorSetUpdateLock update.rollupId = false) :
    InTurns rollupId start (history ++ [.lock update]) (state.lock update) := by
  by_cases own : update.rollupId = rollupId
  · subst own
    have one : lockOrder update.rollupId [.lock update] = [update.broadcast.message.id.toNat] := by simp [lockOrder]
    have counted := turns.counted
    have fewer := queued_lock rfl locking member
    refine ⟨turns.distinct, ?_, ?_⟩
    · rw [lockOrder_concat, one, broadcastIds_concat, List.length_append, List.length_append, List.length_singleton]
      omega
    · rw [lockOrder_concat, one]
      exact turns.turn.lock rfl unlocked
  · exact turns.unseen (lock_unseen own) rfl (by simp [lockOrder, own])

theorem InTurns.read (turns : InTurns rollupId start history state) (member : update ∈ state.updates) {i : Nat}
    (reading : update.stage = .reading i) :
    InTurns rollupId start (history ++ [.read update true]) (state.read update i true) := by
  by_cases own : update.rollupId = rollupId
  · obtain ⟨turn, fewer⟩ := turns.turn.read own reading member
    exact turns.keep (by rw [read_loops]; exact turns.distinct) rfl fewer turn
  · exact turns.unseen (read_unseen own i true) (read_loops i true) rfl

theorem InTurns.send (turns : InTurns rollupId start history state) (member : update ∈ state.updates) {i : Nat}
    (sending : update.stage = .sending i)
    (accepted : (updateOperatorSet evm (state.registries update.rollupId) update.broadcast.message
      update.broadcast.signatureInfo).isOk = true) :
    InTurns rollupId start (history ++ [.send update .confirmed]) (state.send evm update i .confirmed) := by
  by_cases own : update.rollupId = rollupId
  · obtain ⟨turn, fewer⟩ := turns.turn.send own sending member accepted
    exact turns.keep (by rw [send_loops]; exact turns.distinct) rfl fewer turn
  · exact turns.unseen (send_unseen own i .confirmed) (send_loops i .confirmed) rfl

theorem Turn.foreign (turn : Turn rollupId start order state) (member : update ∈ state.updates)
    (locking : update.stage ≠ .locking) (reading : ∀ i, update.stage ≠ .reading i)
    (sending : ∀ i, update.stage ≠ .sending i) : update.rollupId ≠ rollupId := by
  -- the holder of the lock neither waits for another attempt nor reports, as long as everything succeeds
  intro own
  obtain ⟨_, _, _, _, _, stage⟩ := turn.of_holder (mem_holders.mpr ⟨member, own, locking⟩)
  rcases stage with ⟨i, same⟩ | ⟨i, same⟩
  · exact reading i same
  · exact sending i same

theorem InTurns.step (turns : InTurns rollupId start history state) (distinct : writers.Nodup)
    (succeeds : Succeeds evm state event) (one : state.advance evm writers event = some after) :
    InTurns rollupId start (history ++ [event]) after := by
  cases event with
  | broadcastOperatorSetUpdate broadcast =>
    cases one
    exact turns.broadcast distinct broadcast
  | iterate loop done =>
    obtain ⟨member, ⟨⟩⟩ := Option.ite_none_right_eq_some.mp one
    have unseen : Unseen rollupId state (state.iterate loop done) :=
      iterate_unseen member (turns.distinct _ member) done
    exact turns.keep (iterate_distinct turns.distinct member done) rfl unseen.queued
      (turns.turn.congr unseen.registry unseen.lock unseen.holders)
  | lock update =>
    obtain ⟨⟨member, locking, unlocked⟩, ⟨⟩⟩ := Option.ite_none_right_eq_some.mp one
    exact turns.lock member locking unlocked
  | read update answered =>
    cases stage : update.stage with
    | reading i =>
      simp only [RollupBroadcaster.advance, stage] at one
      obtain ⟨member, ⟨⟩⟩ := Option.ite_none_right_eq_some.mp one
      cases succeeds
      exact turns.read member stage
    | _ => simp [RollupBroadcaster.advance, stage] at one
  | send update result =>
    cases stage : update.stage with
    | sending i =>
      simp only [RollupBroadcaster.advance, stage] at one
      obtain ⟨member, ⟨⟩⟩ := Option.ite_none_right_eq_some.mp one
      obtain ⟨rfl, accepted⟩ := succeeds
      exact turns.send member stage accepted
    | _ => simp [RollupBroadcaster.advance, stage] at one
  | wake update contextError =>
    cases stage : update.stage with
    | waiting i =>
      simp only [RollupBroadcaster.advance, stage] at one
      obtain ⟨member, ⟨⟩⟩ := Option.ite_none_right_eq_some.mp one
      have foreign := turns.turn.foreign member (by simp [stage]) (by simp [stage]) (by simp [stage])
      exact turns.unseen (wake_unseen foreign i contextError) (wake_loops i contextError) rfl
    | _ => simp [RollupBroadcaster.advance, stage] at one
  | report update =>
    cases stage : update.stage with
    | reporting error =>
      simp only [RollupBroadcaster.advance, stage] at one
      obtain ⟨member, ⟨⟩⟩ := Option.ite_none_right_eq_some.mp one
      have foreign := turns.turn.foreign member (by simp [stage]) (by simp [stage]) (by simp [stage])
      exact turns.unseen (unseen_of_foreign [] foreign nofun rfl rfl rfl rfl) rfl rfl
    | _ => simp [RollupBroadcaster.advance, stage] at one

theorem inTurns_of_run {registries : Uint 32 → Registry} (distinct : writers.Nodup)
    (run : (rollupBroadcasters evm writers registries).GuardedRun (Succeeds evm) history state) :
    InTurns rollupId (registries rollupId).nextOperatorUpdateId.toNat history state := by
  refine run.invariant (InTurns rollupId (registries rollupId).nextOperatorUpdateId.toNat) ?_ ?_
  · rintro state rfl
    exact ⟨nofun, Nat.le_refl _, .free rfl rfl rfl⟩
  · intro history state event after turns succeeds one
    exact turns.step distinct succeeds one

/-- Once the goroutines of one broadcast for each of the ids from the next one on have returned, and everything
succeeded, all updates are applied exactly if the goroutines took the lock of the rollup's writer in the order of the
ids. -/
theorem updates_applied_iff {registries : Uint 32 → Registry} (distinct : writers.Nodup)
    (run : (rollupBroadcasters evm writers registries).GuardedRun (Succeeds evm) history state) {count : Nat}
    (broadcasts : (broadcastIds history).Perm
      (List.range' (registries rollupId).nextOperatorUpdateId.toNat count))
    (returned : Returned state) :
    (state.registries rollupId).nextOperatorUpdateId.toNat =
        (registries rollupId).nextOperatorUpdateId.toNat + count ↔
      lockOrder rollupId history = List.range' (registries rollupId).nextOperatorUpdateId.toNat count := by
  have turns : InTurns rollupId _ history state := inTurns_of_run distinct run
  have issued : (broadcastIds history).length = count := by rw [broadcasts.length_eq, List.length_range']
  have taken := turns.counted
  have idle : holders rollupId state = [] := by rw [holders, returned.2]; rfl
  cases turns.turn with
  | held _ _ _ held => rw [idle] at held; cases held
  | free _ _ next =>
    have bound := served_le (registries rollupId).nextOperatorUpdateId.toNat (lockOrder rollupId history)
    rw [next]
    constructor
    · intro all
      have full : (lockOrder rollupId history).length = count := by omega
      rw [← full] at all ⊢
      exact (served_eq_iff _ _).mp all
    · intro turns
      have full : (lockOrder rollupId history).length = count := by rw [turns, List.length_range']
      rw [← full] at turns ⊢
      exact (served_eq_iff _ _).mpr turns

end Turns

/-! ## Two updates in turn and out of turn -/

instance {G : Type} [AddCommGroup G] (evm : Precompiles G) (state : RollupBroadcaster) :
    DecidablePred (Succeeds evm state)
  | .read _ _ => inferInstanceAs (Decidable (_ = _))
  | .send _ _ => inferInstanceAs (Decidable (_ ∧ _))
  | .broadcastOperatorSetUpdate _ | .iterate _ _ | .lock _ | .wake _ _ | .report _ => isTrue trivial

def succeed (state : RollupBroadcaster) (event : BroadcastEvent) : Option RollupBroadcaster :=
  if Succeeds smallCurve state event then state.advance smallCurve [10] event else none

/-- An update without operators, with a signature that the curve's pairing accepts for every message. -/
def plainUpdate (id : Uint 64) : Broadcast := ⟨⟨id, 0, []⟩, ⟨[], ⟨(0, 0), (0, 0)⟩, ⟨0, 0⟩⟩⟩

def servedEvents (id : Uint 64) : List BroadcastEvent :=
  [.lock ⟨10, plainUpdate id, .locking⟩, .read ⟨10, plainUpdate id, .reading 0⟩ true,
    .send ⟨10, plainUpdate id, .sending 0⟩ .confirmed]

def startedEvents (id : Uint 64) : List BroadcastEvent :=
  [.broadcastOperatorSetUpdate (plainUpdate id), .iterate ⟨plainUpdate id, [10]⟩ false, .iterate ⟨plainUpdate id, []⟩ false]

theorem succeed_run {history : List BroadcastEvent} {state : RollupBroadcaster}
    (done : history.foldlM succeed (newRollupBroadcaster fun _ => twoOperators) = some state) :
    (rollupBroadcasters smallCurve [10] fun _ => twoOperators).GuardedRun (Succeeds smallCurve) history state := by
  have start : (rollupBroadcasters smallCurve [10] fun _ => twoOperators).GuardedRun (Succeeds smallCurve) []
    (newRollupBroadcaster fun _ => twoOperators) := .start rfl
  refine start.of_foldlM ?_ done
  intro state event after one
  exact Option.ite_none_right_eq_some.mp one

theorem updates_applied_iff_in_turn :
    ∃ state, (startedEvents 2 ++ startedEvents 1 ++ servedEvents 1 ++ servedEvents 2).foldlM succeed
        (newRollupBroadcaster fun _ => twoOperators) = some state ∧
      (state.registries 10).nextOperatorUpdateId.toNat = twoOperators.nextOperatorUpdateId.toNat + 2 := by
  let history := startedEvents 2 ++ startedEvents 1 ++ servedEvents 1 ++ servedEvents 2
  have first : twoOperators.nextOperatorUpdateId.toNat = 1 := by decide
  have ended : (history.foldlM succeed (newRollupBroadcaster fun _ => twoOperators)).map
      (fun state => (state.loops, state.updates)) = some ([], []) := by
    decide +kernel
  obtain ⟨state, done, lists⟩ := Option.map_eq_some_iff.mp ended
  obtain ⟨loops, updates⟩ := Prod.mk.inj lists
  have broadcasts : (broadcastIds history).Perm (List.range' twoOperators.nextOperatorUpdateId.toNat 2) := by
    rw [first]
    decide
  have order : lockOrder 10 history = List.range' twoOperators.nextOperatorUpdateId.toNat 2 := by
    rw [first]
    decide
  exact ⟨state, done, (updates_applied_iff (by decide) (succeed_run done) broadcasts ⟨loops, updates⟩).mpr order⟩

/-- The update with id 2 gets the lock before the one with id 1 and is dropped, though everything succeeds. -/
theorem update_out_of_turn_is_lost :
    ∃ (history : List BroadcastEvent) (state : RollupBroadcaster),
      (rollupBroadcasters smallCurve [10] fun _ => twoOperators).GuardedRun (Succeeds smallCurve) history state ∧
      twoOperators.nextOperatorUpdateId = 1 ∧ broadcastIds history = [1, 2] ∧ Returned state ∧
      (state.registries 10).nextOperatorUpdateId = 2 := by
  let history := startedEvents 1 ++ startedEvents 2 ++
    [.lock ⟨10, plainUpdate 2, .locking⟩, .read ⟨10, plainUpdate 2, .reading 0⟩ true] ++ servedEvents 1
  have ended : (history.foldlM succeed (newRollupBroadcaster fun _ => twoOperators)).map
      (fun state => ((state.loops, state.updates), (state.registries 10).nextOperatorUpdateId)) = some (([], []), 2) := by
    decide +kernel
  obtain ⟨state, done, final⟩ := Option.map_eq_some_iff.mp ended
  obtain ⟨lists, next⟩ := Prod.mk.inj final
  obtain ⟨loops, updates⟩ := Prod.mk.inj lists
  exact ⟨history, state, succeed_run done, by decide, by decide, ⟨loops, updates⟩, next⟩

end Sffl.Aggregator
