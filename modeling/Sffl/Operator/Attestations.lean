import Sffl.Operator.Attestor

/-! What an operator attests to.

The data that a message carries about the block posted to the DA layer is that of
a notified block which matches the header, or zero if the timer fires first. The
timer does not ask whether a block was notified that contradicts the header, and
calls for one height know nothing of each other.
-/

set_option autoImplicit false

namespace Sffl.Operator

open Sffl.Evm Sffl.Rollup Sffl.Semantics

section Calls
variable {Sig OperatorId : Type} {attestor : Attestor Sig OperatorId} {history : List AttestorEvent}
  {state : AttestorState Sig OperatorId}

namespace HeaderCall
variable (call : HeaderCall Sig OperatorId)

def Matches (block : BlockData) : Prop :=
  block.rollupId = call.rollupId ∧ block.number = call.rollupHeader.number ∧ block.root = call.rollupHeader.root

def Mismatches (block : BlockData) : Prop :=
  block.rollupId = call.rollupId ∧ block.number = call.rollupHeader.number ∧ block.root ≠ call.rollupHeader.root

instance (block : BlockData) : Decidable (call.Matches block) := inferInstanceAs (Decidable (_ ∧ _))

instance (block : BlockData) : Decidable (call.Mismatches block) := inferInstanceAs (Decidable (_ ∧ _))

/-- While the call was subscribed, a block was notified that contradicts its header and none that matches. -/
def Overlooked : Prop := (∃ block ∈ call.notified, call.Mismatches block) ∧ ∀ block ∈ call.notified, ¬ call.Matches block

instance : Decidable call.Overlooked := inferInstanceAs (Decidable (_ ∧ _))

def Attesting : Prop := call.stage = .signing ∨ call.signed.isSome = true

instance : Decidable call.Attesting := inferInstanceAs (Decidable (_ ∨ _))

def DaNotified : Prop := (call.daCommitment = 0 ∧ call.transactionId = 0) ∨
  ∃ block ∈ call.notified, call.Matches block ∧ call.daCommitment = block.commitment ∧
    call.transactionId = block.transactionId

theorem predicate_iff (block : BlockData) : call.predicate block = true ↔ call.Matches block := by
  unfold predicate Matches
  split
  next other => simp [other]
  next same =>
    split
    next other => simp [Ne.symm other]
    next sameNumber =>
      simp only [not_not] at same sameNumber
      simp [same, sameNumber]

end HeaderCall

/-! ## What every call keeps -/

structure CallSound (call : HeaderCall Sig OperatorId) : Prop where
  queued : ∀ block ∈ call.mqBlocksC, block ∈ call.notified ∧ call.Matches block
  da : call.DaNotified
  signed : ∀ signed, call.signed = some signed → signed.message = call.message
  unsigned : call.stage = .started ∨ call.stage = .waiting → call.signed = none
  sending : call.stage = .sending → call.signed.isSome = true
  sent : call.sent = true → call.signed.isSome = true

variable {call moved : HeaderCall Sig OperatorId} {made : CallMove}

theorem CallSound.visit (sound : CallSound call) (block : BlockData) : CallSound (call.visit block) := by
  refine { sound with queued := fun queued member => ?_, da := ?_ }
  · have old : ∀ queued ∈ call.mqBlocksC, queued ∈ block :: call.notified ∧ call.Matches queued :=
      fun queued member => (sound.queued queued member).imp_left (List.mem_cons_of_mem block)
    simp only [HeaderCall.visit] at member
    split at member
    next matching =>
      rcases List.mem_append.mp member with member | member
      · exact old queued member
      · cases List.mem_singleton.mp member
        exact ⟨List.mem_cons_self, (call.predicate_iff block).mp matching⟩
    next => exact old queued member
  · exact sound.da.imp_right fun ⟨found, member, rest⟩ => ⟨found, List.mem_cons_of_mem block member, rest⟩

theorem CallSound.move (sound : CallSound call) (moves : CallStep attestor call made moved) : CallSound moved := by
  cases moves with
  | subscribe started =>
    exact { sound with unsigned := fun _ => sound.unsigned (.inl started), sending := nofun }
  | timeout => exact { sound with unsigned := by simp, sending := nofun }
  | @takeBlock mqBlock mqBlocksC waiting received =>
    have unsigned := sound.unsigned (.inr waiting)
    obtain ⟨notified, matching⟩ := sound.queued mqBlock (received ▸ List.mem_cons_self)
    refine { sound with queued := fun block member => ?_, da := .inr ⟨mqBlock, notified, matching, rfl, rfl⟩,
                        signed := fun signed found => ?_, unsigned := by simp, sending := nofun }
    · exact sound.queued block (received ▸ List.mem_cons_of_mem mqBlock member)
    · exact absurd (unsigned.symm.trans found) nofun
  | contextDone => exact { sound with unsigned := by simp, sending := nofun }
  | signFails => exact { sound with unsigned := by simp, sending := nofun }
  | sign =>
    refine { sound with signed := fun signed found => ?_, unsigned := by simp, sending := fun _ => rfl, sent := fun _ => rfl }
    cases found
    rfl
  | send sending =>
    exact { sound with unsigned := by simp, sending := nofun, sent := fun _ => sound.sending sending }
  | unsubscribe => exact { sound with unsigned := by simp, sending := nofun }

theorem callSound_newHeaderCall (rollupId : Uint 32) (rollupHeader : Header) :
    CallSound (newHeaderCall Sig OperatorId rollupId rollupHeader) :=
  ⟨nofun, .inl ⟨rfl, rfl⟩, nofun, fun _ => rfl, nofun, nofun⟩

theorem callSound_of_run (run : (attestors attestor).Run history state) : ∀ call ∈ state.calls, CallSound call := by
  refine calls_invariant CallSound callSound_newHeaderCall ?_ ?_ run
  · exact fun _ _ block _ _ _ _ _ sound => sound.visit block
  · exact fun _ _ _ _ _ _ _ moves sound => sound.move moves

/-! ## Fixed runs -/

def plainAttestor : Attestor StateRootUpdate Nat := ⟨some, 0⟩

def announced : Header := ⟨5, 100, 7⟩

def posted : BlockData := ⟨1, 11, 12, 5, 7⟩

def contradicting : BlockData := { posted with root := 8 }

def announce (id : Nat) : List AttestorEvent := [.header 1 announced, .move id .subscribe]

def notifyOne (block : BlockData) : List AttestorEvent := [.mqBlock block, .visit, .finishNotify]

def attest (id : Nat) (leave : CallMove) : List AttestorEvent := [.move id leave, .move id .sign, .move id .send]

/-! ## Blocks that contradict a header -/

/-- No call goes on without a block after one was notified that contradicts its header, unless one that matches was. -/
def HeedsMismatch (state : AttestorState Sig OperatorId) : AttestorEvent → Prop
  | .move id .timeout => ∀ call ∈ state.calls[id]?, ¬ call.Overlooked
  | .visit => ∀ notified ∈ state.notifying, ∀ id ∈ notified.2.head?, ∀ call ∈ state.calls[id]?, call.Attesting →
      ¬ (call.visit notified.1).Overlooked
  | _ => True

instance (state : AttestorState Sig OperatorId) (event : AttestorEvent) : Decidable (HeedsMismatch state event) := by
  unfold HeedsMismatch
  split <;> infer_instance

theorem attesting_elsewhere {stage : CallStage} {sent : Bool} (elsewhere : stage ≠ .signing)
    (attesting : { call with stage, sent }.Attesting) : call.Attesting :=
  .inr (attesting.resolve_left elsewhere)

/-- A call begins to attest by its timer or by a block that was notified. All else leaves what it attests to alone. -/
theorem move_cases (moves : CallStep attestor call made moved) :
    (made = .timeout ∧ moved = { call with stage := .signing }) ∨
      (∃ block mqBlocksC, made = .takeBlock ∧ call.mqBlocksC = block :: mqBlocksC ∧ moved = { call with
        mqBlocksC, daCommitment := block.commitment, transactionId := block.transactionId, stage := .signing }) ∨
      ∃ stage signed sent, moved = { call with stage, signed, sent } ∧ (moved.Attesting → call.Attesting) := by
  cases moves with
  | timeout => exact .inl ⟨rfl, rfl⟩
  | takeBlock _ received => exact .inr (.inl ⟨_, _, rfl, received, rfl⟩)
  | sign signing => exact .inr (.inr ⟨_, _, _, rfl, fun _ => .inl signing⟩)
  | subscribe => exact .inr (.inr ⟨_, _, _, rfl, attesting_elsewhere (by simp)⟩)
  | contextDone => exact .inr (.inr ⟨_, _, _, rfl, attesting_elsewhere (by simp)⟩)
  | signFails => exact .inr (.inr ⟨_, _, _, rfl, attesting_elsewhere (by simp)⟩)
  | send => exact .inr (.inr ⟨_, _, _, rfl, attesting_elsewhere (by simp)⟩)
  | unsubscribe => exact .inr (.inr ⟨_, _, _, rfl, attesting_elsewhere (by simp)⟩)

theorem not_overlooked_of_heedsMismatch (run : (attestors attestor).GuardedRun HeedsMismatch history state) :
    ∀ call ∈ state.calls, call.Attesting → ¬ call.Overlooked := by
  have all : ∀ call ∈ state.calls, CallSound call ∧ (call.Attesting → ¬ call.Overlooked) := by
    refine calls_invariant (fun call => CallSound call ∧ (call.Attesting → ¬ call.Overlooked)) ?_ ?_ ?_ run
    · intro rollupId rollupHeader
      exact ⟨callSound_newHeaderCall rollupId rollupHeader, fun attesting => attesting.elim nofun nofun⟩
    · intro state call block id ids heeds notifying found ⟨sound, _⟩
      refine ⟨sound.visit block, fun attesting => ?_⟩
      exact heeds _ notifying id rfl call found attesting
    · intro state call id move moved heeds found moves ⟨sound, heeded⟩
      refine ⟨sound.move moves, fun attesting => ?_⟩
      rcases move_cases moves with ⟨rfl, rfl⟩ | ⟨block, mqBlocksC, _, received, rfl⟩ | ⟨_, _, _, rfl, before⟩
      · exact heeds call found
      · obtain ⟨notified, matching⟩ := sound.queued block (received ▸ List.mem_cons_self)
        exact fun overlooked => overlooked.2 block notified matching
      · exact heeded (before attesting)
  exact fun call member => (all call member).2

/-- A message with data about the DA layer has it from one notified block of its rollup, height and root. And while no
timer overrules a mismatch, a header that was contradicted and not matched is not signed. -/
theorem attestation_follows_notified (run : (attestors attestor).Run history state) :
    (∀ call ∈ state.calls, ∀ signed, call.signed = some signed →
      signed.message.nearDaCommitment ≠ 0 ∨ signed.message.nearDaTransactionId ≠ 0 →
        ∃ block ∈ call.notified, block.rollupId = signed.message.rollupId ∧
          BitVec.ofNat 64 block.number = signed.message.blockHeight ∧ block.root = signed.message.stateRoot ∧
          signed.message.nearDaCommitment = block.commitment ∧
          signed.message.nearDaTransactionId = block.transactionId) ∧
      ((attestors attestor).GuardedRun HeedsMismatch history state →
        ∀ call ∈ state.calls, call.Overlooked → call.signed = none ∧ call.sent = false) := by
  refine ⟨fun call member signed found someDa => ?_, fun guarded call member overlooked => ?_⟩
  · have sound := callSound_of_run run call member
    rw [sound.signed signed found] at someDa ⊢
    rcases sound.da with ⟨noCommitment, noTransaction⟩ | ⟨block, notified, matching, commitment, transaction⟩
    · exact absurd someDa (by simp [HeaderCall.message, noCommitment, noTransaction])
    · obtain ⟨rollup, number, root⟩ := matching
      exact ⟨block, notified, rollup, congrArg (BitVec.ofNat 64) number, root, commitment, transaction⟩
  · have silent : ¬ call.Attesting :=
      fun attesting => not_overlooked_of_heedsMismatch guarded call member attesting overlooked
    have unsigned : call.signed = none := by simpa using fun signed => silent (.inr signed)
    refine ⟨unsigned, Bool.eq_false_iff.mpr fun sent => ?_⟩
    have signed := (callSound_of_run run call member).sent sent
    rw [unsigned] at signed
    cases signed

theorem attestation_follows_notified_contradicted :
    ∃ state, (attestors plainAttestor).GuardedRun HeedsMismatch
        (announce 0 ++ notifyOne contradicting ++ [.move 0 .contextDone]) state ∧
      ∃ call ∈ state.calls, call.Overlooked ∧ call.signed = none ∧ call.sent = false := by
  have run := @guardedRun_of_attestorSteps _ _ plainAttestor _ HeedsMismatch inferInstance
    (announce 0 ++ notifyOne contradicting ++ [.move 0 .contextDone]) rfl
  have follows := attestation_follows_notified (run.mono fun _ _ _ => trivial)
  exact ⟨_, run, _, List.mem_cons_self, by decide, follows.2 run _ List.mem_cons_self (by decide)⟩

/-- The timer fires after a block was notified that contradicts the header. -/
theorem contradicted_header_signed :
    ∃ state, (attestors plainAttestor).Run (announce 0 ++ notifyOne contradicting ++ attest 0 .timeout) state ∧
      ∃ call ∈ state.calls, call.Overlooked ∧ call.signed.isSome = true ∧ call.sent = true :=
  ⟨_, guardedRun_of_attestorSteps rfl, _, List.mem_cons_self, by decide, rfl, rfl⟩

/-! ## Several headers of one height -/

def HeaderCall.SameHeight (call other : HeaderCall Sig OperatorId) : Prop :=
  call.rollupId = other.rollupId ∧ call.blockHeight = other.blockHeight

instance (call other : HeaderCall Sig OperatorId) : Decidable (call.SameHeight other) :=
  inferInstanceAs (Decidable (_ ∧ _))

def AttestAlike (state : AttestorState Sig OperatorId) (call : HeaderCall Sig OperatorId)
    (daCommitment transactionId : Bytes32) : Prop :=
  ∀ other ∈ state.calls, call.SameHeight other → other.Attesting →
    other.daCommitment = daCommitment ∧ other.transactionId = transactionId

instance (state : AttestorState Sig OperatorId) (call : HeaderCall Sig OperatorId) (daCommitment transactionId : Bytes32) :
    Decidable (AttestAlike state call daCommitment transactionId) :=
  inferInstanceAs (Decidable (∀ _ ∈ _, _ → _ → _))

/-- A height that is announced again has the same time and root, and its calls get the same block or none. -/
def RepeatsAlike (state : AttestorState Sig OperatorId) : AttestorEvent → Prop
  | .header rollupId rollupHeader => ∀ call ∈ state.calls,
      (newHeaderCall Sig OperatorId rollupId rollupHeader).SameHeight call →
        rollupHeader.time = call.rollupHeader.time ∧ rollupHeader.root = call.rollupHeader.root
  | .move id .timeout => ∀ call ∈ state.calls[id]?, AttestAlike state call call.daCommitment call.transactionId
  | .move id .takeBlock => ∀ call ∈ state.calls[id]?, ∀ block ∈ call.mqBlocksC.head?,
      AttestAlike state call block.commitment block.transactionId
  | _ => True

instance (state : AttestorState Sig OperatorId) (event : AttestorEvent) : Decidable (RepeatsAlike state event) := by
  unfold RepeatsAlike
  split <;> infer_instance

structure Consistent (call other : HeaderCall Sig OperatorId) : Prop where
  time : call.rollupHeader.time = other.rollupHeader.time
  root : call.rollupHeader.root = other.rollupHeader.root
  da : call.Attesting → other.Attesting →
    call.daCommitment = other.daCommitment ∧ call.transactionId = other.transactionId

theorem Consistent.symm {other : HeaderCall Sig OperatorId} (consistent : Consistent call other) :
    Consistent other call where
  time := consistent.time.symm
  root := consistent.root.symm
  da attesting attesting' := (consistent.da attesting' attesting).imp Eq.symm Eq.symm

def Agree (call other : HeaderCall Sig OperatorId) : Prop := call.SameHeight other → Consistent call other

theorem Agree.symm {other : HeaderCall Sig OperatorId} (agree : Agree call other) : Agree other call :=
  fun same => (agree ⟨same.1.symm, same.2.symm⟩).symm

theorem agree_of_new {calls after : List (HeaderCall Sig OperatorId)} {new : HeaderCall Sig OperatorId}
    (old : ∀ call ∈ calls, ∀ other ∈ calls, Agree call other) (members : ∀ call ∈ after, call ∈ calls ∨ call = new)
    (agrees : ∀ other ∈ calls, Agree new other) : ∀ call ∈ after, ∀ other ∈ after, Agree call other := by
  intro call member other member'
  rcases members call member with before | rfl
  · rcases members other member' with before' | rfl
    · exact old call before other before'
    · exact (agrees call before).symm
  · rcases members other member' with before' | rfl
    · exact agrees other before'
    · exact fun _ => ⟨rfl, rfl, fun _ _ => ⟨rfl, rfl⟩⟩

theorem agree_of_repeatsAlike (run : (attestors attestor).GuardedRun RepeatsAlike history state) :
    ∀ call ∈ state.calls, ∀ other ∈ state.calls, Agree call other := by
  refine run.invariant (fun _ state => ∀ call ∈ state.calls, ∀ other ∈ state.calls, Agree call other) ?_ ?_
  · rintro _ rfl
    exact nofun
  · intro history state event after old alike one
    have step := callsStep_of_step one
    generalize after.calls = calls at step ⊢
    cases step with
    | header rollupId rollupHeader =>
      refine agree_of_new old (fun call member => (List.mem_append.mp member).imp_right List.mem_singleton.mp) ?_
      intro other member same
      obtain ⟨time, root⟩ := alike other member same
      exact ⟨time, root, fun attesting => attesting.elim nofun nofun⟩
    | @visit block id ids call notifying found =>
      refine agree_of_new old (fun _ => List.mem_or_eq_of_mem_set) fun other member same => ?_
      exact { old call (List.mem_of_getElem? found) other member same with }
    | @move id move call moved found moves =>
      have before := old call (List.mem_of_getElem? found)
      refine agree_of_new old (fun _ => List.mem_or_eq_of_mem_set) fun other member same => ?_
      rcases move_cases moves with ⟨rfl, rfl⟩ | ⟨block, mqBlocksC, rfl, received, rfl⟩ | ⟨_, _, _, rfl, attested⟩
      · have data := alike call found other member same
        exact { before other member same with da := fun _ attesting => (data attesting).imp Eq.symm Eq.symm }
      · have data := alike call found block (received ▸ rfl) other member same
        exact { before other member same with da := fun _ attesting => (data attesting).imp Eq.symm Eq.symm }
      · have consistent := before other member same
        exact { consistent with da := fun attesting => consistent.da (attested attesting) }
    | stay => exact old

theorem calls_heights (run : (attestors attestor).Run history state) :
    state.calls.map (fun call => (call.rollupId, call.blockHeight)) = history.filterMap AttestorEvent.deliveredHeight := by
  refine run.invariant (fun history state => state.calls.map (fun call => (call.rollupId, call.blockHeight)) =
    history.filterMap AttestorEvent.deliveredHeight) ?_ ?_
  · rintro _ rfl
    rfl
  · intro history state event after heights _ one
    have step := callsStep_of_step one
    generalize after.calls = calls at step ⊢
    rw [List.filterMap_append, ← heights]
    cases step with
    | header rollupId rollupHeader => exact List.map_append
    | @visit block id ids call notifying found =>
      have same : ((call.visit block).rollupId, (call.visit block).blockHeight) = (call.rollupId, call.blockHeight) := rfl
      rw [map_set_same found same]
      exact (List.append_nil _).symm
    | @move id move call moved found moves =>
      have same : (moved.rollupId, moved.blockHeight) = (call.rollupId, call.blockHeight) := by cases moves <;> rfl
      rw [map_set_same found same]
      exact (List.append_nil _).symm
    | stay silent =>
      rw [List.filterMap_cons_none silent]
      exact (List.append_nil _).symm

def NoEquivocation (state : AttestorState Sig OperatorId) : Prop :=
  ∀ call ∈ state.calls, ∀ other ∈ state.calls, ∀ signed signed', call.signed = some signed →
    other.signed = some signed' → signed.message.rollupId = signed'.message.rollupId →
    signed.message.blockHeight = signed'.message.blockHeight → signed.message = signed'.message

/-- While a height that is announced again is announced alike and its calls get the same block or none, all messages
signed for it are the same; so they are if no height is announced twice. -/
theorem no_equivocation_of_repeatsAlike :
    ((attestors attestor).GuardedRun RepeatsAlike history state → NoEquivocation state) ∧
    ((attestors attestor).Run history state → (history.filterMap AttestorEvent.deliveredHeight).Nodup →
      NoEquivocation state) := by
  refine ⟨fun run => ?_, fun run once => ?_⟩
  · intro call member other member' signed signed' found found' rollup height
    have sound := callSound_of_run (run.mono fun _ _ _ => trivial)
    rw [(sound call member).signed signed found, (sound other member').signed signed' found'] at rollup height ⊢
    have consistent := agree_of_repeatsAlike run call member other member' ⟨rollup, height⟩
    obtain ⟨commitment, transaction⟩ := consistent.da (.inr (by simp [found])) (.inr (by simp [found']))
    simp only [HeaderCall.message, StateRootUpdate.mk.injEq]
    exact ⟨rollup, height, consistent.time, transaction, commitment, consistent.root⟩
  · intro call member other member' signed signed' found found' rollup height
    have sound := callSound_of_run run
    rw [(sound call member).signed signed found, (sound other member').signed signed' found'] at rollup height ⊢
    rw [← calls_heights run] at once
    rw [List.inj_on_of_nodup_map once member member' (Prod.ext rollup height)]

theorem no_equivocation_of_repeatsAlike_twice :
    ∃ state call other signed signed', (attestors plainAttestor).GuardedRun RepeatsAlike
        (announce 0 ++ attest 0 .timeout ++ announce 1 ++ attest 1 .timeout) state ∧
      state.calls = [call, other] ∧ call.signed = some signed ∧ other.signed = some signed' ∧
      signed.message = signed'.message := by
  have run := @guardedRun_of_attestorSteps _ _ plainAttestor _ RepeatsAlike inferInstance
    (announce 0 ++ attest 0 .timeout ++ announce 1 ++ attest 1 .timeout) rfl
  refine ⟨_, _, _, _, _, run, rfl, rfl, rfl, ?_⟩
  exact no_equivocation_of_repeatsAlike.1 run _ List.mem_cons_self _ (List.mem_cons_of_mem _ List.mem_cons_self) _ _ rfl rfl
    rfl rfl

/-- A header is announced again after the block was notified for the second time, and its second call gets none. -/
theorem repeated_header_signed_differently :
    ∃ state call other signed signed', (attestors plainAttestor).Run
        (announce 0 ++ notifyOne posted ++ attest 0 .takeBlock ++ [.move 0 .unsubscribe, .renotify posted, .finishNotify] ++
          announce 1 ++ attest 1 .timeout) state ∧
      state.calls = [call, other] ∧ call.signed = some signed ∧ other.signed = some signed' ∧
      signed.message.rollupId = signed'.message.rollupId ∧ signed.message.blockHeight = signed'.message.blockHeight ∧
      signed.message ≠ signed'.message := by
  refine ⟨_, _, _, _, _, guardedRun_of_attestorSteps rfl, rfl, rfl, rfl, ?_, ?_, ?_⟩
  · rfl
  · rfl
  · decide

end Calls

end Sffl.Operator
