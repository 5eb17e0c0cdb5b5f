import Sffl.Rollup.Initialization

/-! The ids of operator set updates over whole runs.

Updates take the next id and move it on by one. `setInitialOperatorSet` may set
it to anything, and takes a total weight of zero for a set that was never
entered. So ids come back once an entered set has lost all of its weight.
-/

set_option autoImplicit false

namespace Sffl.Rollup

open Sffl.Evm Sffl.Algebra Sffl.Semantics

/-- What has happened so far: the next id at the start and after every call, the
ids that were consumed, and how often an initial set was entered. -/
structure Journal where
  nextIds : List (Uint 64)
  consumed : List (Uint 64)
  initialSets : Nat
  deriving DecidableEq, Repr

def Invocation.consumes : Invocation → Option OperatorSetUpdate
  | .updateOperatorSet message _ => some message
  | .forceOperatorSetUpdate message => some message
  | _ => none

def Invocation.entersSet : Invocation → Bool
  | .setInitialOperatorSet _ _ => true
  | _ => false

variable {G : Type} [AddCommGroup G] (evm : Precompiles G)

def journaled (state : Registry × Journal) (call : Address × Invocation) : Registry × Journal :=
  -- a call that reverts consumes and enters nothing
  match execute evm state.1 call.1 call.2 with
  | .error _ => (state.1, { state.2 with nextIds := state.2.nextIds ++ [state.1.nextOperatorUpdateId] })
  | .ok after => (after, {
      nextIds := state.2.nextIds ++ [after.nextOperatorUpdateId]
      consumed := state.2.consumed ++ (call.2.consumes.map OperatorSetUpdate.id).toList
      initialSets := state.2.initialSets + call.2.entersSet.toNat })

def journals : System (Registry × Journal) (Address × Invocation) where
  initial state := (registry evm).initial state.1 ∧ state.2 = ⟨[state.1.nextOperatorUpdateId], [], 0⟩
  step state call after := after = journaled evm state call

def LeavesWeight (set : OperatorSet) (operators : List Operator) : Prop :=
  ∃ pubkey, overwrite (weights evm set.toTally) (operators.map Operator.entry) pubkey ≠ 0

/-- An initial set that is accepted has weight and takes no id back, and an accepted update of a set with weight leaves
some of it. -/
def KeepsWeight (state : Registry) (call : Address × Invocation) : Prop :=
  (execute evm state call.1 call.2).isOk = true →
    (∀ operators nextOperatorUpdateId, call.2 = .setInitialOperatorSet operators nextOperatorUpdateId →
      state.nextOperatorUpdateId ≤ nextOperatorUpdateId ∧ LeavesWeight evm state.operatorSet operators) ∧
    ∀ message, call.2.consumes = some message → state.operatorSet.totalWeight ≠ 0 →
      LeavesWeight evm state.operatorSet message.operators

variable {evm}

theorem journaled_registry (state : Registry × Journal) (call : Address × Invocation) :
    (journaled evm state call).1 = settle state.1 (execute evm state.1 call.1 call.2) := by
  unfold journaled settle
  cases execute evm state.1 call.1 call.2 <;> rfl

/-! ## One call -/

inductive IdChange (evm : Precompiles G) (state after : Registry) (invocation : Invocation) : Prop where
  | kept (consumes : invocation.consumes = none) (enters : invocation.entersSet = false)
      (next : after.nextOperatorUpdateId = state.nextOperatorUpdateId)
      (weight : after.operatorSet.totalWeight = state.operatorSet.totalWeight)
  | entered (operators : List Operator) (consumes : invocation.consumes = none)
      (enters : invocation = .setInitialOperatorSet operators after.nextOperatorUpdateId)
      (empty : state.operatorSet.totalWeight = 0)
      (updated : update evm state.operatorSet operators = .ok after.operatorSet)
  | consumed (message : OperatorSetUpdate) (consumes : invocation.consumes = some message)
      (enters : invocation.entersSet = false) (id : message.id = state.nextOperatorUpdateId)
      (next : after.nextOperatorUpdateId.toNat = state.nextOperatorUpdateId.toNat + 1)
      (updated : update evm state.operatorSet message.operators = .ok after.operatorSet)

theorem execute_ids {state after : Registry} {sender : Address} {invocation : Invocation}
    (success : execute evm state sender invocation = .ok after) : IdChange evm state after invocation := by
  cases invocation with
  | setInitialOperatorSet operators nextOperatorUpdateId =>
    obtain ⟨_, empty, operatorSet, updated, rfl⟩ := setInitialOperatorSet_eq_ok.mp success
    exact .entered operators rfl rfl empty updated
  | updateOperatorSet message signatureInfo =>
    obtain ⟨id, next, updated⟩ := updateOperatorSet_eq_ok success
    exact .consumed message rfl rfl id next updated
  | forceOperatorSetUpdate message =>
    obtain ⟨id, next, updated⟩ := forceOperatorSetUpdate_eq_ok success
    exact .consumed message rfl rfl id next updated
  | updateStateRoot message signatureInfo =>
    simp only [execute, Rollup.updateStateRoot, bind_eq_ok] at success
    obtain ⟨_, _, _, _, _, _, result⟩ := success
    cases result
    exact .kept rfl rfl rfl rfl
  | setQuorumThreshold newQuorumThreshold =>
    simp only [execute, Registry.setQuorumThreshold, bind_eq_ok, setQuorumThreshold_eq_ok] at success
    obtain ⟨_, _, operatorSet, ⟨_, rfl⟩, result⟩ := success
    cases result
    exact .kept rfl rfl rfl rfl
  | _ =>
    obtain ⟨_, _, _, rfl⟩ := execute_administers rfl success
    exact .kept rfl rfl rfl rfl

theorem LeavesWeight.totalWeight {set after : OperatorSet} (consistent : Consistent evm set.toTally)
    {operators : List Operator} (updated : update evm set operators = .ok after)
    (leaves : LeavesWeight evm set operators) : after.totalWeight ≠ 0 := by
  obtain ⟨pubkey, weighted⟩ := leaves
  have represents := (Represents.mk consistent rfl).update updated
  intro zero
  have bound := weight_le_total (weights evm after.toTally) pubkey
  rw [← represents.consistent.totalWeight, zero, represents.weights] at bound
  exact weighted (Nat.le_zero.mp bound)

/-! ## Runs -/

structure Ascending (nextIds consumed : List (Uint 64)) (next : Uint 64) : Prop where
  ascending : nextIds.Pairwise (· ≤ ·)
  below : ∀ id ∈ nextIds, id ≤ next
  once : consumed.Nodup
  used : ∀ id ∈ consumed, id < next

theorem Ascending.advance {nextIds consumed : List (Uint 64)} {next after : Uint 64}
    (ascending : Ascending nextIds consumed next) (le : next ≤ after) :
    Ascending (nextIds ++ [after]) consumed after where
  ascending := by
    refine List.pairwise_append.mpr ⟨ascending.ascending, List.pairwise_singleton _ _, fun id member last same => ?_⟩
    cases List.mem_singleton.mp same
    exact BitVec.le_trans (ascending.below id member) le
  below id member := by
    rcases List.mem_append.mp member with old | new
    · exact BitVec.le_trans (ascending.below id old) le
    · cases List.mem_singleton.mp new
      exact BitVec.le_refl _
  once := ascending.once
  used id member := by
    have lt := ascending.used id member
    rw [BitVec.lt_def] at lt ⊢
    exact Nat.lt_of_lt_of_le lt (BitVec.le_def.mp le)

theorem Ascending.consume {nextIds consumed : List (Uint 64)} {next after : Uint 64}
    (ascending : Ascending nextIds consumed next) (succeeds : after.toNat = next.toNat + 1) :
    Ascending (nextIds ++ [after]) (consumed ++ [next]) after := by
  have lt : next < after := by
    rw [BitVec.lt_def]
    omega
  have advanced := ascending.advance (BitVec.le_of_lt lt)
  refine ⟨advanced.ascending, advanced.below, ?_, fun id member => ?_⟩
  · refine List.nodup_append.mpr ⟨ascending.once, List.nodup_singleton _, fun id member last same equal => ?_⟩
    cases List.mem_singleton.mp same
    exact BitVec.lt_irrefl _ (equal ▸ ascending.used id member)
  · rcases List.mem_append.mp member with old | new
    · exact advanced.used id old
    · cases List.mem_singleton.mp new
      exact lt

structure Unreplayed (evm : Precompiles G) (state : Registry) (journal : Journal) : Prop where
  sound : Sound evm state
  ascending : Ascending journal.nextIds journal.consumed state.nextOperatorUpdateId
  entered : journal.initialSets = 0 ∨ journal.initialSets = 1 ∧ state.operatorSet.totalWeight ≠ 0

theorem Unreplayed.step {state : Registry × Journal} {call : Address × Invocation}
    (unreplayed : Unreplayed evm state.1 state.2) (keeps : KeepsWeight evm state.1 call) :
    Unreplayed evm (journaled evm state call).1 (journaled evm state call).2 := by
  unfold journaled
  cases executed : execute evm state.1 call.1 call.2 with
  | error => exact ⟨unreplayed.sound, unreplayed.ascending.advance (BitVec.le_refl _), unreplayed.entered⟩
  | ok after =>
    have sound := unreplayed.sound.execute executed
    obtain ⟨initial, later⟩ := keeps (by rw [executed]; rfl)
    cases execute_ids executed with
    | kept consumes enters next weight =>
      refine ⟨sound, ?_, ?_⟩
      · simp only [consumes, Option.map_none, Option.toList_none, List.append_nil]
        exact unreplayed.ascending.advance (next ▸ BitVec.le_refl _)
      · simp only [enters, Bool.toNat_false, Nat.add_zero, weight]
        exact unreplayed.entered
    | entered operators consumes enters empty updated =>
      obtain ⟨le, leaves⟩ := initial operators _ enters
      refine ⟨sound, ?_, ?_⟩
      · simp only [consumes, Option.map_none, Option.toList_none, List.append_nil]
        exact unreplayed.ascending.advance le
      -- a set that was entered before would still have weight
      · rcases unreplayed.entered with never | ⟨_, weight⟩
        · refine Or.inr ⟨?_, leaves.totalWeight unreplayed.sound.consistent updated⟩
          simp [never, enters, Invocation.entersSet]
        · exact absurd empty weight
    | consumed message consumes enters id next updated =>
      refine ⟨sound, ?_, ?_⟩
      · simp only [consumes, Option.map_some, Option.toList_some, id]
        exact unreplayed.ascending.consume next
      · simp only [enters, Bool.toNat_false, Nat.add_zero]
        rcases unreplayed.entered with never | ⟨once, weight⟩
        · exact Or.inl never
        · refine Or.inr ⟨once, ?_⟩
          exact (later message consumes weight).totalWeight unreplayed.sound.consistent updated

/-- In a run that keeps weight, the next id never goes down, no id is consumed twice, and one initial set at most is
entered. -/
theorem updates_never_replayed {history : List (Address × Invocation)} {state : Registry} {journal : Journal}
    (run : (journals evm).GuardedRun (fun state call => KeepsWeight evm state.1 call) history (state, journal)) :
    journal.nextIds.Pairwise (· ≤ ·) ∧ journal.consumed.Nodup ∧ journal.initialSets ≤ 1 := by
  have unreplayed : Unreplayed evm state journal := by
    refine run.invariant (fun _ state => Unreplayed evm state.1 state.2) ?_ ?_
    · rintro state ⟨⟨quorumThreshold, initialOwner, aggregator, success⟩, start⟩
      rw [start]
      refine ⟨Sound.initial success, ⟨List.pairwise_singleton _ _, ?_, List.nodup_nil, nofun⟩, Or.inl rfl⟩
      rintro id (_ | ⟨_, ⟨⟩⟩)
      exact BitVec.le_refl _
    · rintro _ state call after holds keeps rfl
      exact holds.step keeps
  refine ⟨unreplayed.ascending.ascending, unreplayed.ascending.once, ?_⟩
  rcases unreplayed.entered with never | ⟨once, _⟩ <;> omega

/-! ## A set that is entered twice -/

def dropBoth : Invocation := .forceOperatorSetUpdate ⟨1, 0, [⟨generatorMultiple 1, 0⟩, ⟨generatorMultiple (2 : Nat), 0⟩]⟩

def raiseFirst : Invocation := .forceOperatorSetUpdate ⟨1, 0, [⟨generatorMultiple 1, 6⟩]⟩

def journalOf (calls : List (Address × Invocation)) : Journal :=
  (calls.foldl (journaled smallCurve) (freshRegistry, ⟨[0], [], 0⟩)).2

theorem updates_never_replayed_raised :
    journalOf [(2, enterTwoOperators), (1, raiseFirst)] = ⟨[0, 1, 2], [1], 1⟩ ∧
      (journalOf [(2, enterTwoOperators), (1, raiseFirst)]).consumed.Nodup := by
  have entered : KeepsWeight smallCurve freshRegistry (2, enterTwoOperators) := by
    refine fun _ => ⟨fun operators nextOperatorUpdateId same => ?_, fun message => nofun⟩
    cases same
    exact ⟨by decide, generatorMultiple 1, by decide +kernel⟩
  have raised : KeepsWeight smallCurve twoOperators (1, raiseFirst) := by
    refine fun _ => ⟨fun operators nextOperatorUpdateId => nofun, fun message same _ => ?_⟩
    cases same
    exact ⟨generatorMultiple 1, by decide +kernel⟩
  have fresh : (journals smallCurve).GuardedRun (fun state call => KeepsWeight smallCurve state.1 call) []
      (freshRegistry, ⟨[0], [], 0⟩) := .start ⟨⟨66, 1, 2, rfl⟩, rfl⟩
  have two := fresh.next entered rfl
  rw [← show _ = twoOperators from journaled_registry (freshRegistry, ⟨[0], [], 0⟩) (2, enterTwoOperators)] at raised
  have run := two.next raised rfl
  exact ⟨by decide +kernel, (updates_never_replayed run).2.1⟩

/-- Two operators are entered, the owner drops both, and the aggregator enters them again with the old id. The next id
goes from 2 back to 1, and the id 1 is consumed a second time. -/
theorem dropped_set_is_entered_again :
    (journals smallCurve).Run
      [(2, enterTwoOperators), (1, dropBoth), (2, enterTwoOperators), (1, dropBoth)]
      ([(2, enterTwoOperators), (1, dropBoth), (2, enterTwoOperators), (1, dropBoth)].foldl (journaled smallCurve)
        (freshRegistry, ⟨[0], [], 0⟩)) ∧
    journalOf [(2, enterTwoOperators), (1, dropBoth), (2, enterTwoOperators), (1, dropBoth)] =
      ⟨[0, 1, 2, 1, 2], [1, 1], 2⟩ := by
  refine ⟨?_, by decide +kernel⟩
  have fresh : (journals smallCurve).Run [] (freshRegistry, ⟨[0], [], 0⟩) := .start ⟨⟨66, 1, 2, rfl⟩, rfl⟩
  exact (((fresh.next trivial rfl).next trivial rfl).next trivial rfl).next trivial rfl

end Sffl.Rollup
