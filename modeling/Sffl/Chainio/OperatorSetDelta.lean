import Sffl.Eth.OperatorSetUpdateRegistry
import Sffl.Golang.FixedKeys
import Sffl.Golang.Map

/-! The delta between two operator sets, as the operators' chain reader makes it.

Both sets go into one Go map under a textual key, every operator whose weight
changed becomes an entry, in the order of a `range` loop over the map, and the
entries are then sorted with `sort.Slice`.
-/

set_option autoImplicit false

namespace Sffl.Chainio

open Sffl.Evm Sffl.Golang Sffl.Rollup Sffl.Algebra

/-- The two coordinates in decimal. -/
def operatorKey (pubkey : G1Point) : String :=
  toString pubkey.X.toNat ++ "_" ++ toString pubkey.Y.toNat

structure OperatorUpdate where
  pubkey : G1Point
  previousWeight : Uint 128
  newWeight : Uint 128
  deriving DecidableEq, Repr

def addPrevious (operators : Map String OperatorUpdate) (operator : Operator) : Map String OperatorUpdate :=
  operators.insert (operatorKey operator.pubkey) ⟨operator.pubkey, operator.weight, 0⟩

def addNew (operators : Map String OperatorUpdate) (operator : Operator) : Map String OperatorUpdate :=
  let weights : OperatorUpdate :=
    match operators (operatorKey operator.pubkey) with
    | some weights => { weights with newWeight := operator.weight }
    | none => ⟨operator.pubkey, 0, operator.weight⟩
  operators.insert (operatorKey operator.pubkey) weights

def operatorUpdates (previousOperatorSet newOperatorSet : List Operator) : Map String OperatorUpdate :=
  newOperatorSet.foldl addNew (previousOperatorSet.foldl addPrevious Map.empty)

def OperatorUpdate.delta? (update : OperatorUpdate) : Option Operator :=
  if update.previousWeight ≠ update.newWeight then some ⟨update.pubkey, update.newWeight⟩ else none

def collectDelta (entries : List (String × OperatorUpdate)) : List Operator :=
  entries.filterMap fun entry => entry.2.delta?

/-- The entries before they are sorted, for one iteration order of the map. -/
def unsortedDelta (previousOperatorSet newOperatorSet : List Operator) (order : List String) : List Operator :=
  collectDelta ((operatorUpdates previousOperatorSet newOperatorSet).range order)

def hashBNG1Point (keccak256 : Bytes → Bytes32) (input : G1Point) : Bytes32 :=
  keccak256 (wordsBytes [input.X, input.Y])

/-- The comparison reads the hashes at the positions that are compared, as big
endian words, and the hashes stay where they were when the entries were collected. -/
def sortDelta (random : Nat → Nat → Nat) (keccak256 : Bytes → Bytes32) (delta : List Operator) : List Operator :=
  let nonSignersPubkeyHashes := delta.map fun operator => (hashBNG1Point keccak256 operator.pubkey).toNat
  sortSlice random (fun _ => keyLess nonSignersPubkeyHashes) delta

def getOperatorSetUpdateDelta (random : Nat → Nat → Nat) (keccak256 : Bytes → Bytes32)
    (previousOperatorSet newOperatorSet : List Operator) (order : List String) : List Operator :=
  sortDelta random keccak256 (unsortedDelta previousOperatorSet newOperatorSet order)

/-! ## What the map records -/

theorem operatorKey_injective : Function.Injective operatorKey := by
  rintro ⟨X, Y⟩ ⟨X', Y'⟩ same
  have digits : Nat.toDigits 10 X.toNat ++ '_' :: Nat.toDigits 10 Y.toNat =
      Nat.toDigits 10 X'.toNat ++ '_' :: Nat.toDigits 10 Y'.toNat := by
    simpa [operatorKey, toString] using congrArg String.toList same
  -- the separator is no digit, so each coordinate ends where the separator stands
  obtain ⟨sameX, _, sameY⟩ := (List.append_cons_inj_of_notMem Nat.underscore_not_in_toDigits
    Nat.underscore_not_in_toDigits).mp digits
  have number : Function.Injective (Nat.toDigits 10) := by
    intro first second equal
    rw [← Nat.ofDigitChars_ten_toDigits (n := first), equal, Nat.ofDigitChars_ten_toDigits]
  rw [BitVec.eq_of_toNat_eq (number sameX), BitVec.eq_of_toNat_eq (number sameY)]

/-- Every entry of the map stands under its own key with the weights that its
operator has in the two sets, and whoever has no entry has no weight. -/
structure Records (operators : Map String OperatorUpdate) (previous new : G1Point → Nat) : Prop where
  entry : ∀ key update, operators key = some update → key = operatorKey update.pubkey ∧
    update.previousWeight.toNat = previous update.pubkey ∧ update.newWeight.toNat = new update.pubkey
  absent : ∀ pubkey, operators (operatorKey pubkey) = none → previous pubkey = 0 ∧ new pubkey = 0

theorem Records.insert {operators : Map String OperatorUpdate} {previous new : G1Point → Nat}
    (records : Records operators previous new) (update : OperatorUpdate) :
    Records (operators.insert (operatorKey update.pubkey) update)
      (Function.update previous update.pubkey update.previousWeight.toNat)
      (Function.update new update.pubkey update.newWeight.toNat) := by
  refine ⟨?_, ?_⟩
  · intro key other found
    by_cases same : key = operatorKey update.pubkey
    · subst same
      rw [Map.insert_self] at found
      cases found
      simp
    · rw [Map.insert_of_ne _ _ same] at found
      obtain ⟨rfl, recorded⟩ := records.entry key other found
      have different : other.pubkey ≠ update.pubkey := fun equal => same (congrArg operatorKey equal)
      rw [Function.update_of_ne different, Function.update_of_ne different]
      exact ⟨rfl, recorded⟩
  · intro pubkey missing
    by_cases same : pubkey = update.pubkey
    · subst same
      simp at missing
    · rw [Map.insert_of_ne _ _ (operatorKey_injective.ne same)] at missing
      rw [Function.update_of_ne same, Function.update_of_ne same]
      exact records.absent pubkey missing

theorem Records.addPrevious {operators : Map String OperatorUpdate} {previous : G1Point → Nat}
    (records : Records operators previous fun _ => 0) (operator : Operator) :
    Records (addPrevious operators operator)
      (Function.update previous operator.pubkey operator.weight.toNat) fun _ => 0 := by
  have inserted := records.insert ⟨operator.pubkey, operator.weight, 0⟩
  simpa [Chainio.addPrevious] using inserted

theorem Records.addNew {operators : Map String OperatorUpdate} {previous new : G1Point → Nat}
    (records : Records operators previous new) (operator : Operator) :
    Records (addNew operators operator) previous
      (Function.update new operator.pubkey operator.weight.toNat) := by
  unfold Chainio.addNew
  cases found : operators (operatorKey operator.pubkey) with
  | none =>
    have inserted := records.insert ⟨operator.pubkey, 0, operator.weight⟩
    -- a new operator had no weight before, so the zero that is written for it changes nothing
    have unchanged : Function.update previous operator.pubkey 0 = previous := by
      rw [← (records.absent operator.pubkey found).1, Function.update_eq_self]
    simpa [unchanged] using inserted
  | some weights =>
    obtain ⟨pubkey, previousWeight, newWeight⟩ := weights
    obtain ⟨sameKey, recorded, _⟩ := records.entry _ _ found
    -- the entry that was found is this operator's own: two keys never have one text
    obtain rfl : operator.pubkey = pubkey := operatorKey_injective sameKey
    have inserted := records.insert ⟨operator.pubkey, previousWeight, operator.weight⟩
    simp only at recorded inserted
    rw [recorded, Function.update_eq_self] at inserted
    exact inserted

theorem operatorUpdates_records (previousOperatorSet newOperatorSet : List Operator) :
    Records (operatorUpdates previousOperatorSet newOperatorSet)
      (listed (previousOperatorSet.map Operator.entry)) (listed (newOperatorSet.map Operator.entry)) := by
  have previousLoop : ∀ (operators : Map String OperatorUpdate) (previous : G1Point → Nat),
      (Records operators previous fun _ => 0) →
      Records (previousOperatorSet.foldl addPrevious operators)
        (overwrite previous (previousOperatorSet.map Operator.entry)) fun _ => 0 := by
    induction previousOperatorSet with
    | nil => exact fun _ _ records => records
    | cons operator rest ih => exact fun _ _ records => ih _ _ (records.addPrevious operator)
  have newLoop : ∀ (operators : Map String OperatorUpdate) (previous new : G1Point → Nat),
      Records operators previous new →
      Records (newOperatorSet.foldl addNew operators) previous
        (overwrite new (newOperatorSet.map Operator.entry)) := by
    induction newOperatorSet with
    | nil => exact fun _ _ _ records => records
    | cons operator rest ih => exact fun _ _ _ records => ih _ _ _ (records.addNew operator)
  have nothing : Records Map.empty (fun _ => 0) fun _ => 0 := by
    constructor
    · simp [Map.empty]
    · simp
  -- the second loop starts from what the first one has recorded
  exact newLoop _ _ _ (previousLoop _ _ nothing)

/-! ## What the delta lists -/

section Delta
variable {previousOperatorSet newOperatorSet : List Operator} {order : List String}

theorem mem_unsortedDelta (visits : (operatorUpdates previousOperatorSet newOperatorSet).Visits order)
    {operator : Operator} :
    operator ∈ unsortedDelta previousOperatorSet newOperatorSet order ↔
      listed (previousOperatorSet.map Operator.entry) operator.pubkey ≠
        listed (newOperatorSet.map Operator.entry) operator.pubkey ∧
      operator.weight.toNat = listed (newOperatorSet.map Operator.entry) operator.pubkey := by
  have records := operatorUpdates_records previousOperatorSet newOperatorSet
  simp only [unsortedDelta, collectDelta, List.mem_filterMap, OperatorUpdate.delta?]
  constructor
  · rintro ⟨⟨key, update⟩, member, result⟩
    obtain ⟨_, previousWeight, newWeight⟩ := records.entry key update (visits.mem_range.mp member)
    obtain ⟨changed, same⟩ := Option.ite_none_right_eq_some.mp result
    cases same
    rw [← previousWeight, ← newWeight]
    exact ⟨mt BitVec.eq_of_toNat_eq changed, rfl⟩
  · rintro ⟨changed, newWeight⟩
    cases found : operatorUpdates previousOperatorSet newOperatorSet (operatorKey operator.pubkey) with
    | none =>
      obtain ⟨noPrevious, noNew⟩ := records.absent operator.pubkey found
      exact absurd (noPrevious.trans noNew.symm) changed
    | some update =>
      obtain ⟨pubkey, previous, new⟩ := update
      obtain ⟨sameKey, previousRecorded, newRecorded⟩ := records.entry _ _ found
      obtain rfl : operator.pubkey = pubkey := operatorKey_injective sameKey
      refine ⟨(operatorKey operator.pubkey, ⟨operator.pubkey, previous, new⟩), visits.mem_range.mpr found, ?_⟩
      simp only at previousRecorded newRecorded ⊢
      rw [← previousRecorded, ← newRecorded] at changed
      rw [if_pos (mt (congrArg BitVec.toNat) changed), BitVec.eq_of_toNat_eq (newRecorded.trans newWeight.symm)]

theorem collectDelta_keys {entries : List (String × OperatorUpdate)}
    (recorded : ∀ entry ∈ entries, entry.1 = operatorKey entry.2.pubkey) :
    (((collectDelta entries).map Operator.pubkey).map operatorKey).Sublist (entries.map Prod.fst) := by
  induction entries with
  | nil => exact List.Sublist.refl _
  | cons entry entries ih =>
    simp only [List.mem_cons, forall_eq_or_imp] at recorded
    have rest := ih recorded.2
    unfold collectDelta at rest ⊢
    by_cases changed : entry.2.previousWeight ≠ entry.2.newWeight
    · have kept : entry.2.delta? = some ⟨entry.2.pubkey, entry.2.newWeight⟩ := if_pos changed
      simp only [List.filterMap_cons, kept, List.map_cons, recorded.1]
      exact rest.cons_cons _
    · have dropped : entry.2.delta? = none := if_neg changed
      simp only [List.filterMap_cons, dropped, List.map_cons]
      exact rest.cons _

theorem unsortedDelta_distinct (visits : (operatorUpdates previousOperatorSet newOperatorSet).Visits order) :
    ((unsortedDelta previousOperatorSet newOperatorSet order).map Operator.pubkey).Nodup := by
  have records := operatorUpdates_records previousOperatorSet newOperatorSet
  have keys := collectDelta_keys fun entry member => (records.entry _ _ (visits.mem_range.mp member)).1
  rw [visits.keys] at keys
  exact (keys.nodup visits.once).of_map

theorem getOperatorSetUpdateDelta_perm (random : Nat → Nat → Nat) (keccak256 : Bytes → Bytes32) :
    (getOperatorSetUpdateDelta random keccak256 previousOperatorSet newOperatorSet order).Perm
      (unsortedDelta previousOperatorSet newOperatorSet order) :=
  Routine.run_perm _ _

end Delta

end Sffl.Chainio
