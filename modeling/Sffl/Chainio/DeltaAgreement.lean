import Sffl.Chainio.OperatorSetDelta
import Sffl.Evm.SmallCurve
import Sffl.Rollup.Messages

/-! Whether operators agree on the delta of an update.

Every operator builds its message from the delta that its own process makes, in
an order that depends on the iteration order of a Go map. Their signatures only
add up if the messages have one digest.
-/

set_option autoImplicit false

namespace Sffl.Chainio

open Sffl.Evm Sffl.Golang Sffl.Rollup Sffl.Algebra

def newG1Point (pubkey : G1Point) : G1Point :=
  -- coordinates are reduced when they become field elements
  ⟨BitVec.ofNat 256 (pubkey.X.toNat % FP_MODULUS), BitVec.ofNat 256 (pubkey.Y.toNat % FP_MODULUS)⟩

def operatorSetUpdateMessage (id timestamp : Uint 64) (operatorSetDelta : List Operator) : OperatorSetUpdate :=
  ⟨id, timestamp, operatorSetDelta.map fun operator => ⟨newG1Point operator.pubkey, operator.weight⟩⟩

/-- One delta for all iteration orders, ascending in the hashes of its keys, and
with it one digest. -/
def Agreement (random : Nat → Nat → Nat) (keccak256 : Bytes → Bytes32)
    (previousOperatorSet newOperatorSet : List Operator) : Prop :=
  ∀ order other,
    (operatorUpdates previousOperatorSet newOperatorSet).Visits order →
    (operatorUpdates previousOperatorSet newOperatorSet).Visits other →
    let delta := getOperatorSetUpdateDelta random keccak256 previousOperatorSet newOperatorSet
    delta order = delta other ∧
    ((delta order).map fun operator => (hashBNG1Point keccak256 operator.pubkey).toNat).Pairwise (· < ·) ∧
    ∀ id timestamp, (operatorSetUpdateMessage id timestamp (delta order)).hash keccak256 =
      (operatorSetUpdateMessage id timestamp (delta other)).hash keccak256

/-- The public keys whose weight differs between the two sets. -/
noncomputable def changedPubkeys (previousOperatorSet newOperatorSet : List Operator) : Finset G1Point :=
  Finset.univ.filter fun pubkey => listed (previousOperatorSet.map Operator.entry) pubkey ≠
    listed (newOperatorSet.map Operator.entry) pubkey

section Orders
variable {previousOperatorSet newOperatorSet : List Operator} {order : List String}

theorem insert_isSome {operators : Map String OperatorUpdate} {key other : String} {update : OperatorUpdate} :
    (operators.insert key update other).isSome ↔ other = key ∨ (operators other).isSome := by
  by_cases same : other = key
  · simp [same]
  · simp [same, Map.insert_of_ne]

theorem operatorUpdates_isSome (key : String) :
    (operatorUpdates previousOperatorSet newOperatorSet key).isSome ↔
      key ∈ (previousOperatorSet ++ newOperatorSet).map fun operator => operatorKey operator.pubkey := by
  have previousLoop : ∀ operators : Map String OperatorUpdate,
      (previousOperatorSet.foldl addPrevious operators key).isSome ↔
        key ∈ (previousOperatorSet.map fun operator => operatorKey operator.pubkey) ∨ (operators key).isSome := by
    induction previousOperatorSet with
    | nil => simp
    | cons operator rest ih =>
      intro operators
      rw [List.foldl_cons, ih, addPrevious, insert_isSome, List.map_cons, List.mem_cons]
      tauto
  have newLoop : ∀ operators : Map String OperatorUpdate,
      (newOperatorSet.foldl addNew operators key).isSome ↔
        key ∈ (newOperatorSet.map fun operator => operatorKey operator.pubkey) ∨ (operators key).isSome := by
    induction newOperatorSet with
    | nil => simp
    | cons operator rest ih =>
      intro operators
      rw [List.foldl_cons, ih, addNew, insert_isSome, List.map_cons, List.mem_cons]
      tauto
  rw [operatorUpdates, newLoop, previousLoop, List.map_append, List.mem_append]
  simp only [Map.empty, Option.isSome_none, Bool.false_eq_true, or_false]
  tauto

theorem visits_of_keys (distinct : order.Nodup)
    (keys : ∀ key, key ∈ order ↔
      key ∈ (previousOperatorSet ++ newOperatorSet).map fun operator => operatorKey operator.pubkey) :
    (operatorUpdates previousOperatorSet newOperatorSet).Visits order :=
  ⟨distinct, fun key => (keys key).trans (operatorUpdates_isSome key).symm⟩

theorem exists_visits (previousOperatorSet newOperatorSet : List Operator) :
    ∃ order, (operatorUpdates previousOperatorSet newOperatorSet).Visits order :=
  ⟨_, visits_of_keys (List.nodup_dedup _) fun _ => List.mem_dedup⟩

theorem exists_order (visits : (operatorUpdates previousOperatorSet newOperatorSet).Visits order)
    {arranged : List Operator} (perm : arranged.Perm (unsortedDelta previousOperatorSet newOperatorSet order)) :
    ∃ other, (operatorUpdates previousOperatorSet newOperatorSet).Visits other ∧
      unsortedDelta previousOperatorSet newOperatorSet other = arranged := by
  obtain ⟨entries, rearranged, collected⟩ := Map.exists_perm_filterMap perm
  obtain ⟨otherVisits, visited⟩ := visits.rearrange rearranged
  exact ⟨_, otherVisits, by rw [unsortedDelta, visited]; exact collected⟩

theorem unsortedDelta_toFinset (visits : (operatorUpdates previousOperatorSet newOperatorSet).Visits order) :
    ((unsortedDelta previousOperatorSet newOperatorSet order).map Operator.pubkey).toFinset =
      changedPubkeys previousOperatorSet newOperatorSet := by
  ext pubkey
  simp only [List.mem_toFinset, List.mem_map, changedPubkeys, Finset.mem_filter, Finset.mem_univ, true_and]
  constructor
  · rintro ⟨operator, member, rfl⟩
    exact ((mem_unsortedDelta visits).mp member).1
  · intro changed
    let operator : Operator := ⟨pubkey, BitVec.ofNatLT _ (listed_lt newOperatorSet pubkey)⟩
    exact ⟨operator, (mem_unsortedDelta visits).mpr ⟨changed, rfl⟩, rfl⟩

theorem unsortedDelta_length (visits : (operatorUpdates previousOperatorSet newOperatorSet).Visits order) :
    (unsortedDelta previousOperatorSet newOperatorSet order).length =
      (changedPubkeys previousOperatorSet newOperatorSet).card := by
  rw [← unsortedDelta_toFinset visits, List.toFinset_card_of_nodup (unsortedDelta_distinct visits), List.length_map]

theorem mem_of_changed {pubkey : G1Point}
    (changed : pubkey ∈ changedPubkeys previousOperatorSet newOperatorSet) :
    pubkey ∈ (previousOperatorSet ++ newOperatorSet).map Operator.pubkey := by
  have zero : ∀ operators : List Operator, pubkey ∉ operators.map Operator.pubkey →
      listed (operators.map Operator.entry) pubkey = 0 := by
    intro operators unlisted
    apply overwrite_of_not_mem
    rw [List.map_map]
    exact unlisted
  by_contra unlisted
  simp only [List.map_append, List.mem_append, not_or] at unlisted
  simp only [changedPubkeys, Finset.mem_filter, zero _ unlisted.1, zero _ unlisted.2] at changed
  exact changed.2 rfl

variable (random : Nat → Nat → Nat) {keccak256 : Bytes → Bytes32}
  (collisionFree : Set.InjOn (hashBNG1Point keccak256)
    {pubkey | pubkey ∈ (previousOperatorSet ++ newOperatorSet).map Operator.pubkey})
include collisionFree

theorem unsortedDelta_hashes (visits : (operatorUpdates previousOperatorSet newOperatorSet).Visits order) :
    ((unsortedDelta previousOperatorSet newOperatorSet order).map fun operator =>
      (hashBNG1Point keccak256 operator.pubkey).toNat).Nodup := by
  have hashed : ((unsortedDelta previousOperatorSet newOperatorSet order).map Operator.pubkey).map
      (fun pubkey => (hashBNG1Point keccak256 pubkey).toNat) =
      (unsortedDelta previousOperatorSet newOperatorSet order).map fun operator =>
        (hashBNG1Point keccak256 operator.pubkey).toNat := by rw [List.map_map]; rfl
  rw [← hashed]
  refine (unsortedDelta_distinct visits).map_on ?_
  intro first firstMember second secondMember same
  rw [← List.mem_toFinset, unsortedDelta_toFinset visits] at firstMember secondMember
  exact collisionFree (mem_of_changed firstMember) (mem_of_changed secondMember) (BitVec.eq_of_toNat_eq same)

theorem delta_ascending (few : (changedPubkeys previousOperatorSet newOperatorSet).card ≤ 2)
    (visits : (operatorUpdates previousOperatorSet newOperatorSet).Visits order) :
    ((getOperatorSetUpdateDelta random keccak256 previousOperatorSet newOperatorSet order).map fun operator =>
      (hashBNG1Point keccak256 operator.pubkey).toNat).Pairwise (· < ·) :=
  sortFixed_ascending random (by rw [unsortedDelta_length visits]; exact few) (unsortedDelta_hashes collisionFree visits)

theorem delta_unique (few : (changedPubkeys previousOperatorSet newOperatorSet).card ≤ 2) {other : List String}
    (visits : (operatorUpdates previousOperatorSet newOperatorSet).Visits order)
    (otherVisits : (operatorUpdates previousOperatorSet newOperatorSet).Visits other) :
    getOperatorSetUpdateDelta random keccak256 previousOperatorSet newOperatorSet order =
      getOperatorSetUpdateDelta random keccak256 previousOperatorSet newOperatorSet other := by
  have unsorted : (unsortedDelta previousOperatorSet newOperatorSet order).Perm
      (unsortedDelta previousOperatorSet newOperatorSet other) := (visits.perm otherVisits).filterMap _
  have perm := ((getOperatorSetUpdateDelta_perm random keccak256).trans unsorted).trans
    (getOperatorSetUpdateDelta_perm random keccak256).symm
  -- the two results list the same entries, and an ascending list is determined by its entries
  refine perm.eq_of_pairwise ?_ (List.pairwise_map.mp (delta_ascending random collisionFree few visits))
    (List.pairwise_map.mp (delta_ascending random collisionFree few otherVisits))
  intro first second _ _ less greater
  omega

theorem not_agreement (several : 3 ≤ (changedPubkeys previousOperatorSet newOperatorSet).card) :
    ¬Agreement random keccak256 previousOperatorSet newOperatorSet := by
  obtain ⟨order, visits⟩ := exists_visits previousOperatorSet newOperatorSet
  rw [← unsortedDelta_length visits] at several
  obtain ⟨first, second, firstPerm, secondPerm, different⟩ :=
    sortFixed_arrangements random (unsortedDelta_hashes collisionFree visits) several
  -- the map may be visited in any order, so both arrangements can be what the sort starts from
  obtain ⟨firstOrder, firstVisits, rfl⟩ := exists_order visits firstPerm
  obtain ⟨secondOrder, secondVisits, rfl⟩ := exists_order visits secondPerm
  exact fun agreement => different (agreement firstOrder secondOrder firstVisits secondVisits).1

/-- Operators are sure to agree on an update exactly when it changes the weight
of at most two public keys. -/
theorem agreement_iff :
    Agreement random keccak256 previousOperatorSet newOperatorSet ↔
      (changedPubkeys previousOperatorSet newOperatorSet).card ≤ 2 := by
  constructor
  · intro agreement
    by_contra several
    exact not_agreement random collisionFree (by omega) agreement
  · intro few order other visits otherVisits
    have same := delta_unique random collisionFree few visits otherVisits
    exact ⟨same, delta_ascending random collisionFree few visits, fun id timestamp => by simp only [same]⟩

end Orders

def pairOfOperators : List Operator := [⟨generatorMultiple 1, 5⟩, ⟨generatorMultiple (2 : Nat), 7⟩]

theorem agreement_iff_pairOfOperators : Agreement (fun _ _ => 0) smallCurve.keccak256 [] pairOfOperators := by
  have collisionFree : Set.InjOn (hashBNG1Point smallCurve.keccak256)
      {pubkey | pubkey ∈ ([] ++ pairOfOperators).map Operator.pubkey} := by
    have different : hashBNG1Point smallCurve.keccak256 (generatorMultiple 1) ≠
        hashBNG1Point smallCurve.keccak256 (generatorMultiple 2) := by decide
    intro first firstMember second secondMember same
    simp only [pairOfOperators, List.nil_append, List.map_cons, List.map_nil, List.mem_cons, List.not_mem_nil, or_false,
      Set.mem_ofPred_eq] at firstMember secondMember
    rcases firstMember with rfl | rfl <;> rcases secondMember with rfl | rfl
    · rfl
    · exact absurd same different
    · exact absurd same.symm different
    · rfl
  refine (agreement_iff (fun _ _ => 0) collisionFree).mpr ?_
  have known : changedPubkeys [] pairOfOperators ⊆ (pairOfOperators.map Operator.pubkey).toFinset :=
    fun _ changed => List.mem_toFinset.mpr (mem_of_changed changed)
  exact (Finset.card_le_card known).trans (List.toFinset_card_le _)

def threeOperators : List Operator :=
  [⟨generatorMultiple 1, 5⟩, ⟨generatorMultiple (2 : Nat), 7⟩, ⟨generatorMultiple (3 : Nat), 9⟩]

def visitThree (scalars : List (ZMod 7)) : List String :=
  scalars.map fun scalar => operatorKey (generatorMultiple scalar)

/-- Three operators join. One process lists them with ascending hashes, another
one, which met them in another order, does not. -/
theorem three_operators_disagree :
    (operatorUpdates [] threeOperators).Visits (visitThree [2, 1, 3]) ∧
    (operatorUpdates [] threeOperators).Visits (visitThree [3, 1, 2]) ∧
    getOperatorSetUpdateDelta (fun _ _ => 0) smallCurve.keccak256 [] threeOperators (visitThree [2, 1, 3]) =
      [⟨generatorMultiple 2, 7⟩, ⟨generatorMultiple 3, 9⟩, ⟨generatorMultiple 1, 5⟩] ∧
    getOperatorSetUpdateDelta (fun _ _ => 0) smallCurve.keccak256 [] threeOperators (visitThree [3, 1, 2]) =
      [⟨generatorMultiple 3, 9⟩, ⟨generatorMultiple 2, 7⟩, ⟨generatorMultiple 1, 5⟩] := by
  have visits : ∀ scalars : List (ZMod 7), (visitThree scalars).Nodup →
      (∀ scalar, scalar ∈ scalars ↔ scalar ∈ [1, 2, 3]) →
      (operatorUpdates [] threeOperators).Visits (visitThree scalars) := by
    intro scalars distinct same
    refine visits_of_keys distinct fun key => ?_
    simp [visitThree, threeOperators, same, eq_comm]
  refine ⟨visits _ (by decide +kernel) (by decide), visits _ (by decide +kernel) (by decide), ?_, ?_⟩
  · decide +kernel
  · decide +kernel

end Sffl.Chainio
