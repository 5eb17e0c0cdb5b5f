import Sffl.Crypto.MerklePath
import Sffl.Evm.Bytes

/-! Proofs in a checkpoint's sparse Merkle tree.

A proof lists its side nodes from the leaf up, without those that are zero,
which a bit mask marks. Its leaf holds the key's value, or nothing, or another
key's value. Leaves and inner nodes are hashed under different first bytes.
-/

set_option autoImplicit false

namespace Sffl.Eth

open Sffl.Evm Sffl.Crypto

structure Proof where
  key : Bytes32
  value : Bytes32
  bitMask : Uint 256
  sideNodes : List Bytes32
  numSideNodes : Uint 256
  nonMembershipLeafPath : Bytes32
  nonMembershipLeafValue : Bytes32
  deriving DecidableEq, Repr

def MAX_DEPTH : Nat := 256

def DEFAULT_VALUE : Bytes32 := 0

def LEAF_NODE_PREFIX : UInt8 := 0

def INNER_NODE_PREFIX : UInt8 := 1

def nodeBytes (kind : UInt8) (left right : Bytes32) : Bytes := kind :: (wordBytes left ++ wordBytes right)

section Verification
variable (keccak256 : Bytes → Bytes32)

def hashNode (kind : UInt8) (left right : Bytes32) : Bytes32 := keccak256 (nodeBytes kind left right)

def computeProofLeaf (path : Bytes32) (proof : Proof) : Call Bytes32 :=
  if proof.value = DEFAULT_VALUE then
    if proof.nonMembershipLeafPath = 0 then .ok DEFAULT_VALUE
    else do
      -- another key's leaf stands where this key's leaf would be
      require (proof.nonMembershipLeafPath ≠ path) "nonMembershipLeaf not unrelated"
      return hashNode keccak256 LEAF_NODE_PREFIX proof.nonMembershipLeafPath proof.nonMembershipLeafValue
  else .ok (hashNode keccak256 LEAF_NODE_PREFIX path proof.value)

/-- The side node of a level, and the index of the next one in the list. -/
def nextSideNode (proof : Proof) (i sideNodeIndex : Nat) : Call (Bytes32 × Nat) :=
  if proof.bitMask.getLsbD i then .ok (DEFAULT_VALUE, sideNodeIndex)
  else
    match proof.sideNodes[sideNodeIndex]? with
    | some sideNode => .ok (sideNode, sideNodeIndex + 1)
    -- the index is outside the list's bounds
    | none => .error .panic

def climbLevel (proof : Proof) (index : Uint 256) (state : Bytes32 × Nat) (i : Nat) : Call (Bytes32 × Nat) := do
  let (sideNode, sideNodeIndex) ← nextSideNode proof i state.2
  let currentHash :=
    if index.getLsbD i = false then hashNode keccak256 INNER_NODE_PREFIX state.1 sideNode
    else hashNode keccak256 INNER_NODE_PREFIX sideNode state.1
  return (currentHash, sideNodeIndex)

def computeProofRoot (proof : Proof) : Call Bytes32 := do
  let path := keccak256 (wordBytes proof.key)
  let leaf ← computeProofLeaf keccak256 path proof
  let index := path >>> (256 - proof.numSideNodes.toNat)
  let (currentHash, _) ←
    (List.range proof.numSideNodes.toNat).foldlM (climbLevel keccak256 proof index) (leaf, 0)
  return currentHash

def verifyProof (root : Bytes32) (proof : Proof) : Call Bool := do
  require (proof.sideNodes.length ≤ MAX_DEPTH ∧ proof.numSideNodes.toNat ≤ MAX_DEPTH) "Side nodes exceed depth"
  let computed ← computeProofRoot keccak256 proof
  return decide (root = computed)

end Verification

/-! ## A proof as a path -/

/-- The lowest `count` levels of a proof, from the top down, with the side nodes put back. -/
def levels (proof : Proof) (index : Uint 256) : (count : Nat) → Call (List (Bool × Bytes32) × Nat)
  | 0 => .ok ([], 0)
  | i + 1 => do
    let (below, sideNodeIndex) ← levels proof index i
    let (sideNode, sideNodeIndex) ← nextSideNode proof i sideNodeIndex
    return ((index.getLsbD i, sideNode) :: below, sideNodeIndex)

section Path
variable {keccak256 : Bytes → Bytes32} {proof : Proof} {index : Uint 256}

theorem climb_eq_levels (leaf : Bytes32) (count : Nat) :
    (List.range count).foldlM (climbLevel keccak256 proof index) (leaf, 0) = do
      let (path, sideNodeIndex) ← levels proof index count
      return (rootOf (hashNode keccak256 INNER_NODE_PREFIX) leaf path, sideNodeIndex) := by
  induction count with
  | zero => rfl
  | succ i ih =>
    rw [List.range_succ, List.foldlM_append, ih, levels]
    cases levels proof index i with
    | error reverted => rfl
    | ok found =>
      obtain ⟨below, sideNodeIndex⟩ := found
      simp only [ok_bind, List.foldlM_cons, List.foldlM_nil, climbLevel, pure, Except.pure]
      cases nextSideNode proof i sideNodeIndex with
      | error reverted => rfl
      | ok next =>
        simp only [ok_bind, rootOf, children]
        cases index.getLsbD i <;> rfl

theorem levels_turn {count : Nat} {path : List (Bool × Bytes32)} {sideNodeIndex : Nat}
    (found : levels proof index count = .ok (path, sideNodeIndex)) :
    path.length = count ∧ ∀ k level, path[k]? = some level → level.1 = index.getLsbD (count - 1 - k) := by
  induction count generalizing path sideNodeIndex with
  | zero =>
    cases found
    simp
  | succ i ih =>
    obtain ⟨⟨below, before⟩, earlier, rest⟩ := bind_eq_ok.mp found
    obtain ⟨⟨sideNode, after⟩, _, result⟩ := bind_eq_ok.mp rest
    cases result
    obtain ⟨length, turn⟩ := ih earlier
    refine ⟨by simp [length], fun k level here => ?_⟩
    cases k with
    | zero =>
      cases here
      simp
    | succ k =>
      rw [turn k level here]
      congr 1
      omega

theorem computeProofRoot_ok {root : Bytes32} (computed : computeProofRoot keccak256 proof = .ok root) :
    ∃ leaf path sideNodeIndex,
      computeProofLeaf keccak256 (keccak256 (wordBytes proof.key)) proof = .ok leaf ∧
      levels proof (keccak256 (wordBytes proof.key) >>> (256 - proof.numSideNodes.toNat)) proof.numSideNodes.toNat =
        .ok (path, sideNodeIndex) ∧
      root = rootOf (hashNode keccak256 INNER_NODE_PREFIX) leaf path := by
  obtain ⟨leaf, leafComputed, rest⟩ := bind_eq_ok.mp computed
  obtain ⟨⟨current, index⟩, climbed, result⟩ := bind_eq_ok.mp rest
  cases result
  rw [climb_eq_levels] at climbed
  obtain ⟨⟨path, sideNodeIndex⟩, found, same⟩ := bind_eq_ok.mp climbed
  cases same
  exact ⟨leaf, path, _, leafComputed, found, rfl⟩

end Path

/-! ## What a proof hashes -/

def leafInputs (path : Bytes32) (proof : Proof) : List Bytes :=
  if proof.value = DEFAULT_VALUE then
    if proof.nonMembershipLeafPath = 0 then []
    else [nodeBytes LEAF_NODE_PREFIX proof.nonMembershipLeafPath proof.nonMembershipLeafValue]
  else [nodeBytes LEAF_NODE_PREFIX path proof.value]

def hashedInputs (keccak256 : Bytes → Bytes32) (proof : Proof) : List Bytes :=
  let path := keccak256 (wordBytes proof.key)
  let index := path >>> (256 - proof.numSideNodes.toNat)
  leafInputs path proof ++
    match computeProofLeaf keccak256 path proof, levels proof index proof.numSideNodes.toNat with
    | .ok leaf, .ok (levels, _) =>
        (hashedPairs (hashNode keccak256 INNER_NODE_PREFIX) leaf levels).map fun pair =>
          nodeBytes INNER_NODE_PREFIX pair.1 pair.2
    | _, _ => []

structure CollisionFree (keccak256 : Bytes → Bytes32) (inputs : List Bytes) : Prop where
  injective : ∀ first ∈ inputs, ∀ second ∈ inputs, keccak256 first = keccak256 second → first = second
  nonzero : ∀ input ∈ inputs, keccak256 input ≠ 0

theorem nodeBytes_inj {kind kind' : UInt8} {left right left' right' : Bytes32} :
    nodeBytes kind left right = nodeBytes kind' left' right' ↔ kind = kind' ∧ left = left' ∧ right = right' := by
  simp only [nodeBytes, List.cons.injEq, wordBytes_append_inj, wordBytes_inj]

section Unique
variable {keccak256 : Bytes → Bytes32} {inputs : List Bytes}

theorem computeProofLeaf_ok {path leaf : Bytes32} {proof : Proof}
    (computed : computeProofLeaf keccak256 path proof = .ok leaf) :
    proof.value = 0 ∧ leaf = 0 ∨
    proof.value = 0 ∧ (∃ other value, other ≠ path ∧ nodeBytes LEAF_NODE_PREFIX other value ∈ leafInputs path proof ∧
      leaf = hashNode keccak256 LEAF_NODE_PREFIX other value) ∨
    proof.value ≠ 0 ∧ nodeBytes LEAF_NODE_PREFIX path proof.value ∈ leafInputs path proof ∧
      leaf = hashNode keccak256 LEAF_NODE_PREFIX path proof.value := by
  unfold computeProofLeaf at computed
  unfold leafInputs
  by_cases empty : proof.value = DEFAULT_VALUE
  · rw [if_pos empty] at computed ⊢
    by_cases nothing : proof.nonMembershipLeafPath = 0
    · rw [if_pos nothing] at computed
      cases computed
      exact Or.inl ⟨empty, rfl⟩
    · rw [if_neg nothing] at computed ⊢
      obtain ⟨_, unrelated, result⟩ := bind_eq_ok.mp computed
      cases result
      exact Or.inr (Or.inl ⟨empty, _, _, require_eq_ok.mp unrelated, List.mem_singleton.mpr rfl, rfl⟩)
  · rw [if_neg empty] at computed ⊢
    cases computed
    exact Or.inr (Or.inr ⟨empty, List.mem_singleton.mpr rfl, rfl⟩)

variable (secure : CollisionFree keccak256 inputs)
include secure

theorem hashNode_inj {kind kind' : UInt8} {left right left' right' : Bytes32}
    (hashed : nodeBytes kind left right ∈ inputs) (hashed' : nodeBytes kind' left' right' ∈ inputs)
    (same : hashNode keccak256 kind left right = hashNode keccak256 kind' left' right') :
    kind = kind' ∧ left = left' ∧ right = right' :=
  nodeBytes_inj.mp (secure.injective _ hashed _ hashed' same)

theorem leaf_proper {path leaf : Bytes32} {proof : Proof} (computed : computeProofLeaf keccak256 path proof = .ok leaf)
    (hashed : ∀ input ∈ leafInputs path proof, input ∈ inputs) {left right : Bytes32}
    (inner : nodeBytes INNER_NODE_PREFIX left right ∈ inputs) :
    leaf ≠ hashNode keccak256 INNER_NODE_PREFIX left right := by
  intro same
  rcases computeProofLeaf_ok computed with ⟨_, rfl⟩ | ⟨_, other, value, _, member, rfl⟩ | ⟨_, member, rfl⟩
  · exact secure.nonzero _ inner same.symm
  · exact absurd (hashNode_inj secure (hashed _ member) inner same).1 (by decide)
  · exact absurd (hashNode_inj secure (hashed _ member) inner same).1 (by decide)

theorem leaf_value {path leaf : Bytes32} {first second : Proof}
    (firstLeaf : computeProofLeaf keccak256 path first = .ok leaf)
    (secondLeaf : computeProofLeaf keccak256 path second = .ok leaf)
    (hashed : ∀ input ∈ leafInputs path first, input ∈ inputs)
    (hashed' : ∀ input ∈ leafInputs path second, input ∈ inputs) (included : first.value ≠ 0) :
    first.value = second.value := by
  rcases computeProofLeaf_ok firstLeaf with ⟨empty, _⟩ | ⟨empty, _⟩ | ⟨_, member, rfl⟩
  · exact absurd empty included
  · exact absurd empty included
  rcases computeProofLeaf_ok secondLeaf with ⟨_, zero⟩ | ⟨_, other, value, unrelated, member', same⟩ | ⟨_, member', same⟩
  · exact absurd zero (secure.nonzero _ (hashed _ member))
  · exact absurd (hashNode_inj secure (hashed _ member) (hashed' _ member') same).2.1.symm unrelated
  · exact (hashNode_inj secure (hashed _ member) (hashed' _ member') same).2.2

omit secure in
theorem verifyProof_ok {root : Bytes32} {proof : Proof} (accepted : verifyProof keccak256 root proof = .ok true) :
    proof.numSideNodes.toNat ≤ 256 ∧ computeProofRoot keccak256 proof = .ok root := by
  obtain ⟨_, bounded, rest⟩ := bind_eq_ok.mp accepted
  obtain ⟨computed, found, result⟩ := bind_eq_ok.mp rest
  have same : root = computed := of_decide_eq_true (Except.ok.inj result)
  exact ⟨(require_eq_ok.mp bounded).2, same ▸ found⟩

omit secure in
/-- Level `k` of a proof, from the top, turns at bit `255 - k` of the path,
however many levels the proof has. -/
theorem turn_at_bit {path : Bytes32} {proof : Proof} {found : List (Bool × Bytes32)} {sideNodeIndex : Nat}
    (bounded : proof.numSideNodes.toNat ≤ 256)
    (decompacted : levels proof (path >>> (256 - proof.numSideNodes.toNat)) proof.numSideNodes.toNat =
      .ok (found, sideNodeIndex)) (k : Nat) (level : Bool × Bytes32) (here : found[k]? = some level) :
    level.1 = path.getLsbD (255 - k) := by
  obtain ⟨length, turn⟩ := levels_turn decompacted
  -- the shift drops the bits below the proof's depth, so bit `count - 1 - k` was bit `255 - k`
  have inside := (List.getElem?_eq_some_iff.mp here).1
  rw [turn k level here, BitVec.getLsbD_ushiftRight]
  congr 1
  omega

/-- Under one root, a key has one provable value. -/
theorem verifyProof_value {root : Bytes32} {first second : Proof} (sameKey : first.key = second.key)
    (hashed : ∀ input ∈ hashedInputs keccak256 first, input ∈ inputs)
    (hashed' : ∀ input ∈ hashedInputs keccak256 second, input ∈ inputs)
    (accepted : verifyProof keccak256 root first = .ok true)
    (accepted' : verifyProof keccak256 root second = .ok true) : first.value = second.value := by
  obtain ⟨bounded, computed⟩ := verifyProof_ok accepted
  obtain ⟨bounded', computed'⟩ := verifyProof_ok accepted'
  obtain ⟨leaf, path, _, leafComputed, decompacted, root₁⟩ := computeProofRoot_ok computed
  obtain ⟨leaf', path', _, leafComputed', decompacted', root₂⟩ := computeProofRoot_ok computed'
  simp only [hashedInputs, leafComputed, decompacted, List.mem_append, List.mem_map] at hashed
  simp only [hashedInputs, leafComputed', decompacted', List.mem_append, List.mem_map] at hashed'
  -- one key has one path, so both proofs turn by the same bits
  rw [← sameKey] at leafComputed' decompacted' hashed'
  have leafHashed : ∀ input ∈ leafInputs (keccak256 (wordBytes first.key)) first, input ∈ inputs :=
    fun input member => hashed input (Or.inl member)
  have leafHashed' : ∀ input ∈ leafInputs (keccak256 (wordBytes first.key)) second, input ∈ inputs :=
    fun input member => hashed' input (Or.inl member)
  have sameLeaf : leaf = leaf' := by
    refine leaf_unique (fun pair => nodeBytes INNER_NODE_PREFIX pair.1 pair.2 ∈ inputs) ?_ ?_ ?_ ?_ ?_ ?_
      (root₁.symm.trans root₂)
    · intro pair pair' used used' same
      obtain ⟨_, left, right⟩ := hashNode_inj secure used used' same
      exact Prod.ext left right
    · exact fun pair used => leaf_proper secure leafComputed leafHashed used
    · exact fun pair used => leaf_proper secure leafComputed' leafHashed' used
    · intro k level level' here there
      rw [turn_at_bit bounded decompacted k level here, turn_at_bit bounded' decompacted' k level' there]
    · exact fun pair member => hashed _ (Or.inr ⟨pair, member, rfl⟩)
    · exact fun pair member => hashed' _ (Or.inr ⟨pair, member, rfl⟩)
  subst sameLeaf
  -- two absences agree; otherwise the proof with a value determines the shared leaf
  by_cases included : first.value = 0
  · by_cases included' : second.value = 0
    · rw [included, included']
    · exact (leaf_value secure leafComputed' leafComputed leafHashed' leafHashed included').symm
  · exact leaf_value secure leafComputed leafComputed' leafHashed leafHashed' included

end Unique

end Sffl.Eth
