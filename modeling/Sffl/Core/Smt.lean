import Sffl.Eth.SparseMerkleTree
import Sffl.Golang.Bits

/-! Checkpoint proofs on their way from Go to Solidity.

The tree's library makes a proof with all its side nodes and then compacts it:
the nodes that are zero are left out and marked in a bit mask. `NewSMTVerifierProof`
turns the mask into an integer, so that the contract can test its bits.
-/

set_option autoImplicit false

namespace Sffl.Core

open Sffl.Evm Sffl.Golang Sffl.Eth

/-- A proof with all side nodes, from the leaf up, and the path and value of the leaf that stands in the key's place. -/
structure SparseMerkleProof where
  sideNodes : List Bytes32
  nonMembershipLeaf : Option (Bytes32 × Bytes32)

structure SparseCompactMerkleProof where
  sideNodes : List Bytes
  nonMembershipLeafData : Option Bytes
  bitMask : Bytes
  numSideNodes : Nat
  deriving DecidableEq

/-- What the library does is assumed: it marks the zero nodes and keeps the others. -/
def SparseMerkleProof.bitMask (proof : SparseMerkleProof) : Bytes :=
  proof.sideNodes.zipIdx.foldl (fun bitMask node => if node.1 = 0 then setBit bitMask node.2 else bitMask)
    (List.replicate ((proof.sideNodes.length + 7) / 8) 0)

def leafData (path value : Bytes32) : Bytes := 0 :: (wordBytes path ++ wordBytes value)

def SparseMerkleProof.compact (proof : SparseMerkleProof) : SparseCompactMerkleProof where
  sideNodes := (proof.sideNodes.filter (· ≠ 0)).map wordBytes
  nonMembershipLeafData := proof.nonMembershipLeaf.map fun leaf => leafData leaf.1 leaf.2
  bitMask := proof.bitMask
  numSideNodes := proof.sideNodes.length

structure SMTVerifierCompactProof where
  key : Bytes32
  value : Bytes32
  bitMask : Nat
  sideNodes : List Bytes32
  numSideNodes : Nat
  nonMembershipLeafPath : Bytes32
  nonMembershipLeafValue : Bytes32
  deriving DecidableEq

/-- The conversion of a slice to an array, which panics if the slice is too short. -/
def toArray32 (bytes : Bytes) : Option Bytes32 :=
  if 32 ≤ bytes.length then some (BitVec.ofNat 256 (setBytes (bytes.take 32))) else none

def formatBitMask (bitMask : Bytes) : Bytes := bitMask.reverse.map reverse8

def readLeafData : Option Bytes → Option (Bytes32 × Bytes32)
  | none => some (0, 0)
  | some data => do
    let path ← toArray32 (data.drop 1)
    let value ← toArray32 (data.drop 33)
    return (path, value)

def newSMTVerifierProof (key value : Bytes32) (proof : SparseCompactMerkleProof) : Option SMTVerifierCompactProof := do
  let sideNodes ← proof.sideNodes.mapM toArray32
  let (nonMembershipLeafPath, nonMembershipLeafValue) ← readLeafData proof.nonMembershipLeafData
  return {
    key
    value
    bitMask := setBytes (formatBitMask proof.bitMask)
    sideNodes
    numSideNodes := proof.numSideNodes
    nonMembershipLeafPath
    nonMembershipLeafValue }

def SMTVerifierCompactProof.binding (proof : SMTVerifierCompactProof) : Proof where
  key := proof.key
  value := proof.value
  bitMask := BitVec.ofNat 256 proof.bitMask
  sideNodes := proof.sideNodes
  numSideNodes := BitVec.ofNat 256 proof.numSideNodes
  nonMembershipLeafPath := proof.nonMembershipLeafPath
  nonMembershipLeafValue := proof.nonMembershipLeafValue

/-! ## What the proof stands for -/

section Meaning
variable (keccak256 : Bytes → Bytes32)

/-- The leaf of the key's value, or the leaf that stands in its place, or none. -/
def SparseMerkleProof.leaf (proof : SparseMerkleProof) (path value : Bytes32) : Bytes32 :=
  if value ≠ 0 then keccak256 (leafData path value)
  else
    match proof.nonMembershipLeaf with
    | some leaf => keccak256 (leafData leaf.1 leaf.2)
    | none => 0

def nodeAbove (right : Bool) (current sideNode : Bytes32) : Bytes32 :=
  if right then hashNode keccak256 INNER_NODE_PREFIX sideNode current
  else hashNode keccak256 INNER_NODE_PREFIX current sideNode

/-- The side nodes are folded from the leaf up, along the path's bits from bit `n - 1` down to the first, which is the
most significant one. -/
def SparseMerkleProof.root (proof : SparseMerkleProof) (path leaf : Bytes32) : Bytes32 :=
  proof.sideNodes.zipIdx.foldl (fun current node =>
    nodeAbove keccak256 (path.getMsbD (proof.sideNodes.length - 1 - node.2)) current node.1) leaf

end Meaning

/-! ## Bytes and words -/

theorem toArray32_wordBytes (word : Bytes32) (rest : Bytes) : toArray32 (wordBytes word ++ rest) = some word := by
  have length := wordBytes_length word
  rw [toArray32, if_pos (by rw [List.length_append]; omega), ← length, List.take_left, wordBytes, setBytes_bigEndian,
    Nat.mod_eq_of_lt (Nat.lt_of_lt_of_le word.isLt (by decide)), BitVec.ofNat_toNat, BitVec.setWidth_eq]

theorem mapM_toArray32 (words : List Bytes32) : (words.map wordBytes).mapM toArray32 = some words := by
  induction words with
  | nil => rfl
  | cons word words ih =>
    have first := toArray32_wordBytes word []
    rw [List.append_nil] at first
    simp [first, ih]

def SparseMerkleProof.verifierProof (proof : SparseMerkleProof) (key value : Bytes32) : SMTVerifierCompactProof where
  key
  value
  bitMask := setBytes (formatBitMask proof.bitMask)
  sideNodes := proof.sideNodes.filter (· ≠ 0)
  numSideNodes := proof.sideNodes.length
  nonMembershipLeafPath := (proof.nonMembershipLeaf.map Prod.fst).getD 0
  nonMembershipLeafValue := (proof.nonMembershipLeaf.map Prod.snd).getD 0

theorem readLeafData_leafData (path value : Bytes32) : readLeafData (some (leafData path value)) = some (path, value) := by
  have first : (leafData path value).drop 1 = wordBytes path ++ wordBytes value := rfl
  have second : (leafData path value).drop 33 = wordBytes value ++ [] := by
    rw [List.append_nil, leafData, List.drop_succ_cons, ← wordBytes_length path, List.drop_left]
  simp only [readLeafData, first, second, toArray32_wordBytes, Option.bind_eq_bind, Option.bind_some]
  rfl

theorem newSMTVerifierProof_compact (proof : SparseMerkleProof) (key value : Bytes32) :
    newSMTVerifierProof key value proof.compact = some (proof.verifierProof key value) := by
  have read : readLeafData (proof.nonMembershipLeaf.map fun leaf => leafData leaf.1 leaf.2) =
      some ((proof.nonMembershipLeaf.map Prod.fst).getD 0, (proof.nonMembershipLeaf.map Prod.snd).getD 0) := by
    cases proof.nonMembershipLeaf with
    | none => rfl
    | some leaf => exact readLeafData_leafData leaf.1 leaf.2
  simp only [newSMTVerifierProof, SparseMerkleProof.compact, mapM_toArray32, read, Option.bind_eq_bind, Option.bind_some]
  rfl

/-! ## The mask -/

theorem getElem?_cons_from (node : Bytes32) (nodes : List Bytes32) (start i : Nat) :
    start ≤ i ∧ (node :: nodes)[i - start]? = some 0 ↔
      (start = i ∧ node = 0) ∨ (start + 1 ≤ i ∧ nodes[i - (start + 1)]? = some 0) := by
  rcases Nat.lt_trichotomy start i with later | same | earlier
  · have next : i - start = i - (start + 1) + 1 := by omega
    have different : start ≠ i := by omega
    simp [next, different, Nat.le_of_lt later, Nat.succ_le_of_lt later]
  · simp [same]
  · have outside : ¬ start ≤ i := by omega
    have farther : ¬ start + 1 ≤ i := by omega
    have different : start ≠ i := by omega
    simp [outside, farther, different]

theorem bitAt_markZeros (nodes : List Bytes32) (start : Nat) {bitMask : Bytes}
    (fits : start + nodes.length ≤ 8 * bitMask.length) (i : Nat) :
    bitAt ((nodes.zipIdx start).foldl (fun bitMask node => if node.1 = 0 then setBit bitMask node.2 else bitMask) bitMask) i =
      (bitAt bitMask i || decide (start ≤ i ∧ nodes[i - start]? = some 0)) := by
  -- over the nodes that are still to be marked, on any mask made so far
  induction nodes generalizing start bitMask with
  | nil => simp
  | cons node nodes ih =>
    rw [List.length_cons] at fits
    rw [List.zipIdx_cons, List.foldl_cons]
    by_cases zero : node = 0
    · have marked := bitAt_setBit (show start < 8 * bitMask.length by omega) i
      rw [if_pos zero, ih (start + 1) (by rw [setBit_length]; omega), marked, Bool.or_assoc, ← Bool.decide_or]
      simp only [getElem?_cons_from, zero, and_true]
    · rw [if_neg zero, ih (start + 1) (by omega)]
      simp only [getElem?_cons_from, zero, and_false, false_or]

theorem bitAt_bitMask (proof : SparseMerkleProof) (i : Nat) :
    bitAt proof.bitMask i = decide (proof.sideNodes[i]? = some 0) := by
  have clear (length : Nat) : bitAt (List.replicate length 0) i = false := by
    rw [bitAt, List.getElem?_replicate]
    split <;> simp
  rw [SparseMerkleProof.bitMask, bitAt_markZeros proof.sideNodes 0 (by rw [List.length_replicate]; omega), clear]
  simp

theorem testBit_formatBitMask (bitMask : Bytes) (i : Nat) :
    (setBytes (formatBitMask bitMask)).testBit i = bitAt bitMask i :=
  testBit_setBytes_reversed bitMask i

theorem bitMask_length (proof : SparseMerkleProof) : proof.bitMask.length = (proof.sideNodes.length + 7) / 8 := by
  have kept (nodes : List (Bytes32 × Nat)) (bitMask : Bytes) :
      (nodes.foldl (fun bitMask node => if node.1 = 0 then setBit bitMask node.2 else bitMask) bitMask).length =
        bitMask.length := by
    induction nodes generalizing bitMask with
    | nil => rfl
    | cons node nodes ih =>
      rw [List.foldl_cons, ih]
      split
      next => exact setBit_length ..
      next => rfl
  rw [SparseMerkleProof.bitMask, kept, List.length_replicate]

section Checked
variable {proof : SparseMerkleProof}

theorem getLsbD_bitMask (bounded : proof.sideNodes.length ≤ MAX_DEPTH) (key value : Bytes32) (i : Nat) :
    (proof.verifierProof key value).binding.bitMask.getLsbD i = decide (proof.sideNodes[i]? = some 0) := by
  -- the mask fits into the contract's word, which therefore has the same bits
  have bound := setBytes_lt (formatBitMask proof.bitMask)
  have length : (formatBitMask proof.bitMask).length ≤ 32 := by
    rw [formatBitMask, List.length_map, List.length_reverse, bitMask_length]
    rw [MAX_DEPTH] at bounded
    omega
  have fits : setBytes (formatBitMask proof.bitMask) < 2 ^ 256 :=
    Nat.lt_of_lt_of_le bound (Nat.pow_le_pow_right Nat.two_pos (by omega))
  show (BitVec.ofNat 256 (setBytes (formatBitMask proof.bitMask))).getLsbD i = _
  rw [BitVec.getLsbD, BitVec.toNat_ofNat, Nat.mod_eq_of_lt fits, testBit_formatBitMask, bitAt_bitMask]

/-- The contract's cursor before a level is at the number of side nodes that were kept below it. -/
def SparseMerkleProof.kept (proof : SparseMerkleProof) (level : Nat) : List Bytes32 :=
  (proof.sideNodes.take level).filter (· ≠ 0)

theorem kept_succ {i : Nat} {node : Bytes32} (here : proof.sideNodes[i]? = some node) :
    proof.kept (i + 1) = proof.kept i ++ [node].filter (· ≠ 0) := by
  rw [SparseMerkleProof.kept, List.take_add_one, here, List.filter_append]
  rfl

theorem filter_nonzero {node : Bytes32} (nonzero : node ≠ 0) : [node].filter (· ≠ 0) = [node] := by
  rw [List.filter_singleton, decide_eq_true nonzero]
  rfl

theorem getElem?_kept {i : Nat} {node : Bytes32} (here : proof.sideNodes[i]? = some node) (nonzero : node ≠ 0) :
    (proof.sideNodes.filter (· ≠ 0))[(proof.kept i).length]? = some node := by
  have split : proof.sideNodes.filter (· ≠ 0) = proof.kept (i + 1) ++ (proof.sideNodes.drop (i + 1)).filter (· ≠ 0) := by
    rw [SparseMerkleProof.kept, ← List.filter_append, List.take_append_drop]
  rw [split, kept_succ here, filter_nonzero nonzero, List.append_assoc, List.getElem?_append_right (Nat.le_refl _),
    Nat.sub_self]
  rfl

theorem nextSideNode_kept (bounded : proof.sideNodes.length ≤ MAX_DEPTH) (key value : Bytes32) {i : Nat} {node : Bytes32}
    (here : proof.sideNodes[i]? = some node) :
    nextSideNode (proof.verifierProof key value).binding i (proof.kept i).length =
      .ok (node, (proof.kept (i + 1)).length) := by
  rw [nextSideNode, getLsbD_bitMask bounded, here, kept_succ here]
  by_cases zero : node = 0
  · simp [zero, DEFAULT_VALUE]
  · have kept : (proof.verifierProof key value).binding.sideNodes[(proof.kept i).length]? = some node :=
      getElem?_kept here zero
    have unmarked : ¬ decide (some node = some 0) = true := by rwa [decide_eq_true_iff, Option.some_inj]
    rw [if_neg unmarked, kept, filter_nonzero zero, List.length_append, List.length_singleton]

/-- Below level `n` of the path, bit `i` of the shifted path is the path's bit `n - 1 - i`. -/
theorem getLsbD_index (path : Bytes32) {n i : Nat} (bounded : n ≤ 256) (below : i < n) :
    (path >>> (256 - n)).getLsbD i = path.getMsbD (n - 1 - i) := by
  have inside : n - 1 - i < 256 := by omega
  have same : 256 - n + i = 256 - 1 - (n - 1 - i) := by omega
  rw [BitVec.getLsbD_ushiftRight, BitVec.getMsbD_eq_getLsbD, same]
  simp [inside]

variable {keccak256 : Bytes → Bytes32}

def SparseMerkleProof.rootBelow (proof : SparseMerkleProof) (keccak256 : Bytes → Bytes32) (path leaf : Bytes32)
    (level : Nat) : Bytes32 :=
  (proof.sideNodes.take level).zipIdx.foldl (fun current node =>
    nodeAbove keccak256 (path.getMsbD (proof.sideNodes.length - 1 - node.2)) current node.1) leaf

theorem rootBelow_succ (path leaf : Bytes32) {i : Nat} {node : Bytes32} (here : proof.sideNodes[i]? = some node) :
    proof.rootBelow keccak256 path leaf (i + 1) =
      nodeAbove keccak256 (path.getMsbD (proof.sideNodes.length - 1 - i)) (proof.rootBelow keccak256 path leaf i) node := by
  have length : (proof.sideNodes.take i).length = i :=
    List.length_take_of_le (Nat.le_of_lt (List.getElem?_eq_some_iff.mp here).choose)
  rw [SparseMerkleProof.rootBelow, List.take_add_one, here, Option.toList_some, List.zipIdx_append, List.foldl_append, length]
  simp [SparseMerkleProof.rootBelow]

variable (keccak256)

/-- The loop's state before a level: the hash of everything below, and the number of kept nodes. -/
theorem climb_kept (bounded : proof.sideNodes.length ≤ MAX_DEPTH) (key value path leaf : Bytes32) {level : Nat}
    (within : level ≤ proof.sideNodes.length) :
    (List.range level).foldlM (climbLevel keccak256 (proof.verifierProof key value).binding
        (path >>> (256 - proof.sideNodes.length))) (leaf, 0) =
      .ok (proof.rootBelow keccak256 path leaf level, (proof.kept level).length) := by
  induction level with
  | zero => rfl
  | succ i ih =>
    have here := List.getElem?_eq_getElem (show i < proof.sideNodes.length from within)
    have turn := getLsbD_index path bounded within
    rw [List.range_succ, List.foldlM_append, ih (Nat.le_of_succ_le within), rootBelow_succ path leaf here]
    simp only [ok_bind, List.foldlM_cons, List.foldlM_nil, climbLevel, nextSideNode_kept bounded key value here, turn,
      nodeAbove]
    -- the contract asks whether the bit is clear
    cases path.getMsbD (proof.sideNodes.length - 1 - i) <;> rfl

theorem computeProofLeaf_leaf (key value path : Bytes32)
    (unrelated : ∀ leaf ∈ proof.nonMembershipLeaf, leaf.1 ≠ 0 ∧ leaf.1 ≠ path) :
    computeProofLeaf keccak256 path (proof.verifierProof key value).binding = .ok (proof.leaf keccak256 path value) := by
  have given : (proof.verifierProof key value).binding.value = value := rfl
  rw [computeProofLeaf, SparseMerkleProof.leaf, given]
  by_cases nothing : value = 0
  · rw [if_pos (show value = DEFAULT_VALUE from nothing), if_neg (not_not_intro nothing)]
    cases found : proof.nonMembershipLeaf with
    | none =>
      -- a path of zero stands for no leaf
      have absent : (proof.verifierProof key value).binding.nonMembershipLeafPath = 0 := by
        simp [SparseMerkleProof.verifierProof, SMTVerifierCompactProof.binding, found]
      rw [if_pos absent]
      rfl
    | some leaf =>
      have leafPath : (proof.verifierProof key value).binding.nonMembershipLeafPath = leaf.1 := by
        simp [SparseMerkleProof.verifierProof, SMTVerifierCompactProof.binding, found]
      have leafValue : (proof.verifierProof key value).binding.nonMembershipLeafValue = leaf.2 := by
        simp [SparseMerkleProof.verifierProof, SMTVerifierCompactProof.binding, found]
      obtain ⟨nonzero, other⟩ := unrelated leaf found
      rw [leafPath, leafValue, if_neg nonzero, require, if_pos other]
      rfl
  · rw [if_neg (show ¬ value = DEFAULT_VALUE from nothing), if_pos nothing]
    rfl

theorem kept_all (proof : SparseMerkleProof) (key value : Bytes32) :
    proof.kept proof.sideNodes.length = (proof.verifierProof key value).sideNodes := by
  rw [SparseMerkleProof.kept, List.take_length]
  rfl

theorem rootBelow_all (proof : SparseMerkleProof) (path leaf : Bytes32) :
    proof.rootBelow keccak256 path leaf proof.sideNodes.length = proof.root keccak256 path leaf := by
  rw [SparseMerkleProof.rootBelow, List.take_length]
  rfl

end Checked

/-- The contract's loop over all levels, which ends with the root and with the number of side nodes it has used. -/
def climb (keccak256 : Bytes → Bytes32) (proof : Proof) (leaf : Bytes32) : Call (Bytes32 × Nat) :=
  let index := keccak256 (wordBytes proof.key) >>> (256 - proof.numSideNodes.toNat)
  (List.range proof.numSideNodes.toNat).foldlM (climbLevel keccak256 proof index) (leaf, 0)

section Recomputed
variable (keccak256 : Bytes → Bytes32) (key value : Bytes32) {proof : SparseMerkleProof}
  (bounded : proof.sideNodes.length ≤ MAX_DEPTH)
include bounded

theorem numSideNodes_verifierProof :
    (proof.verifierProof key value).binding.numSideNodes.toNat = proof.sideNodes.length :=
  Nat.mod_eq_of_lt (Nat.lt_of_le_of_lt bounded (by decide))

theorem climb_verifierProof (leaf : Bytes32) :
    climb keccak256 (proof.verifierProof key value).binding leaf =
      .ok (proof.root keccak256 (keccak256 (wordBytes key)) leaf, (proof.verifierProof key value).sideNodes.length) := by
  have climbed := climb_kept keccak256 bounded key value (keccak256 (wordBytes key)) leaf (Nat.le_refl _)
  rw [rootBelow_all, kept_all proof key value, ← numSideNodes_verifierProof key value bounded] at climbed
  exact climbed

theorem computeProofRoot_verifierProof
    (unrelated : ∀ leaf ∈ proof.nonMembershipLeaf, leaf.1 ≠ 0 ∧ leaf.1 ≠ keccak256 (wordBytes key)) :
    computeProofRoot keccak256 (proof.verifierProof key value).binding =
      .ok (proof.root keccak256 (keccak256 (wordBytes key))
        (proof.leaf keccak256 (keccak256 (wordBytes key)) value)) := by
  have leaf := computeProofLeaf_leaf keccak256 key value (keccak256 (wordBytes key)) unrelated
  have climbed := climb_verifierProof keccak256 key value bounded (proof.leaf keccak256 (keccak256 (wordBytes key)) value)
  have sameKey : (proof.verifierProof key value).binding.key = key := rfl
  simp only [climb, sameKey] at climbed
  simp only [computeProofRoot, sameKey, leaf, ok_bind, climbed]
  rfl

end Recomputed

/-- Whatever is proved in Go is what the contract recomputes: it reads every bit of the mask at its place, uses up the
side nodes, and ends at the root that the proof before its compaction stands for. -/
theorem compacted_proof_checked (keccak256 : Bytes → Bytes32) (key value : Bytes32) (proof : SparseMerkleProof)
    (bounded : proof.sideNodes.length ≤ 256)
    (unrelated : ∀ leaf ∈ proof.nonMembershipLeaf, leaf.1 ≠ 0 ∧ leaf.1 ≠ keccak256 (wordBytes key)) :
    ∃ verifier, newSMTVerifierProof key value proof.compact = some verifier ∧
      (∀ i, verifier.bitMask.testBit i = bitAt proof.compact.bitMask i) ∧
      (∀ i, bitAt proof.compact.bitMask i = decide (proof.sideNodes[i]? = some 0)) ∧
      climb keccak256 verifier.binding (proof.leaf keccak256 (keccak256 (wordBytes key)) value) =
        .ok (proof.root keccak256 (keccak256 (wordBytes key)) (proof.leaf keccak256 (keccak256 (wordBytes key)) value),
          verifier.sideNodes.length) ∧
      computeProofRoot keccak256 verifier.binding =
        .ok (proof.root keccak256 (keccak256 (wordBytes key))
          (proof.leaf keccak256 (keccak256 (wordBytes key)) value)) :=
  ⟨_, newSMTVerifierProof_compact proof key value, testBit_formatBitMask _, bitAt_bitMask proof,
    climb_verifierProof keccak256 key value bounded _, computeProofRoot_verifierProof keccak256 key value bounded unrelated⟩

def sparseProof : SparseMerkleProof where
  sideNodes := List.replicate 8 0 ++ [5, 0]
  nonMembershipLeaf := some (1, 2)

theorem compacted_proof_checked_sparse :
    sparseProof.sideNodes.length = 10 ∧
      ∃ verifier, newSMTVerifierProof 7 0 sparseProof.compact = some verifier ∧
        verifier.bitMask.testBit 8 = false ∧ verifier.bitMask.testBit 9 = true ∧
        computeProofRoot foldedBytes verifier.binding =
          .ok (sparseProof.root foldedBytes (foldedBytes (wordBytes 7)) (foldedBytes (leafData 1 2))) := by
  have unrelated : ∀ leaf ∈ sparseProof.nonMembershipLeaf, leaf.1 ≠ 0 ∧ leaf.1 ≠ foldedBytes (wordBytes 7) := by
    intro leaf found
    cases found
    decide
  obtain ⟨verifier, made, integer, mask, _, root⟩ :=
    compacted_proof_checked foldedBytes 7 0 sparseProof (by decide) unrelated
  exact ⟨rfl, verifier, made, (integer 8).trans (mask 8), (integer 9).trans (mask 9), root⟩

end Sffl.Core
