import Sffl.Core.CheckpointTree
import Sffl.Crypto.SparseTrie

/-! Tries that do what is assumed of the library's trees.

An entry is at the path that its key's hash is. Proofs list the hashes beside the
path, from the entry up.
-/

set_option autoImplicit false

namespace Sffl.Core

open Sffl.Evm Sffl.Eth Sffl.Crypto

def wordPaths : Paths Bytes32 where
  depth := 256
  bit path i := path.getMsbD i
  ext same := BitVec.eq_of_getMsbD_eq same

theorem agree_zero {first second : Bytes32} : wordPaths.Agree 0 first second :=
  fun _ before => absurd before (Nat.not_lt_zero _)

def nodeData : Trie.Preimage Bytes32 Bytes32 Bytes32 → Bytes
  | .leaf path value => leafData path value
  | .node left right => nodeBytes INNER_NODE_PREFIX left right

def nodeHash (keccak256 : Bytes → Bytes32) (input : Trie.Preimage Bytes32 Bytes32 Bytes32) : Bytes32 :=
  keccak256 (nodeData input)

structure SparseTrie (keccak256 : Bytes → Bytes32) where
  trie : Trie Bytes32 Bytes32
  canonical : trie.Canonical wordPaths 0
  hashed : ∀ path ∈ trie.keys, ∃ key, keccak256 key = path

section Operations
variable {keccak256 : Bytes → Bytes32}

theorem hashed_update (smt : SparseTrie keccak256) (key : Bytes) (value : Bytes32) :
    ∀ path ∈ (smt.trie.update wordPaths (keccak256 key) value 0).keys, ∃ other, keccak256 other = path := by
  intro path member
  rcases (Trie.mem_keys_update value smt.canonical (Nat.zero_le _) (fun _ _ => agree_zero) path).mp member with rfl | old
  · exact ⟨key, rfl⟩
  · exact smt.hashed path old

def SparseTrie.update (smt : SparseTrie keccak256) (key : Bytes) (value : Bytes32) : SparseTrie keccak256 where
  trie := smt.trie.update wordPaths (keccak256 key) value 0
  canonical := Trie.canonical_update value smt.canonical (Nat.zero_le _) fun _ _ => agree_zero
  hashed := hashed_update smt key value

def SparseTrie.get (smt : SparseTrie keccak256) (key : Bytes) : Option Bytes32 := smt.trie.find wordPaths (keccak256 key) 0

def SparseTrie.root (smt : SparseTrie keccak256) : Bytes32 := smt.trie.digest (nodeHash keccak256) 0

def SparseTrie.sides (smt : SparseTrie keccak256) (key : Bytes) : List (Bool × Bytes32) :=
  smt.trie.sides (nodeHash keccak256) 0 wordPaths (keccak256 key) 0

def SparseTrie.prove (smt : SparseTrie keccak256) (key : Bytes) : SparseMerkleProof where
  sideNodes := ((smt.sides key).map Prod.snd).reverse
  nonMembershipLeaf := (smt.trie.ended wordPaths (keccak256 key) 0).filter (·.1 ≠ keccak256 key)

/-! ## Contents -/

theorem SparseTrie.get_update (smt : SparseTrie keccak256) (key : Bytes) (value : Bytes32) (other : Bytes) :
    (smt.update key value).get other = if keccak256 key = keccak256 other then some value else smt.get other :=
  Trie.find_update value smt.canonical (Nat.zero_le _) (fun _ _ => agree_zero) (keccak256 other)

theorem SparseTrie.root_eq_of_get (smt smt' : SparseTrie keccak256) (same : ∀ key, smt.get key = smt'.get key) :
    smt.root = smt'.root := by
  have tries : smt.trie = smt'.trie := by
    refine smt.canonical.eq_of_find smt'.canonical fun path => ?_
    by_cases known : path ∈ smt.trie.keys ∨ path ∈ smt'.trie.keys
    · have hashed : ∃ key, keccak256 key = path := known.elim (smt.hashed path) (smt'.hashed path)
      obtain ⟨key, rfl⟩ := hashed
      exact same key
    · obtain ⟨absent, absent'⟩ := not_or.mp known
      rw [smt.canonical.find_eq_none absent, smt'.canonical.find_eq_none absent']
  rw [SparseTrie.root, SparseTrie.root, tries]

/-! ## Proofs -/

theorem SparseTrie.prove_depth (smt : SparseTrie keccak256) (key : Bytes) :
    (smt.prove key).sideNodes.length ≤ MAX_DEPTH := by
  have bounded := smt.canonical.sides_length (nodeHash keccak256) 0 (Nat.zero_le _)
    (fun _ _ => agree_zero : ∀ path ∈ smt.trie.keys, wordPaths.Agree 0 path (keccak256 key))
  rw [Nat.zero_add] at bounded
  rw [SparseTrie.prove, List.length_reverse, List.length_map]
  exact bounded

theorem SparseTrie.prove_leaf (smt : SparseTrie keccak256) (key : Bytes) :
    ∀ leaf ∈ (smt.prove key).nonMembershipLeaf,
      leaf.1 ≠ keccak256 key ∧ ∃ other, keccak256 other = leaf.1 ∧ (smt.get other).isSome := by
  intro leaf found
  obtain ⟨ended, unrelated⟩ := Option.mem_filter_iff.mp found
  have member := Trie.mem_keys_of_ended ended
  obtain ⟨other, path⟩ := smt.hashed leaf.1 member
  refine ⟨of_decide_eq_true unrelated, other, path, ?_⟩
  rw [SparseTrie.get, path]
  exact (smt.canonical.find_isSome leaf.1).mpr member

theorem foldl_sides (leaf : Bytes32) {way : List (Bool × Bytes32)} {bit : Nat → Bool}
    (turns : ∀ (k : Nat) (turn : Bool × Bytes32), way[k]? = some turn → turn.1 = bit k) :
    (way.map Prod.snd).reverse.zipIdx.foldl
        (fun current node => nodeAbove keccak256 (bit (way.length - 1 - node.2)) current node.1) leaf =
      rootOf (hashNode keccak256 INNER_NODE_PREFIX) leaf way := by
  -- over the way from the top, where a level less is a bit less
  induction way generalizing bit with
  | nil => rfl
  | cons turn way ih =>
    have first : bit 0 = turn.1 := (turns 0 turn rfl).symm
    have below := ih fun k turn here => turns (k + 1) turn here
    have shifted (current : Bytes32) (node : Bytes32 × Nat) (member : node ∈ (way.map Prod.snd).reverse.zipIdx) :
        nodeAbove keccak256 (bit (way.length + 1 - 1 - node.2)) current node.1 =
          nodeAbove keccak256 (bit (way.length - 1 - node.2 + 1)) current node.1 := by
      have inside := (List.mem_zipIdx' member).1
      rw [List.length_reverse, List.length_map] at inside
      have index : way.length + 1 - 1 - node.2 = way.length - 1 - node.2 + 1 := by omega
      rw [index]
    rw [List.map_cons, List.reverse_cons, List.zipIdx_append, List.foldl_append, List.length_cons,
      List.foldl_ext _ _ leaf shifted, below]
    simp only [List.zipIdx_singleton, List.foldl_cons, List.foldl_nil, List.length_reverse, List.length_map, Nat.zero_add,
      Nat.add_sub_cancel, Nat.sub_self, first, rootOf, children, nodeAbove]
    split <;> rfl

theorem SparseTrie.leaf_prove (smt : SparseTrie keccak256) {key : Bytes} (nonzero : smt.get key ≠ some 0) :
    (smt.prove key).leaf keccak256 (keccak256 key) ((smt.get key).getD 0) =
      Trie.endHash (nodeHash keccak256) 0 (smt.trie.ended wordPaths (keccak256 key) 0) := by
  unfold SparseTrie.get Trie.find at nonzero ⊢
  unfold SparseMerkleProof.leaf SparseTrie.prove
  cases ended : smt.trie.ended wordPaths (keccak256 key) 0 with
  | none => simp [Trie.endHash]
  | some leaf =>
    obtain ⟨path, value⟩ := leaf
    by_cases same : path = keccak256 key
    · have given : ¬ value = 0#256 := fun zero => nonzero (by simp [ended, same, zero])
      simp [same, given, Trie.endHash, nodeHash, nodeData]
    · simp [same, Trie.endHash, nodeHash, nodeData, Option.filter]

theorem SparseTrie.prove_root (smt : SparseTrie keccak256) (key : Bytes) (nonzero : smt.get key ≠ some 0) :
    (smt.prove key).root keccak256 (keccak256 key)
      ((smt.prove key).leaf keccak256 (keccak256 key) ((smt.get key).getD 0)) = smt.root := by
  have length : (smt.prove key).sideNodes.length = (smt.sides key).length := by
    rw [SparseTrie.prove, List.length_reverse, List.length_map]
  have turns (k : Nat) (turn : Bool × Bytes32) (here : (smt.sides key)[k]? = some turn) :
      turn.1 = (keccak256 key).getMsbD k := by
    have bit := Trie.sides_turn _ _ _ _ here
    rwa [Nat.zero_add] at bit
  rw [smt.leaf_prove nonzero, SparseMerkleProof.root, length]
  exact (foldl_sides _ turns).trans (Trie.rootOf_sides (nodeHash keccak256) 0 wordPaths (keccak256 key) 0 smt.trie)

end Operations

theorem hashed_empty (keccak256 : Bytes → Bytes32) :
    ∀ path ∈ (Trie.empty : Trie Bytes32 Bytes32).keys, ∃ key, keccak256 key = path := by
  intro path member
  cases member

def newSparseTrie (keccak256 : Bytes → Bytes32) : SparseTrie keccak256 := ⟨.empty, .empty, hashed_empty keccak256⟩

theorem get_newSparseTrie (keccak256 : Bytes → Bytes32) (key : Bytes) : (newSparseTrie keccak256).get key = none := rfl

def sparseTries (keccak256 : Bytes → Bytes32) : TrieLibrary (SparseTrie keccak256) keccak256 where
  newSparseMerkleTrie := newSparseTrie keccak256
  update := SparseTrie.update
  get := SparseTrie.get
  root := SparseTrie.root
  prove := SparseTrie.prove
  get_new := get_newSparseTrie keccak256
  get_update := SparseTrie.get_update
  root_eq_of_get := SparseTrie.root_eq_of_get
  prove_depth := SparseTrie.prove_depth
  prove_leaf := SparseTrie.prove_leaf
  prove_root := SparseTrie.prove_root

end Sffl.Core
