import Sffl.Core.Digest
import Sffl.Core.Smt

/-! The trees of a checkpoint's messages, and the proofs that they give.

A message is stored under its key, at the path that the key's hash is. The tree
is that of a library. It is a parameter, with what is assumed of it: that it holds
what was put into it, that its root depends on nothing else, and that its proofs
lead to its root.
-/

set_option autoImplicit false

namespace Sffl.Core

open Sffl.Evm Sffl.Golang Sffl.Rollup Sffl.Eth

/-! ## Keys -/

/-- `Key`, which fills the last bytes of an array. -/
def Message.keyBytes : Message → Bytes
  | .stateRootUpdate message =>
    List.replicate 20 0 ++ (bigEndian 4 message.rollupId.toNat ++ bigEndian 8 message.blockHeight.toNat)
  | .operatorSetUpdate message => List.replicate 24 0 ++ bigEndian 8 message.id.toNat
  | .checkpointTaskResponse message => List.replicate 28 0 ++ bigEndian 4 message.referenceTaskIndex.toNat

def Message.key (message : Message) : Bytes32 := BitVec.ofNat 256 (setBytes message.keyBytes)

theorem setBytes_replicate_zero (length : Nat) : setBytes (List.replicate length 0) = 0 := by
  induction length with
  | zero => rfl
  | succ length ih =>
    rw [List.replicate_succ', setBytes_concat, ih]
    rfl

theorem setBytes_padded (length : Nat) (bytes : Bytes) : setBytes (List.replicate length 0 ++ bytes) = setBytes bytes := by
  rw [setBytes_append, setBytes_replicate_zero, Nat.zero_mul, Nat.zero_add]

theorem setBytes_lt_word {bytes : Bytes} (short : bytes.length ≤ 32) : setBytes bytes < 2 ^ 256 :=
  Nat.lt_of_lt_of_le (setBytes_lt bytes) (Nat.pow_le_pow_right Nat.two_pos (by omega))

theorem setBytes_stateRootUpdate (message : StateRootUpdate) :
    setBytes (Message.stateRootUpdate message).keyBytes =
      message.rollupId.toNat * 2 ^ 64 + message.blockHeight.toNat := by
  rw [Message.keyBytes, setBytes_padded, setBytes_append, setBytes_bigEndian_toNat 4 _ rfl,
    setBytes_bigEndian_toNat 8 _ rfl, bigEndian_length, show 256 ^ 8 = 2 ^ 64 by decide]

/-- The contracts' index of a message is the key that it has in Go. -/
theorem stateRootUpdate_key (message : StateRootUpdate) : (Message.stateRootUpdate message).key = message.index := by
  have height : message.blockHeight.toNat < 2 ^ 64 := message.blockHeight.isLt
  have rollup : message.rollupId.toNat < 2 ^ 32 := message.rollupId.isLt
  apply BitVec.eq_of_toNat_eq
  rw [Message.key, setBytes_stateRootUpdate, StateRootUpdate.index, BitVec.toNat_or, BitVec.toNat_shiftLeft,
    word_toNat _ (by decide), word_toNat _ (by decide), BitVec.toNat_ofNat, Nat.or_comm, Nat.shiftLeft_eq,
    Nat.mod_eq_of_lt (show message.rollupId.toNat * 2 ^ 64 < 2 ^ 256 by omega), ← Nat.shiftLeft_eq,
    ← Nat.shiftLeft_add_eq_or_of_lt height, Nat.shiftLeft_eq]
  exact Nat.mod_eq_of_lt (by omega)

theorem operatorSetUpdate_key (message : OperatorSetUpdateMessage) :
    (Message.operatorSetUpdate message).key = word message.id := by
  apply BitVec.eq_of_toNat_eq
  rw [Message.key, Message.keyBytes, setBytes_padded, setBytes_bigEndian_toNat 8 _ rfl, word_toNat _ (by decide)]
  exact Nat.mod_eq_of_lt (Nat.lt_trans message.id.isLt (by decide))

theorem bigEndian_setBytes (bytes : Bytes) : bigEndian bytes.length (setBytes bytes) = bytes := by
  induction bytes using List.reverseRecOn with
  | nil => rfl
  | append_singleton bytes byte ih =>
    have small := byte.toNat_lt
    have rest : (2 ^ 8 * setBytes bytes + byte.toNat) / 256 = setBytes bytes := by omega
    have last : UInt8.ofNat (2 ^ 8 * setBytes bytes + byte.toNat) = byte := by
      apply UInt8.toNat_inj.mp
      rw [UInt8.toNat_ofNat']
      omega
    rw [List.length_append, List.length_singleton, bigEndian, setBytes_concat, rest, ih, last]

theorem keyBytes_length (message : Message) : message.keyBytes.length = 32 := by
  cases message <;> simp [Message.keyBytes]

theorem setBytes_key (message : Message) : message.key.toNat = setBytes message.keyBytes := by
  rw [Message.key, BitVec.toNat_ofNat]
  exact Nat.mod_eq_of_lt (setBytes_lt_word (Nat.le_of_eq (keyBytes_length message)))

theorem wordBytes_key (message : Message) : wordBytes message.key = message.keyBytes := by
  rw [wordBytes, setBytes_key, ← keyBytes_length message, bigEndian_setBytes]

theorem stateRootUpdate_key_inj {first second : StateRootUpdate} :
    (Message.stateRootUpdate first).key = (Message.stateRootUpdate second).key ↔
      first.rollupId = second.rollupId ∧ first.blockHeight = second.blockHeight := by
  have height : first.blockHeight.toNat < 2 ^ 64 := first.blockHeight.isLt
  have height' : second.blockHeight.toNat < 2 ^ 64 := second.blockHeight.isLt
  rw [← BitVec.toNat_inj, setBytes_key, setBytes_key, setBytes_stateRootUpdate, setBytes_stateRootUpdate,
    ← BitVec.toNat_inj, ← BitVec.toNat_inj]
  omega

/-! ## Trees -/

/-- The sparse Merkle tries of a library, over a hash. Their nodes are in memory, so that no operation fails. -/
structure TrieLibrary (T : Type) (keccak256 : Bytes → Bytes32) where
  newSparseMerkleTrie : T
  update : T → Bytes → Bytes32 → T
  get : T → Bytes → Option Bytes32
  root : T → Bytes32
  prove : T → Bytes → SparseMerkleProof
  get_new : ∀ key, get newSparseMerkleTrie key = none
  get_update : ∀ smt key value other,
    get (update smt key value) other = if keccak256 key = keccak256 other then some value else get smt other
  root_eq_of_get : ∀ smt smt', (∀ key, get smt key = get smt' key) → root smt = root smt'
  prove_depth : ∀ smt key, (prove smt key).sideNodes.length ≤ MAX_DEPTH
  /-- The leaf that stands in a key's place is another key's. -/
  prove_leaf : ∀ smt key, ∀ leaf ∈ (prove smt key).nonMembershipLeaf,
    leaf.1 ≠ keccak256 key ∧ ∃ other, keccak256 other = leaf.1 ∧ (get smt other).isSome
  /-- A proof leads from the key's value to the root. A value of zero is taken for none. -/
  prove_root : ∀ smt key, get smt key ≠ some 0 →
    (prove smt key).root keccak256 (keccak256 key)
      ((prove smt key).leaf keccak256 (keccak256 key) ((get smt key).getD 0)) = root smt

section Tree
variable {T : Type} {keccak256 : Bytes → Bytes32} (library : TrieLibrary T keccak256)

def TrieLibrary.addMessage (smt : T) (message : Message) : Option T := do
  let digest ← message.digest keccak256
  return library.update smt message.keyBytes digest

def TrieLibrary.addMessages (messages : List Message) : Option T :=
  messages.foldlM library.addMessage library.newSparseMerkleTrie

def TrieLibrary.proveCompact (smt : T) (key : Bytes) : SparseCompactMerkleProof := (library.prove smt key).compact

def newCheckpointTaskResponseFromMessages (taskIndex : Uint 32) (stateRootUpdateMessages : List StateRootUpdate)
    (operatorSetUpdateMessages : List OperatorSetUpdateMessage) : Option TaskResponse := do
  let stateRootUpdatesSmt ← library.addMessages (stateRootUpdateMessages.map .stateRootUpdate)
  let operatorSetUpdatesSmt ← library.addMessages (operatorSetUpdateMessages.map .operatorSetUpdate)
  return ⟨taskIndex, library.root stateRootUpdatesSmt, library.root operatorSetUpdatesSmt⟩

def proveKey (messages : List Message) (key : Bytes32) : Option Proof := do
  let smt ← library.addMessages messages
  let value := (library.get smt (wordBytes key)).getD 0
  let proof ← newSMTVerifierProof key value (library.proveCompact smt (wordBytes key))
  return proof.binding

end Tree

/-! ## What a tree holds -/

/-- The last message with a key replaces the earlier ones. -/
def lastMessage (messages : List Message) (key : Bytes32) : Option Message := messages.reverse.find? (·.key = key)

def lastAt (keccak256 : Bytes → Bytes32) (messages : List Message) (path : Bytes32) : Option Message :=
  messages.reverse.find? fun message => keccak256 message.keyBytes = path

section Contents
variable {T : Type} {keccak256 : Bytes → Bytes32} {library : TrieLibrary T keccak256} {messages : List Message} {smt : T}

theorem addMessage_eq_some {message : Message} {after : T} :
    library.addMessage smt message = some after ↔
      ∃ digest, message.digest keccak256 = some digest ∧ library.update smt message.keyBytes digest = after := by
  simp only [TrieLibrary.addMessage, Option.bind_eq_bind, Option.bind_eq_some_iff, Option.pure_def, Option.some.injEq]

theorem addMessages_concat {message : Message} {after : T} :
    library.addMessages (messages ++ [message]) = some after ↔
      ∃ before digest, library.addMessages messages = some before ∧ message.digest keccak256 = some digest ∧
        library.update before message.keyBytes digest = after := by
  simp only [TrieLibrary.addMessages, List.foldlM_append, List.foldlM_cons, List.foldlM_nil, Option.bind_eq_bind,
    Option.bind_eq_some_iff, addMessage_eq_some, Option.pure_def, Option.some.injEq]
  constructor
  · rintro ⟨before, added, _, ⟨digest, computed, updated⟩, rfl⟩
    exact ⟨before, digest, added, computed, updated⟩
  · rintro ⟨before, digest, added, computed, updated⟩
    exact ⟨before, added, after, ⟨digest, computed, updated⟩, rfl⟩

theorem digest_of_addMessages (built : library.addMessages messages = some smt) :
    ∀ message ∈ messages, ∃ digest, message.digest keccak256 = some digest := by
  induction messages using List.reverseRecOn generalizing smt with
  | nil => simp
  | append_singleton messages message ih =>
    obtain ⟨before, digest, added, computed, _⟩ := addMessages_concat.mp built
    intro found member
    rcases List.mem_append.mp member with earlier | last
    · exact ih added found earlier
    · rw [List.mem_singleton.mp last]
      exact ⟨digest, computed⟩

theorem lastAt_concat (message : Message) (path : Bytes32) :
    lastAt keccak256 (messages ++ [message]) path =
      if keccak256 message.keyBytes = path then some message else lastAt keccak256 messages path := by
  rw [lastAt, List.reverse_append, List.reverse_singleton, List.singleton_append, List.find?_cons]
  by_cases found : keccak256 message.keyBytes = path <;> simp [found, lastAt]

theorem get_eq_lastAt (built : library.addMessages messages = some smt) (key : Bytes) :
    library.get smt key = (lastAt keccak256 messages (keccak256 key)).bind (Message.digest keccak256) := by
  induction messages using List.reverseRecOn generalizing smt with
  | nil =>
    cases built
    exact library.get_new key
  | append_singleton messages message ih =>
    obtain ⟨before, digest, added, computed, rfl⟩ := addMessages_concat.mp built
    rw [library.get_update, ih added, lastAt_concat]
    split
    next => exact computed.symm
    next => rfl

end Contents

/-! ## Proofs -/

section Proofs
variable {T : Type} {keccak256 : Bytes → Bytes32} (library : TrieLibrary T keccak256)

def TrieLibrary.verifierProof (smt : T) (key : Bytes32) : Proof :=
  ((library.prove smt (wordBytes key)).verifierProof key ((library.get smt (wordBytes key)).getD 0)).binding

/-- The contracts take a path or a value of zero for nothing. -/
def TrieLibrary.Proper (smt : T) : Prop := ∀ key value, library.get smt key = some value → keccak256 key ≠ 0 ∧ value ≠ 0

variable {library} {smt : T}

theorem proveKey_eq_some {messages : List Message} (built : library.addMessages messages = some smt) (key : Bytes32) :
    proveKey library messages key = some (library.verifierProof smt key) := by
  simp only [proveKey, built, TrieLibrary.proveCompact, newSMTVerifierProof_compact, Option.bind_eq_bind, Option.bind_some,
    Option.pure_def]
  rfl

variable (proper : library.Proper smt)
include proper

theorem prove_unrelated (key : Bytes) :
    ∀ leaf ∈ (library.prove smt key).nonMembershipLeaf, leaf.1 ≠ 0 ∧ leaf.1 ≠ keccak256 key := by
  intro leaf found
  obtain ⟨unrelated, other, path, stored⟩ := library.prove_leaf smt key leaf found
  obtain ⟨value, stored⟩ := Option.isSome_iff_exists.mp stored
  rw [← path] at unrelated ⊢
  exact ⟨(proper other value stored).1, unrelated⟩

theorem verifyProof_verifierProof (key : Bytes32) :
    verifyProof keccak256 (library.root smt) (library.verifierProof smt key) = .ok true := by
  have bounded := library.prove_depth smt (wordBytes key)
  have depth : (library.verifierProof smt key).numSideNodes.toNat ≤ MAX_DEPTH := by
    rw [TrieLibrary.verifierProof, numSideNodes_verifierProof _ _ bounded]
    exact bounded
  have nodes : (library.verifierProof smt key).sideNodes.length ≤ MAX_DEPTH :=
    Nat.le_trans (List.length_filter_le _ _) bounded
  have nonzero : library.get smt (wordBytes key) ≠ some 0 := fun stored => (proper _ 0 stored).2 rfl
  have computed : computeProofRoot keccak256 (library.verifierProof smt key) = .ok (library.root smt) := by
    rw [TrieLibrary.verifierProof, computeProofRoot_verifierProof keccak256 key _ bounded (prove_unrelated proper _),
      library.prove_root smt (wordBytes key) nonzero]
  simp only [verifyProof, require, if_pos (And.intro nodes depth), computed, ok_bind, decide_true, pure, Except.pure]

end Proofs

end Sffl.Core
