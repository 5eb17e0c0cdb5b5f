import Sffl.Core.SparseTries
import Sffl.Eth.TaskManager

/-! What a checkpoint commits to, and what can be proved from it.

The roots of a checkpoint stand for the last message with each key. The proofs
made in Go are accepted by the contract, and since a key has one provable value
under a root, no other proof says anything else.

Hashes are assumed to be free of collisions on what is hashed for the messages,
and on what the contract hashes for the proofs in question.
-/

set_option autoImplicit false

namespace Sffl.Core

open Sffl.Evm Sffl.Golang Sffl.Rollup Sffl.Eth

section Inputs
variable {T : Type} (keccak256 : Bytes → Bytes32)

def Message.inputs (message : Message) : List Bytes := message.keyBytes :: message.hashedInputs keccak256

def messageInputs (messages : List Message) : List Bytes := messages.flatMap (Message.inputs keccak256)

variable {keccak256} (library : TrieLibrary T keccak256)

/-- What the contract hashes for the proofs about keys in the tree of the messages. -/
def proofInputs (messages : List Message) (keys : List Bytes32) : List Bytes :=
  keys.flatMap fun key => ((proveKey library messages key).map (hashedInputs keccak256)).getD []

/-- What is hashed to compare the trees of two lists of messages at all their keys. -/
def comparisonInputs (messages messages' : List Message) : List Bytes :=
  let keys := (messages ++ messages').map Message.key
  messageInputs keccak256 messages ++ messageInputs keccak256 messages' ++
    (proofInputs library messages keys ++ proofInputs library messages' keys)

end Inputs

section Digests
variable {keccak256 : Bytes → Bytes32} {inputs : List Bytes} {message other : Message} {digest : Bytes32}

theorem digest_nonzero (secure : CollisionFree keccak256 inputs)
    (hashed : ∀ input ∈ message.hashedInputs keccak256, input ∈ inputs) (computed : message.digest keccak256 = some digest) :
    digest ≠ 0 := by
  obtain ⟨data, packed, rfl⟩ := digest_eq_some.mp computed
  apply secure.nonzero
  apply hashed
  simp [Message.hashedInputs, packed]

theorem digest_eq_iff_reduced (secure : CollisionFree keccak256 inputs)
    (hashed : ∀ input ∈ message.hashedInputs keccak256, input ∈ inputs)
    (hashed' : ∀ input ∈ other.hashedInputs keccak256, input ∈ inputs) (packs : (message.digest keccak256).isSome)
    (packs' : (other.digest keccak256).isSome) :
    message.digest keccak256 = other.digest keccak256 ↔ message.reduced = other.reduced := by
  obtain ⟨digest, computed⟩ := Option.isSome_iff_exists.mp packs
  obtain ⟨digest', computed'⟩ := Option.isSome_iff_exists.mp packs'
  have injective : Set.InjOn keccak256 {input | input ∈ message.hashedInputs keccak256 ++ other.hashedInputs keccak256} := by
    intro first member second member' same
    have inside : ∀ input ∈ message.hashedInputs keccak256 ++ other.hashedInputs keccak256, input ∈ inputs :=
      List.forall_mem_append.mpr ⟨hashed, hashed'⟩
    exact secure.injective first (inside first member) second (inside second member') same
  rw [computed, computed', Option.some_inj]
  exact digest_inj injective computed computed'

end Digests

/-! ## What a tree holds -/

theorem mem_of_lastMessage {messages : List Message} {key : Bytes32} {message : Message}
    (last : lastMessage messages key = some message) : message ∈ messages ∧ message.key = key := by
  have found := List.find?_some last
  exact ⟨List.mem_reverse.mp (List.mem_of_find?_eq_some last), of_decide_eq_true found⟩

theorem mem_of_lastAt {keccak256 : Bytes → Bytes32} {messages : List Message} {path : Bytes32} {message : Message}
    (last : lastAt keccak256 messages path = some message) : message ∈ messages ∧ keccak256 message.keyBytes = path := by
  have found := List.find?_some last
  exact ⟨List.mem_reverse.mp (List.mem_of_find?_eq_some last), of_decide_eq_true found⟩

section Contents
variable {T : Type} {keccak256 : Bytes → Bytes32} {library : TrieLibrary T keccak256} {inputs : List Bytes}
  (secure : CollisionFree keccak256 inputs) {messages : List Message} {smt : T}
  (built : library.addMessages messages = some smt)
  (hashed : ∀ input ∈ messageInputs keccak256 messages, input ∈ inputs)

include hashed in
theorem message_inputs {message : Message} (member : message ∈ messages) :
    ∀ input ∈ message.inputs keccak256, input ∈ inputs := by
  intro input found
  exact hashed input (List.mem_flatMap.mpr ⟨message, member, found⟩)

include secure hashed in
theorem lastAt_eq_lastMessage {key : Bytes32} (keyHashed : wordBytes key ∈ inputs) :
    lastAt keccak256 messages (keccak256 (wordBytes key)) = lastMessage messages key := by
  rw [lastAt, lastMessage, ← List.head?_filter, ← List.head?_filter]
  apply congrArg List.head?
  apply List.filter_congr
  intro message member
  have inside := message_inputs hashed (List.mem_reverse.mp member) _ List.mem_cons_self
  rw [decide_eq_decide, ← @wordBytes_inj message.key, wordBytes_key]
  exact ⟨secure.injective _ inside _ keyHashed, fun same => by rw [same]⟩

theorem mem_proofInputs {key : Bytes32} {keys : List Bytes32} {proof : Proof}
    (made : proveKey library messages key = some proof) (member : key ∈ keys) :
    ∀ input ∈ hashedInputs keccak256 proof, input ∈ proofInputs library messages keys := by
  intro input found
  refine List.mem_flatMap.mpr ⟨key, member, ?_⟩
  rw [made]
  exact found

include secure built hashed

theorem get_addMessages {key : Bytes32} (keyHashed : wordBytes key ∈ inputs) :
    library.get smt (wordBytes key) = (lastMessage messages key).bind (Message.digest keccak256) := by
  rw [get_eq_lastAt built, lastAt_eq_lastMessage secure hashed keyHashed]

theorem addMessages_proper : library.Proper smt := by
  intro key value stored
  rw [get_eq_lastAt built] at stored
  obtain ⟨message, last, computed⟩ := Option.bind_eq_some_iff.mp stored
  obtain ⟨member, same⟩ := mem_of_lastAt last
  have inside := message_inputs hashed member
  rw [← same]
  exact ⟨secure.nonzero _ (inside _ List.mem_cons_self),
    digest_nonzero secure (fun input found => inside input (List.mem_cons_of_mem _ found)) computed⟩

/-- The value at a message's key is its digest exactly if the message is the last one with the key. -/
theorem get_eq_digest_iff {message : Message} (packs : (message.digest keccak256).isSome)
    (inside : ∀ input ∈ message.inputs keccak256, input ∈ inputs) :
    library.get smt message.keyBytes = message.digest keccak256 ↔
      (lastMessage messages message.key).map Message.reduced = some message.reduced := by
  have keyHashed : wordBytes message.key ∈ inputs := wordBytes_key message ▸ inside _ List.mem_cons_self
  rw [← wordBytes_key, get_addMessages secure built hashed keyHashed]
  cases last : lastMessage messages message.key with
  | none =>
    refine iff_of_false (fun same => ?_) (by simp)
    rw [← same] at packs
    cases packs
  | some stored =>
    obtain ⟨member, _⟩ := mem_of_lastMessage last
    have inside' := message_inputs hashed member
    have packs' := Option.isSome_iff_exists.mpr (digest_of_addMessages built stored member)
    rw [Option.bind_some, Option.map_some, Option.some_inj]
    exact digest_eq_iff_reduced secure (fun input found => inside' input (List.mem_cons_of_mem _ found))
      (fun input found => inside input (List.mem_cons_of_mem _ found)) packs' packs

theorem verifyInclusionState_verifierProof {message : Message} {digest : Bytes32}
    (computed : message.digest keccak256 = some digest) (inside : ∀ input ∈ message.inputs keccak256, input ∈ inputs) :
    verifyInclusionState keccak256 message.key digest (library.root smt) (library.verifierProof smt message.key) =
      .ok (decide ((lastMessage messages message.key).map Message.reduced = some message.reduced)) := by
  have nonzero := digest_nonzero secure (fun input found => inside input (List.mem_cons_of_mem _ found)) computed
  have verified := verifyProof_verifierProof (addMessages_proper secure built hashed) message.key
  have holds := get_eq_digest_iff secure built hashed (Option.isSome_iff_exists.mpr ⟨digest, computed⟩) inside
  have value : (library.get smt message.keyBytes).getD 0 = digest ↔
      library.get smt message.keyBytes = message.digest keccak256 := by
    rw [computed]
    cases library.get smt message.keyBytes with
    | none => simpa using Ne.symm nonzero
    | some value => simp
  have sameKey : (library.verifierProof smt message.key).key = message.key := rfl
  have sameValue : (library.verifierProof smt message.key).value = (library.get smt message.keyBytes).getD 0 :=
    wordBytes_key message ▸ rfl
  simp only [verifyInclusionState, sameKey, verified, require, if_true, ok_bind, sameValue, value.trans holds]
  rfl

theorem verifyInclusionState_accepted {message : Message} {digest : Bytes32}
    (computed : message.digest keccak256 = some digest) (inside : ∀ input ∈ message.inputs keccak256, input ∈ inputs)
    (proves : ∀ input ∈ proofInputs library messages [message.key], input ∈ inputs)
    {proof : Proof} (proofHashed : ∀ input ∈ hashedInputs keccak256 proof, input ∈ inputs) {answer : Bool}
    (answered : verifyInclusionState keccak256 message.key digest (library.root smt) proof = .ok answer) :
    answer = decide ((lastMessage messages message.key).map Message.reduced = some message.reduced) := by
  have made := verifyInclusionState_verifierProof secure built hashed computed inside
  obtain ⟨key, accepted, rfl⟩ := verifyInclusionState_ok answered
  obtain ⟨_, accepted', same⟩ := verifyInclusionState_ok made
  have ownHashed : ∀ input ∈ hashedInputs keccak256 (library.verifierProof smt message.key), input ∈ inputs := by
    intro input found
    exact proves input (mem_proofInputs (proveKey_eq_some built _) List.mem_cons_self input found)
  rw [verifyProof_value secure key proofHashed ownHashed accepted accepted', same]

end Contents

/-! ## Roots -/

section Roots
variable {T : Type} {keccak256 : Bytes → Bytes32} {library : TrieLibrary T keccak256} {inputs : List Bytes}
  (secure : CollisionFree keccak256 inputs) {messages messages' : List Message} {smt smt' : T}
  (built : library.addMessages messages = some smt) (built' : library.addMessages messages' = some smt')
  (hashed : ∀ input ∈ messageInputs keccak256 messages, input ∈ inputs)
  (hashed' : ∀ input ∈ messageInputs keccak256 messages', input ∈ inputs)
include secure built built' hashed hashed'

theorem get_eq_iff {key : Bytes32} (keyHashed : wordBytes key ∈ inputs) :
    library.get smt (wordBytes key) = library.get smt' (wordBytes key) ↔
      (lastMessage messages key).map Message.reduced = (lastMessage messages' key).map Message.reduced := by
  cases last : lastMessage messages' key with
  | none =>
    rw [get_addMessages secure built' hashed' keyHashed, last, get_addMessages secure built hashed keyHashed]
    cases last' : lastMessage messages key with
    | none => simp
    | some stored =>
      obtain ⟨digest, computed⟩ := digest_of_addMessages built stored (mem_of_lastMessage last').1
      simp [computed]
  | some stored =>
    obtain ⟨member, rfl⟩ := mem_of_lastMessage last
    have packs := Option.isSome_iff_exists.mpr (digest_of_addMessages built' stored member)
    rw [get_addMessages secure built' hashed' keyHashed, last, Option.bind_some, wordBytes_key,
      get_eq_digest_iff secure built hashed packs (message_inputs hashed' member)]
    rfl

/-- Under one root, the proofs that both trees give for a key prove the same value. -/
theorem get_eq_of_root {key : Bytes32}
    (proves : ∀ input ∈ hashedInputs keccak256 (library.verifierProof smt key), input ∈ inputs)
    (proves' : ∀ input ∈ hashedInputs keccak256 (library.verifierProof smt' key), input ∈ inputs)
    (same : library.root smt = library.root smt') :
    library.get smt (wordBytes key) = library.get smt' (wordBytes key) := by
  have proper := addMessages_proper secure built hashed
  have proper' := addMessages_proper secure built' hashed'
  have accepted := verifyProof_verifierProof proper key
  have accepted' := verifyProof_verifierProof proper' key
  rw [same] at accepted
  have sameKey : (library.verifierProof smt key).key = (library.verifierProof smt' key).key := rfl
  have values : (library.get smt (wordBytes key)).getD 0 = (library.get smt' (wordBytes key)).getD 0 :=
    verifyProof_value secure sameKey proves proves' accepted accepted'
  -- a stored value is not zero, so that a zero means that there is none
  cases stored : library.get smt (wordBytes key) with
  | none =>
    cases stored' : library.get smt' (wordBytes key) with
    | none => rfl
    | some value =>
      rw [stored, stored'] at values
      exact absurd values.symm (proper' _ value stored').2
  | some value =>
    have nonzero := (proper _ value stored).2
    cases stored' : library.get smt' (wordBytes key) with
    | none =>
      rw [stored, stored'] at values
      exact absurd values nonzero
    | some value' =>
      rw [stored, stored'] at values
      exact congrArg some values

theorem root_eq_iff (compared : ∀ input ∈ comparisonInputs library messages messages', input ∈ inputs) :
    library.root smt = library.root smt' ↔
      ∀ key, (lastMessage messages key).map Message.reduced = (lastMessage messages' key).map Message.reduced := by
  have known {stored : Message} (member : stored ∈ messages ∨ stored ∈ messages') : wordBytes stored.key ∈ inputs := by
    rw [wordBytes_key]
    rcases member with member | member
    · exact message_inputs hashed member _ List.mem_cons_self
    · exact message_inputs hashed' member _ List.mem_cons_self
  constructor
  · intro same key
    obtain ⟨_, proved⟩ := List.forall_mem_append.mp compared
    obtain ⟨provedFirst, provedSecond⟩ := List.forall_mem_append.mp proved
    have reads {stored : Message} (member : stored ∈ messages ∨ stored ∈ messages') :
        (lastMessage messages stored.key).map Message.reduced = (lastMessage messages' stored.key).map Message.reduced := by
      have listed : stored.key ∈ (messages ++ messages').map Message.key :=
        List.mem_map_of_mem (List.mem_append.mpr member)
      refine (get_eq_iff secure built built' hashed hashed' (known member)).mp ?_
      refine get_eq_of_root secure built built' hashed hashed' (fun input found => ?_) (fun input found => ?_) same
      · exact provedFirst input (mem_proofInputs (proveKey_eq_some built _) listed input found)
      · exact provedSecond input (mem_proofInputs (proveKey_eq_some built' _) listed input found)
    cases last : lastMessage messages key with
    | some stored =>
      obtain ⟨member, rfl⟩ := mem_of_lastMessage last
      rw [← last]
      exact reads (.inl member)
    | none =>
      cases last' : lastMessage messages' key with
      | none => rfl
      | some stored =>
        obtain ⟨member, rfl⟩ := mem_of_lastMessage last'
        rw [← last, ← last']
        exact reads (.inr member)
  · intro same
    apply library.root_eq_of_get
    intro key
    have reads {stored : Message} (member : stored ∈ messages ∨ stored ∈ messages') :=
      (get_eq_iff secure built built' hashed hashed' (known member)).mpr (same stored.key)
    rw [get_eq_lastAt built, get_eq_lastAt built']
    cases last : lastAt keccak256 messages (keccak256 key) with
    | some stored =>
      obtain ⟨member, path⟩ := mem_of_lastAt last
      have found := reads (.inl member)
      rw [wordBytes_key, get_eq_lastAt built, get_eq_lastAt built', path] at found
      rw [← last]
      exact found
    | none =>
      cases last' : lastAt keccak256 messages' (keccak256 key) with
      | none => rfl
      | some stored =>
        obtain ⟨member, path⟩ := mem_of_lastAt last'
        have found := reads (.inr member)
        rw [wordBytes_key, get_eq_lastAt built, get_eq_lastAt built', path] at found
        rw [← last, ← last']
        exact found

end Roots

/-! ## Checkpoints -/

def lastStateRootUpdate (updates : List StateRootUpdate) (rollupId : Uint 32) (blockHeight : Uint 64) :
    Option StateRootUpdate :=
  updates.reverse.find? fun update => update.rollupId = rollupId ∧ update.blockHeight = blockHeight

def lastOperatorSetUpdate (updates : List OperatorSetUpdateMessage) (id : Uint 64) : Option OperatorSetUpdateMessage :=
  updates.reverse.find? fun update => update.id = id

def OperatorSetUpdateMessage.reduced (message : OperatorSetUpdateMessage) : OperatorSetUpdateMessage :=
  { message with operators := message.operators.map RollupOperator.reduced }

theorem lastMessage_stateRootUpdate (updates : List StateRootUpdate) (message : StateRootUpdate) :
    lastMessage (updates.map .stateRootUpdate) (Message.stateRootUpdate message).key =
      (lastStateRootUpdate updates message.rollupId message.blockHeight).map .stateRootUpdate := by
  rw [lastMessage, ← List.map_reverse, List.find?_map, lastStateRootUpdate]
  congr 2
  funext update
  exact decide_eq_decide.mpr stateRootUpdate_key_inj

theorem lastMessage_operatorSetUpdate (updates : List OperatorSetUpdateMessage) (message : OperatorSetUpdateMessage) :
    lastMessage (updates.map .operatorSetUpdate) (Message.operatorSetUpdate message).key =
      (lastOperatorSetUpdate updates message.id).map .operatorSetUpdate := by
  rw [lastMessage, ← List.map_reverse, List.find?_map, lastOperatorSetUpdate]
  congr 2
  funext update
  simp only [Function.comp_apply, operatorSetUpdate_key, decide_eq_decide]
  exact ⟨word_inj (by decide), congrArg word⟩

theorem forall_key_iff {α : Type} (wrap : α → Message) (updates others : List α) :
    (∀ key, (lastMessage (updates.map wrap) key).map Message.reduced = (lastMessage (others.map wrap) key).map Message.reduced) ↔
      ∀ update, (lastMessage (updates.map wrap) (wrap update).key).map Message.reduced =
        (lastMessage (others.map wrap) (wrap update).key).map Message.reduced := by
  refine ⟨fun same update => same _, fun same key => ?_⟩
  have known {list : List α} {message : Message} (last : lastMessage (list.map wrap) key = some message) :
      ∃ update, (wrap update).key = key := by
    obtain ⟨member, rfl⟩ := mem_of_lastMessage last
    obtain ⟨update, _, rfl⟩ := List.mem_map.mp member
    exact ⟨update, rfl⟩
  cases last : lastMessage (updates.map wrap) key with
  | some message =>
    obtain ⟨update, rfl⟩ := known last
    rw [← last, same]
  | none =>
    cases last' : lastMessage (others.map wrap) key with
    | none => rfl
    | some message =>
      obtain ⟨update, rfl⟩ := known last'
      rw [← last, ← last', same]

theorem lastStateRootUpdates_iff (updates others : List StateRootUpdate) :
    (∀ key, (lastMessage (updates.map .stateRootUpdate) key).map Message.reduced =
        (lastMessage (others.map .stateRootUpdate) key).map Message.reduced) ↔
      ∀ rollupId blockHeight,
        lastStateRootUpdate updates rollupId blockHeight = lastStateRootUpdate others rollupId blockHeight := by
  have injective : Function.Injective fun update => (Message.stateRootUpdate update).reduced := by
    intro first second same
    exact Message.stateRootUpdate.inj same
  simp only [forall_key_iff, lastMessage_stateRootUpdate, Option.map_map]
  constructor
  · intro same rollupId blockHeight
    exact Option.map_injective injective (same ⟨rollupId, blockHeight, 0, 0, 0, 0⟩)
  · intro same update
    rw [same]

theorem map_reduced_operatorSetUpdate (found : Option OperatorSetUpdateMessage) :
    (found.map .operatorSetUpdate).map Message.reduced =
      (found.map OperatorSetUpdateMessage.reduced).map .operatorSetUpdate := by
  cases found <;> rfl

theorem lastOperatorSetUpdates_iff (updates others : List OperatorSetUpdateMessage) :
    (∀ key, (lastMessage (updates.map .operatorSetUpdate) key).map Message.reduced =
        (lastMessage (others.map .operatorSetUpdate) key).map Message.reduced) ↔
      ∀ id, (lastOperatorSetUpdate updates id).map OperatorSetUpdateMessage.reduced =
        (lastOperatorSetUpdate others id).map OperatorSetUpdateMessage.reduced := by
  have injective : Function.Injective Message.operatorSetUpdate := fun _ _ same => Message.operatorSetUpdate.inj same
  simp only [forall_key_iff, lastMessage_operatorSetUpdate, map_reduced_operatorSetUpdate]
  constructor
  · intro same id
    exact Option.map_injective injective (same ⟨id, 0, []⟩)
  · intro same update
    rw [same]

section Checkpoints
variable {T : Type} {keccak256 : Bytes → Bytes32} {library : TrieLibrary T keccak256} {taskIndex taskIndex' : Uint 32} {updates updates' : List StateRootUpdate}
  {sets sets' : List OperatorSetUpdateMessage} {response response' : TaskResponse}

theorem newCheckpointTaskResponseFromMessages_eq_some :
    newCheckpointTaskResponseFromMessages library taskIndex updates sets = some response ↔
      ∃ stateRootUpdatesSmt operatorSetUpdatesSmt,
        library.addMessages (updates.map .stateRootUpdate) = some stateRootUpdatesSmt ∧
        library.addMessages (sets.map .operatorSetUpdate) = some operatorSetUpdatesSmt ∧
        response = ⟨taskIndex, library.root stateRootUpdatesSmt, library.root operatorSetUpdatesSmt⟩ := by
  simp only [newCheckpointTaskResponseFromMessages, Option.bind_eq_bind, Option.bind_eq_some_iff, Option.pure_def,
    Option.some.injEq]
  constructor
  · rintro ⟨first, added, second, added', rfl⟩
    exact ⟨first, second, added, added', rfl⟩
  · rintro ⟨first, second, added, added', rfl⟩
    exact ⟨first, added, second, added', rfl⟩

def checkpointInputs (keccak256 : Bytes → Bytes32) (updates : List StateRootUpdate) (sets : List OperatorSetUpdateMessage) :
    List Bytes :=
  messageInputs keccak256 (updates.map .stateRootUpdate) ++ messageInputs keccak256 (sets.map .operatorSetUpdate)

/-- The roots of two checkpoints are the same exactly if the last updates of every block are, and the last updates with
every id; the order of the messages and the messages that were replaced do not matter. -/
theorem checkpoint_roots_eq_iff
    (secure : CollisionFree keccak256
      (comparisonInputs library (updates.map .stateRootUpdate) (updates'.map .stateRootUpdate) ++
        comparisonInputs library (sets.map .operatorSetUpdate) (sets'.map .operatorSetUpdate)))
    (built : newCheckpointTaskResponseFromMessages library taskIndex updates sets = some response)
    (built' : newCheckpointTaskResponseFromMessages library taskIndex' updates' sets' = some response') :
    (response.stateRootUpdatesRoot = response'.stateRootUpdatesRoot ↔
      ∀ rollupId blockHeight,
        lastStateRootUpdate updates rollupId blockHeight = lastStateRootUpdate updates' rollupId blockHeight) ∧
    (response.operatorSetUpdatesRoot = response'.operatorSetUpdatesRoot ↔
      ∀ id, (lastOperatorSetUpdate sets id).map OperatorSetUpdateMessage.reduced =
        (lastOperatorSetUpdate sets' id).map OperatorSetUpdateMessage.reduced) := by
  obtain ⟨first, second, added, added', rfl⟩ := newCheckpointTaskResponseFromMessages_eq_some.mp built
  obtain ⟨first', second', added₁, added₁', rfl⟩ := newCheckpointTaskResponseFromMessages_eq_some.mp built'
  rw [← lastStateRootUpdates_iff, ← lastOperatorSetUpdates_iff]
  constructor
  · exact root_eq_iff secure added added₁ (fun _ member => by simp [comparisonInputs, member])
      (fun _ member => by simp [comparisonInputs, member]) (fun _ => List.mem_append_left _)
  · exact root_eq_iff secure added' added₁' (fun _ member => by simp [comparisonInputs, member])
      (fun _ member => by simp [comparisonInputs, member]) (fun _ => List.mem_append_right _)

/-! Two updates of block 7 of rollup 3, the second of which replaces the first. -/

def replacedUpdate : StateRootUpdate := ⟨3, 7, 100, 1, 2, 3⟩

def blockUpdate : StateRootUpdate := ⟨3, 7, 101, 1, 2, 4⟩

theorem lastStateRootUpdate_replaced (rollupId : Uint 32) (blockHeight : Uint 64) :
    lastStateRootUpdate [replacedUpdate, blockUpdate] rollupId blockHeight =
      lastStateRootUpdate [blockUpdate] rollupId blockHeight := by
  by_cases block : 3#32 = rollupId ∧ 7#64 = blockHeight
  · simp [lastStateRootUpdate, replacedUpdate, blockUpdate, block]
  · simp [lastStateRootUpdate, replacedUpdate, blockUpdate, block]

theorem checkpoint_roots_eq_iff_replaced :
    ∃ response response',
      newCheckpointTaskResponseFromMessages (sparseTries foldedBytes) 1 [replacedUpdate, blockUpdate] [] = some response ∧
      newCheckpointTaskResponseFromMessages (sparseTries foldedBytes) 2 [blockUpdate] [] = some response' ∧
      response.stateRootUpdatesRoot = response'.stateRootUpdatesRoot := by
  have secure : CollisionFree foldedBytes
      (comparisonInputs (sparseTries foldedBytes) ([replacedUpdate, blockUpdate].map .stateRootUpdate)
          ([blockUpdate].map .stateRootUpdate) ++
        comparisonInputs (sparseTries foldedBytes) (([] : List OperatorSetUpdateMessage).map .operatorSetUpdate)
          (([] : List OperatorSetUpdateMessage).map .operatorSetUpdate)) :=
    ⟨by decide +kernel, by decide +kernel⟩
  obtain ⟨response, built⟩ := Option.isSome_iff_exists.mp
    (show (newCheckpointTaskResponseFromMessages (sparseTries foldedBytes) 1 [replacedUpdate, blockUpdate] []).isSome
      by decide +kernel)
  obtain ⟨response', built'⟩ := Option.isSome_iff_exists.mp
    (show (newCheckpointTaskResponseFromMessages (sparseTries foldedBytes) 2 [blockUpdate] []).isSome by decide +kernel)
  exact ⟨response, response', built, built',
    (checkpoint_roots_eq_iff secure built built').1.mpr lastStateRootUpdate_replaced⟩

theorem fromBinding_reduced (binding : OperatorSetUpdate) :
    (OperatorSetUpdateMessage.fromBinding binding).reduced = .fromBinding binding := by
  have fits : (Message.operatorSetUpdate (.fromBinding binding)).WeightsFit := by
    intro operator member weight given
    obtain ⟨source, _, rfl⟩ := List.mem_map.mp member
    cases given
    have bound := source.weight.isLt
    omega
  exact Message.operatorSetUpdate.inj (Message.reduced_of_fit fits)

/-- What is hashed for the contract's questions about a block's update and about an operator set update. -/
def questionInputs (keccak256 : Bytes → Bytes32) (message : StateRootUpdate) (set : OperatorSetUpdate) : List Bytes :=
  (Message.stateRootUpdate message).inputs keccak256 ++ (Message.operatorSetUpdate (.fromBinding set)).inputs keccak256

def answerInputs (library : TrieLibrary T keccak256) (updates : List StateRootUpdate) (sets : List OperatorSetUpdateMessage)
    (message : StateRootUpdate) (set : OperatorSetUpdate) : List Bytes :=
  proofInputs library (updates.map .stateRootUpdate) [message.index] ++
    proofInputs library (sets.map .operatorSetUpdate) [set.index]

section Questions
variable {message : StateRootUpdate} {set : OperatorSetUpdate}

theorem last_stateRootUpdate_iff :
    (lastMessage (updates.map .stateRootUpdate) (Message.stateRootUpdate message).key).map Message.reduced =
        some (Message.stateRootUpdate message).reduced ↔
      lastStateRootUpdate updates message.rollupId message.blockHeight = some message := by
  rw [lastMessage_stateRootUpdate]
  cases lastStateRootUpdate updates message.rollupId message.blockHeight <;> simp [Message.reduced]

theorem last_operatorSetUpdate_iff :
    (lastMessage (sets.map .operatorSetUpdate) (Message.operatorSetUpdate (.fromBinding set)).key).map Message.reduced =
        some (Message.operatorSetUpdate (.fromBinding set)).reduced ↔
      (lastOperatorSetUpdate sets set.id).map OperatorSetUpdateMessage.reduced = some (.fromBinding set) := by
  have reduced : (Message.operatorSetUpdate (.fromBinding set)).reduced = .operatorSetUpdate (.fromBinding set) :=
    congrArg Message.operatorSetUpdate (fromBinding_reduced set)
  have sameId : (OperatorSetUpdateMessage.fromBinding set).id = set.id := rfl
  rw [lastMessage_operatorSetUpdate, map_reduced_operatorSetUpdate, reduced, sameId]
  cases (lastOperatorSetUpdate sets set.id).map OperatorSetUpdateMessage.reduced <;> simp

section Answers
variable {inputs : List Bytes} (secure : CollisionFree keccak256 inputs)
  (built : newCheckpointTaskResponseFromMessages library taskIndex updates sets = some response)
  (hashed : ∀ input ∈ checkpointInputs keccak256 updates sets, input ∈ inputs)
include secure built hashed

theorem stateRootUpdate_proved (inside : ∀ input ∈ (Message.stateRootUpdate message).inputs keccak256, input ∈ inputs) :
    ∃ proof, proveKey library (updates.map .stateRootUpdate) message.index = some proof ∧
      verifyStateRootUpdateInclusionState keccak256 message response proof =
        .ok (decide (lastStateRootUpdate updates message.rollupId message.blockHeight = some message)) := by
  obtain ⟨smt, _, added, _, rfl⟩ := newCheckpointTaskResponseFromMessages_eq_some.mp built
  have answer := verifyInclusionState_verifierProof secure added (List.forall_mem_append.mp hashed).1
    ((digest_eq_hash keccak256).1 message) inside
  simp only [last_stateRootUpdate_iff] at answer
  rw [stateRootUpdate_key] at answer
  exact ⟨_, proveKey_eq_some added _, answer⟩

theorem stateRootUpdate_accepted (inside : ∀ input ∈ (Message.stateRootUpdate message).inputs keccak256, input ∈ inputs)
    (proves : ∀ input ∈ proofInputs library (updates.map .stateRootUpdate) [message.index], input ∈ inputs)
    {proof : Proof} (proofHashed : ∀ input ∈ hashedInputs keccak256 proof, input ∈ inputs) {answer : Bool}
    (answered : verifyStateRootUpdateInclusionState keccak256 message response proof = .ok answer) :
    answer = decide (lastStateRootUpdate updates message.rollupId message.blockHeight = some message) := by
  obtain ⟨smt, _, added, _, rfl⟩ := newCheckpointTaskResponseFromMessages_eq_some.mp built
  rw [← stateRootUpdate_key] at proves
  rw [verifyStateRootUpdateInclusionState, ← stateRootUpdate_key] at answered
  have same := verifyInclusionState_accepted secure added (List.forall_mem_append.mp hashed).1
    ((digest_eq_hash keccak256).1 message) inside proves proofHashed answered
  simpa only [last_stateRootUpdate_iff] using same

variable (onField : ∀ operator ∈ set.operators,
    operator.pubkey.X.toNat < FP_MODULUS ∧ operator.pubkey.Y.toNat < FP_MODULUS)
  (inside : ∀ input ∈ (Message.operatorSetUpdate (.fromBinding set)).inputs keccak256, input ∈ inputs)
include onField inside

theorem operatorSetUpdate_proved :
    ∃ proof, proveKey library (sets.map .operatorSetUpdate) set.index = some proof ∧
      verifyOperatorSetUpdateInclusionState keccak256 set response proof =
        .ok (decide ((lastOperatorSetUpdate sets set.id).map OperatorSetUpdateMessage.reduced = some (.fromBinding set))) := by
  obtain ⟨_, smt, _, added, rfl⟩ := newCheckpointTaskResponseFromMessages_eq_some.mp built
  have answer := verifyInclusionState_verifierProof secure added (List.forall_mem_append.mp hashed).2
    ((digest_eq_hash keccak256).2.2 set onField) inside
  simp only [last_operatorSetUpdate_iff] at answer
  rw [operatorSetUpdate_key] at answer
  exact ⟨_, proveKey_eq_some added _, answer⟩

theorem operatorSetUpdate_accepted
    (proves : ∀ input ∈ proofInputs library (sets.map .operatorSetUpdate) [set.index], input ∈ inputs) {proof : Proof}
    (proofHashed : ∀ input ∈ hashedInputs keccak256 proof, input ∈ inputs) {answer : Bool}
    (answered : verifyOperatorSetUpdateInclusionState keccak256 set response proof = .ok answer) :
    answer =
      decide ((lastOperatorSetUpdate sets set.id).map OperatorSetUpdateMessage.reduced = some (.fromBinding set)) := by
  obtain ⟨_, smt, _, added, rfl⟩ := newCheckpointTaskResponseFromMessages_eq_some.mp built
  have key : (Message.operatorSetUpdate (.fromBinding set)).key = set.index := operatorSetUpdate_key _
  rw [← key] at proves
  rw [verifyOperatorSetUpdateInclusionState, ← key] at answered
  have same := verifyInclusionState_accepted secure added (List.forall_mem_append.mp hashed).2
    ((digest_eq_hash keccak256).2.2 set onField) inside proves proofHashed answered
  simpa only [last_operatorSetUpdate_iff] using same

end Answers

/-- The contract accepts the proofs that are made in Go from the messages of a checkpoint, and answers whether the message
in question is the last one of its key. -/
theorem checkpoint_proofs_accepted
    (built : newCheckpointTaskResponseFromMessages library taskIndex updates sets = some response)
    (onField : ∀ operator ∈ set.operators,
      operator.pubkey.X.toNat < FP_MODULUS ∧ operator.pubkey.Y.toNat < FP_MODULUS)
    (secure : CollisionFree keccak256 (checkpointInputs keccak256 updates sets ++ questionInputs keccak256 message set)) :
    (∃ proof, proveKey library (updates.map .stateRootUpdate) message.index = some proof ∧
      verifyStateRootUpdateInclusionState keccak256 message response proof =
        .ok (decide (lastStateRootUpdate updates message.rollupId message.blockHeight = some message))) ∧
    ∃ proof, proveKey library (sets.map .operatorSetUpdate) set.index = some proof ∧
      verifyOperatorSetUpdateInclusionState keccak256 set response proof =
        .ok (decide ((lastOperatorSetUpdate sets set.id).map OperatorSetUpdateMessage.reduced = some (.fromBinding set))) := by
  have hashed : ∀ input ∈ checkpointInputs keccak256 updates sets, input ∈ checkpointInputs keccak256 updates sets ++
      questionInputs keccak256 message set :=
    fun _ => List.mem_append_left _
  obtain ⟨proof, made, answer⟩ := stateRootUpdate_proved secure built hashed
    (fun _ (member : _ ∈ (Message.stateRootUpdate message).inputs keccak256) => by simp [questionInputs, member])
  obtain ⟨proof', made', answer'⟩ :=
    operatorSetUpdate_proved secure built hashed onField (fun _ member => by simp [questionInputs, member])
  exact ⟨⟨proof, made, answer⟩, ⟨proof', made', answer'⟩⟩

def operatorSet : OperatorSetUpdate := ⟨1, 2, [⟨⟨1, 2⟩, 5⟩]⟩

theorem operatorSet_onField : ∀ operator ∈ operatorSet.operators,
    operator.pubkey.X.toNat < FP_MODULUS ∧ operator.pubkey.Y.toNat < FP_MODULUS := by
  decide

theorem checkpoint_proofs_accepted_replaced :
    ∃ response proof, newCheckpointTaskResponseFromMessages (sparseTries foldedBytes) 1 [replacedUpdate, blockUpdate]
        [.fromBinding operatorSet] = some response ∧
      proveKey (sparseTries foldedBytes) ([replacedUpdate, blockUpdate].map .stateRootUpdate) replacedUpdate.index = some proof ∧
      verifyStateRootUpdateInclusionState foldedBytes replacedUpdate response proof = .ok false := by
  have secure : CollisionFree foldedBytes (checkpointInputs foldedBytes [replacedUpdate, blockUpdate]
      [.fromBinding operatorSet] ++ questionInputs foldedBytes replacedUpdate operatorSet) :=
    ⟨by decide +kernel, by decide +kernel⟩
  obtain ⟨response, built⟩ := Option.isSome_iff_exists.mp
    (show (newCheckpointTaskResponseFromMessages (sparseTries foldedBytes) 1 [replacedUpdate, blockUpdate]
      [.fromBinding operatorSet]).isSome by decide +kernel)
  obtain ⟨⟨proof, made, answered⟩, _⟩ := checkpoint_proofs_accepted built operatorSet_onField secure
  exact ⟨response, proof, built, made, answered⟩

/-- Whatever proof is accepted under a checkpoint's roots, the answer is whether the message is the last one of its key. -/
theorem checkpoint_proofs_sound {proof : Proof}
    (built : newCheckpointTaskResponseFromMessages library taskIndex updates sets = some response)
    (onField : ∀ operator ∈ set.operators,
      operator.pubkey.X.toNat < FP_MODULUS ∧ operator.pubkey.Y.toNat < FP_MODULUS)
    (secure : CollisionFree keccak256
      (checkpointInputs keccak256 updates sets ++ questionInputs keccak256 message set ++
        answerInputs library updates sets message set ++ hashedInputs keccak256 proof)) :
    (∀ answer, verifyStateRootUpdateInclusionState keccak256 message response proof = .ok answer →
      answer = decide (lastStateRootUpdate updates message.rollupId message.blockHeight = some message)) ∧
    ∀ answer, verifyOperatorSetUpdateInclusionState keccak256 set response proof = .ok answer →
      answer =
        decide ((lastOperatorSetUpdate sets set.id).map OperatorSetUpdateMessage.reduced = some (.fromBinding set)) := by
  have hashed : ∀ input ∈ checkpointInputs keccak256 updates sets, input ∈ checkpointInputs keccak256 updates sets ++
      questionInputs keccak256 message set ++ answerInputs library updates sets message set ++
        hashedInputs keccak256 proof :=
    fun _ member => List.mem_append_left _ (List.mem_append_left _ (List.mem_append_left _ member))
  constructor
  · intro answer answered
    exact stateRootUpdate_accepted secure built hashed (fun _ member => by simp [questionInputs, member])
      (fun _ member => by simp [answerInputs, member]) (fun _ => List.mem_append_right _) answered
  · intro answer answered
    exact operatorSetUpdate_accepted secure built hashed onField (fun _ member => by simp [questionInputs, member])
      (fun _ member => by simp [answerInputs, member]) (fun _ => List.mem_append_right _) answered

/-- A proof about the block, whose leaf is the whole tree. -/
def blockProof : Proof := ⟨blockUpdate.index, blockUpdate.hash foldedBytes, 0, [], 0, 0, 0⟩

theorem checkpoint_proofs_sound_replaced :
    ∃ response, newCheckpointTaskResponseFromMessages (sparseTries foldedBytes) 1 [replacedUpdate, blockUpdate]
        [.fromBinding operatorSet] = some response ∧
      verifyStateRootUpdateInclusionState foldedBytes blockUpdate response blockProof = .ok true ∧
      decide (lastStateRootUpdate [replacedUpdate, blockUpdate] 3 7 = some blockUpdate) = true := by
  have secure : CollisionFree foldedBytes (checkpointInputs foldedBytes [replacedUpdate, blockUpdate]
      [.fromBinding operatorSet] ++ questionInputs foldedBytes blockUpdate operatorSet ++
        answerInputs (sparseTries foldedBytes) [replacedUpdate, blockUpdate] [.fromBinding operatorSet] blockUpdate
          operatorSet ++ hashedInputs foldedBytes blockProof) :=
    ⟨by decide +kernel, by decide +kernel⟩
  have built : newCheckpointTaskResponseFromMessages (sparseTries foldedBytes) 1 [replacedUpdate, blockUpdate]
      [.fromBinding operatorSet] = some ((newCheckpointTaskResponseFromMessages (sparseTries foldedBytes) 1
        [replacedUpdate, blockUpdate] [.fromBinding operatorSet]).getD ⟨0, 0, 0⟩) := by
    decide +kernel
  have answered : verifyStateRootUpdateInclusionState foldedBytes blockUpdate
      ((newCheckpointTaskResponseFromMessages (sparseTries foldedBytes) 1 [replacedUpdate, blockUpdate]
        [.fromBinding operatorSet]).getD ⟨0, 0, 0⟩) blockProof = .ok true := by
    decide +kernel
  exact ⟨_, built, answered, ((checkpoint_proofs_sound built operatorSet_onField secure).1 true answered).symm⟩

end Questions

end Checkpoints

end Sffl.Core
