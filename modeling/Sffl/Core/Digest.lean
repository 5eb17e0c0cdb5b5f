import Sffl.Eth.Checkpoint

/-! The digests of the messages, as the Go code computes them.

A message is packed by its ABI type and hashed under the hash of its prefix. The
packed fields are wider than those of the structs, but for the weights of an
operator set update, which are unbounded: of a weight only the residue is packed.
-/

set_option autoImplicit false

namespace Sffl.Core

open Sffl.Evm Sffl.Rollup Sffl.Eth

structure PubkeyG1 where
  X : Fin FP_MODULUS
  Y : Fin FP_MODULUS
  deriving DecidableEq, Repr

/-- Both pointers may be nil. -/
structure RollupOperator where
  pubkey : Option PubkeyG1
  weight : Option Int
  deriving DecidableEq, Repr

structure OperatorSetUpdateMessage where
  id : Uint 64
  timestamp : Uint 64
  operators : List RollupOperator
  deriving DecidableEq, Repr

structure SignedOperatorSetUpdateMessage (Sig : Type) where
  message : OperatorSetUpdateMessage
  blsSignature : Option Sig

def checkOperators : List RollupOperator → Except String Unit
  | [] => .ok ()
  | operator :: operators =>
    if operator.pubkey.isNone then .error "Operator.Pubkey is nil"
    else if operator.weight.isNone then .error "Operator.Weight is nil"
    else checkOperators operators

def SignedOperatorSetUpdateMessage.isValid {Sig : Type} : Option (SignedOperatorSetUpdateMessage Sig) → Except String Unit
  | none => .error "SignedOperatorSetUpdateMessage is nil"
  | some signed =>
    if signed.blsSignature.isNone then .error "BlsSignature.G1Point is nil"
    else checkOperators signed.message.operators

/-! ## Packing -/

/-- `abi` packs a `big.Int` as its residue in one word, whatever the type's width. -/
def packNum (value : Int) : Bytes32 := BitVec.ofInt 256 value

def RollupOperator.abiWords (operator : RollupOperator) : Option (List Bytes32) := do
  -- a nil pointer cannot be packed
  let pubkey ← operator.pubkey
  let weight ← operator.weight
  return [packNum pubkey.X.val, packNum pubkey.Y.val, packNum weight]

def operatorsWords : List RollupOperator → Option (List Bytes32)
  | [] => some []
  | operator :: operators => do
    let first ← operator.abiWords
    let rest ← operatorsWords operators
    return first ++ rest

def OperatorSetUpdateMessage.abiEncode (message : OperatorSetUpdateMessage) : Option Bytes := do
  let operators ← operatorsWords message.operators
  return wordsBytes ([0x20, word message.id, word message.timestamp, 0x60,
    BitVec.ofNat 256 message.operators.length] ++ operators)

inductive Message where
  | stateRootUpdate (message : StateRootUpdate)
  | operatorSetUpdate (message : OperatorSetUpdateMessage)
  | checkpointTaskResponse (message : TaskResponse)
  deriving DecidableEq

namespace Message

def messagePrefix : Message → String
  | .stateRootUpdate _ => "SFFL::StateRootUpdateMessage"
  | .operatorSetUpdate _ => "SFFL::OperatorSetUpdateMessage"
  | .checkpointTaskResponse _ => "SFFL::CheckpointTaskResponse"

def abiEncode : Message → Option Bytes
  | .stateRootUpdate message => some message.abiEncode
  | .operatorSetUpdate message => message.abiEncode
  | .checkpointTaskResponse message => some (wordsBytes message.abiWords)

end Message

section Hashing
variable (keccak256 : Bytes → Bytes32)

def hashMessageWithPrefix (messagePrefix data : Bytes) : Bytes32 :=
  let prefixHash := keccak256 messagePrefix
  let dataHash := keccak256 data
  keccak256 (wordsBytes [prefixHash, dataHash])

def Message.digest (message : Message) : Option Bytes32 := do
  let data ← message.abiEncode
  return hashMessageWithPrefix keccak256 (utf8 message.messagePrefix) data

/-- The three byte strings that are hashed for a digest. -/
def Message.hashedInputs (message : Message) : List Bytes :=
  match message.abiEncode with
  | some data =>
    [utf8 message.messagePrefix, data, wordsBytes [keccak256 (utf8 message.messagePrefix), keccak256 data]]
  | none => []

end Hashing

/-! ## What a digest leaves out -/

def RollupOperator.reduced (operator : RollupOperator) : RollupOperator :=
  { operator with weight := operator.weight.map (· % 2 ^ 256) }

def Message.reduced : Message → Message
  | .operatorSetUpdate message =>
    .operatorSetUpdate { message with operators := message.operators.map RollupOperator.reduced }
  | message => message

def Message.WeightsFit : Message → Prop
  | .operatorSetUpdate message =>
    ∀ operator ∈ message.operators, ∀ weight ∈ operator.weight, 0 ≤ weight ∧ weight < 2 ^ 256
  | _ => True

theorem packNum_inj {first second : Int} : packNum first = packNum second ↔ first % 2 ^ 256 = second % 2 ^ 256 := by
  rw [packNum, packNum, ← BitVec.toNat_inj, BitVec.toNat_ofInt, BitVec.toNat_ofInt]
  omega

theorem packNum_coordinate_inj {first second : Fin FP_MODULUS} (same : packNum first.val = packNum second.val) :
    first = second := by
  have small : FP_MODULUS < 2 ^ 256 := by decide
  have residues := packNum_inj.mp same
  omega

/-! ## Reading the packed words back -/

section Words
variable {first second : RollupOperator} {operators others : List RollupOperator} {words words' : List Bytes32}

theorem abiWords_eq_some : first.abiWords = some words ↔ ∃ pubkey weight, first.pubkey = some pubkey ∧
    first.weight = some weight ∧ words = [packNum pubkey.X.val, packNum pubkey.Y.val, packNum weight] := by
  simp only [RollupOperator.abiWords, Option.bind_eq_bind, Option.bind_eq_some_iff, Option.pure_def, Option.some.injEq]
  constructor
  · rintro ⟨pubkey, known, weight, given, rfl⟩
    exact ⟨pubkey, weight, known, given, rfl⟩
  · rintro ⟨pubkey, weight, known, given, rfl⟩
    exact ⟨pubkey, known, weight, given, rfl⟩

theorem abiWords_length (packed : first.abiWords = some words) : words.length = 3 := by
  obtain ⟨_, _, _, _, rfl⟩ := abiWords_eq_some.mp packed
  rfl

theorem abiWords_inj (packed : first.abiWords = some words) (packed' : second.abiWords = some words') :
    words = words' ↔ first.reduced = second.reduced := by
  obtain ⟨pubkey, weight, known, given, rfl⟩ := abiWords_eq_some.mp packed
  obtain ⟨pubkey', weight', known', given', rfl⟩ := abiWords_eq_some.mp packed'
  simp only [RollupOperator.reduced, RollupOperator.mk.injEq, known, known', given, given', Option.map_some,
    Option.some.injEq, List.cons.injEq, and_true]
  constructor
  · rintro ⟨x, y, weights⟩
    refine ⟨?_, packNum_inj.mp weights⟩
    cases pubkey
    cases pubkey'
    simp only [PubkeyG1.mk.injEq]
    exact ⟨packNum_coordinate_inj x, packNum_coordinate_inj y⟩
  · rintro ⟨rfl, weights⟩
    exact ⟨rfl, rfl, packNum_inj.mpr weights⟩

theorem operatorsWords_cons : operatorsWords (first :: operators) = some words ↔
    ∃ head tail, first.abiWords = some head ∧ operatorsWords operators = some tail ∧ words = head ++ tail := by
  simp only [operatorsWords, Option.bind_eq_bind, Option.bind_eq_some_iff, Option.pure_def, Option.some.injEq]
  constructor
  · rintro ⟨head, packed, tail, rest, rfl⟩
    exact ⟨head, tail, packed, rest, rfl⟩
  · rintro ⟨head, tail, packed, rest, rfl⟩
    exact ⟨head, packed, tail, rest, rfl⟩

theorem operatorsWords_inj (packed : operatorsWords operators = some words) (packed' : operatorsWords others = some words') :
    words = words' ↔ operators.map RollupOperator.reduced = others.map RollupOperator.reduced := by
  -- over the first list: every operator takes three words, so lists of another length have other words
  induction operators generalizing others words words' with
  | nil =>
    cases packed
    cases others with
    | nil =>
      cases packed'
      simp
    | cons other others =>
      obtain ⟨head, tail, first, _, rfl⟩ := operatorsWords_cons.mp packed'
      refine iff_of_false (fun empty => ?_) (by simp)
      have length := congrArg List.length empty
      rw [List.length_append, abiWords_length first, List.length_nil] at length
      omega
  | cons operator operators ih =>
    obtain ⟨head, tail, first, rest, rfl⟩ := operatorsWords_cons.mp packed
    cases others with
    | nil =>
      cases packed'
      refine iff_of_false (fun empty => ?_) (by simp)
      have length := congrArg List.length empty
      simp [abiWords_length first] at length
    | cons other others =>
      obtain ⟨head', tail', first', rest', rfl⟩ := operatorsWords_cons.mp packed'
      have sameLength : head.length = head'.length := (abiWords_length first).trans (abiWords_length first').symm
      rw [List.append_eq_append_iff_of_size_eq_left sameLength, List.map_cons, List.map_cons, List.cons.injEq,
        abiWords_inj first first', ih rest rest']

end Words

/-! ## Reading the encodings back -/

theorem wordsBytes_length (words : List Bytes32) : (wordsBytes words).length = 32 * words.length := by
  induction words with
  | nil => rfl
  | cons first rest ih =>
    rw [wordsBytes, List.flatMap_cons, List.length_append, wordBytes_length, List.length_cons]
    rw [wordsBytes] at ih
    omega

theorem wordsBytes_injective : Function.Injective wordsBytes := by
  intro first second same
  have lengths := congrArg List.length same
  rw [wordsBytes_length, wordsBytes_length] at lengths
  have sameBytes : wordsBytes first ++ [] = wordsBytes second ++ [] := by rw [same]
  exact (wordsBytes_inj (by omega) sameBytes).1

theorem stateRootUpdate_abiEncode_injective : Function.Injective StateRootUpdate.abiEncode := by
  intro first second same
  have words := wordsBytes_injective same
  cases first
  cases second
  simp only [List.cons.injEq, and_true] at words
  obtain ⟨rollupId, blockHeight, timestamp, transactionId, commitment, stateRoot⟩ := words
  rw [StateRootUpdate.mk.injEq]
  exact ⟨word_inj (by decide) rollupId, word_inj (by decide) blockHeight, word_inj (by decide) timestamp,
    transactionId, commitment, stateRoot⟩

theorem taskResponse_abiWords_injective : Function.Injective TaskResponse.abiWords := by
  intro first second same
  cases first
  cases second
  simp only [TaskResponse.abiWords, List.cons.injEq, and_true] at same
  obtain ⟨index, stateRoots, operatorSets⟩ := same
  rw [TaskResponse.mk.injEq]
  exact ⟨word_inj (by decide) index, stateRoots, operatorSets⟩

section Encodings
variable {data data' : Bytes}

theorem operatorSetUpdate_abiEncode_inj {first second : OperatorSetUpdateMessage}
    (packed : first.abiEncode = some data) (packed' : second.abiEncode = some data') :
    data = data' ↔ first.id = second.id ∧ first.timestamp = second.timestamp ∧
      first.operators.map RollupOperator.reduced = second.operators.map RollupOperator.reduced := by
  obtain ⟨words, operators, done⟩ := Option.bind_eq_some_iff.mp packed
  obtain ⟨words', operators', done'⟩ := Option.bind_eq_some_iff.mp packed'
  cases done
  cases done'
  rw [wordsBytes_injective.eq_iff]
  simp only [List.cons_append, List.nil_append, List.cons.injEq, true_and, operatorsWords_inj operators operators']
  constructor
  · rintro ⟨id, timestamp, _, same⟩
    exact ⟨word_inj (by decide) id, word_inj (by decide) timestamp, same⟩
  · rintro ⟨id, timestamp, same⟩
    -- the number of operators is one of the words
    have length := congrArg List.length same
    rw [List.length_map, List.length_map] at length
    rw [id, timestamp, length]
    exact ⟨rfl, rfl, rfl, same⟩

theorem abiEncode_inj {first second : Message} (samePrefix : first.messagePrefix = second.messagePrefix)
    (packed : first.abiEncode = some data) (packed' : second.abiEncode = some data') :
    data = data' ↔ first.reduced = second.reduced := by
  cases first with
  | stateRootUpdate message =>
    cases second with
    | stateRootUpdate other =>
      rw [Message.abiEncode, Option.some.injEq] at packed packed'
      rw [← packed, ← packed', stateRootUpdate_abiEncode_injective.eq_iff]
      simp [Message.reduced]
    | operatorSetUpdate other => simp [Message.messagePrefix] at samePrefix
    | checkpointTaskResponse other => simp [Message.messagePrefix] at samePrefix
  | operatorSetUpdate message =>
    cases second with
    | stateRootUpdate other => simp [Message.messagePrefix] at samePrefix
    | operatorSetUpdate other =>
      rw [operatorSetUpdate_abiEncode_inj packed packed']
      simp [Message.reduced]
    | checkpointTaskResponse other => simp [Message.messagePrefix] at samePrefix
  | checkpointTaskResponse message =>
    cases second with
    | stateRootUpdate other => simp [Message.messagePrefix] at samePrefix
    | operatorSetUpdate other => simp [Message.messagePrefix] at samePrefix
    | checkpointTaskResponse other =>
      rw [Message.abiEncode, Option.some.injEq] at packed packed'
      rw [← packed, ← packed', wordsBytes_injective.eq_iff, taskResponse_abiWords_injective.eq_iff]
      simp [Message.reduced]

end Encodings

/-! ## Digests -/

theorem messagePrefix_reduced (message : Message) : message.reduced.messagePrefix = message.messagePrefix := by
  cases message <;> rfl

theorem messagePrefix_of_utf8 {first second : Message} (same : utf8 first.messagePrefix = utf8 second.messagePrefix) :
    first.messagePrefix = second.messagePrefix := by
  have apart : ∀ text ∈ ["SFFL::StateRootUpdateMessage", "SFFL::OperatorSetUpdateMessage",
      "SFFL::CheckpointTaskResponse"], ∀ other ∈ ["SFFL::StateRootUpdateMessage", "SFFL::OperatorSetUpdateMessage",
      "SFFL::CheckpointTaskResponse"], utf8 text = utf8 other → text = other := by
    decide +kernel
  apply apart _ _ _ _ same
  · cases first <;> simp [Message.messagePrefix]
  · cases second <;> simp [Message.messagePrefix]

theorem RollupOperator.reduced_of_fit {operator : RollupOperator}
    (fits : ∀ weight ∈ operator.weight, 0 ≤ weight ∧ weight < 2 ^ 256) : operator.reduced = operator := by
  obtain ⟨pubkey, weight⟩ := operator
  cases weight with
  | none => rfl
  | some weight =>
    obtain ⟨nonneg, small⟩ := fits weight rfl
    rw [reduced, Option.map_some, Int.emod_eq_of_lt nonneg small]

theorem Message.reduced_of_fit {message : Message} (fits : message.WeightsFit) : message.reduced = message := by
  cases message with
  | stateRootUpdate => rfl
  | checkpointTaskResponse => rfl
  | operatorSetUpdate message =>
    have same : message.operators.map RollupOperator.reduced = message.operators.map id :=
      List.map_congr_left fun operator member => RollupOperator.reduced_of_fit (fits operator member)
    rw [Message.reduced, same, List.map_id]

section Digests
variable {keccak256 : Bytes → Bytes32} {first second : Message} {digest digest' : Bytes32}

theorem digest_eq_some : first.digest keccak256 = some digest ↔ ∃ data, first.abiEncode = some data ∧
    hashMessageWithPrefix keccak256 (utf8 first.messagePrefix) data = digest := by
  simp only [Message.digest, Option.bind_eq_bind, Option.bind_eq_some_iff, Option.pure_def, Option.some.injEq]

theorem operatorsWords_of_checked {operators : List RollupOperator} (checked : checkOperators operators = .ok ()) :
    ∃ words, operatorsWords operators = some words := by
  induction operators with
  | nil => exact ⟨[], rfl⟩
  | cons operator operators ih =>
    obtain ⟨pubkey, weight⟩ := operator
    cases pubkey with
    | none => cases checked
    | some pubkey =>
      cases weight with
      | none => cases checked
      | some weight =>
        obtain ⟨words, packed⟩ := ih checked
        exact ⟨_, operatorsWords_cons.mpr ⟨_, words, rfl, packed, rfl⟩⟩

theorem abiEncode_of_words {message : OperatorSetUpdateMessage} {words : List Bytes32}
    (packed : operatorsWords message.operators = some words) :
    (Message.operatorSetUpdate message).abiEncode = some (wordsBytes ([0x20, word message.id, word message.timestamp,
      0x60, BitVec.ofNat 256 message.operators.length] ++ words)) := by
  rw [Message.abiEncode, OperatorSetUpdateMessage.abiEncode, packed]
  rfl

theorem digest_of_isValid {Sig : Type} {signed : SignedOperatorSetUpdateMessage Sig}
    (valid : SignedOperatorSetUpdateMessage.isValid (some signed) = .ok ()) :
    ∃ digest, (Message.operatorSetUpdate signed.message).digest keccak256 = some digest := by
  simp only [SignedOperatorSetUpdateMessage.isValid] at valid
  split at valid
  next => cases valid
  next =>
    obtain ⟨words, packed⟩ := operatorsWords_of_checked valid
    exact ⟨_, digest_eq_some.mpr ⟨_, abiEncode_of_words packed, rfl⟩⟩

theorem digest_eq_of_reduced (same : first.reduced = second.reduced) (computed : first.digest keccak256 = some digest)
    (computed' : second.digest keccak256 = some digest') : digest = digest' := by
  obtain ⟨data, packed, rfl⟩ := digest_eq_some.mp computed
  obtain ⟨data', packed', rfl⟩ := digest_eq_some.mp computed'
  have samePrefix : first.messagePrefix = second.messagePrefix := by
    rw [← messagePrefix_reduced first, ← messagePrefix_reduced second, same]
  rw [samePrefix, (abiEncode_inj samePrefix packed packed').mpr same]

/-- Without collisions among the strings that are hashed for two digests, the digests are equal exactly if the messages
are, up to multiples of 2²⁵⁶ in the weights. -/
theorem digest_inj
    (secure : Set.InjOn keccak256 {input | input ∈ first.hashedInputs keccak256 ++ second.hashedInputs keccak256})
    (computed : first.digest keccak256 = some digest) (computed' : second.digest keccak256 = some digest') :
    digest = digest' ↔ first.reduced = second.reduced := by
  refine ⟨?_, fun same => digest_eq_of_reduced same computed computed'⟩
  obtain ⟨data, packed, rfl⟩ := digest_eq_some.mp computed
  obtain ⟨data', packed', rfl⟩ := digest_eq_some.mp computed'
  simp only [Message.hashedInputs, packed, packed'] at secure
  intro same
  have hashes := wordsBytes_injective (secure (by simp) (by simp) same)
  simp only [List.cons.injEq, and_true] at hashes
  have samePrefix := messagePrefix_of_utf8 (secure (by simp) (by simp) hashes.1)
  have sameData : data = data' := secure (by simp) (by simp) hashes.2
  exact (abiEncode_inj samePrefix packed packed').mp sameData

/-- A digest identifies its message up to multiples of 2²⁵⁶ in the weights, and so it identifies a message whose weights
are words. -/
theorem digest_identifies
    (secure : Set.InjOn keccak256 {input | input ∈ first.hashedInputs keccak256 ++ second.hashedInputs keccak256})
    (computed : first.digest keccak256 = some digest) (computed' : second.digest keccak256 = some digest') :
    (digest = digest' ↔ first.reduced = second.reduced) ∧
      (first.WeightsFit → second.WeightsFit → digest = digest' → first = second) := by
  have inj := digest_inj secure computed computed'
  refine ⟨inj, ?_⟩
  intro fits fits' same
  rw [← Message.reduced_of_fit fits, ← Message.reduced_of_fit fits', inj.mp same]

end Digests

/-! ## The contracts' hashes -/

instance : NeZero FP_MODULUS := ⟨by decide⟩

/-- `NewOperatorSetUpdateMessageFromBinding`. The field reduces the coordinates. -/
def OperatorSetUpdateMessage.fromBinding (binding : OperatorSetUpdate) : OperatorSetUpdateMessage where
  id := binding.id
  timestamp := binding.timestamp
  operators := binding.operators.map fun operator =>
    ⟨some ⟨Fin.ofNat FP_MODULUS operator.pubkey.X.toNat, Fin.ofNat FP_MODULUS operator.pubkey.Y.toNat⟩,
      some operator.weight.toNat⟩

theorem packNum_toNat {width : Nat} (value : Uint width) : packNum value.toNat = word value := by
  rw [packNum, BitVec.ofInt_natCast, BitVec.ofNat_toNat, word]

theorem packNum_fieldElement {coordinate : Bytes32} (reduced : coordinate.toNat < FP_MODULUS) :
    packNum (Fin.ofNat FP_MODULUS coordinate.toNat).val = coordinate := by
  rw [Fin.val_ofNat, Nat.mod_eq_of_lt reduced, packNum_toNat, word, BitVec.setWidth_eq]

theorem operatorsWords_fromBinding {operators : List Operator}
    (onField : ∀ operator ∈ operators, operator.pubkey.X.toNat < FP_MODULUS ∧ operator.pubkey.Y.toNat < FP_MODULUS) :
    operatorsWords (operators.map fun operator =>
      ⟨some ⟨Fin.ofNat FP_MODULUS operator.pubkey.X.toNat, Fin.ofNat FP_MODULUS operator.pubkey.Y.toNat⟩,
        some operator.weight.toNat⟩) = some (operators.flatMap Operator.abiWords) := by
  induction operators with
  | nil => rfl
  | cons operator operators ih =>
    obtain ⟨⟨x, y⟩, rest⟩ := List.forall_mem_cons.mp onField
    rw [List.map_cons, operatorsWords, ih rest]
    simp only [RollupOperator.abiWords, Option.bind_eq_bind, Option.bind_some, packNum_fieldElement x,
      packNum_fieldElement y, packNum_toNat]
    rfl

/-- What operators sign is what the contracts hash. -/
theorem digest_eq_hash (keccak256 : Bytes → Bytes32) :
    (∀ message, (Message.stateRootUpdate message).digest keccak256 = some (message.hash keccak256)) ∧
    (∀ message, (Message.checkpointTaskResponse message).digest keccak256 = some (message.hash keccak256)) ∧
    ∀ binding : OperatorSetUpdate,
      (∀ operator ∈ binding.operators,
        operator.pubkey.X.toNat < FP_MODULUS ∧ operator.pubkey.Y.toNat < FP_MODULUS) →
      (Message.operatorSetUpdate (.fromBinding binding)).digest keccak256 = some (binding.hash keccak256) := by
  refine ⟨fun _ => rfl, fun _ => rfl, ?_⟩
  intro binding onField
  refine digest_eq_some.mpr ⟨_, abiEncode_of_words (operatorsWords_fromBinding onField), ?_⟩
  rw [OperatorSetUpdateMessage.fromBinding, List.length_map]
  rfl

theorem operators_abiWords_inj {first second : List Operator}
    (same : first.flatMap Operator.abiWords = second.flatMap Operator.abiWords) : first = second := by
  induction first generalizing second with
  | nil =>
    cases second with
    | nil => rfl
    | cons operator rest => simp [Operator.abiWords] at same
  | cons operator operators ih =>
    cases second with
    | nil => simp [Operator.abiWords] at same
    | cons other others =>
      simp only [List.flatMap_cons, Operator.abiWords, List.cons_append, List.nil_append, List.cons.injEq] at same
      obtain ⟨x, y, weight, rest⟩ := same
      obtain ⟨⟨_, _⟩, _⟩ := operator
      obtain ⟨⟨_, _⟩, _⟩ := other
      cases x
      cases y
      cases word_inj (by decide) weight
      rw [ih rest]

/-- The contracts' encoding of an update can be read back, whatever the coordinates are. -/
theorem binding_abiEncode_injective : Function.Injective OperatorSetUpdate.abiEncode := by
  intro first second same
  have words := wordsBytes_injective same
  simp only [List.cons_append, List.nil_append, List.cons.injEq, true_and] at words
  obtain ⟨id, timestamp, _, operators⟩ := words
  cases first
  cases second
  rw [OperatorSetUpdate.mk.injEq]
  exact ⟨word_inj (by decide) id, word_inj (by decide) timestamp, operators_abiWords_inj operators⟩

theorem fromBinding_abiEncode {binding : OperatorSetUpdate}
    (onField : ∀ operator ∈ binding.operators, operator.pubkey.X.toNat < FP_MODULUS ∧ operator.pubkey.Y.toNat < FP_MODULUS) :
    (OperatorSetUpdateMessage.fromBinding binding).abiEncode = some binding.abiEncode := by
  have packed : operatorsWords (OperatorSetUpdateMessage.fromBinding binding).operators =
      some (binding.operators.flatMap Operator.abiWords) := operatorsWords_fromBinding onField
  refine (abiEncode_of_words packed).trans ?_
  rw [OperatorSetUpdateMessage.fromBinding, List.length_map]
  rfl

/-! ## Two messages with one digest -/

def weighted (weight : Int) : OperatorSetUpdateMessage := ⟨1, 2, [⟨some ⟨1, 2⟩, some weight⟩]⟩

theorem weighted_digest (keccak256 : Bytes → Bytes32) (weight : Int) :
    ∃ digest, (Message.operatorSetUpdate (weighted weight)).digest keccak256 = some digest :=
  @digest_of_isValid keccak256 Unit ⟨weighted weight, some ()⟩ rfl

theorem digest_identifies_weighted :
    ∃ digest digest', (Message.operatorSetUpdate (weighted 1)).digest foldedBytes = some digest ∧
      (Message.operatorSetUpdate (weighted 2)).digest foldedBytes = some digest' ∧ digest ≠ digest' := by
  have secure : ∀ input ∈ (Message.operatorSetUpdate (weighted 1)).hashedInputs foldedBytes ++
        (Message.operatorSetUpdate (weighted 2)).hashedInputs foldedBytes,
      ∀ other ∈ (Message.operatorSetUpdate (weighted 1)).hashedInputs foldedBytes ++
        (Message.operatorSetUpdate (weighted 2)).hashedInputs foldedBytes,
      foldedBytes input = foldedBytes other → input = other := by
    decide +kernel
  obtain ⟨digest, computed⟩ := weighted_digest foldedBytes 1
  obtain ⟨digest', computed'⟩ := weighted_digest foldedBytes 2
  have identifies := digest_identifies (fun input member other member' => secure input member other member') computed
    computed'
  refine ⟨digest, digest', computed, computed', ?_⟩
  exact fun same => absurd (identifies.1.mp same) (by decide)

/-- A weight and the same weight with 2²⁵⁶ added are both valid and have one digest. -/
theorem wide_weight_same_digest :
    SignedOperatorSetUpdateMessage.isValid (some ⟨weighted 1, some ()⟩) = .ok () ∧
    SignedOperatorSetUpdateMessage.isValid (some ⟨weighted (1 + 2 ^ 256), some ()⟩) = .ok () ∧
    weighted 1 ≠ weighted (1 + 2 ^ 256) ∧
    ∀ keccak256, ∃ digest, (Message.operatorSetUpdate (weighted 1)).digest keccak256 = some digest ∧
      (Message.operatorSetUpdate (weighted (1 + 2 ^ 256))).digest keccak256 = some digest := by
  refine ⟨rfl, rfl, by decide, ?_⟩
  intro keccak256
  obtain ⟨digest, computed⟩ := weighted_digest keccak256 1
  obtain ⟨digest', computed'⟩ := weighted_digest keccak256 (1 + 2 ^ 256)
  have residues : (Message.operatorSetUpdate (weighted 1)).reduced =
      (Message.operatorSetUpdate (weighted (1 + 2 ^ 256))).reduced := by
    decide
  exact ⟨digest, computed, digest_eq_of_reduced residues computed computed' ▸ computed'⟩

end Sffl.Core
