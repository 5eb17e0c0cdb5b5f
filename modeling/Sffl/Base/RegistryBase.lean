import Sffl.Golang.Bits
import Sffl.Rollup.Messages

/-! What the contracts that keep state roots have in common.

`SFFLRegistryBase` stores one root for every block of a rollup and reads storage
values out of the state under a stored root. How a root gets there is left to the
contract: `_updateStateRoot` is one of its parameters. The trie and RLP libraries
are parameters as well.
-/

set_option autoImplicit false

namespace Sffl.Base

open Sffl.Evm Sffl.Golang Sffl.Rollup

structure ProofParams where
  target : Address
  storageKey : Bytes32
  stateTrieWitness : Bytes
  storageTrieWitness : Bytes
  deriving DecidableEq, Repr

/-- `Lib_SecureMerkleTrie.get`, `Lib_OVMCodec.decodeEVMAccount` as far as its storage root goes, and
`Lib_RLPReader.readBytes`. -/
structure StorageLibraries where
  trieGet : (key witness : Bytes) → (root : Bytes32) → Call (Option Bytes)
  storageRoot : Bytes → Call Bytes32
  readBytes : Bytes → Call Bytes

/-- A `bytes calldata`: the call data and where in it the agreement lies. -/
structure Agreement where
  callData : Bytes
  offset : Nat
  length : Nat
  deriving DecidableEq, Repr

structure RootContract (S : Type) where
  stateRootBuffers : S → Uint 32 → Uint 64 → Bytes32
  updateStateRoot : S → StateRootUpdate → (agreement : Agreement) → Call S

def addressBytes (address : Address) : Bytes := bigEndian 20 address.toNat

/-- `mload`, from where the given bytes begin. Memory is zero where nothing was written. -/
def mload (memory : Bytes) : Bytes32 := BitVec.ofNat 256 (setBytes ((memory ++ List.replicate 32 0).take 32))

/-- `_toBytes32PadLeft`. The word that is loaded goes on into the memory behind the bytes. -/
def toBytes32PadLeft (bytes behind : Bytes) : Bytes32 :=
  let len := if bytes.length ≤ 32 then bytes.length else 32
  mload (bytes ++ behind) >>> ((32 - len) * 8)

section Storage
variable (libraries : StorageLibraries) (behind : Bytes)

def storageValue (target : Address) (slot stateRoot : Bytes32) (stateTrieWitness storageTrieWitness : Bytes) :
    Call Bytes32 := do
  let encodedResolverAccount ← libraries.trieGet (addressBytes target) stateTrieWitness stateRoot
  match encodedResolverAccount with
  | none => .error (.reason "Account does not exist")
  | some encodedResolverAccount =>
    let storageRoot ← libraries.storageRoot encodedResolverAccount
    let retrievedValue ← libraries.trieGet (wordBytes slot) storageTrieWitness storageRoot
    match retrievedValue with
    | none => .error (.reason "Storage value does not exist")
    | some retrievedValue =>
      let bytes ← libraries.readBytes retrievedValue
      return toBytes32PadLeft bytes behind

variable {S : Type} (contract : RootContract S)

def getStorageValue (state : S) (message : StateRootUpdate) (proofParams : ProofParams) : Call Bytes32 := do
  let stateRoot := contract.stateRootBuffers state message.rollupId message.blockHeight
  require (stateRoot = message.stateRoot) "Mismatching state roots"
  storageValue libraries behind proofParams.target proofParams.storageKey stateRoot proofParams.stateTrieWitness
    proofParams.storageTrieWitness

def updateIfEmpty (state : S) (message : StateRootUpdate) (agreement : Agreement) : Call S :=
  if contract.stateRootBuffers state message.rollupId message.blockHeight = 0 then do
    require (agreement.length ≠ 0) "Empty agreement"
    contract.updateStateRoot state message agreement
  else .ok state

def updateAndGetStorageValue (state : S) (message : StateRootUpdate) (proofParams : ProofParams) (agreement : Agreement) :
    Call (S × Bytes32) := do
  require (message.nearDaTransactionId ≠ 0 ∧ message.nearDaCommitment ≠ 0) "Empty NEAR DA commitment"
  let after ← updateIfEmpty contract state message agreement
  let value ← getStorageValue libraries behind contract after message proofParams
  return (after, value)

end Storage

/-! ## Padding -/

theorem toBytes32PadLeft_eq (bytes behind : Bytes) :
    toBytes32PadLeft bytes behind = BitVec.ofNat 256 (setBytes (bytes.take 32)) := by
  -- the memory behind the bytes is shifted out
  have length : (bytes.take 32).length = if bytes.length ≤ 32 then bytes.length else 32 := by
    rw [List.length_take]
    split <;> omega
  let rest := (behind ++ List.replicate 32 0).take (32 - bytes.length)
  have loaded : (bytes ++ behind ++ List.replicate 32 0).take 32 = bytes.take 32 ++ rest := by
    rw [List.append_assoc, List.take_append]
  have restLength : rest.length = 32 - (bytes.take 32).length := by
    simp only [rest, List.length_take, List.length_append, List.length_replicate]
    omega
  have whole : (bytes.take 32 ++ rest).length = 32 := by
    rw [List.length_append, restLength, List.length_take]
    omega
  have fits := setBytes_lt (bytes.take 32 ++ rest)
  have fits' := setBytes_lt (bytes.take 32)
  have small := setBytes_lt rest
  have base : 256 ^ (32 - (bytes.take 32).length) = 2 ^ ((32 - (bytes.take 32).length) * 8) := by
    rw [Nat.mul_comm, Nat.pow_mul]
  rw [whole] at fits
  rw [restLength, Nat.mul_comm] at small
  have word : 2 ^ (8 * (bytes.take 32).length) ≤ 2 ^ 256 := Nat.pow_le_pow_right Nat.two_pos (by rw [List.length_take]; omega)
  apply BitVec.eq_of_toNat_eq
  simp only [toBytes32PadLeft, mload, ← length, BitVec.toNat_ushiftRight, BitVec.toNat_ofNat]
  rw [loaded, Nat.mod_eq_of_lt fits, Nat.mod_eq_of_lt (Nat.lt_of_lt_of_le fits' word), setBytes_append, restLength,
    Nat.shiftRight_eq_div_pow, base, Nat.add_comm, Nat.add_mul_div_right _ _ (Nat.two_pow_pos _),
    Nat.div_eq_of_lt small, Nat.zero_add]

def InSlot (libraries : StorageLibraries) (proofParams : ProofParams) (stateRoot value : Bytes32) : Prop :=
  ∃ account storageRoot item bytes,
    libraries.trieGet (addressBytes proofParams.target) proofParams.stateTrieWitness stateRoot = .ok (some account) ∧
    libraries.storageRoot account = .ok storageRoot ∧
    libraries.trieGet (wordBytes proofParams.storageKey) proofParams.storageTrieWitness storageRoot = .ok (some item) ∧
    libraries.readBytes item = .ok bytes ∧ value = BitVec.ofNat 256 (setBytes (bytes.take 32))

section Values
variable {libraries : StorageLibraries} {behind : Bytes} {S : Type} {contract : RootContract S} {state after : S}
  {message : StateRootUpdate} {proofParams : ProofParams} {agreement : Agreement} {value : Bytes32}

theorem storageValue_ok {stateRoot : Bytes32}
    (success : storageValue libraries behind proofParams.target proofParams.storageKey stateRoot
      proofParams.stateTrieWitness proofParams.storageTrieWitness = .ok value) :
    InSlot libraries proofParams stateRoot value := by
  obtain ⟨found, account, success⟩ := bind_eq_ok.mp success
  cases found with
  | none => cases success
  | some encoded =>
    obtain ⟨storageRoot, decoded, success⟩ := bind_eq_ok.mp success
    obtain ⟨found, stored, success⟩ := bind_eq_ok.mp success
    cases found with
    | none => cases success
    | some item =>
      obtain ⟨bytes, read, success⟩ := bind_eq_ok.mp success
      cases success
      exact ⟨encoded, storageRoot, item, bytes, account, decoded, stored, read, toBytes32PadLeft_eq bytes behind⟩

/-- A value is read under the message's root, which is stored afterwards; a root that was stored before stays, and the
agreement is not looked at. -/
theorem updateAndGetStorageValue_ok
    (success : updateAndGetStorageValue libraries behind contract state message proofParams agreement = .ok (after, value)) :
    (contract.stateRootBuffers state message.rollupId message.blockHeight = 0 ∧
        contract.updateStateRoot state message agreement = .ok after ∨
      contract.stateRootBuffers state message.rollupId message.blockHeight ≠ 0 ∧ after = state) ∧
    contract.stateRootBuffers after message.rollupId message.blockHeight = message.stateRoot ∧
    InSlot libraries proofParams message.stateRoot value := by
  simp only [updateAndGetStorageValue, getStorageValue, bind_eq_ok, require_eq_ok] at success
  obtain ⟨_, _, middle, updated, read, ⟨_, stored, found⟩, result⟩ := success
  cases result
  rw [stored] at found
  refine ⟨?_, stored, storageValue_ok found⟩
  unfold updateIfEmpty at updated
  split at updated
  next empty =>
    obtain ⟨_, _, updated⟩ := bind_eq_ok.mp updated
    exact .inl ⟨empty, updated⟩
  next full =>
    cases updated
    exact .inr ⟨full, rfl⟩

theorem updateAndGetStorageValue_eq (available : message.nearDaTransactionId ≠ 0 ∧ message.nearDaCommitment ≠ 0)
    (given : agreement.length ≠ 0) (empty : contract.stateRootBuffers state message.rollupId message.blockHeight = 0)
    (updated : contract.updateStateRoot state message agreement = .ok after)
    (stored : contract.stateRootBuffers after message.rollupId message.blockHeight = message.stateRoot)
    (read : storageValue libraries behind proofParams.target proofParams.storageKey message.stateRoot
      proofParams.stateTrieWitness proofParams.storageTrieWitness = .ok value) :
    updateAndGetStorageValue libraries behind contract state message proofParams agreement = .ok (after, value) := by
  simp only [updateAndGetStorageValue, updateIfEmpty, getStorageValue, require, if_pos available, if_pos given,
    if_pos empty, updated, stored, if_true, read, ok_bind]
  rfl

end Values

end Sffl.Base
