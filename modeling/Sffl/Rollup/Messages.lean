import Sffl.Rollup.Operators

/-! The messages that operators sign, with the hash and the index of each.

`abi.encode` lays a static tuple out word by word. A message with a list is a
dynamic tuple: its own offset comes first, and the offset of the list stands in
the list's place, before the length and the elements.
-/

set_option autoImplicit false

namespace Sffl.Rollup

open Sffl.Evm

structure StateRootUpdate where
  rollupId : Uint 32
  blockHeight : Uint 64
  timestamp : Uint 64
  nearDaTransactionId : Bytes32
  nearDaCommitment : Bytes32
  stateRoot : Bytes32
  deriving DecidableEq, Repr

structure OperatorSetUpdate where
  id : Uint 64
  timestamp : Uint 64
  operators : List Operator
  deriving DecidableEq, Repr

/-- The hash of a message whose encoding is given, under the hash of its type's prefix. -/
def hashWithPrefix (keccak256 : Bytes → Bytes32) (messagePrefix : String) (encoded : Bytes) : Bytes32 :=
  keccak256 (wordsBytes [keccak256 (utf8 messagePrefix), keccak256 encoded])

def StateRootUpdate.abiEncode (message : StateRootUpdate) : Bytes :=
  wordsBytes [word message.rollupId, word message.blockHeight, word message.timestamp,
    message.nearDaTransactionId, message.nearDaCommitment, message.stateRoot]

def StateRootUpdate.hash (keccak256 : Bytes → Bytes32) (message : StateRootUpdate) : Bytes32 :=
  hashWithPrefix keccak256 "SFFL::StateRootUpdateMessage" message.abiEncode

def StateRootUpdate.index (message : StateRootUpdate) : Bytes32 :=
  word message.blockHeight ||| (word message.rollupId <<< 64)

def Operator.abiWords (operator : Operator) : List Bytes32 :=
  [operator.pubkey.X, operator.pubkey.Y, word operator.weight]

def OperatorSetUpdate.abiEncode (message : OperatorSetUpdate) : Bytes :=
  wordsBytes ([0x20, word message.id, word message.timestamp, 0x60,
    BitVec.ofNat 256 message.operators.length] ++ message.operators.flatMap Operator.abiWords)

def OperatorSetUpdate.hash (keccak256 : Bytes → Bytes32) (message : OperatorSetUpdate) : Bytes32 :=
  hashWithPrefix keccak256 "SFFL::OperatorSetUpdateMessage" message.abiEncode

def OperatorSetUpdate.index (message : OperatorSetUpdate) : Bytes32 := word message.id

end Sffl.Rollup
