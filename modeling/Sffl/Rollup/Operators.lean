import Sffl.Evm.Bn254

/-! The operator set copy of a rollup, as `RollupOperators` keeps it.

`update` writes the weight map entry by entry and the total weight and the
aggregate key only after its loop; the loop state is a `Tally` that holds the
map and the two locals. `verifyCalldata` subtracts the listed non-signers from
the total and from the aggregate key before it asks the pairing precompile.
-/

set_option autoImplicit false

namespace Sffl.Rollup

open Sffl.Evm

def THRESHOLD_DENOMINATOR : Nat := 100

structure Operator where
  pubkey : G1Point
  weight : Uint 128
  deriving DecidableEq, Repr

/-- The part of an operator set that depends on its operators. -/
structure Tally where
  pubkeyHashToWeight : Bytes32 → Uint 128
  apk : G1Point
  totalWeight : Uint 128

structure OperatorSet extends Tally where
  quorumThreshold : Uint 128

structure SignatureInfo where
  nonSignerPubkeys : List G1Point
  apkG2 : G2Point
  sigma : G1Point
  deriving DecidableEq, Repr

def OperatorSet.empty : OperatorSet where
  pubkeyHashToWeight := fun _ => 0
  apk := ⟨0, 0⟩
  totalWeight := 0
  quorumThreshold := 0

def setQuorumThreshold (self : OperatorSet) (quorumThreshold : Uint 128) : Call OperatorSet := do
  require (quorumThreshold.toNat ≤ THRESHOLD_DENOMINATOR) "Quorum threshold greater than denominator"
  return { self with quorumThreshold }

variable {G : Type} [AddCommGroup G] (evm : Precompiles G)

/-- How an entry moves the aggregate key: a new operator is added, one that
drops to zero is taken out, and a change between non-zero weights keeps it. -/
def updateApk (apk pubkey : G1Point) (currentWeight weight : Uint 128) : Call G1Point :=
  if currentWeight = 0 then evm.plus apk pubkey
  else if weight = 0 then evm.plus apk (evm.negate pubkey)
  else .ok apk

def updateOperator (tally : Tally) (operator : Operator) : Call Tally := do
  let pubkeyHash := evm.hashG1Point operator.pubkey
  let currentWeight := tally.pubkeyHashToWeight pubkeyHash
  require (operator.weight ≠ currentWeight) "Operator is up to date"
  let reduced ← checkedSub tally.totalWeight currentWeight
  let newTotalWeight ← checkedAdd reduced operator.weight
  let newApk ← updateApk evm tally.apk operator.pubkey currentWeight operator.weight
  return {
    pubkeyHashToWeight := Function.update tally.pubkeyHashToWeight pubkeyHash operator.weight
    apk := newApk
    totalWeight := newTotalWeight }

def update (self : OperatorSet) (operators : List Operator) : Call OperatorSet := do
  let tally ← operators.foldlM (updateOperator evm) self.toTally
  return { self with toTally := tally }

/-- The loop state of `verifyCalldata`: the key and weight locals and the hash
of the previous non-signer. -/
structure NonSigners where
  apk : G1Point
  weight : Uint 256
  previous : Option Bytes32

def subtractNonSigner (self : OperatorSet) (loop : NonSigners) (pubkey : G1Point) : Call NonSigners := do
  let pubkeyHash := evm.hashG1Point pubkey
  require (loop.previous.all fun previous => previous.toNat < pubkeyHash.toNat) "Pubkeys not sorted"
  let operatorWeight := word (self.pubkeyHashToWeight pubkeyHash)
  require (operatorWeight ≠ 0) "Operator has zero weight"
  let apk ← evm.plus loop.apk pubkey
  let weight ← checkedSub loop.weight operatorWeight
  return ⟨apk, weight, some pubkeyHash⟩

/-- The loop of `verifyCalldata` and the key it leaves for the pairing, together
with the weight behind that key. -/
def signersOf (self : OperatorSet) (nonSignerPubkeys : List G1Point) : Call (G1Point × Uint 256) := do
  let loop ← nonSignerPubkeys.foldlM (subtractNonSigner evm self) ⟨⟨0, 0⟩, word self.totalWeight, none⟩
  let apk ← evm.plus self.apk (evm.negate loop.apk)
  return (apk, loop.weight)

def trySignatureAndApkVerification (msgHash : Bytes32) (apk : G1Point) (apkG2 : G2Point)
    (sigma : G1Point) : Call (Bool × Bool) := do
  let packed := wordsBytes [msgHash, apk.X, apk.Y, apkG2.X.1, apkG2.X.2, apkG2.Y.1, apkG2.Y.2,
    sigma.X, sigma.Y]
  let gamma := (evm.keccak256 packed).toNat % FR_MODULUS
  let left ← evm.plus sigma (← evm.scalar_mul apk gamma)
  let right ← evm.plus (evm.hashToG1 msgHash) (← evm.scalar_mul evm.generatorG1 gamma)
  return evm.safePairing left evm.negGeneratorG2 right apkG2

def meetsQuorum (weight : Uint 256) (totalWeight quorumThreshold : Uint 128) : Call Bool := do
  -- the product is taken in 128 bits
  let product ← checkedMul totalWeight quorumThreshold
  return decide (product.toNat / THRESHOLD_DENOMINATOR ≤ weight.toNat)

def verifyCalldata (self : OperatorSet) (msgHash : Bytes32) (signatureInfo : SignatureInfo) : Call Bool := do
  require (word self.totalWeight ≠ 0) "Operator set was not initialized"
  let (apk, weight) ← signersOf evm self signatureInfo.nonSignerPubkeys
  let (pairingSuccessful, signatureIsValid) ←
    trySignatureAndApkVerification evm msgHash apk signatureInfo.apkG2 signatureInfo.sigma
  require (pairingSuccessful = true) "Pairing precompile call failed"
  require (signatureIsValid = true) "Signature is invalid"
  meetsQuorum weight self.totalWeight self.quorumThreshold

end Sffl.Rollup
