import Mathlib.Data.ZMod.Basic
import Sffl.Evm.Bn254

/-! A concrete instance of the precompiles.

The first three multiples of the BN254 generator, their negatives and the point
at infinity have their real coordinates and their real hashes here, and sums
that stay among them are the curve's sums. Every other word pair is rejected.
-/

set_option autoImplicit false

namespace Sffl.Evm

/-- The multiples of the generator, with 4, 5 and 6 for -3, -2 and -1. -/
def generatorMultiple (scalar : ZMod 7) : G1Point :=
  match scalar.val with
  | 0 => ⟨0, 0⟩
  | 1 => ⟨1, 2⟩
  | 2 => ⟨1368015179489954701390400359078579693043519447331113978918064868415326638035,
      9918110051302171585080402603319702774565515993150576347155970296011118125764⟩
  | 3 => ⟨3353031288059533942658390886683067124040920775575537747144343083137631628272,
      19321533766552368860946552437480515441416830039777911637913418824951667761761⟩
  | 4 => ⟨3353031288059533942658390886683067124040920775575537747144343083137631628272,
      2566709105286906361299853307776759647279481117519912024775619069693558446822⟩
  | 5 => ⟨1368015179489954701390400359078579693043519447331113978918064868415326638035,
      11970132820537103637166003141937572314130795164147247315533067598634108082819⟩
  | _ => ⟨1, 21888242871839275222246405745257275088696311157297823662689037894645226208581⟩

def multipleHash (scalar : ZMod 7) : Bytes32 :=
  match scalar.val with
  | 0 => 0xad3228b676f7d3cd4284a5443f17f1962b36e491b30a40b2405849e597ba5fb5
  | 1 => 0xe90b7bceb6e7df5418fb78d8ee546e97c83a08bbccc01a0644d599ccd2a7c2e0
  | 2 => 0x8a5045bc7a493061be89fdbc32ea8ae69e8d8b55ebe445fa41fa534b1543ab50
  | 3 => 0xcf55935de5ac139f4da3255d53cacb29f8411db302992b234053bb7a7deceda4
  | 4 => 0x9e35af9e4a9ff6428ee7bf8fc02a8c88b57f3badfbbd375521e2de8979cd9f6a
  | 5 => 0x986aac9fb6d60a858ff143372fa7eccfe8d9426b47b7b2c1a68acc56aae07e5c
  | _ => 0xac1de87792e425a22b81bdf624dc1b24fee26f16e9a879172aebc261cc51a2fe

def scalars : List (ZMod 7) := [0, 1, 2, 3, 4, 5, 6]

def smallDecode (point : G1Point) : Option (ZMod 7) :=
  scalars.find? fun scalar => generatorMultiple scalar = point

def smallKeccak (bytes : Bytes) : Bytes32 :=
  match scalars.find? fun scalar => pointBytes (generatorMultiple scalar) = bytes with
  | some scalar => multipleHash scalar
  | none => 0

def smallNegate (point : G1Point) : G1Point :=
  if point.X = 0 ∧ point.Y = 0 then ⟨0, 0⟩
  else ⟨point.X, BitVec.ofNat 256 (FP_MODULUS - point.Y.toNat % FP_MODULUS)⟩

theorem smallDecode_multiple (scalar : ZMod 7) : smallDecode (generatorMultiple scalar) = some scalar := by
  revert scalar
  decide

theorem multiple_of_smallDecode {point : G1Point} {scalar : ZMod 7} (found : smallDecode point = some scalar) :
    generatorMultiple scalar = point := by
  simpa using List.find?_some found

theorem smallKeccak_multiple (scalar : ZMod 7) :
    smallKeccak (pointBytes (generatorMultiple scalar)) = multipleHash scalar := by
  have only : (fun other => decide (pointBytes (generatorMultiple other) = pointBytes (generatorMultiple scalar))) =
      fun other => decide (generatorMultiple other = generatorMultiple scalar) := by
    funext other
    simp only [pointBytes_injective.eq_iff]
  have found := smallDecode_multiple scalar
  rw [smallDecode] at found
  rw [smallKeccak, only, found]

/-- The group structure is that of the integers modulo seven. -/
def smallCurve : Precompiles (ZMod 7) where
  keccak256 := smallKeccak
  decode := smallDecode
  encode := generatorMultiple
  encode_zero := rfl
  decode_encode := smallDecode_multiple
  encode_of_decode := multiple_of_smallDecode
  negate := smallNegate
  decode_negate := by
    intro point scalar found
    obtain rfl := multiple_of_smallDecode found
    clear found
    revert scalar
    decide
  hash_injective := by
    intro point scalar other found same
    obtain rfl := multiple_of_smallDecode found
    rw [smallKeccak_multiple] at same
    unfold smallKeccak at same
    split at same
    next known place =>
      have different : ∀ first second : ZMod 7, multipleHash first = multipleHash second → first = second := by
        decide
      have bytes : pointBytes (generatorMultiple known) = pointBytes other := by
        simpa using List.find?_some place
      rw [← different known scalar same]
      exact (pointBytes_injective bytes).symm
    next =>
      have nonzero : ∀ scalar : ZMod 7, multipleHash scalar ≠ 0 := by decide
      exact absurd same.symm (nonzero scalar)
  hashToG1 := fun _ => ⟨1, 2⟩
  generatorG1 := ⟨1, 2⟩
  negGeneratorG2 :=
    ⟨(11559732032986387107991004021392285783925812861821192530917403151452391805634,
      10857046999023057135944570762232829481370756359578518086990519993285655852781),
      (17805874995975841540914202342111839520379459829704422454583296818431106115052,
      13392588948715843804641432497768002650278120570034223513918757245338268106653)⟩
  -- A pairing with the point at infinity on one side is one.
  safePairing := fun first _ _ second => (true, decide (first = ⟨0, 0⟩ ∧ second = ⟨(0, 0), (0, 0)⟩))

theorem smallCurve_hash (scalar : ZMod 7) : smallCurve.hashG1Point (generatorMultiple scalar) = multipleHash scalar := by
  have keccak : smallCurve.keccak256 = smallKeccak := rfl
  rw [Precompiles.hashG1Point, keccak, smallKeccak_multiple]

theorem smallCurve_decode (scalar : ZMod 7) : smallCurve.decode (generatorMultiple scalar) = some scalar :=
  smallDecode_multiple scalar

end Sffl.Evm
