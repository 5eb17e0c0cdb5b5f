import Mathlib.Algebra.Group.Basic
import Mathlib.Data.Finite.Prod
import Sffl.Evm.Bytes

/-! The BN254 library and the precompiles that contracts take from the machine.

Raw points are pairs of words. The curve precompiles accept some of them, and
the accepted ones are the encodings of a commutative group. The hash of an
accepted point is not the hash of any other point.
-/

set_option autoImplicit false

namespace Sffl.Evm

structure G1Point where
  X : Uint 256
  Y : Uint 256
  deriving DecidableEq, Repr

structure G2Point where
  X : Uint 256 × Uint 256
  Y : Uint 256 × Uint 256
  deriving DecidableEq, Repr

instance : Finite G1Point :=
  Finite.of_injective (fun point => (point.X, point.Y)) (by rintro ⟨X, Y⟩ ⟨X', Y'⟩ same; simpa using same)

noncomputable instance : Fintype G1Point := Fintype.ofFinite _

def pointBytes (point : G1Point) : Bytes := wordBytes point.X ++ wordBytes point.Y

theorem pointBytes_injective : Function.Injective pointBytes := by
  rintro ⟨X, Y⟩ ⟨X', Y'⟩ same
  obtain ⟨rfl, rest⟩ := wordBytes_append_inj.mp same
  obtain rfl := wordBytes_injective rest
  rfl

def FP_MODULUS : Nat :=
  21888242871839275222246405745257275088696311157297823662689037894645226208583

def FR_MODULUS : Nat :=
  21888242871839275222246405745257275088548364400416034343698204186575808495617

structure Precompiles (G : Type) [AddCommGroup G] where
  keccak256 : Bytes → Bytes32
  /-- The group element of a point that the curve precompiles accept. -/
  decode : G1Point → Option G
  encode : G → G1Point
  encode_zero : encode 0 = ⟨0, 0⟩
  decode_encode : ∀ element, decode (encode element) = some element
  encode_of_decode : ∀ {point element}, decode point = some element → encode element = point
  negate : G1Point → G1Point
  decode_negate : ∀ {point element}, decode point = some element →
    decode (negate point) = some (-element)
  hash_injective : ∀ {point element other}, decode point = some element →
    keccak256 (pointBytes other) = keccak256 (pointBytes point) → other = point
  hashToG1 : Bytes32 → G1Point
  generatorG1 : G1Point
  negGeneratorG2 : G2Point
  /-- Whether the pairing call succeeded, and whether the product was one. -/
  safePairing : G1Point → G2Point → G1Point → G2Point → Bool × Bool

namespace Precompiles
variable {G : Type} [AddCommGroup G] (evm : Precompiles G)

def hashG1Point (point : G1Point) : Bytes32 := evm.keccak256 (pointBytes point)

def plus (first second : G1Point) : Call G1Point :=
  match evm.decode first, evm.decode second with
  | some a, some b => .ok (evm.encode (a + b))
  | _, _ => .error (.reason "ec-add-failed")

def scalar_mul (point : G1Point) (scalar : Nat) : Call G1Point :=
  match evm.decode point with
  | some element => .ok (evm.encode (scalar • element))
  | none => .error (.reason "ec-mul-failed")

/-- The group element of a point, and zero for a point outside the curve. -/
def value (point : G1Point) : G := (evm.decode point).getD 0

theorem decode_value {point : G1Point} (valid : (evm.decode point).isSome) :
    evm.decode point = some (evm.value point) := by
  obtain ⟨element, found⟩ := Option.isSome_iff_exists.mp valid
  simp [value, found]

@[simp] theorem value_encode (element : G) : evm.value (evm.encode element) = element := by
  simp [value, evm.decode_encode]

theorem encode_injective : Function.Injective evm.encode := by
  intro first second same
  rw [← evm.value_encode first, same, evm.value_encode]

theorem plus_encode (element : G) {point : G1Point} (valid : (evm.decode point).isSome) :
    evm.plus (evm.encode element) point = .ok (evm.encode (element + evm.value point)) := by
  simp [plus, evm.decode_encode, evm.decode_value valid]

theorem negate_valid {point : G1Point} (valid : (evm.decode point).isSome) :
    (evm.decode (evm.negate point)).isSome ∧ evm.value (evm.negate point) = -evm.value point := by
  have negated := evm.decode_negate (evm.decode_value valid)
  exact ⟨by simp [negated], by simp [value, negated]⟩

theorem plus_eq_ok {first second result : G1Point} (success : evm.plus first second = .ok result) :
    (evm.decode first).isSome ∧ (evm.decode second).isSome := by
  unfold plus at success
  split at success
  next found found' => exact ⟨by simp [found], by simp [found']⟩
  next => cases success

theorem hashG1Point_inj {point other : G1Point} (valid : (evm.decode point).isSome)
    (same : evm.hashG1Point other = evm.hashG1Point point) : other = point :=
  evm.hash_injective (evm.decode_value valid) same

end Precompiles

end Sffl.Evm
