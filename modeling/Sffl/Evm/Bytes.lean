import Sffl.Evm.Call

/-! Byte strings and the big-endian encoding of words. -/

set_option autoImplicit false

namespace Sffl.Evm

abbrev Bytes := List UInt8

/-- The lowest `length` bytes of a number, most significant first. -/
def bigEndian : (length : Nat) → Nat → Bytes
  | 0, _ => []
  | length + 1, value => bigEndian length (value / 256) ++ [UInt8.ofNat value]

@[simp] theorem bigEndian_length (length value : Nat) : (bigEndian length value).length = length := by
  induction length generalizing value with
  | zero => rfl
  | succ length ih => simp [bigEndian, ih]

theorem bigEndian_injective (length : Nat) {first second : Nat} (small : first < 256 ^ length)
    (small' : second < 256 ^ length) (same : bigEndian length first = bigEndian length second) :
    first = second := by
  induction length generalizing first second with
  | zero => simp at small small'; omega
  | succ length ih =>
    obtain ⟨heads, lasts⟩ := List.append_inj' same rfl
    have low : first % 256 = second % 256 := by
      simpa using congrArg UInt8.toNat (List.singleton_injective lasts)
    have high : first / 256 = second / 256 := by
      apply ih _ _ heads
      all_goals
        apply (Nat.div_lt_iff_lt_mul (by decide)).mpr
        simpa [Nat.pow_succ] using by assumption
    omega

/-- The 32 bytes of a word, as `abi.encode` and memory stores lay it out. -/
def wordBytes (word : Bytes32) : Bytes := bigEndian 32 word.toNat

@[simp] theorem wordBytes_length (word : Bytes32) : (wordBytes word).length = 32 :=
  bigEndian_length 32 word.toNat

theorem wordBytes_injective : Function.Injective wordBytes := by
  intro first second same
  have bound : ∀ word : Bytes32, word.toNat < 256 ^ 32 := fun word => Nat.lt_of_lt_of_le word.isLt (by decide)
  exact BitVec.eq_of_toNat_eq (bigEndian_injective 32 (bound first) (bound second) same)

@[simp] theorem wordBytes_inj {first second : Bytes32} : wordBytes first = wordBytes second ↔ first = second :=
  wordBytes_injective.eq_iff

theorem wordBytes_append_inj {first second : Bytes32} {rest rest' : Bytes} :
    wordBytes first ++ rest = wordBytes second ++ rest' ↔ first = second ∧ rest = rest' := by
  constructor
  · intro same
    obtain ⟨words, rests⟩ := List.append_inj same (by simp)
    exact ⟨wordBytes_injective words, rests⟩
  · rintro ⟨rfl, rfl⟩
    rfl

def utf8 (text : String) : Bytes := text.toUTF8.toList

def wordsBytes (words : List Bytes32) : Bytes := words.flatMap wordBytes

def word {width : Nat} (value : Uint width) : Bytes32 := value.setWidth 256

theorem word_toNat {width : Nat} (value : Uint width) (fits : width ≤ 256) :
    (word value).toNat = value.toNat :=
  BitVec.toNat_setWidth_of_le fits

/-- A stand-in for the hash function, with values that can be computed. -/
def foldedBytes (bytes : Bytes) : Bytes32 :=
  BitVec.ofNat 256 (bytes.foldl (fun sum byte => 31 * sum + byte.toNat) 0)

end Sffl.Evm
