import Mathlib.Data.List.Induction
import Mathlib.Data.Nat.Bitwise
import Mathlib.Tactic.Ring
import Sffl.Evm.Bytes

/-! Bytes and their bits.

Go's `big.Int` reads bytes with the most significant one first. A byte string may
also be used as a list of bits, of which the first is the most significant one of
the first byte.
-/

set_option autoImplicit false

namespace Sffl.Golang

open Sffl.Evm

/-- `new(big.Int).SetBytes` -/
def setBytes (bytes : List UInt8) : Nat := bytes.foldl (fun value byte => value * 256 + byte.toNat) 0

/-- `bits.Reverse8` -/
def reverse8 (byte : UInt8) : UInt8 := .ofBitVec byte.toBitVec.reverse

def bitAt (bytes : List UInt8) (i : Nat) : Bool := bytes[i / 8]?.any fun byte => byte.toBitVec.getMsbD (i % 8)

@[simp] theorem setBytes_nil : setBytes [] = 0 := rfl

theorem setBytes_concat (bytes : List UInt8) (byte : UInt8) :
    setBytes (bytes ++ [byte]) = 2 ^ 8 * setBytes bytes + byte.toNat := by
  rw [setBytes, List.foldl_append, List.foldl_cons, List.foldl_nil, Nat.mul_comm]
  rfl

theorem setBytes_append (bytes rest : List UInt8) :
    setBytes (bytes ++ rest) = setBytes bytes * 256 ^ rest.length + setBytes rest := by
  induction rest using List.reverseRecOn with
  | nil => simp
  | append_singleton rest byte ih =>
    rw [← List.append_assoc, setBytes_concat, ih, setBytes_concat, List.length_append, List.length_singleton]
    ring

theorem setBytes_bigEndian (length value : Nat) : setBytes (bigEndian length value) = value % 256 ^ length := by
  induction length generalizing value with
  | zero => simp [bigEndian, Nat.mod_one]
  | succ length ih =>
    have low : (UInt8.ofNat value).toNat = value % 256 := UInt8.toNat_ofNat ..
    have split : value % 256 ^ (length + 1) = value % 256 + 256 * (value / 256 % 256 ^ length) := by
      rw [Nat.pow_succ', Nat.mod_mul]
    rw [bigEndian, setBytes_concat, ih, low, split]
    omega

theorem setBytes_bigEndian_toNat {width : Nat} (length : Nat) (value : Uint width) (fits : width = 8 * length) :
    setBytes (bigEndian length value.toNat) = value.toNat := by
  subst fits
  rw [setBytes_bigEndian, Nat.mod_eq_of_lt]
  have bound := value.isLt
  rwa [Nat.pow_mul] at bound

theorem testBit_setBytes_concat (bytes : List UInt8) (byte : UInt8) (i : Nat) :
    (setBytes (bytes ++ [byte])).testBit i =
      if i < 8 then byte.toBitVec.getLsbD i else (setBytes bytes).testBit (i - 8) := by
  rw [setBytes_concat, Nat.testBit_two_pow_mul_add _ byte.toNat_lt]
  rfl

theorem setBytes_lt (bytes : List UInt8) : setBytes bytes < 2 ^ (8 * bytes.length) := by
  induction bytes using List.reverseRecOn with
  | nil => decide
  | append_singleton bytes byte ih =>
    have last := byte.toNat_lt
    rw [setBytes_concat, List.length_append, List.length_singleton, Nat.mul_add, Nat.pow_add]
    omega

theorem bitAt_cons (byte : UInt8) (bytes : List UInt8) (i : Nat) :
    bitAt (byte :: bytes) i = if i < 8 then byte.toBitVec.getMsbD i else bitAt bytes (i - 8) := by
  unfold bitAt
  split
  next first => simp [Nat.div_eq_of_lt first, Nat.mod_eq_of_lt first]
  next later =>
    have place : i / 8 = (i - 8) / 8 + 1 := by omega
    have bit : i % 8 = (i - 8) % 8 := by omega
    rw [place, bit, List.getElem?_cons_succ]

/-- Reversed, a byte string has its bits in the order of their significance. -/
theorem testBit_setBytes_reversed (bytes : List UInt8) (i : Nat) :
    (setBytes (bytes.reverse.map reverse8)).testBit i = bitAt bytes i := by
  induction bytes generalizing i with
  | nil => simp [bitAt]
  | cons byte bytes ih =>
    rw [List.reverse_cons, List.map_append, List.map_singleton, testBit_setBytes_concat, bitAt_cons, ih]
    split
    next => exact BitVec.getLsbD_reverse
    next => rfl

/-! ## Setting bits -/

def setBit (bytes : List UInt8) (i : Nat) : List UInt8 :=
  bytes.modify (i / 8) fun byte => .ofBitVec (byte.toBitVec ||| .twoPow 8 (7 - i % 8))

@[simp] theorem setBit_length (bytes : List UInt8) (i : Nat) : (setBit bytes i).length = bytes.length :=
  List.length_modify ..

theorem bitAt_setBit {bytes : List UInt8} {i : Nat} (inside : i < 8 * bytes.length) (j : Nat) :
    bitAt (setBit bytes i) j = (bitAt bytes j || decide (i = j)) := by
  unfold bitAt setBit
  rw [List.getElem?_modify]
  by_cases same : i / 8 = j / 8
  · have found : j / 8 < bytes.length := by omega
    simp only [if_pos same, List.getElem?_eq_getElem found, Option.map_eq_map, Option.map_some, Option.any_some,
      BitVec.getMsbD_or]
    congr 1
    rw [BitVec.getMsbD_eq_getLsbD, BitVec.getLsbD_twoPow]
    simp only [← Bool.decide_and, decide_eq_decide]
    omega
  · have different : i ≠ j := fun equal => same (equal ▸ rfl)
    simp [same, different]

end Sffl.Golang
