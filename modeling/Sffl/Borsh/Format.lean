import Sffl.Golang.Bits

/-! Borsh, a binary format without tags.

Integers are laid out with the least significant byte first, arrays and structs
one part after the other, and a vector after its length. What was written can be
read whatever follows it, and a reader does not ask what follows.
-/

set_option autoImplicit false

namespace Sffl.Borsh

open Sffl.Evm Sffl.Golang

/-- Writing fails if a vector is too long for its length to be written. -/
structure Format (Value : Type) where
  write : Value → Option Bytes
  read : Bytes → Option (Value × Bytes)
  read_write : ∀ {value : Value} {bytes : Bytes}, write value = some bytes →
    ∀ rest, read (bytes ++ rest) = some (value, rest)

section Formats
variable {Value Other : Type}

/-- Reading a value does not use up the input. -/
def Format.deserialize (format : Format Value) (input : Bytes) : Option Value := (format.read input).map Prod.fst

theorem Format.deserialize_write (format : Format Value) {value : Value} {bytes : Bytes}
    (written : format.write value = some bytes) : format.deserialize bytes = some value := by
  have read := format.read_write written []
  rw [List.append_nil] at read
  rw [deserialize, read]
  rfl

/-! ## Fixed lengths -/

def readFixed (length : Nat) (decode : Bytes → Value) (input : Bytes) : Option (Value × Bytes) :=
  if length ≤ input.length then some (decode (input.take length), input.drop length) else none

theorem readFixed_append {length : Nat} {bytes : Bytes} (exact : bytes.length = length) (decode : Bytes → Value)
    (rest : Bytes) : readFixed length decode (bytes ++ rest) = some (decode bytes, rest) := by
  have enough : length ≤ (bytes ++ rest).length := by
    rw [List.length_append]
    omega
  rw [readFixed, if_pos enough, List.take_left' exact, List.drop_left' exact]

def fixed (length : Nat) (encode : Value → Bytes) (decode : Bytes → Value)
    (exact : ∀ value, (encode value).length = length) (inverse : ∀ value, decode (encode value) = value) :
    Format Value where
  write value := some (encode value)
  read := readFixed length decode
  read_write := by
    intro value bytes written rest
    cases written
    rw [readFixed_append (exact value), inverse]

theorem length_reversed {width : Nat} (length : Nat) (value : Uint width) :
    (bigEndian length value.toNat).reverse.length = length := by
  rw [List.length_reverse, bigEndian_length]

theorem setBytes_reversed (length : Nat) (value : Uint (8 * length)) :
    BitVec.ofNat (8 * length) (setBytes (bigEndian length value.toNat).reverse.reverse) = value := by
  rw [List.reverse_reverse, setBytes_bigEndian_toNat length value rfl, BitVec.ofNat_toNat, BitVec.setWidth_eq]

theorem setBytes_wordBytes (value : Bytes32) : BitVec.ofNat 256 (setBytes (wordBytes value)) = value := by
  rw [wordBytes, setBytes_bigEndian_toNat 32 value rfl, BitVec.ofNat_toNat, BitVec.setWidth_eq]

def unsigned (length : Nat) : Format (Uint (8 * length)) :=
  fixed length (fun value => (bigEndian length value.toNat).reverse)
    (fun bytes => BitVec.ofNat (8 * length) (setBytes bytes.reverse)) (length_reversed length) (setBytes_reversed length)

def array32 : Format Bytes32 :=
  fixed 32 wordBytes (fun bytes => BitVec.ofNat 256 (setBytes bytes)) wordBytes_length setBytes_wordBytes

def readByte : Bytes → Option (UInt8 × Bytes)
  | [] => none
  | byte :: rest => some (byte, rest)

theorem readByte_write {byte : UInt8} {bytes : Bytes} (written : some [byte] = some bytes) (rest : Bytes) :
    readByte (bytes ++ rest) = some (byte, rest) := by
  cases written
  rfl

def byte : Format UInt8 where
  write value := some [value]
  read := readByte
  read_write := readByte_write

/-! ## Vectors -/

section Vectors
variable (format : Format Value)

def writeAll : List Value → Option Bytes
  | [] => some []
  | value :: values => do
    let bytes ← format.write value
    let rest ← writeAll values
    return bytes ++ rest

def readMany : Nat → Bytes → Option (List Value × Bytes)
  | 0, input => some ([], input)
  | count + 1, input => do
    let (value, input) ← format.read input
    let (values, rest) ← readMany count input
    return (value :: values, rest)

theorem readMany_writeAll {values : List Value} {bytes : Bytes} (written : writeAll format values = some bytes)
    (rest : Bytes) : readMany format values.length (bytes ++ rest) = some (values, rest) := by
  induction values generalizing bytes with
  | nil =>
    cases written
    rfl
  | cons value values ih =>
    obtain ⟨first, writtenFirst, written⟩ := Option.bind_eq_some_iff.mp written
    obtain ⟨others, writtenOthers, result⟩ := Option.bind_eq_some_iff.mp written
    cases result
    simp only [List.length_cons, readMany, List.append_assoc, format.read_write writtenFirst, ih writtenOthers,
      Option.bind_eq_bind, Option.bind_some]
    rfl

def writeVec (values : List Value) : Option Bytes :=
  if values.length < 2 ^ 32 then do
    let length ← (unsigned 4).write (BitVec.ofNat (8 * 4) values.length)
    let bytes ← writeAll format values
    return length ++ bytes
  else none

def readVec (input : Bytes) : Option (List Value × Bytes) := do
  let (length, input) ← (unsigned 4).read input
  readMany format length.toNat input

theorem readVec_writeVec {values : List Value} {bytes : Bytes} (written : writeVec format values = some bytes)
    (rest : Bytes) : readVec format (bytes ++ rest) = some (values, rest) := by
  obtain ⟨short, written⟩ := Option.ite_none_right_eq_some.mp written
  obtain ⟨length, writtenLength, written⟩ := Option.bind_eq_some_iff.mp written
  obtain ⟨others, writtenOthers, result⟩ := Option.bind_eq_some_iff.mp written
  cases result
  have exact : (BitVec.ofNat (8 * 4) values.length).toNat = values.length := by
    rw [BitVec.toNat_ofNat, Nat.mod_eq_of_lt short]
  simp only [readVec, List.append_assoc, (unsigned 4).read_write writtenLength, Option.bind_eq_bind, Option.bind_some, exact]
  exact readMany_writeAll format writtenOthers rest

def vec : Format (List Value) where
  write := writeVec format
  read := readVec format
  read_write := readVec_writeVec format

end Vectors

theorem writeAll_byte (bytes : Bytes) : writeAll byte bytes = some bytes := by
  induction bytes with
  | nil => rfl
  | cons first bytes ih =>
    rw [writeAll, ih]
    rfl

theorem vec_byte_write_eq_none {bytes : Bytes} : (vec byte).write bytes = none ↔ 2 ^ 32 ≤ bytes.length := by
  show writeVec byte bytes = none ↔ _
  rw [writeVec, writeAll_byte]
  split
  next short =>
    constructor
    · intro unwritten
      cases unwritten
    · intro long
      omega
  next long => simpa using long

/-! ## Structs -/

section Structs
variable (first : Format Value) (second : Format Other)

def writePair (values : Value × Other) : Option Bytes := do
  let bytes ← first.write values.1
  let rest ← second.write values.2
  return bytes ++ rest

def readPair (input : Bytes) : Option ((Value × Other) × Bytes) := do
  let (value, input) ← first.read input
  let (other, rest) ← second.read input
  return ((value, other), rest)

theorem readPair_writePair {values : Value × Other} {bytes : Bytes} (written : writePair first second values = some bytes)
    (rest : Bytes) : readPair first second (bytes ++ rest) = some (values, rest) := by
  obtain ⟨head, writtenFirst, written⟩ := Option.bind_eq_some_iff.mp written
  obtain ⟨tail, writtenSecond, result⟩ := Option.bind_eq_some_iff.mp written
  cases result
  simp only [readPair, List.append_assoc, first.read_write writtenFirst, second.read_write writtenSecond,
    Option.bind_eq_bind, Option.bind_some]
  rfl

def pair : Format (Value × Other) where
  write := writePair first second
  read := readPair first second
  read_write := readPair_writePair first second

theorem read_record {make : Value → Other} {fields : Other → Value} (inverse : ∀ record, make (fields record) = record)
    {record : Other} {bytes : Bytes} (written : first.write (fields record) = some bytes) (rest : Bytes) :
    (first.read (bytes ++ rest)).map (Prod.map make id) = some (record, rest) := by
  rw [first.read_write written, Option.map_some, Prod.map_apply, inverse]
  rfl

def record (make : Value → Other) (fields : Other → Value) (inverse : ∀ record, make (fields record) = record) :
    Format Other where
  write record := first.write (fields record)
  read input := (first.read input).map (Prod.map make id)
  read_write := read_record first inverse

end Structs

end Formats

end Sffl.Borsh
