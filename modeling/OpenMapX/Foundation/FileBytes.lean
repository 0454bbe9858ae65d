import Mathlib

/-!
# Files of bytes

A file that is read and written at positions, and numbers in little-endian order. A write
changes the bytes of its range and no others.
-/

namespace OpenMapX.Foundation.FileBytes

open List

@[ext]
structure ByteFile where
  size : Nat
  byte : Nat → UInt8

def read (file : ByteFile) (start count : Nat) : List UInt8 :=
  (List.range count).map fun i => file.byte (start + i)

def write (file : ByteFile) (start : Nat) (data : List UInt8) : ByteFile where
  size := max file.size (start + data.length)
  byte := fun p =>
    if start ≤ p ∧ p < start + data.length then data.getD (p - start) 0 else file.byte p

def littleEndian : List UInt8 → Nat
  | [] => 0
  | first :: rest => first.toNat + 256 * littleEndian rest

def littleEndianBytes : Nat → Nat → List UInt8
  | 0, _ => []
  | count + 1, value => UInt8.ofNat (value % 256) :: littleEndianBytes count (value / 256)

@[simp]
theorem read_length (file : ByteFile) (start count : Nat) :
    (read file start count).length = count := by
  simp [read]

@[simp]
theorem little_endian_length (count value : Nat) :
    (littleEndianBytes count value).length = count := by
  induction count generalizing value with
  | zero => rfl
  | succ count ih => simp [littleEndianBytes, ih]

theorem read_congr {file other} {start count : Nat}
    (same : ∀ p, start ≤ p → p < start + count → file.byte p = other.byte p) :
    read file start count = read other start count := by
  apply map_congr_left
  intro i member
  apply same
  · exact Nat.le_add_right _ _
  · exact Nat.add_lt_add_left (mem_range.mp member) start

theorem write_outside {file} {start p : Nat} {data} (outside : p < start ∨ start + data.length ≤ p)
    : (write file start data).byte p = file.byte p := by
  apply if_neg
  intro inside
  rcases outside with before | behind
  · exact absurd inside.1 (Nat.not_le_of_lt before)
  · exact absurd inside.2 (Nat.not_lt_of_le behind)

theorem write_inside {file} {start i : Nat} {data} (inside : i < data.length) :
    (write file start data).byte (start + i) = data.getD i 0 := by
  have range : start ≤ start + i ∧ start + i < start + data.length :=
    And.intro (Nat.le_add_right _ _) (Nat.add_lt_add_left inside start)
  show (if start ≤ start + i ∧ start + i < start + data.length then
    data.getD (start + i - start) 0 else file.byte (start + i)) = data.getD i 0
  rw [if_pos range, Nat.add_sub_cancel_left]

theorem read_write_part (file : ByteFile) {start offset count : Nat} {data}
    (inside : offset + count ≤ data.length) :
    read (write file start data) (start + offset) count = (data.drop offset).take count := by
  apply ext_getElem
  · rw [read_length, length_take, length_drop]
    omega
  · intro i bound taken
    rw [read_length] at bound
    have within : offset + i < data.length := by omega
    simp only [read, getElem_map, getElem_range, getElem_take, getElem_drop]
    rw [Nat.add_assoc, write_inside within, getD_eq_getElem _ _ within]

theorem read_write_apart (file : ByteFile) {start count position : Nat} {data}
    (apart : start + count ≤ position ∨ position + data.length ≤ start) :
    read (write file position data) start count = read file start count := by
  apply read_congr
  intro p lower upper
  apply write_outside
  rcases apart with before | behind
  · exact Or.inl (upper.trans_le before)
  · exact Or.inr (behind.trans lower)

theorem write_size {file} {start : Nat} {data}
    (fits : start + data.length ≤ file.size) : (write file start data).size = file.size :=
  Nat.max_eq_left fits

end OpenMapX.Foundation.FileBytes
