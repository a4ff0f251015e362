/-
# Big-endian numbers

Writing a number with a fixed count of bytes and reading bytes as a number undo
each other, for the numbers that fit and for bytes of that count. An integer of
32 bits is its remainder modulo `2 ^ 32`, and is read back with its sign.
-/

import Hotspot.Config.Binary
import Mathlib.Data.List.Induction
import Mathlib.Tactic.Ring

namespace Hotspot
namespace Config

@[simp] theorem unsigned_nil : unsigned [] = 0 := rfl

/-- The last byte has the lowest value. -/
theorem unsigned_concat (bytes : Bytes) (b : UInt8) :
    unsigned (bytes ++ [b]) = unsigned bytes * 0x100 + b.toNat := by
  rw [unsigned, List.foldl_append]
  rfl

/-- A number of so many bytes is below the power of their count. -/
theorem unsigned_lt (bytes : Bytes) : unsigned bytes < 256 ^ bytes.length := by
  induction bytes using List.reverseRecOn with
  | nil => simp
  | append_singleton bytes b ih =>
    have := b.toNat_lt
    rw [unsigned_concat, List.length_append, List.length_singleton, pow_succ]
    omega

@[simp] theorem length_bigEndian (n value : Nat) : (bigEndian n value).length = n := by
  induction n generalizing value with
  | zero => rfl
  | succ n ih => rw [bigEndian, List.length_append, ih, List.length_singleton]

/-- Bytes read as a number are what the number is written as. -/
theorem bigEndian_unsigned (bytes : Bytes) : bigEndian bytes.length (unsigned bytes) = bytes := by
  induction bytes using List.reverseRecOn with
  | nil => rfl
  | append_singleton bytes b ih =>
    have hb := b.toNat_lt
    have hdiv : (unsigned bytes * 0x100 + b.toNat) / 0x100 = unsigned bytes := by omega
    have hlast : UInt8.ofNat (unsigned bytes * 0x100 + b.toNat) = b := by
      rw [← UInt8.toNat_inj, UInt8.toNat_ofNat']
      omega
    rw [List.length_append, List.length_singleton, bigEndian, unsigned_concat, hdiv, hlast, ih]

/-- The bytes of a number that fits are read as the number. -/
theorem unsigned_bigEndian {n value : Nat} (h : value < 256 ^ n) :
    unsigned (bigEndian n value) = value := by
  induction n generalizing value with
  | zero =>
    rw [pow_zero] at h
    rw [bigEndian, unsigned_nil]
    omega
  | succ n ih =>
    rw [pow_succ] at h
    rw [bigEndian, unsigned_concat, ih (by omega), UInt8.toNat_ofNat']
    omega

/-! ## Integers of 32 bits -/

@[simp] theorem length_int32 (i : Int) : (int32 i).length = 4 := length_bigEndian 4 _

/-- A number of 32 bits is read back, also a negative one. -/
theorem signed_int32 {i : Int} (h : FitsInt32 i) : signed (int32 i) = i := by
  obtain ⟨hlow, hhigh⟩ := h
  have hu : unsigned (int32 i) = (i % 0x100000000).toNat :=
    unsigned_bigEndian (by rw [show (256 : Nat) ^ 4 = 0x100000000 by rfl]; omega)
  rw [signed, hu]
  split <;> omega

/-- Four bytes stay below two to the thirty-second. -/
theorem unsigned_lt_of_length {bytes : Bytes} (h : bytes.length = 4) :
    unsigned bytes < 0x100000000 := by
  have := unsigned_lt bytes
  rwa [h] at this

/-- So what is read of four bytes is a number of 32 bits. -/
theorem fitsInt32_signed {bytes : Bytes} (h : bytes.length = 4) : FitsInt32 (signed bytes) := by
  have := unsigned_lt_of_length h
  rw [signed, FitsInt32]
  split <;> omega

/-- It is written as the four bytes that were read: no two of them mean one number. -/
theorem int32_signed {bytes : Bytes} (h : bytes.length = 4) : int32 (signed bytes) = bytes := by
  have := unsigned_lt_of_length h
  have hmod : (signed bytes % 0x100000000).toNat = unsigned bytes := by
    rw [signed]
    split <;> omega
  rw [int32, hmod, ← h, bigEndian_unsigned]

end Config
end Hotspot
