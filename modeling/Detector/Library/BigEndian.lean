import Mathlib.Algebra.Group.Nat.Defs
import Mathlib.Data.Nat.Bitwise

/-!
# Big-endian fields

A field of a network packet is a number whose first byte is the most significant one. Its bits
are the bits of its bytes, so a test of one bit reads one byte and no other.
-/
namespace Cpp

/-- The number in the `n` bytes from `offset` on. -/
def bigEndian (byte : ℕ → UInt8) (offset : ℕ) : ℕ → ℕ
  | 0 => 0
  | n + 1 => 2 ^ 8 * bigEndian byte offset n + (byte (offset + n)).toNat

@[simp] theorem bigEndian_zero (byte : ℕ → UInt8) (offset : ℕ) : bigEndian byte offset 0 = 0 :=
  rfl

theorem bigEndian_succ (byte : ℕ → UInt8) (offset n : ℕ) : bigEndian byte offset (n + 1) =
    2 ^ 8 * bigEndian byte offset n + (byte (offset + n)).toNat :=
  rfl

theorem testBit_bigEndian (byte : ℕ → UInt8) (offset n i : ℕ) (h : i < 8 * n) :
    (bigEndian byte offset n).testBit i =
      (byte (offset + (n - 1 - i / 8))).toNat.testBit (i % 8) := by
  induction n generalizing i with
  | zero => omega
  | succ n ih =>
    have small : (byte (offset + n)).toNat < 2 ^ 8 := UInt8.toNat_lt _
    rw [bigEndian_succ]
    by_cases last : i < 8
    · rw [Nat.testBit_two_pow_mul_add _ small, if_pos last]
      have first : n + 1 - 1 - i / 8 = n := by omega
      rw [first, Nat.mod_eq_of_lt last]
    · rw [Nat.testBit_two_pow_mul_add _ small, if_neg last, ih (i - 8) (by omega)]
      have place : n - 1 - (i - 8) / 8 = n + 1 - 1 - i / 8 := by omega
      have bit : (i - 8) % 8 = i % 8 := by omega
      rw [place, bit]

theorem bigEndian_lt (byte : ℕ → UInt8) (offset n : ℕ) :
    bigEndian byte offset n < 2 ^ (8 * n) := by
  induction n with
  | zero => simp
  | succ n ih =>
    have small : (byte (offset + n)).toNat < 2 ^ 8 := UInt8.toNat_lt _
    rw [bigEndian_succ, Nat.mul_succ, Nat.pow_add, Nat.mul_comm (2 ^ (8 * n))]
    omega

/-- Fields over the same bytes are the same. -/
theorem bigEndian_congr {byte byte' : ℕ → UInt8} {offset n : ℕ}
    (h : ∀ i < n, byte (offset + i) = byte' (offset + i)) :
    bigEndian byte offset n = bigEndian byte' offset n := by
  induction n with
  | zero => rfl
  | succ n ih =>
    rw [bigEndian_succ, bigEndian_succ, ih fun i hi => h i (by omega), h n (by omega)]

end Cpp
