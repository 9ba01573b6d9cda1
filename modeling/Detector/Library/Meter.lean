import Mathlib.Algebra.Group.Nat.Defs
import Mathlib.Tactic.Common

/-!
# Resets of a counter that only grows

A counter of a device grows by what it counts. A client that may write to the device resets it
by clearing it there; a client that may not remembers the value it finds as a base, and from
then on reports the difference of two machine words. A `Meter` is such a counter together with
the base of the second client and the amount counted since that client's reset.

As long as nobody clears the counter, the difference is the amount. When somebody did, the
difference is still a lower bound of the amount, provided it is not negative; otherwise it
wraps around.
-/
namespace Cpp

/-- The value in the device, the base that a client remembers, and what was counted since the
client's reset, or at all when there was none. -/
structure Meter where
  raw : ℕ
  base : ℕ
  since : ℕ

namespace Meter

/-- Before the client's first reset everything in the device counts. -/
def start (raw : ℕ) : Meter := ⟨raw, 0, raw⟩

def count (m : Meter) (d : ℕ) : Meter := ⟨m.raw + d, m.base, m.since + d⟩

/-- The device is cleared, by somebody else. -/
def clear (m : Meter) : Meter := { m with raw := 0 }

/-- The client resets. -/
def rebase (m : Meter) : Meter := ⟨m.raw, m.raw, 0⟩

/-- What the client reports. -/
def shown (m : Meter) : UInt64 := UInt64.ofNat m.raw - UInt64.ofNat m.base

variable {m : Meter}

/-! ## Undisturbed meters -/

/-- Nobody cleared the counter since the client's reset. -/
def Undisturbed (m : Meter) : Prop := m.raw = m.base + m.since

theorem undisturbed_start (raw : ℕ) : (start raw).Undisturbed := (Nat.zero_add raw).symm

theorem Undisturbed.count (h : m.Undisturbed) (d : ℕ) : (m.count d).Undisturbed := by
  simp only [Undisturbed, Meter.count] at *
  omega

theorem undisturbed_rebase (m : Meter) : m.rebase.Undisturbed := rfl

/-- The difference of the words is the word of the difference. -/
theorem shown_of_eq_add {k : ℕ} (h : m.raw = m.base + k) : m.shown = UInt64.ofNat k := by
  rw [shown, h, UInt64.ofNat_add, UInt64.add_comm, UInt64.add_sub_cancel]

/-! ## All meters -/

/-- Either the counter was not cleared, or all that it holds was counted since. -/
def Sound (m : Meter) : Prop := m.Undisturbed ∨ m.raw ≤ m.since

theorem sound_start (raw : ℕ) : (start raw).Sound := .inl (undisturbed_start raw)

theorem Sound.count (h : m.Sound) (d : ℕ) : (m.count d).Sound := by
  simp only [Sound, Undisturbed, Meter.count] at *
  omega

theorem sound_clear (m : Meter) : m.clear.Sound := .inr (Nat.zero_le _)

theorem sound_rebase (m : Meter) : m.rebase.Sound := .inl (undisturbed_rebase m)

/-- The difference never exceeds what was counted. -/
theorem Sound.sub_le (h : m.Sound) : m.raw - m.base ≤ m.since := by
  simp only [Sound, Undisturbed] at h
  omega

/-- When the base is not above the counter, the difference is reported. -/
theorem toNat_shown_of_le (small : m.raw < 2 ^ 64) (h : m.base ≤ m.raw) :
    m.shown.toNat = m.raw - m.base := by
  have split : m.raw = m.base + (m.raw - m.base) := by omega
  rw [shown_of_eq_add split]
  exact UInt64.toNat_ofNat_of_lt' (by simp only [UInt64.size]; omega)

/-- When it is, the difference wraps around. -/
theorem toNat_shown_of_lt (small : m.base < 2 ^ 64) (h : m.raw < m.base) :
    m.shown.toNat = 2 ^ 64 - (m.base - m.raw) := by
  have raw : (UInt64.ofNat m.raw).toNat = m.raw :=
    UInt64.toNat_ofNat_of_lt' (by simp only [UInt64.size]; omega)
  have base : (UInt64.ofNat m.base).toNat = m.base :=
    UInt64.toNat_ofNat_of_lt' (by simp only [UInt64.size]; omega)
  rw [shown, UInt64.toNat_sub, raw, base]
  omega

end Meter

end Cpp
