import Detector.MadRuns
import Detector.Library.BigEndian

/-!
# Capability bits

The constructor of a MAD port copies two masks raw out of the reply to its `CLASS_PORT_INFO`
query and tests three bits of them. The first mask stays in network order, as the constants
are that it is tested with; the second one is converted to host order, shifted over the
response time, and converted back. Both ways lead to the bits that the big-endian fields
have, whatever the byte order of the host.
-/
namespace Detector

open Cpp

/-! ## Bits of words -/

theorem testBit_of_le {x n i : ℕ} (hx : x < 2 ^ n) (h : n ≤ i) : x.testBit i = false :=
  Nat.testBit_lt_two_pow (hx.trans_le (Nat.pow_le_pow_right (by decide) h))

/-- A word that is put together from four bytes. -/
theorem testBit_bytes32 (b₃ b₂ b₁ b₀ : UInt8) (i : ℕ) (h : i < 32) :
    (b₃.toUInt32 <<< 24 ||| b₂.toUInt32 <<< 16 ||| b₁.toUInt32 <<< 8 |||
      b₀.toUInt32).toNat.testBit i =
      (match i / 8 with
        | 0 => b₀
        | 1 => b₁
        | 2 => b₂
        | _ => b₃).toNat.testBit (i % 8) := by
  have high : ∀ (b : UInt8) j, 8 ≤ j → b.toNat.testBit j = false :=
    fun b j => testBit_of_le b.toNat_lt
  simp only [UInt32.toNat_or, UInt32.toNat_shiftLeft, UInt8.toNat_toUInt32, UInt32.reduceToNat,
    Nat.testBit_or, Nat.testBit_mod_two_pow, Nat.testBit_shiftLeft]
  obtain byte | byte | byte | byte : i / 8 = 0 ∨ i / 8 = 1 ∨ i / 8 = 2 ∨ i / 8 = 3 := by omega
  · have place : i % 8 = i := by omega
    grind
  · have place : i % 8 = i - 8 := by omega
    grind
  · have place : i % 8 = i - 16 := by omega
    grind
  · have place : i % 8 = i - 24 := by omega
    grind

theorem testBit_bytes16 (b₁ b₀ : UInt8) (i : ℕ) (h : i < 16) :
    (b₁.toUInt16 <<< 8 ||| b₀.toUInt16).toNat.testBit i =
      (match i / 8 with
        | 0 => b₀
        | _ => b₁).toNat.testBit (i % 8) := by
  have high : ∀ (b : UInt8) j, 8 ≤ j → b.toNat.testBit j = false :=
    fun b j => testBit_of_le b.toNat_lt
  simp only [UInt16.toNat_or, UInt16.toNat_shiftLeft, UInt8.toNat_toUInt16, UInt16.reduceToNat,
    Nat.testBit_or, Nat.testBit_mod_two_pow, Nat.testBit_shiftLeft]
  obtain byte | byte : i / 8 = 0 ∨ i / 8 = 1 := by omega
  · have place : i % 8 = i := by omega
    grind
  · have place : i % 8 = i - 8 := by omega
    grind

/-- The conversion exchanges the bytes on a little-endian host. -/
theorem testBit_htonl (x : UInt32) (i : ℕ) (h : i < 32) :
    (htonl .little x).toNat.testBit i = x.toNat.testBit (24 - 8 * (i / 8) + i % 8) := by
  have high : ∀ j, 32 ≤ j → x.toNat.testBit j = false := fun j => testBit_of_le x.toNat_lt
  have second : Nat.testBit 0xff0000 i = decide (16 ≤ i ∧ i < 24) := by
    revert i
    decide
  have third : Nat.testBit 0xff00 i = decide (8 ≤ i ∧ i < 16) := by
    revert i
    decide
  have bits : (htonl .little x).toNat.testBit i =
      (24 ≤ i && x.toNat.testBit (i - 24) ||
        8 ≤ i && x.toNat.testBit (i - 8) && decide (16 ≤ i ∧ i < 24) ||
        x.toNat.testBit (i + 8) && decide (8 ≤ i ∧ i < 16) || x.toNat.testBit (i + 24)) := by
    simp only [htonl, UInt32.toNat_or, UInt32.toNat_and, UInt32.toNat_shiftLeft,
      UInt32.toNat_shiftRight, UInt32.reduceToNat, Nat.testBit_or, Nat.testBit_and,
      Nat.testBit_mod_two_pow, Nat.testBit_shiftLeft, Nat.testBit_shiftRight, second, third]
    simp [h, Nat.add_comm]
  rw [bits]
  clear bits second third
  obtain byte | byte | byte | byte : i / 8 = 0 ∨ i / 8 = 1 ∨ i / 8 = 2 ∨ i / 8 = 3 := by omega
  · have place : 24 - 8 * (i / 8) + i % 8 = i + 24 := by omega
    grind
  · have place : 24 - 8 * (i / 8) + i % 8 = i + 8 := by omega
    grind
  · have place : 24 - 8 * (i / 8) + i % 8 = i - 8 := by omega
    grind
  · have place : 24 - 8 * (i / 8) + i % 8 = i - 24 := by omega
    grind

theorem testBit_clHton16 (x : UInt16) (i : ℕ) (h : i < 16) :
    (clHton16 .little x).toNat.testBit i = x.toNat.testBit (8 - 8 * (i / 8) + i % 8) := by
  have high : ∀ j, 16 ≤ j → x.toNat.testBit j = false := fun j => testBit_of_le x.toNat_lt
  have bits : (clHton16 .little x).toNat.testBit i =
      (8 ≤ i && x.toNat.testBit (i - 8) || x.toNat.testBit (i + 8)) := by
    simp only [clHton16, UInt16.toNat_or, UInt16.toNat_shiftLeft, UInt16.toNat_shiftRight,
      UInt16.reduceToNat, Nat.testBit_or, Nat.testBit_mod_two_pow, Nat.testBit_shiftLeft,
      Nat.testBit_shiftRight]
    simp [h, Nat.add_comm]
  rw [bits]
  clear bits
  obtain byte | byte : i / 8 = 0 ∨ i / 8 = 1 := by omega
  · have place : 8 - 8 * (i / 8) + i % 8 = i + 8 := by omega
    grind
  · have place : 8 - 8 * (i / 8) + i % 8 = i - 8 := by omega
    grind

/-! ## Fields in host order -/

theorem toNat_htonl_memcpy32 (order : ByteOrder) (byte : ℕ → UInt8) (offset : ℕ) :
    (htonl order (memcpy32 order byte offset)).toNat = bigEndian byte offset 4 := by
  have field : bigEndian byte offset 4 < 2 ^ 32 := bigEndian_lt byte offset 4
  refine Nat.eq_of_testBit_eq fun i => ?_
  by_cases inside : i < 32
  · rw [testBit_bigEndian byte offset 4 i (by omega)]
    cases order with
    | big =>
      rw [htonl, memcpy32, testBit_bytes32 _ _ _ _ i inside]
      obtain byte | byte | byte | byte : i / 8 = 0 ∨ i / 8 = 1 ∨ i / 8 = 2 ∨ i / 8 = 3 := by
        omega
      all_goals rw [byte]; rfl
    | little =>
      rw [testBit_htonl _ i inside, memcpy32, testBit_bytes32 _ _ _ _ _ (by omega)]
      have bit : (24 - 8 * (i / 8) + i % 8) % 8 = i % 8 := by omega
      have place : (24 - 8 * (i / 8) + i % 8) / 8 = 3 - i / 8 := by omega
      rw [bit, place]
      obtain byte | byte | byte | byte : i / 8 = 0 ∨ i / 8 = 1 ∨ i / 8 = 2 ∨ i / 8 = 3 := by
        omega
      all_goals rw [byte]; rfl
  · rw [testBit_of_le (UInt32.toNat_lt _) (by omega), testBit_of_le field (by omega)]

theorem toNat_clHton16_memcpy16 (order : ByteOrder) (byte : ℕ → UInt8) (offset : ℕ) :
    (clHton16 order (memcpy16 order byte offset)).toNat = bigEndian byte offset 2 := by
  have field : bigEndian byte offset 2 < 2 ^ 16 := bigEndian_lt byte offset 2
  refine Nat.eq_of_testBit_eq fun i => ?_
  by_cases inside : i < 16
  · rw [testBit_bigEndian byte offset 2 i (by omega)]
    cases order with
    | big =>
      rw [clHton16, memcpy16, testBit_bytes16 _ _ i inside]
      obtain byte | byte : i / 8 = 0 ∨ i / 8 = 1 := by omega
      all_goals rw [byte]; rfl
    | little =>
      rw [testBit_clHton16 _ i inside, memcpy16, testBit_bytes16 _ _ _ (by omega)]
      have bit : (8 - 8 * (i / 8) + i % 8) % 8 = i % 8 := by omega
      have place : (8 - 8 * (i / 8) + i % 8) / 8 = 1 - i / 8 := by omega
      rw [bit, place]
      obtain byte | byte : i / 8 = 0 ∨ i / 8 = 1 := by omega
      all_goals rw [byte]; rfl
  · rw [testBit_of_le (UInt16.toNat_lt _) (by omega), testBit_of_le field (by omega)]

/-! ## Tests of single bits -/

theorem uint32_ext {x y : UInt32} (h : ∀ i < 32, x.toNat.testBit i = y.toNat.testBit i) :
    x = y := by
  refine UInt32.toNat_inj.mp (Nat.eq_of_testBit_eq fun i => ?_)
  by_cases inside : i < 32
  · exact h i inside
  · rw [testBit_of_le x.toNat_lt (by omega), testBit_of_le y.toNat_lt (by omega)]

theorem uint16_ext {x y : UInt16} (h : ∀ i < 16, x.toNat.testBit i = y.toNat.testBit i) :
    x = y := by
  refine UInt16.toNat_inj.mp (Nat.eq_of_testBit_eq fun i => ?_)
  by_cases inside : i < 16
  · exact h i inside
  · rw [testBit_of_le x.toNat_lt (by omega), testBit_of_le y.toNat_lt (by omega)]

theorem htonl_and (order : ByteOrder) (x y : UInt32) :
    htonl order (x &&& y) = htonl order x &&& htonl order y := by
  cases order with
  | big => rfl
  | little =>
    refine uint32_ext fun i inside => ?_
    rw [UInt32.toNat_and, Nat.testBit_and, testBit_htonl _ i inside, testBit_htonl _ i inside,
      testBit_htonl _ i inside, UInt32.toNat_and, Nat.testBit_and]

theorem htonl_htonl (order : ByteOrder) (x : UInt32) : htonl order (htonl order x) = x := by
  cases order with
  | big => rfl
  | little =>
    refine uint32_ext fun i inside => ?_
    rw [testBit_htonl _ i inside, testBit_htonl _ _ (by omega)]
    congr 1
    omega

theorem clHton16_and (order : ByteOrder) (x y : UInt16) :
    clHton16 order (x &&& y) = clHton16 order x &&& clHton16 order y := by
  cases order with
  | big => rfl
  | little =>
    refine uint16_ext fun i inside => ?_
    rw [UInt16.toNat_and, Nat.testBit_and, testBit_clHton16 _ i inside,
      testBit_clHton16 _ i inside, testBit_clHton16 _ i inside, UInt16.toNat_and, Nat.testBit_and]

theorem clHton16_clHton16 (order : ByteOrder) (x : UInt16) :
    clHton16 order (clHton16 order x) = x := by
  cases order with
  | big => rfl
  | little =>
    refine uint16_ext fun i inside => ?_
    rw [testBit_clHton16 _ i inside, testBit_clHton16 _ _ (by omega)]
    congr 1
    omega

/-- A conversion that is its own inverse keeps zero apart from the other words. -/
theorem bne_zero_of_involutive {α : Type} [DecidableEq α] {f : α → α} {z : α} (hz : f z = z)
    (inv : ∀ x, f (f x) = x) (x : α) : (f x != z) = (x != z) := by
  have same : f x = z ↔ x = z := by
    constructor
    · intro h
      rw [← inv x, h, hz]
    · rintro rfl
      exact hz
  rw [Bool.eq_iff_iff, bne_iff_ne, bne_iff_ne]
  exact same.not

theorem htonl_and_bne_zero (order : ByteOrder) (x m : UInt32) :
    (htonl order x &&& htonl order m != 0) = (x &&& m != 0) := by
  have fixed : htonl order 0 = 0 := by cases order <;> rfl
  rw [← htonl_and]
  exact bne_zero_of_involutive fixed (htonl_htonl order) _

theorem clHton16_and_bne_zero (order : ByteOrder) (x m : UInt16) :
    (x &&& clHton16 order m != 0) = (clHton16 order x &&& m != 0) := by
  have fixed : clHton16 order 0 = 0 := by cases order <;> rfl
  have zero := bne_zero_of_involutive fixed (clHton16_clHton16 order) (clHton16 order x &&& m)
  rw [clHton16_and, clHton16_clHton16] at zero
  exact zero

theorem and_bne_zero32 {x m : UInt32} {k : ℕ} (hm : m.toNat = 2 ^ k) :
    (x &&& m != 0) = x.toNat.testBit k := by
  have value : (x &&& m).toNat = (x.toNat.testBit k).toNat * 2 ^ k := by
    rw [UInt32.toNat_and, hm, Nat.and_two_pow]
  have positive := Nat.two_pow_pos k
  cases bit : x.toNat.testBit k <;> simp [bne_iff_ne, ← UInt32.toNat_inj, value, bit]

theorem and_bne_zero16 {x m : UInt16} {k : ℕ} (hm : m.toNat = 2 ^ k) :
    (x &&& m != 0) = x.toNat.testBit k := by
  have value : (x &&& m).toNat = (x.toNat.testBit k).toNat * 2 ^ k := by
    rw [UInt16.toNat_and, hm, Nat.and_two_pow]
  have positive := Nat.two_pow_pos k
  cases bit : x.toNat.testBit k <;> simp [bne_iff_ne, ← UInt16.toNat_inj, value, bit]

/-! ## The flags -/

namespace IbPort

/-- The flags that a reply gives to a port. -/
structure Flags (byte : ℕ → UInt8) (p : IbPort) : Prop where
  extendedWidth : p.isExtendedWidthSupported = (bigEndian byte 2 2).testBit 9
  xmitWait : p.isXmitWaitSupported = (bigEndian byte 2 2).testBit 12
  additional : p.isAdditionalExtendedPortCountersSupported =
    (bigEndian byte 4 4 >>> 5).testBit 1

theorem flags_of_create {build : Build} {a : MadAnswers} {lid : UInt16} {portNum : UInt8}
    {m m' : ℕ} {p : IbPort} (h : Eff.Returns (create build a lid portNum) m p m') {buf : MadBuf}
    (answered : a.pma 0 (ibPortidSet lid 0 0) 0 .classPortInfo = some buf) :
    Flags buf.byte p := by
  obtain ⟨-, buf', nodeBuf, portBuf, asked, -, -, rfl⟩ := returns_create_iff.mp h
  obtain rfl : buf' = buf := Option.some.inj (asked.symm.trans answered)
  refine ⟨?_, ?_, ?_⟩ <;> dsimp only [built]
  · rw [ibPmExtWidthSupported, clHton16_and_bne_zero, and_bne_zero16 (k := 9) rfl,
      toNat_clHton16_memcpy16]
  · rw [ibPmPcXmitWaitSup, clHton16_and_bne_zero, and_bne_zero16 (k := 12) rfl,
      toNat_clHton16_memcpy16]
  · rw [ibPmIsAddlPortCtrsExtSup, clHton32, htonl_and_bne_zero, and_bne_zero32 (k := 1) rfl,
      UInt32.toNat_shiftRight, toNat_htonl_memcpy32]
    rfl

/-- The constructor takes three bits of the reply: bit 9 and bit 12 of the field in bytes 2 and 3,
and bit 1 of the 27 bits in front of the response time, which is bit 6 of the field in bytes 4
to 7. On any host, replies that agree on these bytes give the same flags. -/
theorem capability_bits {build : Build} {a : MadAnswers} {lid : UInt16} {portNum : UInt8}
    {m m' : ℕ} {p : IbPort} (h : Eff.Returns (create build a lid portNum) m p m') {buf : MadBuf}
    (answered : a.pma 0 (ibPortidSet lid 0 0) 0 .classPortInfo = some buf) :
    p.isExtendedWidthSupported = (bigEndian buf.byte 2 2).testBit 9 ∧
    p.isXmitWaitSupported = (bigEndian buf.byte 2 2).testBit 12 ∧
    p.isAdditionalExtendedPortCountersSupported = (bigEndian buf.byte 4 4 / 2 ^ 5).testBit 1 ∧
    p.isAdditionalExtendedPortCountersSupported = (bigEndian buf.byte 4 4).testBit 6 ∧
    ∀ build' a' lid' portNum' n n' q buf',
      Eff.Returns (create build' a' lid' portNum') n q n' →
      a'.pma 0 (ibPortidSet lid' 0 0) 0 .classPortInfo = some buf' →
      (∀ i, 2 ≤ i → i < 8 → buf'.byte i = buf.byte i) →
        q.isExtendedWidthSupported = p.isExtendedWidthSupported ∧
        q.isXmitWaitSupported = p.isXmitWaitSupported ∧
        q.isAdditionalExtendedPortCountersSupported =
          p.isAdditionalExtendedPortCountersSupported := by
  have flags := flags_of_create h answered
  refine ⟨flags.extendedWidth, flags.xmitWait, ?_, ?_, ?_⟩
  · rw [flags.additional, Nat.shiftRight_eq_div_pow]
  · rw [flags.additional, Nat.testBit_shiftRight]
  · intro build' a' lid' portNum' n n' q buf' h' answered' same
    have flags' := flags_of_create h' answered'
    have mask : bigEndian buf'.byte 2 2 = bigEndian buf.byte 2 2 :=
      bigEndian_congr fun i hi => same _ (by omega) (by omega)
    have mask2 : bigEndian buf'.byte 4 4 = bigEndian buf.byte 4 4 :=
      bigEndian_congr fun i hi => same _ (by omega) (by omega)
    rw [flags.extendedWidth, flags.xmitWait, flags.additional, flags'.extendedWidth,
      flags'.xmitWait, flags'.additional, mask, mask2]
    exact ⟨rfl, rfl, rfl⟩

/-- A device with all three capabilities. -/
def maskedDevice : MadAnswers where
  openPort := true
  pma _ _ _ _ := some { plainReply 0 0 with
    byte := fun i => if i = 2 then 0x12 else if i = 7 then 0x40 else 0 }
  smp := (plainDevice ibNodeCa 2 0 0).smp
  reset _ _ _ _ := true

/-- Its port on a little-endian host. -/
theorem capability_bits_capable : ∃ p,
    Eff.Returns (create ⟨true, .little⟩ maskedDevice 3 1) 0 p 1 ∧
      p.isExtendedWidthSupported = true ∧ p.isXmitWaitSupported = true ∧
      p.isAdditionalExtendedPortCountersSupported = true := by
  have built : Eff.Returns (create ⟨true, .little⟩ maskedDevice 3 1) 0 { plainPort ibNodeCa 2 0 with
      isExtendedWidthSupported := true
      isAdditionalExtendedPortCountersSupported := true
      isXmitWaitSupported := true } 1 := ⟨rfl, rfl⟩
  obtain ⟨width, wait, -, additional, -⟩ := capability_bits built rfl
  exact ⟨_, built, width, wait, additional⟩

end IbPort

end Detector
