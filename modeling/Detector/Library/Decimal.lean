import Mathlib.Algebra.Group.Nat.Defs
import Mathlib.Data.List.Basic
import Mathlib.Data.List.TakeWhile

/-!
# Decimal text and `strtoull`

The decimal text of a number, and the C library's reader for it in base ten. The reader
accepts anything: it skips white space, takes an optional sign and the digits that follow,
and answers for the text that is not a number as well. Only the round trip on the text of a
number below `2^64` makes its answer a number that was written.
-/
namespace Cpp

/-- The decimal text of `n`, without leading zeros. -/
def decimal (n : ℕ) : List Char := Nat.toDigits 10 n

/-- `isspace` in the C locale. -/
def isspace (c : Char) : Bool := c == ' ' || (9 ≤ c.toNat && c.toNat ≤ 13)

/-- The value of the leading digits, `ULLONG_MAX` when it is out of range. -/
def magnitude (negative : Bool) (s : List Char) : UInt64 :=
  let v := Nat.ofDigitChars 10 (s.takeWhile Char.isDigit) 0
  if 2 ^ 64 ≤ v then 18446744073709551615
  else if negative then 0 - UInt64.ofNat v else UInt64.ofNat v

/-- `strtoull(s, nullptr, 10)`. -/
def strtoull (s : List Char) : UInt64 :=
  match s.dropWhile isspace with
  | '-' :: digits => magnitude true digits
  | '+' :: digits => magnitude false digits
  | digits => magnitude false digits

theorem isDigit_of_mem_decimal {n : ℕ} {c : Char} (h : c ∈ decimal n) : c.isDigit :=
  Nat.isDigit_of_mem_toDigits (by decide) (by decide) h

theorem ne_of_mem_decimal {n : ℕ} {c d : Char} (h : c ∈ decimal n) (hd : d.isDigit = false) :
    c ≠ d := by
  rintro rfl
  simp [isDigit_of_mem_decimal h] at hd

theorem decimal_ne_nil (n : ℕ) : decimal n ≠ [] := Nat.toDigits_ne_nil

theorem length_decimal_le {n : ℕ} (h : n < 2 ^ 64) : (decimal n).length ≤ 20 :=
  (Nat.length_toDigits_le_iff (by decide) (by decide)).mpr (by omega)

theorem takeWhile_decimal {n : ℕ} {p : Char → Bool} (h : ∀ c ∈ decimal n, p c = true)
    (rest : List Char) : (decimal n ++ rest).takeWhile p = decimal n ++ rest.takeWhile p :=
  List.takeWhile_append_of_pos h

theorem isspace_of_isDigit {c : Char} (h : c.isDigit) : isspace c = false := by
  simp only [Char.isDigit, ge_iff_le, Bool.and_eq_true, decide_eq_true_eq] at h
  have lower : 48 ≤ c.toNat := h.1
  have upper : c.toNat ≤ 57 := h.2
  have blank : c ≠ ' ' := by rintro rfl; simp at lower
  simp [isspace, blank]
  omega

/-- Reading back the text of a number below `2^64`, with anything but a digit behind it, gives that
number. -/
theorem strtoull_decimal_append {n : ℕ} (h : n < 2 ^ 64) {rest : List Char}
    (stop : rest.takeWhile Char.isDigit = []) :
    strtoull (decimal n ++ rest) = UInt64.ofNat n := by
  have value : magnitude false (decimal n ++ rest) = UInt64.ofNat n := by
    have digits : (decimal n ++ rest).takeWhile Char.isDigit = decimal n := by
      rw [takeWhile_decimal (fun c => isDigit_of_mem_decimal), stop, List.append_nil]
    have back : Nat.ofDigitChars 10 (decimal n) 0 = n := Nat.ofDigitChars_ten_toDigits
    rw [magnitude, digits, back]
    exact if_neg (Nat.not_le.mpr h)
  obtain ⟨c, s, text⟩ := List.exists_cons_of_ne_nil (decimal_ne_nil n)
  have digit : c.isDigit := isDigit_of_mem_decimal (n := n) (by simp [text])
  have start : (decimal n ++ rest).dropWhile isspace = decimal n ++ rest := by
    simp [text, isspace_of_isDigit digit]
  have whole : decimal n ++ rest = c :: (s ++ rest) := by rw [text, List.cons_append]
  unfold strtoull
  rw [start]
  split
  · rename_i heq
    rw [(List.cons.inj (whole.symm.trans heq)).1] at digit
    exact absurd digit (by decide)
  · rename_i heq
    rw [(List.cons.inj (whole.symm.trans heq)).1] at digit
    exact absurd digit (by decide)
  · exact value

theorem strtoull_decimal {n : ℕ} (h : n < 2 ^ 64) : strtoull (decimal n) = UInt64.ofNat n := by
  simpa using strtoull_decimal_append h (List.takeWhile_nil (p := Char.isDigit))

example : strtoull "N/A".toList = 0 := by decide
example : strtoull " -1".toList = 18446744073709551615 := by decide

end Cpp
