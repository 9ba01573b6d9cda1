import Mathlib.Data.List.Basic
import Mathlib.Data.UInt

/-!
# Machine words

A sum of 64-bit words is the sum of the numbers modulo `2^64`, and the sum itself while that
fits. A loop that counts with an 8-bit variable up to an 8-bit bound visits each number once.
-/
namespace Cpp

theorem toNat_sum (l : List UInt64) : l.sum.toNat = (l.map UInt64.toNat).sum % 2 ^ 64 := by
  induction l with
  | nil => rfl
  | cons x l ih => simp [List.sum_cons, UInt64.toNat_add, ih]

/-- When the numbers at each position are known and their sum fits, it is the sum. -/
theorem toNat_sum_mapIdx {α : Type} (l : List α) (f : ℕ → α → UInt64) (value : ℕ → α → ℕ)
    (h : ∀ j a, l[j]? = some a → (f j a).toNat = value j a)
    (fits : (l.mapIdx value).sum < 2 ^ 64) : (l.mapIdx f).sum.toNat = (l.mapIdx value).sum := by
  induction l generalizing f value with
  | nil => rfl
  | cons a l ih =>
    simp only [List.mapIdx_cons, List.sum_cons] at fits ⊢
    have rest := ih (fun j => f (j + 1)) (fun j => value (j + 1))
      (fun j b hb => h (j + 1) b (by simpa using hb)) (by omega)
    rw [UInt64.toNat_add, h 0 a rfl, rest, Nat.mod_eq_of_lt fits]

theorem le_sum_mapIdx {α : Type} (value : ℕ → α → ℕ) {l : List α} {j : ℕ} {a : α}
    (h : l[j]? = some a) : value j a ≤ (l.mapIdx value).sum := by
  induction l generalizing value j with
  | nil => simp at h
  | cons b l ih =>
    rw [List.mapIdx_cons, List.sum_cons]
    cases j with
    | zero =>
      obtain rfl : b = a := by simpa using h
      omega
    | succ j =>
      have rest := ih (fun j => value (j + 1)) (j := j) (by simpa using h)
      omega

theorem sum_mapIdx_add {α : Type} (l : List α) (f g : ℕ → α → ℕ) :
    (l.mapIdx fun j a => f j a + g j a).sum = (l.mapIdx f).sum + (l.mapIdx g).sum := by
  induction l generalizing f g with
  | nil => rfl
  | cons a l ih =>
    simp only [List.mapIdx_cons, List.sum_cons]
    rw [ih (fun j => f (j + 1)) fun j => g (j + 1)]
    omega

theorem sum_mapIdx_congr {α : Type} {l : List α} {f g : ℕ → α → ℕ}
    (h : ∀ j a, l[j]? = some a → f j a = g j a) : (l.mapIdx f).sum = (l.mapIdx g).sum := by
  have same : l.mapIdx f = l.mapIdx g :=
    List.mapIdx_eq_mapIdx_iff.mpr fun j hj => h j l[j] (List.getElem?_eq_getElem hj)
  rw [same]

theorem toNat_add_one_of_lt {a n : UInt8} (h : a < n) : (a + 1).toNat = a.toNat + 1 := by
  have lt := UInt8.lt_iff_toNat_lt.mp h
  have bound := n.toNat_lt
  rw [UInt8.toNat_add, UInt8.toNat_one, Nat.mod_eq_of_lt (by omega)]

/-- The values of `i` in `for (uint8_t i = a; i < n; i++)`. -/
def countUp (a n : UInt8) : List UInt8 :=
  if a < n then a :: countUp (a + 1) n else []
termination_by n.toNat - a.toNat
decreasing_by
  rename_i h
  have lt := UInt8.lt_iff_toNat_lt.mp h
  have step := toNat_add_one_of_lt h
  omega

theorem countUp_eq (a n : UInt8) :
    countUp a n = (List.range' a.toNat (n.toNat - a.toNat)).map UInt8.ofNat := by
  induction a using countUp.induct n with
  | case1 a h ih =>
    have lt := UInt8.lt_iff_toNat_lt.mp h
    have len : n.toNat - a.toNat = n.toNat - (a + 1).toNat + 1 := by
      rw [toNat_add_one_of_lt h]
      omega
    rw [countUp, if_pos h, ih, len, List.range'_succ, toNat_add_one_of_lt h]
    simp
  | case2 a h =>
    have le : n.toNat - a.toNat = 0 := by
      have := UInt8.lt_iff_toNat_lt.not.mp h
      omega
    rw [countUp, if_neg h, le]
    rfl

/-- Counted from 1, the numbers up to the bound. -/
theorem map_countUp_zero (n : UInt8) :
    (countUp 0 n).map (fun i => i.toNat + 1) = List.range' 1 n.toNat := by
  have bound := n.toNat_lt
  rw [countUp_eq, UInt8.toNat_zero, Nat.sub_zero, List.range'_eq_map_range (s := 1),
    ← List.range_eq_range', List.map_map]
  refine List.map_congr_left fun i hi => ?_
  have lt := List.mem_range.mp hi
  have exact_index : (UInt8.ofNat i).toNat = i := by
    rw [UInt8.toNat_ofNat']
    omega
  simp [exact_index, Nat.add_comm]

theorem lt_of_mem_countUp_zero {i n : UInt8} (h : i ∈ countUp 0 n) : i.toNat < n.toNat := by
  have mem := List.mem_map_of_mem (f := fun i : UInt8 => i.toNat + 1) h
  rw [map_countUp_zero, List.mem_range'_1] at mem
  omega

end Cpp
