import Detector.Library.Decimal

/-!
# Text that is inserted into an output stream

The part of `std::ostream` that an output operator uses: the text, and the base that `std::hex` and
`std::dec` set for all numbers that follow, also for those of the next operator. Numbers are written
in lower case and without leading zeros or a prefix.

## Main definitions

* `NumBase.digits`, `NumBase.value` — the numeral of a number, and what it is read as.
* `OutStream` — a stream, with `put`, `number`, `hex`, `dec` and `endl`.
* `OutStream.separated` — a loop that ends every line but the last one.

## Main results

* `NumBase.value_digits` — a numeral is read as its number.
* `OutStream.inserted_separated` — the loop writes the texts of the items with line ends between.
-/
namespace Cpp

/-! ## Numerals -/

/-- The base field of the format flags. -/
inductive NumBase where
  | dec | hex
  deriving DecidableEq

namespace NumBase

def radix : NumBase → ℕ
  | dec => 10
  | hex => 16

/-- The numeral of a number. -/
def digits (b : NumBase) (n : ℕ) : List Char := Nat.toDigits b.radix n

def isDigit : NumBase → Char → Bool
  | dec, c => c.isDigit
  | hex, c => c.isDigit || (97 ≤ c.toNat && c.toNat ≤ 102)

def digitValue (c : Char) : ℕ := if c.isDigit then c.toNat - 48 else c.toNat - 87

/-- The number that a text of digits is read as. -/
def value (b : NumBase) (s : List Char) : ℕ := s.foldl (fun n c => b.radix * n + digitValue c) 0

theorem one_lt_radix (b : NumBase) : 1 < b.radix := by cases b <;> decide

theorem radix_le_sixteen (b : NumBase) : b.radix ≤ 16 := by cases b <;> decide

theorem digitValue_digitChar {k : ℕ} (h : k < 16) : digitValue k.digitChar = k := by
  have all : ∀ k < 16, digitValue (Nat.digitChar k) = k := by decide
  exact all k h

theorem isDigit_digitChar (b : NumBase) {k : ℕ} (h : k < b.radix) :
    b.isDigit k.digitChar = true := by
  have dec : ∀ k < 10, NumBase.dec.isDigit (Nat.digitChar k) = true := by decide
  have hex : ∀ k < 16, NumBase.hex.isDigit (Nat.digitChar k) = true := by decide
  cases b with
  | dec => exact dec k h
  | hex => exact hex k h

theorem digits_of_lt {b : NumBase} {n : ℕ} (h : n < b.radix) : b.digits n = [n.digitChar] :=
  Nat.toDigits_of_lt_base h

theorem digits_of_le {b : NumBase} {n : ℕ} (h : b.radix ≤ n) :
    b.digits n = b.digits (n / b.radix) ++ [(n % b.radix).digitChar] :=
  Nat.toDigits_of_base_le b.one_lt_radix h

theorem value_concat (b : NumBase) (s : List Char) (c : Char) :
    b.value (s ++ [c]) = b.radix * b.value s + digitValue c := by
  simp [value]

/-- A numeral has digits of its base only. -/
theorem isDigit_of_mem_digits {b : NumBase} {n : ℕ} {c : Char} (h : c ∈ b.digits n) :
    b.isDigit c = true := by
  induction n using Nat.strongRecOn with
  | ind n ih =>
    by_cases small : n < b.radix
    · rw [digits_of_lt small, List.mem_singleton] at h
      rw [h]
      exact b.isDigit_digitChar small
    · have base := b.one_lt_radix
      rw [digits_of_le (not_lt.mp small), List.mem_append, List.mem_singleton] at h
      obtain h | rfl := h
      · exact ih _ (Nat.div_lt_self (by omega) base) h
      · exact b.isDigit_digitChar (Nat.mod_lt n (by omega))

/-- A numeral is read as its number. -/
theorem value_digits (b : NumBase) (n : ℕ) : b.value (b.digits n) = n := by
  have base := b.one_lt_radix
  induction n using Nat.strongRecOn with
  | ind n ih =>
    have limit := b.radix_le_sixteen
    by_cases small : n < b.radix
    · rw [digits_of_lt small, ← List.nil_append [n.digitChar], value_concat,
        digitValue_digitChar (by omega)]
      simp [value]
    · have digit := Nat.mod_lt n (show 0 < b.radix by omega)
      rw [digits_of_le (not_lt.mp small), value_concat, ih _ (Nat.div_lt_self (by omega) base),
        digitValue_digitChar (by omega), Nat.div_add_mod]

theorem notMem_digits {b : NumBase} {n : ℕ} {c : Char} (h : b.isDigit c = false) :
    c ∉ b.digits n := by
  intro hc
  simp [isDigit_of_mem_digits hc] at h

end NumBase

/-! ## Streams -/

/-- What was written, and the base of the numbers to come. -/
structure OutStream where
  text : List Char
  base : NumBase

namespace OutStream

/-- A stream on which nothing was written yet. -/
def fresh : OutStream := ⟨[], .dec⟩

/-- `os << "..."`. -/
def put (os : OutStream) (s : List Char) : OutStream := ⟨os.text ++ s, os.base⟩

/-- `os << n`, for an unsigned integer. -/
def number (os : OutStream) (n : ℕ) : OutStream := ⟨os.text ++ os.base.digits n, os.base⟩

/-- `os << std::hex`. -/
def hex (os : OutStream) : OutStream := ⟨os.text, .hex⟩

/-- `os << std::dec`. -/
def dec (os : OutStream) : OutStream := ⟨os.text, .dec⟩

/-- `os << std::endl`. -/
def endl (os : OutStream) : OutStream := os.put ['\n']

variable {α : Type*}

/-- A loop over the items `l` that writes each of them, and a line end after each but the last. -/
def separated (insert : OutStream → α → OutStream) : List α → OutStream → OutStream
  | [], os => os
  | [a], os => insert os a
  | a :: b :: l, os => separated insert (b :: l) (insert os a).endl

/-- Texts with line ends between them. -/
def joined (text : α → List Char) : List α → List Char
  | [] => []
  | [a] => text a
  | a :: b :: l => text a ++ '\n' :: joined text (b :: l)

/-- On a stream in decimal, the operation writes `s` and leaves the stream in decimal. -/
def Inserts (f : OutStream → OutStream) (s : List Char) : Prop :=
  ∀ t, f ⟨t, .dec⟩ = ⟨t ++ s, .dec⟩

/-- The loop writes the texts of the items with line ends between them. -/
theorem inserted_separated {insert : OutStream → α → OutStream} {text : α → List Char}
    (each : ∀ a, Inserts (insert · a) (text a)) (l : List α) :
    Inserts (separated insert l) (joined text l) := by
  intro t
  induction l generalizing t with
  | nil => simp [separated, joined]
  | cons a l ih =>
    cases l with
    | nil => exact each a t
    | cons b l =>
      have first : insert ⟨t, .dec⟩ a = ⟨t ++ text a, .dec⟩ := each a t
      simp only [separated, joined, first, endl, put, ih]
      simp

/-- Insertions one after the other. -/
theorem inserts_foldl {insert : OutStream → α → OutStream} {text : α → List Char}
    (each : ∀ a, Inserts (insert · a) (text a)) (l : List α) :
    Inserts (fun os => l.foldl insert os) (l.flatMap text) := by
  intro t
  induction l generalizing t with
  | nil => simp
  | cons a l ih =>
    have first : insert ⟨t, .dec⟩ a = ⟨t ++ text a, .dec⟩ := each a t
    simp [first, ih]

theorem joined_map {β : Type*} (text : β → List Char) (f : α → β) (l : List α) :
    joined text (l.map f) = joined (fun a => text (f a)) l := by
  induction l with
  | nil => rfl
  | cons a l ih =>
    cases l with
    | nil => rfl
    | cons b l => simpa [joined] using ih

/-- The lines of joined texts are the lines of the texts. -/
theorem splitOn_joined (text : α → List Char) {l : List α} (h : l ≠ []) :
    (joined text l).splitOn '\n' = l.flatMap fun a => (text a).splitOn '\n' := by
  induction l with
  | nil => exact absurd rfl h
  | cons a l ih =>
    cases l with
    | nil => simp [joined]
    | cons b l =>
      rw [joined, List.splitOn_append_cons_self, ih (by simp)]
      rfl

end OutStream

end Cpp
