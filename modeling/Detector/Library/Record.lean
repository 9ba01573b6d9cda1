import Mathlib.Data.List.DropRight
import Detector.Library.OutStream

/-!
# Lines with labelled columns

A line starts with some free text and goes on with columns: a label, a number in the base of the
column, and a unit. The free text may look like anything, also like further columns, so the line is
read from its end: the unit is taken off, then all digits, then the label.

A text is a sequence of such lines. Lines of one kind are heads, and the lines between two heads
belong to the first of them.

## Main definitions

* `Column`, `writeColumns`, `readColumns` — lines, written and read.
* `groups` — the heads of a sequence, each with what follows it.

## Main results

* `readColumns_write` — the free text and the numbers come back, whatever the free text is.
* `groups_append`, `groups_head` — so do the groups, line by line.
-/
namespace Cpp

/-- A text without its last part, when that is `u`. -/
def stripSuffix (u s : List Char) : Option (List Char) :=
  if u.isSuffixOf s then some (s.take (s.length - u.length)) else none

/-- A text without its first part, when that is `u`. -/
def stripPrefix (u s : List Char) : Option (List Char) :=
  if u.isPrefixOf s then some (s.drop u.length) else none

theorem stripSuffix_append (s u : List Char) : stripSuffix u (s ++ u) = some s := by
  have last : u.isSuffixOf (s ++ u) = true :=
    List.isSuffixOf_iff_suffix.mpr (List.suffix_append s u)
  simp [stripSuffix, last]

theorem stripPrefix_append (u s : List Char) : stripPrefix u (u ++ s) = some s := by
  have first : u.isPrefixOf (u ++ s) = true :=
    List.isPrefixOf_iff_prefix.mpr (List.prefix_append u s)
  simp [stripPrefix, first]

/-- A text with another last character does not end with `u`. -/
theorem isSuffixOf_eq_false {u s : List Char} {c : Char} (last : u.getLast? = some c)
    (h : s.getLast? ≠ some c) : u.isSuffixOf s = false := by
  refine Bool.eq_false_iff.mpr fun ends => h ?_
  obtain ⟨t, rfl⟩ := List.isSuffixOf_iff_suffix.mp ends
  rw [List.getLast?_append, last, Option.some_or]

/-- The last entries that pass a test are `t`, when the entry before `t` does not pass it. -/
theorem rdropWhile_of_stop {α : Type} {p : α → Bool} (s : List α) {x : α} (stop : p x = false)
    {t : List α} (h : ∀ y ∈ t, p y = true) : (s ++ [x] ++ t).rdropWhile p = s ++ [x] := by
  induction t using List.reverseRecOn with
  | nil => simp [stop]
  | append_singleton t y ih =>
    rw [← List.append_assoc, List.rdropWhile_concat_pos _ _ _ (h y (by simp))]
    exact ih fun z hz => h z (by simp [hz])

theorem rtakeWhile_of_stop {α : Type} {p : α → Bool} (s : List α) {x : α} (stop : p x = false)
    {t : List α} (h : ∀ y ∈ t, p y = true) : (s ++ [x] ++ t).rtakeWhile p = t := by
  have parts : (s ++ [x] ++ t).rdropWhile p ++ (s ++ [x] ++ t).rtakeWhile p = s ++ [x] ++ t :=
    List.rdropWhile_append_rtakeWhile
  rw [rdropWhile_of_stop s stop h] at parts
  exact List.append_cancel_left parts

/-- A list is read back when each of its entries is. -/
theorem mapM_map_write {α β : Type} {write : α → β} {read : β → Option α} {l : List α}
    (h : ∀ a ∈ l, read (write a) = some a) : (l.map write).mapM read = some l := by
  induction l with
  | nil => rfl
  | cons a l ih =>
    have rest := ih fun b hb => h b (by simp [hb])
    rw [List.map_cons, List.mapM_cons, h a (by simp), rest]
    rfl

/-! ## Columns -/

/-- A column of a line. -/
structure Column where
  label : List Char
  base : NumBase
  unit : List Char

namespace Column

/-- The label has an end that is no digit, so no number runs into it. -/
def Closed (c : Column) : Prop := c.label.getLast?.any (fun x => !c.base.isDigit x) = true

instance (c : Column) : Decidable c.Closed := inferInstanceAs (Decidable (_ = true))

variable {c : Column}

theorem Closed.split (h : c.Closed) : ∃ s x, c.label = s ++ [x] ∧ c.base.isDigit x = false := by
  unfold Closed at h
  rcases List.eq_nil_or_concat c.label with empty | ⟨s, x, label⟩
  · simp [empty] at h
  · refine ⟨s, x, by simpa using label, ?_⟩
    simpa [label] using h

/-- The column with the number `n`. -/
def write (c : Column) (n : ℕ) : List Char := c.label ++ (c.base.digits n ++ c.unit)

/-- Take the column off the end of a line. -/
def readLast (c : Column) (s : List Char) : Option (List Char × ℕ) := do
  let numbered ← stripSuffix c.unit s
  let rest ← stripSuffix c.label (numbered.rdropWhile c.base.isDigit)
  return (rest, c.base.value (numbered.rtakeWhile c.base.isDigit))

theorem readLast_write (h : c.Closed) (s : List Char) (n : ℕ) :
    c.readLast (s ++ c.write n) = some (s, n) := by
  obtain ⟨l, x, label, stop⟩ := h.split
  have digits : ∀ y ∈ c.base.digits n, c.base.isDigit y = true :=
    fun y => NumBase.isDigit_of_mem_digits
  have line : s ++ c.write n = s ++ l ++ [x] ++ c.base.digits n ++ c.unit := by
    simp [write, label]
  have labelled : s ++ l ++ [x] = s ++ c.label := by simp [label]
  rw [readLast, line, stripSuffix_append, Option.bind_eq_bind, Option.bind_some,
    rdropWhile_of_stop (s ++ l) stop digits, rtakeWhile_of_stop (s ++ l) stop digits, labelled,
    stripSuffix_append, NumBase.value_digits]
  rfl

end Column

/-- Columns with their numbers, from left to right. -/
def writeColumns (cells : List (Column × ℕ)) : List Char := cells.flatMap fun x => x.1.write x.2

theorem notMem_writeColumns {c : Char} {cells : List (Column × ℕ)}
    (h : ∀ x ∈ cells.map Prod.fst, c ∉ x.label ∧ x.base.isDigit c = false ∧ c ∉ x.unit) :
    c ∉ writeColumns cells := by
  intro hc
  obtain ⟨x, hx, written⟩ := List.mem_flatMap.mp hc
  obtain ⟨inLabel, noDigit, inUnit⟩ := h x.1 (List.mem_map_of_mem hx)
  simp [Column.write, inLabel, NumBase.notMem_digits noDigit, inUnit] at written

/-- The line ends with the unit of its last column, or else with a digit. -/
theorem getLast?_writeColumns_ne {c : Char} (s : List Char) (cells : List (Column × ℕ))
    (x : Column) (n : ℕ) (noDigit : x.base.isDigit c = false) (inUnit : x.unit.getLast? ≠ some c) :
    (s ++ writeColumns (cells ++ [(x, n)])).getLast? ≠ some c := by
  have line : s ++ writeColumns (cells ++ [(x, n)]) =
      s ++ writeColumns cells ++ x.label ++ (x.base.digits n ++ x.unit) := by
    simp [writeColumns, Column.write]
  have digit : (x.base.digits n).getLast? ≠ some c := fun h =>
    NumBase.notMem_digits noDigit (List.mem_of_getLast? h)
  have number : x.base.digits n ≠ [] := Nat.toDigits_ne_nil
  rw [line, List.getLast?_append, List.getLast?_append]
  cases unit : x.unit.getLast? with
  | some d => simpa [unit] using inUnit
  | none =>
    rw [List.getLast?_eq_some_getLast number] at digit ⊢
    simpa using digit

/-- Read columns from the end of a line: what stands before them, and their numbers. -/
def readColumns : List Column → List Char → Option (List Char × List ℕ)
  | [], s => some (s, [])
  | c :: cs, s => do
    let (rest, numbers) ← readColumns cs s
    let (free, n) ← c.readLast rest
    return (free, n :: numbers)

/-- The free text and the numbers come back, whatever the free text is. -/
theorem readColumns_write (cells : List (Column × ℕ)) (closed : ∀ x ∈ cells, x.1.Closed)
    (s : List Char) :
    readColumns (cells.map Prod.fst) (s ++ writeColumns cells) = some (s, cells.map Prod.snd) := by
  induction cells generalizing s with
  | nil => simp [readColumns, writeColumns]
  | cons x cells ih =>
    have later := ih (fun y hy => closed y (by simp [hy])) (s ++ x.1.write x.2)
    have first := Column.readLast_write (closed x (by simp)) s x.2
    have line : s ++ writeColumns (x :: cells) = s ++ x.1.write x.2 ++ writeColumns cells := by
      simp [writeColumns]
    simp only [List.map_cons, readColumns, line, later, Option.bind_eq_bind, Option.bind_some, first]
    rfl

/-! ## Groups of lines -/

/-- Lines that are each ended by a line end. -/
theorem splitOn_lines {lines : List (List Char)} (free : ∀ l ∈ lines, '\n' ∉ l) (s : List Char) :
    (lines.flatMap (fun l => l ++ ['\n']) ++ s).splitOn '\n' = lines ++ s.splitOn '\n' := by
  induction lines with
  | nil => rfl
  | cons l lines ih =>
    have text : (l :: lines).flatMap (fun l => l ++ ['\n']) ++ s =
        l ++ '\n' :: (lines.flatMap (fun l => l ++ ['\n']) ++ s) := by simp
    rw [text, List.splitOn_append_cons_self, ih fun l' hl => free l' (by simp [hl]),
      List.splitOn_eq_singleton (free l (by simp))]
    rfl

/-- What stands before the first head, and each head with what follows it. -/
def groups {α : Type} (isHead : α → Bool) : List α → List α × List (α × List α)
  | [] => ([], [])
  | a :: l =>
    let (body, gs) := groups isHead l
    if isHead a then ([], (a, body) :: gs) else (a :: body, gs)

section Groups

variable {α : Type} {isHead : α → Bool}

/-- Lines that are no heads go to the group before them. -/
theorem groups_append {l : List α} (h : ∀ a ∈ l, isHead a = false) (m : List α) :
    groups isHead (l ++ m) = (l ++ (groups isHead m).1, (groups isHead m).2) := by
  induction l with
  | nil => rfl
  | cons a l ih =>
    have rest := ih fun b hb => h b (by simp [hb])
    simp [groups, rest, h a (by simp)]

theorem groups_head {a : α} (h : isHead a = true) (l : List α) :
    groups isHead (a :: l) = ([], (a, (groups isHead l).1) :: (groups isHead l).2) := by
  simp [groups, h]

end Groups

end Cpp
