import Mathlib.Data.List.Nodup
import Detector.Library.Decimal
import Detector.Library.OutStream

/-!
# Reports of labelled numbers

A report is a fixed sequence of labelled numbers, each the decimal text of one value of an
assignment, with text behind it and line ends. A reader that knows a label looks for the last
line that starts with it and reads the number behind it.

## Main definitions

* `Report` — the sequence, with what makes its lines tell their labels apart.
* `Report.render` — the text for an assignment of values.
* `readBack` — the number that a text shows behind a label.

## Main results

* `Report.readBack_render` — behind the label of an item stands the value of its source.
* `Report.render_inj` — the text says just the values of the sources.
-/
namespace Cpp

variable {ι : Type*}

/-- The characters of a string literal, found when it is elaborated: nothing has to decode it. -/
def chars (s : String) {l : List Char} (_ : s = String.ofList l) : List Char := l

example (s : String) {l : List Char} (h : s = String.ofList l) : chars s h = s.toList := by
  rw [chars, h, String.toList_ofList]

/-- One item of a report: the label, the variable whose number is written behind it, the text behind
the number and the line ends after it. -/
structure Item (ι : Type*) where
  label : List Char
  source : ι
  unit : List Char
  newlines : ℕ

namespace Item

def line (value : ι → UInt64) (x : Item ι) : List Char :=
  x.label ++ (decimal (value x.source).toNat ++ x.unit)

def render (value : ι → UInt64) (x : Item ι) : List Char :=
  x.line value ++ List.replicate x.newlines '\n'

end Item

/-- What stands before the first colon. -/
def beforeColon (s : List Char) : List Char := s.takeWhile (· != ':')

/-- Each item starts its line with a label that has a colon and no newline, the number is
followed by no further digit, every item but the last ends its line, and the lines are told
apart by what stands before the first colon. -/
def Legible (items : List (Item ι)) : Prop :=
  (∀ x ∈ items, ':' ∈ x.label ∧ '\n' ∉ x.label ∧ '\n' ∉ x.unit ∧
    x.unit.takeWhile Char.isDigit = []) ∧
  (items.map fun x => beforeColon x.label).Nodup ∧
  ∀ x ∈ items.dropLast, 0 < x.newlines

instance (items : List (Item ι)) : Decidable (Legible items) :=
  inferInstanceAs (Decidable (_ ∧ _ ∧ _))

/-- A legible sequence of items. -/
structure Report (ι : Type*) where
  items : List (Item ι)
  legible : Legible items

/-- The lines of a text that start with a label. -/
def linesWith (label : List Char) (text : List Char) : List (List Char) :=
  (text.splitOn '\n').filter (label.isPrefixOf ·)

/-- The number behind a label, in the last line that starts with it. -/
def readBack (label : List Char) (text : List Char) : Option UInt64 :=
  (linesWith label text).getLast?.map fun line => strtoull (line.drop label.length)

/-! ## Lines that start with a label -/

theorem linesWith_newline (label : List Char) (s t : List Char) :
    linesWith label (s ++ '\n' :: t) = linesWith label s ++ linesWith label t := by
  unfold linesWith
  rw [List.splitOn_append_cons_self, List.filter_append]

theorem linesWith_line {s : List Char} (label : List Char) (h : '\n' ∉ s) :
    linesWith label s = [s].filter (label.isPrefixOf ·) := by
  unfold linesWith
  rw [List.splitOn_eq_singleton h]

theorem linesWith_nil {label : List Char} (h : label ≠ []) : linesWith label [] = [] := by
  obtain ⟨c, s, text⟩ := List.exists_cons_of_ne_nil h
  simp [linesWith, text]

theorem linesWith_replicate {label : List Char} (h : label ≠ []) (n : ℕ) (t : List Char) :
    linesWith label (List.replicate n '\n' ++ t) = linesWith label t := by
  induction n with
  | zero => rfl
  | succ n ih =>
    have next := linesWith_newline label [] (List.replicate n '\n' ++ t)
    rw [linesWith_nil h, ih] at next
    exact next

/-- A text with a colon in it decides what stands before the first colon of every text that starts
with it. -/
theorem beforeColon_append {s : List Char} (h : ':' ∈ s) (t : List Char) :
    beforeColon (s ++ t) = beforeColon s := by
  have stops : (s.takeWhile (· != ':')).length ≠ s.length := by
    intro same
    have whole := (List.takeWhile_prefix (l := s) (· != ':')).eq_of_length same
    have free := List.takeWhile_eq_self_iff.mp whole ':' h
    simp at free
  unfold beforeColon
  rw [List.takeWhile_append, if_neg stops]

namespace Report

theorem colon_mem (r : Report ι) {x : Item ι} (hx : x ∈ r.items) : ':' ∈ x.label :=
  (r.legible.1 x hx).1

/-- The text for an assignment of values. -/
def render (r : Report ι) (value : ι → UInt64) : List Char :=
  r.items.flatMap (Item.render value)

theorem newline_notMem_line {r : Report ι} (value : ι → UInt64) {x : Item ι}
    (hx : x ∈ r.items) : '\n' ∉ x.line value := by
  obtain ⟨-, inLabel, inUnit, -⟩ := r.legible.1 x hx
  have inNumber : '\n' ∉ decimal (value x.source).toNat := fun h =>
    ne_of_mem_decimal h (by decide) rfl
  simp [Item.line, inLabel, inUnit, inNumber]

/-- Only the line of a item starts with its label. -/
theorem eq_of_prefix_line (r : Report ι) (value : ι → UInt64) {x y : Item ι}
    (hx : x ∈ r.items) (hy : y ∈ r.items)
    (h : x.label.isPrefixOf (y.line value) = true) : y = x := by
  obtain ⟨t, starts⟩ := List.isPrefixOf_iff_prefix.mp h
  apply List.inj_on_of_nodup_map r.legible.2.1 hy hx
  calc beforeColon y.label
      = beforeColon (y.line value) := (beforeColon_append (r.colon_mem hy) _).symm
    _ = beforeColon (x.label ++ t) := by rw [starts]
    _ = beforeColon x.label := beforeColon_append (r.colon_mem hx) _

/-- An item gives the text one line, whatever the label that is looked for. -/
theorem linesWith_render {label : List Char} (h : label ≠ []) {value : ι → UInt64}
    {x : Item ι} (free : '\n' ∉ x.line value) {t : List Char} (ends : 0 < x.newlines ∨ t = []) :
    linesWith label (x.render value ++ t) =
      [x.line value].filter (label.isPrefixOf ·) ++ linesWith label t := by
  unfold Item.render
  cases newlines : x.newlines with
  | zero =>
    obtain rfl : t = [] := by grind
    simp [linesWith_line label free, linesWith_nil h]
  | succ n =>
    have first := linesWith_newline label (x.line value) (List.replicate n '\n' ++ t)
    rw [linesWith_line label free, linesWith_replicate h] at first
    rw [List.append_assoc]
    exact first

/-- So the lines of a text that start with a label are lines of its items. -/
theorem linesWith_flatMap {label : List Char} (h : label ≠ []) (value : ι → UInt64)
    (items : List (Item ι)) (free : ∀ x ∈ items, '\n' ∉ x.line value)
    (separated : ∀ x ∈ items.dropLast, 0 < x.newlines) :
    linesWith label (items.flatMap (Item.render value)) =
      (items.map (Item.line value)).filter (label.isPrefixOf ·) := by
  induction items with
  | nil => exact linesWith_nil h
  | cons x items ih =>
    have ends : 0 < x.newlines ∨ items.flatMap (Item.render value) = [] := by
      cases items with
      | nil => exact .inr rfl
      | cons y items => exact .inl (separated x (by simp))
    have rest : ∀ y ∈ items.dropLast, 0 < y.newlines := by
      intro y hy
      cases items with
      | nil => simp at hy
      | cons y' items => exact separated y (List.mem_cons_of_mem x hy)
    rw [List.flatMap_cons, linesWith_render h (free x (by simp)) ends,
      ih (fun y hy => free y (by simp [hy])) rest, ← List.filter_append]
    rfl

/-- The one line of a report that starts with the label of an item is the line of the item. -/
theorem getLast?_linesWith (r : Report ι) (value : ι → UInt64) {x : Item ι} (hx : x ∈ r.items) :
    (linesWith x.label (r.render value)).getLast? = some (x.line value) := by
  have label : x.label ≠ [] := List.ne_nil_of_mem (r.colon_mem hx)
  have lines : linesWith x.label (r.render value) =
      (r.items.map (Item.line value)).filter (x.label.isPrefixOf ·) :=
    linesWith_flatMap label value r.items (fun y => r.newline_notMem_line value) r.legible.2.2
  have own : x.line value ∈ linesWith x.label (r.render value) := by
    rw [lines, List.mem_filter]
    exact ⟨List.mem_map_of_mem hx, List.isPrefixOf_iff_prefix.mpr (List.prefix_append _ _)⟩
  have only : ∀ s ∈ linesWith x.label (r.render value), s = x.line value := by
    intro s hs
    rw [lines, List.mem_filter] at hs
    obtain ⟨y, hy, rfl⟩ := List.mem_map.mp hs.1
    rw [r.eq_of_prefix_line value hx hy hs.2]
  rw [List.getLast?_eq_some_getLast (List.ne_nil_of_mem own)]
  exact congrArg some (only _ (List.getLast_mem _))

/-- Behind the label of an item stands the value of its source, whatever lines stand before the
report. -/
theorem readBack_render (r : Report ι) (value : ι → UInt64) {x : Item ι} (hx : x ∈ r.items)
    {header : List Char} (closed : header = [] ∨ ∃ s, header = s ++ ['\n']) :
    readBack x.label (header ++ r.render value) = some (value x.source) := by
  have above : ∃ l, linesWith x.label (header ++ r.render value) =
      l ++ linesWith x.label (r.render value) := by
    obtain rfl | ⟨s, rfl⟩ := closed
    · exact ⟨[], rfl⟩
    · refine ⟨linesWith x.label s, ?_⟩
      rw [← linesWith_newline, List.append_assoc, List.singleton_append]
  have last : (linesWith x.label (header ++ r.render value)).getLast? = some (x.line value) := by
    obtain ⟨l, split⟩ := above
    rw [split, List.getLast?_append, r.getLast?_linesWith value hx, Option.some_or]
  have number : strtoull ((x.line value).drop x.label.length) = value x.source := by
    rw [Item.line, List.drop_left,
      strtoull_decimal_append (value x.source).toNat_lt (r.legible.1 x hx).2.2.2,
      UInt64.ofNat_toNat]
  rw [readBack, last, Option.map_some, number]

/-- Two texts of a report are the same just when the values of its sources are. -/
theorem render_inj (r : Report ι) (value value' : ι → UInt64) :
    r.render value = r.render value' ↔ ∀ x ∈ r.items, value x.source = value' x.source := by
  constructor
  · intro same x hx
    have read := r.readBack_render value hx (.inl rfl)
    rw [same, r.readBack_render value' hx (.inl rfl)] at read
    exact (Option.some.inj read).symm
  · intro agree
    have pieces : ∀ x ∈ r.items, x.render value = x.render value' := fun x hx => by
      rw [Item.render, Item.render, Item.line, Item.line, agree x hx]
    exact List.flatMap_congr pieces

end Report

/-! ## Into a stream -/

/-- `os << "label" << value << "unit" << std::endl`, with the line ends of the item. -/
def Item.writeTo (value : ι → UInt64) (os : OutStream) (x : Item ι) : OutStream :=
  (os.put x.label |>.number (value x.source).toNat |>.put x.unit).put
    (List.replicate x.newlines '\n')

/-- `os << o`, for the items one after the other. -/
def Report.writeTo (r : Report ι) (value : ι → UInt64) (os : OutStream) : OutStream :=
  r.items.foldl (Item.writeTo value) os

/-- What is written into a stream in decimal is the text. -/
theorem Report.inserts_writeTo (r : Report ι) (value : ι → UInt64) :
    OutStream.Inserts (r.writeTo value) (r.render value) := by
  refine OutStream.inserts_foldl (fun x t => ?_) r.items
  simp [Item.writeTo, Item.render, Item.line, OutStream.put, OutStream.number, NumBase.digits,
    NumBase.radix, decimal]

end Cpp
