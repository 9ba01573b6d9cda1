import Mathlib.Data.List.Sort
import Detector.FileReadings

/-!
# Resets of the base values

A reset records what the files show, one base value after the other. `IbPortCompat` tests no
stream, so it always returns, and records 0 for a file that it cannot read.
`IbDiagPerfCounter` tests each stream before it is read and throws at the first that is not
good, with the base values in front of it already overwritten. So a reset is all or nothing
only where the streams and the files let it be, and the two theorems below say where that is.
-/
namespace Detector

open Cpp

/-- The reset either returns with new base values only, each a number that was read from its own
file during this call, or throws an `IbFileException` and leaves the base values as they were. -/
def AllOrNothing {σ : Type} {n : ℕ} (reset : Method σ Unit) (reader : σ → CounterFiles n)
    (io : Reads) (o : σ) : Prop :=
  (∃ o', Eff.Returns reset o () o' ∧
    ∀ i, ∃ m < 2 ^ 64, ((reader o).files i).Finds io 128 m ∧
      (reader o').baseValues i = UInt64.ofNat m) ∨
  ∃ message o', Eff.Throws reset o (.ibFileException message) o' ∧
    (reader o').baseValues = (reader o).baseValues

/-- The indices in front of an index are the smaller ones. -/
theorem mem_front_iff {n : ℕ} {pre post : List (Fin n)} {b : Fin n}
    (split : List.finRange n = pre ++ b :: post) (i : Fin n) : i ∈ pre ↔ i < b := by
  have sorted := (List.sortedLT_finRange n).pairwise
  rw [split, List.pairwise_append] at sorted
  obtain ⟨-, later, earlier⟩ := sorted
  constructor
  · exact fun hi => earlier i hi b List.mem_cons_self
  · intro lt
    have all : i ∈ pre ++ b :: post := split ▸ List.mem_finRange i
    obtain hi | hi := List.mem_append.mp all
    · exact hi
    · obtain rfl | hi := List.mem_cons.mp hi
      · exact absurd lt (lt_irrefl i)
      · exact absurd lt (lt_asymm ((List.pairwise_cons.mp later).1 i hi))

namespace CounterFiles

variable {n : ℕ}

/-- No stream has failed, and every file shows a number. -/
def EveryFileFound (io : Reads) (s : CounterFiles n) : Prop :=
  ∀ i, ∃ m < 2 ^ 64, (s.files i).Finds io 128 m

/-- The first stream that is not good is number `b`, and the files before it show the base values
that are recorded already. -/
def StopsUnchanged (io : Reads) (s : CounterFiles n) : Prop :=
  ∃ b, (s.files b).good = false ∧
    ∀ i < b, (s.files i).good = true ∧ (io (s.files i).path).value 128 = s.baseValues i

/-- After an interrupted loop the base values are as they were when the files that were read show
them. -/
theorem baseValues_eq_iff {io : Reads} {s t : CounterFiles n} {pre : List (Fin n)}
    (effect : Rebased io pre s t) (good : ∀ i ∈ pre, (s.files i).good = true) :
    t.baseValues = s.baseValues ↔
      ∀ i ∈ pre, (io (s.files i).path).value 128 = s.baseValues i := by
  rw [funext_iff]
  refine forall_congr' fun i => ?_
  rw [effect.baseValues i]
  by_cases hi : i ∈ pre
  · have value := InStream.taken_of_not_fail (IoState.fail_of_good (good i hi)) io 128
    rw [if_pos hi, value]
    exact ⟨fun h _ => h, fun h => h hi⟩
  · rw [if_neg hi]
    exact iff_of_true rfl fun h => absurd h hi

/-- The stream at which the loop stops is the one that `StopsUnchanged` is about. -/
theorem stopsUnchanged_iff {io : Reads} {s : CounterFiles n} {pre post : List (Fin n)} {b : Fin n}
    (split : List.finRange n = pre ++ b :: post) (good : ∀ i ∈ pre, (s.files i).good = true)
    (bad : (s.files b).good = false) :
    s.StopsUnchanged io ↔ ∀ i ∈ pre, (io (s.files i).path).value 128 = s.baseValues i := by
  have front := mem_front_iff split
  constructor
  · rintro ⟨b', bad', before⟩ i hi
    have first : b ≤ b' := by
      by_contra! lt
      rw [good b' ((front b').mpr lt)] at bad'
      cases bad'
    exact (before i (lt_of_lt_of_le ((front i).mp hi) first)).2
  · intro same
    refine ⟨b, bad, fun i hi => ?_⟩
    have before := (front i).mpr hi
    exact ⟨good i before, same i before⟩

end CounterFiles

namespace FileCounters

variable {ι : Type} {n : ℕ} {io : Reads} {s : FileCounters ι n}

/-- Base values that were all recorded are all found when every file is. -/
theorem recorded_iff {t : FileCounters ι n}
    (effect : CounterFiles.Rebased io (List.finRange n) s.reader t.reader) :
    (∀ i, ∃ m < 2 ^ 64, (s.reader.files i).Finds io 128 m ∧
      t.reader.baseValues i = UInt64.ofNat m) ↔ s.reader.EveryFileFound io := by
  refine forall_congr' fun i => exists_congr fun m => and_congr_right fun small => ?_
  have value := effect.baseValues i
  rw [if_pos (List.mem_finRange i)] at value
  rw [value]
  exact and_iff_left_of_imp fun finds => finds.taken small

/-- Without a test the reset returns, so every file must be found. -/
theorem allOrNothing_untested_iff :
    AllOrNothing (resetWith false io) reader io s ↔ s.reader.EveryFileFound io := by
  cases resetWith_ends io s false with
  | done t _ ends effect =>
    rw [← recorded_iff effect]
    constructor
    · rintro (⟨o', ends', found⟩ | ⟨message, o', thrown, -⟩)
      · obtain ⟨-, rfl⟩ := ends.unique ends'
        exact found
      · exact absurd thrown ends.not_throws
    · exact fun found => .inl ⟨t, ends, found⟩
  | stopped _ _ _ _ _ isTested => cases isTested

/-- With the test the reset may also stop, and then must not have changed anything. -/
theorem allOrNothing_tested_iff :
    AllOrNothing (resetWith true io) reader io s ↔
      ((∀ i, (s.reader.files i).good = true) ∧ s.reader.EveryFileFound io) ∨
        s.reader.StopsUnchanged io := by
  cases resetWith_ends io s true with
  | done t good ends effect =>
    rw [← recorded_iff effect]
    constructor
    · rintro (⟨o', ends', found⟩ | ⟨message, o', thrown, -⟩)
      · obtain ⟨-, rfl⟩ := ends.unique ends'
        exact .inl ⟨good rfl, found⟩
      · exact absurd thrown ends.not_throws
    · rintro (⟨-, found⟩ | ⟨b, bad, -⟩)
      · exact .inl ⟨t, ends, found⟩
      · rw [good rfl b] at bad
        cases bad
  | stopped t pre post b split _ good bad ends effect =>
    rw [CounterFiles.stopsUnchanged_iff split good bad,
      ← CounterFiles.baseValues_eq_iff effect good]
    constructor
    · rintro (⟨o', ends', -⟩ | ⟨message, o', thrown, same⟩)
      · exact absurd ends ends'.not_throws
      · obtain rfl : t = o' := ends.2.symm.trans thrown.2
        exact .inr same
    · rintro (⟨allGood, -⟩ | same)
      · rw [allGood b] at bad
        cases bad
      · exact .inr ⟨_, t, ends, same⟩

end FileCounters

/-- A call on a part of the object is all or nothing when the call on the part is. -/
theorem allOrNothing_focus {σ τ : Type} {n : ℕ} {view : τ → σ} {put : τ → σ → τ}
    (put_view : ∀ o s, view (put o s) = s) {reset : Method σ Unit} {reader : σ → CounterFiles n}
    {io : Reads} {o : τ} :
    AllOrNothing (Eff.focus view put reset) (fun o => reader (view o)) io o ↔
      AllOrNothing reset reader io (view o) := by
  unfold AllOrNothing
  simp only [Eff.returns_focus, Eff.throws_focus]
  refine or_congr ?_ (exists_congr fun message => ?_)
  · constructor
    · rintro ⟨_, ⟨s, ends, rfl⟩, found⟩
      rw [put_view] at found
      exact ⟨s, ends, found⟩
    · rintro ⟨s, ends, found⟩
      refine ⟨put o s, ⟨s, ends, rfl⟩, ?_⟩
      rwa [put_view]
  · constructor
    · rintro ⟨_, ⟨s, thrown, rfl⟩, same⟩
      rw [put_view] at same
      exact ⟨s, thrown, same⟩
    · rintro ⟨s, thrown, same⟩
      refine ⟨put o s, ⟨s, thrown, rfl⟩, ?_⟩
      rwa [put_view]

theorem IbPortCompat.allOrNothing_iff {io : Reads} {p : IbPortCompat} :
    AllOrNothing (resetCounters io) reader io p ↔ p.reader.EveryFileFound io :=
  (allOrNothing_focus fileCounters_withFileCounters).trans FileCounters.allOrNothing_untested_iff

theorem IbDiagPerfCounter.allOrNothing_iff {io : Reads} {o : IbDiagPerfCounter} :
    AllOrNothing (resetCounters io) (fun o => o.reader) io o ↔
      ((∀ i, (o.reader.files i).good = true) ∧ o.reader.EveryFileFound io) ∨
        o.reader.StopsUnchanged io :=
  (allOrNothing_focus fun _ _ => rfl).trans FileCounters.allOrNothing_tested_iff

/-- In every state, a reset of a port is all or nothing exactly when no stream has failed and all
files show numbers. That of a diagnostic counter is so when in addition all streams are good,
or when it stops before it records anything new. -/
theorem reset_all_or_nothing_iff (io : Reads) (p : IbPortCompat) (o : IbDiagPerfCounter) :
    (AllOrNothing (IbPortCompat.resetCounters io) (fun p => p.reader) io p ↔
      p.reader.EveryFileFound io) ∧
    (AllOrNothing (IbDiagPerfCounter.resetCounters io) (fun o => o.reader) io o ↔
      ((∀ i, (o.reader.files i).good = true) ∧ o.reader.EveryFileFound io) ∨
        o.reader.StopsUnchanged io) :=
  ⟨IbPortCompat.allOrNothing_iff, IbDiagPerfCounter.allOrNothing_iff⟩

/-- The second file of the device ends without a newline, all files show 0. -/
def secondFileOpenEnded : Reads := fun path =>
  if path = IbDiagPerfCounter.counterPath "mlx5_0" 0 ++ "rq_num_lle" then ⟨true, ['0'], false⟩
  else ⟨true, ['0', '\n'], false⟩

/-- The reset of a port whose files show `N/A` returns with base values 0. The reset of a
diagnostic counter whose second file ended without a newline at the previous reset throws, and
the first base value is a new one. -/
theorem reset_not_all_or_nothing :
    let p := IbPortCompat.opened "mlx5_0" ⟨1, 2⟩ 1
    let o := Eff.after (IbDiagPerfCounter.resetCounters secondFileOpenEnded)
      (IbDiagPerfCounter.opened "mlx5_0" 0)
    ((∃ q, Eff.Returns (IbPortCompat.resetCounters notAvailable) p () q ∧
        q.reader.baseValues 0 = 0) ∧
      ¬ AllOrNothing (IbPortCompat.resetCounters notAvailable) (fun p => p.reader) notAvailable p) ∧
    ¬ AllOrNothing (IbDiagPerfCounter.resetCounters (everyFileShows 1)) (fun o => o.reader)
      (everyFileShows 1) o := by
  intro p o
  refine ⟨⟨?_, fun held => ?_⟩, fun held => ?_⟩
  · cases FileCounters.resetWith_ends notAvailable p.fileCounters false with
    | done t _ ends effect =>
      refine ⟨_, Eff.returns_focus.mpr ⟨t, ends, rfl⟩, ?_⟩
      rw [IbPortCompat.withFileCounters, effect.baseValues 0]
      rfl
    | stopped _ _ _ _ _ isTested => cases isTested
  · obtain ⟨m, small, finds⟩ := IbPortCompat.allOrNothing_iff.mp held 0
    exact not_showsNumber_notAvailable _ ⟨m, small, finds.2⟩
  · have first : (o.reader.files 0).good = true := by decide +kernel
    have second : (o.reader.files 1).good = false := by decide +kernel
    have base : o.reader.baseValues 0 = 0 := by decide +kernel
    obtain ⟨good, -⟩ | ⟨b, bad, before⟩ := IbDiagPerfCounter.allOrNothing_iff.mp held
    · rw [good 1] at second
      cases second
    · by_cases start : b = 0
      · rw [start, first] at bad
        cases bad
      · have recorded := (before 0 (Fin.pos_of_ne_zero start)).2
        rw [base] at recorded
        revert recorded
        decide +kernel

end Detector
