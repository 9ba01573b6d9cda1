import Detector.FileRuns

/-!
# Which readings become counter values

`ReadCounter` tests its stream before it reads it and never looks at what was read. This module
says what follows: a refresh stores something for every counter up to the first stream that was
not good before the call, whether or not the file showed a number.
-/
namespace Detector

open Cpp

namespace FileCounters

variable {ι : Type} {n : ℕ} [DecidableEq ι] {table : CounterTable ι n}
  {scale : ι → UInt64 → UInt64} {io : Reads} {s : FileCounters ι n}

/-- The statement of `RefreshCounters` that assigns the variable of the entry is executed to its
end: the statements up to and including it run without a throw. -/
def Assigns (table : CounterTable ι n) (scale : ι → UInt64 → UInt64) (io : Reads)
    (s : FileCounters ι n) (e : ι × Fin n) : Prop :=
  ∃ pre post, table.entries = pre ++ e :: post ∧
    ∃ t, Eff.Returns ((pre ++ [e]).forM (assign scale io)) s () t

/-- That is so when all streams up to the entry's own are good before the call. -/
theorem assigns_iff {e : ι × Fin n} : Assigns table scale io s e ↔
    ∃ pre post, table.entries = pre ++ e :: post ∧
      ∀ e' ∈ pre ++ [e], (s.reader.files e'.2).good = true := by
  refine exists_congr fun pre => exists_congr fun post => and_congr_right fun split => ?_
  have index := table.index_nodup
  rw [split, ← List.singleton_append, ← List.append_assoc, List.map_append] at index
  have kept := guardsKept_assign scale io _ (List.nodup_append.mp index).1
  constructor
  · rintro ⟨t, ends⟩
    obtain good | ⟨pre', b, post', hsplit, hpre, hb⟩ :=
      forall_or_first (fun e' => (s.reader.files e'.2).good) (pre ++ [e])
    · exact good
    · rw [hsplit] at ends kept
      have run := Eff.run_forM_error (fun s _ => s.cleared) (run_assign_good scale io)
        (run_assign_bad scale io) pre' b post' kept s hpre hb
      rw [Eff.Returns, run] at ends
      cases ends.1
  · intro good
    have run := Eff.run_forM_ok (run_assign_good scale io) _ kept s good
    exact ⟨_, by rw [run], rfl⟩

/-- What is assigned is the value taken from the file minus the base value. -/
theorem Assigns.value {e : ι × Fin n} (h : Assigns table scale io s e) :
    (Eff.after (refreshWith table scale io) s).counters e.1 =
      scale e.1 ((io (s.reader.files e.2).path).value 128 - s.reader.baseValues e.2) := by
  obtain ⟨pre, post, split, good⟩ := assigns_iff.mp h
  have own : (s.reader.files e.2).good = true := good e (by simp)
  have clean := InStream.taken_of_not_fail (IoState.fail_of_good own) io 128
  cases refreshWith_ends table scale io s with
  | done t _ ends effect =>
    rw [ends.after_eq, effect.assigned e (by simp [split]), clean]
  | stopped t pre' b post' split' _ bad ends effect =>
    have before : e ∈ pre' := by
      obtain h | rfl | h := split_cases (split.symm.trans split')
      · exact h
      · rw [own] at bad
        cases bad
      · rw [good b (by simp [h])] at bad
        cases bad
    rw [ends.after_eq, effect.assigned e before, clean]

end FileCounters

/-- The line that is read is the decimal text of a number below `2^64`, and reading it did not
fail. -/
def ShowsNumber (r : Read) : Prop := ∃ m < 2 ^ 64, r.Plain 128 m

/-- Nothing but numbers that are really present in the files becomes a counter value: where a
file shows no number, the refresh throws and does not assign the counter, and what it assigns
is a number from the file minus the base value. -/
structure OnlyNumbersStored {σ ι : Type} {n : ℕ} [DecidableEq ι] (k : FileClass ι n)
    (call : CounterOp × Reads → Method σ Unit) (view : σ → FileCounters ι n) (path : ι → String)
    (io : Reads) (o : σ) : Prop where
  refused : ∀ e ∈ k.table.entries, ¬ ShowsNumber (io (path e.1)) →
    (∃ message u, Eff.Throws (call (.refresh, io)) o (.ibFileException message) u) ∧
      ¬ FileCounters.Assigns k.table k.scale io (view o) e
  stored : ∀ e ∈ k.table.entries, FileCounters.Assigns k.table k.scale io (view o) e →
    ∃ m < 2 ^ 64, (io (path e.1)).Plain 128 m ∧
      (view (Eff.after (call (.refresh, io)) o)).counters e.1 =
        k.scale e.1 (UInt64.ofNat m - (view o).reader.baseValues e.2)

/-- Every counter whose own stream and whose predecessors' streams are good before the call
finds a number. -/
def NumbersUpToBadStream {ι : Type} {n : ℕ} (table : CounterTable ι n) (path : ι → String)
    (io : Reads) (s : FileCounters ι n) : Prop :=
  ∀ pre e post, table.entries = pre ++ e :: post →
    (∀ e' ∈ pre ++ [e], (s.reader.files e'.2).good = true) → ShowsNumber (io (path e.1))

theorem Implements.onlyNumbersStored_iff {σ ι : Type} {n : ℕ} [DecidableEq ι]
    {k : FileClass ι n} {call : CounterOp × Reads → Method σ Unit} {view : σ → FileCounters ι n}
    {inv : σ → Prop} (h : Implements k call view inv) {o : σ} (ho : inv o) {path : ι → String}
    (placed : k.Placed path (view o)) (io : Reads) :
    OnlyNumbersStored k call view path io o ↔
      NumbersUpToBadStream k.table path io (view o) := by
  constructor
  · intro only pre e post split good
    have assigns : FileCounters.Assigns k.table k.scale io (view o) e :=
      FileCounters.assigns_iff.mpr ⟨pre, post, split, good⟩
    obtain ⟨m, small, plain, -⟩ := only.stored e (by simp [split]) assigns
    exact ⟨m, small, plain⟩
  · intro numbers
    constructor
    · intro e he unread
      have notAssigned : ¬ FileCounters.Assigns k.table k.scale io (view o) e := by
        intro assigns
        obtain ⟨pre, post, split, good⟩ := FileCounters.assigns_iff.mp assigns
        exact unread (numbers pre e post split good)
      refine ⟨?_, notAssigned⟩
      cases FileCounters.refreshWith_ends k.table k.scale io (view o) with
      | done t good =>
        obtain ⟨pre, post, split⟩ := List.append_of_mem he
        exact absurd (numbers pre e post split fun e' he' => good e' (by
          rw [split]; simp at he' ⊢; tauto)) unread
      | stopped t _ _ _ _ _ _ ends =>
        exact ⟨_, _, (h.result (.refresh, io) o ho).trans ends.1, rfl⟩
    · intro e he assigns
      obtain ⟨pre, post, split, good⟩ := FileCounters.assigns_iff.mp assigns
      obtain ⟨m, small, plain⟩ := numbers pre e post split good
      have value := assigns.value
      rw [placed e he, plain.value small] at value
      exact ⟨m, small, plain, by rw [← value, Eff.after, h.state (.refresh, io) o ho]; rfl⟩

/-- In every state that calls with any outcomes lead to, a refresh stores nothing but numbers
from the files exactly when every counter that it reads, up to the first stream that is not
good, finds a number. -/
theorem only_numbers_stored_iff (readable : String → Bool) (deviceName : String)
    (portNum : UInt8) (m m' : ℕ) (calls : List (CounterOp × Reads)) (io : Reads) :
    (∀ attributes p,
      Eff.Returns (IbPortCompat.create readable deviceName attributes portNum) m p m' →
        let path := fun v =>
          IbPortCompat.counterPath deviceName portNum ++ IbPortCompat.fileOf v
        let q := Eff.runs IbPortCompat.call calls p
        OnlyNumbersStored (IbPortCompat.fileClass q.linkWidth) IbPortCompat.call
            IbPortCompat.fileCounters path io q ↔
          NumbersUpToBadStream IbPortCompat.table path io q.fileCounters) ∧
    (∀ o, Eff.Returns (IbDiagPerfCounter.create readable deviceName portNum) m o m' →
        let path := fun v =>
          IbDiagPerfCounter.counterPath deviceName portNum ++ IbDiagPerfCounter.fileOf v
        let q := Eff.runs IbDiagPerfCounter.call calls o
        OnlyNumbersStored IbDiagPerfCounter.fileClass IbDiagPerfCounter.call
            IbDiagPerfCounter.toFileCounters path io q ↔
          NumbersUpToBadStream IbDiagPerfCounter.table path io q.toFileCounters) := by
  constructor
  · intro attributes p h path q
    have implements := IbPortCompat.implements p.linkWidth
    have fresh := FileClass.healthy_of_fresh (k := IbPortCompat.fileClass p.linkWidth)
      (IbPortCompat.returns_create h).2
    obtain ⟨width, view⟩ := implements.runs rfl calls
    have placed := FileClass.placed_runs calls fresh.placed
    rw [← view] at placed
    rw [show q.linkWidth = p.linkWidth from width]
    exact implements.onlyNumbersStored_iff width placed io
  · intro o h path q
    have implements := IbDiagPerfCounter.implements
    have fresh := FileClass.healthy_of_fresh (k := IbDiagPerfCounter.fileClass)
      (IbDiagPerfCounter.returns_create h)
    obtain ⟨-, view⟩ := implements.runs (o := o) trivial calls
    have placed := FileClass.placed_runs calls fresh.placed
    rw [← view] at placed
    exact implements.onlyNumbersStored_iff trivial placed io

theorem showsNumber_everyFileShows {m : ℕ} (h : m < 2 ^ 64) (path : String) :
    ShowsNumber (everyFileShows m path) :=
  ⟨m, h, Read.Shows.plain ⟨rfl, [], rfl⟩ h (by decide)⟩

/-- Fresh objects whose files show 12 store nothing else. -/
theorem only_numbers_stored_twelve :
    OnlyNumbersStored (IbPortCompat.fileClass 4) IbPortCompat.call IbPortCompat.fileCounters
        (fun v => IbPortCompat.counterPath "mlx5_0" 1 ++ IbPortCompat.fileOf v)
        (everyFileShows 12) (IbPortCompat.opened "mlx5_0" ⟨1, 2⟩ 1) ∧
      OnlyNumbersStored IbDiagPerfCounter.fileClass IbDiagPerfCounter.call
        IbDiagPerfCounter.toFileCounters
        (fun v => IbDiagPerfCounter.counterPath "mlx5_0" 0 ++ IbDiagPerfCounter.fileOf v)
        (everyFileShows 12) (IbDiagPerfCounter.opened "mlx5_0" 0) := by
  constructor
  · exact ((only_numbers_stored_iff _ _ _ _ _ [] (everyFileShows 12)).1 _ _
      (IbPortCompat.create_opened "mlx5_0" ⟨1, 2⟩ 1 0)).mpr
      fun _ _ _ _ _ => showsNumber_everyFileShows (by decide) _
  · exact ((only_numbers_stored_iff _ _ _ _ _ [] (everyFileShows 12)).2 _
      (IbDiagPerfCounter.create_opened "mlx5_0" 0 0)).mpr
      fun _ _ _ _ _ => showsNumber_everyFileShows (by decide) _

/-- A file without a number. -/
def notAvailable : Reads := fun _ => ⟨true, "N/A\n".toList, false⟩

theorem not_showsNumber_notAvailable (path : String) : ¬ ShowsNumber (notAvailable path) := by
  rintro ⟨m, -, -, line⟩
  have text : (({} : IoState).readLine (notAvailable path) 128).2 = "N/A".toList := by rfl
  rw [text] at line
  have digit : ('N' : Char).isDigit := isDigit_of_mem_decimal (n := m) (by simp [← line])
  exact absurd digit (by decide)

theorem value_notAvailable (path : String) : (notAvailable path).value 128 = 0 := by rfl

/-- A port whose files showed 5 at the reset and show `N/A` now: the refresh returns, and the
first counter is 0 - 5, times the link width. -/
theorem port_stores_not_available :
    let p := Eff.runs IbPortCompat.call [(.reset, everyFileShows 5)]
      (IbPortCompat.opened "mlx5_0" ⟨1, 2⟩ 1)
    ¬ OnlyNumbersStored (IbPortCompat.fileClass p.linkWidth) IbPortCompat.call
        IbPortCompat.fileCounters
        (fun v => IbPortCompat.counterPath "mlx5_0" 1 ++ IbPortCompat.fileOf v)
        notAvailable p ∧
      ∃ q, Eff.Returns (IbPortCompat.call (.refresh, notAvailable)) p () q ∧
        q.getXmitDataBytes = 18446744073709551596 := by
  intro p
  have implements := IbPortCompat.implements 4
  have fresh := (IbPortCompat.returns_create (IbPortCompat.create_opened "mlx5_0" ⟨1, 2⟩ 1 0)).2
  obtain ⟨width, view⟩ := implements.runs (o := IbPortCompat.opened "mlx5_0" ⟨1, 2⟩ 1) rfl
    [(.reset, everyFileShows 5)]
  have healthy := FileClass.healthy_runs (k := IbPortCompat.fileClass 4) fresh
    [⟨.reset, everyFileShows 5, fun _ => 5⟩] (by simp [everyFileShows_wellFormed])
  rw [List.map_singleton, ShownCall.call, ← view] at healthy
  have assigns : FileCounters.Assigns IbPortCompat.table (IbPortCompat.scale 4) notAvailable
      p.fileCounters (.xmitDataBytes, 0) :=
    FileCounters.assigns_iff.mpr ⟨[], _, rfl, fun e _ => healthy.good e.2⟩
  constructor
  · intro only
    rw [show p.linkWidth = 4 from width] at only
    obtain ⟨m, small, plain, -⟩ := only.stored _ (by decide) assigns
    exact not_showsNumber_notAvailable _ ⟨m, small, plain⟩
  · cases FileCounters.refreshWith_ends IbPortCompat.table (IbPortCompat.scale 4) notAvailable
      p.fileCounters with
    | done t _ ends =>
      obtain ⟨q, ends', rfl⟩ := implements.returns (c := (.refresh, notAvailable)) width ends
      refine ⟨q, ends', ?_⟩
      have value := assigns.value
      rw [ends.after_eq, healthy.baseValues _ (by decide), value_notAvailable] at value
      exact value
    | stopped t _ b _ _ _ bad =>
      rw [healthy.good b.2] at bad
      cases bad

end Detector
