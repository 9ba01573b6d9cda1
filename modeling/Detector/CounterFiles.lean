import Mathlib.Data.List.FinRange
import Detector.Basic
import Detector.Library.Loop
import Detector.Library.Run

/-!
# Counters that are read from files

`IbPortCompat` and `IbDiagPerfCounter` read their counters from an array of file streams, one
stream for each counter, through one shared buffer, and subtract a base value from each. Their
`ReadCounter` is the same function, their `RefreshCounters` are the same loop over two tables,
and their `ResetCounters` differ in one test. This module has the common code; what an outer
object looks like is left open.
-/
namespace Detector

open Cpp

/-- What the files show during one call of a member function, by path. -/
abbrev Reads := String → Read

/-- The members `buffer`, `files` and `baseValues`. -/
structure CounterFiles (n : ℕ) where
  buffer : CharBuffer 128
  files : Fin n → InStream
  baseValues : Fin n → UInt64

namespace CounterFiles

variable {n : ℕ}

/-- `if(!files[i].good()) throw IbFileException("Unable to read file!");` -/
def ensureGood (i : Fin n) : Method (CounterFiles n) Unit := do
  let s ← Eff.get
  Eff.ensure (s.files i).good (.ibFileException "Unable to read file!")

/-- `files[i].seekg(0, std::ios::beg); files[i].getline(buffer, sizeof(buffer));` -/
def readLine (io : Reads) (i : Fin n) : Method (CounterFiles n) Unit :=
  Eff.modify fun s =>
    { s with
      files := Function.update s.files i ((s.files i).afterRead io 128)
      buffer := s.buffer.store ((s.files i).state.readLine (io (s.files i).path) 128).2 }

/-- `ReadCounter`. The stream is tested before it is read, not after. -/
def readCounter (io : Reads) (i : Fin n) : Method (CounterFiles n) UInt64 := do
  Eff.modify fun s => { s with buffer := CharBuffer.zeroed 128 }
  ensureGood i
  readLine io i
  let s ← Eff.get
  return strtoull s.buffer.cstr - s.baseValues i

/-- The body of the loop in `ResetCounters`; the diagnostic counters test the stream first. -/
def recordBase (tested : Bool) (io : Reads) (i : Fin n) : Method (CounterFiles n) Unit := do
  if tested then ensureGood i
  readLine io i
  Eff.modify fun s =>
    { s with baseValues := Function.update s.baseValues i (strtoull s.buffer.cstr) }

/-- `ResetCounters`, as a loop over all indices. -/
def recordBases (tested : Bool) (io : Reads) : Method (CounterFiles n) Unit :=
  (List.finRange n).forM (recordBase tested io)

end CounterFiles

/-- The counter variables of an object together with its files. -/
structure FileCounters (ι : Type) (n : ℕ) where
  counters : ι → UInt64
  reader : CounterFiles n

/-- The assignments of a `RefreshCounters`, in the order in which they stand: the variable
and the index that is passed to `ReadCounter`. -/
structure CounterTable (ι : Type) (n : ℕ) where
  entries : List (ι × Fin n)
  index_nodup : (entries.map Prod.snd).Nodup
  variable_nodup : (entries.map Prod.fst).Nodup
  variable_complete : ∀ v, v ∈ entries.map Prod.fst
  index_complete : ∀ i, i ∈ entries.map Prod.snd

namespace FileCounters

variable {ι : Type} {n : ℕ} [DecidableEq ι]

/-- `variable = scale(ReadCounter(index));` -/
def assign (scale : ι → UInt64 → UInt64) (io : Reads) (e : ι × Fin n) :
    Method (FileCounters ι n) Unit := do
  let x ← Eff.focus reader (fun s r => { s with reader := r }) (CounterFiles.readCounter io e.2)
  Eff.modify fun s => { s with counters := Function.update s.counters e.1 (scale e.1 x) }

/-- `RefreshCounters`. -/
def refreshWith (table : CounterTable ι n) (scale : ι → UInt64 → UInt64) (io : Reads) :
    Method (FileCounters ι n) Unit :=
  table.entries.forM (assign scale io)

/-- `ResetCounters`. -/
def resetWith (tested : Bool) (io : Reads) : Method (FileCounters ι n) Unit :=
  Eff.focus reader (fun s r => { s with reader := r }) (CounterFiles.recordBases tested io)

end FileCounters

/-- The state that a constructor leaves: zeros, and under each index of the table a stream on
the file of its variable. -/
structure FileCounters.Fresh {ι : Type} {n : ℕ} (table : CounterTable ι n) (path : ι → String)
    (s : FileCounters ι n) : Prop where
  counters : ∀ v, s.counters v = 0
  files : ∀ e ∈ table.entries, s.reader.files e.2 = ⟨path e.1, true, {}⟩
  baseValues : ∀ i, s.reader.baseValues i = 0

/-- The two member functions that a client calls. -/
inductive CounterOp where
  | reset | refresh
  deriving DecidableEq

/-- What a class of file-backed counters adds to the common code. -/
structure FileClass (ι : Type) (n : ℕ) where
  table : CounterTable ι n
  scale : ι → UInt64 → UInt64
  tested : Bool

/-- A call, with what the files show during it. -/
def FileClass.call {ι : Type} {n : ℕ} [DecidableEq ι] (k : FileClass ι n)
    (c : CounterOp × Reads) : Method (FileCounters ι n) Unit :=
  match c.1 with
  | .reset => FileCounters.resetWith k.tested c.2
  | .refresh => FileCounters.refreshWith k.table k.scale c.2

/-! ## What the calls do -/

namespace CounterFiles

variable {n : ℕ}

/-- The state that `readLine` leaves. -/
def touched (io : Reads) (s : CounterFiles n) (i : Fin n) : CounterFiles n :=
  { s with
    files := Function.update s.files i ((s.files i).afterRead io 128)
    buffer := s.buffer.store ((s.files i).state.readLine (io (s.files i).path) 128).2 }

/-- After a read, the buffer holds the value taken from the stream. -/
theorem strtoull_touched (io : Reads) (s : CounterFiles n) (i : Fin n) :
    strtoull (s.touched io i).buffer.cstr = (s.files i).taken io 128 := by
  rw [touched, InStream.taken, CharBuffer.cstr_store _ (IoState.length_readLine_lt (by decide) ..)]

/-- Reading through a cleared buffer. -/
def counted (io : Reads) (s : CounterFiles n) (i : Fin n) : CounterFiles n :=
  { s with buffer := CharBuffer.zeroed 128 : CounterFiles n }.touched io i

theorem run_readCounter_good (io : Reads) {s : CounterFiles n} {i : Fin n}
    (h : (s.files i).good = true) : (readCounter io i).run s =
      ⟨.ok ((s.files i).taken io 128 - s.baseValues i), s.counted io i, []⟩ := by
  have value := strtoull_touched io { s with buffer := CharBuffer.zeroed 128 : CounterFiles n } i
  simp only [touched] at value
  simp [readCounter, ensureGood, readLine, h, value, counted, touched]

theorem run_readCounter_bad (io : Reads) {s : CounterFiles n} {i : Fin n}
    (h : (s.files i).good = false) : (readCounter io i).run s =
      ⟨.error (.ibFileException "Unable to read file!"),
        { s with buffer := CharBuffer.zeroed 128 }, []⟩ := by
  simp [readCounter, ensureGood, h]

/-- The state that an iteration of `ResetCounters` leaves. -/
def recorded (io : Reads) (s : CounterFiles n) (i : Fin n) : CounterFiles n :=
  { s.touched io i with
    baseValues := Function.update s.baseValues i ((s.files i).taken io 128) }

theorem run_recordBase_good (tested : Bool) (io : Reads) {s : CounterFiles n} {i : Fin n}
    (h : (!tested || (s.files i).good) = true) :
    (recordBase tested io i).run s = ⟨.ok (), s.recorded io i, []⟩ := by
  have value := strtoull_touched io s i
  simp only [touched] at value
  cases tested with
  | false => simp [recordBase, readLine, value, recorded, touched]
  | true =>
    have hg : (s.files i).good = true := by simpa using h
    simp [recordBase, ensureGood, readLine, hg, value, recorded, touched]

theorem run_recordBase_bad (tested : Bool) (io : Reads) {s : CounterFiles n} {i : Fin n}
    (h : (!tested || (s.files i).good) = false) : (recordBase tested io i).run s =
      ⟨.error (.ibFileException "Unable to read file!"), s, []⟩ := by
  obtain ⟨ht, hg⟩ : tested = true ∧ (s.files i).good = false := by simpa using h
  simp [recordBase, ensureGood, ht, hg]

/-- The effect of an interval of iterations of `ResetCounters`: the indices in `l` have a new
base value, and all else is as it was. -/
structure Rebased (io : Reads) (l : List (Fin n)) (s t : CounterFiles n) : Prop where
  files : ∀ i, t.files i = if i ∈ l then (s.files i).afterRead io 128 else s.files i
  baseValues : ∀ i, t.baseValues i =
    if i ∈ l then (s.files i).taken io 128 else s.baseValues i

theorem rebased_foldl (io : Reads) (l : List (Fin n)) (hl : l.Nodup) (s : CounterFiles n) :
    Rebased io l s (l.foldl (recorded io) s) := by
  induction l generalizing s with
  | nil => exact ⟨by simp, by simp⟩
  | cons a l ih =>
    obtain ⟨ha, hl⟩ := List.nodup_cons.mp hl
    obtain ⟨files, bases⟩ := ih hl (s.recorded io a)
    refine ⟨fun i => ?_, fun i => ?_⟩
    · rw [List.foldl_cons, files]
      by_cases hi : i = a
      · subst hi; simp [ha, recorded, touched]
      · simp [hi, recorded, touched]
    · rw [List.foldl_cons, bases]
      by_cases hi : i = a
      · subst hi; simp [ha, recorded]
      · simp [hi, recorded, touched]

theorem guardsKept_recordBase (tested : Bool) (io : Reads) (l : List (Fin n)) (hl : l.Nodup) :
    Eff.GuardsKept (fun (s : CounterFiles n) i => !tested || (s.files i).good)
      (recorded io) l := by
  refine List.Pairwise.imp ?_ hl
  intro a b hab s
  simp [recorded, touched, Ne.symm hab]

/-- `ResetCounters` returns when it does not test the streams or finds them all good, and then
every base value is new. -/
theorem recordBases_ok (tested : Bool) (io : Reads) (s : CounterFiles n)
    (h : tested = true → ∀ i, (s.files i).good = true) :
    ∃ t, (recordBases tested io).run s = ⟨.ok (), t, []⟩ ∧
      Rebased io (List.finRange n) s t := by
  have hl := List.nodup_finRange n
  refine ⟨_, Eff.run_forM_ok (fun s a => run_recordBase_good tested io) _
    (guardsKept_recordBase tested io _ hl) s ?_, rebased_foldl io _ hl s⟩
  intro i _
  cases tested with
  | false => rfl
  | true => simpa using h rfl i

/-- `ResetCounters` throws at the first stream that it tests and finds not good. -/
theorem recordBases_error (tested : Bool) (io : Reads) (s : CounterFiles n)
    {pre post : List (Fin n)} {b : Fin n} (split : List.finRange n = pre ++ b :: post)
    (hpre : ∀ a ∈ pre, (!tested || (s.files a).good) = true)
    (hb : (!tested || (s.files b).good) = false) :
    ∃ t, (recordBases tested io).run s =
        ⟨.error (.ibFileException "Unable to read file!"), t, []⟩ ∧ Rebased io pre s t := by
  have hl := List.nodup_finRange n
  have kept := guardsKept_recordBase tested io _ hl
  rw [split] at hl kept
  refine ⟨pre.foldl (recorded io) s, ?_, rebased_foldl io _ (List.nodup_append.mp hl).1 s⟩
  rw [recordBases, split]
  exact Eff.run_forM_error (fun s _ => s) (fun s a => run_recordBase_good tested io)
    (fun s a => run_recordBase_bad tested io) pre b post kept s hpre hb

end CounterFiles

namespace FileCounters

variable {ι : Type} {n : ℕ} [DecidableEq ι]

/-- The state that one assignment leaves. -/
def assigned (scale : ι → UInt64 → UInt64) (io : Reads) (s : FileCounters ι n)
    (e : ι × Fin n) : FileCounters ι n where
  counters := Function.update s.counters e.1
    (scale e.1 ((s.reader.files e.2).taken io 128 - s.reader.baseValues e.2))
  reader := s.reader.counted io e.2

/-- The state that a `ReadCounter` leaves when it throws. -/
def cleared (s : FileCounters ι n) : FileCounters ι n :=
  ⟨s.counters, ⟨CharBuffer.zeroed 128, s.reader.files, s.reader.baseValues⟩⟩

theorem run_assign_good (scale : ι → UInt64 → UInt64) (io : Reads) (s : FileCounters ι n)
    (e : ι × Fin n) (h : (s.reader.files e.2).good = true) :
    (assign scale io e).run s = ⟨.ok (), s.assigned scale io e, []⟩ := by
  simp [assign, CounterFiles.run_readCounter_good io h, assigned]

theorem run_assign_bad (scale : ι → UInt64 → UInt64) (io : Reads) (s : FileCounters ι n)
    (e : ι × Fin n) (h : (s.reader.files e.2).good = false) : (assign scale io e).run s =
      ⟨.error (.ibFileException "Unable to read file!"), s.cleared, []⟩ := by
  simp [assign, CounterFiles.run_readCounter_bad io h, cleared]

/-- The effect of the assignments in `l`: their variables hold what was read for them minus
the base value, and all other variables, streams and base values are as they were. -/
structure Refreshed (scale : ι → UInt64 → UInt64) (io : Reads) (l : List (ι × Fin n))
    (s t : FileCounters ι n) : Prop where
  assigned : ∀ e ∈ l, t.counters e.1 =
    scale e.1 ((s.reader.files e.2).taken io 128 - s.reader.baseValues e.2)
  kept : ∀ v, v ∉ l.map Prod.fst → t.counters v = s.counters v
  files : ∀ i, t.reader.files i =
    if i ∈ l.map Prod.snd then (s.reader.files i).afterRead io 128 else s.reader.files i
  baseValues : t.reader.baseValues = s.reader.baseValues

theorem refreshed_foldl (scale : ι → UInt64 → UInt64) (io : Reads) (l : List (ι × Fin n))
    (hv : (l.map Prod.fst).Nodup) (hi : (l.map Prod.snd).Nodup) (s : FileCounters ι n) :
    Refreshed scale io l s (l.foldl (assigned scale io) s) := by
  induction l generalizing s with
  | nil => exact ⟨by simp, by simp, by simp, rfl⟩
  | cons a l ih =>
    obtain ⟨av, hv⟩ := List.nodup_cons.mp hv
    obtain ⟨ai, hi⟩ := List.nodup_cons.mp hi
    obtain ⟨value, kept, files, bases⟩ := ih hv hi (s.assigned scale io a)
    have same : ∀ i, i ≠ a.2 →
        (s.assigned scale io a).reader.files i = s.reader.files i := fun i h => by
      simp [FileCounters.assigned, CounterFiles.counted, CounterFiles.touched, h]
    refine ⟨?_, ?_, ?_, bases⟩
    · intro e he
      rcases List.mem_cons.mp he with rfl | he
      · rw [List.foldl_cons, kept _ av]
        simp [FileCounters.assigned]
      · have apart : e.2 ≠ a.2 := fun h => ai (h ▸ List.mem_map_of_mem he)
        rw [List.foldl_cons, value e he, same _ apart]
        rfl
    · intro v hv'
      obtain ⟨va, vl⟩ : v ≠ a.1 ∧ v ∉ l.map Prod.fst := by simpa using hv'
      rw [List.foldl_cons, kept v vl]
      simp [FileCounters.assigned, va]
    · intro i
      rw [List.foldl_cons, files i]
      by_cases h : i = a.2
      · subst h
        rw [if_neg ai, if_pos (by simp)]
        simp [FileCounters.assigned, CounterFiles.counted, CounterFiles.touched]
      · simp only [same i h, List.map_cons, List.mem_cons, h, false_or]

theorem guardsKept_assign (scale : ι → UInt64 → UInt64) (io : Reads) (l : List (ι × Fin n))
    (hi : (l.map Prod.snd).Nodup) :
    Eff.GuardsKept (fun (s : FileCounters ι n) e => (s.reader.files e.2).good)
      (assigned scale io) l := by
  refine List.Pairwise.imp ?_ (List.pairwise_map.mp hi)
  intro a b hab s
  simp [assigned, CounterFiles.counted, CounterFiles.touched, Ne.symm hab]

variable (table : CounterTable ι n) (scale : ι → UInt64 → UInt64) (io : Reads)
  (s : FileCounters ι n)

/-- `RefreshCounters` returns when it finds every stream good. -/
theorem refreshWith_ok (h : ∀ e ∈ table.entries, (s.reader.files e.2).good = true) :
    ∃ t, (refreshWith table scale io).run s = ⟨.ok (), t, []⟩ ∧
      Refreshed scale io table.entries s t :=
  ⟨_, Eff.run_forM_ok (run_assign_good scale io) _
    (guardsKept_assign scale io _ table.index_nodup) s h,
    refreshed_foldl scale io _ table.variable_nodup table.index_nodup s⟩

/-- `RefreshCounters` throws at the first stream that is not good, with the assignments before
it made. -/
theorem refreshWith_error {pre post : List (ι × Fin n)} {b : ι × Fin n}
    (split : table.entries = pre ++ b :: post)
    (hpre : ∀ e ∈ pre, (s.reader.files e.2).good = true)
    (hb : (s.reader.files b.2).good = false) :
    ∃ t, (refreshWith table scale io).run s =
        ⟨.error (.ibFileException "Unable to read file!"), t, []⟩ ∧
      Refreshed scale io pre s t := by
  have kept := guardsKept_assign scale io _ table.index_nodup
  have hv := table.variable_nodup
  have hi := table.index_nodup
  rw [split] at kept hv hi
  rw [List.map_append] at hv hi
  obtain ⟨value, same, files, bases⟩ := refreshed_foldl scale io pre
    (List.nodup_append.mp hv).1 (List.nodup_append.mp hi).1 s
  refine ⟨(pre.foldl (FileCounters.assigned scale io) s).cleared, ?_,
    ⟨value, same, files, bases⟩⟩
  rw [refreshWith, split]
  exact Eff.run_forM_error (fun s _ => s.cleared) (run_assign_good scale io)
    (run_assign_bad scale io) pre b post kept s hpre hb

/-- How a refresh can end. -/
inductive RefreshEnds : Prop where
  | done (t : FileCounters ι n) (good : ∀ e ∈ table.entries, (s.reader.files e.2).good = true)
      (ends : Eff.Returns (refreshWith table scale io) s () t)
      (effect : Refreshed scale io table.entries s t)
  | stopped (t : FileCounters ι n) (pre : List (ι × Fin n)) (b : ι × Fin n)
      (post : List (ι × Fin n)) (split : table.entries = pre ++ b :: post)
      (good : ∀ e ∈ pre, (s.reader.files e.2).good = true)
      (bad : (s.reader.files b.2).good = false)
      (ends : Eff.Throws (refreshWith table scale io) s
        (.ibFileException "Unable to read file!") t)
      (effect : Refreshed scale io pre s t)

theorem refreshWith_ends : RefreshEnds table scale io s := by
  obtain h | ⟨pre, b, post, split, hpre, hb⟩ :=
    forall_or_first (fun e => (s.reader.files e.2).good) table.entries
  · obtain ⟨t, run, effect⟩ := refreshWith_ok table scale io s h
    exact .done t h ⟨by rw [run], by rw [run]⟩ effect
  · obtain ⟨t, run, effect⟩ := refreshWith_error table scale io s split hpre hb
    exact .stopped t pre b post split hpre hb ⟨by rw [run], by rw [run]⟩ effect

/-- How a reset can end. The counter variables are never touched. -/
inductive ResetEnds (tested : Bool) : Prop where
  | done (t : FileCounters ι n)
      (good : tested = true → ∀ i, (s.reader.files i).good = true)
      (ends : Eff.Returns (resetWith tested io) s () t)
      (effect : CounterFiles.Rebased io (List.finRange n) s.reader t.reader)
      (counters : t.counters = s.counters)
  | stopped (t : FileCounters ι n) (pre post : List (Fin n)) (b : Fin n)
      (split : List.finRange n = pre ++ b :: post) (isTested : tested = true)
      (good : ∀ i ∈ pre, (s.reader.files i).good = true)
      (bad : (s.reader.files b).good = false)
      (ends : Eff.Throws (resetWith tested io) s (.ibFileException "Unable to read file!") t)
      (effect : CounterFiles.Rebased io pre s.reader t.reader)
      (counters : t.counters = s.counters)

omit [DecidableEq ι] in
theorem resetWith_ends (tested : Bool) : ResetEnds io s tested := by
  obtain h | ⟨pre, b, post, split, hpre, hb⟩ :=
    forall_or_first (fun i => !tested || (s.reader.files i).good) (List.finRange n)
  · have good : tested = true → ∀ i, (s.reader.files i).good = true := by
      rintro rfl i
      simpa using h i (List.mem_finRange i)
    obtain ⟨r, run, effect⟩ := CounterFiles.recordBases_ok tested io s.reader good
    exact .done ⟨s.counters, r⟩ good ⟨by simp [resetWith, run], by simp [resetWith, run]⟩ effect rfl
  · obtain ⟨r, run, effect⟩ := CounterFiles.recordBases_error tested io s.reader split hpre hb
    obtain ⟨isTested, bad⟩ : tested = true ∧ (s.reader.files b).good = false := by simpa using hb
    refine .stopped ⟨s.counters, r⟩ pre post b split isTested (fun i hi => ?_) bad
      ⟨by simp [resetWith, run], by simp [resetWith, run]⟩ effect rfl
    simpa [isTested] using hpre i hi

end FileCounters

end Detector
