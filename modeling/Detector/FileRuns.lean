import Detector.IbDiagPerfCounter
import Detector.IbPortCompat

/-!
# Runs of file-backed counters

A client resets and refreshes an `IbPortCompat` or an `IbDiagPerfCounter` in any order. The
first part is about any class of file counters: as long as every file shows a number on a line
of its own, no stream ever gets a bad bit, and a refresh reports the number in each counter's
own file minus the number that the latest reset found there. The second part asks what is left
of this when reads failed: which streams stay unusable, and which values are taken from them.
-/
namespace Detector

open Cpp

/-! ## Calls during which the files show numbers -/

/-- A call, and the number that is in the file of each counter during it. -/
structure ShownCall (ι : Type) where
  op : CounterOp
  io : Reads
  number : ι → ℕ

/-- The call without the numbers. -/
def ShownCall.call {ι : Type} (c : ShownCall ι) : CounterOp × Reads := (c.op, c.io)

/-- The files really show these numbers. -/
def ShownCall.WellFormed {ι : Type} (path : ι → String) (c : ShownCall ι) : Prop :=
  ∀ v, c.number v < 2 ^ 64 ∧ (c.io (path v)).Shows (c.number v)

/-- The numbers that the latest reset found, and 0 before the first one. -/
def latestReset {ι : Type} (calls : List (ShownCall ι)) : ι → ℕ :=
  calls.foldl (fun base c => if c.op = .reset then c.number else base) fun _ => 0

@[simp] theorem latestReset_nil {ι : Type} : latestReset ([] : List (ShownCall ι)) = fun _ => 0 :=
  rfl

@[simp] theorem latestReset_concat {ι : Type} (calls : List (ShownCall ι)) (c : ShownCall ι) :
    latestReset (calls ++ [c]) = if c.op = .reset then c.number else latestReset calls := by
  simp [latestReset]

/-! ## Any class of file counters -/

namespace FileClass

section Conditions

variable {ι : Type} {n : ℕ} (k : FileClass ι n) (path : ι → String)

/-- Every index stands in the table. -/
theorem exists_entry (i : Fin n) : ∃ e ∈ k.table.entries, e.2 = i := by
  simpa using k.table.index_complete i

/-- Every variable stands in the table. -/
theorem exists_entry' (v : ι) : ∃ e ∈ k.table.entries, e.1 = v := by
  simpa using k.table.variable_complete v

/-- Under each index of the table is a stream on the file of its variable. -/
def Placed (s : FileCounters ι n) : Prop :=
  ∀ e ∈ k.table.entries, (s.reader.files e.2).path = path e.1

/-- No stream has failed. -/
def Readable (s : FileCounters ι n) : Prop := ∀ i, (s.reader.files i).state.fail = false

/-- A reset will return and read every stream. -/
structure Usable (s : FileCounters ι n) : Prop where
  placed : k.Placed path s
  readable : Readable s
  good : k.tested = true → ∀ i, (s.reader.files i).good = true

/-- Every stream is good, and the base values are known. -/
structure Healthy (base : ι → ℕ) (s : FileCounters ι n) : Prop where
  placed : k.Placed path s
  good : ∀ i, (s.reader.files i).good = true
  baseValues : ∀ e ∈ k.table.entries, s.reader.baseValues e.2 = UInt64.ofNat (base e.1)

/-- The value that a refresh reports. -/
def report (number base : ι → ℕ) (v : ι) : UInt64 :=
  k.scale v (UInt64.ofNat (number v) - UInt64.ofNat (base v))

variable {k path}

theorem Healthy.usable {base : ι → ℕ} {s : FileCounters ι n} (h : k.Healthy path base s) :
    k.Usable path s :=
  ⟨h.placed, fun i => IoState.fail_of_good (h.good i), fun _ => h.good⟩

/-- A fresh object is healthy, with base values 0. -/
theorem healthy_of_fresh {s : FileCounters ι n} (h : s.Fresh k.table path) :
    k.Healthy path (fun _ => 0) s := by
  refine ⟨fun e he => by rw [h.files e he], fun i => ?_, fun e _ => h.baseValues e.2⟩
  obtain ⟨e, he, rfl⟩ := k.exists_entry i
  rw [h.files e he]
  rfl

variable {c : ShownCall ι} {s : FileCounters ι n}

/-- A stream that has not failed is good after it was read. -/
theorem read_shown (wf : c.WellFormed path) (h : k.Usable path s) (i : Fin n) :
    ((s.reader.files i).afterRead c.io 128).good = true := by
  obtain ⟨e, he, rfl⟩ := k.exists_entry i
  obtain ⟨small, shows⟩ := wf e.1
  rw [← h.placed e he] at shows
  rw [InStream.good, InStream.afterRead_of_shows (h.readable e.2) shows small (by decide)]
  rfl

/-- What is taken from such a stream is the number in its file. -/
theorem taken_shown (wf : c.WellFormed path) (h : k.Usable path s) {e : ι × Fin n}
    (he : e ∈ k.table.entries) :
    (s.reader.files e.2).taken c.io 128 = UInt64.ofNat (c.number e.1) := by
  obtain ⟨small, shows⟩ := wf e.1
  rw [← h.placed e he] at shows
  exact InStream.taken_of_shows (h.readable e.2) shows small (by decide)

end Conditions

variable {ι : Type} {n : ℕ} [DecidableEq ι] {k : FileClass ι n} {path : ι → String}
  {s : FileCounters ι n}

/-- A call leaves the streams on their files, whatever the reads do. -/
theorem placed_after (c : CounterOp × Reads) (h : k.Placed path s) :
    k.Placed path (Eff.after (k.call c) s) := by
  intro e he
  rw [← h e he]
  obtain ⟨op, io⟩ := c
  cases op with
  | reset =>
    cases FileCounters.resetWith_ends io s k.tested with
    | done t _ ends effect =>
      rw [FileClass.call, ends.after_eq, effect.files]
      split <;> simp
    | stopped t _ _ _ _ _ _ _ ends effect =>
      rw [FileClass.call, ends.after_eq, effect.files]
      split <;> simp
  | refresh =>
    cases FileCounters.refreshWith_ends k.table k.scale io s with
    | done t _ ends effect =>
      rw [FileClass.call, ends.after_eq, effect.files]
      split <;> simp
    | stopped t _ _ _ _ _ _ ends effect =>
      rw [FileClass.call, ends.after_eq, effect.files]
      split <;> simp

theorem placed_runs (l : List (CounterOp × Reads)) (h : k.Placed path s) :
    k.Placed path (Eff.runs k.call l s) :=
  Eff.runs_invariant h l fun c _ _ => placed_after c

section Shown

variable {c : ShownCall ι}

/-- A reset of a usable object returns and makes it healthy. -/
theorem reset_shown (wf : c.WellFormed path) (op : c.op = .reset) (h : k.Usable path s) :
    ∃ t, Eff.Returns (k.call c.call) s () t ∧ k.Healthy path c.number t ∧
      t.counters = s.counters := by
  have call : k.call c.call = FileCounters.resetWith k.tested c.io := by
    simp [FileClass.call, ShownCall.call, op]
  rw [call]
  cases FileCounters.resetWith_ends c.io s k.tested with
  | done t _ ends effect counters =>
    refine ⟨t, ends, ⟨?_, fun i => ?_, fun e he => ?_⟩, counters⟩
    · rw [← ends.after_eq, ← call]
      exact placed_after c.call h.placed
    · rw [effect.files, if_pos (List.mem_finRange i)]
      exact read_shown wf h i
    · rw [effect.baseValues, if_pos (List.mem_finRange _)]
      exact taken_shown wf h he
  | stopped t pre post b _ isTested _ bad =>
    rw [h.good isTested b] at bad
    cases bad

/-- A refresh of a usable object leaves it usable, and when every stream is good it returns. -/
theorem refresh_usable (wf : c.WellFormed path) (op : c.op = .refresh) (h : k.Usable path s) :
    k.Usable path (Eff.after (k.call c.call) s) := by
  have placed := placed_after c.call h.placed
  have read := read_shown wf h
  have call : k.call c.call = FileCounters.refreshWith k.table k.scale c.io := by
    simp [FileClass.call, ShownCall.call, op]
  rw [call] at placed ⊢
  obtain ⟨t, l, ends, files⟩ : ∃ t l, Eff.after (FileCounters.refreshWith k.table k.scale c.io) s
      = t ∧ ∀ i, t.reader.files i =
        if i ∈ l then (s.reader.files i).afterRead c.io 128 else s.reader.files i := by
    cases FileCounters.refreshWith_ends k.table k.scale c.io s with
    | done t _ ends effect => exact ⟨t, _, ends.after_eq, effect.files⟩
    | stopped t _ _ _ _ _ _ ends effect => exact ⟨t, _, ends.after_eq, effect.files⟩
  rw [ends] at placed ⊢
  refine ⟨placed, fun i => ?_, fun tested i => ?_⟩
  · rw [files]
    split
    · exact IoState.fail_of_good (read i)
    · exact h.readable i
  · rw [files]
    split
    · exact read i
    · exact h.good tested i

/-- A refresh of a healthy object returns, keeps it healthy, and reports every counter. -/
theorem refresh_shown {base : ι → ℕ} (wf : c.WellFormed path) (op : c.op = .refresh)
    (h : k.Healthy path base s) :
    ∃ t, Eff.Returns (k.call c.call) s () t ∧ k.Healthy path base t ∧
      ∀ v, t.counters v = k.report c.number base v := by
  have call : k.call c.call = FileCounters.refreshWith k.table k.scale c.io := by
    simp [FileClass.call, ShownCall.call, op]
  rw [call]
  cases FileCounters.refreshWith_ends k.table k.scale c.io s with
  | done t _ ends effect =>
    refine ⟨t, ends, ⟨?_, fun i => ?_, fun e he => ?_⟩, fun v => ?_⟩
    · rw [← ends.after_eq, ← call]
      exact placed_after c.call h.placed
    · rw [effect.files, if_pos (k.table.index_complete i)]
      exact read_shown wf h.usable i
    · rw [effect.baseValues]
      exact h.baseValues e he
    · obtain ⟨e, he, rfl⟩ := k.exists_entry' v
      rw [effect.assigned e he, taken_shown wf h.usable he, h.baseValues e he, report]
  | stopped t pre b post _ _ bad =>
    rw [h.good b.2] at bad
    cases bad

end Shown

/-- From a fresh object, every list of calls leads to a healthy one. -/
theorem healthy_runs (h : s.Fresh k.table path) (calls : List (ShownCall ι))
    (wf : ∀ c ∈ calls, c.WellFormed path) :
    k.Healthy path (latestReset calls) (Eff.runs k.call (calls.map ShownCall.call) s) := by
  induction calls using List.reverseRecOn with
  | nil => exact healthy_of_fresh h
  | append_singleton pre c ih =>
    have healthy := ih fun c' hc => wf c' (by simp [hc])
    have shown := wf c (by simp)
    rw [latestReset_concat, List.map_append, List.map_singleton, Eff.runs_concat]
    cases op : c.op with
    | reset =>
      obtain ⟨t, ends, healthy', _⟩ := reset_shown shown op healthy.usable
      rw [ends.after_eq]
      exact healthy'
    | refresh =>
      obtain ⟨t, ends, healthy', _⟩ := refresh_shown shown op healthy
      rw [ends.after_eq]
      exact healthy'

end FileClass

/-! ## Objects that behave as a class of file counters -/

/-- The member functions of an object do to the part `view` of it what the class does, as long
as `inv` holds, which they keep. -/
structure Implements {σ ι : Type} {n : ℕ} [DecidableEq ι] (k : FileClass ι n)
    (call : CounterOp × Reads → Method σ Unit) (view : σ → FileCounters ι n)
    (inv : σ → Prop) : Prop where
  result : ∀ c o, inv o → ((call c).run o).result = ((k.call c).run (view o)).result
  state : ∀ c o, inv o → view ((call c).run o).state = ((k.call c).run (view o)).state
  keeps : ∀ c o, inv o → inv ((call c).run o).state

namespace Implements

variable {σ ι : Type} {n : ℕ} [DecidableEq ι] {k : FileClass ι n}
  {call : CounterOp × Reads → Method σ Unit} {view : σ → FileCounters ι n} {inv : σ → Prop}

theorem runs (h : Implements k call view inv) {o : σ} (ho : inv o)
    (l : List (CounterOp × Reads)) :
    inv (Eff.runs call l o) ∧ view (Eff.runs call l o) = Eff.runs k.call l (view o) := by
  refine Eff.runs_related (R := fun u v => inv u ∧ view u = v) ⟨ho, rfl⟩ l ?_
  rintro c u _ _ ⟨hu, rfl⟩
  exact ⟨h.keeps c u hu, h.state c u hu⟩

theorem returns (h : Implements k call view inv) {o : σ} (ho : inv o) {c : CounterOp × Reads}
    {t : FileCounters ι n} (ends : Eff.Returns (k.call c) (view o) () t) :
    ∃ u, Eff.Returns (call c) o () u ∧ view u = t :=
  ⟨_, ⟨(h.result c o ho).trans ends.1, rfl⟩, (h.state c o ho).trans ends.2⟩

theorem of_returns (h : Implements k call view inv) {o u : σ} (ho : inv o)
    {c : CounterOp × Reads} (ends : Eff.Returns (call c) o () u) :
    Eff.Returns (k.call c) (view o) () (view u) :=
  ⟨(h.result c o ho).symm.trans ends.1, by rw [← h.state c o ho, ends.2]⟩

end Implements

theorem IbPortCompat.implements (linkWidth : UInt8) :
    Implements (fileClass linkWidth) call fileCounters fun p => p.linkWidth = linkWidth where
  result c p h := by rw [run_call, h]
  state c p h := by rw [run_call, h, fileCounters_withFileCounters]
  keeps c p h := by rw [run_call, ← h]; rfl

theorem IbDiagPerfCounter.implements :
    Implements fileClass call IbDiagPerfCounter.toFileCounters fun _ => True where
  result c o _ := by rw [run_call]
  state c o _ := by rw [run_call]; rfl
  keeps _ _ _ := trivial

/-! ## Healthy files -/

/-- The reported value `x` is `number` minus `base`, times `width`: modulo `2^64`, and exactly
when the number did not decrease and the product fits. -/
structure Reports (number base : ℕ) (width x : UInt64) : Prop where
  modular : x = (UInt64.ofNat number - UInt64.ofNat base) * width
  exact : base ≤ number → (number - base) * width.toNat < 2 ^ 64 →
    x.toNat = (number - base) * width.toNat

theorem Reports.of_modular {number base : ℕ} {width x : UInt64} (small : number < 2 ^ 64)
    (h : x = (UInt64.ofNat number - UInt64.ofNat base) * width) : Reports number base width x := by
  refine ⟨h, fun le fits => ?_⟩
  have difference : UInt64.ofNat number - UInt64.ofNat base = UInt64.ofNat (number - base) :=
    (UInt64.ofNat_sub le).symm
  have value : (UInt64.ofNat (number - base)).toNat = number - base :=
    UInt64.toNat_ofNat_of_lt (by simp only [UInt64.size]; omega)
  rw [h, difference, UInt64.toNat_mul, value, Nat.mod_eq_of_lt fits]

/-- Of an object that was just constructed: in every list of calls during which the files show
numbers, every call returns with all streams good, and a refresh reports every counter. -/
def ReportsThroughout {σ ι : Type} {n : ℕ} (call : CounterOp × Reads → Method σ Unit)
    (view : σ → FileCounters ι n) (path : ι → String) (width : ι → UInt64) (o : σ) : Prop :=
  ∀ calls : List (ShownCall ι), (∀ c ∈ calls, c.WellFormed path) →
    ∀ pre c post, calls = pre ++ c :: post →
      ∃ t, Eff.Returns (call c.call) (Eff.runs call (pre.map ShownCall.call) o) () t ∧
        (∀ i, ((view t).reader.files i).good = true) ∧
        (c.op = .refresh →
          ∀ v, Reports (c.number v) (latestReset pre v) (width v) ((view t).counters v))

theorem Implements.reportsThroughout {σ ι : Type} {n : ℕ} [DecidableEq ι] {k : FileClass ι n}
    {call : CounterOp × Reads → Method σ Unit} {view : σ → FileCounters ι n} {inv : σ → Prop}
    (h : Implements k call view inv) {o : σ} (ho : inv o) {path : ι → String}
    (fresh : (view o).Fresh k.table path) {width : ι → UInt64}
    (scale : ∀ v x, k.scale v x = x * width v) :
    ReportsThroughout call view path width o := by
  rintro calls wf pre c post rfl
  obtain ⟨invPre, viewPre⟩ := h.runs ho (pre.map ShownCall.call)
  have healthy := FileClass.healthy_runs fresh pre fun c' hc => wf c' (by simp [hc])
  have shown := wf c (by simp)
  rw [← viewPre] at healthy
  cases op : c.op with
  | reset =>
    obtain ⟨t, ends, healthy', _⟩ := FileClass.reset_shown shown op healthy.usable
    obtain ⟨u, ends', rfl⟩ := h.returns invPre ends
    exact ⟨u, ends', healthy'.good, by simp⟩
  | refresh =>
    obtain ⟨t, ends, healthy', value⟩ := FileClass.refresh_shown shown op healthy
    obtain ⟨u, ends', rfl⟩ := h.returns invPre ends
    refine ⟨u, ends', healthy'.good, fun _ v => Reports.of_modular (shown v).1 ?_⟩
    rw [value v, FileClass.report, scale]

/-- The factor of each counter of a port. -/
def IbPortCompat.width (linkWidth : UInt8) (v : PerfVar) : UInt64 :=
  if IbPerfCounter.isData v then linkWidth.toUInt64 else 1

theorem IbPortCompat.scale_eq (linkWidth : UInt8) (v : PerfVar) (x : UInt64) :
    scale linkWidth v x = x * width linkWidth v := by
  cases v <;> simp [scale, width, IbPerfCounter.isData]

/-- The object that the constructor builds for a port when all its files can be opened. -/
def IbPortCompat.opened (deviceName : String) (attributes : IbvPortAttr) (portNum : UInt8) :
    IbPortCompat where
  toIbPort := IbPort.ofAttributes attributes portNum
  deviceName := deviceName
  reader := ⟨CharBuffer.zeroed 128, fun i =>
    ⟨counterPath deviceName portNum ++ fileNames.get (i.cast length_fileNames), true, {}⟩,
    fun _ => 0⟩

theorem IbPortCompat.create_opened (deviceName : String) (attributes : IbvPortAttr)
    (portNum : UInt8) (m : ℕ) :
    Eff.Returns (create (fun _ => true) deviceName attributes portNum) m
      (opened deviceName attributes portNum) m := by
  constructor
  · rfl
  · rfl

/-- The object that the constructor builds for a device or port when all files can be opened. -/
def IbDiagPerfCounter.opened (deviceName : String) (portNumber : UInt8) :
    IbDiagPerfCounter where
  counters := fun _ => 0
  deviceName := deviceName
  portNumber := portNumber
  reader := ⟨CharBuffer.zeroed 128, fun i =>
    ⟨counterPath deviceName portNumber ++ fileNames.get (i.cast length_fileNames), true, {}⟩,
    fun _ => 0⟩

theorem IbDiagPerfCounter.create_opened (deviceName : String) (portNumber : UInt8) (m : ℕ) :
    Eff.Returns (create (fun _ => true) deviceName portNumber) m
      (opened deviceName portNumber) m := by
  constructor
  · rfl
  · rfl

/-- Every file shows the same number. -/
def everyFileShows (m : ℕ) : Reads := fun _ => ⟨true, decimal m ++ ['\n'], false⟩

theorem everyFileShows_wellFormed {ι : Type} (path : ι → String) (op : CounterOp) {m : ℕ}
    (h : m < 2 ^ 64) : (⟨op, everyFileShows m, fun _ => m⟩ : ShownCall ι).WellFormed path :=
  fun _ => ⟨h, rfl, [], rfl⟩

/-- File-backed counters over whole runs: both classes report, in every list of calls during
which their files show numbers, what each counter's own file shows minus what the latest reset
found there. -/
theorem file_counters_report_difference :
    (∀ readable deviceName attributes portNum m p m',
      Eff.Returns (IbPortCompat.create readable deviceName attributes portNum) m p m' →
      ReportsThroughout IbPortCompat.call IbPortCompat.fileCounters
        (fun v => IbPortCompat.counterPath deviceName portNum ++ IbPortCompat.fileOf v)
        (IbPortCompat.width p.linkWidth) p) ∧
    (∀ readable deviceName portNumber m o m',
      Eff.Returns (IbDiagPerfCounter.create readable deviceName portNumber) m o m' →
      ReportsThroughout IbDiagPerfCounter.call IbDiagPerfCounter.toFileCounters
        (fun v => IbDiagPerfCounter.counterPath deviceName portNumber ++
          IbDiagPerfCounter.fileOf v)
        (fun _ => 1) o) := by
  constructor
  · intro readable deviceName attributes portNum m p m' h
    exact (IbPortCompat.implements p.linkWidth).reportsThroughout rfl
      (IbPortCompat.returns_create h).2 (IbPortCompat.scale_eq p.linkWidth)
  · intro readable deviceName portNumber m o m' h
    exact IbDiagPerfCounter.implements.reportsThroughout trivial
      (IbDiagPerfCounter.returns_create h) fun _ x => by simp [IbDiagPerfCounter.fileClass]

/-- A port of width 4 and a device counter whose files showed 5 at the reset and 12 at the
refresh. -/
theorem file_counters_report_difference_five_twelve :
    (∃ t, Eff.Returns (IbPortCompat.call (.refresh, everyFileShows 12))
        (Eff.runs IbPortCompat.call [(.reset, everyFileShows 5)]
          (IbPortCompat.opened "mlx5_0" ⟨1, 2⟩ 1)) () t ∧
      t.getXmitDataBytes = 28 ∧ t.getLinkDownedCounter = 7) ∧
    (∃ t, Eff.Returns (IbDiagPerfCounter.call (.refresh, everyFileShows 12))
        (Eff.runs IbDiagPerfCounter.call [(.reset, everyFileShows 5)]
          (IbDiagPerfCounter.opened "mlx5_0" 0)) () t ∧
      t.counters .lifespan = 7) := by
  constructor
  · obtain ⟨t, ends, -, value⟩ := file_counters_report_difference.1 _ _ _ _ _ _ _
      (IbPortCompat.create_opened "mlx5_0" ⟨1, 2⟩ 1 0)
      [⟨.reset, everyFileShows 5, fun _ => 5⟩, ⟨.refresh, everyFileShows 12, fun _ => 12⟩]
      (by simp [everyFileShows_wellFormed])
      [⟨.reset, everyFileShows 5, fun _ => 5⟩] _ [] rfl
    refine ⟨t, ends, ?_, ?_⟩
    · exact (value rfl .xmitDataBytes).modular
    · exact (value rfl .linkDowned).modular
  · obtain ⟨t, ends, -, value⟩ := file_counters_report_difference.2 _ _ _ _ _ _
      (IbDiagPerfCounter.create_opened "mlx5_0" 0 0)
      [⟨.reset, everyFileShows 5, fun _ => 5⟩, ⟨.refresh, everyFileShows 12, fun _ => 12⟩]
      (by simp [everyFileShows_wellFormed])
      [⟨.reset, everyFileShows 5, fun _ => 5⟩] _ [] rfl
    exact ⟨t, ends, (value rfl .lifespan).modular⟩

end Detector
