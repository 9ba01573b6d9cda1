import Detector.FileRuns

/-!
# After a read problem

`seekg` clears a pending end of file and nothing else, and no function of the two classes ever
calls `clear()`. A stream with `failbit` or `badbit` therefore stays unusable for good, and the
diagnostic counters, which test their streams before `seekg`, do not even get past an end of
file. This module says exactly which objects recover once all files are in order again.
-/
namespace Detector

open Cpp

/-- From now on, as long as all files show numbers, a reset returns, and after a reset every
refresh returns and reports each counter against the latest reset. -/
def Recovers {σ ι : Type} {n : ℕ} (k : FileClass ι n)
    (call : CounterOp × Reads → Method σ Unit) (view : σ → FileCounters ι n) (path : ι → String)
    (o : σ) : Prop :=
  ∀ calls : List (ShownCall ι), (∀ c ∈ calls, c.WellFormed path) →
    ∀ pre c post, calls = pre ++ c :: post →
      (c.op = .reset →
        ∃ t, Eff.Returns (call c.call) (Eff.runs call (pre.map ShownCall.call) o) () t) ∧
      (c.op = .refresh → (∃ r ∈ pre, r.op = .reset) →
        ∃ t, Eff.Returns (call c.call) (Eff.runs call (pre.map ShownCall.call) o) () t ∧
          ∀ v, (view t).counters v = k.report c.number (latestReset pre) v)

namespace FileClass

variable {ι : Type} {n : ℕ} [DecidableEq ι] {k : FileClass ι n} {path : ι → String}
  {s : FileCounters ι n}

/-- A usable object stays usable, and a reset makes it healthy. -/
theorem usable_runs (h : k.Usable path s) (calls : List (ShownCall ι))
    (wf : ∀ c ∈ calls, c.WellFormed path) :
    k.Usable path (Eff.runs k.call (calls.map ShownCall.call) s) ∧
      ((∃ r ∈ calls, r.op = .reset) →
        k.Healthy path (latestReset calls) (Eff.runs k.call (calls.map ShownCall.call) s)) := by
  induction calls using List.reverseRecOn with
  | nil => exact ⟨h, by simp⟩
  | append_singleton pre c ih =>
    obtain ⟨usable, healthy⟩ := ih fun c' hc => wf c' (by simp [hc])
    have shown := wf c (by simp)
    rw [latestReset_concat, List.map_append, List.map_singleton, Eff.runs_concat]
    cases op : c.op with
    | reset =>
      obtain ⟨t, ends, healthy', _⟩ := reset_shown shown op usable
      rw [ends.after_eq]
      exact ⟨healthy'.usable, fun _ => healthy'⟩
    | refresh =>
      refine ⟨refresh_usable shown op usable, ?_⟩
      rintro ⟨r, hr, hop⟩
      have earlier : r ∈ pre := by
        obtain hr | hr := List.mem_append.mp hr
        · exact hr
        · rw [List.mem_singleton.mp hr, op] at hop
          cases hop
      obtain ⟨t, ends, healthy', _⟩ := refresh_shown shown op (healthy ⟨r, earlier, hop⟩)
      rw [ends.after_eq]
      exact healthy'

/-- A refresh of a healthy object reads every stream once. -/
theorem files_after_refresh {base : ι → ℕ} (h : k.Healthy path base s) (io : Reads)
    (i : Fin n) : (Eff.after (k.call (.refresh, io)) s).reader.files i =
      (s.reader.files i).afterRead io 128 := by
  cases FileCounters.refreshWith_ends k.table k.scale io s with
  | done t _ ends effect =>
    rw [FileClass.call, ends.after_eq, effect.files, if_pos (k.table.index_complete i)]
  | stopped t _ b _ _ _ bad =>
    rw [h.good b.2] at bad
    cases bad

/-- A stream that has failed keeps a refresh from returning, also after a reset. -/
theorem readable_of_returns {io io' : Reads} {t u : FileCounters ι n}
    (reset : Eff.Returns (k.call (.reset, io)) s () t)
    (refresh : Eff.Returns (k.call (.refresh, io')) t () u) : Readable s := by
  intro i
  obtain ⟨e, he, rfl⟩ := k.exists_entry i
  cases FileCounters.refreshWith_ends k.table k.scale io' t with
  | stopped _ _ _ _ _ _ _ ends => exact absurd ends refresh.not_throws
  | done _ good =>
    cases FileCounters.resetWith_ends io s k.tested with
    | stopped _ _ _ _ _ _ _ _ ends => exact absurd ends reset.not_throws
    | done t' _ ends effect =>
      obtain ⟨-, rfl⟩ := ends.unique reset
      have now := good e he
      rw [effect.files, if_pos (List.mem_finRange _)] at now
      cases failed : (s.reader.files e.2).state.fail with
      | false => rfl
      | true =>
        rw [InStream.good, InStream.afterRead, IoState.readLine_of_fail failed] at now
        simp [IoState.good] at now

/-- An object that tests its streams resets only when all are good. -/
theorem good_of_returns {io : Reads} {t : FileCounters ι n} (tested : k.tested = true)
    (reset : Eff.Returns (k.call (.reset, io)) s () t) (i : Fin n) :
    (s.reader.files i).good = true := by
  cases FileCounters.resetWith_ends io s k.tested with
  | done _ good => exact good tested i
  | stopped _ _ _ _ _ _ _ _ ends => exact absurd ends reset.not_throws

end FileClass

theorem Implements.recovers_iff {σ ι : Type} {n : ℕ} [DecidableEq ι]
    {k : FileClass ι n} {call : CounterOp × Reads → Method σ Unit} {view : σ → FileCounters ι n}
    {inv : σ → Prop} (h : Implements k call view inv) {o : σ} (ho : inv o) {path : ι → String}
    (placed : k.Placed path (view o)) :
    Recovers k call view path o ↔ k.Usable path (view o) := by
  constructor
  · intro recovers
    let zero (op : CounterOp) : ShownCall ι := ⟨op, everyFileShows 0, fun _ => 0⟩
    have wf : ∀ c ∈ [zero .reset, zero .refresh], c.WellFormed path := by
      simp [zero, everyFileShows_wellFormed]
    obtain ⟨t, reset⟩ := (recovers _ wf [] (zero .reset) [zero .refresh] rfl).1 rfl
    obtain ⟨u, refresh, -⟩ := (recovers _ wf [zero .reset] (zero .refresh) [] rfl).2 rfl
      ⟨zero .reset, by simp, rfl⟩
    have between : Eff.runs call ([zero .reset].map ShownCall.call) o = t := reset.2
    have invT : inv t := by
      rw [← reset.2]
      exact h.keeps _ o ho
    rw [between] at refresh
    have first := h.of_returns ho reset
    exact ⟨placed, FileClass.readable_of_returns first (h.of_returns invT refresh),
      fun tested => FileClass.good_of_returns tested first⟩
  · rintro usable calls wf pre c post rfl
    obtain ⟨invPre, viewPre⟩ := h.runs ho (pre.map ShownCall.call)
    obtain ⟨usable', healthy⟩ := FileClass.usable_runs usable pre fun c' hc => wf c' (by simp [hc])
    have shown := wf c (by simp)
    rw [← viewPre] at usable' healthy
    constructor
    · intro op
      obtain ⟨t, ends, -⟩ := FileClass.reset_shown shown op usable'
      obtain ⟨u, ends', -⟩ := h.returns invPre ends
      exact ⟨u, ends'⟩
    · intro op earlier
      obtain ⟨t, ends, -, value⟩ := FileClass.refresh_shown shown op (healthy earlier)
      obtain ⟨u, ends', rfl⟩ := h.returns invPre ends
      exact ⟨u, ends', value⟩

/-- Whatever happened before, a port recovers exactly when none of its streams has `failbit` or
`badbit`, and a diagnostic counter exactly when none of its streams has any bit. -/
theorem recovers_iff_streams (readable : String → Bool) (deviceName : String)
    (portNum : UInt8) (m m' : ℕ) (calls : List (CounterOp × Reads)) :
    (∀ attributes p,
      Eff.Returns (IbPortCompat.create readable deviceName attributes portNum) m p m' →
        let q := Eff.runs IbPortCompat.call calls p
        Recovers (IbPortCompat.fileClass q.linkWidth) IbPortCompat.call
            IbPortCompat.fileCounters
            (fun v => IbPortCompat.counterPath deviceName portNum ++ IbPortCompat.fileOf v) q ↔
          ∀ i, (q.reader.files i).state.fail = false) ∧
    (∀ o, Eff.Returns (IbDiagPerfCounter.create readable deviceName portNum) m o m' →
        let q := Eff.runs IbDiagPerfCounter.call calls o
        Recovers IbDiagPerfCounter.fileClass IbDiagPerfCounter.call
            IbDiagPerfCounter.toFileCounters
            (fun v => IbDiagPerfCounter.counterPath deviceName portNum ++
              IbDiagPerfCounter.fileOf v) q ↔
          ∀ i, (q.reader.files i).good = true) := by
  constructor
  · intro attributes p h q
    have implements := IbPortCompat.implements p.linkWidth
    have fresh := FileClass.healthy_of_fresh (k := IbPortCompat.fileClass p.linkWidth)
      (IbPortCompat.returns_create h).2
    obtain ⟨width, view⟩ := implements.runs rfl calls
    have placed := FileClass.placed_runs calls fresh.placed
    rw [← view] at placed
    rw [show q.linkWidth = p.linkWidth from width]
    refine (implements.recovers_iff width placed).trans ⟨fun usable => usable.readable, ?_⟩
    exact fun readable => ⟨placed, readable, fun tested => by cases tested⟩
  · intro o h q
    have implements := IbDiagPerfCounter.implements
    have fresh := FileClass.healthy_of_fresh (k := IbDiagPerfCounter.fileClass)
      (IbDiagPerfCounter.returns_create h)
    obtain ⟨-, view⟩ := implements.runs (o := o) trivial calls
    have placed := FileClass.placed_runs calls fresh.placed
    rw [← view] at placed
    refine (implements.recovers_iff trivial placed).trans ⟨fun usable => usable.good rfl, ?_⟩
    exact fun good => ⟨placed, fun i => IoState.fail_of_good (good i), fun _ => good⟩

/-- A file whose line does not end. -/
def unterminated : Reads := fun _ => ⟨true, ['7'], false⟩

/-- A file that shows nothing at all. -/
def empty : Reads := fun _ => ⟨true, [], false⟩

theorem state_afterRead_unterminated {s : InStream} (h : s.good = true) :
    (s.afterRead unterminated 128).state = { eofbit := true } := by
  rw [InStream.afterRead, IoState.readLine_of_not_fail (IoState.fail_of_good h)]
  rfl

theorem state_afterRead_empty {s : InStream} (h : s.good = true) :
    (s.afterRead empty 128).state = { eofbit := true, failbit := true } := by
  rw [InStream.afterRead, IoState.readLine_of_not_fail (IoState.fail_of_good h)]
  rfl

theorem Implements.files_after_refresh {σ ι : Type} {n : ℕ} [DecidableEq ι]
    {k : FileClass ι n} {call : CounterOp × Reads → Method σ Unit} {view : σ → FileCounters ι n}
    {inv : σ → Prop} (h : Implements k call view inv) {o : σ} (ho : inv o) {path : ι → String}
    {base : ι → ℕ} (healthy : k.Healthy path base (view o)) (io : Reads) (i : Fin n) :
    (view (Eff.after (call (.refresh, io)) o)).reader.files i =
      ((view o).reader.files i).afterRead io 128 := by
  rw [Eff.after, h.state _ o ho]
  exact FileClass.files_after_refresh healthy io i

/-- A port gets over an end of file; a diagnostic counter recovers when there was no problem. -/
theorem recovers_iff_streams_unterminated :
    Recovers (IbPortCompat.fileClass 4) IbPortCompat.call IbPortCompat.fileCounters
        (fun v => IbPortCompat.counterPath "mlx5_0" 1 ++ IbPortCompat.fileOf v)
        (Eff.runs IbPortCompat.call [(.refresh, unterminated)]
          (IbPortCompat.opened "mlx5_0" ⟨1, 2⟩ 1)) ∧
      Recovers IbDiagPerfCounter.fileClass IbDiagPerfCounter.call
        IbDiagPerfCounter.toFileCounters
        (fun v => IbDiagPerfCounter.counterPath "mlx5_0" 1 ++ IbDiagPerfCounter.fileOf v)
        (IbDiagPerfCounter.opened "mlx5_0" 1) := by
  constructor
  · refine ((recovers_iff_streams _ _ _ _ _ [(.refresh, unterminated)]).1 _ _
      (IbPortCompat.create_opened "mlx5_0" ⟨1, 2⟩ 1 0)).mpr fun i => ?_
    have healthy := FileClass.healthy_of_fresh (k := IbPortCompat.fileClass 4)
      (IbPortCompat.returns_create (IbPortCompat.create_opened "mlx5_0" ⟨1, 2⟩ 1 0)).2
    have files := (IbPortCompat.implements 4).files_after_refresh rfl healthy unterminated i
    have fail : ((Eff.after (IbPortCompat.call (.refresh, unterminated))
        (IbPortCompat.opened "mlx5_0" ⟨1, 2⟩ 1)).fileCounters.reader.files i).state.fail =
        false := by
      rw [files, state_afterRead_unterminated (healthy.good i)]
      rfl
    exact fail
  · exact ((recovers_iff_streams _ _ _ _ _ []).2 _
      (IbDiagPerfCounter.create_opened "mlx5_0" 1 0)).mpr fun _ => rfl

/-- A port does not recover from one empty read, nor a diagnostic counter from one end of
file. -/
theorem read_problem_stays :
    ¬ Recovers (IbPortCompat.fileClass 4) IbPortCompat.call IbPortCompat.fileCounters
        (fun v => IbPortCompat.counterPath "mlx5_0" 1 ++ IbPortCompat.fileOf v)
        (Eff.after (IbPortCompat.call (.refresh, empty))
          (IbPortCompat.opened "mlx5_0" ⟨1, 2⟩ 1)) ∧
      ¬ Recovers IbDiagPerfCounter.fileClass IbDiagPerfCounter.call
        IbDiagPerfCounter.toFileCounters
        (fun v => IbDiagPerfCounter.counterPath "mlx5_0" 1 ++ IbDiagPerfCounter.fileOf v)
        (Eff.after (IbDiagPerfCounter.call (.refresh, unterminated))
          (IbDiagPerfCounter.opened "mlx5_0" 1)) := by
  constructor
  · have healthy := FileClass.healthy_of_fresh (k := IbPortCompat.fileClass 4)
      (IbPortCompat.returns_create (IbPortCompat.create_opened "mlx5_0" ⟨1, 2⟩ 1 0)).2
    have implements := IbPortCompat.implements 4
    have width := implements.keeps (.refresh, empty) (IbPortCompat.opened "mlx5_0" ⟨1, 2⟩ 1) rfl
    have placed := FileClass.placed_after (.refresh, empty) healthy.placed
    rw [Eff.after, ← implements.state _ _ rfl] at placed
    intro recovers
    have readable := ((implements.recovers_iff width placed).mp recovers).readable 0
    have files := implements.files_after_refresh rfl healthy empty 0
    rw [Eff.after] at files
    rw [files, state_afterRead_empty (healthy.good 0)] at readable
    cases readable
  · have healthy := FileClass.healthy_of_fresh (k := IbDiagPerfCounter.fileClass)
      (IbDiagPerfCounter.returns_create (IbDiagPerfCounter.create_opened "mlx5_0" 1 0))
    have implements := IbDiagPerfCounter.implements
    have placed := FileClass.placed_after (.refresh, unterminated) healthy.placed
    rw [Eff.after, ← implements.state _ _ trivial] at placed
    intro recovers
    have good := ((implements.recovers_iff trivial placed).mp recovers).good rfl 0
    have files := implements.files_after_refresh trivial healthy unterminated 0
    rw [Eff.after] at files
    rw [files, InStream.good, state_afterRead_unterminated (healthy.good 0)] at good
    cases good

end Detector
