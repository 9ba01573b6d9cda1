import Detector.Hardware

/-!
# Two clients of one port

One client holds a MAD port and clears the hardware when it resets, another one holds a
compatibility port and subtracts what it remembers. What the second one reports is what its
`Meter` shows, where the resets of the first client clear the meter. So as long as the hardware
has not fallen behind the remembered base, the report is the difference and does not exceed the
traffic since the second client's reset; after a reset of the first client it may have, and then
the report wraps around.
-/
namespace Detector

open Cpp

/-- The clients of one port, and the counters in its hardware. -/
structure SharedPort where
  mad : IbPort
  compat : IbPortCompat
  hw : HwCounters

/-- Traffic, or a call of one of the two clients. -/
inductive SharedEvent where
  | traffic (d : HwCounters)
  | mad (op : CounterOp) (a : MadAnswers)
  | compat (op : CounterOp) (io : Reads)

namespace SharedPort

/-- One step. A reset of the MAD client clears the hardware. -/
def step (build : Build) (s : SharedPort) : SharedEvent → SharedPort
  | .traffic d => { s with hw := fun v => s.hw v + d v }
  | .mad op a =>
    { s with
      mad := Eff.after (IbPort.call build (op, a)) s.mad
      hw := match op with
        | .reset => fun _ => 0
        | .refresh => s.hw }
  | .compat op io => { s with compat := Eff.after (IbPortCompat.call (op, io)) s.compat }

def run (build : Build) (events : List SharedEvent) (s : SharedPort) : SharedPort :=
  events.foldl (step build) s

/-- The requests of a reset succeed, and the files show the hardware. The refreshes of the MAD
client may fail. -/
def Faithful (s : SharedPort) : SharedEvent → Prop
  | .traffic _ => True
  | .mad .reset a => IbPort.GrantsReset a s.mad
  | .mad .refresh _ => True
  | .compat _ io => IbPortCompat.Shows io s.compat s.hw

/-- Every event of a run is faithful where it happens. -/
def FaithfulRun (build : Build) (s : SharedPort) : List SharedEvent → Prop
  | [] => True
  | e :: events => s.Faithful e ∧ (s.step build e).FaithfulRun build events

end SharedPort

/-! ## The meters -/

/-- What an event does to the meters of the compatibility client. -/
def meterStep (m : PerfVar → Meter) : SharedEvent → PerfVar → Meter
  | .traffic d => fun v => (m v).count (d v)
  | .mad .reset _ => fun v => (m v).clear
  | .compat .reset _ => fun v => (m v).rebase
  | .mad .refresh _ | .compat .refresh _ => m

/-- The meters after some events: the hardware, the base of the compatibility client, and the
traffic since its latest reset, or the initial value and all traffic before the first one. -/
def meters (hw : HwCounters) (events : List SharedEvent) : PerfVar → Meter :=
  events.foldl meterStep fun v => .start (hw v)

/-- Every reset of the MAD client is followed by one of the compatibility client. -/
def Undisturbed (events : List SharedEvent) : Prop :=
  ∀ pre a post, events = pre ++ .mad .reset a :: post → ∃ io, .compat .reset io ∈ post

theorem Undisturbed.of_concat {events : List SharedEvent} {e : SharedEvent}
    (h : Undisturbed (events ++ [e])) (other : ∀ io, e ≠ .compat .reset io) :
    Undisturbed events := by
  rintro pre a post rfl
  obtain ⟨io, found⟩ := h pre a (post ++ [e]) (by simp)
  obtain later | last := List.mem_append.mp found
  · exact ⟨io, later⟩
  · exact absurd (List.mem_singleton.mp last).symm (other io)

theorem undisturbed_meters (hw : HwCounters) {events : List SharedEvent}
    (h : Undisturbed events) (v : PerfVar) : (meters hw events v).Undisturbed := by
  induction events using List.reverseRecOn with
  | nil => exact Meter.undisturbed_start (hw v)
  | append_singleton events e ih =>
    rw [meters, List.foldl_append]
    cases e with
    | traffic d => exact (ih (h.of_concat (by simp))).count (d v)
    | mad op a =>
      cases op with
      | reset =>
        obtain ⟨io, found⟩ := h events a [] rfl
        cases found
      | refresh => exact ih (h.of_concat (by simp))
    | compat op io =>
      cases op with
      | reset => exact Meter.undisturbed_rebase _
      | refresh => exact ih (h.of_concat (by simp))

/-! ## The clients follow the meters -/

/-- The meters describe the hardware and the bases of the compatibility client. -/
structure Tracks (s : SharedPort) (m : PerfVar → Meter) : Prop where
  raw : ∀ v, s.hw v = (m v).raw
  watches : s.compat.Watches fun v => (m v).base
  base_lt : ∀ v, (m v).base < 2 ^ 64
  sound : ∀ v, (m v).Sound

namespace Tracks

variable {build : Build} {s : SharedPort} {m : PerfVar → Meter} {io : Reads}

/-- The compatibility client reports what the meters show. -/
theorem refresh (h : Tracks s m) (shows : IbPortCompat.Shows io s.compat s.hw) :
    ∃ q, Eff.Returns (IbPortCompat.refreshCounters io) s.compat () q ∧
      q.Watches (fun v => (m v).base) ∧
      ∀ v, IbPerfCounter.isData v = false → q.counters v = (m v).shown := by
  obtain ⟨t, ends, watches, value⟩ := IbPortCompat.returns_refresh_shows h.watches shows
  refine ⟨_, ends, watches, fun v data => ?_⟩
  have unscaled : IbPortCompat.width s.compat.linkWidth v = 1 := by
    simp [IbPortCompat.width, data]
  have shown : t.counters v = (m v).shown := by
    rw [value v, h.raw v, unscaled, UInt64.mul_one, Meter.shown]
  exact shown

theorem step (h : Tracks s m) {e : SharedEvent} (faithful : s.Faithful e) :
    Tracks (s.step build e) (meterStep m e) := by
  obtain ⟨raw, watches, base_lt, sound⟩ := h
  cases e with
  | traffic d =>
    exact ⟨fun v => congrArg (· + d v) (raw v), watches, base_lt, fun v => (sound v).count (d v)⟩
  | mad op a =>
    cases op with
    | reset => exact ⟨fun _ => rfl, watches, base_lt, fun v => (m v).sound_clear⟩
    | refresh => exact ⟨raw, watches, base_lt, sound⟩
  | compat op io =>
    cases op with
    | reset =>
      obtain ⟨t, ends, watches'⟩ := IbPortCompat.returns_reset_shows watches faithful
      have bases : s.hw = fun v => (m v).raw := funext raw
      rw [bases] at watches'
      refine ⟨raw, ?_, fun v => ?_, fun v => (m v).sound_rebase⟩
      · rw [SharedPort.step, IbPortCompat.call, ends.after_eq]
        exact watches'
      · have small := (faithful v).1
        rw [raw v] at small
        exact small
    | refresh =>
      obtain ⟨t, ends, watches', -⟩ := IbPortCompat.returns_refresh_shows watches faithful
      refine ⟨raw, ?_, base_lt, sound⟩
      rw [SharedPort.step, IbPortCompat.call, ends.after_eq]
      exact watches'

theorem run (h : Tracks s m) {events rest : List SharedEvent}
    (faithful : s.FaithfulRun build (events ++ rest)) :
    Tracks (s.run build events) (events.foldl meterStep m) ∧
      (s.run build events).FaithfulRun build rest := by
  induction events generalizing s m with
  | nil => exact ⟨h, faithful⟩
  | cons e events ih => exact ih (h.step faithful.1) faithful.2

end Tracks

/-- A compatibility port that was just constructed tracks the meters of the hardware. -/
theorem tracks_of_create {readable : String → Bool} {deviceName : String}
    {attributes : IbvPortAttr} {portNum : UInt8} {m m' : ℕ} {q : IbPortCompat}
    (created : Eff.Returns (IbPortCompat.create readable deviceName attributes portNum) m q m')
    (p : IbPort) (hw : HwCounters) : Tracks ⟨p, q, hw⟩ (meters hw []) where
  raw _ := rfl
  watches := IbPortCompat.watches_of_create created
  base_lt _ := by simp [meters, Meter.start]
  sound v := Meter.sound_start (hw v)

/-! ## What the compatibility client reports -/

/-- In every faithful interleaving, a refresh of the compatibility client returns, and each
counter that is not scaled is at most the traffic since the client's latest reset, as long as
the hardware has not fallen behind the remembered base. That is so in particular when the MAD
client did not reset since, and then the report is that traffic. Otherwise it wraps around. -/
theorem shared_port_reports (build : Build) (p : IbPort) (readable : String → Bool)
    (deviceName : String) (attributes : IbvPortAttr) (portNum : UInt8) (m m' : ℕ)
    (q : IbPortCompat)
    (created : Eff.Returns (IbPortCompat.create readable deviceName attributes portNum) m q m')
    (hw : HwCounters) (events : List SharedEvent)
    (faithful : SharedPort.FaithfulRun build ⟨p, q, hw⟩ events) (pre : List SharedEvent)
    (io : Reads) (post : List SharedEvent)
    (split : events = pre ++ .compat .refresh io :: post) :
    ∃ q', Eff.Returns (IbPortCompat.refreshCounters io)
        (SharedPort.run build pre ⟨p, q, hw⟩).compat () q' ∧
      ∀ v, IbPerfCounter.isData v = false →
        let meter := meters hw pre v
        (meter.base ≤ meter.raw → (q'.counters v).toNat = meter.raw - meter.base ∧
          (q'.counters v).toNat ≤ meter.since) ∧
        (meter.raw < meter.base → (q'.counters v).toNat = 2 ^ 64 - (meter.base - meter.raw)) ∧
        (Undisturbed pre → meter.base ≤ meter.raw ∧ (q'.counters v).toNat = meter.since) := by
  rw [split] at faithful
  obtain ⟨tracks, rest⟩ := (tracks_of_create created p hw).run faithful
  obtain ⟨q', ends, -, value⟩ := tracks.refresh rest.1
  refine ⟨q', ends, fun v data => ?_⟩
  intro meter
  have small : meter.raw < 2 ^ 64 := by
    have bound := (rest.1 v).1
    rwa [tracks.raw v] at bound
  have bounded := (tracks.sound v).sub_le
  rw [value v data]
  refine ⟨fun le => ?_, fun lt => ?_, fun undisturbed => ?_⟩
  · have shown := Meter.toNat_shown_of_le small le
    exact ⟨shown, shown ▸ bounded⟩
  · exact Meter.toNat_shown_of_lt (tracks.base_lt v) lt
  · have exact : meter.raw = meter.base + meter.since := undisturbed_meters hw undisturbed v
    have le : meter.base ≤ meter.raw := by omega
    have shown := Meter.toNat_shown_of_le small le
    refine ⟨le, shown.trans ?_⟩
    omega

/-! ## Examples -/

/-- A port that counted 7, was reset through the files, and counts 5. -/
theorem shared_port_reports_five :
    let p := IbPort.plainPort ibNodeCa 2 0
    let q := IbPortCompat.opened "mlx5_0" ⟨3, 2⟩ 1
    let events := [.traffic fun _ => 7, .compat .reset (everyFileShows 7), .traffic fun _ => 5]
    let s := SharedPort.run ⟨true, .little⟩ events ⟨p, q, fun _ => 0⟩
    ∃ q', Eff.Returns (IbPortCompat.refreshCounters (everyFileShows 12)) s.compat () q' ∧
      q'.getXmitPkts.toNat = 5 := by
  intro p q events s
  have faithful : SharedPort.FaithfulRun ⟨true, .little⟩ ⟨p, q, fun _ => 0⟩
      (events ++ [.compat .refresh (everyFileShows 12)]) :=
    ⟨trivial, IbPortCompat.shows_everyFileShows (fun _ => rfl) (by decide), trivial,
      IbPortCompat.shows_everyFileShows (fun _ => rfl) (by decide), trivial⟩
  obtain ⟨q', ends, value⟩ := shared_port_reports _ p _ _ _ _ _ _ q
    (IbPortCompat.create_opened "mlx5_0" ⟨3, 2⟩ 1 0) (fun _ => 0) _ faithful events _ [] rfl
  exact ⟨q', ends, ((value .xmitPkts rfl).1 (by decide)).1⟩

/-- The compatibility client resets at 100, the MAD client clears the hardware, and without any
traffic the compatibility client reports `2 ^ 64 - 100`. -/
theorem shared_port_wraps :
    let build : Build := ⟨true, .little⟩
    let p := IbPort.plainPort ibNodeCa 2 0
    let q := IbPortCompat.opened "mlx5_0" ⟨3, 2⟩ 1
    let events := [.compat .reset (everyFileShows 100),
      .mad .reset (IbPort.plainDevice ibNodeCa 2 0 0)]
    let s := SharedPort.run build events ⟨p, q, fun _ => 100⟩
    Eff.Returns (IbPort.create build (IbPort.plainDevice ibNodeCa 2 0 0) 3 1) 0 p 1 ∧
      Eff.Returns (IbPortCompat.create (fun _ => true) "mlx5_0" ⟨3, 2⟩ 1) 0 q 0 ∧
      SharedPort.FaithfulRun build ⟨p, q, fun _ => 100⟩
        (events ++ [.compat .refresh (everyFileShows 0)]) ∧
      (meters (fun _ => 100) events .xmitPkts).since = 0 ∧
      ∃ q', Eff.Returns (IbPortCompat.refreshCounters (everyFileShows 0)) s.compat () q' ∧
        q'.getXmitPkts = 18446744073709551516 := by
  intro build p q events s
  have created := IbPortCompat.create_opened "mlx5_0" ⟨3, 2⟩ 1 0
  have faithful : SharedPort.FaithfulRun build ⟨p, q, fun _ => 100⟩
      (events ++ [.compat .refresh (everyFileShows 0)]) :=
    ⟨IbPortCompat.shows_everyFileShows (fun _ => rfl) (by decide), ⟨rfl, rfl⟩,
      IbPortCompat.shows_everyFileShows (fun _ => rfl) (by decide), trivial⟩
  obtain ⟨tracks, rest⟩ := (tracks_of_create created p fun _ => 100).run faithful
  obtain ⟨q', ends, -, value⟩ := tracks.refresh rest.1
  refine ⟨IbPort.create_plainPort build rfl ibNodeCa 2 0 0 0, created, faithful, rfl, q', ends, ?_⟩
  exact value .xmitPkts rfl

end Detector
