import Detector.FileRuns
import Detector.Library.Meter
import Detector.MadRuns

/-!
# The counters of the hardware

A port of an adapter counts 21 things. A MAD port sees these counters in the fields of reply
buffers, a compatibility port in files. This module says what it means that replies or files
show the counters, and what the calls of the two kinds of ports then do.
-/
namespace Detector

open Cpp

/-- The values of the counters in the hardware of one port. -/
abbrev HwCounters := PerfVar → ℕ

/-- The counter that a 64-bit field of `PortCountersExtended` holds. -/
def extCounter : MadField → Option PerfVar
  | .pcExtXmtBytes => some .xmitDataBytes
  | .pcExtRcvBytes => some .rcvDataBytes
  | .pcExtXmtPkts => some .xmitPkts
  | .pcExtRcvPkts => some .rcvPkts
  | .pcExtXmtUpkts => some .unicastXmitPkts
  | .pcExtRcvUpkts => some .unicastRcvPkts
  | .pcExtXmtMpkts => some .multicastXmitPkts
  | .pcExtRcvMpkts => some .multicastRcvPkts
  | .pcExtErrRcv => some .rcvErrors
  | .pcExtErrPhysrcv => some .rcvRemotePhysicalErrors
  | .pcExtErrSwitchRel => some .rcvSwitchRelayErrors
  | .pcExtXmtDiscards => some .xmitDiscards
  | .pcExtErrXmtconstr => some .xmitConstraintErrors
  | .pcExtErrRcvconstr => some .rcvConstraintErrors
  | .pcExtErrLocalinteg => some .localLinkIntegrityErrors
  | .pcExtErrExcessOvr => some .excessiveBufferOverrunErrors
  | .pcExtXmtWait => some .xmitWait
  | _ => none

/-- The counter that a field of `PortCounters` holds. -/
def counter : MadField → Option PerfVar
  | .pcErrRcv => some .rcvErrors
  | .pcErrPhysrcv => some .rcvRemotePhysicalErrors
  | .pcErrSwitchRel => some .rcvSwitchRelayErrors
  | .pcXmtDiscards => some .xmitDiscards
  | .pcErrXmtconstr => some .xmitConstraintErrors
  | .pcErrRcvconstr => some .rcvConstraintErrors
  | .pcErrLocalinteg => some .localLinkIntegrityErrors
  | .pcErrExcessOvr => some .excessiveBufferOverrunErrors
  | .pcXmtWait => some .xmitWait
  | .pcErrSym => some .symbolErrors
  | .pcLinkDowned => some .linkDowned
  | .pcLinkRecovers => some .linkRecoveries
  | .pcVl15Dropped => some .vl15Dropped
  | _ => none

/-! ## Through replies -/

namespace IbPort

/-- All optional counters are supported, and the port is not that of a switch. -/
structure FullyCapable (p : IbPort) : Prop where
  extendedWidth : p.isExtendedWidthSupported = true
  additional : p.isAdditionalExtendedPortCountersSupported = true
  xmitWait : p.isXmitWaitSupported = true
  notSwitch : p.nodeType ≠ ibNodeSwitch

/-- The queries of a refresh succeed, and the fields of their replies hold the counters, none
of which is too large for its field. -/
structure Shows (build : Build) (a : MadAnswers) (p : IbPort) (h : HwCounters) (r : Replies) :
    Prop where
  answers : Answers build a p r
  ext : ∀ f v, extCounter f = some v → (r.ext.decode64 f).toNat = h v
  errors : p.usesExtErrors build = false →
    ∀ f v, counter f = some v → (r.errors.decode32 f).toNat = h v
  rest : ∀ f v, counter f = some v → (r.rest.decode32 f).toNat = h v

/-- Both requests of a reset succeed. -/
def GrantsReset (a : MadAnswers) (p : IbPort) : Prop :=
  a.reset p.portId p.portNum 0xffffffff .gsiPortCounters = true ∧
    a.reset p.portId p.portNum 0xffffffff .gsiPortCountersExt = true

theorem eq_ofNat_of_toNat {x : UInt64} {m : ℕ} (h : x.toNat = m) : x = UInt64.ofNat m := by
  rw [← h, UInt64.ofNat_toNat]

theorem toUInt64_eq_ofNat_of_toNat {x : UInt32} {m : ℕ} (h : x.toNat = m) :
    x.toUInt64 = UInt64.ofNat m :=
  eq_ofNat_of_toNat ((UInt32.toNat_toUInt64 x).trans h)

variable {build : Build} {a : MadAnswers} {p₀ p : IbPort} {h : HwCounters} {r : Replies}

/-- The variables of a capable port are the counters, the data counters times the width. -/
theorem reading_of_shows (capable : p.FullyCapable) (shows : Shows build a p h r)
    (v : PerfVar) :
    reading build p r v = UInt64.ofNat (h v) * IbPortCompat.width p.linkWidth v := by
  obtain ⟨extendedWidth, -, xmitWait, notSwitch⟩ := capable
  have ext : ∀ f v, extCounter f = some v → r.ext.decode64 f = UInt64.ofNat (h v) :=
    fun f v hf => eq_ofNat_of_toNat (shows.ext f v hf)
  have cast : ∀ f v, extCounter f = some v → reading.cast p r f = UInt64.ofNat (h v) :=
    fun f v hf => (if_pos extendedWidth).trans (ext f v hf)
  have error : ∀ f f' v, extCounter f = some v → counter f' = some v →
      reading.error build p r f f' = UInt64.ofNat (h v) := by
    intro f f' v hf hf'
    cases path : p.usesExtErrors build with
    | true => simp only [reading.error, path, if_true, ext f v hf]
    | false =>
      have errors := toUInt64_eq_ofNat_of_toNat (shows.errors path f' v hf')
      simp only [reading.error, path, Bool.false_eq_true, if_false, errors]
  have rest : ∀ f v, counter f = some v → (r.rest.decode32 f).toUInt64 = UInt64.ofNat (h v) :=
    fun f v hf => toUInt64_eq_ofNat_of_toNat (shows.rest f v hf)
  have unscaled : ∀ {x v}, IbPerfCounter.isData v = false → x = UInt64.ofNat (h v) →
      x = UInt64.ofNat (h v) * IbPortCompat.width p.linkWidth v := by
    intro x v data hx
    rw [hx, IbPortCompat.width, data]
    exact (UInt64.mul_one _).symm
  cases v with
  | xmitDataBytes => exact congrArg (· * p.linkWidth.toUInt64) (ext _ _ rfl)
  | rcvDataBytes =>
    exact congrArg (· * p.linkWidth.toUInt64) ((if_neg notSwitch).trans (ext _ _ rfl))
  | xmitPkts | rcvPkts => exact unscaled rfl (ext _ _ rfl)
  | unicastXmitPkts | unicastRcvPkts | multicastXmitPkts | multicastRcvPkts =>
    exact unscaled rfl (cast _ _ rfl)
  | symbolErrors | linkDowned | linkRecoveries | vl15Dropped => exact unscaled rfl (rest _ _ rfl)
  | xmitWait => exact unscaled rfl ((if_pos xmitWait).trans (error _ _ _ rfl rfl))
  | rcvErrors | rcvRemotePhysicalErrors | rcvSwitchRelayErrors | xmitDiscards
  | xmitConstraintErrors | rcvConstraintErrors | localLinkIntegrityErrors
  | excessiveBufferOverrunErrors => exact unscaled rfl (error _ _ _ rfl rfl)

/-- The values that a port of this width shows. -/
def shown (linkWidth : UInt8) (h : HwCounters) : PerfCounters := fun v =>
  UInt64.ofNat (h v) * IbPortCompat.width linkWidth v

/-- A refresh of a capable port returns, and then the port shows the counters. -/
theorem returns_refresh_shows (settled : Settled p₀ p) (capable : p₀.FullyCapable)
    (shows : Shows build a p h r) : Eff.Returns (refreshCounters build a) p ()
      (p₀.withCounters (shown p₀.linkWidth h)) := by
  have final := settled.refreshedTo_three build r
  obtain ⟨c, rfl, -⟩ := settled
  have same : Shows build a p₀ h r :=
    ⟨⟨shows.answers.ext, shows.answers.errors, shows.answers.rest⟩, shows.ext, shows.errors,
      shows.rest⟩
  have value : reading build p₀ r = shown p₀.linkWidth h :=
    funext (reading_of_shows capable same)
  rw [← value, ← final]
  exact returns_refreshCounters_iff.mpr ⟨r, shows.answers, rfl⟩

/-- A reset whose requests succeed returns, and then the port shows 0. -/
theorem returns_reset_granted (grants : GrantsReset a p) :
    Eff.Returns (resetCounters a) p () (p.withCounters fun _ => 0) :=
  ⟨run_resetCounters.2.mpr grants, run_resetCounters.1⟩

end IbPort

/-! ## Through files -/

namespace IbPortCompat

/-- The files of the port. -/
def path (p : IbPortCompat) (v : PerfVar) : String := counterPath p.deviceName p.portNum ++ fileOf v

/-- The files of the port show the counters, each on a line of its own. -/
def Shows (io : Reads) (p : IbPortCompat) (h : HwCounters) : Prop :=
  ∀ v, h v < 2 ^ 64 ∧ (io (p.path v)).Shows (h v)

theorem shows_everyFileShows {q : IbPortCompat} {h : HwCounters} {m : ℕ}
    (same : ∀ v, h v = m) (small : m < 2 ^ 64) : Shows (everyFileShows m) q h := by
  obtain rfl : h = fun _ => m := funext same
  exact everyFileShows_wellFormed q.path .refresh small

/-- All streams of the port are good, and it remembers these bases. -/
def Watches (p : IbPortCompat) (base : HwCounters) : Prop :=
  (fileClass p.linkWidth).Healthy p.path base p.fileCounters

variable {io : Reads} {p : IbPortCompat} {h base : HwCounters}

section

variable {readable : String → Bool} {deviceName : String} {attributes : IbvPortAttr}
  {portNum : UInt8} {m m' : ℕ}

theorem path_of_create
    (created : Eff.Returns (create readable deviceName attributes portNum) m p m') :
    p.path = fun v => counterPath deviceName portNum ++ fileOf v := by
  obtain ⟨_, _, -, built⟩ := Eff.returns_bind.mp created
  obtain ⟨rfl, -⟩ := Eff.returns_pure.mp built
  rfl

/-- A port that was just constructed watches with bases 0. -/
theorem watches_of_create
    (created : Eff.Returns (create readable deviceName attributes portNum) m p m') :
    p.Watches 0 := by
  have fresh := (returns_create created).2
  rw [← path_of_create created] at fresh
  exact FileClass.healthy_of_fresh fresh

end

/-- A refresh returns and reports the counters minus the bases. -/
theorem returns_refresh_shows (watches : p.Watches base) (shows : Shows io p h) :
    ∃ t, Eff.Returns (refreshCounters io) p () (p.withFileCounters t) ∧
      (p.withFileCounters t).Watches base ∧
      ∀ v, t.counters v = (UInt64.ofNat (h v) - UInt64.ofNat (base v)) * width p.linkWidth v := by
  have wf : (⟨.refresh, io, h⟩ : ShownCall PerfVar).WellFormed p.path := shows
  obtain ⟨t, ends, healthy, value⟩ := FileClass.refresh_shown wf rfl watches
  refine ⟨t, ⟨ends.1, congrArg p.withFileCounters ends.2⟩, healthy, fun v => ?_⟩
  rw [value v, FileClass.report]
  exact scale_eq p.linkWidth v _

/-- A reset returns and remembers the counters. -/
theorem returns_reset_shows (watches : p.Watches base) (shows : Shows io p h) :
    ∃ t, Eff.Returns (resetCounters io) p () (p.withFileCounters t) ∧
      (p.withFileCounters t).Watches h := by
  have wf : (⟨.reset, io, h⟩ : ShownCall PerfVar).WellFormed p.path := shows
  obtain ⟨t, ends, healthy, -⟩ := FileClass.reset_shown wf rfl watches.usable
  have reset : Eff.Returns (FileCounters.resetWith false io) p.fileCounters () t := ends
  exact ⟨t, Eff.returns_focus.mpr ⟨t, reset, rfl⟩, healthy⟩

end IbPortCompat

end Detector
