import Detector.IbNode
import Detector.Library.Run

/-!
# Runs of MAD ports

What a port that was constructed shows after any history of resets and refreshes, whatever its
queries answered. A refresh that returns has read all its replies, so its result does not
depend on the history; the counters that the device does not support were never assigned and
are still 0. The data counters follow the raw counters of the hardware, except that on a switch
only the lower 40 bits of the received data are visible.
-/
namespace Detector

open Cpp

namespace IbPort

/-- A call of one of the two member functions, with the answers that it gets. -/
def call (build : Build) (c : CounterOp × MadAnswers) : Method IbPort Unit :=
  match c.1 with
  | .reset => resetCounters c.2
  | .refresh => refreshCounters build c.2

/-- Only the counters differ from the port `p₀`, and the unsupported ones are 0. -/
def Settled (p₀ p : IbPort) : Prop :=
  ∃ c : PerfCounters, p = p₀.withCounters c ∧ ∀ v, p₀.supports v = false → c v = 0

theorem settled_refreshedTo {build : Build} {p₀ p : IbPort} (h : Settled p₀ p) (r : Replies)
    (k : ℕ) : Settled p₀ (p.refreshedTo build r k) := by
  obtain ⟨c, rfl, zero⟩ := h
  refine ⟨_, rfl, fun v unsupported => ?_⟩
  have same : (p₀.withCounters c).supports v = false := unsupported
  simp [same, zero v unsupported]

/-- What a call does, however it ends. -/
theorem settled_call (build : Build) {p₀ p : IbPort} (h : Settled p₀ p)
    (c : CounterOp × MadAnswers) : Settled p₀ (Eff.after (call build c) p) := by
  obtain ⟨op, a⟩ := c
  cases op with
  | reset =>
    obtain ⟨c, rfl, -⟩ := h
    rw [call, Eff.after, run_resetCounters.1]
    exact ⟨fun _ => 0, rfl, fun _ _ => rfl⟩
  | refresh =>
    rw [call]
    obtain ⟨_, q, ends⟩ | ⟨e, q, ends⟩ := Eff.returns_or_throws (refreshCounters build a) p
    · obtain ⟨r, -, rfl⟩ := returns_refreshCounters_iff.mp ends
      rw [ends.after_eq]
      exact settled_refreshedTo h r 3
    · obtain ⟨r, k, -, rfl⟩ := throws_refreshCounters_cases ends
      rw [ends.after_eq]
      exact settled_refreshedTo h r k

theorem settled_runs {build : Build} {p₀ p : IbPort} (h : Settled p₀ p)
    (calls : List (CounterOp × MadAnswers)) : Settled p₀ (Eff.runs (call build) calls p) :=
  Eff.runs_invariant h calls fun c _ _ hp => settled_call build hp c

theorem reading_of_unsupported {build : Build} {p : IbPort} {v : PerfVar}
    (h : p.supports v = false) (r : Replies) : reading build p r v = 0 := by
  cases v <;> simp_all [supports, reading, reading.cast]

theorem query_lt_three (build : Build) (p : IbPort) (v : PerfVar) : p.query build v < 3 := by
  unfold query
  split
  · omega
  · split <;> omega
  · omega

/-- From a settled port, a complete refresh leads to the readings alone. -/
theorem Settled.refreshedTo_three (build : Build) {p₀ p : IbPort} (h : Settled p₀ p)
    (r : Replies) : p.refreshedTo build r 3 = p₀.withCounters (reading build p₀ r) := by
  obtain ⟨c, rfl, zero⟩ := h
  refine congrArg p₀.withCounters (funext fun v => ?_)
  have below := query_lt_three build (p₀.withCounters c) v
  cases supported : p₀.supports v with
  | false =>
    have same : (p₀.withCounters c).supports v = false := supported
    rw [reading_of_unsupported supported]
    simp [same, zero v supported]
  | true =>
    have same : (p₀.withCounters c).supports v = true := supported
    rw [same, decide_eq_true below, Bool.and_self, if_pos rfl]
    rfl

/-- A port that the constructor returned is settled. -/
theorem settled_of_create {build : Build} {a : MadAnswers} {lid : UInt16} {portNum : UInt8}
    {m m' : ℕ} {p : IbPort} (h : Eff.Returns (create build a lid portNum) m p m') :
    Settled p p :=
  ⟨p.counters, rfl, fun v _ => by rw [(returns_create h).1, IbPerfCounter.init_apply]⟩

/-- The address of a port stays. -/
theorem Settled.address {p₀ p : IbPort} (h : Settled p₀ p) :
    p.portId = p₀.portId ∧ p.portNum = p₀.portNum := by
  obtain ⟨c, rfl, -⟩ := h
  exact ⟨rfl, rfl⟩

/-- Two ports of the same width and kind and with the same capabilities. -/
structure SameDevice (p q : IbPort) : Prop where
  linkWidth : p.linkWidth = q.linkWidth
  nodeType : p.nodeType = q.nodeType
  extendedWidth : p.isExtendedWidthSupported = q.isExtendedWidthSupported
  additional : p.isAdditionalExtendedPortCountersSupported =
    q.isAdditionalExtendedPortCountersSupported
  xmitWait : p.isXmitWaitSupported = q.isXmitWaitSupported

theorem SameDevice.reading_eq {p q : IbPort} (h : SameDevice p q) (build : Build)
    (r : Replies) : reading build p r = reading build q r := by
  obtain ⟨linkWidth, nodeType, extendedWidth, additional, xmitWait⟩ := h
  funext v
  cases v <;> simp [reading, reading.cast, reading.error, usesExtErrors, linkWidth, nodeType,
    extendedWidth, additional, xmitWait]

/-- A refresh that returns has read all its replies, and its result depends on them, the link
width, the kind of node and the capabilities alone. -/
theorem refresh_independent_of_history (build : Build) (a₀ : MadAnswers) (lid : UInt16)
    (portNum : UInt8) (m m' : ℕ) (p₀ : IbPort)
    (created : Eff.Returns (create build a₀ lid portNum) m p₀ m')
    (calls : List (CounterOp × MadAnswers)) (a : MadAnswers) (q : IbPort)
    (ends : Eff.Returns (refreshCounters build a) (Eff.runs (call build) calls p₀) () q) :
    ∃ r, Answers build a p₀ r ∧ q = p₀.withCounters (reading build p₀ r) ∧
      ∀ p, SameDevice p p₀ → q.counters = reading build p r := by
  have settled : Settled p₀ (Eff.runs (call build) calls p₀) :=
    settled_runs (settled_of_create created) calls
  obtain ⟨r, answers, rfl⟩ := returns_refreshCounters_iff.mp ends
  have final : (Eff.runs (call build) calls p₀).refreshedTo build r 3 = _ :=
    settled.refreshedTo_three build r
  refine ⟨r, ?_, final, fun p same => ?_⟩
  · obtain ⟨c, hc, -⟩ := settled
    rw [hc] at answers
    exact ⟨answers.ext, answers.errors, answers.rest⟩
  · rw [final, withCounters_counters, same.reading_eq]

/-! ## A device for examples -/

/-- A reply that shows the given raw data counters, and 0 for all other counters. -/
def plainReply (xmit rcv : UInt64) : MadBuf where
  byte _ := 0
  decode32 _ := 0
  decode64
    | .pcExtXmtBytes => xmit
    | .pcExtRcvBytes => rcv
    | _ => 0

/-- A reply in which every field holds the same number. -/
def uniformReply (m : ℕ) : MadBuf where
  byte _ := 0xff
  decode32 _ := UInt32.ofNat m
  decode64 _ := UInt64.ofNat m

/-- A device of a kind and width that supports nothing optional. -/
def plainDevice (nodeType activeWidth : UInt32) (xmit rcv : UInt64) : MadAnswers where
  openPort := true
  pma _ _ _ _ := some (plainReply xmit rcv)
  smp _ _ _ := some {
    byte := fun _ => 0
    decode32 := fun
      | .nodeType => nodeType
      | .portLinkWidthActive => activeWidth
      | _ => 0
    decode64 := fun _ => 0 }
  reset _ _ _ _ := true

/-- The port that is constructed for such a device on a little-endian host. -/
def plainPort (nodeType activeWidth : UInt32) (m : ℕ) : IbPort where
  counters := IbPerfCounter.init
  lid := 3
  portNum := 1
  linkWidth := calcLinkWidth activeWidth.toUInt8
  madPort := some ⟨.madPort, m⟩
  portId := ibPortidSet 3 0 0
  nodeType := nodeType
  isExtendedWidthSupported := false
  isAdditionalExtendedPortCountersSupported := false
  isXmitWaitSupported := false

theorem create_plainPort (build : Build) (little : build.byteOrder = .little)
    (nodeType activeWidth : UInt32) (xmit rcv : UInt64) (m : ℕ) :
    Eff.Returns (create build (plainDevice nodeType activeWidth xmit rcv) 3 1) m
      (plainPort nodeType activeWidth m) (m + 1) := by
  obtain ⟨additional, order⟩ := build
  obtain rfl : order = .little := little
  have mask : memcpy16 .little (fun _ => 0) 2 = 0 := rfl
  have mask2 : htonl .little (htonl .little (memcpy32 .little (fun _ => 0) 4) >>> 5) = 0 := rfl
  refine returns_create_iff.mpr ⟨⟨rfl, rfl⟩, _, _, _, rfl, rfl, rfl, ?_⟩
  simp [plainPort, built, plainReply, mask, mask2, decode8]

/-- A port that was reset and refreshed before. -/
theorem refresh_independent_of_history_router :
    ∃ r, Answers ⟨true, .little⟩ (plainDevice ibNodeRouter 2 70 90) (plainPort ibNodeRouter 2 0) r ∧
      (Eff.after (refreshCounters ⟨true, .little⟩ (plainDevice ibNodeRouter 2 70 90))
        (Eff.runs (call ⟨true, .little⟩) [(.refresh, plainDevice ibNodeRouter 2 5 6),
          (.reset, plainDevice ibNodeRouter 2 5 6)] (plainPort ibNodeRouter 2 0))) =
        (plainPort ibNodeRouter 2 0).withCounters
          (reading ⟨true, .little⟩ (plainPort ibNodeRouter 2 0) r) := by
  obtain ⟨r, answers, final, -⟩ := refresh_independent_of_history ⟨true, .little⟩ _ _ _ _ _ _
    (create_plainPort ⟨true, .little⟩ rfl ibNodeRouter 2 5 6 0)
    [(.refresh, plainDevice ibNodeRouter 2 5 6), (.reset, plainDevice ibNodeRouter 2 5 6)]
    (plainDevice ibNodeRouter 2 70 90) _ ⟨rfl, rfl⟩
  exact ⟨r, answers, final⟩

end IbPort

end Detector
