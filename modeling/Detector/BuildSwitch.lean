import Detector.Capabilities
import Detector.Library.Agree
import Detector.PortCalls

/-!
# The two builds

With `USE_ADDITIONAL_EXTENDED_COUNTERS` a port that has the additional extended counters takes its
error counters from the first reply of a refresh, and otherwise it makes a second query for them.
When both replies show the same, the two builds of the library cannot be told apart by anything but
the queries that they make.

## Main definitions

* `IbPort.SameErrors` — the replies of a device show the same error counters.

## Main results

* `IbFabric.builds_agree` — over every run, both builds leave the same fabric and end each call in
  the same way.
-/
namespace Detector

open Cpp

namespace IbPort

/-- When the device answers the first query it also answers the second one, and the error counters
of both replies are the same. -/
def SameErrors (a : MadAnswers) (p : IbPort) : Prop :=
  ∀ ext, a.pma 0 p.portId p.portNum .gsiPortCountersExt = some ext →
    ∃ errors, a.pma 1 p.portId p.portNum .gsiPortCounters = some errors ∧
      ∀ x ∈ (extErrorFields ++ extWaitFields).zip (errorFields ++ waitFields),
        ext.decode64 x.1.2 = (errors.decode32 x.2.2).toUInt64

variable {order : ByteOrder} {a : MadAnswers} {p : IbPort}

theorem refreshErrors_of_not (h : p.isAdditionalExtendedPortCountersSupported = false)
    (ext : MadBuf) : refreshErrors ⟨true, order⟩ a p ext = refreshErrors ⟨false, order⟩ a p ext := by
  simp [refreshErrors, usesExtErrors, h]

/-- From equal replies both paths assign the same values. -/
theorem agree_refreshErrors {ext : MadBuf}
    (answer : a.pma 0 p.portId p.portNum .gsiPortCountersExt = some ext) (same : SameErrors a p)
    (c : PerfCounters) : Eff.Agree (refreshErrors ⟨true, order⟩ a p ext)
      (refreshErrors ⟨false, order⟩ a p ext) (p.withCounters c) := by
  obtain ⟨errors, second, equal⟩ := same ext answer
  let r : Replies := ⟨ext, errors, errors⟩
  have values : readPart ⟨true, order⟩ p r c .errors = readPart ⟨false, order⟩ p r c .errors := by
    have alike : ∀ f f', ext.decode64 f = (errors.decode32 f').toUInt64 →
        reading.error ⟨true, order⟩ p r f f' = reading.error ⟨false, order⟩ p r f f' := by
      intro f f' h
      simp only [reading.error, r, h, ite_self]
    simp only [extErrorFields, extWaitFields, errorFields, waitFields, List.cons_append,
      List.nil_append, List.zip_cons_cons, List.zip_nil_left, List.forall_mem_cons] at equal
    obtain ⟨rcv, physical, relay, discards, xmitConstraint, rcvConstraint, integrity, overrun, wait,
      -⟩ := equal
    funext v
    cases v <;> simp only [readPart, part, reading, alike _ _ rcv, alike _ _ physical,
      alike _ _ relay, alike _ _ discards, alike _ _ xmitConstraint, alike _ _ rcvConstraint,
      alike _ _ integrity, alike _ _ overrun, alike _ _ wait]
  have first := returns_refreshErrors ⟨true, order⟩ a p r c fun _ => second
  rw [values] at first
  exact .of_returns first (returns_refreshErrors ⟨false, order⟩ a p r c fun _ => second)

theorem of_returns_refreshExtended {ext : MadBuf} {u : IbPort}
    (h : Eff.Returns (refreshExtended a p) p ext u) :
    a.pma 0 p.portId p.portNum .gsiPortCountersExt = some ext ∧ ∃ c, u = p.withCounters c := by
  cases answer : a.pma 0 p.portId p.portNum .gsiPortCountersExt with
  | none => exact absurd (throws_refreshExtended a p answer p) h.not_throws
  | some buf =>
    obtain ⟨rfl, rfl⟩ := h.unique
      (returns_refreshExtended ⟨true, .little⟩ a p ⟨buf, buf, buf⟩ p.counters answer)
    exact ⟨rfl, _, rfl⟩

theorem agree_refreshCounters
    (same : p.isAdditionalExtendedPortCountersSupported = true → SameErrors a p) :
    Eff.Agree (refreshCounters ⟨true, order⟩ a) (refreshCounters ⟨false, order⟩ a) p := by
  refine (Eff.Agree.refl _ _).bind fun q t got => ?_
  obtain ⟨rfl, rfl⟩ := Eff.returns_get.mp got
  refine (Eff.Agree.refl _ _).bind fun ext u answered => Eff.Agree.bind ?_ fun _ _ _ => .refl _ _
  cases additional : t.isAdditionalExtendedPortCountersSupported with
  | false =>
    rw [refreshErrors_of_not additional]
    exact .refl _ _
  | true =>
    obtain ⟨answer, c, rfl⟩ := of_returns_refreshExtended answered
    exact agree_refreshErrors answer (same additional) c

end IbPort

/-! ## Ports, nodes and fabrics -/

/-- A port that has the additional extended counters gets the same error counters both ways. -/
def Port.SameErrors (io : PortIo) : Port → Prop
  | mad p => p.isAdditionalExtendedPortCountersSupported = true → p.SameErrors io.mad
  | compat _ => True

theorem Port.Moved.sameErrors {p q : Port} (h : p.Moved q) {io : PortIo} (same : p.SameErrors io) :
    q.SameErrors io := by
  cases h with
  | mad => exact same
  | compat => trivial

section Agree

variable {order : ByteOrder}

theorem Port.agree_refreshCounters {io : PortIo} {p : Port} (same : p.SameErrors io) :
    Eff.Agree (refreshCounters ⟨true, order⟩ io) (refreshCounters ⟨false, order⟩ io) p := by
  cases p with
  | mad p =>
    have agree : Eff.Agree (IbPort.refreshCounters ⟨true, order⟩ io.mad)
        (IbPort.refreshCounters ⟨false, order⟩ io.mad) p := IbPort.agree_refreshCounters same
    exact agree.map Port.mad rfl rfl
  | compat p => exact .refl _ _

theorem IbNode.agree_refreshCounters {io : NodeIo} {n : IbNode}
    (same : ∀ j (p : Port), n.ports[j]? = some p → p.SameErrors (io j)) :
    Eff.Agree (refreshCounters ⟨true, order⟩ io) (refreshCounters ⟨false, order⟩ io) n := by
  refine (Eff.Agree.refl _ _).bind fun _ t cleared => .focus ?_
  obtain rfl := Eff.returns_modify.mp cleared
  refine Eff.Agree.visit fun j p hp c => Eff.Agree.bind (.focus ?_) fun _ _ _ => .refl _ _
  exact Port.agree_refreshCounters (same j p hp)

namespace IbFabric

/-- During a refresh every port of the target gets the same error counters both ways. -/
def SameErrors (f : IbFabric) (c : FabricCall) : Prop :=
  c.op = .refresh → ∀ x ∈ f.portsIn c.target, x.1.SameErrors (c.io x.2.1 x.2.2)

theorem Moved.sameErrors {f g : IbFabric} (h : f.Moved g) {c : FabricCall} (same : f.SameErrors c) :
    g.SameErrors c := by
  intro refresh
  have related := (List.forall₂_and_left _ _).mpr ⟨same refresh, h.portsIn c.target⟩
  have later : List.Forall₂ (fun y _ => y.1.SameErrors (c.io y.2.1 y.2.2) ∧ True)
      (g.portsIn c.target) (f.portsIn c.target) := by
    refine related.flip.imp fun y x xy => ⟨?_, trivial⟩
    obtain ⟨ports, place, moved⟩ := xy
    rw [place]
    exact moved.sameErrors ports
  exact ((List.forall₂_and_left _ _).mp later).1

theorem agree_call {f : IbFabric} {c : FabricCall} (same : f.SameErrors c) :
    Eff.Agree (call ⟨true, order⟩ c) (call ⟨false, order⟩ c) f := by
  obtain ⟨op, target, io⟩ := c
  cases op with
  | reset => cases target <;> exact .refl _ _
  | refresh =>
    have ports := same rfl
    cases target with
    | fabric =>
      refine .focus (Eff.Agree.visit fun i n hn _ => .focus (IbNode.agree_refreshCounters ?_))
      exact fun j p hp => ports _ (mem_portsIn_fabric hn hp)
    | node i =>
      refine .focus (.onNth fun n hn => IbNode.agree_refreshCounters fun j p hp => ?_)
      exact ports (p, i, j) (mem_portsIn_node hn hp)
    | port i j =>
      refine .focus (.onNth fun n hn => .focus (.onNth fun p hp => Port.agree_refreshCounters ?_))
      exact ports (p, i, j) (mem_portsIn_port hn hp)

/-- When the two replies of every refreshed port show the same error counters, a client cannot tell
by the fabric, or by how the calls end, which of the two builds it uses. -/
theorem builds_agree {std : StdSort IbNode} {a : DiscoveryAnswers} {network compatibility : Bool}
    {m m' : ℕ} {f : IbFabric}
    (created : Eff.Returns (create std ⟨true, order⟩ a network compatibility) m f m')
    (calls : List FabricCall) (same : ∀ c ∈ calls, f.SameErrors c) :
    Eff.Returns (create std ⟨false, order⟩ a network compatibility) m f m' ∧
      Eff.runs (call ⟨true, order⟩) calls f = Eff.runs (call ⟨false, order⟩) calls f ∧
      Eff.outcomes (call ⟨true, order⟩) id calls f =
        Eff.outcomes (call ⟨false, order⟩) id calls f := by
  refine ⟨created, Eff.Agree.runs (I := f.Moved) (fun c _ g moved => ?_) (fun c hc g moved => ?_)
    (.refl f)⟩
  · exact moved.trans (moved_call _ c g)
  · exact agree_call (moved.sameErrors (same c hc))

end IbFabric

end Agree

/-! ## A machine with the additional counters -/

/-- The port of `IbPort.maskedDevice`. -/
def IbPort.maskedPort : IbPort := { IbPort.plainPort ibNodeCa 2 2 with
  isExtendedWidthSupported := true
  isAdditionalExtendedPortCountersSupported := true
  isXmitWaitSupported := true }

theorem IbNode.ofDevice_masked : Eff.Returns (ofDevice ⟨true, .little⟩
    { IbvDevice.plain with mad := fun _ => IbPort.maskedDevice } false) 1
    (.plain ⟨true, .little⟩ (.mad .maskedPort)) 3 := by
  have first : countUp 0 1 = [0] := by
    rw [countUp_eq]
    rfl
  refine Eff.returns_bind.mpr ⟨_, 2, ⟨rfl, rfl⟩, ?_⟩
  refine Eff.returns_bind.mpr ⟨(), 2, ⟨rfl, rfl⟩, ?_⟩
  refine Eff.returns_bind.mpr ⟨(), 2, ⟨rfl, rfl⟩, ?_⟩
  refine Eff.returns_bind.mpr ⟨⟨1, 1⟩, 2, ⟨rfl, rfl⟩, ?_⟩
  refine Eff.returns_bind.mpr ⟨[.mad .maskedPort], 3, ?_, ⟨rfl, rfl⟩⟩
  rw [first]
  exact ⟨rfl, rfl⟩

/-- A refresh of its only port, all of whose replies show 6: both builds show it. -/
theorem IbFabric.builds_agree_masked :
    let f := IbFabric.plain ⟨true, .little⟩ (.mad .maskedPort)
    let a : MadAnswers := { IbPort.maskedDevice with
      pma := fun _ _ _ _ => some (IbPort.uniformReply 6) }
    let calls : List FabricCall := [⟨.refresh, .fabric, fun _ _ => ⟨a, empty⟩⟩]
    let g := Eff.runs (IbFabric.call ⟨true, .little⟩) calls f
    g = Eff.runs (IbFabric.call ⟨false, .little⟩) calls f ∧
      Eff.outcomes (IbFabric.call ⟨true, .little⟩) id calls f =
        Eff.outcomes (IbFabric.call ⟨false, .little⟩) id calls f ∧
      g.nodes.map (fun n => n.counters .xmitDiscards) = [6] := by
  intro f a calls g
  have created := IbFabric.create_single (.stable _) IbNode.ofDevice_masked
  have agree := (IbFabric.builds_agree created calls fun c hc _ x hx => by
    obtain rfl := List.mem_singleton.mp hc
    obtain rfl := List.mem_singleton.mp hx
    rintro - ext answer
    obtain rfl := Option.some.inj answer
    exact ⟨_, rfl, by decide⟩).2
  exact ⟨agree.1, agree.2, by decide⟩

end Detector
