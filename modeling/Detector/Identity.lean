import Detector.Resets

/-!
# What calls leave alone

Resets and refreshes write counters, buffers and streams. The members that the constructors set,
the address, the handle and the link width of a port among them, stay as they are through every
run of calls, and so do the positions of the nodes and of their ports.
-/
namespace Detector

open Cpp

/-- The same port with other counters, or with other counters and files. -/
inductive Port.Moved : Port → Port → Prop where
  | mad (p : IbPort) (c : PerfCounters) : Moved (.mad p) (.mad (p.withCounters c))
  | compat (p : IbPortCompat) (s : FileCounters PerfVar 21) :
    Moved (.compat p) (.compat (p.withFileCounters s))

/-- The same node with other counters, and with the same ports in the same places. -/
structure IbNode.Moved (n n' : IbNode) : Prop where
  desc : n'.desc = n.desc
  guid : n'.guid = n.guid
  numPorts : n'.numPorts = n.numPorts
  ports : Pointwise (fun _ => Port.Moved) n.ports n'.ports

/-- The same fabric, with the same nodes in the same places. -/
structure IbFabric.Moved (f f' : IbFabric) : Prop where
  fabric : f'.fabric = f.fabric
  nodes : Pointwise (fun _ => IbNode.Moved) f.nodes f'.nodes

namespace Port

variable {p q r : Port}

theorem Moved.refl (p : Port) : p.Moved p := by
  cases p with
  | mad p => exact .mad p p.counters
  | compat p => exact .compat p p.fileCounters

theorem Moved.trans (h : p.Moved q) (h' : q.Moved r) : p.Moved r := by
  cases h with
  | mad p c =>
    obtain ⟨_, c'⟩ | _ := h'
    exact .mad p c'
  | compat p s =>
    obtain _ | ⟨_, s'⟩ := h'
    exact .compat p s'

theorem moved_resetCounters (io : PortIo) (p : Port) :
    p.Moved ((resetCounters io).run p).state := by
  cases p with
  | mad p =>
    have state := (IbPort.run_resetCounters (a := io.mad) (p := p)).1
    change Moved _ (.mad ((IbPort.resetCounters io.mad).run p).state)
    rw [state]
    exact .mad p _
  | compat p => exact .compat p _

theorem moved_refreshCounters (build : Build) (io : PortIo) (p : Port) :
    p.Moved ((refreshCounters build io).run p).state := by
  cases p with
  | mad p =>
    obtain ⟨r, k, state⟩ : ∃ r k, ((IbPort.refreshCounters build io.mad).run p).state =
        p.refreshedTo build r k := by
      obtain ⟨_, q, ends⟩ | ⟨e, q, ends⟩ :=
        Eff.returns_or_throws (IbPort.refreshCounters build io.mad) p
      · obtain ⟨r, -, rfl⟩ := IbPort.returns_refreshCounters_iff.mp ends
        exact ⟨r, 3, ends.2⟩
      · obtain ⟨r, k, -, rfl⟩ := IbPort.throws_refreshCounters_cases ends
        exact ⟨r, k, ends.2⟩
    change Moved _ (.mad ((IbPort.refreshCounters build io.mad).run p).state)
    rw [state]
    exact .mad p _
  | compat p => exact .compat p _

theorem Moved.linkWidth (h : p.Moved q) : q.toIbPort.linkWidth = p.toIbPort.linkWidth := by
  cases h <;> rfl

end Port

namespace IbNode

variable {n m k : IbNode}

theorem Moved.refl (n : IbNode) : n.Moved n :=
  ⟨rfl, rfl, rfl, Pointwise.of_refl (fun _ => Port.Moved.refl) _⟩

theorem Moved.trans (h : n.Moved m) (h' : m.Moved k) : n.Moved k := by
  refine ⟨h'.desc.trans h.desc, h'.guid.trans h.guid, h'.numPorts.trans h.numPorts, ?_⟩
  exact h.ports.trans h'.ports fun _ _ _ _ => Port.Moved.trans

theorem moved_resetCounters (io : NodeIo) (n : IbNode) :
    n.Moved ((resetCounters io).run n).state :=
  ⟨rfl, rfl, rfl, n.pointwise_resetCounters io (fun _ => Port.Moved.refl)
    fun j => Port.moved_resetCounters (io j)⟩

theorem moved_refreshCounters (build : Build) (io : NodeIo) (n : IbNode) :
    n.Moved ((refreshCounters build io).run n).state :=
  ⟨rfl, rfl, rfl, n.pointwise_refreshCounters io build (fun _ => Port.Moved.refl)
    fun j => Port.moved_refreshCounters build (io j)⟩

theorem moved_onPort {j : ℕ} {x : Method Port Unit} (step : ∀ p, Port.Moved p (x.run p).state)
    (n : IbNode) : n.Moved ((onPort j x).run n).state :=
  ⟨rfl, rfl, rfl, Pointwise.onNth (fun _ => Port.Moved.refl) step n.ports⟩

end IbNode

namespace IbFabric

variable {f g h : IbFabric}

theorem Moved.refl (f : IbFabric) : f.Moved f :=
  ⟨rfl, Pointwise.of_refl (fun _ => IbNode.Moved.refl) _⟩

theorem Moved.trans (h₁ : f.Moved g) (h₂ : g.Moved h) : f.Moved h :=
  ⟨h₂.fabric.trans h₁.fabric, h₁.nodes.trans h₂.nodes fun _ _ _ _ => IbNode.Moved.trans⟩

theorem moved_onNode {i : ℕ} {x : Method IbNode Unit} (step : ∀ n, IbNode.Moved n (x.run n).state)
    (f : IbFabric) : f.Moved ((onNode i x).run f).state :=
  ⟨rfl, Pointwise.onNth (fun _ => IbNode.Moved.refl) step f.nodes⟩

/-- What one call leaves alone. -/
theorem moved_call (build : Build) (c : FabricCall) (f : IbFabric) :
    f.Moved (Eff.after (call build c) f) := by
  obtain ⟨op, target, io⟩ := c
  cases target with
  | fabric =>
    cases op with
    | reset =>
      exact ⟨rfl, Pointwise.visit (fun i => Eff.onItem (IbNode.resetCounters (io i)))
        (fun _ => IbNode.Moved.refl) (fun i n _ => IbNode.moved_resetCounters (io i) n)
        (f.nodes, ())⟩
    | refresh =>
      exact ⟨rfl, Pointwise.visit (fun i => Eff.onItem (IbNode.refreshCounters build (io i)))
        (fun _ => IbNode.Moved.refl) (fun i n _ => IbNode.moved_refreshCounters build (io i) n)
        (f.nodes, ())⟩
  | node i =>
    cases op with
    | reset => exact moved_onNode (IbNode.moved_resetCounters (io i)) f
    | refresh => exact moved_onNode (IbNode.moved_refreshCounters build (io i)) f
  | port i j =>
    cases op with
    | reset => exact moved_onNode (IbNode.moved_onPort (Port.moved_resetCounters (io i j))) f
    | refresh =>
      exact moved_onNode (IbNode.moved_onPort (Port.moved_refreshCounters build (io i j))) f

/-- What a run of calls leaves alone. -/
theorem moved_runs (build : Build) (calls : List FabricCall) (f : IbFabric) :
    f.Moved (Eff.runs (call build) calls f) :=
  Eff.runs_invariant (Moved.refl f) calls fun c g _ moved => moved.trans (moved_call build c g)

end IbFabric

end Detector
