import Detector.FailedRefresh
import Detector.Identity
import Detector.Ownership

/-!
# The exceptions of calls

A call on a fabric or on a node is a loop over ports, and the first port that fails ends it. Whether
a port fails is decided by the answers that it gets and by its own state before the call, so the
exception that leaves a call can be told before it is made.

## Main definitions

* `Port.failure` — the exception that a call of a port ends with, if there is one.
* `IbFabric.portsIn` — the ports that a call visits, in the order of the visits.
* `IbPerfException.ofCalls` — the exceptions that calls on a fabric can end with.

## Main results

* `IbFabric.result_call` — a call ends as its first failing port makes it end.
* `IbFabric.ends_at_first_failure` — the same for every run, with the exceptions of each mode.
-/
namespace Detector

open Cpp

/-! ## Ports -/

namespace IbPort

def queryExtFailed : IbPerfException := .ibMadException "Failed to query extended performance counters!"
def queryFailed : IbPerfException := .ibMadException "Failed to query performance counters!"
def resetFailed : IbPerfException := .ibMadException "Failed to reset performance counters!"
def resetExtFailed : IbPerfException := .ibMadException "Failed to reset extended performance counters!"

variable (build : Build) (a : MadAnswers) (p : IbPort)

def refreshFailure : Option IbPerfException :=
  if (a.pma 0 p.portId p.portNum .gsiPortCountersExt).isNone then some queryExtFailed
  else if !p.usesExtErrors build && (a.pma 1 p.portId p.portNum .gsiPortCounters).isNone then
    some queryFailed
  else if (a.pma 2 p.portId p.portNum .gsiPortCounters).isNone then some queryFailed
  else none

def resetFailure : Option IbPerfException :=
  if !a.reset p.portId p.portNum 0xffffffff .gsiPortCounters then some resetFailed
  else if !a.reset p.portId p.portNum 0xffffffff .gsiPortCountersExt then some resetExtFailed
  else none

theorem result_refreshCounters :
    ((refreshCounters build a).run p).result = Eff.ending (refreshFailure build a p) := by
  obtain ⟨r, ends⟩ : ∃ r, RefreshEnds build a p r := refreshCounters_ends
  cases ends with
  | noExt ext ends => simp [refreshFailure, ext, Eff.ending, ends.1, queryExtFailed]
  | noErrors ext path errors ends =>
    simp [refreshFailure, ext, path, errors, Eff.ending, ends.1, queryFailed]
  | noRest ext errors rest ends =>
    cases path : p.usesExtErrors build with
    | true => simp [refreshFailure, ext, path, rest, Eff.ending, ends.1, queryFailed]
    | false =>
      simp [refreshFailure, ext, path, errors path, rest, Eff.ending, ends.1, queryFailed]
  | done ext errors rest ends =>
    cases path : p.usesExtErrors build with
    | true => simp [refreshFailure, ext, path, rest, Eff.ending, ends.1]
    | false => simp [refreshFailure, ext, path, errors path, rest, Eff.ending, ends.1]

theorem result_resetCounters :
    ((resetCounters a).run p).result = Eff.ending (resetFailure a p) := by
  cases h : a.reset p.portId p.portNum 0xffffffff .gsiPortCounters
  all_goals
    cases h' : a.reset p.portId p.portNum 0xffffffff .gsiPortCountersExt
    all_goals simp [resetCounters, performanceResetVia, resetFailure, Eff.ending, resetFailed,
      resetExtFailed, h, h']

end IbPort

namespace IbPortCompat

def readFailed : IbPerfException := .ibFileException "Unable to read file!"

/-- All streams of the port are good. -/
def Works (p : IbPortCompat) : Prop := ∀ i, (p.reader.files i).good = true

instance (p : IbPortCompat) : Decidable p.Works := inferInstanceAs (Decidable (∀ _, _))

/-- A refresh tests each stream before it reads it. -/
def refreshFailure (p : IbPortCompat) : Option IbPerfException :=
  if p.Works then none else some readFailed

theorem result_refreshCounters (io : Reads) (p : IbPortCompat) :
    ((refreshCounters io).run p).result = Eff.ending p.refreshFailure := by
  have result : ((refreshCounters io).run p).result = ((FileCounters.refreshWith table
      (scale p.linkWidth) io).run p.fileCounters).result := by
    simp only [refreshCounters, Eff.run_bind, Eff.run_get, Eff.andThen_ok, Eff.run_focus]
  rw [result]
  cases FileCounters.refreshWith_ends table (scale p.linkWidth) io p.fileCounters with
  | done t good ends =>
    have works : p.Works := fun i => by
      obtain ⟨e, he, rfl⟩ := (fileClass p.linkWidth).exists_entry i
      exact good e he
    rw [ends.1, refreshFailure, if_pos works]
    rfl
  | stopped t pre b post split good bad ends =>
    have broken : ¬ p.Works := fun works => by
      have first := works b.2
      rw [show (p.reader.files b.2).good = false from bad] at first
      cases first
    rw [ends.1, refreshFailure, if_neg broken]
    rfl

end IbPortCompat

namespace Port

/-- The exception that the call of a port ends with, if there is one. -/
def failure (build : Build) (op : CounterOp) (io : PortIo) : Port → Option IbPerfException
  | mad p =>
    match op with
    | .reset => p.resetFailure io.mad
    | .refresh => p.refreshFailure build io.mad
  | compat p =>
    match op with
    | .reset => none
    | .refresh => p.refreshFailure

theorem result_refreshCounters (build : Build) (io : PortIo) (p : Port) :
    ((refreshCounters build io).run p).result = Eff.ending (p.failure build .refresh io) := by
  cases p with
  | mad p => exact (Outcome.result_map _ _).trans (IbPort.result_refreshCounters build io.mad p)
  | compat p => exact (Outcome.result_map _ _).trans (IbPortCompat.result_refreshCounters io.files p)

theorem result_resetCounters (build : Build) (io : PortIo) (p : Port) :
    ((resetCounters io).run p).result = Eff.ending (p.failure build .reset io) := by
  cases p with
  | mad p => exact IbPort.result_resetCounters io.mad p
  | compat p =>
    obtain ⟨_, ends⟩ := Detector.returns_resetCounters_compat io p
    exact ends.1

end Port

/-! ## Nodes and fabrics -/

/-- The ports of a node, with their places in a fabric. -/
def IbNode.portsAt (i : ℕ) (n : IbNode) : List (Port × ℕ × ℕ) :=
  n.ports.zipIdx.map fun x => (x.1, i, x.2)

/-- The ports that a call visits, in the order of the visits, with their places. -/
def IbFabric.portsIn (f : IbFabric) : Target → List (Port × ℕ × ℕ)
  | .fabric => f.nodes.zipIdx.flatMap fun x => x.1.portsAt x.2
  | .node i => f.nodes[i]?.toList.flatMap (IbNode.portsAt i)
  | .port i j => (f.nodes[i]?.bind fun n => n.ports[j]?).toList.map fun p => (p, i, j)

/-- The failure of the first one of some ports that fails. -/
def firstFailure (build : Build) (op : CounterOp) (io : FabricIo) (ports : List (Port × ℕ × ℕ)) :
    Option IbPerfException :=
  ports.findSome? fun x => x.1.failure build op (io x.2.1 x.2.2)

theorem firstFailure_portsAt (build : Build) (op : CounterOp) (io : FabricIo) (i : ℕ) (n : IbNode) :
    firstFailure build op io (n.portsAt i) =
      n.ports.zipIdx.findSome? fun x => x.1.failure build op (io i x.2) := by
  rw [firstFailure, IbNode.portsAt, List.findSome?_map]
  rfl

namespace IbNode

variable (build : Build) (io : FabricIo) (i : ℕ) (n : IbNode)

theorem result_resetCounters : ((resetCounters (io i)).run n).result =
    Eff.ending (firstFailure build .reset io (n.portsAt i)) := by
  have each : ∀ p ∈ n.ports, ∀ j (c : PerfCounters),
      ((Eff.onItem (Port.resetCounters (io i j))).run (p, c)).result =
        Eff.ending (p.failure build .reset (io i j)) :=
    fun p _ j _ => Port.result_resetCounters build (io i j) p
  rw [firstFailure_portsAt]
  exact Eff.result_visitFrom each 0 _

theorem result_refreshPort (port : PortIo) (p : Port) (c : PerfCounters) :
    ((refreshPort build port).run (p, c)).result =
      Eff.ending (p.failure build .refresh port) := by
  rw [← Port.result_refreshCounters]
  simp only [refreshPort, Eff.onItem, Eff.run_bind, Eff.run_focus]
  rcases (Port.refreshCounters build port).run p with ⟨⟨e⟩ | ⟨⟨⟩⟩, q, l⟩
  · rfl
  · rfl

theorem result_refreshCounters : ((refreshCounters build (io i)).run n).result =
    Eff.ending (firstFailure build .refresh io (n.portsAt i)) := by
  have each : ∀ p ∈ n.ports, ∀ j (c : PerfCounters),
      ((refreshPort build (io i j)).run (p, c)).result =
        Eff.ending (p.failure build .refresh (io i j)) :=
    fun p _ j c => result_refreshPort build (io i j) p c
  rw [firstFailure_portsAt]
  exact Eff.result_visitFrom each 0 _

end IbNode

namespace IbFabric

variable (build : Build) (io : FabricIo) (f : IbFabric)

theorem firstFailure_fabric (op : CounterOp) : firstFailure build op io (f.portsIn .fabric) =
    f.nodes.zipIdx.findSome? fun x => firstFailure build op io (x.1.portsAt x.2) := by
  rw [firstFailure, portsIn, findSome?_flatMap]
  rfl

theorem result_resetCounters : ((resetCounters io).run f).result =
    Eff.ending (firstFailure build .reset io (f.portsIn .fabric)) := by
  have each : ∀ n ∈ f.nodes, ∀ i (u : Unit),
      ((Eff.onItem (IbNode.resetCounters (io i))).run (n, u)).result =
        Eff.ending (firstFailure build .reset io (n.portsAt i)) :=
    fun n _ i _ => IbNode.result_resetCounters build io i n
  rw [firstFailure_fabric]
  exact Eff.result_visitFrom each 0 _

theorem result_refreshCounters : ((refreshCounters build io).run f).result =
    Eff.ending (firstFailure build .refresh io (f.portsIn .fabric)) := by
  have each : ∀ n ∈ f.nodes, ∀ i (u : Unit),
      ((Eff.onItem (IbNode.refreshCounters build (io i))).run (n, u)).result =
        Eff.ending (firstFailure build .refresh io (n.portsAt i)) :=
    fun n _ i _ => IbNode.result_refreshCounters build io i n
  rw [firstFailure_fabric]
  exact Eff.result_visitFrom each 0 _

/-- A call on one node ends as it does on the node. -/
theorem result_onNode {i : ℕ} {x : Method IbNode Unit} {op : CounterOp}
    (each : ∀ n, (x.run n).result = Eff.ending (firstFailure build op io (n.portsAt i))) :
    ((onNode i x).run f).result =
      Eff.ending (firstFailure build op io (f.portsIn (.node i))) := by
  have result : ((onNode i x).run f).result = ((Eff.onNth i x).run f.nodes).result := rfl
  rw [result]
  cases hn : f.nodes[i]? with
  | none =>
    rw [Eff.run_onNth_none hn]
    simp [portsIn, hn, firstFailure, Eff.ending]
  | some n =>
    rw [Eff.run_onNth_some hn]
    simpa [portsIn, hn] using each n

theorem result_onPort {i j : ℕ} {x : Method Port Unit} {op : CounterOp}
    (each : ∀ p, (x.run p).result = Eff.ending (p.failure build op (io i j))) :
    ((onNode i (IbNode.onPort j x)).run f).result =
      Eff.ending (firstFailure build op io (f.portsIn (.port i j))) := by
  have result : ((onNode i (IbNode.onPort j x)).run f).result =
      ((Eff.onNth i (IbNode.onPort j x)).run f.nodes).result := rfl
  rw [result]
  cases hn : f.nodes[i]? with
  | none =>
    rw [Eff.run_onNth_none hn]
    simp [portsIn, hn, firstFailure, Eff.ending]
  | some n =>
    have inner : ((IbNode.onPort j x).run n).result = ((Eff.onNth j x).run n.ports).result := rfl
    rw [Eff.run_onNth_some hn, inner]
    cases hp : n.ports[j]? with
    | none =>
      rw [Eff.run_onNth_none hp]
      simp [portsIn, hn, hp, firstFailure, Eff.ending]
    | some p =>
      rw [Eff.run_onNth_some hp]
      simp [portsIn, hn, hp, firstFailure, each]

/-- A call ends as its first failing port makes it end. -/
theorem result_call (c : FabricCall) : ((call build c).run f).result =
    Eff.ending (firstFailure build c.op c.io (f.portsIn c.target)) := by
  obtain ⟨op, target, io⟩ := c
  cases target with
  | fabric =>
    cases op with
    | reset => exact result_resetCounters build io f
    | refresh => exact result_refreshCounters build io f
  | node i =>
    cases op with
    | reset => exact result_onNode build io f fun n => IbNode.result_resetCounters build io i n
    | refresh => exact result_onNode build io f fun n => IbNode.result_refreshCounters build io i n
  | port i j =>
    cases op with
    | reset => exact result_onPort build io f fun p => Port.result_resetCounters build (io i j) p
    | refresh =>
      exact result_onPort build io f fun p => Port.result_refreshCounters build (io i j) p

end IbFabric

/-! ## The two modes -/

/-- The exceptions that calls on the objects of a fabric can end with. -/
def IbPerfException.ofCalls (compatibility : Bool) : CounterOp → List IbPerfException
  | .reset => if compatibility then [] else [IbPort.resetFailed, IbPort.resetExtFailed]
  | .refresh =>
    if compatibility then [IbPortCompat.readFailed]
    else [IbPort.queryExtFailed, IbPort.queryFailed]

/-- The class of the port. -/
def Port.isCompat : Port → Bool
  | mad _ => false
  | compat _ => true

theorem Port.InMode.isCompat {p : Port} {compatibility : Bool} (h : p.InMode compatibility) :
    p.isCompat = compatibility := by
  cases p with
  | mad => exact h.1.symm
  | compat => exact h.1.symm

theorem Port.failure_mem {build : Build} {op : CounterOp} {io : PortIo} {p : Port}
    {e : IbPerfException} (h : p.failure build op io = some e) :
    e ∈ IbPerfException.ofCalls p.isCompat op := by
  cases p with
  | mad p =>
    cases op with
    | reset =>
      simp only [failure, IbPort.resetFailure] at h
      split_ifs at h <;> simp_all [IbPerfException.ofCalls, isCompat]
    | refresh =>
      simp only [failure, IbPort.refreshFailure] at h
      split_ifs at h <;> simp_all [IbPerfException.ofCalls, isCompat]
  | compat p =>
    cases op with
    | reset => cases h
    | refresh =>
      simp only [failure, IbPortCompat.refreshFailure] at h
      split_ifs at h
      simp_all [IbPerfException.ofCalls, isCompat]

theorem Port.Moved.inMode {p q : Port} {compatibility : Bool} (h : p.Moved q)
    (inMode : p.InMode compatibility) : q.InMode compatibility := by
  cases h with
  | mad => exact inMode
  | compat => exact inMode

/-- Whether a MAD port fails does not depend on what it has counted. -/
theorem Port.Moved.failure_eq {p q : Port} (h : p.Moved q) (mad : p.isCompat = false) (build : Build)
    (op : CounterOp) (io : PortIo) : q.failure build op io = p.failure build op io := by
  cases h with
  | mad => rfl
  | compat => cases mad

namespace IbFabric

/-- Every port that a call visits is a port of a node. -/
theorem mem_portsIn {f : IbFabric} {t : Target} {x : Port × ℕ × ℕ} (h : x ∈ f.portsIn t) :
    ∃ n, f.nodes[x.2.1]? = some n ∧ n.ports[x.2.2]? = some x.1 := by
  have inNode : ∀ {i : ℕ} {n : IbNode}, f.nodes[i]? = some n → x ∈ n.portsAt i →
      ∃ n, f.nodes[x.2.1]? = some n ∧ n.ports[x.2.2]? = some x.1 := by
    rintro i n hn hx
    obtain ⟨⟨p, j⟩, hp, rfl⟩ := List.mem_map.mp hx
    exact ⟨n, hn, List.mem_zipIdx_iff_getElem?.mp hp⟩
  cases t with
  | fabric =>
    obtain ⟨⟨n, i⟩, hn, hx⟩ := List.mem_flatMap.mp h
    exact inNode (List.mem_zipIdx_iff_getElem?.mp hn) hx
  | node i =>
    obtain ⟨n, hn, hx⟩ := List.mem_flatMap.mp h
    exact inNode (by simpa using hn) hx
  | port i j =>
    obtain ⟨p, hp, rfl⟩ := List.mem_map.mp h
    exact Option.bind_eq_some_iff.mp (by simpa using hp)

/-- A call on the fabric visits every port of every node. -/
theorem mem_portsIn_fabric {f : IbFabric} {i j : ℕ} {n : IbNode} {p : Port}
    (hn : f.nodes[i]? = some n) (hp : n.ports[j]? = some p) : (p, i, j) ∈ f.portsIn .fabric :=
  List.mem_flatMap.mpr ⟨(n, i), List.mem_zipIdx_iff_getElem?.mpr hn,
    List.mem_map.mpr ⟨(p, j), List.mem_zipIdx_iff_getElem?.mpr hp, rfl⟩⟩

/-- A call on a node visits every port of the node. -/
theorem mem_portsIn_node {f : IbFabric} {i j : ℕ} {n : IbNode} {p : Port}
    (hn : f.nodes[i]? = some n) (hp : n.ports[j]? = some p) : (p, i, j) ∈ f.portsIn (.node i) :=
  List.mem_flatMap.mpr ⟨n, by simpa using hn,
    List.mem_map.mpr ⟨(p, j), List.mem_zipIdx_iff_getElem?.mpr hp, rfl⟩⟩

theorem mem_portsIn_port {f : IbFabric} {i j : ℕ} {n : IbNode} {p : Port}
    (hn : f.nodes[i]? = some n) (hp : n.ports[j]? = some p) : (p, i, j) ∈ f.portsIn (.port i j) :=
  List.mem_map.mpr ⟨p, by simpa using Option.bind_eq_some_iff.mpr ⟨n, hn, hp⟩, rfl⟩

theorem Moved.allInMode {f g : IbFabric} {compatibility : Bool} (moved : f.Moved g)
    (inMode : AllInMode compatibility f.nodes) : AllInMode compatibility g.nodes := by
  intro n hn p hp
  obtain ⟨i, hi⟩ := List.mem_iff_getElem?.mp hn
  obtain ⟨j, hj⟩ := List.mem_iff_getElem?.mp hp
  obtain ⟨n₀, hn₀, node⟩ := moved.nodes.source hi
  obtain ⟨p₀, hp₀, port⟩ := node.ports.source hj
  exact port.inMode (inMode n₀ (List.mem_of_getElem? hn₀) p₀ (List.mem_of_getElem? hp₀))

theorem allInMode_of_create {std : StdSort IbNode} {build : Build} {a : DiscoveryAnswers}
    {network compatibility : Bool} {m m' : ℕ} {f : IbFabric}
    (h : Eff.Returns (create std build a network compatibility) m f m') :
    AllInMode compatibility f.nodes := by
  obtain ⟨_, -, inMode, -⟩ := (create_ends std build a network compatibility).of_returns h
  exact inMode

/-- In every state that calls with any outcomes lead to, a call ends with the failure of the first
port that fails, or returns when none does; and a failure is one of the exceptions of the mode. -/
theorem ends_at_first_failure {std : StdSort IbNode} {build : Build} {a : DiscoveryAnswers}
    {network compatibility : Bool} {m m' : ℕ} {f : IbFabric}
    (created : Eff.Returns (create std build a network compatibility) m f m')
    (calls : List FabricCall) (c : FabricCall) :
    let g := Eff.runs (call build) calls f
    ((call build c).run g).result =
        Eff.ending (firstFailure build c.op c.io (g.portsIn c.target)) ∧
      ∀ e, firstFailure build c.op c.io (g.portsIn c.target) = some e →
        e ∈ IbPerfException.ofCalls compatibility c.op := by
  intro g
  refine ⟨result_call build g c, fun e failed => ?_⟩
  obtain ⟨x, hx, fails⟩ := List.exists_of_findSome?_eq_some failed
  obtain ⟨n, hn, hp⟩ := mem_portsIn hx
  have inMode := (moved_runs build calls f).allInMode (allInMode_of_create created)
  rw [← (inMode n (List.mem_of_getElem? hn) x.1 (List.mem_of_getElem? hp)).isCompat]
  exact Port.failure_mem fails

/-- An adapter that was refreshed once, and then does not answer the second query. -/
theorem ends_at_first_failure_second_query :
    let build : Build := ⟨true, .little⟩
    ((call build ⟨.refresh, .fabric, fun _ _ => secondQueryFails 9⟩).run
      (Eff.runs (call build) [⟨.refresh, .fabric, everyPortShows 7⟩]
        (.plain build .plainMad))).result = .error IbPort.queryFailed := by
  intro build
  have ends := ends_at_first_failure (create_plainMad (.stable _) build rfl)
    [⟨.refresh, .fabric, everyPortShows 7⟩] ⟨.refresh, .fabric, fun _ _ => secondQueryFails 9⟩
  exact ends.1

end IbFabric

end Detector
