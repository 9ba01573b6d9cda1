import Detector.Exceptions
import Detector.HandleUse
import Detector.Library.Collect

/-!
# Calls as loops over ports

A call of a client runs through nodes and through the ports of each node. For the ports it is one
loop: the call gets to the ports of its target in their order, up to the first one that fails. It
calls these ports, makes their external calls in this order, and does nothing to any other port.

## Main definitions

* `IbFabric.visits` — the ports that a call gets to.
* `Port.requests` — the external calls that a call of a port makes.

## Main results

* `IbFabric.calls_call`, `IbFabric.ports_call` — a call is this loop.
* `IbFabric.traces_runs` — the external calls of a run, told from the fabric that was built.
* `IbFabric.port_runs` — a run is, for each port, the run of the calls that get to it.
-/
namespace Detector

open Cpp

/-! ## The two calls -/

namespace Port

/-- A call of one of the two member functions. -/
def call (build : Build) (op : CounterOp) (io : PortIo) : Method Port Unit :=
  match op with
  | .reset => resetCounters io
  | .refresh => refreshCounters build io

end Port

namespace IbNode

/-- A call of one of the two member functions. -/
def call (build : Build) (op : CounterOp) (io : NodeIo) : Method IbNode Unit :=
  match op with
  | .reset => resetCounters io
  | .refresh => refreshCounters build io

/-- The ports of a node that a call gets to. -/
def visits (build : Build) (op : CounterOp) (io : FabricIo) (i : ℕ) (n : IbNode) :
    List (Port × ℕ × ℕ) :=
  Eff.reached (fun x => x.1.failure build op (io x.2.1 x.2.2)) (n.portsAt i)

variable (build : Build) (op : CounterOp) (io : FabricIo) (i : ℕ) (n : IbNode)

theorem result_call : ((call build op (io i)).run n).result =
    Eff.ending (firstFailure build op io (n.portsAt i)) := by
  cases op with
  | reset => exact result_resetCounters build io i n
  | refresh => exact result_refreshCounters build io i n

/-- The call is a loop over the ports, whatever else it does to the node. -/
theorem run_call : ∃ (body : ℕ → Eff IbPerfException ExtCall (Port × PerfCounters) Unit)
    (t : PerfCounters),
    (∀ p j c, ((body j).run (p, c)).result = Eff.ending (p.failure build op (io i j)) ∧
      ((body j).run (p, c)).state.1 = ((Port.call build op (io i j)).run p).state ∧
      ((body j).run (p, c)).calls = ((Port.call build op (io i j)).run p).calls) ∧
    ((call build op (io i)).run n).state.ports = (Eff.visitFrom body 0 n.ports t).state.1 ∧
    ((call build op (io i)).run n).calls = (Eff.visitFrom body 0 n.ports t).calls := by
  cases op with
  | reset =>
    refine ⟨fun j => Eff.onItem (Port.resetCounters (io i j)), _, fun p j c => ⟨?_, rfl, rfl⟩, rfl,
      rfl⟩
    exact Port.result_resetCounters build (io i j) p
  | refresh =>
    refine ⟨fun j => refreshPort build (io i j), _, fun p j c => ⟨?_, ?_⟩, rfl, rfl⟩
    · exact result_refreshPort build (io i j) p c
    · simp only [refreshPort, Eff.onItem, Eff.run_bind, Eff.run_focus, Port.call]
      rcases (Port.refreshCounters build (io i j)).run p with ⟨⟨e⟩ | ⟨⟨⟩⟩, q, l⟩
      · exact ⟨rfl, rfl⟩
      · exact ⟨rfl, by simp⟩

theorem visits_eq : n.visits build op io i =
    (Eff.reached (fun x => x.1.failure build op (io i x.2)) n.ports.zipIdx).map
      fun x => (x.1, i, x.2) := Eff.reached_map _ _ _

theorem calls_call : ((call build op (io i)).run n).calls = (n.visits build op io i).flatMap
    fun x => ((Port.call build op (io x.2.1 x.2.2)).run x.1).calls := by
  obtain ⟨body, t, each, -, calls⟩ := run_call build op io i n
  rw [calls, visits_eq, List.flatMap_map]
  exact Eff.calls_visitFrom (fun p _ j c => ⟨(each p j c).1, (each p j c).2.2⟩) 0 t

/-- The ports that the call gets to are called, and the others stay as they are. -/
theorem ports_call : Pointwise (fun j p p' => p' =
      if (i, j) ∈ (n.visits build op io i).map Prod.snd
      then ((Port.call build op (io i j)).run p).state else p)
    n.ports ((call build op (io i)).run n).state.ports := by
  obtain ⟨body, t, each, ports, -⟩ := run_call build op io i n
  rw [ports]
  refine (Pointwise.of_reached (fun p _ j c => ⟨(each p j c).1, (each p j c).2.1⟩) 0 t).imp
    fun j p p' changed => ?_
  have place : (i, j) ∈ (n.visits build op io i).map Prod.snd ↔
      0 + j ∈ (Eff.reached (fun x => x.1.failure build op (io i x.2)) n.ports.zipIdx).map Prod.snd := by
    simp [visits_eq]
  simp only [changed, place, Nat.zero_add]

variable {build op io i n} in
/-- The call gets to ports of the node. -/
theorem place_of_mem_visits {x : Port × ℕ × ℕ} (h : x ∈ n.visits build op io i) :
    x.2.1 = i ∧ n.ports[x.2.2]? = some x.1 := by
  have inside := (Eff.reached_sublist _ _).subset h
  obtain ⟨⟨p, j⟩, hp, rfl⟩ := List.mem_map.mp inside
  exact ⟨rfl, List.mem_zipIdx_iff_getElem?.mp hp⟩

end IbNode

namespace IbFabric

/-- The ports that a call gets to, with their places. -/
def visits (build : Build) (f : IbFabric) (c : FabricCall) : List (Port × ℕ × ℕ) :=
  Eff.reached (fun x => x.1.failure build c.op (c.io x.2.1 x.2.2)) (f.portsIn c.target)

variable (build : Build) (op : CounterOp) (io : FabricIo) (f : IbFabric)

theorem call_fabric : call build ⟨op, .fabric, io⟩ = Eff.focus (fun f => (f.nodes, ())) withNodes
    (Eff.visit fun i => Eff.onItem (IbNode.call build op (io i))) := by
  cases op <;> rfl

theorem call_node (i : ℕ) : call build ⟨op, .node i, io⟩ = onNode i (IbNode.call build op (io i)) := by
  cases op <;> rfl

theorem call_port (i j : ℕ) : call build ⟨op, .port i j, io⟩ =
    onNode i (IbNode.onPort j (Port.call build op (io i j))) := by
  cases op <;> rfl

theorem visits_fabric : f.visits build ⟨op, .fabric, io⟩ =
    (Eff.reached (fun x => firstFailure build op io (x.1.portsAt x.2)) f.nodes.zipIdx).flatMap
      fun x => x.1.visits build op io x.2 := Eff.reached_flatMap _ _ _

variable {f} in
/-- A call on the fabric gets to a port when it gets to its node, and then to the port. -/
theorem mem_visits_fabric {i : ℕ} {n : IbNode} (hn : f.nodes[i]? = some n) (j : ℕ) :
    (i, j) ∈ (f.visits build ⟨op, .fabric, io⟩).map Prod.snd ↔
      i ∈ (Eff.reached (fun x => firstFailure build op io (x.1.portsAt x.2))
        f.nodes.zipIdx).map Prod.snd ∧ (i, j) ∈ (n.visits build op io i).map Prod.snd := by
  have only : ∀ m k, (m, k) ∈ Eff.reached (fun x => firstFailure build op io (x.1.portsAt x.2))
      f.nodes.zipIdx → f.nodes[k]? = some m := fun m k hm =>
    List.mem_zipIdx_iff_getElem?.mp ((Eff.reached_sublist _ _).subset hm)
  rw [visits_fabric]
  constructor
  · intro h
    obtain ⟨x, hx, same⟩ := List.mem_map.mp h
    obtain ⟨⟨m, k⟩, hm, inside⟩ := List.mem_flatMap.mp hx
    obtain ⟨rfl, -⟩ := IbNode.place_of_mem_visits inside
    obtain rfl : x.2.1 = i := congrArg Prod.fst same
    obtain rfl : m = n := Option.some.inj ((only m _ hm).symm.trans hn)
    exact ⟨List.mem_map.mpr ⟨_, hm, rfl⟩, List.mem_map.mpr ⟨x, inside, same⟩⟩
  · rintro ⟨node, port⟩
    obtain ⟨⟨m, k⟩, hm, rfl⟩ := List.mem_map.mp node
    obtain rfl : m = n := Option.some.inj ((only m _ hm).symm.trans hn)
    obtain ⟨x, hx, same⟩ := List.mem_map.mp port
    exact List.mem_map.mpr ⟨x, List.mem_flatMap.mpr ⟨_, hm, hx⟩, same⟩

theorem visits_node (i : ℕ) : f.visits build ⟨op, .node i, io⟩ =
    f.nodes[i]?.toList.flatMap (IbNode.visits build op io i) := by
  cases hn : f.nodes[i]? with
  | none => simp [visits, portsIn, hn, Eff.reached]
  | some n => simp [visits, portsIn, hn, IbNode.visits]

theorem visits_port (i j : ℕ) : f.visits build ⟨op, .port i j, io⟩ =
    (f.nodes[i]?.bind fun n => n.ports[j]?).toList.map fun p => (p, i, j) := by
  cases hp : f.nodes[i]?.bind fun n => n.ports[j]? with
  | none => simp [visits, portsIn, hp, Eff.reached]
  | some p => simp [visits, portsIn, hp, Eff.reached]

/-- A call makes the external calls of the ports that it gets to, and no others. -/
theorem calls_call (c : FabricCall) : ((call build c).run f).calls = (f.visits build c).flatMap
    fun x => ((Port.call build c.op (c.io x.2.1 x.2.2)).run x.1).calls := by
  obtain ⟨op, target, io⟩ := c
  cases target with
  | fabric =>
    rw [call_fabric, visits_fabric, List.flatMap_assoc]
    have each : ∀ n ∈ f.nodes, ∀ i (u : Unit),
        ((Eff.onItem (IbNode.call build op (io i))).run (n, u)).result =
          Eff.ending (firstFailure build op io (n.portsAt i)) ∧
        ((Eff.onItem (IbNode.call build op (io i))).run (n, u)).calls =
          (n.visits build op io i).flatMap fun x =>
            ((Port.call build op (io x.2.1 x.2.2)).run x.1).calls :=
      fun n _ i u => ⟨IbNode.result_call build op io i n, IbNode.calls_call build op io i n⟩
    exact Eff.calls_visitFrom each 0 ()
  | node i =>
    rw [call_node]
    have calls : ((onNode i (IbNode.call build op (io i))).run f).calls =
        ((Eff.onNth i (IbNode.call build op (io i))).run f.nodes).calls := rfl
    rw [calls]
    cases hn : f.nodes[i]? with
    | none =>
      rw [Eff.run_onNth_none hn]
      simp [visits_node, hn]
    | some n =>
      rw [Eff.run_onNth_some hn]
      simpa [visits_node, hn] using IbNode.calls_call build op io i n
  | port i j =>
    rw [call_port]
    have calls : ((onNode i (IbNode.onPort j (Port.call build op (io i j)))).run f).calls =
        ((Eff.onNth i (IbNode.onPort j (Port.call build op (io i j)))).run f.nodes).calls := rfl
    rw [calls]
    cases hn : f.nodes[i]? with
    | none =>
      rw [Eff.run_onNth_none hn]
      simp [visits_port, hn]
    | some n =>
      have inner : ((IbNode.onPort j (Port.call build op (io i j))).run n).calls =
        ((Eff.onNth j (Port.call build op (io i j))).run n.ports).calls := rfl
      rw [Eff.run_onNth_some hn, inner]
      cases hp : n.ports[j]? with
      | none =>
        rw [Eff.run_onNth_none hp]
        simp [visits_port, hn, hp]
      | some p =>
        rw [Eff.run_onNth_some hp]
        simp [visits_port, hn, hp]

/-- What a call does at each place. -/
def PortsCalled (build : Build) (c : FabricCall) (visits : List (Port × ℕ × ℕ)) (i : ℕ)
    (n n' : IbNode) : Prop :=
  Pointwise (fun j p p' => p' =
    if (i, j) ∈ visits.map Prod.snd then ((Port.call build c.op (c.io i j)).run p).state else p)
    n.ports n'.ports

/-- The ports that the call gets to are called, and the others stay as they are. -/
theorem ports_call (c : FabricCall) : Pointwise (PortsCalled build c (f.visits build c))
    f.nodes (Eff.after (call build c) f).nodes := by
  obtain ⟨op, target, io⟩ := c
  have kept : ∀ {visits : List (Port × ℕ × ℕ)} {i : ℕ} {n : IbNode},
      (∀ j, (i, j) ∉ visits.map Prod.snd) → PortsCalled build ⟨op, target, io⟩ visits i n n :=
    fun absent => ⟨rfl, fun j p p' hp hp' => by
      rw [if_neg (absent j)]
      exact Option.some.inj (hp'.symm.trans hp)⟩
  cases target with
  | fabric =>
    have each : ∀ n ∈ f.nodes, ∀ i (u : Unit),
        ((Eff.onItem (IbNode.call build op (io i))).run (n, u)).result =
          Eff.ending (firstFailure build op io (n.portsAt i)) ∧
        ((Eff.onItem (IbNode.call build op (io i))).run (n, u)).state.1 =
          ((IbNode.call build op (io i)).run n).state :=
      fun n _ i _ => ⟨IbNode.result_call build op io i n, rfl⟩
    have nodes := Pointwise.of_reached each 0 ()
    rw [call_fabric]
    refine ⟨nodes.length_eq, fun i n n' hn hn' => ?_⟩
    have changed := nodes.at_index i n n' hn hn'
    rw [Nat.zero_add] at changed
    by_cases got : i ∈ (Eff.reached (fun x => firstFailure build op io (x.1.portsAt x.2))
        f.nodes.zipIdx).map Prod.snd
    · rw [if_pos got] at changed
      rw [changed]
      refine (IbNode.ports_call build op io i n).imp fun j p p' called => ?_
      simp only [called, mem_visits_fabric build op io hn, got, true_and]
    · rw [if_neg got] at changed
      rw [changed]
      exact kept fun j inside => got ((mem_visits_fabric build op io hn j).mp inside).1
  | node i =>
    rw [call_node]
    refine ⟨(Pointwise.onNth_state i _ f.nodes).length_eq, fun k n n' hn hn' => ?_⟩
    have changed := (Pointwise.onNth_state i _ f.nodes).at_index k n n' hn hn'
    by_cases same : k = i
    · subst same
      rw [if_pos rfl] at changed
      have visits : (some n).toList.flatMap (IbNode.visits build op io k) =
          n.visits build op io k := by simp
      rw [changed, visits_node, hn, visits]
      exact IbNode.ports_call build op io k n
    · rw [if_neg same] at changed
      rw [changed, visits_node]
      refine kept fun j inside => same ?_
      obtain ⟨x, hx, place⟩ := List.mem_map.mp inside
      obtain ⟨m, -, hx⟩ := List.mem_flatMap.mp hx
      rw [← (IbNode.place_of_mem_visits hx).1, place]
  | port i j =>
    rw [call_port]
    refine ⟨(Pointwise.onNth_state i _ f.nodes).length_eq, fun k n n' hn hn' => ?_⟩
    have changed := (Pointwise.onNth_state i _ f.nodes).at_index k n n' hn hn'
    by_cases same : k = i
    · subst same
      rw [if_pos rfl] at changed
      have ports := Pointwise.onNth_state j (Port.call build op (io k j)) n.ports
      rw [changed, visits_port, hn]
      refine ⟨ports.length_eq, fun l p p' hp hp' => ?_⟩
      have called := ports.at_index l p p' hp hp'
      by_cases here : l = j
      · subst here
        simpa [hp] using called
      · have apart : (k, l) ∉ ((((some n).bind fun n => n.ports[j]?).toList.map
            fun p => (p, k, j))).map Prod.snd := by
          simpa using fun _ _ same => here same.symm
        rw [if_neg here] at called
        rw [if_neg apart]
        exact called
    · rw [if_neg same] at changed
      rw [changed, visits_port]
      refine kept fun l inside => same ?_
      obtain ⟨x, hx, place⟩ := List.mem_map.mp inside
      obtain ⟨p, -, rfl⟩ := List.mem_map.mp hx
      exact (congrArg Prod.fst place).symm

end IbFabric

/-! ## Requests -/

namespace IbPort

/-- The requests of a reset: the second one is made after the first one succeeded. -/
def resetRequests (a : MadAnswers) (p : IbPort) : List ExtCall :=
  let reset attr := ExtCall.performanceResetVia p.portId p.portNum 0xffffffff attr p.madPort
  if a.reset p.portId p.portNum 0xffffffff .gsiPortCounters then
    [reset .gsiPortCounters, reset .gsiPortCountersExt]
  else [reset .gsiPortCounters]

/-- The queries of a refresh. A query that fails is the last one, and one query is left out when the
extended counters have its values. -/
def refreshRequests (build : Build) (a : MadAnswers) (p : IbPort) : List ExtCall :=
  let query attr := ExtCall.pmaQueryVia p.portId p.portNum attr p.madPort
  if (a.pma 0 p.portId p.portNum .gsiPortCountersExt).isNone then [query .gsiPortCountersExt]
  else if p.usesExtErrors build || (a.pma 1 p.portId p.portNum .gsiPortCounters).isNone then
    [query .gsiPortCountersExt, query .gsiPortCounters]
  else [query .gsiPortCountersExt, query .gsiPortCounters, query .gsiPortCounters]

theorem calls_resetCounters (a : MadAnswers) (p : IbPort) :
    ((resetCounters a).run p).calls = p.resetRequests a := by
  cases h : a.reset p.portId p.portNum 0xffffffff .gsiPortCounters
  all_goals
    cases h' : a.reset p.portId p.portNum 0xffffffff .gsiPortCountersExt
    all_goals simp [resetCounters, performanceResetVia, resetRequests, h, h']

theorem calls_refreshRest (a : MadAnswers) (p s : IbPort) : ((refreshRest a p).run s).calls =
    [.pmaQueryVia p.portId p.portNum .gsiPortCounters p.madPort] := by
  cases h : a.pma 2 p.portId p.portNum .gsiPortCounters <;> simp [refreshRest, pmaQueryVia, h]

theorem calls_refreshCounters (build : Build) (a : MadAnswers) (p : IbPort) :
    ((refreshCounters build a).run p).calls = p.refreshRequests build a := by
  cases ext : a.pma 0 p.portId p.portNum .gsiPortCountersExt with
  | none => simp [refreshCounters, refreshExtended, pmaQueryVia, refreshRequests, ext]
  | some buf =>
    have decoded : ∀ s, ∃ t, (refreshExtended a p).run s =
        ⟨.ok buf, t, [.pmaQueryVia p.portId p.portNum .gsiPortCountersExt p.madPort]⟩ := by
      intro s
      cases wide : p.isExtendedWidthSupported <;>
        simp [refreshExtended, pmaQueryVia, ext, wide]
    obtain ⟨t, first⟩ := decoded p
    cases path : p.usesExtErrors build with
    | true =>
      cases wait : p.isXmitWaitSupported <;>
        simp [refreshCounters, first, refreshErrors, refreshRequests, ext, path, wait,
          calls_refreshRest]
    | false =>
      cases errors : a.pma 1 p.portId p.portNum .gsiPortCounters with
      | none =>
        simp [refreshCounters, first, refreshErrors, pmaQueryVia, refreshRequests, ext, path, errors]
      | some buf' =>
        cases wait : p.isXmitWaitSupported <;>
          simp [refreshCounters, first, refreshErrors, pmaQueryVia, refreshRequests, ext, path,
            errors, wait, calls_refreshRest]

end IbPort

namespace Port

/-- The external calls that a call of a port makes. A compatibility port only reads files. -/
def requests (build : Build) (op : CounterOp) (io : PortIo) : Port → List ExtCall
  | mad p =>
    match op with
    | .reset => p.resetRequests io.mad
    | .refresh => p.refreshRequests build io.mad
  | compat _ => []

theorem calls_call (build : Build) (op : CounterOp) (io : PortIo) (p : Port) :
    ((call build op io).run p).calls = p.requests build op io := by
  have silent : ∀ {q : IbPortCompat} {x : Method IbPortCompat Unit},
      Eff.Makes (fun _ => False) x q → (x.run q).calls = [] :=
    fun makes => List.eq_nil_iff_forall_not_mem.mpr makes
  cases p with
  | mad p =>
    cases op with
    | reset => exact IbPort.calls_resetCounters io.mad p
    | refresh => exact IbPort.calls_refreshCounters build io.mad p
  | compat p =>
    cases op with
    | reset => exact silent (IbPortCompat.silent_resetCounters io.files p)
    | refresh => exact silent (IbPortCompat.silent_refreshCounters io.files p)

theorem Moved.requests {p q : Port} (h : p.Moved q) (build : Build) (op : CounterOp) (io : PortIo) :
    q.requests build op io = p.requests build op io := by
  cases h <;> rfl

/-- A refresh makes queries only. -/
theorem query_of_mem_requests {build : Build} {io : PortIo} {p : Port} {c : ExtCall}
    (h : c ∈ p.requests build .refresh io) :
    ∃ dest port attr srcport, c = .pmaQueryVia dest port attr srcport := by
  cases p with
  | mad p =>
    rw [requests, IbPort.refreshRequests] at h
    split at h
    · obtain rfl := List.mem_singleton.mp h
      exact ⟨_, _, _, _, rfl⟩
    · split at h
      · obtain rfl | rfl : _ ∨ _ := by simpa using h
        · exact ⟨_, _, _, _, rfl⟩
        · exact ⟨_, _, _, _, rfl⟩
      · obtain rfl | rfl : _ ∨ _ := by simpa using h
        · exact ⟨_, _, _, _, rfl⟩
        · exact ⟨_, _, _, _, rfl⟩
  | compat p => cases h

end Port

/-- A call of a node that returns makes the requests of all its ports. -/
theorem IbNode.requests_subset_of_returns {build : Build} {op : CounterOp} {io : NodeIo}
    {n n' : IbNode} (h : Eff.Returns (call build op io) n () n') {j : ℕ} {p : Port}
    (hp : n.ports[j]? = some p) :
    p.requests build op (io j) ⊆ ((call build op io).run n).calls := by
  have ends := (result_call build op (fun _ => io) 0 n).symm.trans h.1
  have none : firstFailure build op (fun _ => io) (n.portsAt 0) = none := by
    cases failed : firstFailure build op (fun _ => io) (n.portsAt 0) with
    | none => rfl
    | some e =>
      rw [failed] at ends
      cases ends
  have all : n.visits build op (fun _ => io) 0 = n.portsAt 0 := Eff.reached_of_none none
  have visited : (p, 0, j) ∈ n.portsAt 0 :=
    List.mem_map.mpr ⟨(p, j), List.mem_zipIdx_iff_getElem?.mpr hp, rfl⟩
  intro c hc
  rw [calls_call build op (fun _ => io) 0, all]
  refine List.mem_flatMap.mpr ⟨_, visited, ?_⟩
  rwa [Port.calls_call]

namespace IbFabric

variable {build : Build} {f g : IbFabric}

/-- Later a call could get to the same places, and to the same ports but for their counters. -/
theorem Moved.portsIn (h : f.Moved g) (t : Target) :
    List.Forall₂ (fun x y => y.2 = x.2 ∧ x.1.Moved y.1) (f.portsIn t) (g.portsIn t) := by
  have inNode : ∀ (i : ℕ) {n n' : IbNode}, n.Moved n' →
      List.Forall₂ (fun x y => y.2 = x.2 ∧ x.1.Moved y.1) (n.portsAt i) (n'.portsAt i) := by
    intro i n n' moved
    refine List.forall₂_map_left_iff.mpr (List.forall₂_map_right_iff.mpr ?_)
    exact moved.ports.forall₂_zipIdx.imp fun x y related =>
      ⟨congrArg (Prod.mk i) related.1, related.2⟩
  cases t with
  | fabric =>
    exact List.rel_flatMap h.nodes.forall₂_zipIdx fun x y related => by
      rw [related.1]
      exact inNode x.2 related.2
  | node i =>
    cases hn : f.nodes[i]? with
    | none =>
      have hn' : g.nodes[i]? = none := by
        rw [List.getElem?_eq_none_iff] at hn ⊢
        rwa [h.nodes.length_eq]
      simp [IbFabric.portsIn, hn, hn']
    | some n =>
      obtain ⟨n', hn', moved⟩ := h.nodes.target hn
      simpa [IbFabric.portsIn, hn, hn'] using inNode i moved
  | port i j =>
    cases hn : f.nodes[i]? with
    | none =>
      have hn' : g.nodes[i]? = none := by
        rw [List.getElem?_eq_none_iff] at hn ⊢
        rwa [h.nodes.length_eq]
      simp [IbFabric.portsIn, hn, hn']
    | some n =>
      obtain ⟨n', hn', node⟩ := h.nodes.target hn
      cases hp : n.ports[j]? with
      | none =>
        have hp' : n'.ports[j]? = none := by
          rw [List.getElem?_eq_none_iff] at hp ⊢
          rwa [node.ports.length_eq]
        simp [IbFabric.portsIn, hn, hn', hp, hp']
      | some p =>
        obtain ⟨p', hp', port⟩ := node.ports.target hp
        simpa [IbFabric.portsIn, hn, hn', hp, hp'] using port

/-- In MAD mode a call gets to the same ports whatever calls were made before it. -/
theorem Moved.visits (h : f.Moved g) (mad : AllInMode false f.nodes) (c : FabricCall) :
    List.Forall₂ (fun x y => y.2 = x.2 ∧ x.1.Moved y.1) (f.visits build c) (g.visits build c) := by
  have each : ∀ x ∈ f.portsIn c.target, x.1.isCompat = false := by
    intro x hx
    obtain ⟨n, hn, hp⟩ := mem_portsIn hx
    exact (mad n (List.mem_of_getElem? hn) x.1 (List.mem_of_getElem? hp)).isCompat
  have related := (List.forall₂_and_left _ _).mpr ⟨each, h.portsIn c.target⟩
  refine (Eff.forall₂_reached (fun x y xy => ?_) related).imp fun x y xy => xy.2
  rw [xy.2.1]
  exact (xy.2.2.failure_eq xy.1 build c.op _).symm

/-- The requests of a call can be told from the fabric that was built. -/
theorem requests_moved {compatibility : Bool} (h : f.Moved g)
    (inMode : AllInMode compatibility f.nodes) (c : FabricCall) :
    ((g.visits build c).flatMap fun x => x.1.requests build c.op (c.io x.2.1 x.2.2)) =
      (f.visits build c).flatMap fun x => x.1.requests build c.op (c.io x.2.1 x.2.2) := by
  cases compatibility with
  | false =>
    rw [List.flatMap_def, List.flatMap_def]
    refine congrArg List.flatten (map_eq_map_of_forall₂ ?_).symm
    refine (h.visits inMode c).imp fun x y xy => ?_
    rw [xy.1]
    exact (xy.2.requests build c.op _).symm
  | true =>
    have none : ∀ {k : IbFabric}, AllInMode true k.nodes → ((k.visits build c).flatMap fun x =>
        x.1.requests build c.op (c.io x.2.1 x.2.2)) = [] := by
      intro k compat
      refine List.flatMap_eq_nil_iff.mpr fun x hx => ?_
      obtain ⟨n, hn, hp⟩ := mem_portsIn ((Eff.reached_sublist _ _).subset hx)
      have mode := (compat n (List.mem_of_getElem? hn) x.1 (List.mem_of_getElem? hp)).isCompat
      cases port : x.1 with
      | mad p =>
        rw [port] at mode
        cases mode
      | compat p => rfl
    rw [none inMode, none (h.allInMode inMode)]

/-- The external calls of a run: for each call in its order the requests of the ports that it gets
to, addressed as the ports of the fabric that was built. In compatibility mode there are none. -/
theorem traces_runs {std : StdSort IbNode} {a : DiscoveryAnswers} {network compatibility : Bool}
    {m m' : ℕ} (created : Eff.Returns (create std build a network compatibility) m f m')
    (calls : List FabricCall) : Eff.traces (call build) calls f = calls.flatMap fun c =>
      (f.visits build c).flatMap fun x => x.1.requests build c.op (c.io x.2.1 x.2.2) := by
  have inMode := allInMode_of_create created
  have run : ∀ g, f.Moved g → Eff.traces (call build) calls g = calls.flatMap fun c =>
      (f.visits build c).flatMap fun x => x.1.requests build c.op (c.io x.2.1 x.2.2) := by
    induction calls with
    | nil => exact fun _ _ => rfl
    | cons c calls ih =>
      intro g moved
      have first : ((call build c).run g).calls =
          (g.visits build c).flatMap fun x => x.1.requests build c.op (c.io x.2.1 x.2.2) := by
        rw [calls_call]
        exact List.flatMap_congr fun x _ => Port.calls_call build c.op _ x.1
      rw [Eff.traces, first, requests_moved moved inMode c,
        ih _ (moved.trans (moved_call build c g)), List.flatMap_cons]
  exact run f (.refl f)

/-! ## Runs of one port -/

/-- The calls of a run that get to a port. -/
def history (build : Build) (i j : ℕ) : List FabricCall → IbFabric → List (CounterOp × PortIo)
  | [], _ => []
  | c :: calls, f =>
    (if (i, j) ∈ (f.visits build c).map Prod.snd then [(c.op, c.io i j)] else []) ++
      history build i j calls (Eff.after (call build c) f)

/-- What a run does to a port, its calls that get to the port do. -/
theorem port_of_runs (build : Build) {i j : ℕ} (calls : List FabricCall) {f : IbFabric} {n : IbNode}
    {p : Port} (hn : f.nodes[i]? = some n) (hp : n.ports[j]? = some p) :
    ∃ n', (Eff.runs (call build) calls f).nodes[i]? = some n' ∧ n'.ports[j]? =
      some (Eff.runs (fun x => Port.call build x.1 x.2) (f.history build i j calls) p) := by
  induction calls generalizing f n p with
  | nil => exact ⟨n, hn, hp⟩
  | cons c calls ih =>
    have nodes := ports_call build f c
    obtain ⟨n₁, hn₁, ports⟩ := nodes.target hn
    obtain ⟨p₁, hp₁, called⟩ := ports.target hp
    obtain ⟨n', hn', hp'⟩ := ih hn₁ hp₁
    refine ⟨n', hn', hp'.trans (congrArg some ?_)⟩
    rw [called, history]
    split
    · rfl
    · rfl

/-- In MAD mode it does not depend on the calls before it whether a call gets to a port. -/
theorem history_mad {f : IbFabric} (mad : AllInMode false f.nodes) (build : Build) (i j : ℕ)
    (calls : List FabricCall) {g : IbFabric} (moved : f.Moved g) : g.history build i j calls =
      (calls.filter fun c => (i, j) ∈ (f.visits build c).map Prod.snd).map
        fun c => (c.op, c.io i j) := by
  induction calls generalizing g with
  | nil => rfl
  | cons c calls ih =>
    have places : (f.visits build c).map Prod.snd = (g.visits build c).map Prod.snd :=
      map_eq_map_of_forall₂ ((moved.visits mad c).imp fun _ _ xy => xy.1.symm)
    rw [history, ih (moved.trans (moved_call build c g)), List.filter_cons, ← places]
    by_cases got : (i, j) ∈ (f.visits build c).map Prod.snd
    · simp only [got, if_true, decide_true, List.map_cons, List.singleton_append]
    · simp only [got, if_false, decide_false, Bool.false_eq_true, List.nil_append]

/-- A run leaves each port as the calls that get to it leave it, whatever is done to the other ports
between them. In MAD mode these calls can be told from the fabric that was built. -/
theorem port_runs {std : StdSort IbNode} {build : Build} {a : DiscoveryAnswers}
    {network compatibility : Bool} {m m' : ℕ} {f : IbFabric}
    (created : Eff.Returns (create std build a network compatibility) m f m')
    (calls : List FabricCall) {i j : ℕ} {n : IbNode} {p : Port} (hn : f.nodes[i]? = some n)
    (hp : n.ports[j]? = some p) :
    (∃ n', (Eff.runs (call build) calls f).nodes[i]? = some n' ∧ n'.ports[j]? =
      some (Eff.runs (fun x => Port.call build x.1 x.2) (f.history build i j calls) p)) ∧
    (compatibility = false → f.history build i j calls =
      (calls.filter fun c => (i, j) ∈ (f.visits build c).map Prod.snd).map
        fun c => (c.op, c.io i j)) := by
  refine ⟨port_of_runs build calls hn hp, ?_⟩
  rintro rfl
  exact history_mad (allInMode_of_create created) build i j calls (.refl f)

/-! ## Examples -/

/-- A refresh whose second query fails makes two queries, and a reset of the port two requests. -/
theorem traces_runs_second_query :
    let build : Build := ⟨true, .little⟩
    let dest : IbPortId := (IbPort.plainPort ibNodeCa 2 2).portId
    let port : Option Handle := (IbPort.plainPort ibNodeCa 2 2).madPort
    Eff.traces (call build) [⟨.refresh, .fabric, fun _ _ => secondQueryFails 9⟩,
        ⟨.reset, .port 0 0, everyPortShows 7⟩] (.plain build .plainMad) =
      [.pmaQueryVia dest 1 .gsiPortCountersExt port, .pmaQueryVia dest 1 .gsiPortCounters port,
       .performanceResetVia dest 1 0xffffffff .gsiPortCounters port,
       .performanceResetVia dest 1 0xffffffff .gsiPortCountersExt port] := by
  intro build dest port
  rw [traces_runs (create_plainMad (.stable _) build rfl)]
  decide

/-- Calls of two ports, one after the other and together. Those of the second port are the first
one, its own reset, and the last one: the refresh before that fails at the first port. -/
theorem port_runs_plain :
    let build : Build := ⟨true, .little⟩
    let fails : FabricIo := fun _ j => if j = 0 then secondQueryFails 9 else everyPortShows 9 0 0
    let calls : List FabricCall := [⟨.refresh, .fabric, everyPortShows 7⟩,
      ⟨.reset, .port 0 1, everyPortShows 7⟩, ⟨.refresh, .port 0 0, everyPortShows 8⟩,
      ⟨.refresh, .fabric, fails⟩, ⟨.refresh, .node 0, everyPortShows 10⟩]
    ∃ p n', IbNode.dual.ports[1]? = some p ∧
      (Eff.runs (IbFabric.call build) calls ⟨none, [.dual]⟩).nodes[0]? = some n' ∧
      n'.ports[1]? = some (Eff.runs (fun x => Port.call build x.1 x.2)
        [(.refresh, everyPortShows 7 0 1), (.reset, everyPortShows 7 0 1),
          (.refresh, everyPortShows 10 0 1)] p) := by
  intro build fails calls
  obtain ⟨p, second⟩ : ∃ p, IbNode.dual.ports[1]? = some p := ⟨_, rfl⟩
  obtain ⟨⟨n', node, port⟩, closed⟩ :=
    port_runs (create_dual (.stable _)) calls (i := 0) (j := 1) rfl second
  have got : calls.filter (fun c => (0, 1) ∈
      ((IbFabric.mk none [.dual]).visits build c).map Prod.snd) =
      [⟨.refresh, .fabric, everyPortShows 7⟩, ⟨.reset, .port 0 1, everyPortShows 7⟩,
        ⟨.refresh, .node 0, everyPortShows 10⟩] := rfl
  rw [closed rfl, got] at port
  exact ⟨p, n', second, node, port⟩

end IbFabric

end Detector
