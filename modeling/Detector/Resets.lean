import Detector.FileRuns
import Detector.IbFabric
import Detector.Library.Pointwise
import Detector.MadRuns

/-!
# Resets in a fabric

Four classes reset their counters. `IbPort` and `IbNode` zero their variables; `IbPortCompat`
and `IbDiagPerfCounter` only record base values, so their getters go on showing what the last
refresh left. This module follows the calls of a client on any object of a fabric and says what
they do to the counters at each position.
-/
namespace Detector

open Cpp

/-! ## Targets -/

namespace IbFabric.Target

/-- The node is the target or below it. -/
def hasNode : Target → ℕ → Prop
  | .fabric, _ => True
  | .node i, k => k = i
  | .port _ _, _ => False

/-- The port is the target or below it. -/
def hasPort : Target → ℕ → ℕ → Prop
  | .fabric, _, _ => True
  | .node i, k, _ => k = i
  | .port i j, k, l => k = i ∧ l = j

/-- One of the two objects is the other one or below it. -/
def overlaps : Target → Target → Prop
  | .fabric, _ | _, .fabric => True
  | .node i, .node k | .node i, .port k _ | .port i _, .node k => i = k
  | .port i j, .port k l => i = k ∧ j = l

end IbFabric.Target

open IbFabric (Target FabricCall)

/-! ## What a reset does to a port -/

/-- The counters of a MAD port become 0, those of a compatibility port stay. -/
def ResetPort (p p' : Port) : Prop :=
  match p with
  | .mad _ => ∀ v, p'.counters v = 0
  | .compat _ => ∀ v, p'.counters v = p.counters v

theorem resetPort_resetCounters (io : PortIo) (p : Port) :
    ResetPort p ((Port.resetCounters io).run p).state := by
  cases p with
  | mad p =>
    intro v
    have state : ((IbPort.resetCounters io.mad).run p).state = _ := IbPort.run_resetCounters.1
    change ((IbPort.resetCounters io.mad).run p).state.counters v = 0
    rw [state]
    rfl
  | compat p =>
    intro v
    change ((IbPortCompat.resetCounters io.files).run p).state.counters v = p.counters v
    cases FileCounters.resetWith_ends io.files p.fileCounters false with
    | done t _ ends _ counters =>
      have same : ((IbPortCompat.resetCounters io.files).run p).state = p.withFileCounters t := by
        rw [IbPortCompat.resetCounters, Eff.run_focus, ends.2]
      rw [same, IbPortCompat.withFileCounters, counters]
      rfl
    | stopped _ _ _ _ _ isTested => cases isTested

/-- Zeros stay zeros. -/
theorem ResetPort.zero {p p' : Port} (h : ResetPort p p') (zero : ∀ v, p.counters v = 0)
    (v : PerfVar) : p'.counters v = 0 := by
  cases p with
  | mad p => exact h v
  | compat p => exact (h v).trans (zero v)

/-! ## What calls do to the positions -/

namespace IbNode

variable {R : ℕ → Port → Port → Prop} (n : IbNode) (io : NodeIo)

theorem pointwise_resetCounters (refl : ∀ j p, R j p p)
    (step : ∀ j p, R j p ((Port.resetCounters (io j)).run p).state) :
    Pointwise R n.ports ((resetCounters io).run n).state.ports :=
  Pointwise.visit (fun j => Eff.onItem (Port.resetCounters (io j))) refl
    (fun j p _ => step j p) (n.ports, IbPerfCounter.resetVariables n.counters)

theorem counters_resetCounters (v : PerfVar) :
    ((resetCounters io).run n).state.counters v = 0 := by
  obtain ⟨_, n', ends⟩ | ⟨e, n', ends⟩ := Eff.returns_or_throws (resetCounters io) n
  · obtain ⟨ports, -, rfl⟩ := returns_resetCounters.mp ends
    rw [ends.2]
    rfl
  · obtain ⟨pre, p, post, pre', p', -, -, -, rfl⟩ := throws_resetCounters ends
    rw [ends.2]
    rfl

theorem pointwise_refreshCounters (build : Build) (refl : ∀ j p, R j p p)
    (step : ∀ j p, R j p ((Port.refreshCounters build (io j)).run p).state) :
    Pointwise R n.ports ((refreshCounters build io).run n).state.ports := by
  refine Pointwise.visit (fun j => refreshPort build (io j)) refl
    (fun j p c => ?_) (n.ports, IbPerfCounter.resetVariables n.counters)
  have same : ((refreshPort build (io j)).run (p, c)).state.1 =
      ((Port.refreshCounters build (io j)).run p).state := by
    rw [refreshPort, Eff.run_bind, Eff.onItem, Eff.run_focus]
    cases h : ((Port.refreshCounters build (io j)).run p).result with
    | ok _ => simp [Eff.andThen]
    | error _ => simp [Eff.andThen]
  rw [same]
  exact step j p

end IbNode

/-- At the positions of the target, zeros stay zeros. -/
structure NodeKept (t : Target) (i : ℕ) (n n' : IbNode) : Prop where
  counters : t.hasNode i → (∀ v, n.counters v = 0) → ∀ v, n'.counters v = 0
  ports : Pointwise (fun j p p' => t.hasPort i j → (∀ v, p.counters v = 0) →
    ∀ v, p'.counters v = 0) n.ports n'.ports

theorem NodeKept.refl (t : Target) (i : ℕ) (n : IbNode) : NodeKept t i n n :=
  ⟨fun _ zero => zero, Pointwise.of_refl (fun _ _ _ zero => zero) _⟩

theorem nodeKept_resetCounters (t : Target) (i : ℕ) (io : NodeIo) (n : IbNode) :
    NodeKept t i n ((IbNode.resetCounters io).run n).state where
  counters _ _ := n.counters_resetCounters io
  ports := n.pointwise_resetCounters io (fun _ _ _ zero => zero)
    fun j p _ => (resetPort_resetCounters (io j) p).zero

theorem nodeKept_refreshCounters {t : Target} {i : ℕ} (apart : ¬ t.overlaps (.node i))
    (build : Build) (io : NodeIo) (n : IbNode) :
    NodeKept t i n ((IbNode.refreshCounters build io).run n).state := by
  have noNode : ¬ t.hasNode i := by
    cases t <;> simp_all [IbFabric.Target.hasNode, IbFabric.Target.overlaps, eq_comm]
  have noPort : ∀ j, ¬ t.hasPort i j := by
    cases t <;> simp_all [IbFabric.Target.hasPort, IbFabric.Target.overlaps, eq_comm]
  refine ⟨fun h => absurd h noNode, ?_⟩
  exact n.pointwise_refreshCounters io build (fun _ _ _ zero => zero)
    fun j _ h => absurd h (noPort j)

theorem nodeKept_onPort {t : Target} {i j : ℕ} {x : Method Port Unit}
    (step : ∀ p, t.hasPort i j → (∀ v, p.counters v = 0) → ∀ v, (x.run p).state.counters v = 0)
    (n : IbNode) : NodeKept t i n ((IbNode.onPort j x).run n).state where
  counters _ zero := zero
  ports := Pointwise.onNth (fun _ _ _ zero => zero) (fun p => step p) n.ports

/-- A reset anywhere, and a refresh of an object apart from the target, keep its zeros. -/
theorem kept_call {t : Target} (build : Build) {c : FabricCall}
    (apart : c.op = .refresh → ¬ t.overlaps c.target) (f : IbFabric) :
    Pointwise (NodeKept t) f.nodes (Eff.after (IbFabric.call build c) f).nodes := by
  obtain ⟨op, target, io⟩ := c
  have refl := NodeKept.refl t
  cases op with
  | reset =>
    cases target with
    | fabric =>
      exact Pointwise.visit (fun i => Eff.onItem (IbNode.resetCounters (io i))) refl
        (fun i n _ => nodeKept_resetCounters t i (io i) n) (f.nodes, ())
    | node i =>
      exact Pointwise.onNth refl (nodeKept_resetCounters t i (io i)) f.nodes
    | port i j =>
      refine Pointwise.onNth refl (nodeKept_onPort fun p _ => ?_) f.nodes
      exact (resetPort_resetCounters (io i j) p).zero
  | refresh =>
    have apart := apart rfl
    cases target with
    | fabric =>
      exact absurd (by cases t <;> trivial) apart
    | node i =>
      exact Pointwise.onNth refl (nodeKept_refreshCounters apart build (io i)) f.nodes
    | port i j =>
      have noPort : ¬ t.hasPort i j := by
        cases t <;> simp_all [IbFabric.Target.hasPort, IbFabric.Target.overlaps, eq_comm]
      exact Pointwise.onNth refl (nodeKept_onPort fun _ h => absurd h noPort) f.nodes

/-! ## What a reset that returned has done -/

/-- At the positions of the target, the variables of nodes are 0 and the ports were reset. The other
positions are as they were. -/
structure NodeReset (t : Target) (i : ℕ) (n n' : IbNode) : Prop where
  counters : t.hasNode i → ∀ v, n'.counters v = 0
  kept : ¬ t.hasNode i → n'.counters = n.counters
  ports : Pointwise (fun j p p' => (t.hasPort i j → ResetPort p p') ∧ (¬ t.hasPort i j → p' = p))
    n.ports n'.ports

/-- A node of the target has all its ports below the target. -/
theorem IbFabric.Target.hasPort_of_hasNode {t : Target} {i : ℕ} (h : t.hasNode i) (j : ℕ) :
    t.hasPort i j := by
  cases t with
  | fabric => trivial
  | node k => exact h
  | port k l => cases h

theorem nodeReset_of_returns {t : Target} {i : ℕ} {io : NodeIo} {n n' : IbNode}
    (below : t.hasNode i) (h : Eff.Returns (IbNode.resetCounters io) n () n') :
    NodeReset t i n n' := by
  refine ⟨fun _ => ?_, fun apart => absurd below apart, ?_⟩
  · rw [← h.2]
    exact n.counters_resetCounters io
  · obtain ⟨ports, each, rfl⟩ := IbNode.returns_resetCounters.mp h
    refine Pointwise.of_each each fun j p p' ends => ⟨fun _ => ?_, fun apart => ?_⟩
    · rw [Nat.zero_add] at ends
      rw [← ends.2]
      exact resetPort_resetCounters (io j) p
    · exact absurd (IbFabric.Target.hasPort_of_hasNode below j) apart

/-- The rest of a fabric does not notice a reset of a node or of a port. -/
theorem nodeReset_of_not_hasPort {t : Target} {i : ℕ} (noPort : ∀ j, ¬ t.hasPort i j)
    (n : IbNode) : NodeReset t i n n :=
  ⟨fun h => absurd (IbFabric.Target.hasPort_of_hasNode h 0) (noPort 0), fun _ => rfl,
    Pointwise.of_refl (fun j _ => ⟨fun h => absurd h (noPort j), fun _ => rfl⟩) _⟩

/-- What the call has left at the positions of its target. -/
theorem reset_of_returns {build : Build} {t : Target} {io : FabricIo} {f f' : IbFabric}
    (h : Eff.Returns (IbFabric.call build ⟨.reset, t, io⟩) f () f') :
    Pointwise (NodeReset t) f.nodes f'.nodes := by
  cases t with
  | fabric =>
    obtain ⟨⟨nodes, u⟩, ends, rfl⟩ := Eff.returns_focus.mp h
    obtain ⟨each, -⟩ := Eff.visited_onItem.mp (Eff.returns_visit.mp ends)
    exact Pointwise.of_each each fun i n n' ends => nodeReset_of_returns trivial ends
  | node i =>
    obtain ⟨nodes, ends, rfl⟩ := Eff.returns_focus.mp h
    refine (Pointwise.of_onNth ends).imp fun k n n' changed => ?_
    by_cases hk : k = i
    · rw [if_pos hk] at changed
      exact nodeReset_of_returns (t := .node i) hk changed
    · rw [if_neg hk] at changed
      rw [changed]
      exact nodeReset_of_not_hasPort (t := .node i) (fun _ => hk) n
  | port i j =>
    obtain ⟨nodes, ends, rfl⟩ := Eff.returns_focus.mp h
    refine (Pointwise.of_onNth ends).imp fun k n n' changed => ?_
    by_cases hk : k = i
    · rw [if_pos hk] at changed
      obtain ⟨ports, ends', rfl⟩ := Eff.returns_focus.mp changed
      refine ⟨fun h => absurd h id, fun _ => rfl,
        (Pointwise.of_onNth ends').imp fun l p p' changed' => ⟨fun hl => ?_, fun apart => ?_⟩⟩
      · rw [if_pos hl.2] at changed'
        rw [← changed'.2]
        exact resetPort_resetCounters (io i j) p
      · rwa [if_neg fun hl => apart ⟨hk, hl⟩] at changed'
    · rw [if_neg hk] at changed
      rw [changed]
      exact nodeReset_of_not_hasPort (t := .port i j) (fun _ h => hk h.1) n

/-! ## Resets in compatibility mode -/

/-- The reset of a compatibility port tests nothing, so it always returns. -/
theorem returns_resetCounters_compat (io : PortIo) (p : IbPortCompat) :
    ∃ p', Eff.Returns (Port.resetCounters io) (.compat p) () (.compat p') := by
  cases FileCounters.resetWith_ends io.files p.fileCounters false with
  | done t _ ends =>
    refine ⟨p.withFileCounters t, Port.returns_resetCounters_compat.mpr ⟨_, ?_, rfl⟩⟩
    exact Eff.returns_focus.mpr ⟨t, ends, rfl⟩
  | stopped _ _ _ _ _ isTested => cases isTested

/-- So does the reset of a node or a fabric in compatibility mode. -/
theorem IbNode.returns_resetCounters_of_compat {io : NodeIo} {n : IbNode}
    (h : ∀ p ∈ n.ports, ∃ q, p = .compat q) :
    Eff.Returns (resetCounters io) n () (Eff.after (resetCounters io) n) := by
  have each : Eff.Each (fun j => Port.resetCounters (io j)) 0 n.ports
      (n.ports.mapIdx fun j => Eff.after (Port.resetCounters (io j))) := by
    refine Eff.Each.mapIdx fun j p hp => ?_
    obtain ⟨q, rfl⟩ := h p (List.mem_of_getElem? hp)
    obtain ⟨q', ends⟩ := returns_resetCounters_compat (io j) q
    exact ⟨ends.1, rfl⟩
  have ends : Eff.Returns (resetCounters io) n () _ :=
    returns_resetCounters.mpr ⟨_, each, rfl⟩
  exact ⟨ends.1, rfl⟩

theorem IbFabric.returns_resetCounters_of_compat (io : FabricIo) {f : IbFabric}
    (h : ∀ n ∈ f.nodes, ∀ p ∈ n.ports, ∃ q, p = .compat q) :
    ∃ f', Eff.Returns (resetCounters io) f () f' := by
  have each : Eff.Each (fun i => IbNode.resetCounters (io i)) 0 f.nodes
      (f.nodes.mapIdx fun i => Eff.after (IbNode.resetCounters (io i))) :=
    Eff.Each.mapIdx fun i n hn =>
      IbNode.returns_resetCounters_of_compat (h n (List.mem_of_getElem? hn))
  exact ⟨_, Eff.returns_focus.mpr
    ⟨_, Eff.returns_visit.mpr (Eff.visited_onItem.mpr ⟨each, rfl⟩), rfl⟩⟩

/-! ## When zeros are shown -/

/-- Every getter of the object, and of the nodes and ports below it, returns 0, and the nodes
show the sums of their ports. -/
structure AllZero (t : Target) (f : IbFabric) : Prop where
  nodes : ∀ i n, f.nodes[i]? = some n → t.hasNode i → ∀ v, n.counters v = 0
  ports : ∀ i n, f.nodes[i]? = some n → ∀ j p, n.ports[j]? = some p → t.hasPort i j →
    ∀ v, p.counters v = 0
  sums : ∀ i n, f.nodes[i]? = some n → t.hasNode i → n.counters = IbNode.total n.ports

theorem IbNode.total_eq_zero {ports : List Port} (h : ∀ p ∈ ports, ∀ v, p.counters v = 0) :
    total ports = fun _ => 0 := by
  funext v
  induction ports with
  | nil => rfl
  | cons p ports ih =>
    rw [total_cons, h p (by simp) v, ih fun q hq => h q (by simp [hq])]
    rfl

/-- The sums follow from the zeros. -/
theorem AllZero.of_zeros {t : Target} {f : IbFabric}
    (nodes : ∀ i n, f.nodes[i]? = some n → t.hasNode i → ∀ v, n.counters v = 0)
    (ports : ∀ i n, f.nodes[i]? = some n → ∀ j p, n.ports[j]? = some p → t.hasPort i j →
      ∀ v, p.counters v = 0) : AllZero t f := by
  refine ⟨nodes, ports, fun i n hn hi => ?_⟩
  have zero : IbNode.total n.ports = fun _ => 0 := IbNode.total_eq_zero fun p hp => by
    obtain ⟨j, hj⟩ := List.mem_iff_getElem?.mp hp
    exact ports i n hn j p hj (IbFabric.Target.hasPort_of_hasNode hi j)
  rw [zero]
  exact funext (nodes i n hn hi)

theorem AllZero.kept {t : Target} {f f' : IbFabric} (h : AllZero t f)
    (kept : Pointwise (NodeKept t) f.nodes f'.nodes) : AllZero t f' := by
  refine AllZero.of_zeros (fun i n' hn' hi => ?_) fun i n' hn' j p' hp' hj => ?_
  · obtain ⟨n, hn, same⟩ := kept.source hn'
    exact same.counters hi (h.nodes i n hn hi)
  · obtain ⟨n, hn, same⟩ := kept.source hn'
    obtain ⟨p, hp, zero⟩ := same.ports.source hp'
    exact zero hj (h.ports i n hn j p hp hj)

/-- All getters show 0, whatever is called, until the object, a part of it or a whole that it
belongs to is refreshed. -/
def ZeroUntilRefresh (build : Build) (t : Target) (f : IbFabric) : Prop :=
  ∀ later : List FabricCall, (∀ c ∈ later, c.op = .refresh → ¬ t.overlaps c.target) →
    AllZero t (Eff.runs (IbFabric.call build) later f)

theorem AllZero.untilRefresh {t : Target} {f : IbFabric} (build : Build) (h : AllZero t f) :
    ZeroUntilRefresh build t f := fun later apart =>
  Eff.runs_invariant h later fun c g hc zero => zero.kept (kept_call build (apart c hc) g)

/-- Every compatibility port at or below the object shows 0. -/
def CompatPortsZero (t : Target) (f : IbFabric) : Prop :=
  ∀ i n, f.nodes[i]? = some n → ∀ j p, n.ports[j]? = some (.compat p) → t.hasPort i j →
    ∀ v, p.counters v = 0

/-- A reset that returned shows zeros exactly when the compatibility ports already did. -/
theorem allZero_iff {t : Target} {f f' : IbFabric}
    (reset : Pointwise (NodeReset t) f.nodes f'.nodes) :
    AllZero t f' ↔ CompatPortsZero t f := by
  constructor
  · intro zero i n hn j p hp hj v
    obtain ⟨n', hn', node⟩ := reset.target hn
    obtain ⟨p', hp', same⟩ := node.ports.target hp
    have kept : p'.counters v = p.counters v := same.1 hj v
    rw [← kept]
    exact zero.ports i n' hn' j p' hp' hj v
  · intro zero
    refine AllZero.of_zeros (fun i n' hn' hi => ?_) fun i n' hn' j p' hp' hj v => ?_
    · obtain ⟨n, -, node⟩ := reset.source hn'
      exact node.counters hi
    · obtain ⟨n, hn, node⟩ := reset.source hn'
      obtain ⟨p, hp, port⟩ := node.ports.source hp'
      cases p with
      | mad p => exact port.1 hj v
      | compat p => exact (port.1 hj v).trans (zero i n hn j p hp hj v)

/-! ## When sums are shown -/

/-- Every node of the fabric shows the sums of its ports. -/
def ShowsSums (f : IbFabric) : Prop := ∀ n ∈ f.nodes, n.counters = IbNode.total n.ports

/-- The ports of node `i` that are not below the target. -/
def IbFabric.Target.spared : Target → ℕ → List Port → List Port
  | .fabric, _, _ => []
  | .node k, i, ports => if i = k then [] else ports
  | .port k l, i, ports => if i = k then ports.eraseIdx l else ports

/-- Every node that is not reset itself shows the sums of those of its ports that are not reset. -/
def SparedSums (t : Target) (f : IbFabric) : Prop :=
  ∀ i n, f.nodes[i]? = some n → ¬ t.hasNode i → n.counters = IbNode.total (t.spared i n.ports)

/-- The share of one port in the sums. -/
theorem IbNode.total_eraseIdx {ports : List Port} {l : ℕ} {p : Port} (h : ports[l]? = some p)
    (v : PerfVar) : total ports v = p.counters v + total (ports.eraseIdx l) v := by
  induction ports generalizing l with
  | nil => cases h
  | cons q ports ih =>
    cases l with
    | zero =>
      obtain rfl : q = p := Option.some.inj h
      exact total_cons q ports v
    | succ l =>
      rw [total_cons, List.eraseIdx_cons_succ, total_cons, ih h, ← UInt64.add_assoc,
        ← UInt64.add_assoc, UInt64.add_comm (q.counters v)]

/-- When all ports of the target show 0, the others make up the sums. -/
theorem total_eq_spared {t : Target} {i : ℕ} {ports ports' : List Port} (noNode : ¬ t.hasNode i)
    (zero : ∀ j p, ports'[j]? = some p → t.hasPort i j → ∀ v, p.counters v = 0)
    (kept : Pointwise (fun j p p' => ¬ t.hasPort i j → p' = p) ports ports') :
    IbNode.total ports' = IbNode.total (t.spared i ports) := by
  have same : (∀ j, ¬ t.hasPort i j) → ports' = ports := fun noPort =>
    (List.map_id _).symm.trans
      ((kept.map_eq fun j p p' h => (h (noPort j)).symm).symm.trans (List.map_id _))
  cases t with
  | fabric => exact absurd trivial noNode
  | node k =>
    have apart : ¬ i = k := noNode
    rw [IbFabric.Target.spared, if_neg apart, same fun _ => apart]
  | port k l =>
    by_cases hi : i = k
    · have others : ports'.eraseIdx l = ports.eraseIdx l := by
        have at_index : ∀ j, j ≠ l → ports'[j]? = ports[j]? := fun j apart =>
          kept.getElem?_eq fun p p' same => same fun below => apart below.2
        refine List.ext_getElem? fun j => ?_
        rw [List.getElem?_eraseIdx, List.getElem?_eraseIdx]
        by_cases hj : j < l
        · rw [if_pos hj, if_pos hj, at_index j (by omega)]
        · rw [if_neg hj, if_neg hj, at_index (j + 1) (by omega)]
      rw [IbFabric.Target.spared, if_pos hi, ← others]
      cases hl : ports'[l]? with
      | none => rw [List.eraseIdx_of_length_le (List.getElem?_eq_none_iff.mp hl)]
      | some p =>
        funext v
        rw [IbNode.total_eraseIdx hl, zero l p hl ⟨hi, rfl⟩, UInt64.zero_add]
    · rw [IbFabric.Target.spared, if_neg hi, same fun _ h => hi h.1]

/-- A reset after which the objects of the target show zeros leaves sums in all nodes exactly when
the other nodes showed the sums of the other ports. -/
theorem showsSums_iff {t : Target} {f f' : IbFabric}
    (reset : Pointwise (NodeReset t) f.nodes f'.nodes) (zero : AllZero t f') :
    ShowsSums f' ↔ SparedSums t f := by
  have located : Pointwise (fun i n n' => f'.nodes[i]? = some n' ∧ NodeReset t i n n')
      f.nodes f'.nodes :=
    ⟨reset.length_eq, fun i n n' hn hn' => ⟨hn', reset.at_index i n n' hn hn'⟩⟩
  refine located.forall_mem_iff fun i n n' ⟨hn', node⟩ => ?_
  by_cases below : t.hasNode i
  · exact iff_of_true (fun apart => absurd below apart) (zero.sums i n' hn' below)
  · rw [node.kept below, total_eq_spared below (zero.ports i n' hn')
      (node.ports.imp fun _ _ _ port => port.2)]
    exact ⟨fun h => h below, fun h _ => h⟩

/-- Where all nodes show sums, only a port that is reset alone has to show 0 already. -/
theorem sparedSums_iff_of_showsSums {t : Target} {f : IbFabric} (sums : ShowsSums f) :
    SparedSums t f ↔ ∀ i j n p, t = .port i j → f.nodes[i]? = some n → n.ports[j]? = some p →
      ∀ v, p.counters v = 0 := by
  constructor
  · rintro spared i j n p rfl hn hp v
    have without : n.counters = IbNode.total (n.ports.eraseIdx j) := by
      simpa [IbFabric.Target.spared] using spared i n hn id
    have both := IbNode.total_eraseIdx hp v
    rw [← sums n (List.mem_of_getElem? hn), ← without] at both
    exact UInt64.add_eq_right.mp both.symm
  · intro zero i n hn apart
    rw [sums n (List.mem_of_getElem? hn)]
    refine total_eq_spared apart (fun j p hp below v => ?_) (Pointwise.of_refl (fun _ _ _ => rfl) _)
    cases t with
    | fabric => exact absurd trivial apart
    | node k => exact absurd below apart
    | port k l =>
      obtain ⟨rfl, rfl⟩ := below
      exact zero i j n p rfl hn hp v

/-! ## The diagnostic counters -/

/-- A reset never assigns a counter, whether it returns or throws. -/
theorem IbDiagPerfCounter.counters_resetCounters (io : Reads) (o : IbDiagPerfCounter) :
    (Eff.after (resetCounters io) o).counters = o.counters := by
  change ((FileCounters.resetWith true io).run o.toFileCounters).state.counters = o.counters
  cases FileCounters.resetWith_ends io o.toFileCounters true with
  | done t _ ends _ counters =>
    rw [ends.2]
    exact counters
  | stopped t _ _ _ _ _ _ _ ends _ counters =>
    rw [ends.2]
    exact counters

theorem IbDiagPerfCounter.counters_runs_resetCounters (later : List Reads)
    (o : IbDiagPerfCounter) : (Eff.runs resetCounters later o).counters = o.counters :=
  Eff.runs_invariant (P := fun q => q.counters = o.counters) rfl later fun io q _ h =>
    (counters_resetCounters io q).trans h

/-! ## Reset means zero -/

/-- A reset that returns makes its object show zeros until the next refresh, and leaves every node of
the fabric with the sums of its ports, exactly when the compatibility ports that it reaches, or the
diagnostic counter, showed zeros before, and the nodes that it does not reset the sums of the ports
that it does not reset. -/
theorem reset_means_zero_iff (build : Build) :
    (∀ std a network compatibility m f m',
      Eff.Returns (IbFabric.create std build a network compatibility) m f m' →
      ∀ calls t io f',
        let g := Eff.runs (IbFabric.call build) calls f
        Eff.Returns (IbFabric.call build ⟨.reset, t, io⟩) g () f' →
        (ZeroUntilRefresh build t f' ∧ ShowsSums f' ↔ CompatPortsZero t g ∧ SparedSums t g)) ∧
    (∀ readable deviceName portNumber m o m',
      Eff.Returns (IbDiagPerfCounter.create readable deviceName portNumber) m o m' →
      ∀ calls io o',
        let q := Eff.runs IbDiagPerfCounter.call calls o
        Eff.Returns (IbDiagPerfCounter.resetCounters io) q () o' →
        ((∀ later v, (Eff.runs IbDiagPerfCounter.resetCounters later o').counters v = 0) ↔
          ∀ v, q.counters v = 0)) := by
  constructor
  · intro std a network compatibility m f m' _ calls t io f' g ends
    have reset := reset_of_returns ends
    have zero : AllZero t f' ↔ CompatPortsZero t g := allZero_iff reset
    constructor
    · rintro ⟨untilRefresh, sums⟩
      have now : AllZero t f' := untilRefresh [] (by simp)
      exact ⟨zero.mp now, (showsSums_iff reset now).mp sums⟩
    · rintro ⟨before, spared⟩
      have now : AllZero t f' := zero.mpr before
      exact ⟨now.untilRefresh build, (showsSums_iff reset now).mpr spared⟩
  · intro readable deviceName portNumber m o m' _ calls io o' q ends
    have same : o'.counters = q.counters := by
      rw [← ends.after_eq]
      exact IbDiagPerfCounter.counters_resetCounters io q
    simp only [IbDiagPerfCounter.counters_runs_resetCounters, same, forall_const]

/-! ## A machine for examples -/

/-- A channel adapter with one port of width 4, all of whose files can be opened. -/
def IbvDevice.plain : IbvDevice where
  isNull := false
  name := "mlx5_0"
  openDevice := true
  openError := ""
  queryDevice := .ok ⟨1, 1⟩
  queryPort _ := .ok ⟨3, 2⟩
  mad _ := IbPort.plainDevice ibNodeCa 2 0 0
  readable _ := true

/-- A machine with this adapter alone. -/
def DiscoveryAnswers.plain : DiscoveryAnswers := ⟨some [IbvDevice.plain], "", none⟩

/-- The node of this adapter. -/
def IbNode.plain (build : Build) (port : Port) : IbNode where
  counters := IbPerfCounter.init
  desc := "mlx5_0"
  guid := htonll build.byteOrder 1
  numPorts := 1
  ports := [port]

/-- The fabric of this machine. -/
def IbFabric.plain (build : Build) (port : Port) : IbFabric := ⟨none, [IbNode.plain build port]⟩

/-- The port of this machine in compatibility mode. -/
def Port.plainCompat : Port := .compat (IbPortCompat.opened "mlx5_0" ⟨3, 2⟩ 1)

/-- The port of this machine otherwise. -/
def Port.plainMad : Port := .mad (IbPort.plainPort ibNodeCa 2 2)

theorem StdSort.sort_singleton {α : Type} (std : StdSort α) {less : α → α → Bool}
    (h : StrictWeak less) (a : α) : std.sort less [a] = [a] :=
  List.perm_singleton.mp (std.perm less [a] h)

/-- A machine with one adapter. -/
theorem IbFabric.create_single (std : StdSort IbNode) {build : Build} {compatibility : Bool}
    {device : IbvDevice} {n : IbNode} {m : ℕ}
    (node : Eff.Returns (IbNode.ofDevice build device compatibility) 1 n m) :
    Eff.Returns (create std build ⟨some [device], "", none⟩ false compatibility) 0 ⟨none, [n]⟩ m := by
  have nodes : Eff.Returns (discoverLocalDevices build ⟨some [device], "", none⟩ compatibility) 0
      [n] m := by
    refine Eff.returns_bind.mpr ⟨_, 1, ⟨rfl, rfl⟩, ?_⟩
    refine Eff.returns_bind.mpr ⟨[device], 1, ⟨rfl, rfl⟩, ?_⟩
    refine Eff.returns_bind.mpr ⟨[some n], m, ?_, ?_⟩
    · exact Eff.returns_collect_cons.mpr
        ⟨_, m, [], Eff.returns_attempt.mpr (.inl ⟨_, rfl, node⟩), ⟨rfl, rfl⟩, rfl⟩
    · exact Eff.returns_bind.mpr ⟨(), m, ⟨rfl, rfl⟩, ⟨rfl, rfl⟩⟩
  have found : Eff.Returns (discoverFabric build ⟨some [device], "", none⟩ false compatibility) 0
      (none, [n]) m := by
    cases compatibility with
    | false => exact Eff.returns_bind.mpr ⟨_, m, nodes, ⟨rfl, rfl⟩⟩
    | true => exact Eff.returns_bind.mpr ⟨_, m, nodes, ⟨rfl, rfl⟩⟩
  refine Eff.returns_bind.mpr ⟨_, m, found, Eff.returns_pure.mpr ⟨?_, rfl⟩⟩
  rw [std.sort_singleton strictWeak_lessDescription]

theorem IbFabric.create_plain (std : StdSort IbNode) (build : Build) (compatibility : Bool)
    {port : Port} {m : ℕ}
    (h : Eff.Returns (IbNode.createPort build .plain compatibility ⟨3, 2⟩ 1) 2 port m) :
    Eff.Returns (create std build .plain false compatibility) 0 (plain build port) m := by
  have ports : Eff.Returns (Eff.collect
      (IbNode.queryAndCreatePort build .plain compatibility (some ⟨.context, 1⟩))
      (countUp 0 1)) 2 [port] m := by
    have first : countUp 0 1 = [0] := by
      rw [countUp_eq]
      rfl
    rw [first]
    refine Eff.returns_collect_cons.mpr ⟨port, m, [], ?_, Eff.returns_pure.mpr ⟨rfl, rfl⟩, rfl⟩
    exact Eff.returns_bind.mpr ⟨(), 2, ⟨rfl, rfl⟩, Eff.returns_bind.mpr ⟨_, 2, ⟨rfl, rfl⟩, h⟩⟩
  refine create_single std (Eff.returns_bind.mpr ⟨_, 2, ⟨rfl, rfl⟩, ?_⟩)
  refine Eff.returns_bind.mpr ⟨(), 2, ⟨rfl, rfl⟩, ?_⟩
  refine Eff.returns_bind.mpr ⟨(), 2, ⟨rfl, rfl⟩, ?_⟩
  refine Eff.returns_bind.mpr ⟨⟨1, 1⟩, 2, ⟨rfl, rfl⟩, ?_⟩
  refine Eff.returns_bind.mpr ⟨[port], m, ports, ?_⟩
  exact Eff.returns_bind.mpr ⟨(), m, ⟨rfl, rfl⟩, ⟨rfl, rfl⟩⟩

/-- The machine in compatibility mode. -/
theorem IbFabric.create_plainCompat (std : StdSort IbNode) (build : Build) :
    Eff.Returns (create std build .plain false true) 0 (plain build .plainCompat) 2 :=
  create_plain std build true (Eff.returns_bind.mpr
    ⟨_, 2, IbPortCompat.create_opened "mlx5_0" ⟨3, 2⟩ 1 2, ⟨rfl, rfl⟩⟩)

/-- The machine in MAD mode, with a little-endian host. -/
theorem IbFabric.create_plainMad (std : StdSort IbNode) (build : Build)
    (little : build.byteOrder = .little) :
    Eff.Returns (create std build .plain false false) 0 (plain build .plainMad) 3 :=
  create_plain std build false (Eff.returns_bind.mpr
    ⟨_, 3, IbPort.create_plainPort build little ibNodeCa 2 0 0 2, ⟨rfl, rfl⟩⟩)

/-- A channel adapter with two such ports. -/
def IbvDevice.dual : IbvDevice := { IbvDevice.plain with
  queryDevice := .ok ⟨1, 2⟩
  queryPort := fun i => .ok ⟨i.toUInt16 + 2, 2⟩ }

/-- The node of this adapter in MAD mode. -/
def IbNode.dual : IbNode := { IbNode.plain ⟨true, .little⟩ .plainMad with
  numPorts := 2
  ports := [.plainMad, .mad { IbPort.plainPort ibNodeCa 2 3 with
    lid := 4
    portNum := 2
    portId := ibPortidSet 4 0 0 }] }

/-- A machine with this adapter alone. -/
theorem IbFabric.create_dual (std : StdSort IbNode) :
    Eff.Returns (create std ⟨true, .little⟩ ⟨some [.dual], "", none⟩ false false) 0
      ⟨none, [.dual]⟩ 4 := by
  have both : countUp 0 2 = [0, 1] := by
    rw [countUp_eq]
    rfl
  refine create_single std (Eff.returns_bind.mpr ⟨_, 2, ⟨rfl, rfl⟩, ?_⟩)
  refine Eff.returns_bind.mpr ⟨(), 2, ⟨rfl, rfl⟩, ?_⟩
  refine Eff.returns_bind.mpr ⟨(), 2, ⟨rfl, rfl⟩, ?_⟩
  refine Eff.returns_bind.mpr ⟨⟨1, 2⟩, 2, ⟨rfl, rfl⟩, ?_⟩
  refine Eff.returns_bind.mpr ⟨IbNode.dual.ports, 4, ?_, ⟨rfl, rfl⟩⟩
  rw [both]
  exact ⟨rfl, rfl⟩

/-- Files that show a number and queries that succeed, for every port. -/
def everyPortShows (m : ℕ) : FabricIo := fun _ _ =>
  ⟨IbPort.plainDevice ibNodeCa 2 (UInt64.ofNat m) 0, everyFileShows m⟩

/-- In MAD mode the node shows 28 bytes before the reset; a diagnostic counter that was reset and
refreshed at the same values shows zeros. -/
theorem reset_means_zero_iff_refreshed :
    let build : Build := ⟨true, .little⟩
    let g := Eff.runs (IbFabric.call build) [⟨.refresh, .fabric, everyPortShows 7⟩]
      (.plain build .plainMad)
    let f' := Eff.after (IbFabric.call build ⟨.reset, .fabric, everyPortShows 7⟩) g
    let q := Eff.runs IbDiagPerfCounter.call [(.refresh, everyFileShows 9),
      (.reset, everyFileShows 9), (.refresh, everyFileShows 9)] (.opened "mlx5_0" 1)
    (g.nodes.map fun n => n.getXmitDataBytes) = [28] ∧
      ZeroUntilRefresh build .fabric f' ∧ ShowsSums f' ∧
      ∀ later v, (Eff.runs IbDiagPerfCounter.resetCounters later
        (Eff.after (IbDiagPerfCounter.resetCounters (everyFileShows 5)) q)).counters v = 0 := by
  intro build g f' q
  have law := reset_means_zero_iff build
  have fabric := law.1 _ _ _ _ _ _ _ (IbFabric.create_plainMad (.stable _) build rfl)
    [⟨.refresh, .fabric, everyPortShows 7⟩] .fabric (everyPortShows 7) f' ⟨rfl, rfl⟩
  have diag := law.2 _ _ _ _ _ _ (IbDiagPerfCounter.create_opened "mlx5_0" 1 0)
    [(.refresh, everyFileShows 9), (.reset, everyFileShows 9), (.refresh, everyFileShows 9)]
    (everyFileShows 5) _ ⟨rfl, rfl⟩
  have zero : ∀ v, q.counters v = 0 := by
    intro v
    cases v <;> decide
  have noCompat : CompatPortsZero .fabric g := by
    obtain ⟨n, p, nodes, ports⟩ : ∃ n p, g.nodes = [n] ∧ n.ports = [.mad p] := ⟨_, _, rfl, rfl⟩
    intro i n' hn j p' hp
    obtain rfl : n' = n := by simpa [nodes] using List.mem_of_getElem? hn
    simpa [ports] using List.mem_of_getElem? hp
  have spared : SparedSums .fabric g := fun i n _ apart => absurd trivial apart
  obtain ⟨untilRefresh, sums⟩ := fabric.mpr ⟨noCompat, spared⟩
  exact ⟨rfl, untilRefresh, sums, diag.mpr zero⟩

/-- After a refresh that found 7 everywhere, a reset of the whole fabric returns and the port
still shows 7 packets and its node 0; a diagnostic counter goes on showing 7 as well. In MAD mode, a
reset of the port alone leaves the sum of its node behind. -/
theorem reset_keeps_last_refresh :
    let build : Build := ⟨true, .little⟩
    let f := IbFabric.plain build .plainCompat
    let g := Eff.runs (IbFabric.call build) [⟨.refresh, .fabric, everyPortShows 7⟩] f
    let o := IbDiagPerfCounter.opened "mlx5_0" 1
    let q := Eff.runs IbDiagPerfCounter.call [(.refresh, everyFileShows 7)] o
    let h := Eff.runs (IbFabric.call build) [⟨.refresh, .fabric, everyPortShows 7⟩]
      (.plain build .plainMad)
    (Eff.Returns (IbFabric.create (.stable _) build .plain false true) 0 f 2 ∧
      ∃ f', Eff.Returns (IbFabric.call build ⟨.reset, .fabric, everyPortShows 7⟩) g () f' ∧
        ¬ AllZero .fabric f' ∧ ∃ n p, f'.nodes[0]? = some n ∧ n.ports[0]? = some p ∧
          n.getXmitPkts = 0 ∧ p.toIbPort.getXmitPkts = 7) ∧
    (Eff.Returns (IbDiagPerfCounter.create (fun _ => true) "mlx5_0" 1) 0 o 0 ∧
      ∃ o', Eff.Returns (IbDiagPerfCounter.resetCounters (everyFileShows 7)) q () o' ∧
        o'.counters .lifespan = 7) ∧
    Eff.Returns (IbFabric.create (.stable _) build .plain false false) 0
        (.plain build .plainMad) 3 ∧
      ∃ h', Eff.Returns (IbFabric.call build ⟨.reset, .port 0 0, everyPortShows 7⟩) h () h' ∧
        ¬ ShowsSums h' ∧ ∃ n p, h'.nodes[0]? = some n ∧ n.ports[0]? = some p ∧
          n.getXmitDataBytes = 28 ∧ p.toIbPort.getXmitDataBytes = 0 := by
  intro build f g o q h
  refine ⟨⟨IbFabric.create_plainCompat _ build, ?_⟩,
    ⟨IbDiagPerfCounter.create_opened "mlx5_0" 1 0, ?_⟩, IbFabric.create_plainMad _ build rfl, ?_⟩
  · obtain ⟨n, p, nodes, ports, shown⟩ : ∃ n p, g.nodes = [n] ∧ n.ports = [.compat p] ∧
        p.getXmitPkts = 7 := ⟨_, _, rfl, rfl, by decide⟩
    obtain ⟨f', ends⟩ : ∃ f', Eff.Returns
        (IbFabric.call build ⟨.reset, .fabric, everyPortShows 7⟩) g () f' :=
      IbFabric.returns_resetCounters_of_compat _ (by simp [nodes, ports])
    have reset := reset_of_returns ends
    obtain ⟨n', hn', node⟩ := reset.target (i := 0) (x := n) (by simp [nodes])
    obtain ⟨p', hp', port⟩ := node.ports.target (i := 0) (x := .compat p) (by simp [ports])
    have kept : p'.counters .xmitPkts = 7 := (port.1 trivial .xmitPkts).trans shown
    refine ⟨f', ends, fun zero => ?_, n', p', hn', hp', node.counters trivial .xmitPkts, kept⟩
    have cleared := zero.ports 0 n' hn' 0 p' hp' trivial .xmitPkts
    rw [kept] at cleared
    exact absurd cleared (by decide)
  · have good : ∀ i, (q.reader.files i).good = true := by decide
    cases FileCounters.resetWith_ends (everyFileShows 7) q.toFileCounters true with
    | done t _ ends _ counters =>
      refine ⟨_, Eff.returns_focus.mpr ⟨t, ends, rfl⟩, ?_⟩
      have shown : q.counters .lifespan = 7 := by decide
      rw [← shown, ← counters]
      rfl
    | stopped _ _ _ b _ _ _ bad => rw [good b] at bad; cases bad
  · obtain ⟨n, p, nodes, ports, shown, cleared⟩ : ∃ n p,
        (Eff.after (IbFabric.call build ⟨.reset, .port 0 0, everyPortShows 7⟩) h).nodes = [n] ∧
          n.ports = [p] ∧ n.getXmitDataBytes = 28 ∧ p.toIbPort.getXmitDataBytes = 0 :=
      ⟨_, _, rfl, rfl, rfl, rfl⟩
    refine ⟨Eff.after _ h, ⟨rfl, rfl⟩, fun sums => ?_, n, p, by simp [nodes], by simp [ports],
      shown, cleared⟩
    have sum := congrFun (sums n (by simp [nodes])) .xmitDataBytes
    rw [ports, IbNode.total_cons, IbNode.total_nil] at sum
    have same : n.getXmitDataBytes = p.toIbPort.getXmitDataBytes := sum.trans (UInt64.add_zero _)
    rw [shown, cleared] at same
    cases same

end Detector
