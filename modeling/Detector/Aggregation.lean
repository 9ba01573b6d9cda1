import Detector.Resets
import Detector.Library.Pointwise

/-!
# The sums of a node

A refresh of a node refreshes each of its ports once and adds up what their getters return.
The sums are taken modulo `2^64` after each port, which leaves the total modulo `2^64`; so the
order of the ports does not matter, nor what the variables of the node held before.
-/
namespace Detector

open Cpp

namespace IbNode

variable {build : Build} {io : NodeIo}

/-- The ports, each with what it meets. -/
def met (io : NodeIo) (ports : List Port) : List (Port × PortIo) :=
  ports.mapIdx fun j p => (p, io j)

/-- The port after its refresh. -/
def refreshed (build : Build) (x : Port × PortIo) : Port :=
  Eff.after (Port.refreshCounters build x.2) x.1

/-- The external calls of its refresh. -/
def portCalls (build : Build) (x : Port × PortIo) : List ExtCall :=
  ((Port.refreshCounters build x.2).run x.1).calls

@[simp] theorem met_nil : met io [] = [] := rfl

@[simp] theorem met_cons (p : Port) (ports : List Port) :
    met io (p :: ports) = (p, io 0) :: met (fun j => io (j + 1)) ports := by
  simp [met]

theorem map_met_fst {α : Type} (f : Port → α) (ports : List Port) :
    (met io ports).map (fun x => f x.1) = ports.map f := by
  induction ports generalizing io with
  | nil => rfl
  | cons p ports ih => simp [ih]

/-- Every port is refreshed once, by the refresh that belongs to its position. -/
theorem each_refresh_iff {i : ℕ} {ports ports' : List Port} :
    Eff.Each (fun j => Port.refreshCounters build (io j)) i ports ports' ↔
      (∀ x ∈ met (fun j => io (i + j)) ports,
        Eff.Returns (Port.refreshCounters build x.2) x.1 () (refreshed build x)) ∧
      ports' = (met (fun j => io (i + j)) ports).map (refreshed build) := by
  have shift : ∀ i, (fun j => io (i + (j + 1))) = fun j => io (i + 1 + j) := fun i =>
    funext fun j => congrArg io (by omega)
  constructor
  · intro each
    induction each with
    | nil => simp
    | @cons i p p' ports ports' first _ ih =>
      obtain ⟨all, rfl⟩ := ih
      have same : p' = refreshed build (p, io i) := first.after_eq.symm
      subst same
      simp only [met_cons, List.forall_mem_cons, List.map_cons, shift, Nat.add_zero]
      exact ⟨⟨first, all⟩, trivial⟩
  · rintro ⟨all, rfl⟩
    induction ports generalizing i with
    | nil => exact .nil i
    | cons p ports ih =>
      simp only [met_cons, List.forall_mem_cons, List.map_cons, shift, Nat.add_zero] at all ⊢
      exact .cons all.1 (ih all.2)

theorem calls_refreshPort (io : PortIo) (p : Port) (c : PerfCounters) :
    ((refreshPort build io).run (p, c)).calls = portCalls build (p, io) := by
  rw [refreshPort, Eff.run_bind, Eff.onItem, Eff.run_focus, portCalls]
  cases h : ((Port.refreshCounters build io).run p).result <;> simp [Eff.andThen]

theorem calls_visit {i : ℕ} {ports ports' : List Port} {c c' : PerfCounters}
    (h : Eff.Visited (fun j => refreshPort build (io j)) i ports c ports' c') :
    (Eff.visitFrom (fun j => refreshPort build (io j)) i ports c).calls =
      (met (fun j => io (i + j)) ports).flatMap (portCalls build) := by
  induction h with
  | nil => rfl
  | @cons i p p' ports ports' c u v first _ ih =>
    have shift : (fun j => io (i + (j + 1))) = fun j => io (i + 1 + j) :=
      funext fun j => congrArg io (by omega)
    have calls : ((refreshPort build (io i)).run (p, c)).calls = portCalls build (p, io i) :=
      calls_refreshPort (io i) p c
    obtain ⟨result, state⟩ := first
    simp only [Eff.visitFrom, result, state, met_cons, List.flatMap_cons, shift, calls, ih,
      Nat.add_zero]

/-- The node adds up its ports after one refresh of each. -/
structure Aggregates (build : Build) (io : NodeIo) (n n' : IbNode) : Prop where
  all : ∀ x ∈ met io n.ports,
    Eff.Returns (Port.refreshCounters build x.2) x.1 () (refreshed build x)
  ports : n'.ports = (met io n.ports).map (refreshed build)
  calls : ((refreshCounters build io).run n).calls =
    (met io n.ports).flatMap (portCalls build)
  sum : ∀ v, (n'.counters v).toNat = (n'.ports.map fun p => (p.counters v).toNat).sum % 2 ^ 64

theorem toNat_total (ports : List Port) (v : PerfVar) :
    (total ports v).toNat = (ports.map fun p => (p.counters v).toNat).sum % 2 ^ 64 := by
  rw [total, toNat_sum, List.map_map]
  rfl

/-- A total does not depend on the order. -/
theorem total_perm {ports ports' : List Port} (h : ports.Perm ports') :
    total ports = total ports' := by
  funext v
  refine UInt64.toNat_inj.mp ?_
  rw [toNat_total, toNat_total, (h.map _).sum_nat]

theorem returns_refresh_iff {n n' : IbNode} :
    Eff.Returns (refreshCounters build io) n () n' ↔
      (∀ x ∈ met io n.ports,
        Eff.Returns (Port.refreshCounters build x.2) x.1 () (refreshed build x)) ∧
      n' = n.withBody ((met io n.ports).map (refreshed build),
        total ((met io n.ports).map (refreshed build))) := by
  have same : (fun j => io (0 + j)) = io := funext fun j => congrArg io (Nat.zero_add j)
  rw [returns_refreshCounters]
  constructor
  · rintro ⟨ports, each, rfl⟩
    obtain ⟨all, rfl⟩ := each_refresh_iff.mp each
    rw [same] at all ⊢
    exact ⟨all, rfl⟩
  · rintro ⟨all, rfl⟩
    exact ⟨_, each_refresh_iff.mpr ⟨by rwa [same], by rw [same]⟩, rfl⟩

theorem aggregates_of_returns {n n' : IbNode}
    (h : Eff.Returns (refreshCounters build io) n () n') : Aggregates build io n n' := by
  have same : (fun j => io (0 + j)) = io := funext fun j => congrArg io (Nat.zero_add j)
  obtain ⟨all, rfl⟩ := returns_refresh_iff.mp h
  refine ⟨all, rfl, ?_, toNat_total _⟩
  have each := each_refresh_iff.mpr ⟨by rwa [same], rfl⟩
  have calls := calls_visit (visited_refreshPort.mpr ⟨each, rfl⟩)
    (c := IbPerfCounter.resetVariables n.counters)
  rw [same] at calls
  simpa [refreshCounters, body] using calls

/-- A node with the same ports in another order adds up to the same. -/
theorem returns_of_perm {io' : NodeIo} {n n' m : IbNode}
    (h : Eff.Returns (refreshCounters build io) n () n')
    (perm : (met io' m.ports).Perm (met io n.ports)) :
    ∃ m', Eff.Returns (refreshCounters build io') m () m' ∧ m'.ports.Perm n'.ports ∧
      m'.counters = n'.counters := by
  obtain ⟨all, rfl⟩ := returns_refresh_iff.mp h
  have ports := perm.map (refreshed build)
  refine ⟨_, returns_refresh_iff.mpr ⟨fun x hx => all x (perm.mem_iff.mp hx), rfl⟩, ports, ?_⟩
  exact total_perm ports

/-- When the ports show the same values again, so does the node. -/
theorem returns_again {io' : NodeIo} {n n' : IbNode}
    (h : Eff.Returns (refreshCounters build io) n () n')
    (again : ∀ j p, n'.ports[j]? = some p → ∃ q,
      Eff.Returns (Port.refreshCounters build (io' j)) p () q ∧ q.counters = p.counters) :
    ∃ n'', Eff.Returns (refreshCounters build io') n' () n'' ∧ n''.counters = n'.counters := by
  have steps : ∀ x ∈ met io' n'.ports,
      Eff.Returns (Port.refreshCounters build x.2) x.1 () (refreshed build x) ∧
        (refreshed build x).counters = x.1.counters := by
    intro x hx
    obtain ⟨j, hj, rfl⟩ := List.mem_mapIdx.mp hx
    obtain ⟨q, ends, same⟩ := again j _ (List.getElem?_eq_getElem hj)
    obtain rfl : refreshed build (n'.ports[j], io' j) = q := ends.after_eq
    exact ⟨ends, same⟩
  refine ⟨_, returns_refresh_iff.mpr ⟨fun x hx => (steps x hx).1, rfl⟩, ?_⟩
  obtain ⟨-, rfl⟩ := returns_refresh_iff.mp h
  change total _ = total _
  funext v
  rw [total, total, List.map_map]
  have values : (met io' ((met io n.ports).map (refreshed build))).map
      ((fun p : Port => p.counters v) ∘ refreshed build) =
      (met io' ((met io n.ports).map (refreshed build))).map fun x => x.1.counters v :=
    List.map_congr_left fun x hx => congrFun (steps x hx).2 v
  exact congrArg List.sum (values.trans (map_met_fst (fun p => p.counters v) _))

end IbNode

theorem IbFabric.returns_refreshCounters {build : Build} {io : FabricIo} {f f' : IbFabric} :
    Eff.Returns (refreshCounters build io) f () f' ↔
      ∃ nodes, Eff.Each (fun i => IbNode.refreshCounters build (io i)) 0 f.nodes nodes ∧
        f' = { f with nodes := nodes } := by
  simp only [refreshCounters, Eff.returns_focus]
  constructor
  · rintro ⟨⟨nodes, u⟩, ends, rfl⟩
    exact ⟨nodes, (Eff.visited_onItem.mp (Eff.returns_visit.mp ends)).1, rfl⟩
  · rintro ⟨nodes, each, rfl⟩
    exact ⟨(nodes, ()), Eff.returns_visit.mpr (Eff.visited_onItem.mpr ⟨each, rfl⟩), rfl⟩

/-- A refresh of a node that returns has refreshed each port once and left the sums of the ports
in the node, whatever their order and whatever the node held; the exact sums when these fit;
and the same sums again when the ports show the same again. A refresh of a fabric does so for
all of its nodes. -/
theorem node_sums_its_ports (build : Build) :
    (∀ io n n', Eff.Returns (IbNode.refreshCounters build io) n () n' →
      IbNode.Aggregates build io n n' ∧
      (∀ v, (n'.ports.map fun p => (p.counters v).toNat).sum < 2 ^ 64 →
        (n'.counters v).toNat = (n'.ports.map fun p => (p.counters v).toNat).sum) ∧
      (∀ io' m, (IbNode.met io' m.ports).Perm (IbNode.met io n.ports) →
        ∃ m', Eff.Returns (IbNode.refreshCounters build io') m () m' ∧
          m'.ports.Perm n'.ports ∧ m'.counters = n'.counters) ∧
      ∀ io', (∀ j p, n'.ports[j]? = some p → ∃ q,
          Eff.Returns (Port.refreshCounters build (io' j)) p () q ∧ q.counters = p.counters) →
        ∃ n'', Eff.Returns (IbNode.refreshCounters build io') n' () n'' ∧
          n''.counters = n'.counters) ∧
    ∀ io f f', Eff.Returns (IbFabric.refreshCounters build io) f () f' →
      Pointwise (fun i n n' => IbNode.Aggregates build (io i) n n') f.nodes f'.nodes := by
  constructor
  · intro io n n' ends
    have sums := IbNode.aggregates_of_returns ends
    refine ⟨sums, fun v fits => ?_, fun io' m => IbNode.returns_of_perm ends,
      fun io' => IbNode.returns_again ends⟩
    rw [sums.sum, Nat.mod_eq_of_lt fits]
  · intro io f f' ends
    obtain ⟨nodes, each, rfl⟩ := IbFabric.returns_refreshCounters.mp ends
    refine Pointwise.of_each each fun i n n' ends => ?_
    rw [Nat.zero_add] at ends
    exact IbNode.aggregates_of_returns ends

/-- A node with a MAD port that counts 6 words and a port whose files show 5, both of width 4. -/
theorem node_sums_its_ports_two :
    let n : IbNode := { IbNode.plain ⟨true, .little⟩ .plainMad with
      ports := [.plainMad, .plainCompat] }
    let io : NodeIo := fun _ => ⟨IbPort.plainDevice ibNodeCa 2 6 0, everyFileShows 5⟩
    ∃ n', Eff.Returns (IbNode.refreshCounters ⟨true, .little⟩ io) n () n' ∧
      (n'.counters .xmitDataBytes).toNat = 44 := by
  intro n io
  have ends : Eff.Returns (IbNode.refreshCounters ⟨true, .little⟩ io) n ()
      (Eff.after (IbNode.refreshCounters ⟨true, .little⟩ io) n) := ⟨by decide, rfl⟩
  obtain ⟨sums, -⟩ := (node_sums_its_ports ⟨true, .little⟩).1 io n _ ends
  refine ⟨_, ends, (sums.sum .xmitDataBytes).trans ?_⟩
  decide

end Detector
