import Detector.IbFabric
import Detector.Hardware
import Detector.Library.Collect

/-!
# The discovery of the network

`ibnd_discover_fabric` hands out a linked list of nodes, each with a table of ports that has
holes. The discovery makes one node for each list element and one port for each entry of its
table, from index 1 on; index 0 is not a port. The sort that follows only reorders the nodes.
-/
namespace Detector

open Cpp

/-! ## Ports and nodes of the network -/

/-- The entries of the port table, by increasing index; index 0 is left out. -/
def IbndNode.entries (node : IbndNode) : List IbndPort :=
  ((List.range' 1 node.numports.toNat).map node.ports).reduceOption

/-- The port is a MAD port with the address of this entry. Port numbers have 8 bits. -/
def Port.IsFor (entry : IbndPort) : Port → Prop
  | .mad p => p.lid = entry.baseLid ∧ p.portNum.toNat = entry.portnum.toNat % 2 ^ 8
  | .compat _ => False

/-- The node describes this list element, with one port for each entry of its table. -/
structure IbNode.IsFor (node : IbndNode) (n : IbNode) : Prop where
  desc : n.desc = node.nodedesc
  guid : n.guid = node.guid
  numPorts : n.numPorts.toNat = node.numports.toNat
  ports : List.Forall₂ Port.IsFor node.entries n.ports

/-- Every port of the table can be constructed. -/
def IbndNode.PortsSucceed (build : Build) (node : IbndNode) : Prop :=
  ∀ i entry, 1 ≤ i → i ≤ node.numports.toNat → node.ports i = some entry → ∀ m, ∃ p m',
    Eff.Returns (IbPort.create build (node.mad i) entry.baseLid entry.portnum.toUInt8) m p m'

namespace IbNode

variable {build : Build} {node : IbndNode}

theorem returns_createNetworkPort {i : UInt8} {m m' : ℕ} {o : Option Port} :
    Eff.Returns (createNetworkPort build node i) m o m' ↔
      (node.ports (i.toNat + 1) = none ∧ o = none ∧ m' = m) ∨
      ∃ entry p, node.ports (i.toNat + 1) = some entry ∧ o = some (.mad p) ∧
        Eff.Returns (IbPort.create build (node.mad (i.toNat + 1)) entry.baseLid
          entry.portnum.toUInt8) m p m' := by
  unfold createNetworkPort
  cases present : node.ports (i.toNat + 1) with
  | none => simp
  | some entry =>
    simp only [Eff.returns_bind, Eff.returns_pure]
    constructor
    · rintro ⟨p, m'', ends, rfl, rfl⟩
      exact .inr ⟨entry, p, rfl, rfl, ends⟩
    · rintro (⟨absent, -, -⟩ | ⟨_, p, same, rfl, ends⟩)
      · cases absent
      · obtain rfl := Option.some.inj same
        exact ⟨p, m', ends, rfl, rfl⟩

/-- The port that was constructed, if any, is the one of the table. -/
theorem rel_createNetworkPort {i : UInt8} {m m' : ℕ} {o : Option Port}
    (h : Eff.Returns (createNetworkPort build node i) m o m') :
    Option.Rel Port.IsFor (node.ports (i.toNat + 1)) o := by
  obtain ⟨absent, rfl, -⟩ | ⟨entry, p, present, rfl, ends⟩ := returns_createNetworkPort.mp h
  · rw [absent]
    exact .none
  · rw [present]
    obtain ⟨-, lid, portNum, -⟩ := IbPort.returns_create ends
    refine .some ⟨lid, ?_⟩
    rw [portNum, UInt32.toNat_toUInt8]

theorem toNat_numports (limit : node.numports.toNat ≤ 255) :
    node.numports.toUInt8.toNat = node.numports.toNat := by
  rw [UInt32.toNat_toUInt8]
  omega

/-- The node of a list element. -/
theorem isFor_of_ofNetwork (limit : node.numports.toNat ≤ 255) {n : IbNode} {m m' : ℕ}
    (h : Eff.Returns (ofNetwork build node) m n m') : IsFor node n := by
  obtain ⟨ports, _, collected, made⟩ := Eff.returns_bind.mp h
  obtain ⟨rfl, -⟩ := Eff.returns_pure.mp made
  refine ⟨rfl, rfl, ?_, ?_⟩
  · exact toNat_numports limit
  · have related := Eff.forall₂_of_collect (fun i _ _ _ _ => rel_createNetworkPort) collected
    have entries := forall₂_reduceOption (List.forall₂_map_left_iff.mpr related)
    have table : (countUp 0 node.numports.toUInt8).map (fun i => node.ports (i.toNat + 1)) =
        (List.range' 1 node.numports.toNat).map node.ports := by
      rw [← toNat_numports limit, ← map_countUp_zero, List.map_map]
      rfl
    rwa [table] at entries

/-- The constructor returns when the constructors of the ports do. -/
theorem exists_ofNetwork (limit : node.numports.toNat ≤ 255)
    (succeed : node.PortsSucceed build) (m : ℕ) :
    ∃ n m', Eff.Returns (ofNetwork build node) m n m' := by
  have each : ∀ i ∈ countUp 0 node.numports.toUInt8, ∀ m, ∃ o m',
      Eff.Returns (createNetworkPort build node i) m o m' := by
    intro i hi m
    have below : i.toNat < node.numports.toNat := by
      rw [← toNat_numports limit]
      exact lt_of_mem_countUp_zero hi
    cases present : node.ports (i.toNat + 1) with
    | none => exact ⟨none, m, returns_createNetworkPort.mpr (.inl ⟨present, rfl, rfl⟩)⟩
    | some entry =>
      obtain ⟨p, m', ends⟩ := succeed (i.toNat + 1) entry (by omega) (by omega) present m
      exact ⟨_, m', returns_createNetworkPort.mpr (.inr ⟨entry, p, present, rfl, ends⟩)⟩
  obtain ⟨ports, m', collected⟩ := Eff.exists_collect each m
  exact ⟨_, m', Eff.returns_bind.mpr ⟨ports, m', collected, Eff.returns_pure.mpr ⟨rfl, rfl⟩⟩⟩

end IbNode

/-! ## The fabric -/

namespace IbFabric

theorem returns_discoverNetwork {build : Build} {a : DiscoveryAnswers} {first : IbndNode}
    {rest : List IbndNode} (found : a.fabric = some (first, rest)) {m m' : ℕ} {h : Option Handle}
    {nodes : List IbNode} : Eff.Returns (discoverNetwork build a) m (h, nodes) m' ↔
      h = some ⟨.fabric, m⟩ ∧
        Eff.Returns (Eff.collect (IbNode.ofNetwork build) (first :: rest)) (m + 1) nodes m' := by
  simp only [discoverNetwork, Eff.returns_bind, IbPort.returns_acquire, Eff.returns_require,
    Eff.returns_pure, found, Option.some.injEq, Prod.mk.injEq]
  constructor
  · rintro ⟨_, _, ⟨rfl, rfl⟩, _, _, ⟨rfl, rfl⟩, made, _, collected, ⟨rfl, rfl⟩, rfl⟩
    exact ⟨rfl, collected⟩
  · rintro ⟨rfl, collected⟩
    exact ⟨_, m + 1, ⟨rfl, by simp⟩, _, m + 1, ⟨rfl, rfl⟩, nodes, m', collected, ⟨rfl, rfl⟩, rfl⟩

/-- The discovery of a network makes one node for each list element, and nothing else; the sort
that follows puts them in the order of their descriptions. -/
theorem network_discovery (std : StdSort IbNode) (build : Build) {a : DiscoveryAnswers}
    {first : IbndNode} {rest : List IbndNode} (found : a.fabric = some (first, rest))
    (limit : ∀ node ∈ first :: rest, node.numports.toNat ≤ 255)
    (succeed : ∀ node ∈ first :: rest, node.PortsSucceed build) (m : ℕ) :
    StrictWeak lessDescription ∧
    ∃ f m' nodes, Eff.Returns (create std build a true false) m f m' ∧
      f.nodes.Perm nodes ∧ List.Forall₂ IbNode.IsFor (first :: rest) nodes ∧
      f.nodes.Pairwise fun l r => l.desc ≤ r.desc := by
  have weak := strictWeak_lessDescription
  have each : ∀ node ∈ first :: rest, ∀ m, ∃ n m',
      Eff.Returns (IbNode.ofNetwork build node) m n m' := fun node hn =>
    IbNode.exists_ofNetwork (limit node hn) (succeed node hn)
  obtain ⟨nodes, m', collected⟩ := Eff.exists_collect each (m + 1)
  have shown := Eff.forall₂_of_collect
    (fun node hn _ _ _ => IbNode.isFor_of_ofNetwork (limit node hn)) collected
  have discovered : Eff.Returns (discoverNetwork build a) m (some ⟨.fabric, m⟩, nodes) m' :=
    (returns_discoverNetwork found).mpr ⟨rfl, collected⟩
  refine ⟨weak, ⟨some ⟨.fabric, m⟩, std.sort lessDescription nodes⟩, m', nodes, ?_,
    std.perm _ nodes weak, shown, ?_⟩
  · exact Eff.returns_bind.mpr ⟨_, m', discovered, Eff.returns_pure.mpr ⟨rfl, rfl⟩⟩
  · refine (std.sorted _ nodes weak).imp fun {l r} ordered => ?_
    exact not_lt.mp (of_decide_eq_false ordered)

/-- Two nodes, found against the order of their descriptions; the second port of the first one is
missing. -/
theorem network_discovery_two :
    let device := IbPort.plainDevice ibNodeCa 2 0 0
    let table : ℕ → Option IbndPort := fun i => if i = 1 then some ⟨7, 1⟩ else none
    let first : IbndNode := ⟨"switch", 5, 2, table, fun _ => device⟩
    let second : IbndNode := ⟨"adapter", 6, 1, table, fun _ => device⟩
    let a : DiscoveryAnswers := ⟨none, "", some (first, [second])⟩
    first.entries = [⟨7, 1⟩] ∧
      ∃ f m', Eff.Returns (create (.stable _) ⟨true, .little⟩ a true false) 0 f m' ∧
        f.nodes.length = 2 := by
  intro device table first second a
  have limit : ∀ node ∈ [first, second], node.numports.toNat ≤ 255 := by decide
  have succeed : ∀ node ∈ [first, second], node.PortsSucceed ⟨true, .little⟩ := by
    intro node hn i entry _ _ _ m
    have mad : node.mad i = device := by
      obtain rfl | rfl : node = first ∨ node = second := by simpa using hn
      all_goals rfl
    rw [mad]
    exact ⟨_, m + 1, rfl, rfl⟩
  have found : a.fabric = some (first, [second]) := rfl
  obtain ⟨-, f, m', nodes, ends, perm, shown, -⟩ :=
    network_discovery (.stable _) ⟨true, .little⟩ found limit succeed 0
  refine ⟨rfl, f, m', ends, ?_⟩
  rw [perm.length_eq, ← shown.length_eq]
  rfl

end IbFabric

end Detector
