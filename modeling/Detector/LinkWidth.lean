import Detector.Aggregation
import Detector.Discovery
import Detector.Identity

/-!
# The widths that data are scaled with

The constructor of a port asks for its link width with the attribute modifier 0. A channel
adapter answers with the port that received the query, which is the right one. A switch has one
address for all its ports, and the modifier 0 means its management port, so every port of a
switch gets the width of port 0. The sums of a switch node are right only where its ports have
that width too.

The width is decoded into a variable of one byte, of which a big-endian host writes the upper
end. There every port gets width 1.
-/
namespace Detector

open Cpp

/-- A node of the subnet that answers queries for its port information. `info i` is the information
of its port number `i`; port 0 is the management port of a switch. The reply depends on the
attribute modifier: 0 is the port that was addressed, or port 0 on a switch. The active width is a
field of 8 bits. -/
structure SubnetNode where
  node : IbndNode
  isSwitch : Bool
  info : ℕ → MadBuf
  portInfo : ∀ i entry, 1 ≤ i → i ≤ node.numports.toNat → node.ports i = some entry →
    ∀ mod : UInt32, (node.mad i).smp (ibPortidSet entry.baseLid 0 0) .portInfo mod =
      some (info (if mod = 0 then (if isSwitch then 0 else i) else mod.toNat))
  oneLid : isSwitch = true → ∀ i j entry entry', node.ports i = some entry →
    node.ports j = some entry' → entry.baseLid = entry'.baseLid
  widthByte : ∀ i, ((info i).decode32 .portLinkWidthActive).toNat < 2 ^ 8

namespace SubnetNode

variable (x : SubnetNode)

/-- The numbers of the ports that are there. -/
def indices : List ℕ :=
  (List.range' 1 x.node.numports.toNat).filter fun i => (x.node.ports i).isSome

/-- `CalcLinkWidth` of the active width of port `i` itself. -/
def ownWidth (i : ℕ) : UInt8 :=
  IbPort.calcLinkWidth ((x.info i).decode32 .portLinkWidthActive).toUInt8

/-- The port whose information the constructor of port `i` reads. -/
def asked (i : ℕ) : ℕ := if x.isSwitch then 0 else i

/-- What the constructor of port `i` makes of this information. -/
def readWidth (order : ByteOrder) (i : ℕ) : UInt8 :=
  IbPort.calcLinkWidth (decode8 order (x.info (x.asked i)) .portLinkWidthActive)

/-- The raw counter of transmitted data of port `i`, as it is answered at the address that the port
table has for this port. -/
def rawXmit (io : PortIo) (i : ℕ) : UInt64 :=
  match x.node.ports i with
  | some entry =>
    match io.mad.pma 0 (ibPortidSet entry.baseLid 0 0) entry.portnum.toUInt8 .gsiPortCountersExt with
    | some ext => ext.decode64 .pcExtXmtBytes
    | none => 0
  | none => 0

/-- A MAD port with the address that the port table has for port `i`. -/
def HasAddress (i : ℕ) (p : Port) : Prop :=
  ∃ entry q, x.node.ports i = some entry ∧ p = .mad q ∧
    q.portId = ibPortidSet entry.baseLid 0 0 ∧ q.portNum = entry.portnum.toUInt8

/-- All ports have the width that their constructors get to see: on a little-endian host a port of
a switch that of the management port, on a big-endian host every port 1. -/
def WidthsSeen (order : ByteOrder) : Prop :=
  match order with
  | .little => x.isSwitch = true → ∀ i ∈ x.indices, x.ownWidth i = x.ownWidth 0
  | .big => ∀ i ∈ x.indices, x.ownWidth i = 1

/-- The upper byte of a small field is 0, which is no valid width. -/
theorem readWidth_big (i : ℕ) : x.readWidth .big i = 1 := by
  have zero : (x.info (x.asked i)).decode32 .portLinkWidthActive >>> 24 = 0 := by
    refine UInt32.toNat_inj.mp ?_
    have small := x.widthByte (x.asked i)
    rw [UInt32.toNat_shiftRight]
    simp only [UInt32.reduceToNat, Nat.reduceMod, Nat.shiftRight_eq_div_pow]
    omega
  rw [readWidth, decode8, zero]
  rfl

theorem widthsSeen_iff (order : ByteOrder) :
    x.WidthsSeen order ↔ ∀ i ∈ x.indices, x.readWidth order i = x.ownWidth i := by
  cases order with
  | big =>
    simp only [WidthsSeen, readWidth_big]
    exact ⟨fun h i hi => (h i hi).symm, fun h i hi => (h i hi).symm⟩
  | little =>
    cases kind : x.isSwitch with
    | false => simp [WidthsSeen, readWidth, ownWidth, asked, decode8, kind]
    | true =>
      simp only [WidthsSeen, readWidth, ownWidth, asked, decode8, kind, if_true, true_implies]
      exact ⟨fun h i hi => (h i hi).symm, fun h i hi => (h i hi).symm⟩

end SubnetNode

/-! ## What a refresh adds up -/

/-- The ports of the node have the widths of the ports they stand for, and in every later state of
the node a refresh that returns leaves the sum of the raw counters of these ports, each times the
width of its own port. -/
structure ScalesByOwnWidth (build : Build) (x : SubnetNode) (n : IbNode) : Prop where
  widths : n.ports.map (fun p => p.toIbPort.linkWidth) = x.indices.map x.ownWidth
  aggregate : ∀ io k k', n.Moved k → Eff.Returns (IbNode.refreshCounters build io) k () k' →
    k'.counters .xmitDataBytes =
      (x.indices.mapIdx fun j i => x.rawXmit (io j) i * (x.ownWidth i).toUInt64).sum

/-- After a refresh that returned, the transmitted bytes are the raw counter times the width. -/
theorem Port.xmit_of_returns {build : Build} {io : PortIo} {p : IbPort} {q : Port}
    (h : Eff.Returns (refreshCounters build io) (.mad p) () q) :
    ∃ ext, io.mad.pma 0 p.portId p.portNum .gsiPortCountersExt = some ext ∧
      q.counters .xmitDataBytes = ext.decode64 .pcExtXmtBytes * p.linkWidth.toUInt64 := by
  obtain ⟨p', ends, rfl⟩ := returns_refreshCounters_mad.mp h
  obtain ⟨r, answers, rfl⟩ := IbPort.returns_refreshCounters_iff.mp ends
  have below := IbPort.query_lt_three build p .xmitDataBytes
  have value : (p.refreshedTo build r 3).counters .xmitDataBytes =
      IbPort.reading build p r .xmitDataBytes := by
    have supported : p.supports .xmitDataBytes = true := rfl
    simp [IbPort.refreshedTo, supported, below]
  exact ⟨r.ext, answers.ext, value⟩

/-- Ports with the addresses and widths of the table add up to the sum over the table. -/
theorem IbNode.xmit_of_returns {build : Build} {io : NodeIo} {x : SubnetNode} {n n' : IbNode}
    (stands : List.Forall₂ x.HasAddress x.indices n.ports)
    (widths : n.ports.map (fun p => p.toIbPort.linkWidth) = x.indices.map x.ownWidth)
    (h : Eff.Returns (refreshCounters build io) n () n') : n'.counters .xmitDataBytes =
      (x.indices.mapIdx fun j i => x.rawXmit (io j) i * (x.ownWidth i).toUInt64).sum := by
  obtain ⟨all, rfl⟩ := returns_refresh_iff.mp h
  change (((met io n.ports).map (refreshed build)).map fun p => p.counters .xmitDataBytes).sum = _
  refine congrArg List.sum (List.ext_getElem (by simp [met, stands.length_eq]) fun j hj hj' => ?_)
  rw [List.length_mapIdx] at hj'
  have here : j < n.ports.length := stands.length_eq ▸ hj'
  obtain ⟨entry, q, present, same, portId, portNum⟩ := stands.get hj' here
  rw [List.get_eq_getElem] at present same
  have width : n.ports[j].toIbPort.linkWidth = x.ownWidth x.indices[j] := by
    have both := congrArg (fun l => l[j]?) widths
    simpa [here, hj'] using both
  have met_here : (n.ports[j], io j) ∈ met io n.ports :=
    List.mem_mapIdx.mpr ⟨j, here, rfl⟩
  have refreshedPort := all _ met_here
  rw [same] at refreshedPort width
  have returned : Eff.Returns (Port.refreshCounters build (io j)) (.mad q) () _ := refreshedPort
  obtain ⟨ext, answer, value⟩ := Port.xmit_of_returns returned
  rw [portId, portNum] at answer
  have raw : x.rawXmit (io j) x.indices[j] = ext.decode64 .pcExtXmtBytes := by
    simp only [SubnetNode.rawXmit, present, answer]
  simp only [List.getElem_map, List.getElem_mapIdx, met, same, value, raw, ← width]
  rfl

/-- Calls leave the addresses alone. -/
theorem SubnetNode.HasAddress.moved {x : SubnetNode} {i : ℕ} {p p' : Port}
    (h : x.HasAddress i p) (moved : p.Moved p') : x.HasAddress i p' := by
  obtain ⟨entry, q, present, rfl, address⟩ := h
  obtain ⟨_, c⟩ := moved
  exact ⟨entry, q.withCounters c, present, rfl, address⟩

/-- Where the widths are right, the sums are. -/
theorem scalesByOwnWidth_of_widths (build : Build) {x : SubnetNode} {n : IbNode}
    (stands : List.Forall₂ x.HasAddress x.indices n.ports)
    (widths : n.ports.map (fun p => p.toIbPort.linkWidth) = x.indices.map x.ownWidth) :
    ScalesByOwnWidth build x n := by
  refine ⟨widths, fun io k k' moved ends => ?_⟩
  have later : List.Forall₂ x.HasAddress x.indices k.ports :=
    moved.ports.forall₂ stands fun _ _ _ _ moved h => h.moved moved
  have same : k.ports.map (fun p => p.toIbPort.linkWidth) = x.indices.map x.ownWidth := by
    rw [← widths]
    exact (moved.ports.map_eq fun _ _ _ h => h.linkWidth.symm).symm
  exact IbNode.xmit_of_returns later same ends

/-! ## What the constructors read -/

namespace IbNode

variable {build : Build} {x : SubnetNode}

theorem linkWidth_createNetworkPort {i : UInt8} {m m' : ℕ} {o : Option Port}
    (below : i.toNat < x.node.numports.toNat)
    (h : Eff.Returns (createNetworkPort build x.node i) m o m') :
    Option.Rel (fun k p => x.HasAddress k p ∧
        x.readWidth build.byteOrder k = p.toIbPort.linkWidth)
      (Option.guard (fun k => (x.node.ports k).isSome) (i.toNat + 1)) o := by
  obtain ⟨absent, rfl, -⟩ | ⟨entry, p, present, rfl, ends⟩ := returns_createNetworkPort.mp h
  · simp [Option.guard, absent]
  · have answered := x.portInfo (i.toNat + 1) entry (by omega) (by omega) present 0
    rw [if_pos rfl] at answered
    have width := IbPort.linkWidth_of_create ends answered
    obtain ⟨-, -, portNum, -, portId, -⟩ := IbPort.returns_create ends
    simp only [Option.guard, present, Option.isSome_some, if_true]
    exact .some ⟨⟨entry, p, present, rfl, portId, portNum⟩, width.symm⟩

/-- Every port of a node has the address of its own entry of the table, and the width of the port
that its constructor asked for. -/
theorem ports_ofNetwork (limit : x.node.numports.toNat ≤ 255) {n : IbNode} {m m' : ℕ}
    (h : Eff.Returns (ofNetwork build x.node) m n m') :
    List.Forall₂ x.HasAddress x.indices n.ports ∧
      n.ports.map (fun p => p.toIbPort.linkWidth) =
        x.indices.map (x.readWidth build.byteOrder) := by
  obtain ⟨ports, _, collected, made⟩ := Eff.returns_bind.mp h
  obtain ⟨rfl, -⟩ := Eff.returns_pure.mp made
  have each : ∀ i ∈ countUp 0 x.node.numports.toUInt8, ∀ m o m',
      Eff.Returns (createNetworkPort build x.node i) m o m' → Option.Rel
        (fun k p => x.HasAddress k p ∧ x.readWidth build.byteOrder k = p.toIbPort.linkWidth)
        (Option.guard (fun k => (x.node.ports k).isSome) (i.toNat + 1)) o := by
    intro i hi m o m' ends
    have below := lt_of_mem_countUp_zero hi
    rw [toNat_numports limit] at below
    exact linkWidth_createNetworkPort below ends
  have table : (countUp 0 x.node.numports.toUInt8).map
      (fun i => Option.guard (fun k => (x.node.ports k).isSome) (i.toNat + 1)) =
      (List.range' 1 x.node.numports.toNat).map
        (Option.guard fun k => (x.node.ports k).isSome) := by
    rw [← toNat_numports limit, ← map_countUp_zero, List.map_map]
    rfl
  have indexed := forall₂_reduceOption
    (List.forall₂_map_left_iff.mpr (Eff.forall₂_of_collect each collected))
  rw [table, reduceOption_map_guard] at indexed
  exact ⟨indexed.imp fun _ _ h => h.1,
    (map_eq_map_of_forall₂ (indexed.imp fun _ _ h => h.2)).symm⟩

end IbNode

/-- The sums of a node are right exactly when its ports have the widths that were seen. -/
theorem scalesByOwnWidth_iff {build : Build} {x : SubnetNode}
    (limit : x.node.numports.toNat ≤ 255) {n : IbNode} {m m' : ℕ}
    (h : Eff.Returns (IbNode.ofNetwork build x.node) m n m') :
    ScalesByOwnWidth build x n ↔ x.WidthsSeen build.byteOrder := by
  obtain ⟨stands, read⟩ := IbNode.ports_ofNetwork limit h
  have widths_iff : n.ports.map (fun p => p.toIbPort.linkWidth) = x.indices.map x.ownWidth ↔
      x.WidthsSeen build.byteOrder := by
    rw [read, List.map_inj_left, x.widthsSeen_iff]
  exact ⟨fun scales => widths_iff.mp scales.widths,
    fun same => scalesByOwnWidth_of_widths build stands (widths_iff.mpr same)⟩

/-! ## The fabric -/

/-- In a discovered fabric, every port has its own width and the sums of all nodes are right,
exactly when all ports of each node have the width that their constructors see. -/
theorem ports_scaled_by_own_width_iff (std : StdSort IbNode) (build : Build) {a : DiscoveryAnswers}
    {first : SubnetNode} {rest : List SubnetNode}
    (found : a.fabric = some (first.node, rest.map SubnetNode.node))
    (limit : ∀ x ∈ first :: rest, x.node.numports.toNat ≤ 255) {m m' : ℕ} {h : Option Handle}
    {nodes : List IbNode}
    (discovered : Eff.Returns (IbFabric.discoverNetwork build a) m (h, nodes) m') :
    Eff.Returns (IbFabric.create std build a true false) m
        ⟨h, std.sort IbFabric.lessDescription nodes⟩ m' ∧
      (List.Forall₂ (ScalesByOwnWidth build) (first :: rest) nodes ↔
        ∀ x ∈ first :: rest, x.WidthsSeen build.byteOrder) := by
  constructor
  · exact Eff.returns_bind.mpr ⟨_, m', discovered, Eff.returns_pure.mpr ⟨rfl, rfl⟩⟩
  have collected := ((IbFabric.returns_discoverNetwork found).mp discovered).2
  rw [← List.map_cons, Eff.collect_map] at collected
  have each : ∀ x ∈ first :: rest, ∀ m n m', Eff.Returns (IbNode.ofNetwork build x.node) m n m' →
      (ScalesByOwnWidth build x n ↔ x.WidthsSeen build.byteOrder) :=
    fun x hx _ _ _ made => scalesByOwnWidth_iff (limit x hx) made
  exact forall₂_iff_of_forall₂ (Eff.forall₂_of_collect each collected)

/-! ## Two nodes for examples -/

/-- A node with two ports; port `i` has the active width `widths i`. -/
def SubnetNode.plain (isSwitch : Bool) (widths : ℕ → UInt8) : SubnetNode where
  node := ⟨"node", 1, 2, fun i => some ⟨7, i.toUInt32⟩, fun i =>
    { IbPort.plainDevice (if isSwitch then ibNodeSwitch else ibNodeCa) 0 6 0 with
      smp := fun _ attr mod => some ⟨fun _ => 0, fun field =>
        match attr, field with
        | .nodeInfo, .nodeType => if isSwitch then ibNodeSwitch else ibNodeCa
        | .portInfo, .portLinkWidthActive =>
          (widths (if mod = 0 then (if isSwitch then 0 else i) else mod.toNat)).toUInt32
        | _, _ => 0, fun _ => 0⟩ }⟩
  isSwitch := isSwitch
  info i := ⟨fun _ => 0, fun
    | .portLinkWidthActive => (widths i).toUInt32
    | _ => 0, fun _ => 0⟩
  portInfo i entry _ _ _ mod := by
    refine congrArg some ?_
    rw [MadBuf.mk.injEq]
    refine ⟨rfl, funext fun field => ?_, rfl⟩
    cases field <;> rfl
  oneLid _ i j entry entry' h h' := by
    cases h
    cases h'
    rfl
  widthByte i := by
    change (widths i).toUInt32.toNat < 2 ^ 8
    rw [UInt8.toNat_toUInt32]
    exact (widths i).toNat_lt

theorem SubnetNode.plain_succeeds (isSwitch : Bool) (widths : ℕ → UInt8) :
    (plain isSwitch widths).node.PortsSucceed ⟨true, .little⟩ :=
  fun _ _ _ _ _ m => ⟨_, m + 1, rfl, rfl⟩

/-- What is discovered when there is one such node. -/
theorem SubnetNode.discovered_plain (isSwitch : Bool) (widths : ℕ → UInt8) :
    ∃ n m', Eff.Returns (IbNode.ofNetwork ⟨true, .little⟩ (plain isSwitch widths).node) 1 n m' ∧
      Eff.Returns (IbFabric.discoverNetwork ⟨true, .little⟩
        ⟨none, "", some ((plain isSwitch widths).node, [])⟩) 0 (some ⟨.fabric, 0⟩, [n]) m' := by
  have small : (plain isSwitch widths).node.numports.toNat ≤ 255 := by simp [plain]
  obtain ⟨n, m', made⟩ := IbNode.exists_ofNetwork small (plain_succeeds isSwitch widths) 1
  refine ⟨n, m', made, (IbFabric.returns_discoverNetwork rfl).mpr ⟨rfl, ?_⟩⟩
  exact Eff.returns_collect_cons.mpr ⟨n, m', [], made, Eff.returns_collect_nil.mpr ⟨rfl, rfl⟩, rfl⟩

/-- Each port answers with 5 times its number as the raw counter. -/
def countsByPort : NodeIo := fun _ =>
  ⟨{ IbPort.plainDevice ibNodeCa 0 0 0 with
      pma := fun _ _ port _ => some (IbPort.plainReply (5 * port.toUInt64) 0) }, everyFileShows 0⟩

/-- A channel adapter with a port of width 1 and one of width 4, whose raw counters are 5 and 10. -/
theorem ports_scaled_by_own_width_adapter :
    let build : Build := ⟨true, .little⟩
    let x := SubnetNode.plain false fun i => if i = 1 then 1 else 2
    ∃ n n', List.Forall₂ (ScalesByOwnWidth build) [x] [n] ∧
      n.ports.map (fun p => p.toIbPort.linkWidth) = [1, 4] ∧
      Eff.Returns (IbNode.refreshCounters build countsByPort) n () n' ∧
      n'.getXmitDataBytes = 5 * 1 + 10 * 4 := by
  intro build x
  obtain ⟨n, m', made, discovered⟩ :=
    SubnetNode.discovered_plain false fun i => if i = 1 then 1 else 2
  have limit : ∀ y ∈ [x], y.node.numports.toNat ≤ 255 := by
    intro y hy
    obtain rfl := List.mem_singleton.mp hy
    decide
  have scales := (ports_scaled_by_own_width_iff (.stable _) build rfl limit discovered).2.mpr
    (by simp [x, SubnetNode.plain, SubnetNode.WidthsSeen, build])
  obtain ⟨widths, aggregate⟩ := (List.forall₂_cons.mp scales).1
  obtain ⟨stands, -⟩ := IbNode.ports_ofNetwork (x := x) (limit x (by simp)) made
  obtain ⟨n', returned⟩ : ∃ n', Eff.Returns (IbNode.refreshCounters build countsByPort) n () n' := by
    refine ⟨_, IbNode.returns_refresh_iff.mpr ⟨fun y hy => ?_, rfl⟩⟩
    obtain ⟨j, hj, rfl⟩ := List.mem_mapIdx.mp hy
    obtain ⟨entry, q, -, same, -⟩ := stands.get (stands.length_eq ▸ hj) hj
    have ends := IbPort.returns_refreshCounters_iff.mpr
      ⟨⟨_, _, _⟩, (⟨rfl, fun _ => rfl, rfl⟩ : IbPort.Answers build (countsByPort j).mad q _), rfl⟩
    have port : Eff.Returns (Port.refreshCounters build (countsByPort j)) (.mad q) () _ :=
      Port.returns_refreshCounters_mad.mpr ⟨_, ends, rfl⟩
    rw [← same] at port
    exact ⟨port.1, rfl⟩
  refine ⟨n, n', scales, ?_, returned, ?_⟩
  · rw [widths]
    rfl
  · exact (aggregate _ _ _ (IbNode.Moved.refl n) returned).trans rfl

/-- A switch whose two ports have width 4, and whose management port has width 1. -/
theorem switch_ports_get_width_of_port_zero :
    let x := SubnetNode.plain true fun i => if i = 0 then 1 else 2
    ∃ n m', Eff.Returns (IbFabric.discoverNetwork ⟨true, .little⟩ ⟨none, "", some (x.node, [])⟩) 0
        (some ⟨.fabric, 0⟩, [n]) m' ∧
      n.ports.map (fun p => p.toIbPort.linkWidth) = [1, 1] ∧ x.indices.map x.ownWidth = [4, 4] ∧
      ¬ List.Forall₂ (ScalesByOwnWidth ⟨true, .little⟩) [x] [n] := by
  intro x
  obtain ⟨n, m', made, discovered⟩ :=
    SubnetNode.discovered_plain true fun i => if i = 0 then 1 else 2
  have small : x.node.numports.toNat ≤ 255 := by decide
  have read : n.ports.map (fun p => p.toIbPort.linkWidth) = [1, 1] :=
    (IbNode.ports_ofNetwork (x := x) small made).2
  have own : x.indices.map x.ownWidth = [4, 4] := rfl
  refine ⟨n, m', discovered, read, own, fun scales => ?_⟩
  have widths := (List.forall₂_cons.mp scales).1.widths
  rw [read, own] at widths
  revert widths
  decide

end Detector
