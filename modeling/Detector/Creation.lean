import Detector.Discovery
import Detector.Exceptions
import Detector.LocalDiscovery

/-!
# What the constructors build

Every port of a fabric was made by the constructor that the mode asks for, and every node bears a
name that one of the libraries reported. On the local machine there is one node for each device on
which nothing failed, with the ports `1..phys_port_cnt`.

## Main definitions

* `Port.Made`, `IbNode.Made` — the work of the constructors.
* `IbNode.IsForDevice` — a node that describes a local device.

## Main results

* `IbFabric.made_of_create` — a constructor that returned made all nodes and ports.
* `IbFabric.local_discovery` — the nodes of the local machine.
-/
namespace Detector

open Cpp

/-! ## Every node and port -/

/-- A port that the constructor of its class returned. -/
inductive Port.Made (build : Build) : Bool → Port → Prop where
  | mad {a : MadAnswers} {lid : UInt16} {portNum : UInt8} {m m' : ℕ} {p : IbPort}
      (created : Eff.Returns (IbPort.create build a lid portNum) m p m') : Made build false (.mad p)
  | compat {readable : String → Bool} {deviceName : String} {attributes : IbvPortAttr}
      {portNum : UInt8} {m m' : ℕ} {p : IbPortCompat}
      (created : Eff.Returns (IbPortCompat.create readable deviceName attributes portNum) m p m') :
      Made build true (.compat p)

/-- The names that the libraries report. -/
def DiscoveryAnswers.names (a : DiscoveryAnswers) : List String :=
  (a.deviceList.getD []).map IbvDevice.name ++
    (a.fabric.toList.flatMap fun l => l.1 :: l.2).map IbndNode.nodedesc

structure IbNode.Made (build : Build) (a : DiscoveryAnswers) (compatibility : Bool) (n : IbNode) :
    Prop where
  counters : n.counters = IbPerfCounter.init
  desc : n.desc ∈ a.names
  ports : ∀ p ∈ n.ports, p.Made build compatibility

namespace IbNode

variable {build : Build} {a : DiscoveryAnswers} {compatibility : Bool} {n : IbNode} {m m' : ℕ}

theorem made_queryAndCreatePort {device : IbvDevice} {context : Option Handle} {i : UInt8}
    {p : Port} (h : Eff.Returns (queryAndCreatePort build device compatibility context i) m p m') :
    p.Made build compatibility := by
  obtain ⟨_, _, -, rest⟩ := Eff.returns_bind.mp h
  obtain ⟨attributes, _, -, made⟩ := Eff.returns_bind.mp rest
  cases compatibility with
  | false =>
    obtain ⟨q, _, created, wrapped⟩ := Eff.returns_bind.mp made
    obtain ⟨rfl, -⟩ := Eff.returns_pure.mp wrapped
    exact .mad created
  | true =>
    obtain ⟨q, _, created, wrapped⟩ := Eff.returns_bind.mp made
    obtain ⟨rfl, -⟩ := Eff.returns_pure.mp wrapped
    exact .compat created

/-- What the constructor of a local node did: the device answered the query, and each port was
constructed. -/
theorem returns_ofDevice {device : IbvDevice}
    (h : Eff.Returns (ofDevice build device compatibility) m n m') :
    ∃ attr context u ports v, device.queryDevice = .ok attr ∧
      Eff.Returns (Eff.collect (queryAndCreatePort build device compatibility context)
        (countUp 0 attr.physPortCnt)) u ports v ∧
      n = ⟨⟨IbPerfCounter.init⟩, device.name, htonll build.byteOrder attr.nodeGuid,
        attr.physPortCnt, ports⟩ := by
  obtain ⟨context, _, -, rest⟩ := Eff.returns_bind.mp h
  obtain ⟨_, _, -, rest⟩ := Eff.returns_bind.mp rest
  obtain ⟨_, _, -, rest⟩ := Eff.returns_bind.mp rest
  obtain ⟨attr, u, answer, rest⟩ := Eff.returns_bind.mp rest
  obtain ⟨ports, v, collected, rest⟩ := Eff.returns_bind.mp rest
  obtain ⟨_, _, -, made⟩ := Eff.returns_bind.mp rest
  obtain ⟨rfl, -⟩ := Eff.returns_pure.mp made
  cases queried : device.queryDevice with
  | error text =>
    rw [queried] at answer
    cases answer.1
  | ok attr' =>
    rw [queried] at answer
    obtain ⟨rfl, -⟩ := Eff.returns_pure.mp answer
    exact ⟨_, context, u, ports, v, rfl, collected, rfl⟩

theorem made_ofDevice {devices : List IbvDevice} (listed : a.deviceList = some devices)
    {device : IbvDevice} (hd : device ∈ devices)
    (h : Eff.Returns (ofDevice build device compatibility) m n m') : n.Made build a compatibility := by
  obtain ⟨attr, context, u, ports, v, -, collected, rfl⟩ := returns_ofDevice h
  refine ⟨rfl, ?_, Eff.forall_of_collect (fun _ _ _ _ _ => made_queryAndCreatePort) collected⟩
  refine List.mem_append_left _ (List.mem_map.mpr ⟨device, ?_, rfl⟩)
  rwa [listed, Option.getD_some]

theorem made_ofNetwork {list : IbndNode × List IbndNode} (found : a.fabric = some list)
    {node : IbndNode} (hn : node ∈ list.1 :: list.2)
    (h : Eff.Returns (ofNetwork build node) m n m') : n.Made build a false := by
  obtain ⟨ports, _, collected, made⟩ := Eff.returns_bind.mp h
  obtain ⟨rfl, -⟩ := Eff.returns_pure.mp made
  refine ⟨rfl, ?_, fun p hp => ?_⟩
  · refine List.mem_append_right _ (List.mem_map.mpr ⟨node, ?_, rfl⟩)
    simpa [found] using hn
  · have each : ∀ o ∈ ports, ∀ p, o = some p → p.Made build false := by
      refine Eff.forall_of_collect (fun i _ u o v created p same => ?_) collected
      subst same
      obtain ⟨-, absent, -⟩ | ⟨_, q, -, same, ends⟩ := returns_createNetworkPort.mp created
      · cases absent
      · obtain rfl := Option.some.inj same
        exact .mad ends
    exact each (some p) (List.reduceOption_mem_iff.mp hp) p rfl

end IbNode

namespace IbFabric

variable {std : StdSort IbNode} {build : Build} {a : DiscoveryAnswers}
  {network compatibility : Bool} {m m' : ℕ}

theorem made_discoverLocalDevices {nodes : List IbNode}
    (h : Eff.Returns (discoverLocalDevices build a compatibility) m nodes m') :
    ∀ n ∈ nodes, n.Made build a compatibility := by
  obtain ⟨_, _, -, rest⟩ := Eff.returns_bind.mp h
  obtain ⟨devices, _, taken, -⟩ := Eff.returns_bind.mp rest
  have listed : a.deviceList = some devices := (Eff.returns_require.mp taken).1
  obtain ⟨found, collected, rfl⟩ := (returns_discoverLocalDevices listed).mp h
  have each : ∀ o ∈ found, ∀ n, o = some n → n.Made build a compatibility := by
    refine Eff.forall_of_collect (fun device hd u o v ends n same => ?_) collected
    subst same
    obtain ⟨n', same, made⟩ | ⟨e, absent, -⟩ := Eff.returns_attempt.mp ends
    · obtain rfl := Option.some.inj same
      exact IbNode.made_ofDevice listed hd made
    · cases absent
  exact fun n hn => each (some n) (List.reduceOption_mem_iff.mp hn) n rfl

theorem made_discoverFabric {found : Option Handle × List IbNode}
    (h : Eff.Returns (discoverFabric build a network compatibility) m found m') :
    ∀ n ∈ found.2, n.Made build a compatibility := by
  cases compatibility with
  | true =>
    obtain ⟨nodes, _, discovered, made⟩ := Eff.returns_bind.mp h
    obtain ⟨rfl, -⟩ := Eff.returns_pure.mp made
    exact made_discoverLocalDevices discovered
  | false =>
    cases network with
    | false =>
      obtain ⟨nodes, _, discovered, made⟩ := Eff.returns_bind.mp h
      obtain ⟨rfl, -⟩ := Eff.returns_pure.mp made
      exact made_discoverLocalDevices discovered
    | true =>
      obtain ⟨_, _, -, rest⟩ := Eff.returns_bind.mp h
      obtain ⟨list, _, taken, rest⟩ := Eff.returns_bind.mp rest
      obtain ⟨nodes, _, collected, made⟩ := Eff.returns_bind.mp rest
      obtain ⟨rfl, -⟩ := Eff.returns_pure.mp made
      exact Eff.forall_of_collect
        (fun _ hn _ _ _ => IbNode.made_ofNetwork (Eff.returns_require.mp taken).1 hn) collected

/-- A constructor that returned made all nodes and ports. -/
theorem made_of_create {f : IbFabric}
    (h : Eff.Returns (create std build a network compatibility) m f m') :
    ∀ n ∈ f.nodes, n.Made build a compatibility := by
  obtain ⟨found, _, discovered, made⟩ := Eff.returns_bind.mp h
  obtain ⟨rfl, -⟩ := Eff.returns_pure.mp made
  have sorted := std.perm lessDescription found.2 strictWeak_lessDescription
  exact fun n hn => made_discoverFabric discovered n (sorted.mem_iff.mp hn)

end IbFabric

/-! ## The local machine -/

/-- The port describes port number `i` of the device, of the class that the mode asks for, and has
not counted anything yet. -/
structure Port.IsForDevice (device : IbvDevice) (compatibility : Bool) (i : ℕ) (p : Port) : Prop where
  isCompat : p.isCompat = compatibility
  portNum : p.toIbPort.portNum.toNat = i
  lid : ∃ attributes, device.queryPort (UInt8.ofNat i) = .ok attributes ∧
    p.toIbPort.lid = attributes.lid
  counters : ∀ v, p.counters v = 0

/-- The node describes the device, with one port for each of its ports. -/
structure IbNode.IsForDevice (build : Build) (compatibility : Bool) (device : IbvDevice)
    (n : IbNode) : Prop where
  desc : n.desc = device.name
  attributes : ∃ attr, device.queryDevice = .ok attr ∧
    n.guid = htonll build.byteOrder attr.nodeGuid ∧ n.numPorts = attr.physPortCnt
  ports : List.Forall₂ (Port.IsForDevice device compatibility) (List.range' 1 n.numPorts.toNat)
    n.ports
  counters : ∀ v, n.counters v = 0

namespace IbNode

variable {build : Build} {compatibility : Bool} {device : IbvDevice} {m m' : ℕ}

theorem isForDevice_queryAndCreatePort {context : Option Handle} {physPortCnt i : UInt8}
    (hi : i ∈ countUp 0 physPortCnt) {p : Port}
    (h : Eff.Returns (queryAndCreatePort build device compatibility context i) m p m') :
    p.IsForDevice device compatibility (i.toNat + 1) := by
  have next : (i + 1).toNat = i.toNat + 1 :=
    toNat_add_one_of_lt (UInt8.lt_iff_toNat_lt.mpr (lt_of_mem_countUp_zero hi))
  have number : UInt8.ofNat (i.toNat + 1) = i + 1 := by rw [← next, UInt8.ofNat_toNat]
  obtain ⟨_, _, -, rest⟩ := Eff.returns_bind.mp h
  obtain ⟨attributes, u, answer, made⟩ := Eff.returns_bind.mp rest
  have queried : device.queryPort (i + 1) = .ok attributes := by
    cases asked : device.queryPort (i + 1) with
    | error text =>
      rw [asked] at answer
      cases answer.1
    | ok attributes' =>
      rw [asked] at answer
      obtain ⟨rfl, -⟩ := Eff.returns_pure.mp answer
      rfl
  cases compatibility with
  | false =>
    obtain ⟨q, _, created, wrapped⟩ := Eff.returns_bind.mp made
    obtain ⟨rfl, -⟩ := Eff.returns_pure.mp wrapped
    obtain ⟨counters, lid, portNum, -⟩ := IbPort.returns_create created
    refine ⟨rfl, ?_, ⟨attributes, by rw [number, queried], lid⟩, fun v => ?_⟩
    · rw [← next, ← portNum]
      rfl
    · change q.counters v = 0
      rw [counters]
      exact IbPerfCounter.init_apply v
  | true =>
    obtain ⟨q, _, created, wrapped⟩ := Eff.returns_bind.mp made
    obtain ⟨rfl, -⟩ := Eff.returns_pure.mp wrapped
    obtain ⟨_, _, -, built⟩ := Eff.returns_bind.mp created
    obtain ⟨rfl, -⟩ := Eff.returns_pure.mp built
    exact ⟨rfl, next, ⟨attributes, by rw [number, queried], rfl⟩, IbPerfCounter.init_apply⟩

theorem isForDevice_ofDevice {n : IbNode}
    (h : Eff.Returns (ofDevice build device compatibility) m n m') :
    n.IsForDevice build compatibility device := by
  obtain ⟨attr, context, u, ports, v, queried, collected, rfl⟩ := returns_ofDevice h
  refine ⟨rfl, ⟨attr, queried, rfl, rfl⟩, ?_, IbPerfCounter.init_apply⟩
  rw [← map_countUp_zero]
  refine List.forall₂_map_left_iff.mpr (Eff.forall₂_of_collect ?_ collected)
  exact fun i hi _ _ _ => isForDevice_queryAndCreatePort hi

end IbNode

namespace IbFabric

/-- One iteration over the devices gives the node of a device exactly when nothing failed on it. -/
theorem rel_attempt {build : Build} {compatibility : Bool} {device : IbvDevice} {m m' : ℕ}
    {o : Option IbNode} [DecidablePred (IbvDevice.Builds · compatibility)]
    (h : Eff.Returns (Eff.attempt isVerbs (IbNode.ofDevice build device compatibility)) m o m') :
    Option.Rel (IbNode.IsForDevice build compatibility)
      (Option.guard (fun d => decide (d.Builds compatibility)) device) o := by
  obtain ⟨n, rfl, made⟩ | ⟨e, rfl, -, thrown⟩ := Eff.returns_attempt.mp h
  · obtain ⟨_, builds, -⟩ := (IbNode.ofDevice_ends build device compatibility).of_returns made
    simp only [Option.guard, builds, decide_true, if_true]
    exact .some (IbNode.isForDevice_ofDevice made)
  · obtain ⟨_, notBuilt, -⟩ := (IbNode.ofDevice_ends build device compatibility).of_throws thrown
    simp only [Option.guard, notBuilt, decide_false]
    exact .none

open scoped Classical in
/-- Unless a device ends the discovery, the fabric of the local machine has one node for each device
on which nothing failed, and no other, in the order of their names. Compatibility mode only knows
the local machine. -/
theorem local_discovery (std : StdSort IbNode) (build : Build) {a : DiscoveryAnswers}
    {devices : List IbvDevice} (listed : a.deviceList = some devices) {network compatibility : Bool}
    (mode : network = false ∨ compatibility = true)
    (goes : ∀ device ∈ devices, ¬ device.Stops compatibility) (m : ℕ) :
    ∃ f m' nodes, Eff.Returns (create std build a network compatibility) m f m' ∧
      f.fabric = none ∧ f.nodes.Perm nodes ∧
      List.Forall₂ (IbNode.IsForDevice build compatibility)
        (devices.filter fun d => d.Builds compatibility) nodes ∧
      f.nodes.Pairwise fun l r => l.desc ≤ r.desc := by
  have weak := strictWeak_lessDescription
  have each : ∀ device ∈ devices, ∀ m, ∃ o m', Eff.Returns (Eff.attempt isVerbs
      (IbNode.ofDevice build device compatibility)) m o m' := fun d hd => exists_attempt (goes d hd)
  obtain ⟨found, m', collected⟩ := Eff.exists_collect each (m + 1)
  have shown := forall₂_reduceOption
    (List.forall₂_map_left_iff.mpr (Eff.forall₂_of_collect (fun _ _ _ _ _ => rel_attempt) collected))
  rw [reduceOption_map_guard] at shown
  have discovered : Eff.Returns (discoverLocalDevices build a compatibility) m found.reduceOption m' :=
    (returns_discoverLocalDevices listed).mpr ⟨found, collected, rfl⟩
  have fabric : Eff.Returns (discoverFabric build a network compatibility) m
      (none, found.reduceOption) m' := by
    obtain rfl | rfl := mode
    · cases compatibility with
      | false => exact Eff.returns_bind.mpr ⟨_, m', discovered, Eff.returns_pure.mpr ⟨rfl, rfl⟩⟩
      | true => exact Eff.returns_bind.mpr ⟨_, m', discovered, Eff.returns_pure.mpr ⟨rfl, rfl⟩⟩
    · exact Eff.returns_bind.mpr ⟨_, m', discovered, Eff.returns_pure.mpr ⟨rfl, rfl⟩⟩
  refine ⟨⟨none, std.sort lessDescription found.reduceOption⟩, m', found.reduceOption,
    Eff.returns_bind.mpr ⟨_, m', fabric, Eff.returns_pure.mpr ⟨rfl, rfl⟩⟩, rfl,
    std.perm _ _ weak, shown, ?_⟩
  exact (std.sorted _ _ weak).imp fun ordered => not_lt.mp (of_decide_eq_false ordered)

/-- Two adapters, of which the second one does not answer: there is a node for the first. -/
theorem local_discovery_of_two :
    let silent : IbvDevice := { IbvDevice.plain with name := "mlx5_1", queryDevice := .error "EIO" }
    let a : DiscoveryAnswers := ⟨some [silent, .plain], "", none⟩
    ∃ f m', Eff.Returns (create (.stable _) ⟨true, .little⟩ a true true) 0 f m' ∧
      f.nodes.map IbNode.desc = ["mlx5_0"] := by
  classical
  intro silent a
  have builds : IbvDevice.plain.Builds true :=
    ⟨rfl, ⟨1, 1⟩, rfl, fun i _ => ⟨⟨3, 2⟩, rfl, fun _ => rfl⟩⟩
  have refused : ¬ silent.Builds true := by
    rintro ⟨-, attr, answered, -⟩
    cases answered
  have goes : ∀ device ∈ [silent, .plain], ¬ device.Stops true := by
    intro device hd
    obtain rfl | rfl := List.mem_pair.mp hd
    · rintro ⟨-, attr, answered, -⟩
      cases answered
    · exact builds.not_stops
  obtain ⟨f, m', nodes, ends, -, perm, shown, -⟩ :=
    local_discovery (.stable _) ⟨true, .little⟩ (a := a) rfl (.inr rfl) goes 0
  have good : [silent, IbvDevice.plain].filter (fun d => d.Builds true) = [.plain] := by
    simp [builds, refused]
  rw [good] at shown
  obtain ⟨n, rest, node, others, rfl⟩ := List.forall₂_cons_left_iff.mp shown
  obtain rfl := List.forall₂_nil_left_iff.mp others
  refine ⟨f, m', ends, ?_⟩
  rw [List.perm_singleton.mp perm, List.map_singleton, node.desc]
  rfl

end IbFabric

end Detector
