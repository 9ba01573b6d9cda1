import Detector.IbPortCompat
import Detector.Library.Word

/-!
# Nodes

An `IbNode` owns its ports through pointers to `IbPort`, so its two member functions call the
overridden functions of `IbPortCompat` where a port is one. A refresh adds up the getters of
the ports, port by port, in the node's own variables; a throw leaves what was added so far.
-/
namespace Detector

open Cpp

/-- What an `IbPort *` points to. -/
inductive Port where
  | mad (port : IbPort)
  | compat (port : IbPortCompat)

/-- The answers and files that a port meets during one call. -/
structure PortIo where
  mad : MadAnswers
  files : Reads

namespace Port

/-- The part that every port has. -/
def toIbPort : Port → IbPort
  | mad p => p
  | compat p => p.toIbPort

/-- The values that the getters of the port return. -/
def counters (p : Port) : PerfCounters := p.toIbPort.counters

/-- `port->ResetCounters()`. -/
def resetCounters (io : PortIo) : Method Port Unit
  | mad p => ((IbPort.resetCounters io.mad).run p).map mad
  | compat p => ((IbPortCompat.resetCounters io.files).run p).map compat

/-- `port->RefreshCounters()`. -/
def refreshCounters (build : Build) (io : PortIo) : Method Port Unit
  | mad p => ((IbPort.refreshCounters build io.mad).run p).map mad
  | compat p => ((IbPortCompat.refreshCounters io.files).run p).map compat

/-- `delete port`. -/
def destroy : Port → List ExtCall
  | mad p => p.destroy
  | compat p => p.destroy

section Dispatch

variable {build : Build} {io : PortIo} {q : Port} {e : IbPerfException}

theorem returns_resetCounters_mad {p : IbPort} :
    Eff.Returns (resetCounters io) (mad p) () q ↔
      ∃ p', Eff.Returns (IbPort.resetCounters io.mad) p () p' ∧ q = mad p' :=
  Eff.returns_of_run_map rfl

theorem returns_resetCounters_compat {p : IbPortCompat} :
    Eff.Returns (resetCounters io) (compat p) () q ↔
      ∃ p', Eff.Returns (IbPortCompat.resetCounters io.files) p () p' ∧ q = compat p' :=
  Eff.returns_of_run_map rfl

theorem returns_refreshCounters_mad {p : IbPort} :
    Eff.Returns (refreshCounters build io) (mad p) () q ↔
      ∃ p', Eff.Returns (IbPort.refreshCounters build io.mad) p () p' ∧ q = mad p' :=
  Eff.returns_of_run_map rfl

theorem returns_refreshCounters_compat {p : IbPortCompat} :
    Eff.Returns (refreshCounters build io) (compat p) () q ↔
      ∃ p', Eff.Returns (IbPortCompat.refreshCounters io.files) p () p' ∧ q = compat p' :=
  Eff.returns_of_run_map rfl

theorem throws_refreshCounters_mad {p : IbPort} :
    Eff.Throws (refreshCounters build io) (mad p) e q ↔
      ∃ p', Eff.Throws (IbPort.refreshCounters build io.mad) p e p' ∧ q = mad p' :=
  Eff.throws_of_run_map rfl

theorem throws_refreshCounters_compat {p : IbPortCompat} :
    Eff.Throws (refreshCounters build io) (compat p) e q ↔
      ∃ p', Eff.Throws (IbPortCompat.refreshCounters io.files) p e p' ∧ q = compat p' :=
  Eff.throws_of_run_map rfl

end Dispatch

end Port

structure IbNode extends IbPerfCounter where
  desc : String
  guid : UInt64
  numPorts : UInt8
  ports : List Port

/-- What each port meets during one call, by its position in the list. -/
abbrev NodeIo := ℕ → PortIo

namespace IbNode

/-- `m_xmitDataBytes += port->GetXmitDataBytes();` and the 20 lines like it. -/
def aggregate (c : PerfCounters) (p : IbPerfCounter) : PerfCounters
  | .xmitDataBytes => c .xmitDataBytes + p.getXmitDataBytes
  | .rcvDataBytes => c .rcvDataBytes + p.getRcvDataBytes
  | .xmitPkts => c .xmitPkts + p.getXmitPkts
  | .rcvPkts => c .rcvPkts + p.getRcvPkts
  | .unicastXmitPkts => c .unicastXmitPkts + p.getUnicastXmitPkts
  | .unicastRcvPkts => c .unicastRcvPkts + p.getUnicastRcvPkts
  | .multicastXmitPkts => c .multicastXmitPkts + p.getMulticastXmitPkts
  | .multicastRcvPkts => c .multicastRcvPkts + p.getMulticastRcvPkts
  | .symbolErrors => c .symbolErrors + p.getSymbolErrors
  | .linkDowned => c .linkDowned + p.getLinkDownedCounter
  | .linkRecoveries => c .linkRecoveries + p.getLinkRecoveryCounter
  | .rcvErrors => c .rcvErrors + p.getRcvErrors
  | .rcvRemotePhysicalErrors => c .rcvRemotePhysicalErrors + p.getRcvRemotePhysicalErrors
  | .rcvSwitchRelayErrors => c .rcvSwitchRelayErrors + p.getRcvSwitchRelayErrors
  | .xmitDiscards => c .xmitDiscards + p.getXmitDiscards
  | .xmitConstraintErrors => c .xmitConstraintErrors + p.getXmitConstraintErrors
  | .rcvConstraintErrors => c .rcvConstraintErrors + p.getRcvConstraintErrors
  | .localLinkIntegrityErrors => c .localLinkIntegrityErrors + p.getLocalLinkIntegrityErrors
  | .excessiveBufferOverrunErrors =>
    c .excessiveBufferOverrunErrors + p.getExcessiveBufferOverrunErrors
  | .vl15Dropped => c .vl15Dropped + p.getVL15Dropped
  | .xmitWait => c .xmitWait + p.getXmitWait

/-- The variables and getters are paired by name. -/
@[simp] theorem aggregate_apply (c : PerfCounters) (p : IbPerfCounter) (v : PerfVar) :
    aggregate c p v = c v + p.counters v := by cases v <;> rfl

/-- The ports with the variables of the node. -/
def body (n : IbNode) : List Port × PerfCounters := (n.ports, n.counters)

def withBody (n : IbNode) (s : List Port × PerfCounters) : IbNode :=
  { n with ports := s.1, counters := s.2 }

def resetCounters (io : NodeIo) : Method IbNode Unit := do
  Eff.modify fun n => { n with counters := IbPerfCounter.resetVariables n.counters }
  Eff.focus body withBody (Eff.visit fun i => Eff.onItem (Port.resetCounters (io i)))

/-- The body of the loop in `RefreshCounters`. -/
def refreshPort (build : Build) (io : PortIo) : Method (Port × PerfCounters) Unit := do
  Eff.onItem (Port.refreshCounters build io)
  Eff.modify fun s => (s.1, aggregate s.2 s.1.toIbPort.toIbPerfCounter)

def refreshCounters (build : Build) (io : NodeIo) : Method IbNode Unit := do
  Eff.modify fun n => { n with counters := IbPerfCounter.resetVariables n.counters }
  Eff.focus body withBody (Eff.visit fun i => refreshPort build (io i))

/-- A call of a client on port number `j`, through `GetPorts`. -/
def onPort (j : ℕ) (x : Method Port Unit) : Method IbNode Unit :=
  Eff.focus ports (fun n ports => { n with ports := ports }) (Eff.onNth j x)

/-- The destructor deletes the ports in their order. -/
def destroy (n : IbNode) : List ExtCall := n.ports.flatMap Port.destroy

end IbNode

/-! ## Construction -/

/-- `ibv_device_attr`, as far as it is used. -/
structure IbvDeviceAttr where
  nodeGuid : UInt64
  physPortCnt : UInt8

/-- A device of the local machine, with the answers of `libibverbs`, of `libibmad` and of the
file system during the construction of its node. Errors are given by their `strerror` text. -/
structure IbvDevice where
  isNull : Bool
  name : String
  openDevice : Bool
  openError : String
  queryDevice : Except String IbvDeviceAttr
  queryPort : UInt8 → Except String IbvPortAttr
  mad : UInt8 → MadAnswers
  readable : String → Bool

/-- `htonll`. -/
def htonll (order : ByteOrder) (x : UInt64) : UInt64 :=
  match order with
  | .big => x
  | .little =>
    (htonl order x.toUInt32).toUInt64 <<< 32 ||| (htonl order (x >>> 32).toUInt32).toUInt64

/-- The value of a call that reports an error code, or a throw. -/
def orThrow {σ α : Type} (answer : Except String α) (e : String → IbPerfException) :
    Method σ α :=
  match answer with
  | .ok a => pure a
  | .error text => Eff.throw (e text)

namespace IbNode

/-- `new IbPortCompat(..)` or `new IbPort(..)`, for one port of a local device. -/
def createPort (build : Build) (device : IbvDevice) (compat : Bool)
    (portAttributes : IbvPortAttr) (portNum : UInt8) : Method ℕ Port :=
  if compat then do
    let p ← IbPortCompat.create device.readable device.name portAttributes portNum
    return .compat p
  else do
    let p ← IbPort.create build (device.mad portNum) portAttributes.lid portNum
    return .mad p

/-- The body of the loop over the ports of a local device. -/
def queryAndCreatePort (build : Build) (device : IbvDevice) (compat : Bool)
    (context : Option Handle) (i : UInt8) : Method ℕ Port := do
  Eff.emit (.ibvQueryPort context (i + 1))
  let portAttributes ← orThrow (device.queryPort (i + 1)) fun text => .ibVerbsException
    ("Unable to query port attributes of '" ++ device.name ++ ", port " ++
      toString i.toNat ++ "'! Error: " ++ text)
  createPort build device compat portAttributes (i + 1)

/-- The compatibility constructor. It tests the device and not the context, and closes the
context at its end only. -/
def ofDevice (build : Build) (device : IbvDevice) (compat : Bool) : Method ℕ IbNode := do
  let context ← acquire .context device.openDevice .ibvOpenDevice
  Eff.ensure (!device.isNull) (.ibVerbsException ("Unable to open context for device '" ++
    device.name ++ "'! Error: " ++ device.openError))
  Eff.emit (.ibvQueryDevice context)
  let attr ← orThrow device.queryDevice fun text => .ibVerbsException
    ("Unable to query device attributes from '" ++ device.name ++ "'! Error: " ++ text)
  let ports ← Eff.collect (queryAndCreatePort build device compat context)
    (Cpp.countUp 0 attr.physPortCnt)
  Eff.emit (.ibvCloseDevice context)
  return {
    counters := IbPerfCounter.init
    desc := device.name
    guid := htonll build.byteOrder attr.nodeGuid
    numPorts := attr.physPortCnt
    ports := ports }

end IbNode

/-- `ibnd_port_t`, as far as it is used. -/
structure IbndPort where
  baseLid : UInt16
  portnum : UInt32

/-- `ibnd_node_t`, as far as it is used, with the answers of `libibmad` during the construction
of the port with each index. -/
structure IbndNode where
  nodedesc : String
  guid : UInt64
  numports : UInt32
  ports : ℕ → Option IbndPort
  mad : ℕ → MadAnswers

namespace IbNode

/-- The body of the loop over the port table of a discovered node. -/
def createNetworkPort (build : Build) (node : IbndNode) (i : UInt8) :
    Method ℕ (Option Port) :=
  match node.ports (i.toNat + 1) with
  | none => return none
  | some currentPort => do
    let p ← IbPort.create build (node.mad (i.toNat + 1)) currentPort.baseLid
      currentPort.portnum.toUInt8
    return some (.mad p)

def ofNetwork (build : Build) (node : IbndNode) : Method ℕ IbNode := do
  let ports ← Eff.collect (createNetworkPort build node) (Cpp.countUp 0 node.numports.toUInt8)
  return {
    counters := IbPerfCounter.init
    desc := node.nodedesc
    guid := node.guid
    numPorts := node.numports.toUInt8
    ports := ports.reduceOption }

end IbNode

namespace IbNode

/-! ## What the calls do -/

/-- The sums of the counters of some ports. -/
def total (ports : List Port) : PerfCounters := fun v => (ports.map fun p => p.counters v).sum

@[simp] theorem total_nil (v : PerfVar) : total [] v = 0 := rfl

@[simp] theorem total_cons (p : Port) (ports : List Port) (v : PerfVar) :
    total (p :: ports) v = p.counters v + total ports v := by
  simp [total]

theorem returns_refreshPort {build : Build} {io : PortIo} {p p' : Port} {c c' : PerfCounters} :
    Eff.Returns (refreshPort build io) (p, c) () (p', c') ↔
      Eff.Returns (Port.refreshCounters build io) p () p' ∧
        c' = fun v => c v + p'.counters v := by
  simp only [refreshPort, Eff.onItem, Eff.returns_bind, Eff.returns_focus, Eff.returns_modify]
  constructor
  · rintro ⟨_, _, ⟨q, ends, rfl⟩, same⟩
    obtain ⟨rfl, rfl⟩ := Prod.mk.inj same
    exact ⟨ends, funext fun v => aggregate_apply c _ v⟩
  · rintro ⟨ends, rfl⟩
    refine ⟨(), _, ⟨p', ends, rfl⟩, ?_⟩
    exact congrArg (Prod.mk p') (funext fun v => (aggregate_apply c _ v).symm)

/-- The ports are refreshed one by one, and their new values added up. -/
theorem visited_refreshPort {build : Build} {io : NodeIo} {i : ℕ} {ports ports' : List Port}
    {c c' : PerfCounters} :
    Eff.Visited (fun i => refreshPort build (io i)) i ports c ports' c' ↔
      Eff.Each (fun i => Port.refreshCounters build (io i)) i ports ports' ∧
        c' = fun v => c v + total ports' v := by
  constructor
  · intro h
    induction h with
    | nil => exact ⟨.nil _, by simp⟩
    | cons first _ ih =>
      obtain ⟨ends, rfl⟩ := returns_refreshPort.mp first
      refine ⟨.cons ends ih.1, ih.2.trans (funext fun v => ?_)⟩
      rw [total_cons, UInt64.add_assoc]
  · rintro ⟨h, rfl⟩
    induction h generalizing c with
    | nil =>
      have same : (fun v => c v + total [] v) = c := by simp
      rw [same]
      exact .nil _ _
    | @cons i p p' ports ports' first rest ih =>
      refine .cons (returns_refreshPort.mpr ⟨first, rfl⟩) ?_
      simpa [UInt64.add_assoc] using ih (c := fun v => c v + p'.counters v)

section Calls

variable {build : Build} {io : NodeIo} {n n' : IbNode} {e : IbPerfException}

/-- The node after a call that left `ports` and `c` behind. -/
theorem returns_refreshCounters : Eff.Returns (refreshCounters build io) n () n' ↔
    ∃ ports, Eff.Each (fun i => Port.refreshCounters build (io i)) 0 n.ports ports ∧
      n' = n.withBody (ports, total ports) := by
  simp only [refreshCounters, Eff.returns_bind, Eff.returns_modify, Eff.returns_focus]
  constructor
  · rintro ⟨_, _, rfl, ⟨ports, c⟩, ends, rfl⟩
    obtain ⟨each, rfl⟩ := visited_refreshPort.mp (Eff.returns_visit.mp ends)
    exact ⟨ports, each, by simp [withBody]⟩
  · rintro ⟨ports, each, rfl⟩
    refine ⟨(), _, rfl, (ports, total ports), ?_, rfl⟩
    refine Eff.returns_visit.mpr (visited_refreshPort.mpr ⟨each, ?_⟩)
    simp

/-- A refresh that throws has refreshed the ports before the one that threw and added up
these. -/
theorem throws_refreshCounters (h : Eff.Throws (refreshCounters build io) n e n') :
    ∃ pre p post pre' p', n.ports = pre ++ p :: post ∧
      Eff.Each (fun i => Port.refreshCounters build (io i)) 0 pre pre' ∧
      Eff.Throws (Port.refreshCounters build (io pre.length)) p e p' ∧
      n' = n.withBody (pre' ++ p' :: post, total pre') := by
  simp only [refreshCounters, Eff.throws_bind, Eff.throws_modify, Eff.returns_modify,
    Eff.throws_focus, false_or] at h
  obtain ⟨_, _, rfl, s, thrown, rfl⟩ := h
  obtain ⟨pre, p, post, pre', c, p', c', split, seen, last, rfl⟩ := Eff.throws_visit thrown
  obtain ⟨each, rfl⟩ := visited_refreshPort.mp seen
  simp only [refreshPort, Eff.onItem, Eff.throws_bind, Eff.throws_focus, Eff.throws_modify,
    and_false, exists_false, or_false] at last
  obtain ⟨q, ends, same⟩ := last
  obtain ⟨rfl, rfl⟩ := Prod.mk.inj same
  exact ⟨pre, p, post, pre', p', split, each, ends, by simp [withBody]⟩

theorem returns_resetCounters : Eff.Returns (resetCounters io) n () n' ↔
    ∃ ports, Eff.Each (fun i => Port.resetCounters (io i)) 0 n.ports ports ∧
      n' = n.withBody (ports, fun _ => 0) := by
  simp only [resetCounters, Eff.returns_bind, Eff.returns_modify, Eff.returns_focus]
  constructor
  · rintro ⟨_, _, rfl, ⟨ports, c⟩, ends, rfl⟩
    obtain ⟨each, rfl⟩ := Eff.visited_onItem.mp (Eff.returns_visit.mp ends)
    exact ⟨ports, each, by simp [withBody, IbPerfCounter.resetVariables_eq]⟩
  · rintro ⟨ports, each, rfl⟩
    refine ⟨(), _, rfl, (ports, fun _ => 0), ?_, rfl⟩
    refine Eff.returns_visit.mpr (Eff.visited_onItem.mpr ⟨each, ?_⟩)
    exact (IbPerfCounter.resetVariables_eq n.counters).symm

/-- A reset that throws leaves zeros in the node, and the later ports as they were. -/
theorem throws_resetCounters (h : Eff.Throws (resetCounters io) n e n') :
    ∃ pre p post pre' p', n.ports = pre ++ p :: post ∧
      Eff.Each (fun i => Port.resetCounters (io i)) 0 pre pre' ∧
      Eff.Throws (Port.resetCounters (io pre.length)) p e p' ∧
      n' = n.withBody (pre' ++ p' :: post, fun _ => 0) := by
  simp only [resetCounters, Eff.throws_bind, Eff.throws_modify, Eff.returns_modify,
    Eff.throws_focus, false_or] at h
  obtain ⟨_, _, rfl, s, thrown, rfl⟩ := h
  obtain ⟨pre, p, post, pre', c, p', c', split, seen, last, rfl⟩ := Eff.throws_visit thrown
  obtain ⟨each, rfl⟩ := Eff.visited_onItem.mp seen
  obtain ⟨q, ends, same⟩ := Eff.throws_focus.mp last
  obtain ⟨rfl, rfl⟩ := Prod.mk.inj same
  exact ⟨pre, p, post, pre', p', split, each, ends,
    by simp [withBody, IbPerfCounter.resetVariables_eq]⟩

end Calls

end IbNode

end Detector
