import Mathlib.Data.List.ReduceOption
import Detector.IbFabric
import Detector.Library.Ledger

/-!
# The handles of ports and nodes

The constructors of ports and nodes open MAD ports and device contexts. A MAD port belongs to
the port and is closed by its destructor; a context is closed at the end of the constructor of
the node. An object whose constructor throws is not destroyed, so what such a constructor had
opened stays open. The triples of this module follow every exit path.
-/
namespace Detector

open Cpp

/-- What the external functions do with handles. -/
def desk : Desk ExtCall Handle where
  move
    | .madRpcOpenPort (some h) | .ibvGetDeviceList (some h) | .ibvOpenDevice (some h)
    | .ibndDiscoverFabric (some h) => .acquire h
    | .madRpcClosePort (some h) | .ibvFreeDeviceList (some h) | .ibvCloseDevice (some h)
    | .ibndDestroyFabric (some h) => .release h
    | _ => .keep
  serial := Handle.id

/-! ## Rules for the external functions -/

section Rules

variable {α : Type} {held : List Handle} {returns : α → List Handle → Prop}
  {throws : IbPerfException → List Handle → Prop}

/-- A handle is given out, or a null pointer. -/
theorem acquire_then {kind : HandleKind} {granted : Bool} {call : Option Handle → ExtCall}
    {f : Option Handle → Method ℕ α} (given : ∀ h, desk.move (call (some h)) = .acquire h)
    (refused : desk.move (call none) = .keep)
    (rest : ∀ h : Option Handle, h.isSome = granted →
      desk.Ends (held ++ h.toList) (f h) returns throws) :
    desk.Ends held (acquire kind granted call >>= f) returns throws := by
  cases granted with
  | false =>
    have next := rest none rfl
    rw [Option.toList_none, List.append_nil] at next
    exact .keep_then (fun _ => rfl) refused next
  | true =>
    refine .acquire_then (fun m => ?_) (fun m => given ⟨kind, m⟩) (fun _ => rfl) fun m =>
      rest (some ⟨kind, m⟩) rfl
    rfl

/-- A handle, if there is one, is given back. -/
theorem release_then {call : Option Handle → ExtCall} {f : Unit → Method ℕ α}
    (pre : List Handle) {post : List Handle} (h : Option Handle)
    (back : ∀ h, desk.move (call (some h)) = .release h) (null : desk.move (call none) = .keep)
    (rest : desk.Ends (pre ++ post) (f ()) returns throws) :
    desk.Ends (pre ++ (h.toList ++ post)) (Eff.emit (call h) >>= f) returns throws := by
  cases h with
  | none => exact .keep_then (fun _ => rfl) null rest
  | some h => exact .release_then (fun _ => rfl) (back h) rest

theorem pmaQueryVia_then {a : MadAnswers} {n : ℕ} {dest : IbPortId} {port : UInt8}
    {attr : MadAttr} {srcport : Option Handle} {message : String} {f : MadBuf → Method ℕ α}
    (fails : a.pma n dest port attr = none → throws (.ibMadException message) held)
    (rest : ∀ buf, a.pma n dest port attr = some buf → desk.Ends held (f buf) returns throws) :
    desk.Ends held (pmaQueryVia a n dest port attr srcport message >>= f) returns throws := by
  have first : desk.Ends held (pmaQueryVia a n dest port attr srcport message)
      (fun buf hs => a.pma n dest port attr = some buf ∧ hs = held) throws :=
    .keep_then (fun _ => rfl) rfl (.require fails fun _ answered => ⟨answered, rfl⟩)
  refine first.bind ?_
  rintro buf _ ⟨answered, rfl⟩
  exact rest buf answered

theorem smpQueryVia_then {a : MadAnswers} {dest : IbPortId} {attr : MadAttr} {mod : UInt32}
    {srcport : Option Handle} {message : String} {f : MadBuf → Method ℕ α}
    (fails : a.smp dest attr mod = none → throws (.ibMadException message) held)
    (rest : ∀ buf, a.smp dest attr mod = some buf → desk.Ends held (f buf) returns throws) :
    desk.Ends held (smpQueryVia a dest attr mod srcport message >>= f) returns throws := by
  have first : desk.Ends held (smpQueryVia a dest attr mod srcport message)
      (fun buf hs => a.smp dest attr mod = some buf ∧ hs = held) throws :=
    .keep_then (fun _ => rfl) rfl (.require fails fun _ answered => ⟨answered, rfl⟩)
  refine first.bind ?_
  rintro buf _ ⟨answered, rfl⟩
  exact rest buf answered

theorem orThrow_then {β : Type} {answer : Except String β} {e : String → IbPerfException}
    {f : β → Method ℕ α} (fails : ∀ text, answer = .error text → throws (e text) held)
    (rest : ∀ b, answer = .ok b → desk.Ends held (f b) returns throws) :
    desk.Ends held (orThrow answer e >>= f) returns throws := by
  cases answer with
  | error text => exact .throw_then (fails text rfl)
  | ok b => exact rest b rfl

end Rules

/-! ## Ports -/

/-- The handle that the port closes when it is destroyed. -/
def Port.madHandle (p : Port) : Option Handle := p.toIbPort.madPort

/-- The handles of some ports. -/
def heldBy (ports : List Port) : List Handle := ports.flatMap fun p => p.madHandle.toList

/-- The port is of the class that the mode asks for. Only a MAD port has a handle. -/
def Port.InMode (compatibility : Bool) : Port → Prop
  | .mad p => compatibility = false ∧ p.madPort.isSome = true
  | .compat p => compatibility = true ∧ p.madPort = none

theorem Port.InMode.madHandle_eq_nil {compatibility : Bool} {p : Port}
    (h : p.InMode compatibility) : p.madHandle.toList = [] ↔ compatibility = true := by
  cases p with
  | mad p =>
    obtain ⟨rfl, held⟩ := h
    obtain ⟨handle, held⟩ := Option.isSome_iff_exists.mp held
    simp [madHandle, toIbPort, held]
  | compat p =>
    obtain ⟨rfl, held⟩ := h
    simp [madHandle, toIbPort, held]

/-- The requests of the constructor succeed. -/
structure IbPort.Builds (a : MadAnswers) (lid : UInt16) : Prop where
  openPort : a.openPort = true
  classPortInfo : (a.pma 0 (ibPortidSet lid 0 0) 0 .classPortInfo).isSome = true
  nodeInfo : (a.smp (ibPortidSet lid 0 0) .nodeInfo 0).isSome = true
  portInfo : (a.smp (ibPortidSet lid 0 0) .portInfo 0).isSome = true

/-- A port that is constructed has a MAD port; a failed request leaves one behind. -/
theorem IbPort.create_ends (build : Build) (a : MadAnswers) (lid : UInt16) (portNum : UInt8) :
    desk.Ends [] (create build a lid portNum)
      (fun p hs => Builds a lid ∧ p.madPort.isSome = true ∧ hs = p.madPort.toList)
      (fun e _ => ¬ Builds a lid ∧ IbFabric.isVerbs e = false) := by
  refine acquire_then (fun _ => rfl) rfl fun madPort granted => ?_
  refine .ensure_then (fun refused => ⟨fun builds => ?_, rfl⟩) fun opened => ?_
  · rw [granted, builds.openPort] at refused
    cases refused
  refine pmaQueryVia_then (fun failed => ⟨fun builds => ?_, rfl⟩) fun pmaBuf pma => ?_
  · exact absurd builds.classPortInfo (by simp [failed])
  refine smpQueryVia_then (fun failed => ⟨fun builds => ?_, rfl⟩) fun nodeBuf node => ?_
  · exact absurd builds.nodeInfo (by simp [failed])
  refine smpQueryVia_then (fun failed => ⟨fun builds => ?_, rfl⟩) fun portBuf port => ?_
  · exact absurd builds.portInfo (by simp [failed])
  have builds : Builds a lid :=
    ⟨granted.symm.trans opened, by simp [pma], by simp [node], by simp [port]⟩
  exact .pure ⟨builds, opened, rfl⟩

/-- All files of the port can be opened. -/
def IbPortCompat.Builds (readable : String → Bool) (deviceName : String) (portNum : UInt8) : Prop :=
  ∀ i : Fin 21,
    readable (counterPath deviceName portNum ++ fileNames.get (i.cast length_fileNames)) = true

/-- The constructor of a compatibility port opens no handle. -/
theorem IbPortCompat.create_ends (readable : String → Bool) (deviceName : String)
    (attributes : IbvPortAttr) (portNum : UInt8) :
    desk.Ends [] (create readable deviceName attributes portNum)
      (fun p hs => Builds readable deviceName portNum ∧ p.madPort = none ∧ hs = [])
      (fun e _ => ¬ Builds readable deviceName portNum ∧ IbFabric.isVerbs e = false) := by
  have tested : ((List.finRange 21).all fun i => (InStream.ofFile readable
      (counterPath deviceName portNum ++ fileNames.get (i.cast length_fileNames))).isOpen) = true ↔
      Builds readable deviceName portNum := by
    simp only [List.all_eq_true, List.mem_finRange, true_implies, InStream.isOpen_ofFile, Builds]
  refine .ensure_then (fun failed => ⟨fun builds => ?_, rfl⟩) fun passed => ?_
  · exact absurd (tested.mpr builds) (Bool.eq_false_iff.mp failed)
  · exact .pure ⟨tested.mp passed, rfl, rfl⟩

/-! ## Nodes of local devices -/

namespace IbvDevice

variable (device : IbvDevice) (compatibility : Bool)

/-- The query of port number `i`, counted from 0, succeeds, and so does its constructor. -/
def PortBuilds (i : UInt8) : Prop :=
  ∃ attributes, device.queryPort (i + 1) = .ok attributes ∧
    if compatibility then IbPortCompat.Builds device.readable device.name (i + 1)
    else IbPort.Builds (device.mad (i + 1)) attributes.lid

/-- The query of the port fails. -/
def QueryFails (i : UInt8) : Prop := ∃ text, device.queryPort (i + 1) = .error text

/-- The constructor of the node gets to its end. -/
def Builds : Prop :=
  device.isNull = false ∧ ∃ attr, device.queryDevice = .ok attr ∧
    ∀ i ∈ countUp 0 attr.physPortCnt, device.PortBuilds compatibility i

/-- A query of a port fails, and no port with a handle has been constructed before it. -/
def StopsEarly (attr : IbvDeviceAttr) : Prop :=
  ∃ pre i post, countUp 0 attr.physPortCnt = pre ++ i :: post ∧
    (∀ j ∈ pre, device.PortBuilds compatibility j) ∧ device.QueryFails i ∧
      (compatibility = true ∨ pre = [])

/-- The constructor of the node gets to a port that answers the query and cannot be constructed. -/
def Stops : Prop :=
  device.isNull = false ∧ ∃ attr, device.queryDevice = .ok attr ∧
    ∃ pre i post, countUp 0 attr.physPortCnt = pre ++ i :: post ∧
      (∀ j ∈ pre, device.PortBuilds compatibility j) ∧ ¬ device.QueryFails i ∧
        ¬ device.PortBuilds compatibility i

/-- The constructor of the node throws an `IbVerbsException` at a place where no handle is
open: the context was not opened, and there is no MAD port. -/
def SkipsCleanly : Prop :=
  device.openDevice = false ∧ (device.isNull = true ∨ (∃ text, device.queryDevice = .error text) ∨
    ∃ attr, device.queryDevice = .ok attr ∧ device.StopsEarly compatibility attr)

variable {device compatibility}

theorem PortBuilds.not_queryFails {i : UInt8} (h : device.PortBuilds compatibility i) :
    ¬ device.QueryFails i := by
  rintro ⟨text, failed⟩
  obtain ⟨attributes, answered, -⟩ := h
  rw [answered] at failed
  cases failed

theorem Builds.not_stops (h : device.Builds compatibility) : ¬ device.Stops compatibility := by
  rintro ⟨-, attr, answered, pre, i, post, split, -, -, notBuilt⟩
  obtain ⟨-, attr', answered', allBuild⟩ := h
  obtain rfl : attr' = attr := Except.ok.inj (answered'.symm.trans answered)
  exact notBuilt (allBuild i (by rw [split]; simp))

section FailedQuery

variable {attr : IbvDeviceAttr} {pre post : List UInt8} {i : UInt8}

/-- A failed query ends the loop before it gets to a port that cannot be constructed. -/
theorem QueryFails.not_stops (answered : device.queryDevice = .ok attr)
    (split : countUp 0 attr.physPortCnt = pre ++ i :: post)
    (allBuild : ∀ j ∈ pre, device.PortBuilds compatibility j) (fails : device.QueryFails i) :
    ¬ device.Stops compatibility := by
  rintro ⟨-, attr', answered', pre', i', post', split', allBuild', asked, notBuilt⟩
  obtain rfl : attr' = attr := Except.ok.inj (answered'.symm.trans answered)
  obtain later | rfl | earlier := split_cases (split.symm.trans split')
  · exact (allBuild' i later).not_queryFails fails
  · exact asked fails
  · exact notBuilt (allBuild i' earlier)

/-- It leaves no MAD port behind just when there was none before it. -/
theorem QueryFails.stopsEarly_iff (split : countUp 0 attr.physPortCnt = pre ++ i :: post)
    (allBuild : ∀ j ∈ pre, device.PortBuilds compatibility j) (fails : device.QueryFails i) :
    device.StopsEarly compatibility attr ↔ compatibility = true ∨ pre = [] := by
  constructor
  · rintro ⟨pre', i', post', split', -, fails', same | rfl⟩
    · exact .inl same
    · cases pre with
      | nil => exact .inr rfl
      | cons j pre =>
        obtain rfl : j = i' := (List.cons.inj (split.symm.trans split')).1
        exact absurd fails' (allBuild j List.mem_cons_self).not_queryFails
  · exact fun clean => ⟨pre, i, post, split, allBuild, fails, clean⟩

end FailedQuery

theorem SkipsCleanly.not_stops (h : device.SkipsCleanly compatibility) :
    ¬ device.Stops compatibility := by
  obtain ⟨-, null | ⟨text, failed⟩ | ⟨attr, answered, pre, i, post, split, allBuild, fails, -⟩⟩ := h
  · rintro ⟨notNull, -⟩
    rw [notNull] at null
    cases null
  · rintro ⟨-, attr, answered, -⟩
    rw [answered] at failed
    cases failed
  · exact fails.not_stops answered split allBuild

end IbvDevice

namespace IbNode

section Local

variable (build : Build) (device : IbvDevice) (compatibility : Bool) (context : Option Handle)

/-- One iteration of the loop over the ports of a device. -/
theorem queryAndCreatePort_ends (i : UInt8) :
    desk.Ends [] (queryAndCreatePort build device compatibility context i)
      (fun p hs => device.PortBuilds compatibility i ∧ p.InMode compatibility ∧
        hs = p.madHandle.toList)
      (fun e hs => device.QueryFails i ∧ IbFabric.isVerbs e = true ∧ hs = [] ∨
        ¬ device.PortBuilds compatibility i ∧ ¬ device.QueryFails i ∧
          IbFabric.isVerbs e = false) := by
  refine .keep_then (fun _ => rfl) rfl ?_
  refine orThrow_then (fun text failed => .inl ⟨⟨text, failed⟩, rfl, rfl⟩) ?_
  intro attributes answered
  have asked : ¬ device.QueryFails i := by
    rintro ⟨text, failed⟩
    rw [answered] at failed
    cases failed
  cases compatibility with
  | false =>
    have builds : device.PortBuilds false i ↔
        IbPort.Builds (device.mad (i + 1)) attributes.lid := by
      simp [IbvDevice.PortBuilds, answered]
    refine (((IbPort.create_ends build _ _ _).imp (fun _ _ h => h) ?_).bind ?_)
    · rintro e hs ⟨notBuilt, other⟩
      exact .inr ⟨builds.not.mpr notBuilt, asked, other⟩
    · rintro p hs ⟨built, held, rfl⟩
      exact .pure ⟨builds.mpr built, ⟨rfl, held⟩, rfl⟩
  | true =>
    have builds : device.PortBuilds true i ↔
        IbPortCompat.Builds device.readable device.name (i + 1) := by
      simp [IbvDevice.PortBuilds, answered]
    refine (((IbPortCompat.create_ends _ _ _ _).imp (fun _ _ h => h) ?_).bind ?_)
    · rintro e hs ⟨notBuilt, other⟩
      exact .inr ⟨builds.not.mpr notBuilt, asked, other⟩
    · rintro p _ ⟨built, held, rfl⟩
      refine .pure ⟨builds.mpr built, ⟨rfl, held⟩, ?_⟩
      simp [Port.madHandle, Port.toIbPort, held]

/-- What the loop over the ports has made, before it ended or threw. -/
theorem collected_ports {is : List UInt8} {ports : List Port} {hs : List Handle}
    (h : Desk.Collected (fun i (p : Port) hs => device.PortBuilds compatibility i ∧
      p.InMode compatibility ∧ hs = p.madHandle.toList) is ports hs) :
    (∀ i ∈ is, device.PortBuilds compatibility i) ∧ (∀ p ∈ ports, p.InMode compatibility) ∧
      hs = heldBy ports ∧ (hs = [] ↔ compatibility = true ∨ is = []) := by
  obtain ⟨allBuild, allInMode, rfl, length⟩ := h.all fun _ _ _ h => h
  refine ⟨allBuild, allInMode, rfl, ?_⟩
  rw [List.flatMap_eq_nil_iff, ← List.length_eq_zero_iff, ← length, List.length_eq_zero_iff]
  constructor
  · intro empty
    cases ports with
    | nil => exact .inr rfl
    | cons p ports =>
      have first := allInMode p List.mem_cons_self
      exact .inl (first.madHandle_eq_nil.mp (empty p List.mem_cons_self))
  · rintro (same | rfl) p hp
    · exact (allInMode p hp).madHandle_eq_nil.mpr same
    · cases hp

/-- The constructor of a node for a local device. It throws something else than an
`IbVerbsException` where `Stops` says so, and such an exception leaves nothing behind only in
the cases that `SkipsCleanly` lists. -/
theorem ofDevice_ends : desk.Ends [] (ofDevice build device compatibility)
    (fun node hs => device.Builds compatibility ∧ (∀ p ∈ node.ports, p.InMode compatibility) ∧
      hs = heldBy node.ports)
    (fun e hs => ¬ device.Builds compatibility ∧
      if IbFabric.isVerbs e then
        ¬ device.Stops compatibility ∧ (hs = [] ↔ device.SkipsCleanly compatibility)
      else device.Stops compatibility) := by
  refine acquire_then (fun _ => rfl) rfl fun context granted => ?_
  have opened : context.toList = [] ↔ device.openDevice = false := by
    cases context <;> simp [← granted]
  refine .ensure_then (fun isNull => ?_) fun notNull => ?_
  · have null : device.isNull = true := by simpa using isNull
    refine ⟨fun builds => ?_, ?_⟩
    · rw [builds.1] at null
      cases null
    · simp [IbFabric.isVerbs, IbvDevice.SkipsCleanly, IbvDevice.Stops, null, opened]
  have some_device : device.isNull = false := by simpa using notNull
  refine .keep_then (fun _ => rfl) rfl ?_
  refine orThrow_then (fun text failed => ?_) fun attr answered => ?_
  · refine ⟨fun builds => ?_, ?_⟩
    · obtain ⟨-, attr, answered, -⟩ := builds
      rw [failed] at answered
      cases answered
    · simp [IbFabric.isVerbs, IbvDevice.SkipsCleanly, IbvDevice.Stops, failed, opened]
  have builds_iff : device.Builds compatibility ↔
      ∀ i ∈ countUp 0 attr.physPortCnt, device.PortBuilds compatibility i := by
    simp [IbvDevice.Builds, some_device, answered]
  have skips_iff : device.SkipsCleanly compatibility ↔
      device.openDevice = false ∧ device.StopsEarly compatibility attr := by
    simp [IbvDevice.SkipsCleanly, some_device, answered]
  have loop := (Desk.Ends.collect (queryAndCreatePort_ends build device compatibility context)
    (countUp 0 attr.physPortCnt)).frame context.toList
  rw [List.append_nil] at loop
  refine (loop.imp (fun _ _ h => h) ?_).bind ?_
  · rintro e _ ⟨_, rfl, pre, i, post, ports, before, last, split, made, failed, rfl⟩
    obtain ⟨allBuild, -, -, empty⟩ := collected_ports device compatibility made
    have here : i ∈ countUp 0 attr.physPortCnt := by rw [split]; simp
    obtain ⟨fails, verbs, rfl⟩ | ⟨notBuilt, asked, other⟩ := failed
    · refine ⟨fun builds => (builds_iff.mp builds i here).not_queryFails fails, ?_⟩
      rw [verbs, if_pos rfl, skips_iff, fails.stopsEarly_iff split allBuild, List.append_nil,
        List.append_eq_nil_iff, opened, empty]
      exact ⟨fails.not_stops answered split allBuild, Iff.rfl⟩
    · refine ⟨fun builds => notBuilt (builds_iff.mp builds i here), ?_⟩
      rw [other]
      exact ⟨some_device, attr, answered, pre, i, post, split, allBuild, asked, notBuilt⟩
  · rintro ports _ ⟨hs, rfl, made⟩
    obtain ⟨allBuild, allInMode, rfl, -⟩ := collected_ports device compatibility made
    exact release_then [] context (fun _ => rfl) rfl
      (.pure ⟨builds_iff.mpr allBuild, allInMode, rfl⟩)

end Local

end IbNode

/-! ## Nodes of the network -/

/-- If there is a port with this index, counted from 0, its constructor succeeds. -/
def IbndNode.PortBuilds (node : IbndNode) (i : UInt8) : Prop :=
  ∀ port, node.ports (i.toNat + 1) = some port →
    IbPort.Builds (node.mad (i.toNat + 1)) port.baseLid

/-- The constructor of the node gets to its end. -/
def IbndNode.Builds (node : IbndNode) : Prop :=
  ∀ i ∈ countUp 0 node.numports.toUInt8, node.PortBuilds i

namespace IbNode

theorem createNetworkPort_ends (build : Build) (node : IbndNode) (i : UInt8) :
    desk.Ends [] (createNetworkPort build node i)
      (fun p hs => node.PortBuilds i ∧ (∀ q ∈ p, Port.InMode false q) ∧ hs = heldBy p.toList)
      (fun _ _ => ¬ node.PortBuilds i) := by
  unfold createNetworkPort
  cases present : node.ports (i.toNat + 1) with
  | none => exact .pure ⟨by simp [IbndNode.PortBuilds, present], by simp, rfl⟩
  | some port =>
    have builds : node.PortBuilds i ↔
        IbPort.Builds (node.mad (i.toNat + 1)) port.baseLid := by
      simp [IbndNode.PortBuilds, present]
    refine ((IbPort.create_ends build _ _ _).imp (fun _ _ h => h) ?_).bind ?_
    · rintro e hs ⟨notBuilt, -⟩
      exact builds.not.mpr notBuilt
    · rintro p _ ⟨built, held, rfl⟩
      refine .pure ⟨builds.mpr built, ?_, ?_⟩
      · intro q hq
        obtain rfl := Option.mem_some.mp hq
        exact ⟨rfl, held⟩
      · simp [heldBy, Port.madHandle, Port.toIbPort]

theorem heldBy_reduceOption (ports : List (Option Port)) :
    heldBy ports.reduceOption = ports.flatMap fun p => heldBy p.toList := by
  induction ports with
  | nil => rfl
  | cons p ports ih =>
    cases p with
    | none => simpa [heldBy] using ih
    | some p => simpa [heldBy] using ih

theorem ofNetwork_ends (build : Build) (node : IbndNode) :
    desk.Ends [] (ofNetwork build node)
      (fun n hs => node.Builds ∧ (∀ p ∈ n.ports, p.InMode false) ∧ hs = heldBy n.ports)
      (fun _ _ => ¬ node.Builds) := by
  have loop := Desk.Ends.collect (createNetworkPort_ends build node)
    (countUp 0 node.numports.toUInt8)
  refine (loop.imp (fun _ _ h => h) ?_).bind ?_
  · rintro e hs ⟨pre, i, post, _, _, _, split, -, failed, -⟩ builds
    exact failed (builds i (by rw [split]; simp))
  · intro ports hs made
    obtain ⟨allBuild, allInMode, rfl, -⟩ := made.all fun _ _ _ h => h
    refine .pure ⟨allBuild, fun p hp => ?_, (heldBy_reduceOption ports).symm⟩
    obtain ⟨q, hq, same⟩ := List.mem_filterMap.mp hp
    exact allInMode q hq p same

end IbNode

end Detector
