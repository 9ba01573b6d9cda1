import Detector.Library.Failing
import Detector.PerfTest

/-!
# How constructors fail

Before a fabric is built it can be told from the answers of the libraries whether its constructor
throws, and what: the failure of the first node in the order of the discovery, and there the failure
of its first port. A local device whose failure is an `IbVerbsException` is skipped. The program
`perftest` does not catch what remains.

## Main definitions

* `DiscoveryAnswers.failure` — the exception of the constructor, if there is one.
* `DiscoveryAnswers.Explains` — what the class and the text of an exception say about the answers.

## Main results

* `IbFabric.create_fails` — the constructor throws this exception and no other, and what the
  exception says is true.
* `PerfTest.main_ends` — how the program ends.
-/
namespace Detector

open Cpp

section Rules

variable {α : Type} {rest : Option IbPerfException}

theorem failsWith_acquire_then {kind : HandleKind} {granted : Bool}
    {call : Option Handle → ExtCall} {f : Option Handle → Method ℕ α}
    (second : ∀ h : Option Handle, h.isSome = granted → Eff.FailsWith (f h) rest) :
    Eff.FailsWith (acquire kind granted call >>= f) rest := by
  have first : Eff.FailsWith (acquire kind granted call) none := fun m =>
    ⟨_, _, IbPort.returns_acquire.mpr ⟨rfl, rfl⟩⟩
  refine first.bind fun h m m' given => second h ?_
  obtain ⟨rfl, -⟩ := IbPort.returns_acquire.mp given
  cases granted <;> rfl

theorem failsWith_pmaQueryVia_then {a : MadAnswers} {n : ℕ} {dest : IbPortId} {port : UInt8}
    {attr : MadAttr} {srcport : Option Handle} {message : String} {f : MadBuf → Method ℕ α}
    (second : ∀ buf, Eff.FailsWith (f buf) rest) :
    Eff.FailsWith (pmaQueryVia a n dest port attr srcport message >>= f)
      (if (a.pma n dest port attr).isNone then some (.ibMadException message) else rest) := by
  cases answer : a.pma n dest port attr with
  | none => exact fun s => ⟨s, by simp [Eff.Throws, pmaQueryVia, answer]⟩
  | some buf =>
    have first : Eff.FailsWith (pmaQueryVia a n dest port attr srcport message : Method ℕ MadBuf)
        none := fun s =>
      ⟨buf, s, by simp [Eff.Returns, pmaQueryVia, answer]⟩
    exact first.bind fun buf _ _ _ => second buf

theorem failsWith_smpQueryVia_then {a : MadAnswers} {dest : IbPortId} {attr : MadAttr}
    {mod : UInt32} {srcport : Option Handle} {message : String} {f : MadBuf → Method ℕ α}
    (second : ∀ buf, Eff.FailsWith (f buf) rest) :
    Eff.FailsWith (smpQueryVia a dest attr mod srcport message >>= f)
      (if (a.smp dest attr mod).isNone then some (.ibMadException message) else rest) := by
  cases answer : a.smp dest attr mod with
  | none => exact fun s => ⟨s, by simp [Eff.Throws, smpQueryVia, answer]⟩
  | some buf =>
    have first : Eff.FailsWith (smpQueryVia a dest attr mod srcport message : Method ℕ MadBuf) none :=
      fun s =>
      ⟨buf, s, by simp [Eff.Returns, smpQueryVia, answer]⟩
    exact first.bind fun buf _ _ _ => second buf

/-- The failure of a call that reports an error code, and then of the rest. -/
def orFailure {β : Type} (answer : Except String β) (e : String → IbPerfException)
    (rest : β → Option IbPerfException) : Option IbPerfException :=
  match answer with
  | .error text => some (e text)
  | .ok b => rest b

theorem failsWith_orThrow_then {β : Type} {answer : Except String β} {e : String → IbPerfException}
    {f : β → Method ℕ α} {rest : β → Option IbPerfException}
    (second : ∀ b, answer = .ok b → Eff.FailsWith (f b) (rest b)) :
    Eff.FailsWith (orThrow answer e >>= f) (orFailure answer e rest) := by
  cases answer with
  | error text => exact fun s => ⟨s, rfl, rfl⟩
  | ok b => exact second b rfl

end Rules

/-! ## Ports -/

namespace IbPort

/-- The failure of the constructor. Each request is made after the ones before it succeeded. -/
def createFailure (a : MadAnswers) (lid : UInt16) : Option IbPerfException :=
  let portId := ibPortidSet lid 0 0
  if a.openPort then
    if (a.pma 0 portId 0 .classPortInfo).isNone then
      some (.ibMadException "MAD: Failed to query port information! (pma_query_via failed)")
    else if (a.smp portId .nodeInfo 0).isNone then
      some (.ibMadException "MAD: Failed to query device information! (smp_query_via failed)")
    else if (a.smp portId .portInfo 0).isNone then
      some (.ibMadException "MAD: Failed to query port information! (smp_query_via failed)")
    else none
  else some (.ibMadException "MAD: Failed to open port! (mad_rpc_open_port failed)")

theorem create_failsWith (build : Build) (a : MadAnswers) (lid : UInt16) (portNum : UInt8) :
    Eff.FailsWith (create build a lid portNum) (createFailure a lid) := by
  refine failsWith_acquire_then fun madPort granted => ?_
  rw [createFailure, ← granted]
  refine .ensure_then (failsWith_pmaQueryVia_then fun pmaBuf => ?_)
  refine failsWith_smpQueryVia_then fun nodeBuf => failsWith_smpQueryVia_then fun portBuf => ?_
  exact .pure _

theorem isVerbs_createFailure {a : MadAnswers} {lid : UInt16} {e : IbPerfException}
    (h : createFailure a lid = some e) : IbFabric.isVerbs e = false := by
  simp only [createFailure] at h
  split_ifs at h
  all_goals
    obtain rfl := Option.some.inj h
    rfl

end IbPort

namespace IbPortCompat

variable (readable : String → Bool) (deviceName : String) (portNum : UInt8)

instance : Decidable (Builds readable deviceName portNum) := inferInstanceAs (Decidable (∀ _, _))

def unableToOpen : IbPerfException :=
  .ibFileException ("Unable to open file in '" ++ counterPath deviceName portNum ++ "'!")

def createFailure : Option IbPerfException :=
  if Builds readable deviceName portNum then none else some (unableToOpen deviceName portNum)

theorem create_failsWith (attributes : IbvPortAttr) :
    Eff.FailsWith (create readable deviceName attributes portNum)
      (createFailure readable deviceName portNum) := by
  have opened : ((List.finRange 21).all fun i => (InStream.ofFile readable
      (counterPath deviceName portNum ++ fileNames.get (i.cast length_fileNames))).isOpen) = true ↔
      Builds readable deviceName portNum := by
    simp only [List.all_eq_true, List.mem_finRange, true_implies, InStream.isOpen_ofFile, Builds]
  simp only [createFailure, ← opened]
  exact .ensure_then (.pure _)

end IbPortCompat

/-! ## Nodes -/

namespace IbNode

/-- The failure of the iteration for a port of a local device. -/
def portFailure (device : IbvDevice) (compat : Bool) (i : UInt8) : Option IbPerfException :=
  orFailure (device.queryPort (i + 1)) (fun text => .ibVerbsException
    ("Unable to query port attributes of '" ++ device.name ++ ", port " ++
      toString i.toNat ++ "'! Error: " ++ text)) fun attributes =>
    if compat then IbPortCompat.createFailure device.readable device.name (i + 1)
    else IbPort.createFailure (device.mad (i + 1)) attributes.lid

theorem queryAndCreatePort_failsWith (build : Build) (device : IbvDevice) (compat : Bool)
    (context : Option Handle) (i : UInt8) :
    Eff.FailsWith (queryAndCreatePort build device compat context i)
      (portFailure device compat i) := by
  refine .emit_then (failsWith_orThrow_then fun attributes _ => ?_)
  cases compat with
  | false => exact (IbPort.create_failsWith build _ _ _).value fun _ => .pure _
  | true => exact (IbPortCompat.create_failsWith _ _ _ _).value fun _ => .pure _

/-- The failure of the constructor for a local device. -/
def deviceFailure (device : IbvDevice) (compat : Bool) : Option IbPerfException :=
  if !device.isNull then
    orFailure device.queryDevice (fun text => .ibVerbsException
      ("Unable to query device attributes from '" ++ device.name ++ "'! Error: " ++ text)) fun attr =>
        (countUp 0 attr.physPortCnt).findSome? (portFailure device compat)
  else some (.ibVerbsException ("Unable to open context for device '" ++ device.name ++
    "'! Error: " ++ device.openError))

theorem ofDevice_failsWith (build : Build) (device : IbvDevice) (compat : Bool) :
    Eff.FailsWith (ofDevice build device compat) (deviceFailure device compat) := by
  refine failsWith_acquire_then fun context _ => ?_
  refine .ensure_then (.emit_then ?_)
  refine failsWith_orThrow_then fun attr _ => ?_
  refine (Eff.FailsWith.collect fun i _ => ?_).value fun ports => .emit_then (.pure _)
  exact queryAndCreatePort_failsWith build device compat context i

/-- Apart from an `IbVerbsException`, it is the failure of a port. -/
theorem port_of_deviceFailure {device : IbvDevice} {compat : Bool} {e : IbPerfException}
    (h : deviceFailure device compat = some e) (other : IbFabric.isVerbs e = false) :
    ∃ portNum attributes, device.queryPort portNum = .ok attributes ∧
      (if compat then IbPortCompat.createFailure device.readable device.name portNum
        else IbPort.createFailure (device.mad portNum) attributes.lid) = some e := by
  have notVerbs : ∀ text, some (IbPerfException.ibVerbsException text) ≠ some e := by
    rintro text same
    obtain rfl := Option.some.inj same
    cases other
  rw [deviceFailure] at h
  split at h
  · cases queried : device.queryDevice with
    | error text =>
      rw [queried] at h
      exact absurd h (notVerbs _)
    | ok attr =>
      rw [queried] at h
      obtain ⟨i, -, failed⟩ := List.exists_of_findSome?_eq_some h
      cases answer : device.queryPort (i + 1) with
      | error text =>
        rw [portFailure, answer] at failed
        exact absurd failed (notVerbs _)
      | ok attributes =>
        rw [portFailure, answer] at failed
        exact ⟨i + 1, attributes, answer, failed⟩
  · exact absurd h (notVerbs _)

/-- The failure of the constructor for a discovered node. -/
def networkFailure (node : IbndNode) : Option IbPerfException :=
  (countUp 0 node.numports.toUInt8).findSome? fun i =>
    (node.ports (i.toNat + 1)).bind fun currentPort =>
      IbPort.createFailure (node.mad (i.toNat + 1)) currentPort.baseLid

theorem ofNetwork_failsWith (build : Build) (node : IbndNode) :
    Eff.FailsWith (ofNetwork build node) (networkFailure node) := by
  refine (Eff.FailsWith.collect fun i _ => ?_).value fun ports => .pure _
  unfold createNetworkPort
  cases node.ports (i.toNat + 1) with
  | none => exact .pure none
  | some currentPort => exact (IbPort.create_failsWith build _ _ _).value fun _ => .pure _

end IbNode

/-! ## Fabrics -/

namespace DiscoveryAnswers

variable (a : DiscoveryAnswers)

/-- The failure of the discovery. A handler skips a local device whose failure is an
`IbVerbsException`. -/
def failure (network compatibility : Bool) : Option IbPerfException :=
  if network && !compatibility then
    match a.fabric with
    | none => some (.ibNetDiscException
        "Unable to discover nodes in the fabric (ibnd_discover_fabric failed)!")
    | some list => (list.1 :: list.2).findSome? IbNode.networkFailure
  else
    match a.deviceList with
    | none => some (.ibVerbsException ("Unable to get device list! Error: " ++ a.listError))
    | some devices => devices.findSome? fun device =>
        (IbNode.deviceFailure device compatibility).filter fun e => !IbFabric.isVerbs e

/-- Why a constructor throws: a list could not be had, or a port could not be constructed. -/
inductive Cause : Bool → Bool → IbPerfException → Prop where
  | noFabric (absent : a.fabric = none) : Cause true false (.ibNetDiscException
      "Unable to discover nodes in the fabric (ibnd_discover_fabric failed)!")
  | networkPort {list : IbndNode × List IbndNode} {node : IbndNode} {i : ℕ} {entry : IbndPort}
      {e : IbPerfException} (found : a.fabric = some list) (listed : node ∈ list.1 :: list.2)
      (present : node.ports i = some entry)
      (fails : IbPort.createFailure (node.mad i) entry.baseLid = some e) : Cause true false e
  | noDeviceList {network compatibility : Bool} (mode : (network && !compatibility) = false)
      (absent : a.deviceList = none) : Cause network compatibility
        (.ibVerbsException ("Unable to get device list! Error: " ++ a.listError))
  | madPort {devices : List IbvDevice} {device : IbvDevice} {portNum : UInt8}
      {attributes : IbvPortAttr} {e : IbPerfException} (found : a.deviceList = some devices)
      (listed : device ∈ devices) (answered : device.queryPort portNum = .ok attributes)
      (fails : IbPort.createFailure (device.mad portNum) attributes.lid = some e) :
      Cause false false e
  | compatPort {network : Bool} {devices : List IbvDevice} {device : IbvDevice} {portNum : UInt8}
      (found : a.deviceList = some devices) (listed : device ∈ devices)
      (unreadable : ¬ IbPortCompat.Builds device.readable device.name portNum) :
      Cause network true (IbPortCompat.unableToOpen device.name portNum)

variable {a}

theorem cause_of_failure {network compatibility : Bool} {e : IbPerfException}
    (h : a.failure network compatibility = some e) : a.Cause network compatibility e := by
  have onNetwork : a.failure true false = some e → a.Cause true false e := by
    intro h
    cases found : a.fabric with
    | none =>
      simp only [failure, found] at h
      obtain rfl := Option.some.inj h
      exact .noFabric found
    | some list =>
      simp only [failure, found] at h
      obtain ⟨node, listed, failed⟩ := List.exists_of_findSome?_eq_some h
      obtain ⟨i, -, failed⟩ := List.exists_of_findSome?_eq_some failed
      obtain ⟨entry, present, fails⟩ := Option.bind_eq_some_iff.mp failed
      exact .networkPort found listed present fails
  have locally : ∀ network, (network && !compatibility) = false →
      a.failure network compatibility = some e → a.Cause network compatibility e := by
    intro network mode h
    rw [failure, mode] at h
    cases found : a.deviceList with
    | none =>
      simp only [found] at h
      obtain rfl := Option.some.inj h
      exact .noDeviceList mode found
    | some devices =>
      simp only [found] at h
      obtain ⟨device, listed, failed⟩ := List.exists_of_findSome?_eq_some h
      obtain ⟨failed, passed⟩ := Option.filter_eq_some_iff.mp failed
      obtain ⟨portNum, attributes, answered, fails⟩ :=
        IbNode.port_of_deviceFailure failed (by simpa using passed)
      cases compatibility with
      | false =>
        obtain rfl : network = false := by simpa using mode
        exact .madPort found listed answered fails
      | true =>
        rw [if_pos rfl, IbPortCompat.createFailure] at fails
        split at fails
        · cases fails
        · rename_i unreadable
          obtain rfl := Option.some.inj fails
          exact .compatPort found listed unreadable
  cases compatibility with
  | true => exact locally network (by simp) h
  | false =>
    cases network with
    | true => exact onNetwork h
    | false => exact locally false rfl h

/-- The handler leaves one `IbVerbsException` over. -/
theorem Cause.deviceList_eq_none {network compatibility : Bool} {e : IbPerfException}
    (h : a.Cause network compatibility e) (verbs : IbFabric.isVerbs e = true) :
    a.deviceList = none := by
  cases h with
  | noFabric => cases verbs
  | networkPort _ _ _ fails =>
    rw [IbPort.isVerbs_createFailure fails] at verbs
    cases verbs
  | noDeviceList _ absent => exact absent
  | madPort _ _ _ fails =>
    rw [IbPort.isVerbs_createFailure fails] at verbs
    cases verbs
  | compatPort => cases verbs

end DiscoveryAnswers

namespace IbFabric

theorem create_failsWith (std : StdSort IbNode) (build : Build) (a : DiscoveryAnswers)
    (network compatibility : Bool) : Eff.FailsWith (create std build a network compatibility)
      (a.failure network compatibility) := by
  have locally : ∀ network, (network && !compatibility) = false → Eff.FailsWith
      (discoverLocalDevices build a compatibility) (a.failure network compatibility) := by
    intro network mode
    refine failsWith_acquire_then fun deviceList _ => ?_
    rw [DiscoveryAnswers.failure, mode]
    cases a.deviceList with
    | none => exact .throw _
    | some devices =>
      refine (Eff.FailsWith.collect fun device _ => ?_).value fun nodes => .emit_then (.pure _)
      exact (IbNode.ofDevice_failsWith build device compatibility).attempt
  have found : Eff.FailsWith (discoverFabric build a network compatibility)
      (a.failure network compatibility) := by
    cases compatibility with
    | true => exact (locally network (by simp)).value fun _ => .pure _
    | false =>
      cases network with
      | false => exact (locally false rfl).value fun _ => .pure _
      | true =>
        refine failsWith_acquire_then fun fabric _ => ?_
        rw [DiscoveryAnswers.failure]
        cases a.fabric with
        | none => exact .throw _
        | some list =>
          refine (Eff.FailsWith.collect fun node _ => ?_).value fun nodes => .pure _
          exact IbNode.ofNetwork_failsWith build node
  exact found.value fun _ => .pure _

/-- The constructor throws what the answers of the libraries make it throw and returns otherwise,
whatever was opened before it. The exception names what failed: a list that could not be had, or a
port; an `IbVerbsException` always means the device list. -/
theorem create_fails (std : StdSort IbNode) (build : Build) (a : DiscoveryAnswers)
    (network compatibility : Bool) (m : ℕ) :
    (∀ e, (∃ m', Eff.Throws (create std build a network compatibility) m e m') ↔
        a.failure network compatibility = some e) ∧
      ((∃ f m', Eff.Returns (create std build a network compatibility) m f m') ↔
        a.failure network compatibility = none) ∧
      ∀ e, a.failure network compatibility = some e → a.Cause network compatibility e ∧
        (isVerbs e = true → a.deviceList = none) := by
  have ends := create_failsWith std build a network compatibility
  refine ⟨fun e => ends.throws_iff m, ends.returns_iff m, fun e failed => ?_⟩
  have cause := DiscoveryAnswers.cause_of_failure failed
  exact ⟨cause, cause.deviceList_eq_none⟩

/-- An adapter whose files cannot be read ends the discovery, and the directory is named. -/
theorem create_fails_unreadable :
    let a : DiscoveryAnswers := ⟨some [{ IbvDevice.plain with readable := fun _ => false }], "", none⟩
    ∃ m', Eff.Throws (create (.stable _) ⟨true, .little⟩ a true true) 0 (.ibFileException
      "Unable to open file in '/sys/class/infiniband/mlx5_0/ports/1/counters/'!") m' := by
  intro a
  refine ((create_fails (.stable _) ⟨true, .little⟩ a true true 0).1 _).mpr ?_
  have first : countUp 0 1 = [0] := by
    rw [countUp_eq]
    rfl
  have device : IbNode.deviceFailure { IbvDevice.plain with readable := fun _ => false } true =
      some (IbPortCompat.unableToOpen "mlx5_0" 1) := by
    change (countUp 0 1).findSome? _ = _
    rw [first]
    decide +kernel
  change ([_].findSome? fun d => (IbNode.deviceFailure d true).filter _) = _
  rw [List.findSome?_cons, device]
  decide +kernel

end IbFabric

/-! ## The program -/

namespace PerfTest

/-- What keeps the program from its loop. -/
def stop (argv : List String) (a : DiscoveryAnswers) : Option Stop :=
  match parseArgs argv with
  | none => some .exitFailure
  | some (network, compat) => (a.failure network compat).map .uncaught

theorem loop_failsWith (build : Build) (rounds : List FabricIo) :
    Eff.FailsWith (loop build rounds) none :=
  .forM fun _ _ => .rescue fun _ => .modify

theorem main_failsWith (std : StdSort IbNode) (config : BuildConfig) (build : Build)
    (argv : List String) (a : DiscoveryAnswers) (rounds : List FabricIo) :
    Eff.FailsWith (main std config build argv a rounds) (stop argv a) := by
  refine Eff.FailsWith.modify.then_rest fun _ => ?_
  rw [stop]
  cases parseArgs argv with
  | none => exact Eff.FailsWith.modify.then_rest fun _ => .throw _
  | some modes =>
    refine Eff.FailsWith.value (.mapThrow (.focus ?_)) fun fabric => ?_
    · exact IbFabric.create_failsWith std build a modes.1 modes.2
    · have looped := (loop_failsWith build rounds).withLocal fabric
      refine Eff.FailsWith.then_rest looped.focus.mapThrow fun f => ?_
      exact .forM fun _ _ => .emit_then (.pure _)

/-- The program ends early exactly when its arguments are not proper ones or the constructor throws,
and no refresh of its loop, however many there are and however they fail, ends it. -/
theorem main_ends (std : StdSort IbNode) (config : BuildConfig) (build : Build) (argv : List String)
    (a : DiscoveryAnswers) (rounds : List FabricIo) (w : World) :
    (∀ why, (∃ w', Eff.Throws (main std config build argv a rounds) w why w') ↔
        stop argv a = some why) ∧
      ((∃ w', Eff.Returns (main std config build argv a rounds) w () w') ↔
        stop argv a = none) := by
  have ends := main_failsWith std config build argv a rounds
  refine ⟨fun why => ends.throws_iff w, ?_⟩
  rw [← ends.returns_iff w]
  exact ⟨fun ⟨w', returned⟩ => ⟨(), w', returned⟩, fun ⟨_, w', returned⟩ => ⟨w', returned⟩⟩

end PerfTest

end Detector
