import Detector.Ownership
import Detector.Library.Alike
import Detector.Library.Collect

/-!
# The discovery of local devices

The loop over the local devices skips a device whose node cannot be constructed, when the
constructor throws an `IbVerbsException`. The nodes that are found do not depend on the devices
that were skipped, apart from the numbers of their handles. But an `IbMadException` or an
`IbFileException`, which come from the constructors of ports, leave the loop, and with them go
the nodes of all other devices.
-/
namespace Detector

open Cpp

/-- The port without the number of its handle. -/
def Port.anonymous : Port → Port
  | .mad p => .mad { p with madPort := none }
  | .compat p => .compat p

/-- The node without the numbers of its handles. -/
def IbNode.anonymous (n : IbNode) : IbNode := { n with ports := n.ports.map Port.anonymous }

/-! ## Construction does not depend on earlier handles -/

section Alike

variable (build : Build)

theorem alike_acquire (kind : HandleKind) (granted : Bool) (call : Option Handle → ExtCall) :
    Eff.Alike (fun h h' : Option Handle => h.isSome = h'.isSome)
      (acquire kind granted call) (acquire kind granted call) := by
  intro m m'
  refine .inl ⟨_, _, _, _, IbPort.returns_acquire.mpr ⟨rfl, rfl⟩,
    IbPort.returns_acquire.mpr ⟨rfl, rfl⟩, ?_⟩
  cases granted <;> rfl

theorem alike_orThrow {α : Type} (answer : Except String α) (e : String → IbPerfException) :
    Eff.Alike Eq (orThrow answer e : Method ℕ α) (orThrow answer e : Method ℕ α) := by
  cases answer with
  | error text => exact .throw _
  | ok a => exact .pure rfl

theorem alike_pmaQueryVia (a : MadAnswers) (n : ℕ) (dest : IbPortId) (port : UInt8)
    (attr : MadAttr) (srcport srcport' : Option Handle) (message : String) :
    Eff.Alike Eq (pmaQueryVia a n dest port attr srcport message : Method ℕ MadBuf)
      (pmaQueryVia a n dest port attr srcport' message : Method ℕ MadBuf) :=
  .emit_then .require

theorem alike_smpQueryVia (a : MadAnswers) (dest : IbPortId) (attr : MadAttr) (mod : UInt32)
    (srcport srcport' : Option Handle) (message : String) :
    Eff.Alike Eq (smpQueryVia a dest attr mod srcport message : Method ℕ MadBuf)
      (smpQueryVia a dest attr mod srcport' message : Method ℕ MadBuf) :=
  .emit_then .require

theorem IbPort.alike_create (a : MadAnswers) (lid : UInt16) (portNum : UInt8) :
    Eff.Alike (fun p q : IbPort => Port.anonymous (.mad p) = Port.anonymous (.mad q))
      (create build a lid portNum) (create build a lid portNum) := by
  refine (alike_acquire _ _ _).bind fun h h' same => ?_
  refine .ensure_then same ?_
  refine (alike_pmaQueryVia _ _ _ _ _ h h' _).bind fun pmaBuf _ hpma => ?_
  refine (alike_smpQueryVia _ _ _ _ h h' _).bind fun nodeBuf _ hnode => ?_
  refine (alike_smpQueryVia _ _ _ _ h h' _).bind fun portBuf _ hport => ?_
  subst hpma hnode hport
  exact .pure rfl

theorem IbPortCompat.alike_create (readable : String → Bool) (deviceName : String)
    (attributes : IbvPortAttr) (portNum : UInt8) :
    Eff.Alike Eq (create readable deviceName attributes portNum)
      (create readable deviceName attributes portNum) :=
  .ensure_then rfl (.pure rfl)

namespace IbNode

variable (device : IbvDevice) (compatibility : Bool)

theorem alike_queryAndCreatePort (context context' : Option Handle) (i : UInt8) :
    Eff.Alike (fun p q : Port => p.anonymous = q.anonymous)
      (queryAndCreatePort build device compatibility context i)
      (queryAndCreatePort build device compatibility context' i) := by
  refine .emit_then ((alike_orThrow _ _).bind fun attributes _ same => ?_)
  subst same
  cases compatibility with
  | false =>
    exact (IbPort.alike_create build _ _ _).bind fun p q related => .pure related
  | true =>
    refine (IbPortCompat.alike_create _ _ _ _).bind fun p q related => ?_
    subst related
    exact .pure rfl

theorem alike_ofDevice :
    Eff.Alike (fun n n' : IbNode => n.anonymous = n'.anonymous)
      (ofDevice build device compatibility) (ofDevice build device compatibility) := by
  refine (alike_acquire _ _ _).bind fun context context' _ => ?_
  refine .ensure_then rfl (.emit_then ?_)
  refine (alike_orThrow _ _).bind fun attr _ same => ?_
  subst same
  refine (Eff.Alike.collect _ fun i _ =>
    alike_queryAndCreatePort build device compatibility context context' i).bind ?_
  intro ports ports' related
  refine .emit_then (.pure ?_)
  have same : ports.map Port.anonymous = ports'.map Port.anonymous := map_eq_map_of_forall₂ related
  simp only [anonymous, same]

end IbNode

end Alike

/-! ## The loop over the devices -/

/-- The node that the constructor makes of a device, if it succeeds on this device alone. -/
def IbNode.alone (build : Build) (compatibility : Bool) (device : IbvDevice) : Option IbNode :=
  match ((IbNode.ofDevice build device compatibility).run 0).result with
  | .ok n => some n.anonymous
  | .error _ => none

namespace IbFabric

variable {build : Build} {compatibility : Bool}

theorem alone_of_returns {device : IbvDevice} {m m' : ℕ} {n : IbNode}
    (h : Eff.Returns (IbNode.ofDevice build device compatibility) m n m') :
    IbNode.alone build compatibility device = some n.anonymous := by
  obtain ⟨n', _, ends, same⟩ :=
    (IbNode.alike_ofDevice build device compatibility).of_returns h 0
  rw [IbNode.alone, ends.1, same]

theorem alone_of_throws {device : IbvDevice} {m m' : ℕ} {e : IbPerfException}
    (h : Eff.Throws (IbNode.ofDevice build device compatibility) m e m') :
    IbNode.alone build compatibility device = none := by
  obtain ⟨_, ends⟩ := (IbNode.alike_ofDevice build device compatibility).of_throws h 0
  rw [IbNode.alone, ends.1]

/-- An iteration that comes to its end has the node of the device alone, and the device is not
one that stops the loop. -/
theorem of_returns_attempt {device : IbvDevice} {m m' : ℕ} {o : Option IbNode}
    (h : Eff.Returns (Eff.attempt isVerbs (IbNode.ofDevice build device compatibility)) m o m') :
    ¬ device.Stops compatibility ∧
      o.map IbNode.anonymous = IbNode.alone build compatibility device := by
  obtain ⟨n, rfl, ends⟩ | ⟨e, rfl, verbs, ends⟩ := Eff.returns_attempt.mp h
  · obtain ⟨_, builds, -⟩ :=
      (IbNode.ofDevice_ends build device compatibility).of_returns ends
    exact ⟨builds.not_stops, (alone_of_returns ends).symm⟩
  · obtain ⟨_, -, left⟩ := (IbNode.ofDevice_ends build device compatibility).of_throws ends
    rw [verbs, if_pos rfl] at left
    exact ⟨left.1, (alone_of_throws ends).symm⟩

/-- A device that does not stop the loop is visited or skipped. -/
theorem exists_attempt {device : IbvDevice} (goes : ¬ device.Stops compatibility) (m : ℕ) :
    ∃ o m', Eff.Returns (Eff.attempt isVerbs (IbNode.ofDevice build device compatibility))
      m o m' := by
  obtain ⟨n, m', ends⟩ | ⟨e, m', ends⟩ :=
    Eff.returns_or_throws (IbNode.ofDevice build device compatibility) m
  · exact ⟨some n, m', Eff.returns_attempt.mpr (.inl ⟨n, rfl, ends⟩)⟩
  · obtain ⟨_, -, left⟩ := (IbNode.ofDevice_ends build device compatibility).of_throws ends
    cases verbs : isVerbs e with
    | false =>
      rw [verbs] at left
      exact absurd left goes
    | true => exact ⟨none, m', Eff.returns_attempt.mpr (.inr ⟨e, rfl, verbs, ends⟩)⟩

theorem returns_discoverLocalDevices {a : DiscoveryAnswers} {devices : List IbvDevice}
    (listed : a.deviceList = some devices) {m m' : ℕ} {nodes : List IbNode} :
    Eff.Returns (discoverLocalDevices build a compatibility) m nodes m' ↔
      ∃ found, Eff.Returns (Eff.collect (fun device => Eff.attempt isVerbs
        (IbNode.ofDevice build device compatibility)) devices) (m + 1) found m' ∧
        nodes = found.reduceOption := by
  simp only [discoverLocalDevices, Eff.returns_bind, IbPort.returns_acquire, Eff.returns_require,
    Eff.returns_emit, Eff.returns_pure, listed, Option.some.injEq]
  constructor
  · rintro ⟨_, _, ⟨rfl, rfl⟩, _, _, ⟨rfl, rfl⟩, found, _, collected, _, _, rfl, rfl, rfl⟩
    exact ⟨found, collected, rfl⟩
  · rintro ⟨found, collected, rfl⟩
    exact ⟨_, m + 1, ⟨rfl, by simp⟩, devices, m + 1, ⟨rfl, rfl⟩, found, m', collected, (), m', rfl,
      rfl, rfl⟩

/-- The values of the iterations, without the handles. -/
theorem map_reduceOption_of_forall₂ {devices : List IbvDevice} {found : List (Option IbNode)}
    (h : List.Forall₂ (fun device o => ¬ device.Stops compatibility ∧
      o.map IbNode.anonymous = IbNode.alone build compatibility device) devices found) :
    found.reduceOption.map IbNode.anonymous =
      devices.filterMap (IbNode.alone build compatibility) := by
  induction h with
  | nil => rfl
  | @cons device o devices found first _ ih =>
    obtain ⟨-, same⟩ := first
    cases o with
    | none =>
      rw [List.reduceOption_cons_of_none, List.filterMap_cons_none same.symm, ih]
    | some n =>
      rw [List.reduceOption_cons_of_some, List.filterMap_cons_some same.symm, List.map_cons, ih]

/-- In whatever order the devices are listed, the discovery returns, with exactly the nodes of the
devices whose construction succeeds. -/
def FindsEveryGoodDevice (build : Build) (a : DiscoveryAnswers) (compatibility : Bool)
    (devices : List IbvDevice) : Prop :=
  ∀ listed : List IbvDevice, listed.Perm devices → ∀ m, ∃ nodes m',
    Eff.Returns (discoverLocalDevices build { a with deviceList := some listed } compatibility)
      m nodes m' ∧
    nodes.map IbNode.anonymous = listed.filterMap (IbNode.alone build compatibility)

theorem not_stops_of_returns {a : DiscoveryAnswers} {devices : List IbvDevice}
    (listed : a.deviceList = some devices) {m m' : ℕ} {nodes : List IbNode}
    (h : Eff.Returns (discoverLocalDevices build a compatibility) m nodes m') :
    ∀ device ∈ devices, ¬ device.Stops compatibility := by
  intro device hd
  obtain ⟨found, collected, -⟩ := (returns_discoverLocalDevices listed).mp h
  have shown := Eff.forall₂_of_collect (fun _ _ _ _ _ => of_returns_attempt) collected
  obtain ⟨i, hi, rfl⟩ := List.getElem_of_mem hd
  exact (shown.get hi (shown.length_eq ▸ hi)).1

/-- A bad device does not hide the others exactly when none of the devices gets to a port that
answers the query and cannot be constructed. -/
theorem finds_every_good_device_iff (build : Build) (a : DiscoveryAnswers) (compatibility : Bool)
    (devices : List IbvDevice) :
    FindsEveryGoodDevice build a compatibility devices ↔
      ∀ device ∈ devices, ¬ device.Stops compatibility := by
  constructor
  · intro finds
    obtain ⟨nodes, m', ends, -⟩ := finds devices (.refl devices) 0
    exact not_stops_of_returns rfl ends
  · intro goes listed perm m
    have each : ∀ device ∈ listed, ∀ m, ∃ o m', Eff.Returns (Eff.attempt isVerbs
        (IbNode.ofDevice build device compatibility)) m o m' := fun device hd =>
      exists_attempt (goes device (perm.mem_iff.mp hd))
    obtain ⟨found, m', collected⟩ := Eff.exists_collect each (m + 1)
    have shown := Eff.forall₂_of_collect (fun _ _ _ _ _ => of_returns_attempt) collected
    exact ⟨_, m', (returns_discoverLocalDevices rfl).mpr ⟨found, collected, rfl⟩,
      map_reduceOption_of_forall₂ shown⟩

/-- The MAD port of the second device cannot be opened. The first device is a good one, and the
discovery does not return. -/
theorem bad_device_hides_good_device :
    let good : IbvDevice := IbvDevice.plain
    let bad : IbvDevice := { IbvDevice.plain with
      mad := fun _ => { IbPort.plainDevice ibNodeCa 2 0 0 with openPort := false } }
    let a : DiscoveryAnswers := ⟨some [good, bad], "", none⟩
    (IbNode.alone ⟨true, .little⟩ false good).isSome = true ∧
      (∃ e m', Eff.Throws (discoverLocalDevices ⟨true, .little⟩ a false) 0 e m') ∧
      ¬ FindsEveryGoodDevice ⟨true, .little⟩ a false [good, bad] := by
  intro good bad a
  have one : countUp 0 1 = [0] := by rw [countUp_eq]; rfl
  have builds : good.Builds false := by
    refine ⟨rfl, ⟨1, 1⟩, rfl, ?_⟩
    rw [one]
    exact fun i _ => ⟨⟨3, 2⟩, rfl, rfl, rfl, rfl, rfl⟩
  have stops : bad.Stops false := by
    refine ⟨rfl, ⟨1, 1⟩, rfl, [], 0, [], one, by simp, ?_, ?_⟩
    · rintro ⟨text, failed⟩
      cases failed
    · rintro ⟨attributes, answered, ports⟩
      cases ports.openPort
  have never : ∀ nodes m',
      ¬ Eff.Returns (discoverLocalDevices ⟨true, .little⟩ a false) 0 nodes m' :=
    fun nodes m' ends => not_stops_of_returns rfl ends bad (by simp) stops
  refine ⟨?_, ?_, fun finds => ?_⟩
  · obtain ⟨n, m', ends⟩ | ⟨e, m', ends⟩ :=
      Eff.returns_or_throws (IbNode.ofDevice ⟨true, .little⟩ good false) 0
    · rw [alone_of_returns ends]
      rfl
    · obtain ⟨_, notBuilt, -⟩ := (IbNode.ofDevice_ends ⟨true, .little⟩ good false).of_throws ends
      exact absurd builds notBuilt
  · obtain ⟨nodes, m', ends⟩ | thrown :=
      Eff.returns_or_throws (discoverLocalDevices ⟨true, .little⟩ a false) 0
    · exact absurd ends (never nodes m')
    · exact thrown
  · obtain ⟨nodes, m', ends, -⟩ := finds _ (.refl _) 0
    exact never nodes m' ends

end IbFabric

end Detector
