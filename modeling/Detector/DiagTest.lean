import Detector.IbDiagPerfCounter
import Detector.LocalDiscovery

/-!
# The enumeration of ports, in the library and in `diagtest`

The node of a local device and the setup of `diagtest` both run through the ports of a device
with a variable of 8 bits. The library compares it with an 8-bit bound. `diagtest` counts from 1
and compares with the number of ports plus one, which is an `int`: for a device with 255 ports
every value of the variable is below that bound.
-/
namespace Detector

open Cpp

/-! ## The setup of `diagtest` -/

namespace DiagTest

/-- Why `main` does not get to the end of its setup: it prints a message and exits, an exception
leaves it, or a loop has not ended yet. -/
inductive Stop where
  | exitFailure (message : String)
  | uncaught (exception : IbPerfException)
  | stillRunning

abbrev Main (α : Type) := Eff Stop ExtCall ℕ α

/-- The value of a call that reports an error code; on an error, `main` prints and exits. -/
def orExit {α : Type} (answer : Except String α) (message : String → String) : Main α :=
  match answer with
  | .ok a => pure a
  | .error text => Eff.throw (.exitFailure (message text))

/-- `new IbDiagPerfCounter(deviceName, j)`. -/
def createCounter (device : IbvDevice) (j : UInt8) : Main IbDiagPerfCounter :=
  Eff.mapThrow .uncaught (IbDiagPerfCounter.create device.readable device.name j)

/-- The test of `for (uint8_t j = 1; j < phys_port_cnt + 1; j++)`. The sum is an `int`. -/
def moreThan (physPortCnt j : UInt8) : Bool := decide (j.toNat < physPortCnt.toNat + 1)

/-- The body of the loop over the devices. -/
def createCounters (fuel : ℕ) (device : IbvDevice) : Main (List IbDiagPerfCounter) := do
  let deviceContext ← Eff.mapThrow .uncaught
    (acquire .context device.openDevice .ibvOpenDevice)
  Eff.ensure deviceContext.isSome (.exitFailure "Unable to open device context!\n")
  Eff.emit (.ibvQueryDevice deviceContext)
  let deviceAttributes ← orExit device.queryDevice fun text =>
    "Unable to query device attributes from '" ++ device.name ++ "'! Error: " ++ text ++ "\n"
  let whole ← createCounter device 0
  let ports ← Eff.collectWhile .stillRunning (moreThan deviceAttributes.physPortCnt) (· + 1)
    (createCounter device) fuel 1
  Eff.emit (.ibvCloseDevice deviceContext)
  return whole :: ports

/-- The setup in `main`, in front of the loop that prints the counters. -/
def setup (fuel : ℕ) (a : DiscoveryAnswers) : Main (List IbDiagPerfCounter) := do
  let deviceList ← Eff.mapThrow .uncaught
    (acquire .deviceList a.deviceList.isSome .ibvGetDeviceList)
  let devices ← Eff.require a.deviceList
    (.exitFailure ("Unable to get device list! Error: " ++ a.listError ++ "\n"))
  let counters ← Eff.collect (createCounters fuel) devices
  Eff.emit (.ibvFreeDeviceList deviceList)
  return counters.flatten

end DiagTest

/-! ## Devices that answer everything -/

/-- The number of ports that the device reports. -/
def IbvDevice.portCount (device : IbvDevice) : ℕ :=
  match device.queryDevice with
  | .ok attr => attr.physPortCnt.toNat
  | .error _ => 0

/-- All files of the counter can be opened. -/
def IbDiagPerfCounter.Builds (readable : String → Bool) (deviceName : String)
    (portNumber : UInt8) : Prop :=
  ∀ i : Fin 22, readable (counterPath deviceName portNumber ++
    fileNames.get (i.cast length_fileNames)) = true

/-- The device can be opened and queried, and everything that is constructed for it succeeds. -/
structure IbvDevice.Succeeds (device : IbvDevice) (compatibility : Bool) : Prop where
  openDevice : device.openDevice = true
  builds : device.Builds compatibility
  counters : ∀ j : UInt8, j.toNat ≤ device.portCount →
    IbDiagPerfCounter.Builds device.readable device.name j

/-! ## The library -/

/-- The discovery ends, and each node has the ports `1..phys_port_cnt` of its device. -/
def IbFabric.EnumeratesPorts (build : Build) (a : DiscoveryAnswers) (compatibility : Bool)
    (devices : List IbvDevice) : Prop :=
  ∀ m, ∃ nodes m', Eff.Returns (discoverLocalDevices build a compatibility) m nodes m' ∧
    List.Forall₂ (fun (device : IbvDevice) (n : IbNode) =>
      n.ports.map (fun p => p.toIbPort.portNum.toNat) = List.range' 1 device.portCount)
      devices nodes

namespace IbNode

variable {build : Build} {device : IbvDevice} {compatibility : Bool}

theorem portNum_queryAndCreatePort {context : Option Handle} {i : UInt8} {m m' : ℕ} {p : Port}
    (h : Eff.Returns (queryAndCreatePort build device compatibility context i) m p m') :
    p.toIbPort.portNum = i + 1 := by
  obtain ⟨_, _, -, rest⟩ := Eff.returns_bind.mp h
  obtain ⟨attributes, _, -, made⟩ := Eff.returns_bind.mp rest
  cases compatibility with
  | false =>
    obtain ⟨q, _, created, wrapped⟩ := Eff.returns_bind.mp made
    obtain ⟨rfl, -⟩ := Eff.returns_pure.mp wrapped
    exact (IbPort.returns_create created).2.2.1
  | true =>
    obtain ⟨q, _, created, wrapped⟩ := Eff.returns_bind.mp made
    obtain ⟨rfl, -⟩ := Eff.returns_pure.mp wrapped
    obtain ⟨_, _, -, built⟩ := Eff.returns_bind.mp created
    obtain ⟨rfl, -⟩ := Eff.returns_pure.mp built
    rfl

/-- The 8-bit loop visits each port once. -/
theorem portNums_ofDevice {m m' : ℕ} {n : IbNode}
    (h : Eff.Returns (ofDevice build device compatibility) m n m') :
    n.ports.map (fun p => p.toIbPort.portNum.toNat) = List.range' 1 device.portCount := by
  obtain ⟨context, _, -, rest⟩ := Eff.returns_bind.mp h
  obtain ⟨_, _, -, rest⟩ := Eff.returns_bind.mp rest
  obtain ⟨_, _, -, rest⟩ := Eff.returns_bind.mp rest
  obtain ⟨attr, _, answer, rest⟩ := Eff.returns_bind.mp rest
  obtain ⟨ports, _, collected, rest⟩ := Eff.returns_bind.mp rest
  obtain ⟨_, _, -, made⟩ := Eff.returns_bind.mp rest
  obtain ⟨rfl, -⟩ := Eff.returns_pure.mp made
  have count : device.portCount = attr.physPortCnt.toNat := by
    cases queried : device.queryDevice with
    | error text =>
      rw [queried] at answer
      cases answer.1
    | ok attr' =>
      rw [queried] at answer
      obtain ⟨rfl, -⟩ := Eff.returns_pure.mp answer
      rw [IbvDevice.portCount, queried]
  have numbered : List.Forall₂ (fun (i : UInt8) (p : Port) =>
      i.toNat + 1 = p.toIbPort.portNum.toNat) (countUp 0 attr.physPortCnt) ports := by
    refine Eff.forall₂_of_collect (fun i hi _ p _ created => ?_) collected
    rw [portNum_queryAndCreatePort created]
    exact (toNat_add_one_of_lt (UInt8.lt_iff_toNat_lt.mpr (lt_of_mem_countUp_zero hi))).symm
  rw [count, ← map_countUp_zero]
  exact (map_eq_map_of_forall₂ numbered).symm

theorem exists_ofDevice (build : Build) (builds : device.Builds compatibility) (m : ℕ) :
    ∃ n m', Eff.Returns (ofDevice build device compatibility) m n m' := by
  obtain ends | ⟨e, m', thrown⟩ :=
    Eff.returns_or_throws (ofDevice build device compatibility) m
  · exact ends
  · obtain ⟨_, notBuilt, -⟩ := (ofDevice_ends build device compatibility).of_throws thrown
    exact absurd builds notBuilt

end IbNode

theorem IbFabric.enumeratesPorts (build : Build) {a : DiscoveryAnswers} (compatibility : Bool)
    {devices : List IbvDevice} (listed : a.deviceList = some devices)
    (succeed : ∀ device ∈ devices, device.Succeeds compatibility) :
    EnumeratesPorts build a compatibility devices := by
  intro m
  have each : ∀ device ∈ devices, ∀ m, ∃ o m', Eff.Returns (Eff.attempt isVerbs
      (IbNode.ofDevice build device compatibility)) m o m' := by
    intro device hd m
    obtain ⟨n, m', ends⟩ := IbNode.exists_ofDevice build (succeed device hd).builds m
    exact ⟨some n, m', Eff.returns_attempt.mpr (.inl ⟨n, rfl, ends⟩)⟩
  obtain ⟨found, m', collected⟩ := Eff.exists_collect each (m + 1)
  refine ⟨found.reduceOption, m',
    (returns_discoverLocalDevices listed).mpr ⟨found, collected, rfl⟩, ?_⟩
  have shown : List.Forall₂ (Option.Rel fun (device : IbvDevice) (n : IbNode) =>
      n.ports.map (fun p => p.toIbPort.portNum.toNat) = List.range' 1 device.portCount)
      (devices.map some) found := by
    refine List.forall₂_map_left_iff.mpr (Eff.forall₂_of_collect ?_ collected)
    intro device hd m o m' ends
    obtain ⟨n, rfl, made⟩ | ⟨e, -, -, thrown⟩ := Eff.returns_attempt.mp ends
    · exact .some (IbNode.portNums_ofDevice made)
    · obtain ⟨n, m'', made⟩ := IbNode.exists_ofDevice build (succeed device hd).builds m
      exact absurd thrown made.not_throws
  have all : (devices.map some).reduceOption = devices := by simp [List.reduceOption]
  have nodes := forall₂_reduceOption shown
  rwa [all] at nodes

namespace DiagTest

/-! ## `diagtest` -/

/-- The setup ends, with one counter for each whole device and one for each of its ports
`1..phys_port_cnt`. -/
def EnumeratesPorts (a : DiscoveryAnswers) (devices : List IbvDevice) : Prop :=
  ∃ fuel, ∀ m, ∃ counters m', Eff.Returns (setup fuel a) m counters m' ∧
    counters.map (fun c => (c.deviceName, c.portNumber.toNat)) =
      devices.flatMap fun device => (List.range (device.portCount + 1)).map (Prod.mk device.name)

theorem visits_moreThan {physPortCnt : UInt8} (small : physPortCnt.toNat < 255) (k : ℕ) (j : UInt8)
    (h : j.toNat + k = physPortCnt.toNat + 1) :
    Eff.Visits (moreThan physPortCnt) (· + 1) j
      ((List.range' j.toNat k).map UInt8.ofNat) := by
  induction k generalizing j with
  | zero => exact .stop (decide_eq_false (by omega))
  | succ k ih =>
    have next : (j + 1).toNat = j.toNat + 1 := by
      rw [UInt8.toNat_add, UInt8.toNat_one]
      omega
    have rest := ih (j + 1) (by omega)
    rw [next] at rest
    rw [List.range'_succ, List.map_cons, UInt8.ofNat_toNat]
    exact .step (decide_eq_true (by omega)) rest

section Counter

variable {device : IbvDevice}

theorem exists_createCounter {j : UInt8}
    (builds : IbDiagPerfCounter.Builds device.readable device.name j) (m : ℕ) :
    ∃ c m', Eff.Returns (createCounter device j) m c m' := by
  have opened : ((List.finRange 22).all fun i => (InStream.ofFile device.readable
      (IbDiagPerfCounter.counterPath device.name j ++ IbDiagPerfCounter.fileNames.get
        (i.cast IbDiagPerfCounter.length_fileNames))).isOpen) = true := by
    simpa only [List.all_eq_true, List.mem_finRange, true_implies, InStream.isOpen_ofFile,
      IbDiagPerfCounter.Builds] using builds
  obtain ends | ⟨e, m', thrown⟩ :=
    Eff.returns_or_throws (IbDiagPerfCounter.create device.readable device.name j) m
  · obtain ⟨c, m', ends⟩ := ends
    exact ⟨c, m', Eff.returns_mapThrow.mpr ends⟩
  · obtain failed | ⟨_, _, -, failed⟩ := Eff.throws_bind.mp thrown
    · exact absurd opened (Bool.eq_false_iff.mp (Eff.throws_ensure.mp failed).1)
    · exact absurd failed Eff.throws_pure

theorem names_createCounter {j : UInt8} {m m' : ℕ} {c : IbDiagPerfCounter}
    (h : Eff.Returns (createCounter device j) m c m') :
    (c.deviceName, c.portNumber.toNat) = (device.name, j.toNat) := by
  obtain ⟨_, _, -, built⟩ := Eff.returns_bind.mp (Eff.returns_mapThrow.mp h)
  obtain ⟨rfl, -⟩ := Eff.returns_pure.mp built
  rfl

variable {compatibility : Bool} {fuel : ℕ}

/-- The loop over the ports of a device. -/
def portLoop (fuel : ℕ) (device : IbvDevice) (physPortCnt : UInt8) :
    Main (List IbDiagPerfCounter) :=
  Eff.collectWhile .stillRunning (moreThan physPortCnt) (· + 1) (createCounter device) fuel 1

/-- For a device that answers everything, the loop over its ports decides. -/
theorem createCounters_eq (fuel : ℕ) (succeeds : device.Succeeds compatibility)
    {attr : IbvDeviceAttr} (answer : device.queryDevice = .ok attr) (m : ℕ) :
    ∃ whole m₀, (whole.deviceName, whole.portNumber.toNat) = (device.name, 0) ∧
      (∀ ports m', Eff.Returns (portLoop fuel device attr.physPortCnt) m₀ ports m' →
        Eff.Returns (createCounters fuel device) m (whole :: ports) m') ∧
      ∀ e m', Eff.Throws (portLoop fuel device attr.physPortCnt) m₀ e m' →
        Eff.Throws (createCounters fuel device) m e m' := by
  have acquired : Eff.Returns (Eff.mapThrow Stop.uncaught
      (acquire .context device.openDevice .ibvOpenDevice)) m (some ⟨.context, m⟩) (m + 1) :=
    Eff.returns_mapThrow.mpr (IbPort.returns_acquire.mpr (by simp [succeeds.openDevice]))
  have queried : ∀ message,
      Eff.Returns (orExit device.queryDevice message) (m + 1) attr (m + 1) := by
    intro message
    rw [answer]
    exact Eff.returns_pure.mpr ⟨rfl, rfl⟩
  obtain ⟨whole, m₀, made⟩ := exists_createCounter (succeeds.counters 0 (Nat.zero_le _)) (m + 1)
  refine ⟨whole, m₀, names_createCounter made, fun ports m' loop => ?_, fun e m' loop => ?_⟩
  · refine acquired.returns_then.mpr ?_
    refine (Eff.returns_ensure.mpr ⟨rfl, rfl⟩ :
      Eff.Returns _ (m + 1) () (m + 1)).returns_then.mpr ?_
    refine (Eff.returns_emit.mpr rfl : Eff.Returns _ (m + 1) () (m + 1)).returns_then.mpr ?_
    refine (queried _).returns_then.mpr (made.returns_then.mpr (loop.returns_then.mpr ?_))
    exact Eff.returns_bind.mpr ⟨(), m', Eff.returns_emit.mpr rfl, Eff.returns_pure.mpr ⟨rfl, rfl⟩⟩
  · refine acquired.throws_then.mpr ?_
    refine (Eff.returns_ensure.mpr ⟨rfl, rfl⟩ : Eff.Returns _ (m + 1) () (m + 1)).throws_then.mpr ?_
    refine (Eff.returns_emit.mpr rfl : Eff.Returns _ (m + 1) () (m + 1)).throws_then.mpr ?_
    refine (queried _).throws_then.mpr (made.throws_then.mpr ?_)
    exact Eff.throws_bind.mpr (.inl loop)

/-- The port numbers of the counters of a device. -/
theorem names_portLoop {physPortCnt : UInt8} (small : physPortCnt.toNat < 255)
    (enough : physPortCnt.toNat < fuel) {m m' : ℕ} {ports : List IbDiagPerfCounter}
    (h : Eff.Returns (portLoop fuel device physPortCnt) m ports m') :
    ports.map (fun c => (c.deviceName, c.portNumber.toNat)) =
      (List.range' 1 physPortCnt.toNat).map (Prod.mk device.name) := by
  have visits := visits_moreThan small physPortCnt.toNat 1 (Nat.add_comm _ _)
  rw [UInt8.toNat_one] at visits
  rw [portLoop, Eff.collectWhile_eq_collect visits (by simpa using enough)] at h
  have names := Eff.forall₂_of_collect
    (R := fun (j : UInt8) (c : IbDiagPerfCounter) =>
      (device.name, j.toNat) = (c.deviceName, c.portNumber.toNat))
    (fun j _ _ c _ made => (names_createCounter made).symm) h
  rw [← map_eq_map_of_forall₂ names, List.map_map]
  refine List.map_congr_left fun j hj => ?_
  have bound := (List.mem_range'_1.mp hj).2
  have exact_number : (UInt8.ofNat j).toNat = j := by
    rw [UInt8.toNat_ofNat']
    omega
  change (device.name, (UInt8.ofNat j).toNat) = (device.name, j)
  rw [exact_number]

theorem portCount_eq (succeeds : device.Succeeds compatibility) :
    ∃ attr, device.queryDevice = .ok attr ∧ attr.physPortCnt.toNat = device.portCount := by
  obtain ⟨-, attr, answer, -⟩ := succeeds.builds
  exact ⟨attr, answer, by rw [IbvDevice.portCount, answer]⟩

/-- With fewer than 255 ports, one counter for the device and one for each port. -/
theorem exists_createCounters (succeeds : device.Succeeds compatibility)
    (small : device.portCount < 255) (enough : device.portCount < fuel) (m : ℕ) :
    ∃ counters m', Eff.Returns (createCounters fuel device) m counters m' ∧
      counters.map (fun c => (c.deviceName, c.portNumber.toNat)) =
        (List.range (device.portCount + 1)).map (Prod.mk device.name) := by
  obtain ⟨attr, answer, count⟩ := portCount_eq succeeds
  obtain ⟨whole, m₀, name, returns, -⟩ := createCounters_eq fuel succeeds answer m
  rw [← count] at small enough
  have each : ∀ j ∈ (List.range' 1 attr.physPortCnt.toNat).map UInt8.ofNat, ∀ m, ∃ c m',
      Eff.Returns (createCounter device j) m c m' := by
    intro j hj m
    obtain ⟨k, hk, rfl⟩ := List.mem_map.mp hj
    have bound := (List.mem_range'_1.mp hk).2
    refine exists_createCounter (succeeds.counters _ ?_) m
    rw [UInt8.toNat_ofNat', ← count]
    omega
  obtain ⟨ports, m', collected⟩ := Eff.exists_collect each m₀
  have visits := visits_moreThan small attr.physPortCnt.toNat 1 (Nat.add_comm _ _)
  rw [UInt8.toNat_one] at visits
  have loop : Eff.Returns (portLoop fuel device attr.physPortCnt) m₀ ports m' := by
    rwa [portLoop, Eff.collectWhile_eq_collect visits (by simpa using enough)]
  refine ⟨whole :: ports, m', returns ports m' loop, ?_⟩
  rw [List.map_cons, name, names_portLoop small enough loop, ← count, List.range_eq_range',
    List.range'_succ, List.map_cons]

/-- However many ports there are, only the loop over them can go on for too long. -/
theorem createCounters_or_throws (succeeds : device.Succeeds compatibility) (m : ℕ) :
    (∃ counters m', Eff.Returns (createCounters fuel device) m counters m') ∨
      ∃ m', Eff.Throws (createCounters fuel device) m .stillRunning m' := by
  obtain ⟨attr, answer, count⟩ := portCount_eq succeeds
  obtain ⟨whole, m₀, -, returns, throws⟩ := createCounters_eq fuel succeeds answer m
  have each : ∀ j, moreThan attr.physPortCnt j = true → ∀ m, ∃ c m',
      Eff.Returns (createCounter device j) m c m' := by
    intro j hj
    have below := of_decide_eq_true hj
    exact exists_createCounter (succeeds.counters j (by omega))
  obtain ⟨ports, m', loop⟩ | ⟨m', loop⟩ := Eff.collectWhile_or_throws each fuel 1 m₀
  · exact .inl ⟨_, m', returns ports m' loop⟩
  · exact .inr ⟨m', throws _ m' loop⟩

/-- With 255 ports every value of the loop variable passes the test. -/
theorem not_returns_createCounters (succeeds : device.Succeeds compatibility)
    (full : device.portCount = 255) {m m' : ℕ} {counters : List IbDiagPerfCounter} :
    ¬ Eff.Returns (createCounters fuel device) m counters m' := by
  obtain ⟨attr, answer, count⟩ := portCount_eq succeeds
  obtain ⟨whole, m₀, -, -, throws⟩ := createCounters_eq fuel succeeds answer m
  have always : ∀ j, moreThan attr.physPortCnt j = true := by
    intro j
    have bound := j.toNat_lt
    exact decide_eq_true (by omega)
  intro ends
  obtain ⟨ports, m'', loop⟩ | ⟨e, m'', loop⟩ :=
    Eff.returns_or_throws (portLoop fuel device attr.physPortCnt) m₀
  · exact Eff.not_returns_collectWhile always fuel loop
  · exact ends.not_throws (throws e m'' loop)

end Counter

section Setup

variable {a : DiscoveryAnswers} {devices : List IbvDevice} {fuel : ℕ}

theorem returns_setup (listed : a.deviceList = some devices) {m m' : ℕ}
    {counters : List IbDiagPerfCounter} : Eff.Returns (setup fuel a) m counters m' ↔
      ∃ made, Eff.Returns (Eff.collect (createCounters fuel) devices) (m + 1) made m' ∧
        counters = made.flatten := by
  simp only [setup, Eff.returns_bind, Eff.returns_mapThrow, IbPort.returns_acquire,
    Eff.returns_require, Eff.returns_emit, Eff.returns_pure, listed, Option.some.injEq]
  constructor
  · rintro ⟨_, _, ⟨rfl, rfl⟩, _, _, ⟨rfl, rfl⟩, made, _, collected, _, _, rfl, rfl, rfl⟩
    exact ⟨made, collected, rfl⟩
  · rintro ⟨made, collected, rfl⟩
    exact ⟨_, m + 1, ⟨rfl, by simp⟩, devices, m + 1, ⟨rfl, rfl⟩, made, m', collected, (), m', rfl,
      rfl, rfl⟩

theorem throws_setup (listed : a.deviceList = some devices) {m m' : ℕ} {e : Stop}
    (h : Eff.Throws (Eff.collect (createCounters fuel) devices) (m + 1) e m') :
    Eff.Throws (setup fuel a) m e m' := by
  have acquired : Eff.Returns (Eff.mapThrow Stop.uncaught
      (acquire .deviceList a.deviceList.isSome .ibvGetDeviceList)) m (some ⟨.deviceList, m⟩)
      (m + 1) := Eff.returns_mapThrow.mpr (IbPort.returns_acquire.mpr (by simp [listed]))
  have present : ∀ e : Stop, Eff.Returns (Eff.require a.deviceList e : Main _) (m + 1) devices
      (m + 1) := fun e => Eff.returns_require.mpr ⟨listed, rfl⟩
  exact acquired.throws_then.mpr ((present _).throws_then.mpr (Eff.throws_bind.mpr (.inl h)))

variable {compatibility : Bool} (listed : a.deviceList = some devices)
  (succeed : ∀ device ∈ devices, device.Succeeds compatibility)
include listed succeed

/-- One device with 255 ports keeps the setup from ending. -/
theorem setup_never_ends {device : IbvDevice} (hd : device ∈ devices)
    (full : device.portCount = 255) (fuel m : ℕ) :
    ∃ m', Eff.Throws (setup fuel a) m .stillRunning m' := by
  have each : ∀ device ∈ devices, ∀ m,
      (∃ counters m', Eff.Returns (createCounters fuel device) m counters m') ∨
        ∃ m', Eff.Throws (createCounters fuel device) m .stillRunning m' :=
    fun device hd => createCounters_or_throws (succeed device hd)
  obtain ⟨made, m', collected⟩ | ⟨m', thrown⟩ := Eff.collect_or_throws each (m + 1)
  · have none_full := Eff.forall₂_of_collect (R := fun device _ => device.portCount ≠ 255)
      (fun device hd _ _ _ ends full => not_returns_createCounters (succeed device hd) full ends)
      collected
    obtain ⟨i, hi, rfl⟩ := List.getElem_of_mem hd
    exact absurd full (none_full.get hi (none_full.length_eq ▸ hi))
  · exact ⟨m', throws_setup listed thrown⟩

/-- Without such a device the setup ends with the right counters. -/
theorem enumeratesPorts (small : ∀ device ∈ devices, device.portCount ≠ 255) :
    EnumeratesPorts a devices := by
  refine ⟨256, fun m => ?_⟩
  have made_of : ∀ device ∈ devices, ∀ m, ∃ counters m',
      Eff.Returns (createCounters 256 device) m counters m' ∧
        counters.map (fun c => (c.deviceName, c.portNumber.toNat)) =
          (List.range (device.portCount + 1)).map (Prod.mk device.name) := by
    intro device hd
    obtain ⟨attr, -, count⟩ := portCount_eq (succeed device hd)
    have bound := attr.physPortCnt.toNat_lt
    have other := small device hd
    exact exists_createCounters (succeed device hd) (by omega) (by omega)
  have each : ∀ device ∈ devices, ∀ m, ∃ counters m',
      Eff.Returns (createCounters 256 device) m counters m' := by
    intro device hd m
    obtain ⟨counters, m', ends, -⟩ := made_of device hd m
    exact ⟨counters, m', ends⟩
  obtain ⟨made, m', collected⟩ := Eff.exists_collect each (m + 1)
  refine ⟨made.flatten, m', (returns_setup listed).mpr ⟨made, collected, rfl⟩, ?_⟩
  have names : List.Forall₂ (fun (device : IbvDevice) (counters : List IbDiagPerfCounter) =>
      (List.range (device.portCount + 1)).map (Prod.mk device.name) =
        counters.map (fun c => (c.deviceName, c.portNumber.toNat))) devices made := by
    refine Eff.forall₂_of_collect (fun device hd m counters m' ends => ?_) collected
    obtain ⟨counters', m'', ends', names⟩ := made_of device hd m
    rw [(ends.unique ends').1, names]
  rw [List.map_flatten, ← map_eq_map_of_forall₂ names, List.flatMap_def]

/-- The library and `diagtest` both enumerate the ports of all devices exactly when no device has
255 of them. -/
theorem ports_enumerated_iff (build : Build) :
    (IbFabric.EnumeratesPorts build a compatibility devices ∧ EnumeratesPorts a devices) ↔
      ∀ device ∈ devices, device.portCount ≠ 255 := by
  constructor
  · rintro ⟨-, fuel, ends⟩ device hd full
    obtain ⟨counters, m', returned, -⟩ := ends 0
    obtain ⟨_, thrown⟩ := setup_never_ends listed succeed hd full fuel 0
    exact returned.not_throws thrown
  · exact fun small => ⟨IbFabric.enumeratesPorts build compatibility listed succeed,
      enumeratesPorts listed succeed small⟩

end Setup

/-- Adapters with two, one and three ports. -/
theorem ports_enumerated_plain :
    let third : IbvDevice := { IbvDevice.plain with
      name := "mlx5_2"
      queryDevice := .ok ⟨3, 3⟩ }
    let devices : List IbvDevice := [.dual, { IbvDevice.plain with name := "mlx5_1" }, third]
    IbFabric.EnumeratesPorts ⟨true, .little⟩ ⟨some devices, "", none⟩ true devices ∧
      EnumeratesPorts ⟨some devices, "", none⟩ devices ∧
      devices.map (fun device => device.portCount) = [2, 1, 3] := by
  intro third devices
  have succeeds : ∀ {device : IbvDevice} {attr : IbvDeviceAttr}, device.isNull = false →
      device.openDevice = true → device.queryDevice = .ok attr →
      (∀ i, ∃ attributes, device.queryPort i = .ok attributes) →
      (∀ path, device.readable path = true) → device.Succeeds true := by
    intro device attr valid opens answer ports readable
    refine ⟨opens, ⟨valid, attr, answer, fun i _ => ?_⟩, fun _ _ _ => readable _⟩
    obtain ⟨attributes, answered⟩ := ports (i + 1)
    exact ⟨attributes, answered, fun _ => readable _⟩
  have succeed : ∀ device ∈ devices, device.Succeeds true := by
    simp only [devices, List.forall_mem_cons]
    refine ⟨succeeds rfl rfl rfl (fun _ => ⟨_, rfl⟩) fun _ => rfl,
      succeeds rfl rfl rfl (fun _ => ⟨_, rfl⟩) fun _ => rfl,
      succeeds rfl rfl rfl (fun _ => ⟨_, rfl⟩) fun _ => rfl, by simp⟩
  have listed : (⟨some devices, "", none⟩ : DiscoveryAnswers).deviceList = some devices := rfl
  obtain ⟨library, diagtest⟩ := (ports_enumerated_iff listed succeed ⟨true, .little⟩).mpr (by decide)
  exact ⟨library, diagtest, rfl⟩

/-- An adapter with 255 ports. The library enumerates them; the setup of `diagtest` is still
running after any number of iterations. -/
theorem setup_runs_on :
    let device : IbvDevice := { IbvDevice.plain with queryDevice := .ok ⟨1, 255⟩ }
    let a : DiscoveryAnswers := ⟨some [device], "", none⟩
    IbFabric.EnumeratesPorts ⟨true, .little⟩ a false [device] ∧
      (∀ fuel m, ∃ m', Eff.Throws (setup fuel a) m .stillRunning m') ∧
      ¬ EnumeratesPorts a [device] := by
  intro device a
  have succeed : ∀ d ∈ [device], d.Succeeds false := by
    intro d hd
    obtain rfl := List.mem_singleton.mp hd
    exact ⟨rfl, ⟨rfl, ⟨1, 255⟩, rfl, fun i _ => ⟨⟨3, 2⟩, rfl, rfl, rfl, rfl, rfl⟩⟩,
      fun _ _ _ => rfl⟩
  have listed : a.deviceList = some [device] := rfl
  have runs_on := setup_never_ends listed succeed (List.mem_singleton_self device) rfl
  refine ⟨IbFabric.enumeratesPorts _ _ listed succeed, runs_on, ?_⟩
  rintro ⟨fuel, ends⟩
  obtain ⟨counters, m', returned, -⟩ := ends 0
  obtain ⟨_, thrown⟩ := runs_on fuel 0
  exact returned.not_throws thrown

end DiagTest

end Detector
