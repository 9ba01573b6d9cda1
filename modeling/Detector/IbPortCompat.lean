import Detector.CounterFiles
import Detector.IbPort

/-!
# Ports that are read from the file system

`IbPortCompat` overrides `ResetCounters` and `RefreshCounters` of `IbPort` and uses neither the
MAD port nor the capability bits, which its base constructor leaves empty. A reset is
simulated: it only records what the files show.
-/
namespace Detector

open Cpp

structure IbPortCompat extends IbPort where
  deviceName : String
  reader : CounterFiles 21

namespace IbPortCompat

/-- The directory that the constructor opens its files in. -/
def counterPath (deviceName : String) (portNum : UInt8) : String :=
  "/sys/class/infiniband/" ++ deviceName ++ "/ports/" ++ toString portNum.toNat ++ "/counters/"

/-- The names that the constructor gives to `files[0]` to `files[20]`. -/
def fileNames : List String :=
  ["port_xmit_data", "port_rcv_data", "port_xmit_packets", "port_rcv_packets",
   "unicast_xmit_packets", "unicast_rcv_packets", "multicast_xmit_packets",
   "multicast_rcv_packets", "symbol_error", "link_downed", "link_error_recovery",
   "port_rcv_errors", "port_rcv_remote_physical_errors", "port_rcv_switch_relay_errors",
   "port_xmit_discards", "port_xmit_constraint_errors", "port_rcv_constraint_errors",
   "local_link_integrity_errors", "excessive_buffer_overrun_errors", "VL15_dropped",
   "port_xmit_wait"]

theorem length_fileNames : 21 = fileNames.length := rfl

/-- The constructor. A stream that is not open is closed again by the member destructors, so a
throw leaves nothing behind. -/
def create (readable : String → Bool) (deviceName : String) (attributes : IbvPortAttr)
    (portNum : UInt8) : Method ℕ IbPortCompat := do
  let base := IbPort.ofAttributes attributes portNum
  let path := counterPath deviceName base.portNum
  let files : Fin 21 → InStream := fun i =>
    InStream.ofFile readable (path ++ fileNames.get (i.cast length_fileNames))
  Eff.ensure ((List.finRange 21).all fun i => (files i).isOpen)
    (.ibFileException ("Unable to open file in '" ++ path ++ "'!"))
  return {
    base with
    deviceName := deviceName
    reader := ⟨CharBuffer.zeroed 128, files, fun _ => 0⟩ }

/-- The assignments of `RefreshCounters`. -/
def table : CounterTable PerfVar 21 where
  entries :=
    [(.xmitDataBytes, 0), (.rcvDataBytes, 1), (.xmitPkts, 2), (.rcvPkts, 3),
     (.unicastXmitPkts, 4), (.unicastRcvPkts, 5), (.multicastXmitPkts, 6),
     (.multicastRcvPkts, 7), (.symbolErrors, 8), (.linkDowned, 9), (.linkRecoveries, 10),
     (.rcvErrors, 11), (.rcvRemotePhysicalErrors, 12), (.rcvSwitchRelayErrors, 13),
     (.xmitDiscards, 14), (.xmitConstraintErrors, 15), (.rcvConstraintErrors, 16),
     (.localLinkIntegrityErrors, 17), (.excessiveBufferOverrunErrors, 18), (.vl15Dropped, 19),
     (.xmitWait, 20)]
  index_nodup := by decide
  variable_nodup := by decide
  variable_complete v := by cases v <;> decide
  index_complete := by decide

/-- What is done with the result of `ReadCounter`: the two data counters are multiplied by the
link width. -/
def scale (linkWidth : UInt8) : PerfVar → UInt64 → UInt64
  | .xmitDataBytes, x | .rcvDataBytes, x => x * linkWidth.toUInt64
  | _, x => x

/-- The members that the file operations work on. -/
def fileCounters (p : IbPortCompat) : FileCounters PerfVar 21 := ⟨p.counters, p.reader⟩

def withFileCounters (p : IbPortCompat) (s : FileCounters PerfVar 21) : IbPortCompat :=
  { p with counters := s.counters, reader := s.reader }

def resetCounters (io : Reads) : Method IbPortCompat Unit :=
  Eff.focus fileCounters withFileCounters (FileCounters.resetWith false io)

def refreshCounters (io : Reads) : Method IbPortCompat Unit := do
  let p ← Eff.get
  Eff.focus fileCounters withFileCounters (FileCounters.refreshWith table (scale p.linkWidth) io)

/-- The destructor of the base class; the streams close themselves. -/
def destroy (p : IbPortCompat) : List ExtCall := p.toIbPort.destroy

/-! ## The class of file counters that it is -/

def fileClass (linkWidth : UInt8) : FileClass PerfVar 21 := ⟨table, scale linkWidth, false⟩

/-- A call of one of the two member functions. -/
def call (c : CounterOp × Reads) : Method IbPortCompat Unit :=
  match c.1 with
  | .reset => resetCounters c.2
  | .refresh => refreshCounters c.2

@[simp] theorem fileCounters_withFileCounters (p : IbPortCompat)
    (s : FileCounters PerfVar 21) : (p.withFileCounters s).fileCounters = s := rfl

theorem run_call (c : CounterOp × Reads) (p : IbPortCompat) :
    (call c).run p =
      ⟨(((fileClass p.linkWidth).call c).run p.fileCounters).result,
        p.withFileCounters (((fileClass p.linkWidth).call c).run p.fileCounters).state,
        (((fileClass p.linkWidth).call c).run p.fileCounters).calls⟩ := by
  obtain ⟨op, io⟩ := c
  cases op <;> rfl

/-- The file that the kernel keeps each counter in. -/
def fileOf : PerfVar → String
  | .xmitDataBytes => "port_xmit_data"
  | .rcvDataBytes => "port_rcv_data"
  | .xmitPkts => "port_xmit_packets"
  | .rcvPkts => "port_rcv_packets"
  | .unicastXmitPkts => "unicast_xmit_packets"
  | .unicastRcvPkts => "unicast_rcv_packets"
  | .multicastXmitPkts => "multicast_xmit_packets"
  | .multicastRcvPkts => "multicast_rcv_packets"
  | .symbolErrors => "symbol_error"
  | .linkDowned => "link_downed"
  | .linkRecoveries => "link_error_recovery"
  | .rcvErrors => "port_rcv_errors"
  | .rcvRemotePhysicalErrors => "port_rcv_remote_physical_errors"
  | .rcvSwitchRelayErrors => "port_rcv_switch_relay_errors"
  | .xmitDiscards => "port_xmit_discards"
  | .xmitConstraintErrors => "port_xmit_constraint_errors"
  | .rcvConstraintErrors => "port_rcv_constraint_errors"
  | .localLinkIntegrityErrors => "local_link_integrity_errors"
  | .excessiveBufferOverrunErrors => "excessive_buffer_overrun_errors"
  | .vl15Dropped => "VL15_dropped"
  | .xmitWait => "port_xmit_wait"

/-- The constructor opens, under each index of the table, the file of that counter. -/
theorem fileNames_table :
    ∀ e ∈ table.entries, fileNames.get (e.2.cast length_fileNames) = fileOf e.1 := by
  decide +kernel

/-- What a constructor that returned has built. -/
theorem returns_create {readable : String → Bool} {deviceName : String}
    {attributes : IbvPortAttr} {portNum : UInt8} {m m' : ℕ} {p : IbPortCompat}
    (h : Eff.Returns (create readable deviceName attributes portNum) m p m') :
    p.linkWidth = IbPort.calcLinkWidth attributes.activeWidth ∧
      p.fileCounters.Fresh table fun v => counterPath deviceName portNum ++ fileOf v := by
  obtain ⟨_, _, ensured, built⟩ := Eff.returns_bind.mp h
  obtain ⟨rfl, -⟩ := Eff.returns_pure.mp built
  have isOpen := (Eff.returns_ensure.mp ensured).1
  rw [List.all_eq_true] at isOpen
  refine ⟨rfl, fun v => IbPerfCounter.init_apply v, fun e he => ?_, fun _ => rfl⟩
  rw [← fileNames_table e he]
  exact InStream.ofFile_of_isOpen (isOpen e.2 (List.mem_finRange e.2))

end IbPortCompat

end Detector
