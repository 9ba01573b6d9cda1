import Mathlib.Data.Fintype.Basic
import Detector.Basic

/-!
# The 21 performance counters

`IbPerfCounter` is the base class of ports and nodes: 21 counter variables, one getter for
each, and `ResetVariables`. The variables are a function from their names, so that a statement
about every counter is a statement about every name.
-/
namespace Detector

/-- The counter variables of `IbPerfCounter`, in the order of their declaration. -/
inductive PerfVar where
  | xmitDataBytes | rcvDataBytes | xmitPkts | rcvPkts
  | unicastXmitPkts | unicastRcvPkts | multicastXmitPkts | multicastRcvPkts
  | symbolErrors | linkDowned | linkRecoveries | rcvErrors
  | rcvRemotePhysicalErrors | rcvSwitchRelayErrors | xmitDiscards | xmitConstraintErrors
  | rcvConstraintErrors | localLinkIntegrityErrors | excessiveBufferOverrunErrors
  | vl15Dropped | xmitWait
  deriving DecidableEq

/-- All 21 names, in the order of their declaration. -/
def PerfVar.all : List PerfVar :=
  [.xmitDataBytes, .rcvDataBytes, .xmitPkts, .rcvPkts,
   .unicastXmitPkts, .unicastRcvPkts, .multicastXmitPkts, .multicastRcvPkts,
   .symbolErrors, .linkDowned, .linkRecoveries, .rcvErrors,
   .rcvRemotePhysicalErrors, .rcvSwitchRelayErrors, .xmitDiscards, .xmitConstraintErrors,
   .rcvConstraintErrors, .localLinkIntegrityErrors, .excessiveBufferOverrunErrors,
   .vl15Dropped, .xmitWait]

instance : Fintype PerfVar where
  elems := ⟨PerfVar.all, by decide⟩
  complete v := by cases v <;> decide

/-- One value for each of the 21 variables. -/
abbrev PerfCounters := PerfVar → UInt64

structure IbPerfCounter where
  counters : PerfCounters

namespace IbPerfCounter

/-- The constructor sets every variable to 0. -/
def init : PerfCounters
  | .xmitDataBytes | .rcvDataBytes | .xmitPkts | .rcvPkts
  | .unicastXmitPkts | .unicastRcvPkts | .multicastXmitPkts | .multicastRcvPkts
  | .symbolErrors | .linkDowned | .linkRecoveries | .rcvErrors
  | .rcvRemotePhysicalErrors | .rcvSwitchRelayErrors | .xmitDiscards | .xmitConstraintErrors
  | .rcvConstraintErrors | .localLinkIntegrityErrors | .excessiveBufferOverrunErrors
  | .vl15Dropped | .xmitWait => 0

/-- `ResetVariables` assigns 0 to every variable, whatever it held. -/
def resetVariables (_ : PerfCounters) : PerfCounters
  | .xmitDataBytes | .rcvDataBytes | .xmitPkts | .rcvPkts
  | .unicastXmitPkts | .unicastRcvPkts | .multicastXmitPkts | .multicastRcvPkts
  | .symbolErrors | .linkDowned | .linkRecoveries | .rcvErrors
  | .rcvRemotePhysicalErrors | .rcvSwitchRelayErrors | .xmitDiscards | .xmitConstraintErrors
  | .rcvConstraintErrors | .localLinkIntegrityErrors | .excessiveBufferOverrunErrors
  | .vl15Dropped | .xmitWait => 0

def getXmitDataBytes (o : IbPerfCounter) : UInt64 := o.counters .xmitDataBytes
def getRcvDataBytes (o : IbPerfCounter) : UInt64 := o.counters .rcvDataBytes
def getXmitPkts (o : IbPerfCounter) : UInt64 := o.counters .xmitPkts
def getRcvPkts (o : IbPerfCounter) : UInt64 := o.counters .rcvPkts
def getUnicastXmitPkts (o : IbPerfCounter) : UInt64 := o.counters .unicastXmitPkts
def getUnicastRcvPkts (o : IbPerfCounter) : UInt64 := o.counters .unicastRcvPkts
def getMulticastXmitPkts (o : IbPerfCounter) : UInt64 := o.counters .multicastXmitPkts
def getMulticastRcvPkts (o : IbPerfCounter) : UInt64 := o.counters .multicastRcvPkts
def getSymbolErrors (o : IbPerfCounter) : UInt64 := o.counters .symbolErrors
def getLinkDownedCounter (o : IbPerfCounter) : UInt64 := o.counters .linkDowned
def getLinkRecoveryCounter (o : IbPerfCounter) : UInt64 := o.counters .linkRecoveries
def getRcvErrors (o : IbPerfCounter) : UInt64 := o.counters .rcvErrors
def getRcvRemotePhysicalErrors (o : IbPerfCounter) : UInt64 :=
  o.counters .rcvRemotePhysicalErrors
def getRcvSwitchRelayErrors (o : IbPerfCounter) : UInt64 := o.counters .rcvSwitchRelayErrors
def getXmitDiscards (o : IbPerfCounter) : UInt64 := o.counters .xmitDiscards
def getXmitConstraintErrors (o : IbPerfCounter) : UInt64 := o.counters .xmitConstraintErrors
def getRcvConstraintErrors (o : IbPerfCounter) : UInt64 := o.counters .rcvConstraintErrors
def getLocalLinkIntegrityErrors (o : IbPerfCounter) : UInt64 :=
  o.counters .localLinkIntegrityErrors
def getExcessiveBufferOverrunErrors (o : IbPerfCounter) : UInt64 :=
  o.counters .excessiveBufferOverrunErrors
def getVL15Dropped (o : IbPerfCounter) : UInt64 := o.counters .vl15Dropped
def getXmitWait (o : IbPerfCounter) : UInt64 := o.counters .xmitWait

@[simp] theorem init_apply (v : PerfVar) : init v = 0 := by cases v <;> rfl

@[simp] theorem resetVariables_apply (c : PerfCounters) (v : PerfVar) :
    resetVariables c v = 0 := by cases v <;> rfl

theorem resetVariables_eq (c : PerfCounters) : resetVariables c = fun _ => 0 :=
  funext (resetVariables_apply c)

/-- The two counters that are reported per link and scaled by the link width. -/
def isData : PerfVar → Bool
  | .xmitDataBytes | .rcvDataBytes => true
  | _ => false

end IbPerfCounter

end Detector
