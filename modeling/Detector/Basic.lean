import Detector.Library.Effect
import Detector.Library.Stream

/-!
# Exceptions, handles and the calls that leave the library

The vocabulary shared by all classes: the four exception types, the handles that the
InfiniBand libraries give out, and one constructor for each external function that the
classes call. A call records the handle it receives or returns, `none` for a null pointer,
so a run of the library is also a trace of what it did with its handles.

The answers of `libibmad` are inputs. A reply buffer is known here by the values that
`mad_decode_field` reads out of it and by the raw bytes that the port constructor copies.
-/
namespace Detector

open Cpp

/-! ## Exceptions -/

/-- `IbPerfException` and its subclasses, each with the message it was thrown with. -/
inductive IbPerfException where
  | ibMadException (message : String)
  | ibFileException (message : String)
  | ibVerbsException (message : String)
  | ibNetDiscException (message : String)
  deriving DecidableEq

/-- `what()`, with the text that each subclass puts in front of the message. -/
def IbPerfException.what : IbPerfException → String
  | .ibMadException message => "Error while performing a MAD operation: " ++ message
  | .ibFileException message => "Error while performing a File operation: " ++ message
  | .ibVerbsException message => "Error while performing a Verbs operation: " ++ message
  | .ibNetDiscException message =>
    "Error while performing a network discovery operation: " ++ message

/-! ## Handles and calls -/

inductive HandleKind where
  | madPort | context | deviceList | fabric
  deriving DecidableEq

/-- A non-null pointer given out by a library; the number tells two of them apart. -/
structure Handle where
  kind : HandleKind
  id : ℕ
  deriving DecidableEq

/-- `ib_portid_t` as `ib_portid_set` fills it in. -/
structure IbPortId where
  lid : UInt16
  qp : UInt32
  qkey : UInt32
  deriving DecidableEq

def ibPortidSet (lid : UInt16) (qp qkey : UInt32) : IbPortId := ⟨lid, qp, qkey⟩

/-- The attributes that are queried or reset. -/
inductive MadAttr where
  | classPortInfo | gsiPortCounters | gsiPortCountersExt | nodeInfo | portInfo
  deriving DecidableEq

/-- The external functions, with their handle arguments or results. -/
inductive ExtCall where
  | madRpcOpenPort (result : Option Handle)
  | madRpcClosePort (port : Option Handle)
  | ibvGetDeviceList (result : Option Handle)
  | ibvFreeDeviceList (list : Option Handle)
  | ibvOpenDevice (result : Option Handle)
  | ibvCloseDevice (context : Option Handle)
  | ibvQueryDevice (context : Option Handle)
  | ibvQueryPort (context : Option Handle) (port : UInt8)
  | ibndDiscoverFabric (result : Option Handle)
  | ibndDestroyFabric (fabric : Option Handle)
  | pmaQueryVia (dest : IbPortId) (port : UInt8) (attr : MadAttr) (srcport : Option Handle)
  | smpQueryVia (dest : IbPortId) (attr : MadAttr) (mod : UInt32) (srcport : Option Handle)
  | performanceResetVia (dest : IbPortId) (port : UInt8) (mask : UInt32) (attr : MadAttr)
      (srcport : Option Handle)
  deriving DecidableEq

/-- A member function of an object with state `σ`. -/
abbrev Method (σ α : Type) := Eff IbPerfException ExtCall σ α

/-! ## Replies of `libibmad` -/

/-- The `MAD_FIELDS` that are decoded. -/
inductive MadField where
  | pcExtXmtBytes | pcExtRcvBytes | pcExtXmtPkts | pcExtRcvPkts
  | pcExtXmtUpkts | pcExtRcvUpkts | pcExtXmtMpkts | pcExtRcvMpkts
  | pcExtErrRcv | pcExtErrPhysrcv | pcExtErrSwitchRel | pcExtXmtDiscards
  | pcExtErrXmtconstr | pcExtErrRcvconstr | pcExtErrLocalinteg | pcExtErrExcessOvr
  | pcExtXmtWait
  | pcErrRcv | pcErrPhysrcv | pcErrSwitchRel | pcXmtDiscards
  | pcErrXmtconstr | pcErrRcvconstr | pcErrLocalinteg | pcErrExcessOvr
  | pcXmtWait
  | pcErrSym | pcLinkDowned | pcLinkRecovers | pcVl15Dropped
  | nodeType | portLinkWidthActive
  deriving DecidableEq

/-- A reply buffer: its bytes, and what `mad_decode_field` reads into a 32-bit or a 64-bit
variable. -/
structure MadBuf where
  byte : ℕ → UInt8
  decode32 : MadField → UInt32
  decode64 : MadField → UInt64

/-- The answers of `libibmad` during one call of a member function. `pma` takes the number of
the query within that call, since the same query is made twice in a refresh. -/
structure MadAnswers where
  openPort : Bool
  pma : ℕ → IbPortId → UInt8 → MadAttr → Option MadBuf
  smp : IbPortId → MadAttr → UInt32 → Option MadBuf
  reset : IbPortId → UInt8 → UInt32 → MadAttr → Bool

/-- `pma_query_via`, the `n`th of this call; a null result is turned into an exception. -/
def pmaQueryVia {σ : Type} (a : MadAnswers) (n : ℕ) (dest : IbPortId) (port : UInt8)
    (attr : MadAttr) (srcport : Option Handle) (message : String) : Method σ MadBuf := do
  Eff.emit (.pmaQueryVia dest port attr srcport)
  Eff.require (a.pma n dest port attr) (.ibMadException message)

/-- `smp_query_via`; a null result is turned into an exception. -/
def smpQueryVia {σ : Type} (a : MadAnswers) (dest : IbPortId) (attr : MadAttr) (mod : UInt32)
    (srcport : Option Handle) (message : String) : Method σ MadBuf := do
  Eff.emit (.smpQueryVia dest attr mod srcport)
  Eff.require (a.smp dest attr mod) (.ibMadException message)

/-- `performance_reset_via`; a null result is turned into an exception. -/
def performanceResetVia {σ : Type} (a : MadAnswers) (dest : IbPortId) (port : UInt8)
    (mask : UInt32) (attr : MadAttr) (srcport : Option Handle) (message : String) :
    Method σ Unit := do
  Eff.emit (.performanceResetVia dest port mask attr srcport)
  Eff.ensure (a.reset dest port mask attr) (.ibMadException message)

end Detector
