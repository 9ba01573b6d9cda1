import Detector.IbPerfCounter
import Detector.Library.Loop

/-!
# Ports that are read through `libibmad`

`IbPort` opens a MAD port in its constructor, learns from three queries which counters the
device supports, of which kind the node is and how wide the link is, and from then on reads
its counters with two or three further queries per refresh. Which of the 21 variables a
refresh assigns depends on the capability bits and on a preprocessor switch; a variable that
is not assigned keeps its value.
-/
namespace Detector

open Cpp

/-! ## Build configuration and byte order -/

inductive ByteOrder where
  | little | big
  deriving DecidableEq

/-- `USE_ADDITIONAL_EXTENDED_COUNTERS`, and the byte order of the host. -/
structure Build where
  useAdditionalExtendedCounters : Bool
  byteOrder : ByteOrder

/-- `htonl` and `ntohl`, which are the same function. -/
def htonl (order : ByteOrder) (x : UInt32) : UInt32 :=
  match order with
  | .big => x
  | .little => (x <<< 24) ||| ((x <<< 8) &&& (0xff0000 : UInt32)) |||
      ((x >>> 8) &&& (0xff00 : UInt32)) ||| (x >>> 24)

/-- `CL_HTON16`. -/
def clHton16 (order : ByteOrder) (x : UInt16) : UInt16 :=
  match order with
  | .big => x
  | .little => (x <<< 8) ||| (x >>> 8)

/-- `CL_HTON32`. -/
def clHton32 (order : ByteOrder) (x : UInt32) : UInt32 := htonl order x

/-- `memcpy` of two bytes into a `uint16_t`. -/
def memcpy16 (order : ByteOrder) (byte : ℕ → UInt8) (offset : ℕ) : UInt16 :=
  match order with
  | .big => (byte offset).toUInt16 <<< 8 ||| (byte (offset + 1)).toUInt16
  | .little => (byte (offset + 1)).toUInt16 <<< 8 ||| (byte offset).toUInt16

/-- `memcpy` of four bytes into a `uint32_t`. -/
def memcpy32 (order : ByteOrder) (byte : ℕ → UInt8) (offset : ℕ) : UInt32 :=
  match order with
  | .big => (byte offset).toUInt32 <<< 24 ||| (byte (offset + 1)).toUInt32 <<< 16 |||
      (byte (offset + 2)).toUInt32 <<< 8 ||| (byte (offset + 3)).toUInt32
  | .little => (byte (offset + 3)).toUInt32 <<< 24 ||| (byte (offset + 2)).toUInt32 <<< 16 |||
      (byte (offset + 1)).toUInt32 <<< 8 ||| (byte offset).toUInt32

/-- `mad_decode_field` of a small field into a `uint8_t`. It stores four bytes, so the variable gets
the first of them, and three bytes behind it are overwritten. -/
def decode8 (order : ByteOrder) (buf : MadBuf) (field : MadField) : UInt8 :=
  match order with
  | .big => (buf.decode32 field >>> 24).toUInt8
  | .little => (buf.decode32 field).toUInt8

/-- `IB_PM_EXT_WIDTH_SUPPORTED`. -/
def ibPmExtWidthSupported (order : ByteOrder) : UInt16 := clHton16 order ((1 : UInt16) <<< 9)

/-- `IB_PM_PC_XMIT_WAIT_SUP`. -/
def ibPmPcXmitWaitSup (order : ByteOrder) : UInt16 := clHton16 order ((1 : UInt16) <<< 12)

/-- `IB_PM_IS_ADDL_PORT_CTRS_EXT_SUP`. -/
def ibPmIsAddlPortCtrsExtSup (order : ByteOrder) : UInt32 := clHton32 order ((1 : UInt32) <<< 1)

/-! ## The object -/

/-- The values of `MAD_NODE_TYPE`. -/
def ibNodeCa : UInt32 := 1
def ibNodeSwitch : UInt32 := 2
def ibNodeRouter : UInt32 := 3

/-- `ibv_port_attr`, as far as it is used. -/
structure IbvPortAttr where
  lid : UInt16
  activeWidth : UInt8

structure IbPort extends IbPerfCounter where
  lid : UInt16
  portNum : UInt8
  linkWidth : UInt8
  madPort : Option Handle
  portId : IbPortId
  nodeType : UInt32
  isExtendedWidthSupported : Bool
  isAdditionalExtendedPortCountersSupported : Bool
  isXmitWaitSupported : Bool

/-- Ask a library for a handle. The state is the number of handles given out so far, so a
handle that is granted is a new one. -/
def acquire (kind : HandleKind) (granted : Bool) (call : Option Handle → ExtCall) :
    Method ℕ (Option Handle) := do
  let n ← Eff.get
  let h : Option Handle := if granted then some ⟨kind, n⟩ else none
  Eff.modify fun n => if granted then n + 1 else n
  Eff.emit (call h)
  return h

namespace IbPort

def calcLinkWidth (activeWidth : UInt8) : UInt8 :=
  match activeWidth with
  | 1 => 1
  | 2 => 4
  | 4 => 8
  | 8 => 12
  | _ => 1

/-- The compatibility constructor, which opens nothing. -/
def ofAttributes (attributes : IbvPortAttr) (portNum : UInt8) : IbPort where
  counters := IbPerfCounter.init
  lid := attributes.lid
  portNum := portNum
  linkWidth := calcLinkWidth attributes.activeWidth
  madPort := none
  portId := ⟨0, 0, 0⟩
  nodeType := ibNodeCa
  isExtendedWidthSupported := false
  isAdditionalExtendedPortCountersSupported := false
  isXmitWaitSupported := false

/-- The constructor of a MAD port. A throw leaves the MAD port open, since an object that is
not complete is not destroyed. -/
def create (build : Build) (a : MadAnswers) (lid : UInt16) (portNum : UInt8) :
    Method ℕ IbPort := do
  let madPort ← acquire .madPort a.openPort .madRpcOpenPort
  Eff.ensure madPort.isSome
    (.ibMadException "MAD: Failed to open port! (mad_rpc_open_port failed)")
  let portId := ibPortidSet lid 0 0
  let pmaQueryBuf ← pmaQueryVia a 0 portId 0 .classPortInfo madPort
    "MAD: Failed to query port information! (pma_query_via failed)"
  let capabilityMask := memcpy16 build.byteOrder pmaQueryBuf.byte 2
  let capabilityMask2 := htonl build.byteOrder
    (htonl build.byteOrder (memcpy32 build.byteOrder pmaQueryBuf.byte 4) >>> 5)
  let nodeInfo ← smpQueryVia a portId .nodeInfo 0 madPort
    "MAD: Failed to query device information! (smp_query_via failed)"
  let portInfo ← smpQueryVia a portId .portInfo 0 madPort
    "MAD: Failed to query port information! (smp_query_via failed)"
  let activeWidth := decode8 build.byteOrder portInfo .portLinkWidthActive
  return {
    counters := IbPerfCounter.init
    lid := lid
    portNum := portNum
    linkWidth := calcLinkWidth activeWidth
    madPort := madPort
    portId := portId
    nodeType := nodeInfo.decode32 .nodeType
    isExtendedWidthSupported := (capabilityMask &&& ibPmExtWidthSupported build.byteOrder) != 0
    isAdditionalExtendedPortCountersSupported :=
      (capabilityMask2 &&& ibPmIsAddlPortCtrsExtSup build.byteOrder) != 0
    isXmitWaitSupported := (capabilityMask &&& ibPmPcXmitWaitSup build.byteOrder) != 0 }

/-- The destructor. -/
def destroy (p : IbPort) : List ExtCall :=
  if p.madPort.isSome then [.madRpcClosePort p.madPort] else []

def resetCounters (a : MadAnswers) : Method IbPort Unit := do
  Eff.modify fun p => { p with counters := IbPerfCounter.resetVariables p.counters }
  let p ← Eff.get
  performanceResetVia a p.portId p.portNum 0xffffffff .gsiPortCounters p.madPort
    "Failed to reset performance counters!"
  performanceResetVia a p.portId p.portNum 0xffffffff .gsiPortCountersExt p.madPort
    "Failed to reset extended performance counters!"

/-! ## Refreshing

`mad_decode_field(buf, FIELD, &value); m_variable = value;` is one entry of a table below, in
the order in which the statements stand. -/

def packetFields : List (PerfVar × MadField) :=
  [(.xmitPkts, .pcExtXmtPkts), (.rcvPkts, .pcExtRcvPkts)]

def castFields : List (PerfVar × MadField) :=
  [(.unicastXmitPkts, .pcExtXmtUpkts), (.unicastRcvPkts, .pcExtRcvUpkts),
   (.multicastXmitPkts, .pcExtXmtMpkts), (.multicastRcvPkts, .pcExtRcvMpkts)]

def extErrorFields : List (PerfVar × MadField) :=
  [(.rcvErrors, .pcExtErrRcv), (.rcvRemotePhysicalErrors, .pcExtErrPhysrcv),
   (.rcvSwitchRelayErrors, .pcExtErrSwitchRel), (.xmitDiscards, .pcExtXmtDiscards),
   (.xmitConstraintErrors, .pcExtErrXmtconstr), (.rcvConstraintErrors, .pcExtErrRcvconstr),
   (.localLinkIntegrityErrors, .pcExtErrLocalinteg),
   (.excessiveBufferOverrunErrors, .pcExtErrExcessOvr)]

def extWaitFields : List (PerfVar × MadField) := [(.xmitWait, .pcExtXmtWait)]

def errorFields : List (PerfVar × MadField) :=
  [(.rcvErrors, .pcErrRcv), (.rcvRemotePhysicalErrors, .pcErrPhysrcv),
   (.rcvSwitchRelayErrors, .pcErrSwitchRel), (.xmitDiscards, .pcXmtDiscards),
   (.xmitConstraintErrors, .pcErrXmtconstr), (.rcvConstraintErrors, .pcErrRcvconstr),
   (.localLinkIntegrityErrors, .pcErrLocalinteg),
   (.excessiveBufferOverrunErrors, .pcErrExcessOvr)]

def waitFields : List (PerfVar × MadField) := [(.xmitWait, .pcXmtWait)]

def restFields : List (PerfVar × MadField) :=
  [(.symbolErrors, .pcErrSym), (.linkDowned, .pcLinkDowned),
   (.linkRecoveries, .pcLinkRecovers), (.vl15Dropped, .pcVl15Dropped)]

def assign (v : PerfVar) (x : UInt64) : Method IbPort Unit :=
  Eff.modify fun p => { p with counters := Function.update p.counters v x }

/-- Decode fields into `value64` and assign it. -/
def decode64 (buf : MadBuf) (fields : List (PerfVar × MadField)) : Method IbPort Unit :=
  fields.forM fun e => assign e.1 (buf.decode64 e.2)

/-- Decode fields into `value32` and assign it. -/
def decode32 (buf : MadBuf) (fields : List (PerfVar × MadField)) : Method IbPort Unit :=
  fields.forM fun e => assign e.1 (buf.decode32 e.2).toUInt64

/-- The received data as it is scaled: on a switch only the lower 40 bits are used. -/
def rcvData (nodeType : UInt32) (value64 : UInt64) : UInt64 :=
  if nodeType = ibNodeSwitch then value64 &&& 0x000000ffffffffff else value64

/-- The condition of the block under `#if USE_ADDITIONAL_EXTENDED_COUNTERS`. -/
def usesExtErrors (build : Build) (p : IbPort) : Bool :=
  build.useAdditionalExtendedCounters && p.isAdditionalExtendedPortCountersSupported

/-- The extended 64-bit counters. The buffer is decoded further by the next part. -/
def refreshExtended (a : MadAnswers) (p : IbPort) : Method IbPort MadBuf := do
  let ext ← pmaQueryVia a 0 p.portId p.portNum .gsiPortCountersExt p.madPort
    "Failed to query extended performance counters!"
  assign .xmitDataBytes (ext.decode64 .pcExtXmtBytes * p.linkWidth.toUInt64)
  assign .rcvDataBytes (rcvData p.nodeType (ext.decode64 .pcExtRcvBytes) * p.linkWidth.toUInt64)
  decode64 ext packetFields
  if p.isExtendedWidthSupported then decode64 ext castFields
  return ext

/-- The error counters, from the extended buffer or from a second query. -/
def refreshErrors (build : Build) (a : MadAnswers) (p : IbPort) (ext : MadBuf) :
    Method IbPort Unit := do
  if p.usesExtErrors build then
    decode64 ext extErrorFields
    if p.isXmitWaitSupported then decode64 ext extWaitFields
  else
    let errors ← pmaQueryVia a 1 p.portId p.portNum .gsiPortCounters p.madPort
      "Failed to query performance counters!"
    decode32 errors errorFields
    if p.isXmitWaitSupported then decode32 errors waitFields

/-- The rest of the counters, that only have 32-bit variants. -/
def refreshRest (a : MadAnswers) (p : IbPort) : Method IbPort Unit := do
  let rest ← pmaQueryVia a 2 p.portId p.portNum .gsiPortCounters p.madPort
    "Failed to query performance counters!"
  decode32 rest restFields

def refreshCounters (build : Build) (a : MadAnswers) : Method IbPort Unit := do
  let p ← Eff.get
  let ext ← refreshExtended a p
  refreshErrors build a p ext
  refreshRest a p

/-! ## What a refresh does -/

/-- The buffers that a refresh decodes. -/
structure Replies where
  ext : MadBuf
  errors : MadBuf
  rest : MadBuf

/-- The value a refresh is meant to give to each variable: a function of the replies, the link
width, the kind of node and the capability bits, and of nothing else. -/
def reading (build : Build) (p : IbPort) (r : Replies) : PerfCounters
  | .xmitDataBytes => r.ext.decode64 .pcExtXmtBytes * p.linkWidth.toUInt64
  | .rcvDataBytes => rcvData p.nodeType (r.ext.decode64 .pcExtRcvBytes) * p.linkWidth.toUInt64
  | .xmitPkts => r.ext.decode64 .pcExtXmtPkts
  | .rcvPkts => r.ext.decode64 .pcExtRcvPkts
  | .unicastXmitPkts => cast .pcExtXmtUpkts
  | .unicastRcvPkts => cast .pcExtRcvUpkts
  | .multicastXmitPkts => cast .pcExtXmtMpkts
  | .multicastRcvPkts => cast .pcExtRcvMpkts
  | .rcvErrors => error .pcExtErrRcv .pcErrRcv
  | .rcvRemotePhysicalErrors => error .pcExtErrPhysrcv .pcErrPhysrcv
  | .rcvSwitchRelayErrors => error .pcExtErrSwitchRel .pcErrSwitchRel
  | .xmitDiscards => error .pcExtXmtDiscards .pcXmtDiscards
  | .xmitConstraintErrors => error .pcExtErrXmtconstr .pcErrXmtconstr
  | .rcvConstraintErrors => error .pcExtErrRcvconstr .pcErrRcvconstr
  | .localLinkIntegrityErrors => error .pcExtErrLocalinteg .pcErrLocalinteg
  | .excessiveBufferOverrunErrors => error .pcExtErrExcessOvr .pcErrExcessOvr
  | .xmitWait => if p.isXmitWaitSupported then error .pcExtXmtWait .pcXmtWait else 0
  | .symbolErrors => (r.rest.decode32 .pcErrSym).toUInt64
  | .linkDowned => (r.rest.decode32 .pcLinkDowned).toUInt64
  | .linkRecoveries => (r.rest.decode32 .pcLinkRecovers).toUInt64
  | .vl15Dropped => (r.rest.decode32 .pcVl15Dropped).toUInt64
where
  cast (f : MadField) : UInt64 := if p.isExtendedWidthSupported then r.ext.decode64 f else 0
  error (f f' : MadField) : UInt64 :=
    if p.usesExtErrors build then r.ext.decode64 f else (r.errors.decode32 f').toUInt64

/-- Whether the port supports the counter at all; an unsupported one is never assigned. -/
def supports (p : IbPort) : PerfVar → Bool
  | .unicastXmitPkts | .unicastRcvPkts | .multicastXmitPkts | .multicastRcvPkts =>
    p.isExtendedWidthSupported
  | .xmitWait => p.isXmitWaitSupported
  | _ => true

/-- The three parts of `refreshCounters`. -/
inductive Part where
  | extended | errors | rest
  deriving DecidableEq

/-- The part that assigns the variable. -/
def part : PerfVar → Part
  | .symbolErrors | .linkDowned | .linkRecoveries | .vl15Dropped => .rest
  | .rcvErrors | .rcvRemotePhysicalErrors | .rcvSwitchRelayErrors | .xmitDiscards
  | .xmitConstraintErrors | .rcvConstraintErrors | .localLinkIntegrityErrors
  | .excessiveBufferOverrunErrors | .xmitWait => .errors
  | _ => .extended

/-- The number of the query that has to succeed before the variable is assigned. -/
def query (build : Build) (p : IbPort) (v : PerfVar) : ℕ :=
  match part v with
  | .extended => 0
  | .errors => if p.usesExtErrors build then 0 else 1
  | .rest => 2

/-- The port with other values in its variables. -/
def withCounters (p : IbPort) (c : PerfCounters) : IbPort := { p with counters := c }

@[simp] theorem withCounters_counters (p : IbPort) (c : PerfCounters) :
    (p.withCounters c).counters = c := rfl

@[simp] theorem withCounters_withCounters (p : IbPort) (c d : PerfCounters) :
    (p.withCounters c).withCounters d = p.withCounters d := rfl

theorem withCounters_self (p : IbPort) : p.withCounters p.counters = p := rfl

/-- The port after a refresh in which the queries with a number below `k` succeeded. -/
def refreshedTo (build : Build) (p : IbPort) (r : Replies) (k : ℕ) : IbPort :=
  p.withCounters fun v =>
    if p.supports v && p.query build v < k then reading build p r v else p.counters v

/-! ### The parts -/

/-- The counters after the fields of a table were decoded. -/
def decoded (value : MadField → UInt64) (fields : List (PerfVar × MadField))
    (c : PerfCounters) : PerfCounters :=
  fields.foldl (fun c e => Function.update c e.1 (value e.2)) c

@[simp] theorem run_assign (v : PerfVar) (x : UInt64) (p : IbPort) : (assign v x).run p =
    ⟨.ok (), p.withCounters (Function.update p.counters v x), []⟩ := rfl

theorem run_assignments (value : MadField → UInt64) (fields : List (PerfVar × MadField))
    (p : IbPort) : (fields.forM fun e => assign e.1 (value e.2)).run p =
      ⟨.ok (), p.withCounters (decoded value fields p.counters), []⟩ := by
  induction fields generalizing p with
  | nil => rfl
  | cons e fields ih =>
    change Eff.andThen ((assign e.1 (value e.2)).run p)
      (fun _ => fields.forM fun e => assign e.1 (value e.2)) = _
    rw [run_assign, Eff.andThen_ok, ih]
    rfl

@[simp] theorem run_decode64 (buf : MadBuf) (fields : List (PerfVar × MadField)) (p : IbPort) :
    (decode64 buf fields).run p =
      ⟨.ok (), p.withCounters (decoded buf.decode64 fields p.counters), []⟩ :=
  run_assignments buf.decode64 fields p

@[simp] theorem run_decode32 (buf : MadBuf) (fields : List (PerfVar × MadField)) (p : IbPort) :
    (decode32 buf fields).run p = ⟨.ok (), p.withCounters
      (decoded (fun f => (buf.decode32 f).toUInt64) fields p.counters), []⟩ :=
  run_assignments (fun f => (buf.decode32 f).toUInt64) fields p

section Parts

variable (build : Build) (a : MadAnswers) (p : IbPort) (r : Replies) (c : PerfCounters)

/-- The counters after one part has read the supported ones among its variables. -/
def readPart (q : Part) : PerfCounters := fun v =>
  if part v = q ∧ p.supports v = true then reading build p r v else c v

theorem returns_refreshExtended
    (h : a.pma 0 p.portId p.portNum .gsiPortCountersExt = some r.ext) :
    Eff.Returns (refreshExtended a p) (p.withCounters c) r.ext
      (p.withCounters (readPart build p r c .extended)) := by
  cases wide : p.isExtendedWidthSupported with
  | false =>
    simp only [Eff.Returns, refreshExtended, pmaQueryVia, h, wide]
    refine ⟨by simp, congrArg p.withCounters (funext fun v => ?_)⟩
    cases v <;> simp [readPart, supports, part, reading, wide]
  | true =>
    simp only [Eff.Returns, refreshExtended, pmaQueryVia, h, wide]
    refine ⟨by simp, congrArg p.withCounters (funext fun v => ?_)⟩
    cases v <;> simp [readPart, decoded, packetFields, supports, part, reading, reading.cast, wide]

theorem returns_refreshErrors
    (h : p.usesExtErrors build = false →
      a.pma 1 p.portId p.portNum .gsiPortCounters = some r.errors) :
    Eff.Returns (refreshErrors build a p r.ext) (p.withCounters c) ()
      (p.withCounters (readPart build p r c .errors)) := by
  cases path : p.usesExtErrors build with
  | true =>
    cases wait : p.isXmitWaitSupported
    · simp only [Eff.Returns, refreshErrors, path, wait]
      refine ⟨by simp, congrArg p.withCounters (funext fun v => ?_)⟩
      cases v <;> simp [readPart, supports, part, reading, reading.error, path, wait]
    · simp only [Eff.Returns, refreshErrors, path, wait]
      refine ⟨by simp, congrArg p.withCounters (funext fun v => ?_)⟩
      cases v <;> simp [readPart, decoded, extErrorFields, supports, part, reading, reading.error,
        path, wait]
  | false =>
    cases wait : p.isXmitWaitSupported
    · simp only [Eff.Returns, refreshErrors, pmaQueryVia, path, wait, h path]
      refine ⟨by simp, congrArg p.withCounters (funext fun v => ?_)⟩
      cases v <;> simp [readPart, supports, part, reading, reading.error, path, wait]
    · simp only [Eff.Returns, refreshErrors, pmaQueryVia, path, wait, h path]
      refine ⟨by simp, congrArg p.withCounters (funext fun v => ?_)⟩
      cases v <;> simp [readPart, decoded, errorFields, supports, part, reading, reading.error,
        path, wait]

theorem returns_refreshRest (h : a.pma 2 p.portId p.portNum .gsiPortCounters = some r.rest) :
    Eff.Returns (refreshRest a p) (p.withCounters c) ()
      (p.withCounters (readPart build p r c .rest)) := by
  simp only [Eff.Returns, refreshRest, pmaQueryVia, h]
  refine ⟨by simp, congrArg p.withCounters (funext fun v => ?_)⟩
  cases v <;> simp [readPart, supports, part, reading]

theorem throws_refreshExtended
    (h : a.pma 0 p.portId p.portNum .gsiPortCountersExt = none) (s : IbPort) :
    Eff.Throws (refreshExtended a p) s
      (.ibMadException "Failed to query extended performance counters!") s := by
  simp [Eff.Throws, refreshExtended, pmaQueryVia, h]

theorem throws_refreshErrors (path : p.usesExtErrors build = false)
    (h : a.pma 1 p.portId p.portNum .gsiPortCounters = none) (ext : MadBuf) (s : IbPort) :
    Eff.Throws (refreshErrors build a p ext) s
      (.ibMadException "Failed to query performance counters!") s := by
  simp [Eff.Throws, refreshErrors, pmaQueryVia, path, h]

theorem throws_refreshRest (h : a.pma 2 p.portId p.portNum .gsiPortCounters = none)
    (s : IbPort) : Eff.Throws (refreshRest a p) s
      (.ibMadException "Failed to query performance counters!") s := by
  simp [Eff.Throws, refreshRest, pmaQueryVia, h]

end Parts

section Stages

variable (build : Build) (p : IbPort) (r : Replies)

theorem refreshedTo_zero : p.refreshedTo build r 0 = p := by
  simp [refreshedTo, withCounters_self]

/-- One query further, one part more. -/
theorem refreshedTo_one (path : p.usesExtErrors build = false) :
    p.refreshedTo build r 1 = p.withCounters (readPart build p r p.counters .extended) := by
  refine congrArg p.withCounters (funext fun v => ?_)
  cases h : part v <;> simp [query, readPart, h, path]

theorem refreshedTo_two :
    p.refreshedTo build r 2 =
      p.withCounters (readPart build p r (readPart build p r p.counters .extended) .errors) := by
  refine congrArg p.withCounters (funext fun v => ?_)
  cases h : part v
  · simp [query, readPart, h]
  · simp only [query, readPart, h]
    cases p.usesExtErrors build <;> simp
  · simp [query, readPart, h]

theorem refreshedTo_three :
    p.refreshedTo build r 3 = p.withCounters (readPart build p r
      (readPart build p r (readPart build p r p.counters .extended) .errors) .rest) := by
  refine congrArg p.withCounters (funext fun v => ?_)
  cases h : part v
  · simp [query, readPart, h]
  · simp only [query, readPart, h]
    cases p.usesExtErrors build <;> simp
  · simp [query, readPart, h]

end Stages

/-- How a refresh can end: at one of its queries, with the variables assigned that do not need
it or a later one, or normally. -/
inductive RefreshEnds (build : Build) (a : MadAnswers) (p : IbPort) (r : Replies) : Prop where
  | noExt (ext : a.pma 0 p.portId p.portNum .gsiPortCountersExt = none)
      (ends : Eff.Throws (refreshCounters build a) p
        (.ibMadException "Failed to query extended performance counters!")
        (p.refreshedTo build r 0))
  | noErrors (ext : a.pma 0 p.portId p.portNum .gsiPortCountersExt = some r.ext)
      (path : p.usesExtErrors build = false)
      (errors : a.pma 1 p.portId p.portNum .gsiPortCounters = none)
      (ends : Eff.Throws (refreshCounters build a) p
        (.ibMadException "Failed to query performance counters!") (p.refreshedTo build r 1))
  | noRest (ext : a.pma 0 p.portId p.portNum .gsiPortCountersExt = some r.ext)
      (errors : p.usesExtErrors build = false →
        a.pma 1 p.portId p.portNum .gsiPortCounters = some r.errors)
      (rest : a.pma 2 p.portId p.portNum .gsiPortCounters = none)
      (ends : Eff.Throws (refreshCounters build a) p
        (.ibMadException "Failed to query performance counters!") (p.refreshedTo build r 2))
  | done (ext : a.pma 0 p.portId p.portNum .gsiPortCountersExt = some r.ext)
      (errors : p.usesExtErrors build = false →
        a.pma 1 p.portId p.portNum .gsiPortCounters = some r.errors)
      (rest : a.pma 2 p.portId p.portNum .gsiPortCounters = some r.rest)
      (ends : Eff.Returns (refreshCounters build a) p () (p.refreshedTo build r 3))

variable {build : Build} {a : MadAnswers} {p : IbPort}

theorem returns_refreshCounters {u : IbPort} : Eff.Returns (refreshCounters build a) p () u ↔
    ∃ ext t, Eff.Returns (refreshExtended a p) p ext t ∧
      ∃ t', Eff.Returns (refreshErrors build a p ext) t () t' ∧
        Eff.Returns (refreshRest a p) t' () u := by
  simp [refreshCounters, Eff.returns_bind, Unique.exists_iff]

theorem throws_refreshCounters {e : IbPerfException} {u : IbPort} :
    Eff.Throws (refreshCounters build a) p e u ↔
      Eff.Throws (refreshExtended a p) p e u ∨
      ∃ ext t, Eff.Returns (refreshExtended a p) p ext t ∧
        (Eff.Throws (refreshErrors build a p ext) t e u ∨
          ∃ t', Eff.Returns (refreshErrors build a p ext) t () t' ∧
            Eff.Throws (refreshRest a p) t' e u) := by
  simp [refreshCounters, Eff.throws_bind, Unique.exists_iff]

/-- Every refresh ends in one of these ways. -/
theorem refreshCounters_ends : ∃ r, RefreshEnds build a p r := by
  have unread : MadBuf := ⟨fun _ => 0, fun _ => 0, fun _ => 0⟩
  cases hext : a.pma 0 p.portId p.portNum .gsiPortCountersExt with
  | none =>
    refine ⟨⟨unread, unread, unread⟩, .noExt hext ?_⟩
    rw [refreshedTo_zero]
    exact throws_refreshCounters.mpr (.inl (throws_refreshExtended a p hext p))
  | some ext =>
    by_cases second : p.usesExtErrors build = false ∧
        a.pma 1 p.portId p.portNum .gsiPortCounters = none
    · obtain ⟨path, herrors⟩ := second
      let r : Replies := ⟨ext, unread, unread⟩
      refine ⟨r, .noErrors hext path herrors ?_⟩
      rw [refreshedTo_one build p r path]
      exact throws_refreshCounters.mpr (.inr ⟨_, _,
        returns_refreshExtended build a p r p.counters hext,
        .inl (throws_refreshErrors build a p path herrors _ _)⟩)
    · have answered : ∃ errors, p.usesExtErrors build = false →
          a.pma 1 p.portId p.portNum .gsiPortCounters = some errors := by
        cases h : a.pma 1 p.portId p.portNum .gsiPortCounters with
        | none => exact ⟨unread, fun path => absurd ⟨path, h⟩ second⟩
        | some errors => exact ⟨errors, fun _ => rfl⟩
      obtain ⟨errors, herrors⟩ := answered
      cases hrest : a.pma 2 p.portId p.portNum .gsiPortCounters with
      | none =>
        let r : Replies := ⟨ext, errors, unread⟩
        refine ⟨r, .noRest hext herrors hrest ?_⟩
        rw [refreshedTo_two build p r]
        exact throws_refreshCounters.mpr (.inr ⟨_, _,
          returns_refreshExtended build a p r p.counters hext, .inr ⟨_,
          returns_refreshErrors build a p r _ herrors, throws_refreshRest a p hrest _⟩⟩)
      | some rest =>
        let r : Replies := ⟨ext, errors, rest⟩
        refine ⟨r, .done hext herrors hrest ?_⟩
        rw [refreshedTo_three build p r]
        exact returns_refreshCounters.mpr ⟨_, _,
          returns_refreshExtended build a p r p.counters hext, _,
          returns_refreshErrors build a p r _ herrors,
          returns_refreshRest build a p r _ hrest⟩

/-- The queries of a refresh succeed, and these are their replies. -/
structure Answers (build : Build) (a : MadAnswers) (p : IbPort) (r : Replies) : Prop where
  ext : a.pma 0 p.portId p.portNum .gsiPortCountersExt = some r.ext
  errors : p.usesExtErrors build = false →
    a.pma 1 p.portId p.portNum .gsiPortCounters = some r.errors
  rest : a.pma 2 p.portId p.portNum .gsiPortCounters = some r.rest

/-- A refresh returns exactly when its queries succeed, and then has read all their replies. -/
theorem returns_refreshCounters_iff {q : IbPort} :
    Eff.Returns (refreshCounters build a) p () q ↔
      ∃ r, Answers build a p r ∧ q = p.refreshedTo build r 3 := by
  constructor
  · intro h
    obtain ⟨r, ends⟩ : ∃ r, RefreshEnds build a p r := refreshCounters_ends
    cases ends with
    | noExt _ ends => exact absurd ends h.not_throws
    | noErrors _ _ _ ends => exact absurd ends h.not_throws
    | noRest _ _ _ ends => exact absurd ends h.not_throws
    | done ext errors rest ends => exact ⟨r, ⟨ext, errors, rest⟩, (h.unique ends).2⟩
  · rintro ⟨r, ⟨ext, errors, rest⟩, rfl⟩
    rw [refreshedTo_three]
    exact returns_refreshCounters.mpr ⟨_, _,
      returns_refreshExtended build a p r p.counters ext, _,
      returns_refreshErrors build a p r _ errors, returns_refreshRest build a p r _ rest⟩

/-- A refresh that throws has assigned what the first `k` queries provide, for some `k` below
3. -/
theorem throws_refreshCounters_cases {e : IbPerfException} {q : IbPort}
    (h : Eff.Throws (refreshCounters build a) p e q) :
    ∃ r k, k < 3 ∧ q = p.refreshedTo build r k := by
  obtain ⟨r, ends⟩ : ∃ r, RefreshEnds build a p r := refreshCounters_ends
  cases ends with
  | noExt _ ends => exact ⟨r, 0, by omega, h.2.symm.trans ends.2⟩
  | noErrors _ _ _ ends => exact ⟨r, 1, by omega, h.2.symm.trans ends.2⟩
  | noRest _ _ _ ends => exact ⟨r, 2, by omega, h.2.symm.trans ends.2⟩
  | done _ _ _ ends => exact absurd h ends.not_throws

/-! ## What the constructor does -/

theorem returns_acquire {kind : HandleKind} {granted : Bool} {call : Option Handle → ExtCall}
    {m m' : ℕ} {h : Option Handle} : Eff.Returns (acquire kind granted call) m h m' ↔
      h = (if granted then some ⟨kind, m⟩ else none) ∧ m' = if granted then m + 1 else m := by
  simp [acquire, Eff.returns_bind, and_comm]

/-- What the constructor makes of its replies, on the MAD port with number `m`. -/
def built (build : Build) (lid : UInt16) (portNum : UInt8) (m : ℕ) (pmaQueryBuf nodeInfo
    portInfo : MadBuf) : IbPort where
  counters := IbPerfCounter.init
  lid := lid
  portNum := portNum
  linkWidth := calcLinkWidth (decode8 build.byteOrder portInfo .portLinkWidthActive)
  madPort := some ⟨.madPort, m⟩
  portId := ibPortidSet lid 0 0
  nodeType := nodeInfo.decode32 .nodeType
  isExtendedWidthSupported :=
    (memcpy16 build.byteOrder pmaQueryBuf.byte 2 &&& ibPmExtWidthSupported build.byteOrder) != 0
  isAdditionalExtendedPortCountersSupported :=
    (htonl build.byteOrder
      (htonl build.byteOrder (memcpy32 build.byteOrder pmaQueryBuf.byte 4) >>> 5) &&&
        ibPmIsAddlPortCtrsExtSup build.byteOrder) != 0
  isXmitWaitSupported :=
    (memcpy16 build.byteOrder pmaQueryBuf.byte 2 &&& ibPmPcXmitWaitSup build.byteOrder) != 0

/-- The constructor returns when the MAD port is opened and its three queries are answered. -/
theorem returns_create_iff {lid : UInt16} {portNum : UInt8} {m m' : ℕ} :
    Eff.Returns (create build a lid portNum) m p m' ↔
      (a.openPort = true ∧ m' = m + 1) ∧ ∃ pmaQueryBuf nodeInfo portInfo,
        a.pma 0 (ibPortidSet lid 0 0) 0 .classPortInfo = some pmaQueryBuf ∧
        a.smp (ibPortidSet lid 0 0) .nodeInfo 0 = some nodeInfo ∧
        a.smp (ibPortidSet lid 0 0) .portInfo 0 = some portInfo ∧
        p = built build lid portNum m pmaQueryBuf nodeInfo portInfo := by
  simp only [create, pmaQueryVia, smpQueryVia, Eff.returns_bind, returns_acquire, Eff.returns_emit,
    Eff.returns_ensure, Eff.returns_require, Eff.returns_pure]
  constructor
  · rintro ⟨_, _, ⟨rfl, rfl⟩, _, _, ⟨opened, rfl⟩, pmaBuf, _, ⟨_, _, rfl, pma, rfl⟩, nodeBuf, _,
      ⟨_, _, rfl, node, rfl⟩, portBuf, _, ⟨_, _, rfl, port, rfl⟩, rfl, rfl⟩
    cases granted : a.openPort with
    | false => simp [granted] at opened
    | true => exact ⟨⟨rfl, rfl⟩, pmaBuf, nodeBuf, portBuf, pma, node, port, rfl⟩
  · rintro ⟨⟨granted, rfl⟩, pmaBuf, nodeBuf, portBuf, pma, node, port, rfl⟩
    refine ⟨some ⟨.madPort, m⟩, m + 1, by simp [granted], (), m + 1, ⟨rfl, rfl⟩, pmaBuf, m + 1,
      ⟨(), m + 1, rfl, pma, rfl⟩, nodeBuf, m + 1, ⟨(), m + 1, rfl, node, rfl⟩, portBuf, m + 1,
      ⟨(), m + 1, rfl, port, rfl⟩, rfl, rfl⟩

/-- What a constructor that returned has built. -/
theorem returns_create {lid : UInt16} {portNum : UInt8} {m m' : ℕ}
    (h : Eff.Returns (create build a lid portNum) m p m') :
    p.counters = IbPerfCounter.init ∧ p.lid = lid ∧ p.portNum = portNum ∧
      p.madPort = some ⟨.madPort, m⟩ ∧ p.portId = ibPortidSet lid 0 0 ∧
      ∃ activeWidth, p.linkWidth = calcLinkWidth activeWidth := by
  obtain ⟨-, pmaBuf, nodeBuf, portBuf, -, -, -, rfl⟩ := returns_create_iff.mp h
  exact ⟨rfl, rfl, rfl, rfl, rfl, _, rfl⟩

/-- The link width is the one that the reply for the port information shows. -/
theorem linkWidth_of_create {lid : UInt16} {portNum : UInt8} {m m' : ℕ} {buf : MadBuf}
    (h : Eff.Returns (create build a lid portNum) m p m')
    (answered : a.smp (ibPortidSet lid 0 0) .portInfo 0 = some buf) :
    p.linkWidth = calcLinkWidth (decode8 build.byteOrder buf .portLinkWidthActive) := by
  obtain ⟨-, pmaBuf, nodeBuf, portBuf, -, -, shown, rfl⟩ := returns_create_iff.mp h
  obtain rfl : buf = portBuf := Option.some.inj (answered.symm.trans shown)
  rfl

/-! ## What a reset does -/

/-- A reset zeroes the variables however it ends, and returns when both requests succeed. -/
theorem run_resetCounters : ((resetCounters a).run p).state = p.withCounters (fun _ => 0) ∧
    (((resetCounters a).run p).result = .ok () ↔
      a.reset p.portId p.portNum 0xffffffff .gsiPortCounters = true ∧
        a.reset p.portId p.portNum 0xffffffff .gsiPortCountersExt = true) := by
  rw [← IbPerfCounter.resetVariables_eq p.counters]
  cases h : a.reset p.portId p.portNum 0xffffffff .gsiPortCounters
  all_goals
    cases h' : a.reset p.portId p.portNum 0xffffffff .gsiPortCountersExt
    all_goals simp [resetCounters, performanceResetVia, h, h', withCounters]

end IbPort

end Detector
