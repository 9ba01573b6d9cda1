import Mathlib.Data.List.ReduceOption
import Detector.Identity
import Detector.Library.History
import Detector.LocalDiscovery

/-!
# Which handles the external functions get

An external function may only be called with a handle that was really given out: a context that
`ibv_open_device` returned, a MAD port that `mad_rpc_open_port` returned. This module follows the
calls through the constructors, through every run of member functions, and to the destructor.
The constructor of a local node tests the device where it means the context, so it goes on with
a context that could not be opened. That is the only way for a null pointer to get into a call.
-/
namespace Detector

open Cpp

/-- The handle that a call takes, and the function that gives out such handles. -/
def ExtCall.argument : ExtCall → Option ((Option Handle → ExtCall) × Option Handle)
  | .ibvQueryDevice h | .ibvQueryPort h _ | .ibvCloseDevice h => some (.ibvOpenDevice, h)
  | .pmaQueryVia _ _ _ h | .smpQueryVia _ _ _ h | .performanceResetVia _ _ _ _ h
  | .madRpcClosePort h => some (.madRpcOpenPort, h)
  | .ibvFreeDeviceList h => some (.ibvGetDeviceList, h)
  | .ibndDestroyFabric h => some (.ibndDiscoverFabric, h)
  | .ibvOpenDevice _ | .madRpcOpenPort _ | .ibvGetDeviceList _ | .ibndDiscoverFabric _ => none

/-- The functions that take the context of a device. -/
def ExtCall.takesContext : ExtCall → Bool
  | .ibvQueryDevice _ | .ibvQueryPort _ _ | .ibvCloseDevice _ => true
  | _ => false

/-- The handle is not null, and one of these calls gave it out. -/
def Given (calls : List ExtCall) (source : Option Handle → ExtCall) (h : Option Handle) : Prop :=
  ∃ x, h = some x ∧ source (some x) ∈ calls

/-- The call takes no handle, or one that an earlier call gave out. -/
def OnOpenHandle (before : List ExtCall) (c : ExtCall) : Prop :=
  ∀ source h, c.argument = some (source, h) → Given before source h

/-- The same, except that contexts may be anything unless `opens` holds. -/
def Careful (opens : Prop) (before : List ExtCall) (c : ExtCall) : Prop :=
  (c.takesContext = true → opens) → OnOpenHandle before c

section Rules

variable {opens : Prop} {before : List ExtCall} {c : ExtCall}

theorem Given.grow {after : List ExtCall} {source : Option Handle → ExtCall} {h : Option Handle}
    (sub : before ⊆ after) (given : Given before source h) : Given after source h := by
  obtain ⟨x, rfl, made⟩ := given
  exact ⟨x, rfl, sub made⟩

theorem grows_onOpenHandle : Grows OnOpenHandle := fun _ _ _ sub allowed source h argument =>
  (allowed source h argument).grow sub

theorem onOpenHandle_of_given {source : Option Handle → ExtCall} {h : Option Handle}
    (argument : c.argument = some (source, h)) (given : Given before source h) :
    OnOpenHandle before c := by
  intro source' h' same
  obtain ⟨rfl, rfl⟩ := Prod.mk.inj (Option.some.inj (argument.symm.trans same))
  exact given

theorem careful_of_free (argument : c.argument = none) : Careful opens before c := by
  intro _ source h same
  rw [argument] at same
  cases same

variable {σ α : Type} {post : α → List ExtCall → Prop}

/-- A library is asked for a handle. -/
theorem obeys_acquire_then {kind : HandleKind} {granted : Bool} {call : Option Handle → ExtCall}
    {f : Option Handle → Method ℕ α} (free : ∀ h, (call h).argument = none)
    (rest : ∀ h after, before ⊆ after → h.isSome = granted →
      (granted = true → Given after call h) → Eff.Obeys (Careful opens) after (f h) post) :
    Eff.Obeys (Careful opens) before (acquire kind granted call >>= f) post := by
  have first : Eff.Obeys (Careful opens) before (acquire kind granted call)
      fun h after => h.isSome = granted ∧ (granted = true → Given after call h) := by
    intro m
    cases granted with
    | false =>
      refine ⟨.cons (careful_of_free (free none)) .nil, fun h ends => ?_⟩
      obtain rfl := Except.ok.inj ends
      exact ⟨rfl, fun given => by cases given⟩
    | true =>
      refine ⟨.cons (careful_of_free (free (some ⟨kind, m⟩))) .nil, fun h ends => ?_⟩
      obtain rfl := Except.ok.inj ends
      have made : call (some ⟨kind, m⟩) ∈ before ++ [call (some ⟨kind, m⟩)] := by simp
      exact ⟨rfl, fun _ => ⟨⟨kind, m⟩, rfl, made⟩⟩
  exact first.bind fun h after sub given => rest h after sub given.1 given.2

theorem obeys_pmaQueryVia (a : MadAnswers) (n : ℕ) (dest : IbPortId) (port : UInt8)
    (attr : MadAttr) {srcport : Option Handle} (message : String)
    (given : Given before .madRpcOpenPort srcport) :
    Eff.Obeys (Careful opens) before
      (pmaQueryVia a n dest port attr srcport message : Method σ MadBuf) fun _ _ => True := by
  refine .emit_then (fun _ => onOpenHandle_of_given rfl given) ?_
  exact .require _ _

theorem obeys_smpQueryVia (a : MadAnswers) (dest : IbPortId) (attr : MadAttr) (mod : UInt32)
    {srcport : Option Handle} (message : String) (given : Given before .madRpcOpenPort srcport) :
    Eff.Obeys (Careful opens) before
      (smpQueryVia a dest attr mod srcport message : Method σ MadBuf) fun _ _ => True := by
  refine .emit_then (fun _ => onOpenHandle_of_given rfl given) ?_
  exact .require _ _

theorem obeys_orThrow_then {β : Type} {answer : Except String β} {e : String → IbPerfException}
    {f : β → Method σ α} (rest : ∀ b, Eff.Obeys (Careful opens) before (f b) post) :
    Eff.Obeys (Careful opens) before (orThrow answer e >>= f) post := by
  cases answer with
  | error text => exact Eff.Obeys.throw (e text)
  | ok b => exact rest b

end Rules

/-! ## What is built -/

/-- A MAD port was given out; a compatibility port has none. -/
def Port.Opened (before : List ExtCall) : Port → Prop
  | .mad p => Given before .madRpcOpenPort p.madPort
  | .compat p => p.madPort = none

def IbNode.Opened (before : List ExtCall) (n : IbNode) : Prop := ∀ p ∈ n.ports, p.Opened before

structure IbFabric.Opened (before : List ExtCall) (f : IbFabric) : Prop where
  fabric : f.fabric.isSome = true → Given before .ibndDiscoverFabric f.fabric
  nodes : ∀ n ∈ f.nodes, n.Opened before

theorem Port.grows_opened : Grows Port.Opened := by
  intro before after p sub opened
  cases p with
  | mad p => exact Given.grow sub opened
  | compat p => exact opened

theorem IbNode.grows_opened : Grows IbNode.Opened := fun _ _ _ sub opened p hp =>
  Port.grows_opened _ _ p sub (opened p hp)

section Construction

variable {opens : Prop} {before : List ExtCall}

theorem IbPort.create_obeys (build : Build) (a : MadAnswers) (lid : UInt16) (portNum : UInt8) :
    Eff.Obeys (Careful opens) before (create build a lid portNum)
      fun p after => Given after .madRpcOpenPort p.madPort := by
  refine obeys_acquire_then (fun _ => rfl) fun madPort after _ isSome given => ?_
  refine .ensure_then fun opened => ?_
  replace given := given (isSome.symm.trans opened)
  refine (obeys_pmaQueryVia a _ _ _ _ _ given).bind fun pmaBuf after' sub _ => ?_
  replace given := given.grow sub
  refine (obeys_smpQueryVia a _ _ _ _ given).bind fun nodeBuf after' sub _ => ?_
  replace given := given.grow sub
  refine (obeys_smpQueryVia a _ _ _ _ given).bind fun portBuf after' sub _ => ?_
  exact .pure (given.grow sub)

theorem IbPortCompat.create_obeys (readable : String → Bool) (deviceName : String)
    (attributes : IbvPortAttr) (portNum : UInt8) :
    Eff.Obeys (Careful opens) before (create readable deviceName attributes portNum)
      fun p _ => p.madPort = none :=
  .ensure_then fun _ => .pure rfl

namespace IbNode

theorem createPort_obeys (build : Build) (device : IbvDevice) (compat : Bool)
    (attributes : IbvPortAttr) (portNum : UInt8) :
    Eff.Obeys (Careful opens) before (createPort build device compat attributes portNum)
      fun p after => p.Opened after := by
  cases compat with
  | false => exact (IbPort.create_obeys build _ _ _).bind fun p after _ given => .pure given
  | true => exact (IbPortCompat.create_obeys _ _ _ _).bind fun p after _ none => .pure none

/-- One iteration of the loop over the ports of a local device. -/
theorem queryAndCreatePort_obeys (build : Build) (device : IbvDevice) (compat : Bool)
    {context : Option Handle} (given : opens → Given before .ibvOpenDevice context) (i : UInt8) :
    Eff.Obeys (Careful opens) before (queryAndCreatePort build device compat context i)
      fun p after => p.Opened after := by
  refine .emit_then (fun hyp => onOpenHandle_of_given rfl (given (hyp rfl))) ?_
  exact obeys_orThrow_then fun attributes => createPort_obeys build device compat attributes _

end IbNode

/-- A valid entry of the device list whose context can be opened. -/
def IbvDevice.Opens (d : IbvDevice) : Prop := d.isNull = false → d.openDevice = true

namespace IbNode

/-- The constructor of a local node is careful with its ports, and with its context when it could
be opened. -/
theorem ofDevice_obeys (build : Build) {device : IbvDevice} (compat : Bool)
    (opening : opens → device.Opens) :
    Eff.Obeys (Careful opens) before (ofDevice build device compat)
      fun n after => n.Opened after := by
  refine obeys_acquire_then (fun _ => rfl) fun context after _ _ given => ?_
  refine .ensure_then fun valid => ?_
  have opened : opens → Given after .ibvOpenDevice context := fun hyp =>
    given (opening hyp (by simpa using valid))
  refine .emit_then (fun hyp => onOpenHandle_of_given rfl (opened (hyp rfl))) ?_
  replace opened := fun hyp =>
    (opened hyp).grow (List.subset_append_left after [.ibvQueryDevice context])
  refine obeys_orThrow_then fun attr => ?_
  refine (Eff.Obeys.collect Port.grows_opened fun i _ last sub =>
    queryAndCreatePort_obeys build device compat (fun hyp => (opened hyp).grow sub) i).bind
    fun ports last sub made => ?_
  replace opened := fun hyp => (opened hyp).grow sub
  refine .emit_then (fun hyp => onOpenHandle_of_given rfl (opened (hyp rfl))) (.pure ?_)
  exact fun p hp => Port.grows_opened _ _ p (List.subset_append_left last _) (made p hp)

theorem ofNetwork_obeys (build : Build) (node : IbndNode) :
    Eff.Obeys (Careful opens) before (ofNetwork build node) fun n after => n.Opened after := by
  have each : ∀ i after, Eff.Obeys (Careful opens) after (createNetworkPort build node i)
      fun o last => ∀ p ∈ o, p.Opened last := by
    intro i after
    unfold createNetworkPort
    cases node.ports (i.toNat + 1) with
    | none => exact .pure (by simp)
    | some port =>
      refine (IbPort.create_obeys build _ _ _).bind fun p last _ given => .pure fun q hq => ?_
      obtain rfl := Option.some.inj hq
      exact given
  have grows : Grows fun (after : List ExtCall) (o : Option Port) => ∀ p ∈ o, p.Opened after :=
    fun _ _ _ sub opened p hp => Port.grows_opened _ _ p sub (opened p hp)
  refine (Eff.Obeys.collect grows fun i _ after _ => each i after).bind fun ports after _ made => ?_
  refine .pure fun p hp => ?_
  exact made (some p) (List.reduceOption_mem_iff.mp hp) p rfl

end IbNode

end Construction

namespace DiscoveryAnswers

variable (a : DiscoveryAnswers)

/-- The local discovery gets to the device: no device in front of it stops the loop. -/
def Reaches (compatibility : Bool) (d : IbvDevice) : Prop :=
  ∃ pre post, a.deviceList = some (pre ++ d :: post) ∧ ∀ e ∈ pre, ¬ e.Stops compatibility

/-- Every valid device that the discovery gets to can be opened, or the discovery is not a local
one. -/
def AllOpen (network compatibility : Bool) : Prop :=
  network = true ∧ compatibility = false ∨ ∀ d, a.Reaches compatibility d → d.Opens

end DiscoveryAnswers

namespace IbFabric

section Discovery

variable {opens : Prop} {before : List ExtCall}

theorem discoverLocalDevices_obeys (build : Build) (a : DiscoveryAnswers) (compatibility : Bool)
    (opening : opens → ∀ d, a.Reaches compatibility d → d.Opens) :
    Eff.Obeys (Careful opens) before (discoverLocalDevices build a compatibility)
      fun nodes after => ∀ n ∈ nodes, n.Opened after := by
  refine obeys_acquire_then (fun _ => rfl) fun list after _ _ given => ?_
  refine .require_then fun devices listed => ?_
  replace given := given (by simp [listed])
  have grows : Grows fun (after : List ExtCall) (o : Option IbNode) => ∀ n ∈ o, n.Opened after :=
    fun _ _ _ sub opened n hn => IbNode.grows_opened _ _ n sub (opened n hn)
  have each : ∀ pre d rest, devices = pre ++ d :: rest → (∀ e ∈ pre, ¬ e.Stops compatibility) →
      ∀ last, after ⊆ last → Eff.Obeys (Careful opens) last
        (Eff.attempt isVerbs (IbNode.ofDevice build d compatibility))
        fun o last => (∀ n ∈ o, n.Opened last) ∧ ¬ d.Stops compatibility := by
    intro pre d rest split passed last _
    have opened : opens → d.Opens := fun hyp => opening hyp d ⟨pre, rest, split ▸ listed, passed⟩
    have obeys : Eff.Obeys (Careful opens) last (IbNode.ofDevice build d compatibility) _ :=
      IbNode.ofDevice_obeys build compatibility opened
    exact (obeys.attempt isVerbs).and_of_returns fun _ _ _ ends => (of_returns_attempt ends).1
  refine (Eff.Obeys.collect_reached grows each).bind fun nodes last sub made => ?_
  refine .emit_then (fun _ => onOpenHandle_of_given rfl (given.grow sub)) (.pure fun n hn => ?_)
  have opened := made (some n) (List.reduceOption_mem_iff.mp hn) n rfl
  exact IbNode.grows_opened _ _ n (List.subset_append_left last _) opened

theorem discoverNetwork_obeys (build : Build) (a : DiscoveryAnswers) :
    Eff.Obeys (Careful opens) before (discoverNetwork build a) fun found after =>
      (found.1.isSome = true → Given after .ibndDiscoverFabric found.1) ∧
        ∀ n ∈ found.2, n.Opened after := by
  refine obeys_acquire_then (fun _ => rfl) fun fabric after _ _ given => ?_
  refine .require_then fun list found => ?_
  replace given := given (by simp [found])
  refine (Eff.Obeys.collect IbNode.grows_opened fun node _ _ _ =>
    IbNode.ofNetwork_obeys build node).bind fun nodes last sub made => ?_
  exact .pure ⟨fun _ => given.grow sub, made⟩

/-- The constructor of the fabric is careful, and what it builds was opened. -/
theorem create_obeys (std : StdSort IbNode) (build : Build) (a : DiscoveryAnswers)
    (network compatibility : Bool) :
    Eff.Obeys (Careful (a.AllOpen network compatibility)) []
      (create std build a network compatibility) fun f after => f.Opened after := by
  have found : Eff.Obeys (Careful (a.AllOpen network compatibility)) []
      (discoverFabric build a network compatibility) fun found after =>
        (found.1.isSome = true → Given after .ibndDiscoverFabric found.1) ∧
          ∀ n ∈ found.2, n.Opened after := by
    cases compatibility with
    | true =>
      refine (discoverLocalDevices_obeys build a true ?_).bind fun nodes after _ made =>
        .pure ⟨by simp, made⟩
      rintro (⟨-, contra⟩ | allOpen)
      · cases contra
      · exact allOpen
    | false =>
      cases network with
      | true => exact discoverNetwork_obeys build a
      | false =>
        refine (discoverLocalDevices_obeys build a false ?_).bind fun nodes after _ made =>
          .pure ⟨by simp, made⟩
        rintro (⟨contra, -⟩ | allOpen)
        · cases contra
        · exact allOpen
  refine found.bind fun found after _ opened => .pure ⟨opened.1, fun n hn => ?_⟩
  exact opened.2 n ((std.perm lessDescription found.2 strictWeak_lessDescription).mem_iff.mp hn)

end Discovery

end IbFabric

/-! ## Member functions -/

section Calls

variable {before : List ExtCall}

/-- The calls of a MAD port are made on its MAD port. -/
theorem IbPort.makes_resetCounters (a : MadAnswers) {p : IbPort}
    (given : Given before .madRpcOpenPort p.madPort) :
    Eff.Makes (OnOpenHandle before) (resetCounters a) p := by
  have reset : ∀ attr message (q t : IbPort), Given before .madRpcOpenPort q.madPort →
      Eff.Makes (OnOpenHandle before) (performanceResetVia a q.portId q.portNum 0xffffffff attr
        q.madPort message) t := by
    intro attr message q t given
    refine (Eff.Makes.emit (onOpenHandle_of_given rfl given) t).bind fun _ u _ => ?_
    cases a.reset q.portId q.portNum 0xffffffff attr <;> exact .of_silent rfl
  refine (Eff.Makes.of_silent rfl).bind fun _ t zeroed => ?_
  refine (Eff.Makes.of_silent rfl).bind fun q u got => ?_
  obtain rfl := Eff.returns_modify.mp zeroed
  obtain ⟨rfl, rfl⟩ := Eff.returns_get.mp got
  exact (reset _ _ _ _ given).bind fun _ v _ => reset _ _ _ v given

theorem IbPort.makes_pmaQueryVia (a : MadAnswers) (n : ℕ) (p : IbPort) (attr : MadAttr)
    (message : String) (given : Given before .madRpcOpenPort p.madPort) (t : IbPort) :
    Eff.Makes (OnOpenHandle before) (pmaQueryVia a n p.portId p.portNum attr p.madPort message)
      t := by
  refine (Eff.Makes.emit (onOpenHandle_of_given rfl given) t).bind fun _ u _ => ?_
  cases a.pma n p.portId p.portNum attr <;> exact .of_silent rfl

theorem IbPort.silent_decode64 {Q : ExtCall → Prop} (buf : MadBuf)
    (fields : List (PerfVar × MadField)) (t : IbPort) : Eff.Makes Q (decode64 buf fields) t :=
  .forM (fun _ _ _ => .of_silent rfl) t

theorem IbPort.silent_decode32 {Q : ExtCall → Prop} (buf : MadBuf)
    (fields : List (PerfVar × MadField)) (t : IbPort) : Eff.Makes Q (decode32 buf fields) t :=
  .forM (fun _ _ _ => .of_silent rfl) t

theorem IbPort.makes_refreshExtended (a : MadAnswers) {p : IbPort}
    (given : Given before .madRpcOpenPort p.madPort) (t : IbPort) :
    Eff.Makes (OnOpenHandle before) (refreshExtended a p) t := by
  refine (makes_pmaQueryVia a _ p _ _ given t).bind fun ext _ _ => ?_
  refine (Eff.Makes.of_silent rfl).bind fun _ _ _ => ?_
  refine (Eff.Makes.of_silent rfl).bind fun _ _ _ => ?_
  refine (silent_decode64 ext _ _).bind fun _ _ _ => ?_
  cases p.isExtendedWidthSupported with
  | false => exact .of_silent rfl
  | true => exact (silent_decode64 ext _ _).bind fun _ _ _ => .of_silent rfl

theorem IbPort.makes_refreshErrors (build : Build) (a : MadAnswers) {p : IbPort}
    (given : Given before .madRpcOpenPort p.madPort) (ext : MadBuf) (t : IbPort) :
    Eff.Makes (OnOpenHandle before) (refreshErrors build a p ext) t := by
  unfold refreshErrors
  cases p.usesExtErrors build with
  | true =>
    refine (silent_decode64 ext _ _).bind fun _ _ _ => ?_
    cases p.isXmitWaitSupported with
    | false => exact .of_silent rfl
    | true => exact silent_decode64 ext _ _
  | false =>
    refine (makes_pmaQueryVia a _ p _ _ given t).bind fun buf _ _ => ?_
    refine (silent_decode32 buf _ _).bind fun _ _ _ => ?_
    cases p.isXmitWaitSupported with
    | false => exact .of_silent rfl
    | true => exact silent_decode32 buf _ _

theorem IbPort.makes_refreshCounters (build : Build) (a : MadAnswers) {p : IbPort}
    (given : Given before .madRpcOpenPort p.madPort) :
    Eff.Makes (OnOpenHandle before) (refreshCounters build a) p := by
  refine (Eff.Makes.of_silent rfl).bind fun q t got => ?_
  obtain ⟨rfl, rfl⟩ := Eff.returns_get.mp got
  refine (makes_refreshExtended a given t).bind fun ext u _ => ?_
  refine (makes_refreshErrors build a given ext u).bind fun _ v _ => ?_
  exact (makes_pmaQueryVia a _ _ _ _ given v).bind fun buf _ _ => silent_decode32 buf _ _

/-- A compatibility port reads files and makes no call at all. -/
theorem IbPortCompat.silent_resetCounters {Q : ExtCall → Prop} (io : Reads) (p : IbPortCompat) :
    Eff.Makes Q (resetCounters io) p := by
  have each : ∀ i (s : CounterFiles 21), Eff.Makes Q (CounterFiles.recordBase false io i) s :=
    fun i s => .of_silent (by rw [CounterFiles.run_recordBase_good false io rfl])
  exact Eff.Makes.forM (fun i _ => each i) p.reader

theorem IbPortCompat.silent_refreshCounters {Q : ExtCall → Prop} (io : Reads) (p : IbPortCompat) :
    Eff.Makes Q (refreshCounters io) p := by
  have each : ∀ e (s : FileCounters PerfVar 21),
      Eff.Makes Q (FileCounters.assign (scale p.linkWidth) io e) s := by
    intro e s
    cases h : (s.reader.files e.2).good with
    | false => exact .of_silent (by rw [FileCounters.run_assign_bad _ io s e h])
    | true => exact .of_silent (by rw [FileCounters.run_assign_good _ io s e h])
  refine (Eff.Makes.of_silent rfl).bind fun q t got => ?_
  obtain ⟨rfl, rfl⟩ := Eff.returns_get.mp got
  exact Eff.Makes.forM (fun e _ => each e) t.fileCounters

theorem Port.makes_resetCounters (io : PortIo) {p : Port} (opened : p.Opened before) :
    Eff.Makes (OnOpenHandle before) (resetCounters io) p := by
  cases p with
  | mad p => exact IbPort.makes_resetCounters io.mad opened
  | compat p => exact IbPortCompat.silent_resetCounters io.files p

theorem Port.makes_refreshCounters (build : Build) (io : PortIo) {p : Port}
    (opened : p.Opened before) :
    Eff.Makes (OnOpenHandle before) (refreshCounters build io) p := by
  cases p with
  | mad p => exact IbPort.makes_refreshCounters build io.mad opened
  | compat p => exact IbPortCompat.silent_refreshCounters io.files p

theorem Port.onOpenHandle_of_destroy {p : Port} (opened : p.Opened before) :
    ∀ c ∈ p.destroy, OnOpenHandle before c := by
  intro c hc
  cases p with
  | mad p =>
    obtain ⟨x, held, -⟩ := id opened
    simp only [destroy, IbPort.destroy, held, Option.isSome_some, if_true, List.mem_singleton] at hc
    rw [hc, ← held]
    exact onOpenHandle_of_given rfl opened
  | compat p =>
    have none : p.madPort = none := opened
    simp [destroy, IbPortCompat.destroy, IbPort.destroy, none] at hc

theorem IbNode.makes_resetCounters (io : NodeIo) {n : IbNode} (opened : n.Opened before) :
    Eff.Makes (OnOpenHandle before) (resetCounters io) n := by
  refine (Eff.Makes.of_silent rfl).bind fun _ m zeroed => ?_
  obtain rfl := Eff.returns_modify.mp zeroed
  exact Eff.Makes.visit fun p hp i _ => Port.makes_resetCounters (io i) (opened p hp)

theorem IbNode.makes_refreshCounters (build : Build) (io : NodeIo) {n : IbNode}
    (opened : n.Opened before) :
    Eff.Makes (OnOpenHandle before) (refreshCounters build io) n := by
  refine (Eff.Makes.of_silent rfl).bind fun _ m zeroed => ?_
  obtain rfl := Eff.returns_modify.mp zeroed
  refine Eff.Makes.visit fun p hp i c => ?_
  have refresh : Eff.Makes (OnOpenHandle before)
      (Eff.onItem (Port.refreshCounters build (io i)) : Method (Port × PerfCounters) Unit) (p, c) :=
    Port.makes_refreshCounters build (io i) (opened p hp)
  exact refresh.bind fun _ _ _ => .of_silent rfl

namespace IbFabric

theorem makes_onNode {i : ℕ} {x : Method IbNode Unit} {f : IbFabric}
    (h : ∀ n ∈ f.nodes, Eff.Makes (OnOpenHandle before) x n) :
    Eff.Makes (OnOpenHandle before) (onNode i x) f :=
  Eff.Makes.onNth h

/-- The calls of every member function are made on handles that the fabric has. -/
theorem makes_call (build : Build) (c : FabricCall) {f : IbFabric} (opened : f.Opened before) :
    Eff.Makes (OnOpenHandle before) (call build c) f := by
  obtain ⟨op, target, io⟩ := c
  cases target with
  | fabric =>
    cases op with
    | reset => exact Eff.Makes.visit fun n hn i _ =>
        IbNode.makes_resetCounters (io i) (opened.nodes n hn)
    | refresh => exact Eff.Makes.visit fun n hn i _ =>
        IbNode.makes_refreshCounters build (io i) (opened.nodes n hn)
  | node i =>
    cases op with
    | reset => exact makes_onNode fun n hn => IbNode.makes_resetCounters (io i) (opened.nodes n hn)
    | refresh =>
      exact makes_onNode fun n hn => IbNode.makes_refreshCounters build (io i) (opened.nodes n hn)
  | port i j =>
    cases op with
    | reset => exact makes_onNode fun n hn => Eff.Makes.onNth fun p hp =>
        Port.makes_resetCounters (io i j) (opened.nodes n hn p hp)
    | refresh => exact makes_onNode fun n hn => Eff.Makes.onNth fun p hp =>
        Port.makes_refreshCounters build (io i j) (opened.nodes n hn p hp)

/-- And so are the calls of the destructor. -/
theorem onOpenHandle_of_destroy {f : IbFabric} (opened : f.Opened before) :
    ∀ c ∈ f.destroy, OnOpenHandle before c := by
  intro c hc
  obtain inNodes | inFabric := List.mem_append.mp hc
  · obtain ⟨n, hn, inNode⟩ := List.mem_flatMap.mp inNodes
    obtain ⟨p, hp, inPort⟩ := List.mem_flatMap.mp inNode
    exact Port.onOpenHandle_of_destroy (opened.nodes n hn p hp) c inPort
  · cases held : f.fabric.isSome with
    | false => simp [held] at inFabric
    | true =>
      simp only [held, if_true, List.mem_singleton] at inFabric
      rw [inFabric]
      exact onOpenHandle_of_given rfl (opened.fabric held)

/-- What was opened is still there after calls. -/
theorem Opened.moved {f g : IbFabric} (moved : f.Moved g) (opened : f.Opened before) :
    g.Opened before := by
  refine ⟨fun held => ?_, fun n hn p hp => ?_⟩
  · rw [moved.fabric] at held ⊢
    exact opened.fabric held
  · obtain ⟨i, hi⟩ := List.mem_iff_getElem?.mp hn
    obtain ⟨n', hn', sameNode⟩ := moved.nodes.source hi
    obtain ⟨j, hj⟩ := List.mem_iff_getElem?.mp hp
    obtain ⟨p', hp', samePort⟩ := sameNode.ports.source hj
    have before := opened.nodes n' (List.mem_of_getElem? hn') p' (List.mem_of_getElem? hp')
    cases samePort with
    | mad p c => exact before
    | compat p s => exact before

end IbFabric

end Calls

/-! ## The life of a fabric -/

namespace IbFabric

/-- Every call is allowed, in the constructor, in every run of member functions after it, and in the
destructor at its end. -/
def AllowedForLife (ok : List ExtCall → ExtCall → Prop) (std : StdSort IbNode) (build : Build)
    (a : DiscoveryAnswers) (network compatibility : Bool) : Prop :=
  ∀ m, let run := (create std build a network compatibility).run m
    Allowed ok [] run.calls ∧ ∀ f, run.result = .ok f → ∀ l : List FabricCall,
      Allowed ok run.calls
        (Eff.traces (call build) l f ++ (Eff.runs (call build) l f).destroy)

/-- A device whose context cannot be opened makes the constructor of its node throw an
`IbVerbsException` before any query. -/
def GuardsContext (build : Build) (d : IbvDevice) (compatibility : Bool) : Prop :=
  d.openDevice = false → ∀ m, let run := (IbNode.ofDevice build d compatibility).run m
    (∃ message, run.result = .error (.ibVerbsException message)) ∧
      ∀ c ∈ run.calls, ∀ h port, c ≠ .ibvQueryDevice h ∧ c ≠ .ibvQueryPort h port

theorem careful_for_life (std : StdSort IbNode) (build : Build) (a : DiscoveryAnswers)
    (network compatibility : Bool) :
    AllowedForLife (Careful (a.AllOpen network compatibility)) std build a network
      compatibility := by
  intro m run
  obtain ⟨allowed, value⟩ := create_obeys std build a network compatibility m
  refine ⟨allowed, fun f built l => ?_⟩
  have opened : f.Opened run.calls := value f built
  have still : ∀ l, (Eff.runs (call build) l f).Opened run.calls := fun l =>
    opened.moved (moved_runs build l f)
  have each : ∀ c ∈ Eff.traces (call build) l f ++ (Eff.runs (call build) l f).destroy,
      OnOpenHandle run.calls c := by
    intro c hc
    obtain inRun | atEnd := List.mem_append.mp hc
    · obtain ⟨pre, d, post, -, made⟩ := Eff.mem_traces inRun
      exact makes_call build d (still pre) c made
    · exact onOpenHandle_of_destroy (still l) c atEnd
  exact (Allowed.of_forall grows_onOpenHandle each).imp fun _ _ allowed _ => allowed

theorem guardsContext_iff (build : Build) (d : IbvDevice) (compatibility : Bool) :
    GuardsContext build d compatibility ↔ d.Opens := by
  constructor
  · intro guards valid
    by_contra refused
    rw [Bool.not_eq_true] at refused
    have queried :
        .ibvQueryDevice none ∈ ((IbNode.ofDevice build d compatibility).run 0).calls := by
      obtain ⟨rest, calls⟩ : ∃ rest, ((IbNode.ofDevice build d compatibility).run 0).calls =
          .ibvOpenDevice none :: .ibvQueryDevice none :: rest := by
        cases d
        cases valid
        cases refused
        exact ⟨_, rfl⟩
      simp [calls]
    exact ((guards refused 0).2 _ queried none 0).1 rfl
  · intro opens refused m run
    have null : d.isNull = true := by
      by_contra valid
      have opened := opens (by simpa using valid)
      rw [refused] at opened
      cases opened
    have ends : run = ⟨.error (.ibVerbsException ("Unable to open context for device '" ++ d.name ++
        "'! Error: " ++ d.openError)), m, [.ibvOpenDevice none]⟩ := by
      cases d
      cases null
      cases refused
      rfl
    rw [ends]
    refine ⟨⟨_, rfl⟩, fun c hc h port => ?_⟩
    rw [List.mem_singleton.mp hc]
    exact ⟨by simp, by simp⟩

/-! ### Devices that cannot be opened -/

/-- The constructor of the node queries the null pointer that it got for a context. -/
theorem queries_null (build : Build) {d : IbvDevice} (compatibility : Bool)
    (valid : d.isNull = false) (refused : d.openDevice = false) :
    Eff.Always (IbNode.ofDevice build d compatibility) (.ibvQueryDevice none) := by
  refine Eff.Always.bind_right fun m => ?_
  refine ⟨_, _, IbPort.returns_acquire.mpr ⟨rfl, rfl⟩, ?_⟩
  rw [refused]
  refine Eff.Always.bind_right fun m => ?_
  exact ⟨(), m, Eff.returns_ensure.mpr ⟨by rw [valid]; rfl, rfl⟩, .emit_then⟩

/-- So does the constructor of the fabric when the discovery gets to the device. -/
theorem create_queries_null (std : StdSort IbNode) (build : Build) {a : DiscoveryAnswers}
    {network compatibility : Bool} (mode : (network && !compatibility) = false) {d : IbvDevice}
    (reached : a.Reaches compatibility d) (valid : d.isNull = false)
    (refused : d.openDevice = false) :
    Eff.Always (create std build a network compatibility) (.ibvQueryDevice none) := by
  obtain ⟨pre, post, listed, passed⟩ := reached
  have found : Eff.Always (Eff.attempt isVerbs (IbNode.ofDevice build d compatibility))
      (.ibvQueryDevice none) := (queries_null build compatibility valid refused).attempt
  have loop : Eff.Always (Eff.collect
      (fun d => Eff.attempt isVerbs (IbNode.ofDevice build d compatibility)) (pre ++ d :: post))
      (.ibvQueryDevice none) := Eff.Always.collect (fun e he => exists_attempt (passed e he)) found
  have locally : Eff.Always (discoverLocalDevices build a compatibility) (.ibvQueryDevice none) := by
    refine Eff.Always.bind_right fun m => ?_
    refine ⟨_, _, IbPort.returns_acquire.mpr ⟨rfl, rfl⟩, Eff.Always.bind_right fun m' => ?_⟩
    exact ⟨_, m', Eff.returns_require.mpr ⟨listed, rfl⟩, loop.bind_left⟩
  have found : Eff.Always (discoverFabric build a network compatibility)
      (.ibvQueryDevice none) := by
    cases compatibility with
    | true => exact locally.bind_left
    | false =>
      cases network with
      | true => cases mode
      | false => exact locally.bind_left
  exact found.bind_left

/-- Where all calls are made on open handles, the discovery got to no such device. -/
theorem allOpen_of_allowed {std : StdSort IbNode} {build : Build} {a : DiscoveryAnswers}
    {network compatibility : Bool}
    (allowed : AllowedForLife OnOpenHandle std build a network compatibility) :
    a.AllOpen network compatibility := by
  cases mode : network && !compatibility with
  | true => exact .inl (by simpa using mode)
  | false =>
    refine .inr fun d reached valid => ?_
    by_contra refused
    rw [Bool.not_eq_true] at refused
    have made := create_queries_null std build mode reached valid refused 0
    obtain ⟨pre, post, split⟩ := List.append_of_mem made
    obtain ⟨x, null, -⟩ := (allowed 0).1 pre _ post split .ibvOpenDevice none rfl
    cases null

/-- MAD ports, device lists and discovered fabrics are always used with care. Contexts are too just
when the discovery gets to no device that cannot be opened, and then every device that it gets to
and that gives no context is caught before it is queried. -/
theorem calls_on_open_handles_iff (std : StdSort IbNode) (build : Build) (a : DiscoveryAnswers)
    (network compatibility : Bool) :
    AllowedForLife (fun before c => c.takesContext = false → OnOpenHandle before c) std build a
        network compatibility ∧
      (AllowedForLife OnOpenHandle std build a network compatibility ↔
        a.AllOpen network compatibility) ∧
      ((AllowedForLife OnOpenHandle std build a network compatibility ∧
          ((network && !compatibility) = false → ∀ d, a.Reaches compatibility d →
            GuardsContext build d compatibility)) ↔
        a.AllOpen network compatibility) := by
  have careful := careful_for_life std build a network compatibility
  have weaken : ∀ {ok : List ExtCall → ExtCall → Prop},
      (∀ before c, Careful (a.AllOpen network compatibility) before c → ok before c) →
      AllowedForLife ok std build a network compatibility := fun weaker m =>
    ⟨(careful m).1.imp weaker, fun f built l => ((careful m).2 f built l).imp weaker⟩
  have onOpen : a.AllOpen network compatibility →
      AllowedForLife OnOpenHandle std build a network compatibility := fun allOpen =>
    weaken fun before c allowed => allowed fun _ => allOpen
  refine ⟨weaken fun before c allowed other => allowed (by simp [other]),
    ⟨allOpen_of_allowed, onOpen⟩, fun both => allOpen_of_allowed both.1, fun allOpen => ?_⟩
  refine ⟨onOpen allOpen, fun mode d reached => (guardsContext_iff build d compatibility).mpr ?_⟩
  obtain ⟨rfl, rfl⟩ | opens := allOpen
  · cases mode
  · exact opens d reached

/-- A device that cannot be opened is queried with a null pointer. -/
theorem refused_device_queried :
    let device : IbvDevice :=
      { IbvDevice.plain with
        openDevice := false
        openError := "Permission denied"
        queryDevice := .error "Bad address" }
    let a : DiscoveryAnswers := ⟨some [device], "", none⟩
    ((create (.stable _) ⟨true, .little⟩ a false false).run 0).calls =
        [.ibvGetDeviceList (some ⟨.deviceList, 0⟩), .ibvOpenDevice none, .ibvQueryDevice none,
          .ibvFreeDeviceList (some ⟨.deviceList, 0⟩)] ∧
      ¬ AllowedForLife OnOpenHandle (.stable _) ⟨true, .little⟩ a false false ∧
      ¬ GuardsContext ⟨true, .little⟩ device false := by
  intro device a
  have calls : ((create (.stable _) ⟨true, .little⟩ a false false).run 0).calls =
      [.ibvGetDeviceList (some ⟨.deviceList, 0⟩), .ibvOpenDevice none, .ibvQueryDevice none,
        .ibvFreeDeviceList (some ⟨.deviceList, 0⟩)] := by decide
  refine ⟨calls, fun allowed => ?_, fun guards => ?_⟩
  · have opened := (allowed 0).1 [_, _] _ _ calls
    obtain ⟨x, null, -⟩ := opened .ibvOpenDevice none rfl
    cases null
  · have opens := (guardsContext_iff _ device false).mp guards rfl
    cases opens

end IbFabric

end Detector
