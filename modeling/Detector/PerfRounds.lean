import Detector.FileRounds
import Detector.Hardware
import Detector.PerfTest

/-!
# What the rounds of `perftest` print

`perftest` never resets a counter. In MAD mode a round prints what the devices answer in it, and
nothing that an earlier round did, successful or not, can be seen in a later one. In compatibility
mode the rounds print what the files show, up to and including the first round in which a stream was
not left good; from then on every round prints the same exception.

## Main definitions

* `IbFabric.printed` — the records that a round prints, as a function of what the ports meet.
* `IbFabric.ReadsWell` — the reads of a round leave all streams good.

## Main results

* `PerfTest.reports_mad` — the rounds in MAD mode.
* `PerfTest.reports_compat` — the rounds in compatibility mode.
-/
namespace Detector

open Cpp

/-! ## What a port prints -/

/-- What the line of a MAD port says after a refresh that returned. -/
def IbPort.printed (a : MadAnswers) (p : IbPort) : PortRecord where
  portNum := p.portNum.toNat
  lid := p.lid.toNat
  linkWidth := p.linkWidth.toNat
  xmitDataBytes := ((a.pma 0 p.portId p.portNum .gsiPortCountersExt).elim 0 fun ext =>
    ext.decode64 .pcExtXmtBytes * p.linkWidth.toUInt64).toNat
  rcvDataBytes := ((a.pma 0 p.portId p.portNum .gsiPortCountersExt).elim 0 fun ext =>
    rcvData p.nodeType (ext.decode64 .pcExtRcvBytes) * p.linkWidth.toUInt64).toNat

/-- What the line of a compatibility port that was never reset says after a refresh that
returned. -/
def IbPortCompat.printed (io : Reads) (p : IbPortCompat) : PortRecord where
  portNum := p.portNum.toNat
  lid := p.lid.toNat
  linkWidth := p.linkWidth.toNat
  xmitDataBytes := ((io (p.path .xmitDataBytes)).value 128 * p.linkWidth.toUInt64).toNat
  rcvDataBytes := ((io (p.path .rcvDataBytes)).value 128 * p.linkWidth.toUInt64).toNat

namespace Port

def printed (io : PortIo) : Port → PortRecord
  | mad p => p.printed io.mad
  | compat p => p.printed io.files

/-- No reset has recorded a base value of a compatibility port. -/
def Unreset : Port → Prop
  | mad _ => True
  | compat p => (IbPortCompat.fileClass p.linkWidth).Unreset p.path p.fileCounters

def Works : Port → Prop
  | mad _ => True
  | compat p => p.Works

theorem Made.fresh {build : Build} {compatibility : Bool} {p : Port}
    (h : p.Made build compatibility) : p.Unreset ∧ p.Works := by
  cases h with
  | mad => exact ⟨trivial, trivial⟩
  | compat created =>
    have watches := IbPortCompat.watches_of_create created
    refine ⟨⟨watches.placed, fun i => ?_⟩, watches.good⟩
    obtain ⟨e, he, rfl⟩ := (IbPortCompat.fileClass _).exists_entry i
    exact watches.baseValues e he

theorem Moved.printed {p q : Port} (h : p.Moved q) (io : PortIo) :
    q.printed io = p.printed io := by
  cases h <;> rfl

end Port

/-! ## What a refresh does to the streams of a port -/

/-- The reads of the port's files leave good streams good. -/
def IbPortCompat.ReadsWell (io : Reads) (p : IbPortCompat) : Prop :=
  (fileClass p.linkWidth).ReadsWell p.path io

namespace IbPortCompat

variable {io : Reads} {p q : IbPortCompat}

theorem returns_refreshCounters : Eff.Returns (refreshCounters io) p () q ↔
    ∃ t, Eff.Returns ((fileClass p.linkWidth).call (.refresh, io)) p.fileCounters () t ∧
      q = p.withFileCounters t := by
  have run := run_call (.refresh, io) p
  change (refreshCounters io).run p = _ at run
  unfold Eff.Returns
  rw [run]
  constructor
  · rintro ⟨result, rfl⟩
    exact ⟨_, ⟨result, rfl⟩, rfl⟩
  · rintro ⟨_, ⟨result, rfl⟩, rfl⟩
    exact ⟨result, rfl⟩

/-- A refresh that returned reports what the files show. -/
theorem record_of_returns (unreset : (fileClass p.linkWidth).Unreset p.path p.fileCounters)
    (h : Eff.Returns (refreshCounters io) p () q) :
    q.toIbPort.record = p.printed io ∧ (q.Works ↔ p.ReadsWell io) := by
  obtain ⟨t, ends, rfl⟩ := returns_refreshCounters.mp h
  obtain ⟨-, counters, works⟩ := (FileClass.latch _ _).of_returns unreset ends
  refine ⟨?_, works⟩
  have xmit : (p.withFileCounters t).getXmitDataBytes = _ := congrFun counters .xmitDataBytes
  have rcv : (p.withFileCounters t).getRcvDataBytes = _ := congrFun counters .rcvDataBytes
  simp only [IbPort.record, xmit, rcv]
  rfl

end IbPortCompat

/-- A refresh that returned reports what the device answered. -/
theorem IbPort.record_of_returns {build : Build} {a : MadAnswers} {p q : IbPort}
    (h : Eff.Returns (refreshCounters build a) p () q) : q.record = p.printed a := by
  obtain ⟨r, answers, rfl⟩ := returns_refreshCounters_iff.mp h
  have xmit : (p.refreshedTo build r 3).getXmitDataBytes =
      r.ext.decode64 .pcExtXmtBytes * p.linkWidth.toUInt64 := by
    change (p.refreshedTo build r 3).counters .xmitDataBytes = _
    have supported : p.supports .xmitDataBytes = true := rfl
    simp [refreshedTo, supported, query_lt_three build p .xmitDataBytes, reading]
  have rcv : (p.refreshedTo build r 3).getRcvDataBytes =
      rcvData p.nodeType (r.ext.decode64 .pcExtRcvBytes) * p.linkWidth.toUInt64 := by
    change (p.refreshedTo build r 3).counters .rcvDataBytes = _
    have supported : p.supports .rcvDataBytes = true := rfl
    simp [refreshedTo, supported, query_lt_three build p .rcvDataBytes, reading]
  simp only [record, xmit, rcv, printed, answers.ext, Option.elim_some]
  rfl

namespace Port

variable {build : Build} {io : PortIo} {p : Port}

def ReadsWell (io : PortIo) : Port → Prop
  | mad _ => True
  | compat p => p.ReadsWell io.files

theorem Moved.readsWell {q : Port} (h : p.Moved q) (io : PortIo) :
    q.ReadsWell io ↔ p.ReadsWell io := by
  cases h <;> exact Iff.rfl

theorem unreset_refreshCounters (build : Build) (io : PortIo) (h : p.Unreset) :
    ((refreshCounters build io).run p).state.Unreset := by
  cases p with
  | mad p => trivial
  | compat p => exact (FileClass.latch _ _).keeps io.files p.fileCounters h

/-- A stream that is not good stays so. -/
theorem not_works_refreshCounters (build : Build) (io : PortIo) (unreset : p.Unreset)
    (h : ¬ p.Works) : ¬ ((refreshCounters build io).run p).state.Works := by
  cases p with
  | mad p => exact absurd trivial h
  | compat p => exact (FileClass.latch _ _).stays io.files p.fileCounters unreset h

theorem failure_of_works (works : p.Works) (compat : p.isCompat = true) :
    p.failure build .refresh io = none := by
  cases p with
  | mad p => cases compat
  | compat p => exact if_pos works

theorem works_of_failure (h : p.failure build .refresh io = none) : p.Works := by
  cases p with
  | mad p => trivial
  | compat p =>
    change p.refreshFailure = none at h
    change IbPortCompat.Works p
    by_contra broken
    rw [IbPortCompat.refreshFailure, if_neg broken] at h
    cases h

/-- What a refresh that returned makes the port print, and whether the next one will return. -/
theorem record_of_returns {q : Port} (unreset : p.Unreset)
    (h : Eff.Returns (refreshCounters build io) p () q) :
    q.toIbPort.record = p.printed io ∧ (q.Works ↔ p.ReadsWell io) := by
  cases p with
  | mad p =>
    obtain ⟨p', ends, rfl⟩ := returns_refreshCounters_mad.mp h
    exact ⟨IbPort.record_of_returns ends, Iff.rfl⟩
  | compat p =>
    obtain ⟨p', ends, rfl⟩ := returns_refreshCounters_compat.mp h
    exact IbPortCompat.record_of_returns unreset ends

end Port

/-! ## Nodes -/

namespace IbNode

variable {build : Build} {io : NodeIo} {n n' : IbNode}

def printed (io : NodeIo) (n : IbNode) : NodeRecord where
  desc := n.desc.toList
  guid := n.guid.toNat
  numPorts := n.numPorts.toNat
  ports := n.ports.mapIdx fun j p => p.printed (io j)

def Unreset (n : IbNode) : Prop := ∀ p ∈ n.ports, p.Unreset

def Works (n : IbNode) : Prop := ∀ p ∈ n.ports, p.Works

def ReadsWell (io : NodeIo) (n : IbNode) : Prop :=
  ∀ j (p : Port), n.ports[j]? = some p → p.ReadsWell (io j)

theorem Moved.printed (h : n.Moved n') (io : NodeIo) : n'.printed io = n.printed io := by
  have ports := h.ports.mapIdx_eq (f := fun j p => p.printed (io j))
    (g := fun j p => p.printed (io j)) fun j p q moved => (moved.printed (io j)).symm
  simp only [IbNode.printed, h.desc, h.guid, h.numPorts, ports]

theorem Moved.readsWell (h : n.Moved n') (io : NodeIo) : n'.ReadsWell io ↔ n.ReadsWell io :=
  (h.ports.forall_iff fun j _ _ moved => (moved.readsWell (io j)).symm).symm

theorem unreset_refreshCounters (build : Build) (io : NodeIo) (h : n.Unreset) :
    ((refreshCounters build io).run n).state.Unreset := by
  have ports := n.pointwise_refreshCounters (R := fun _ p q => p.Unreset → q.Unreset) io build
    (fun _ _ => id) fun j _ => Port.unreset_refreshCounters build (io j)
  exact ports.forall_mem h

theorem not_works_refreshCounters (build : Build) (io : NodeIo) (unreset : n.Unreset)
    (h : ¬ n.Works) : ¬ ((refreshCounters build io).run n).state.Works := by
  have ports := n.pointwise_refreshCounters (R := fun _ p q => p.Unreset ∧ ¬ p.Works → ¬ q.Works)
    io build (fun _ _ => And.right)
    fun j _ broken => Port.not_works_refreshCounters build (io j) broken.1 broken.2
  simp only [Works, not_forall, exists_prop] at h ⊢
  obtain ⟨p, hp, broken⟩ := h
  exact ports.exists_mem ⟨p, hp, unreset p hp, broken⟩

theorem record_of_returns (unreset : n.Unreset)
    (h : Eff.Returns (refreshCounters build io) n () n') :
    n'.record = n.printed io ∧ (n'.Works ↔ n.ReadsWell io) := by
  obtain ⟨ports, each, rfl⟩ := returns_refreshCounters.mp h
  have refreshed : Pointwise (fun j p q => q.toIbPort.record = p.printed (io j) ∧
      (q.Works ↔ p.ReadsWell (io j))) n.ports ports := by
    have called := Pointwise.of_each
      (R := fun j p q => Eff.Returns (Port.refreshCounters build (io j)) p () q) each
      fun j p q ends => by simpa using ends
    exact (called.with_source unreset).imp fun j p q h => Port.record_of_returns h.1 h.2
  constructor
  · have lines := refreshed.mapIdx_eq_map (f := fun j p => p.printed (io j))
      (g := fun q => q.toIbPort.record) fun j p q h => h.1.symm
    rw [printed, lines]
    rfl
  · exact refreshed.forall_mem_iff fun j p q h => h.2.symm

end IbNode

/-! ## The fabric -/

namespace IbFabric

variable {build : Build} {io : FabricIo} {f g : IbFabric}

/-- What a round prints after a refresh that returned. -/
def printed (io : FabricIo) (f : IbFabric) : List NodeRecord :=
  f.nodes.mapIdx fun i n => n.printed (io i)

def Unreset (f : IbFabric) : Prop := ∀ n ∈ f.nodes, n.Unreset

def Works (f : IbFabric) : Prop := ∀ n ∈ f.nodes, n.Works

def ReadsWell (io : FabricIo) (f : IbFabric) : Prop :=
  ∀ i (n : IbNode), f.nodes[i]? = some n → n.ReadsWell (io i)

theorem Moved.printed (h : f.Moved g) (io : FabricIo) : g.printed io = f.printed io :=
  (h.nodes.mapIdx_eq fun i _ _ moved => (moved.printed (io i)).symm).symm

theorem Moved.readsWell (h : f.Moved g) (io : FabricIo) : g.ReadsWell io ↔ f.ReadsWell io :=
  (h.nodes.forall_iff fun i _ _ moved => (moved.readsWell (io i)).symm).symm

theorem fresh_of_create {std : StdSort IbNode} {a : DiscoveryAnswers}
    {network compatibility : Bool} {m m' : ℕ}
    (h : Eff.Returns (create std build a network compatibility) m f m') : f.Unreset ∧ f.Works :=
  ⟨fun n hn p hp => ((made_of_create h n hn).ports p hp).fresh.1,
    fun n hn p hp => ((made_of_create h n hn).ports p hp).fresh.2⟩

theorem unreset_refreshCounters (build : Build) (io : FabricIo) (h : f.Unreset) :
    (Eff.after (refreshCounters build io) f).Unreset := by
  have nodes := Pointwise.visit (fun i => Eff.onItem (IbNode.refreshCounters build (io i)))
    (R := fun _ n n' => n.Unreset → n'.Unreset) (fun _ _ => id)
    (fun i n _ => IbNode.unreset_refreshCounters build (io i)) (f.nodes, ())
  exact nodes.forall_mem h

theorem not_works_refreshCounters (build : Build) (io : FabricIo) (unreset : f.Unreset)
    (h : ¬ f.Works) : ¬ (Eff.after (refreshCounters build io) f).Works := by
  have nodes := Pointwise.visit (fun i => Eff.onItem (IbNode.refreshCounters build (io i)))
    (R := fun _ n n' => n.Unreset ∧ ¬ n.Works → ¬ n'.Works) (fun _ _ => And.right)
    (fun i n _ broken => IbNode.not_works_refreshCounters build (io i) broken.1 broken.2)
    (f.nodes, ())
  simp only [Works, not_forall, exists_prop] at h ⊢
  obtain ⟨n, hn, broken⟩ := h
  exact nodes.exists_mem ⟨n, hn, unreset n hn, broken⟩

/-- After a refresh that returned, the nodes are printed as their ports met it. -/
theorem records_of_returns (unreset : f.Unreset)
    (h : Eff.Returns (refreshCounters build io) f () g) :
    PerfTest.records g = f.printed io ∧ (g.Works ↔ f.ReadsWell io) := by
  obtain ⟨⟨nodes, u⟩, ends, rfl⟩ := Eff.returns_focus.mp h
  obtain ⟨each, -⟩ := Eff.visited_onItem.mp (Eff.returns_visit.mp ends)
  have refreshed : Pointwise (fun i n n' => n'.record = n.printed (io i) ∧
      (n'.Works ↔ n.ReadsWell (io i))) f.nodes nodes := by
    have called := Pointwise.of_each
      (R := fun i n n' => Eff.Returns (IbNode.refreshCounters build (io i)) n () n') each
      fun i n n' ends => by simpa using ends
    exact (called.with_source unreset).imp fun i n n' h => IbNode.record_of_returns h.1 h.2
  constructor
  · exact (refreshed.mapIdx_eq_map fun i n n' h => h.1.symm).symm
  · exact refreshed.forall_mem_iff fun i n n' h => h.2.symm

/-- In compatibility mode a refresh returns just when all streams are good, and otherwise there is
only one exception. -/
theorem firstFailure_compat (compat : AllInMode true f.nodes) (build : Build) (io : FabricIo) :
    (f.Works → firstFailure build .refresh io (f.portsIn .fabric) = none) ∧
      (¬ f.Works → firstFailure build .refresh io (f.portsIn .fabric) =
        some IbPortCompat.readFailed) := by
  constructor
  · intro works
    refine List.findSome?_eq_none_iff.mpr fun x hx => ?_
    obtain ⟨n, hn, hp⟩ := mem_portsIn hx
    exact Port.failure_of_works (works n (List.mem_of_getElem? hn) x.1 (List.mem_of_getElem? hp))
      (compat n (List.mem_of_getElem? hn) x.1 (List.mem_of_getElem? hp)).isCompat
  · intro broken
    cases first : firstFailure build .refresh io (f.portsIn .fabric) with
    | some e =>
      obtain ⟨x, hx, fails⟩ := List.exists_of_findSome?_eq_some first
      obtain ⟨n, hn, hp⟩ := mem_portsIn hx
      have only := Port.failure_mem fails
      rw [(compat n (List.mem_of_getElem? hn) x.1 (List.mem_of_getElem? hp)).isCompat] at only
      exact congrArg some (List.mem_singleton.mp only)
    | none =>
      refine absurd (fun n hn p hp => ?_) broken
      obtain ⟨i, hi⟩ := List.mem_iff_getElem?.mp hn
      obtain ⟨j, hj⟩ := List.mem_iff_getElem?.mp hp
      exact Port.works_of_failure (List.findSome?_eq_none_iff.mp first _ (mem_portsIn_fabric hi hj))

/-- Which port fails first in a MAD fabric does not depend on what was counted. -/
theorem Moved.firstFailure_eq (h : f.Moved g) (mad : AllInMode false f.nodes) (build : Build)
    (op : CounterOp) (io : FabricIo) : firstFailure build op io (g.portsIn .fabric) =
      firstFailure build op io (f.portsIn .fabric) := by
  rw [firstFailure_fabric, firstFailure_fabric]
  refine ((h.nodes.with_source mad).findSome?_eq fun i n n' node => ?_).symm
  rw [firstFailure_portsAt, firstFailure_portsAt]
  refine (node.2.ports.with_source node.1).findSome?_eq fun j p q port => ?_
  exact (port.2.failure_eq port.1.isCompat build op (io i j)).symm

end IbFabric

/-! ## Rounds in MAD mode -/

namespace PerfTest

variable {std : StdSort IbNode} {build : Build} {a : DiscoveryAnswers} {network : Bool} {m m' : ℕ}
  {f : IbFabric}

/-- What a round in MAD mode prints, whatever was counted before it. -/
def madReport (build : Build) (f : IbFabric) (io : FabricIo) :
    Except IbPerfException (List NodeRecord) :=
  match firstFailure build .refresh io (f.portsIn .fabric) with
  | some exception => .error exception
  | none => .ok (f.printed io)

theorem outcome_mad {g : IbFabric} (moved : f.Moved g) (mad : AllInMode false f.nodes)
    (unreset : g.Unreset) (io : FabricIo) :
    Eff.outcome (IbFabric.refreshCounters build) records io g = madReport build f io := by
  have ending := IbFabric.result_refreshCounters build io g
  rw [moved.firstFailure_eq mad] at ending
  rw [madReport]
  cases first : firstFailure build .refresh io (f.portsIn .fabric) with
  | none =>
    rw [first] at ending
    have ends : Eff.Returns (IbFabric.refreshCounters build io) g ()
        (Eff.after (IbFabric.refreshCounters build io) g) := ⟨ending, rfl⟩
    rw [ends.outcome_eq, (IbFabric.records_of_returns unreset ends).1, moved.printed]
  | some e =>
    rw [first] at ending
    have ends : Eff.Throws (IbFabric.refreshCounters build io) g e
        (Eff.after (IbFabric.refreshCounters build io) g) := ⟨ending, rfl⟩
    exact ends.outcome_eq

theorem reports_mad (created : Eff.Returns (IbFabric.create std build a network false) m f m')
    (rounds : List FabricIo) : reports build rounds f = rounds.map (madReport build f) := by
  have mad := IbFabric.allInMode_of_create created
  refine Eff.outcomes_eq_map (I := fun g => f.Moved g ∧ g.Unreset) (fun io _ g inside => ?_)
    ⟨.refl f, (IbFabric.fresh_of_create created).1⟩
  obtain ⟨moved, unreset⟩ := inside
  refine ⟨outcome_mad moved mad unreset io, ?_, IbFabric.unreset_refreshCounters build io unreset⟩
  exact moved.trans (IbFabric.moved_call build ⟨.refresh, .fabric, io⟩ g)

/-- In MAD mode each round prints what the devices answer in it, or the exception of the first port
that fails; no round can be seen in a later one. -/
theorem loop_mad (created : Eff.Returns (IbFabric.create std build a network false) m f m')
    (rounds : List FabricIo) (t : List Char) :
    ∃ g, Eff.Returns (loop build rounds) (f, ⟨t, .dec⟩) ()
      (g, ⟨t ++ rounds.flatMap fun io => roundText (madReport build f io), .dec⟩) := by
  have ends := returns_loop build rounds f t
  rw [reports_mad created, List.flatMap_map] at ends
  exact ⟨_, ends⟩

/-! ## Rounds in compatibility mode -/

theorem latch_compat (build : Build) (compat : AllInMode true f.nodes) : Eff.Latch
    (IbFabric.refreshCounters build) records (fun g => f.Moved g ∧ g.Unreset) IbFabric.Works
    (fun io => f.ReadsWell io) (fun io => f.printed io) IbPortCompat.readFailed := by
  have failures : ∀ io g, f.Moved g →
      (g.Works → ((IbFabric.refreshCounters build io).run g).result = .ok ()) ∧
      (¬ g.Works → ((IbFabric.refreshCounters build io).run g).result =
        .error IbPortCompat.readFailed) := by
    intro io g moved
    obtain ⟨good, bad⟩ := IbFabric.firstFailure_compat (moved.allInMode compat) build io
    have ending := IbFabric.result_refreshCounters build io g
    exact ⟨fun works => by rw [ending, good works]; rfl, fun broken => by rw [ending, bad broken]; rfl⟩
  have returns : ∀ io g, f.Moved g → g.Works → Eff.Returns (IbFabric.refreshCounters build io) g ()
      (Eff.after (IbFabric.refreshCounters build io) g) :=
    fun io g moved works => ⟨(failures io g moved).1 works, rfl⟩
  constructor
  case keeps =>
    rintro io g ⟨moved, unreset⟩
    exact ⟨moved.trans (IbFabric.moved_call build ⟨.refresh, .fabric, io⟩ g),
      IbFabric.unreset_refreshCounters build io unreset⟩
  case gives =>
    rintro io g ⟨moved, unreset⟩ works
    have ends := returns io g moved works
    rw [ends.outcome_eq, (IbFabric.records_of_returns unreset ends).1, moved.printed]
  case clean_iff =>
    rintro io g ⟨moved, unreset⟩ works
    rw [(IbFabric.records_of_returns unreset (returns io g moved works)).2, moved.readsWell]
  case fails =>
    rintro io g ⟨moved, -⟩ broken
    rw [Eff.outcome, (failures io g moved).2 broken]
  case stays =>
    rintro io g ⟨-, unreset⟩ broken
    exact IbFabric.not_works_refreshCounters build io unreset broken

/-- In compatibility mode the rounds print what the files show, as long as their reads leave all
streams good. The first round whose reads do not is still printed, and every round after it prints
the exception. -/
theorem loop_compat (created : Eff.Returns (IbFabric.create std build a network true) m f m')
    (t : List Char) :
    (∀ rounds : List FabricIo, (∀ r ∈ rounds, f.ReadsWell r) →
      ∃ g, Eff.Returns (loop build rounds) (f, ⟨t, .dec⟩) ()
        (g, ⟨t ++ rounds.flatMap fun r => roundText (.ok (f.printed r)), .dec⟩)) ∧
    ∀ (pre : List FabricIo) (io : FabricIo) (post : List FabricIo), (∀ r ∈ pre, f.ReadsWell r) →
      ¬ f.ReadsWell io →
      ∃ g, Eff.Returns (loop build (pre ++ io :: post)) (f, ⟨t, .dec⟩) ()
        (g, ⟨t ++ (pre ++ [io]).flatMap (fun r => roundText (.ok (f.printed r))) ++
          (List.replicate post.length (message IbPortCompat.readFailed)).flatten, .dec⟩) := by
  obtain ⟨unreset, works⟩ := IbFabric.fresh_of_create created
  have start : (f.Moved f ∧ f.Unreset) ∧ f.Works := ⟨⟨.refl f, unreset⟩, works⟩
  have latch := latch_compat build (IbFabric.allInMode_of_create created)
  constructor
  · intro rounds well
    have ends := returns_loop build rounds f t
    rw [reports, (latch.outcomes_of_clean well start).1, List.flatMap_map] at ends
    exact ⟨_, ends⟩
  · intro pre io post well unwell
    have ends := returns_loop build (pre ++ io :: post) f t
    rw [reports, latch.outcomes_of_first well unwell post start, List.flatMap_append,
      List.flatMap_map, ← List.append_assoc, List.flatMap_replicate] at ends
    exact ⟨_, ends⟩

/-! ## Examples -/

/-- What the only node of the plain fabrics is printed as, for the values of its only port. -/
def plainRecord (xmit rcv : ℕ) : NodeRecord :=
  ⟨"mlx5_0".toList, 72057594037927936, 1, [⟨1, 3, 4, xmit, rcv⟩]⟩

/-- A round whose second query fails, between two that print the values. -/
theorem loop_mad_second_query :
    let build : Build := ⟨true, .little⟩
    let rounds := [everyPortShows 7, fun _ _ => secondQueryFails 9, everyPortShows 9]
    ∃ g, Eff.Returns (loop build rounds) (.plain build .plainMad, ⟨[], .dec⟩) ()
      (g, ⟨[.ok [plainRecord 28 0], .error IbPort.queryFailed, .ok [plainRecord 36 0]].flatMap
        roundText, .dec⟩) := by
  intro build rounds
  obtain ⟨g, ends⟩ := loop_mad (IbFabric.create_plainMad (.stable _) build rfl) rounds []
  have reports : rounds.map (madReport build (.plain build .plainMad)) =
      [.ok [plainRecord 28 0], .error IbPort.queryFailed, .ok [plainRecord 36 0]] := by decide
  refine ⟨g, ?_⟩
  rw [← reports, List.flatMap_map]
  exact ends

theorem readsWell_plain (build : Build) (port : Port) (io : FabricIo) :
    (IbFabric.plain build port).ReadsWell io ↔ port.ReadsWell (io 0 0) := by
  constructor
  · exact fun well => well 0 _ rfl 0 _ rfl
  · intro well i n hn j p hp
    cases i with
    | succ i => cases hn
    | zero =>
      obtain rfl := Option.some.inj hn
      cases j with
      | succ j => cases hp
      | zero =>
        obtain rfl := Option.some.inj hp
        exact well

/-- Files that are empty once: this round prints zeros, and no later round prints values. -/
theorem loop_compat_empty :
    let build : Build := ⟨true, .little⟩
    let rounds := [everyPortShows 7, fun _ _ => ⟨IbPort.plainDevice ibNodeCa 2 6 0, empty⟩,
      everyPortShows 9]
    ∃ g, Eff.Returns (loop build rounds) (.plain build .plainCompat, ⟨[], .dec⟩) ()
      (g, ⟨[.ok [plainRecord 28 28], .ok [plainRecord 0 0], .error IbPortCompat.readFailed].flatMap
        roundText, .dec⟩) := by
  intro build rounds
  have law := (loop_compat (IbFabric.create_plainCompat (.stable _) build) []).2
  have well : (IbFabric.plain build .plainCompat).ReadsWell (everyPortShows 7) :=
    (readsWell_plain _ _ _).mpr fun _ _ => rfl
  have unwell : ¬ (IbFabric.plain build .plainCompat).ReadsWell
      (fun _ _ => ⟨IbPort.plainDevice ibNodeCa 2 6 0, empty⟩) := fun h => by
    have good := (readsWell_plain _ _ _).mp h (.xmitDataBytes, 0) (by decide)
    cases good
  obtain ⟨g, ends⟩ := law [everyPortShows 7] _ [everyPortShows 9] (by simpa using well) unwell
  have before : (IbFabric.plain build .plainCompat).printed (everyPortShows 7) =
      [plainRecord 28 28] := by decide
  have last : (IbFabric.plain build .plainCompat).printed
      (fun _ _ => ⟨IbPort.plainDevice ibNodeCa 2 6 0, empty⟩) = [plainRecord 0 0] := by decide
  refine ⟨g, ?_⟩
  simpa [before, last, rounds, roundText] using ends

end PerfTest

end Detector
