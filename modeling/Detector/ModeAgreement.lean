import Detector.Hardware
import Detector.PortCalls

/-!
# Agreement of the two modes

Two copies of an adapter count the same traffic. On one of them a node of MAD ports resets the
hardware through requests, on the other one a node of compatibility ports remembers base values.
The hardware is a state of its own: it counts, it answers at the addresses of its ports, and of the
nodes it sees nothing but their external calls.

The relation `Sim` says how the two states correspond: port by port, the counter of the second copy
is the base plus the counter of the first. Every step of the two copies preserves it, and after
each refresh the two nodes show the same.
-/
namespace Detector

open Cpp

/-- Ports that show the same have the same sums. -/
theorem IbNode.total_congr {ports ports' : List Port}
    (h : Pointwise (fun _ p q => ∀ v, p.counters v = q.counters v) ports ports') :
    total ports = total ports' :=
  funext fun v => congrArg List.sum (h.map_eq fun _ _ _ same => same v)

/-! ## The hardware of an adapter -/

/-- The registers of one port. Each counter is kept in those of `PortCounters` and in those of
`PortCountersExtended`; a request resets one of the two. -/
structure Registers where
  std : HwCounters
  ext : HwCounters

namespace Registers

/-- Both registers of each counter hold the same number. -/
def both (hw : HwCounters) : Registers := ⟨hw, hw⟩

def count (r : Registers) (d : HwCounters) : Registers :=
  ⟨fun v => r.std v + d v, fun v => r.ext v + d v⟩

def clear (r : Registers) : MadAttr → Registers
  | .gsiPortCounters => { r with std := fun _ => 0 }
  | .gsiPortCountersExt => { r with ext := fun _ => 0 }
  | _ => r

/-- The registers that an attribute reads. -/
def part (r : Registers) : MadAttr → HwCounters
  | .gsiPortCounters => r.std
  | .gsiPortCountersExt => r.ext
  | _ => fun _ => 0

/-- The number that the kernel shows: four counters have no register of 64 bits. -/
def number (r : Registers) : HwCounters
  | .symbolErrors => r.std .symbolErrors
  | .linkDowned => r.std .linkDowned
  | .linkRecoveries => r.std .linkRecoveries
  | .vl15Dropped => r.std .vl15Dropped
  | v => r.ext v

@[simp] theorem number_both (hw : HwCounters) : (both hw).number = hw := by
  funext v
  cases v <;> rfl

theorem part_clear (r : Registers) (attr attr' : MadAttr) :
    (r.clear attr').part attr = if attr = attr' then (fun _ => 0) else r.part attr := by
  cases attr <;> cases attr' <;> rfl

@[simp] theorem count_both (hw d : HwCounters) :
    (both hw).count d = both fun v => hw v + d v := rfl

end Registers

/-- An adapter: the name of its device, and LID and number of each port, by the position that the
port has in a node. -/
structure Adapter where
  deviceName : String
  lid : ℕ → UInt16
  portNum : ℕ → UInt8

namespace Adapter

variable (A : Adapter) (j : ℕ)

def dest : IbPortId := ibPortidSet (A.lid j) 0 0

/-- The file of a counter of the port. -/
def file (v : PerfVar) : String :=
  IbPortCompat.counterPath A.deviceName (A.portNum j) ++ IbPortCompat.fileOf v

/-- What an external call does to the registers of the port: a request to reset all counters of an
attribute clears them, when it is addressed to this port. -/
def receive (r : Registers) : ExtCall → Registers
  | .performanceResetVia dest port mask attr _ =>
    if dest = A.dest j ∧ port = A.portNum j ∧ mask = 0xffffffff then r.clear attr else r
  | _ => r

def receiveAll (calls : List ExtCall) (r : Registers) : Registers := calls.foldl (A.receive j) r

/-- Queries of the port are answered with its registers, none of which is too large for its
field. -/
structure Answers (r : Registers) (a : MadAnswers) : Prop where
  std : ∀ k, ∃ buf, a.pma k (A.dest j) (A.portNum j) .gsiPortCounters = some buf ∧
    ∀ f v, counter f = some v → (buf.decode32 f).toNat = r.std v
  ext : ∀ k, ∃ buf, a.pma k (A.dest j) (A.portNum j) .gsiPortCountersExt = some buf ∧
    ∀ f v, extCounter f = some v → (buf.decode64 f).toNat = r.ext v

/-- Requests to the port succeed. -/
def Grants (a : MadAnswers) : Prop :=
  ∀ mask attr, a.reset (A.dest j) (A.portNum j) mask attr = true

/-- The files of the port show its registers, each number on a line of its own. -/
def FilesShow (r : Registers) (io : Reads) : Prop :=
  ∀ v, r.number v < 2 ^ 64 ∧ (io (A.file j v)).Shows (r.number v)

/-! ### What calls leave in the registers -/

variable {A j} {calls : List ExtCall} {r : Registers}

theorem receiveAll_of_queries
    (h : ∀ c ∈ calls, ∃ dest port attr srcport, c = .pmaQueryVia dest port attr srcport) :
    A.receiveAll j calls r = r := by
  refine List.foldlRecOn calls (A.receive j) (motive := fun r' => r' = r) rfl ?_
  intro r' same c hc
  obtain ⟨dest, port, attr, srcport, rfl⟩ := h c hc
  exact same

/-- What is cleared stays cleared. -/
theorem part_receiveAll_of_zero {attr : MadAttr} (h : r.part attr = fun _ => 0) :
    (A.receiveAll j calls r).part attr = fun _ => 0 := by
  refine List.foldlRecOn calls (A.receive j) (motive := fun r' => r'.part attr = fun _ => 0) h ?_
  intro r' zero c _
  unfold receive
  split
  · split
    · rw [Registers.part_clear, zero, ite_self]
    · exact zero
  · exact zero

/-- What is cleared once is clear at the end. -/
theorem part_receiveAll_of_mem {attr : MadAttr} {srcport : Option Handle}
    (h : .performanceResetVia (A.dest j) (A.portNum j) 0xffffffff attr srcport ∈ calls) :
    (A.receiveAll j calls r).part attr = fun _ => 0 := by
  obtain ⟨pre, post, rfl⟩ := List.append_of_mem h
  rw [receiveAll, List.foldl_append, List.foldl_cons]
  refine part_receiveAll_of_zero ?_
  rw [receive, if_pos ⟨rfl, rfl, rfl⟩, Registers.part_clear, if_pos rfl]

/-- The two requests of a reset clear the registers. -/
theorem receiveAll_of_requests {srcport : Option Handle}
    (std : .performanceResetVia (A.dest j) (A.portNum j) 0xffffffff .gsiPortCounters srcport ∈ calls)
    (ext : .performanceResetVia (A.dest j) (A.portNum j) 0xffffffff .gsiPortCountersExt srcport ∈
      calls) : A.receiveAll j calls r = .both fun _ => 0 :=
  Registers.mk.injEq .. ▸ ⟨part_receiveAll_of_mem std, part_receiveAll_of_mem ext⟩

end Adapter

/-! ## Two copies of an adapter -/

/-- A node on each copy, and the registers in the hardware of the copies, by port. -/
structure Twins where
  mad : IbNode
  compat : IbNode
  madHw : ℕ → Registers
  compatHw : ℕ → Registers

/-- What happens to both copies: a call of the two nodes, or traffic. -/
inductive TwinEvent where
  | call (op : CounterOp) (io : NodeIo)
  | traffic (d : ℕ → HwCounters)

namespace Twins

/-- Two nodes that were just created, with the same numbers in the hardware. -/
def start (n c : IbNode) (hw : ℕ → HwCounters) : Twins :=
  ⟨n, c, fun j => .both (hw j), fun j => .both (hw j)⟩

/-- One step of both copies. The hardware of each copy receives the external calls of its node. -/
def step (build : Build) (A : Adapter) (s : Twins) : TwinEvent → Twins
  | .call op io =>
    let mad := (IbNode.call build op io).run s.mad
    let compat := (IbNode.call build op io).run s.compat
    { mad := mad.state
      compat := compat.state
      madHw := fun j => A.receiveAll j mad.calls (s.madHw j)
      compatHw := fun j => A.receiveAll j compat.calls (s.compatHw j) }
  | .traffic d =>
    { s with
      madHw := fun j => (s.madHw j).count (d j)
      compatHw := fun j => (s.compatHw j).count (d j) }

def run (build : Build) (A : Adapter) (events : List TwinEvent) (s : Twins) : Twins :=
  events.foldl (step build A) s

/-- All requests and queries of a call succeed, and what is read is the hardware. -/
def Faithful (A : Adapter) (s : Twins) : TwinEvent → Prop
  | .call op io =>
    (∀ j q, s.compat.ports[j]? = some q → A.FilesShow j (s.compatHw j) (io j).files) ∧
    ∀ j p, s.mad.ports[j]? = some p →
      match op with
      | .reset => A.Grants j (io j).mad
      | .refresh => A.Answers j (s.madHw j) (io j).mad
  | .traffic _ => True

/-- Every event of a run is faithful where it happens. -/
def FaithfulRun (build : Build) (A : Adapter) (s : Twins) : List TwinEvent → Prop
  | [] => True
  | e :: events => s.Faithful A e ∧ (s.step build A e).FaithfulRun build A events

end Twins

/-! ## The simulation -/

/-- A MAD port of the first copy and a compatibility port of the second, each at its place on the
adapter: the counters of the second hardware are the remembered bases plus the counters of the
first. -/
inductive TwinPorts (A : Adapter) (j : ℕ) (r r' : Registers) : Port → Port → Prop where
  | intro {p₀ p : IbPort} {q : IbPortCompat} {base hw hw' : HwCounters}
      (settled : IbPort.Settled p₀ p) (capable : p₀.FullyCapable)
      (address : p₀.portId = A.dest j ∧ p₀.portNum = A.portNum j)
      (width : q.linkWidth = p₀.linkWidth) (watches : q.Watches base) (files : q.path = A.file j)
      (mad : r = .both hw) (compat : r' = .both hw') (split : ∀ v, hw' v = base v + hw v) :
      TwinPorts A j r r' (.mad p) (.compat q)

namespace TwinPorts

variable {build : Build} {A : Adapter} {j : ℕ} {io : PortIo} {r r' : Registers} {p q : Port}

theorem traffic (h : TwinPorts A j r r' p q) (d : HwCounters) :
    TwinPorts A j (r.count d) (r'.count d) p q := by
  obtain ⟨settled, capable, address, width, watches, files, rfl, rfl, split⟩ := h
  refine .intro settled capable address width watches files (Registers.count_both _ d)
    (Registers.count_both _ d) fun v => ?_
  rw [split v, Nat.add_assoc]

/-- What the hardware answers is what the port gets to see. -/
theorem shows_of_answers {p : IbPort} {hw : HwCounters}
    (address : p.portId = A.dest j ∧ p.portNum = A.portNum j)
    (answers : A.Answers j (.both hw) io.mad) (build : Build) :
    ∃ replies, IbPort.Shows build io.mad p hw replies := by
  obtain ⟨ext, hext, extShows⟩ := answers.ext 0
  obtain ⟨errors, herrors, errorsShow⟩ := answers.std 1
  obtain ⟨rest, hrest, restShows⟩ := answers.std 2
  rw [← address.1, ← address.2] at hext herrors hrest
  exact ⟨⟨ext, errors, rest⟩, ⟨hext, fun _ => herrors, hrest⟩, extShows, fun _ => errorsShow,
    restShows⟩

theorem shows_of_filesShow {q : IbPortCompat} {hw : HwCounters} (files : q.path = A.file j)
    (shows : A.FilesShow j (.both hw) io.files) : IbPortCompat.Shows io.files q hw := by
  intro v
  have shown := shows v
  rwa [Registers.number_both, ← files] at shown

/-- A refresh returns on both sides, and then both ports show the same. -/
theorem refresh (h : TwinPorts A j r r' p q) (answers : A.Answers j r io.mad)
    (shows : A.FilesShow j r' io.files) :
    ∃ p' q', Eff.Returns (Port.refreshCounters build io) p () p' ∧
      Eff.Returns (Port.refreshCounters build io) q () q' ∧ TwinPorts A j r r' p' q' ∧
      ∀ v, p'.counters v = q'.counters v := by
  obtain ⟨settled, capable, address, width, watches, files, rfl, rfl, split⟩ := h
  rename_i p₀ p q base hw hw'
  have addressed : p.portId = A.dest j ∧ p.portNum = A.portNum j :=
    ⟨settled.address.1.trans address.1, settled.address.2.trans address.2⟩
  obtain ⟨replies, shown⟩ := shows_of_answers addressed answers build
  have ends := IbPort.returns_refresh_shows settled capable shown
  have settled' := IbPort.settled_call build settled (.refresh, io.mad)
  rw [IbPort.call, ends.after_eq] at settled'
  obtain ⟨t, ends', watches', value⟩ :=
    IbPortCompat.returns_refresh_shows watches (shows_of_filesShow files shows)
  refine ⟨_, _, Port.returns_refreshCounters_mad.mpr ⟨_, ends, rfl⟩,
    Port.returns_refreshCounters_compat.mpr ⟨_, ends', rfl⟩,
    .intro settled' capable address width watches' files rfl rfl split, fun v => ?_⟩
  have difference : UInt64.ofNat (hw' v) - UInt64.ofNat (base v) = UInt64.ofNat (hw v) :=
    Meter.shown_of_eq_add (m := ⟨hw' v, base v, hw v⟩) (split v)
  have shown : t.counters v = IbPort.shown p₀.linkWidth hw v := by
    rw [value v, difference, width]
    rfl
  exact shown.symm

/-- A reset returns on both sides; the first hardware is to be cleared, the other one
remembered. -/
theorem reset (h : TwinPorts A j r r' p q) (grants : A.Grants j io.mad)
    (shows : A.FilesShow j r' io.files) :
    ∃ p' q', Eff.Returns (Port.resetCounters io) p () p' ∧
      Eff.Returns (Port.resetCounters io) q () q' ∧
      TwinPorts A j (.both fun _ => 0) r' p' q' := by
  obtain ⟨settled, capable, address, width, watches, files, rfl, rfl, split⟩ := h
  rename_i p₀ p q base hw hw'
  have granted : IbPort.GrantsReset io.mad p := by
    rw [IbPort.GrantsReset, settled.address.1, settled.address.2, address.1, address.2]
    exact ⟨grants _ _, grants _ _⟩
  have ends := IbPort.returns_reset_granted granted
  have settled' : IbPort.Settled p₀ (p.withCounters fun _ => 0) := by
    obtain ⟨c, rfl, -⟩ := settled
    exact ⟨fun _ => 0, rfl, fun _ _ => rfl⟩
  obtain ⟨t, ends', watches'⟩ :=
    IbPortCompat.returns_reset_shows watches (shows_of_filesShow files shows)
  exact ⟨_, _, Port.returns_resetCounters_mad.mpr ⟨_, ends, rfl⟩,
    Port.returns_resetCounters_compat.mpr ⟨_, ends', rfl⟩,
    .intro settled' capable address width watches' files rfl rfl fun _ => rfl⟩

/-- The requests of a reset of the first port are those that clear its registers. -/
theorem receiveAll_reset {calls : List ExtCall} (h : TwinPorts A j r r' p q)
    (grants : A.Grants j io.mad) (made : p.requests build .reset io ⊆ calls) (r₀ : Registers) :
    A.receiveAll j calls r₀ = .both fun _ => 0 := by
  obtain ⟨settled, capable, address, width, watches, files, rfl, rfl, split⟩ := h
  rename_i p₀ p q base hw hw'
  rw [Port.requests, IbPort.resetRequests, settled.address.1, settled.address.2, address.1,
    address.2, if_pos (grants _ _)] at made
  exact Adapter.receiveAll_of_requests (made List.mem_cons_self)
    (made (List.mem_cons_of_mem _ List.mem_cons_self))

end TwinPorts

namespace Twins

/-- The ports of the two nodes correspond. -/
def Sim (A : Adapter) (s : Twins) : Prop :=
  Pointwise (fun j => TwinPorts A j (s.madHw j) (s.compatHw j)) s.mad.ports s.compat.ports

/-- The two nodes and their ports show the same. -/
structure Agree (n c : IbNode) : Prop where
  node : ∀ v, n.counters v = c.counters v
  ports : Pointwise (fun _ p q => ∀ v, p.counters v = q.counters v) n.ports c.ports

variable {build : Build} {A : Adapter} {s : Twins} {io : NodeIo}

/-- Calls reach the second hardware from nowhere. -/
theorem calls_compat (sim : s.Sim A) (op : CounterOp) :
    ((IbNode.call build op io).run s.compat).calls = [] := by
  rw [IbNode.calls_call build op (fun _ => io) 0]
  refine List.flatMap_eq_nil_iff.mpr fun ⟨q, i, j⟩ visited => ?_
  obtain ⟨p, -, twins⟩ := sim.source (IbNode.place_of_mem_visits visited).2
  rw [Port.calls_call]
  cases twins
  rfl

/-- A refresh leaves the first hardware alone. -/
theorem receiveAll_refresh (n : IbNode) (j : ℕ) (r : Registers) :
    A.receiveAll j ((IbNode.call build .refresh io).run n).calls r = r := by
  refine Adapter.receiveAll_of_queries fun c hc => ?_
  rw [IbNode.calls_call build .refresh (fun _ => io) 0] at hc
  obtain ⟨⟨p, i, k⟩, -, made⟩ := List.mem_flatMap.mp hc
  rw [Port.calls_call] at made
  exact Port.query_of_mem_requests made

/-- A refresh of both nodes returns, keeps the correspondence, and makes them agree. -/
theorem sim_refresh (sim : s.Sim A) (faithful : s.Faithful A (.call .refresh io)) (build : Build) :
    ∃ n c, Eff.Returns (IbNode.call build .refresh io) s.mad () n ∧
      Eff.Returns (IbNode.call build .refresh io) s.compat () c ∧
      Pointwise (fun j => TwinPorts A j (s.madHw j) (s.compatHw j)) n.ports c.ports ∧
      Agree n c := by
  obtain ⟨ports, ports', each, each', after⟩ : ∃ ports ports',
      Eff.Each (fun j => Port.refreshCounters build (io j)) 0 s.mad.ports ports ∧
      Eff.Each (fun j => Port.refreshCounters build (io j)) 0 s.compat.ports ports' ∧
      Pointwise (fun j p q => TwinPorts A j (s.madHw j) (s.compatHw j) p q ∧
        ∀ v, p.counters v = q.counters v) ports ports' :=
    sim.each fun j p q twins hp hq => twins.refresh (faithful.2 j p hp) (faithful.1 j q hq)
  have same := after.imp fun _ _ _ h => h.2
  exact ⟨_, _, IbNode.returns_refreshCounters.mpr ⟨_, each, rfl⟩,
    IbNode.returns_refreshCounters.mpr ⟨_, each', rfl⟩, after.imp fun _ _ _ h => h.1,
    fun v => congrFun (IbNode.total_congr same) v, same⟩

/-- A reset of both nodes returns and keeps the correspondence, when the first hardware receives the
requests that the reset makes. -/
theorem sim_reset (sim : s.Sim A) (faithful : s.Faithful A (.call .reset io)) (build : Build) :
    ∃ n c, Eff.Returns (IbNode.call build .reset io) s.mad () n ∧
      Eff.Returns (IbNode.call build .reset io) s.compat () c ∧
      Pointwise (fun j => TwinPorts A j
        (A.receiveAll j ((IbNode.call build .reset io).run s.mad).calls (s.madHw j))
        (s.compatHw j)) n.ports c.ports := by
  obtain ⟨ports, ports', each, each', after⟩ : ∃ ports ports',
      Eff.Each (fun j => Port.resetCounters (io j)) 0 s.mad.ports ports ∧
      Eff.Each (fun j => Port.resetCounters (io j)) 0 s.compat.ports ports' ∧
      Pointwise (fun j p' q' => TwinPorts A j (.both fun _ => 0) (s.compatHw j) p' q' ∧
        ∃ p, s.mad.ports[j]? = some p) ports ports' := by
    refine sim.each fun j p q twins hp hq => ?_
    obtain ⟨p', q', ends, ends', after⟩ := twins.reset (faithful.2 j p hp) (faithful.1 j q hq)
    exact ⟨p', q', ends, ends', after, p, hp⟩
  have ends : Eff.Returns (IbNode.call build .reset io) s.mad () _ :=
    IbNode.returns_resetCounters.mpr ⟨_, each, rfl⟩
  refine ⟨_, _, ends, IbNode.returns_resetCounters.mpr ⟨_, each', rfl⟩, after.imp ?_⟩
  rintro j p' q' ⟨twins, p, hp⟩
  obtain ⟨q, hq, before⟩ := sim.target hp
  rwa [before.receiveAll_reset (faithful.2 j p hp) (IbNode.requests_subset_of_returns ends hp)]

/-- Every faithful event preserves the correspondence. -/
theorem sim_step (sim : s.Sim A) {e : TwinEvent} (faithful : s.Faithful A e) :
    (s.step build A e).Sim A := by
  cases e with
  | traffic d => exact sim.imp fun j p q twins => twins.traffic (d j)
  | call op io =>
    have silent : ∀ j r, A.receiveAll j ((IbNode.call build op io).run s.compat).calls r = r :=
      fun j r => by rw [calls_compat sim op]; rfl
    cases op with
    | reset =>
      obtain ⟨n, c, ends, ends', after⟩ := sim_reset sim faithful build
      simp only [Sim, step, ends.2, ends'.2, silent]
      exact after
    | refresh =>
      obtain ⟨n, c, ends, ends', after, -⟩ := sim_refresh sim faithful build
      simp only [Sim, step, ends.2, ends'.2, silent, receiveAll_refresh]
      exact after

theorem sim_run (sim : s.Sim A) {events rest : List TwinEvent}
    (faithful : s.FaithfulRun build A (events ++ rest)) :
    (run build A events s).Sim A ∧ (run build A events s).FaithfulRun build A rest := by
  induction events generalizing s with
  | nil => exact ⟨sim, faithful⟩
  | cons e events ih => exact ih (sim_step sim faithful.1) faithful.2

end Twins

/-! ## Agreement -/

/-- Ports of the same width that were just constructed for a port of the adapter: a MAD port with
all capabilities, not of a switch, and a compatibility port. -/
inductive CreatedTwins (build : Build) (A : Adapter) (j : ℕ) : Port → Port → Prop where
  | intro {a : MadAnswers} {m m' k k' : ℕ} {p : IbPort} {readable : String → Bool}
      {attributes : IbvPortAttr} {q : IbPortCompat}
      (mad : Eff.Returns (IbPort.create build a (A.lid j) (A.portNum j)) m p m')
      (capable : p.FullyCapable)
      (compat : Eff.Returns (IbPortCompat.create readable A.deviceName attributes (A.portNum j))
        k q k')
      (width : q.linkWidth = p.linkWidth) : CreatedTwins build A j (.mad p) (.compat q)

/-- In every faithful run of two copies of an adapter that start with the same hardware
counters, the calls of both nodes return, and after every refresh the nodes and their ports
show the same. -/
theorem modes_agree (build : Build) (A : Adapter) (n c : IbNode)
    (created : Pointwise (CreatedTwins build A) n.ports c.ports) (hw : ℕ → HwCounters)
    (events : List TwinEvent)
    (faithful : Twins.FaithfulRun build A (Twins.start n c hw) events)
    (pre : List TwinEvent) (op : CounterOp) (io : NodeIo) (post : List TwinEvent)
    (split : events = pre ++ .call op io :: post) :
    let s := Twins.run build A pre (Twins.start n c hw)
    ∃ n' c', Eff.Returns (IbNode.call build op io) s.mad () n' ∧
      Eff.Returns (IbNode.call build op io) s.compat () c' ∧
      (op = .refresh → Twins.Agree n' c') := by
  intro s
  have start : (Twins.start n c hw).Sim A := created.imp fun j p q twins => by
    obtain ⟨mad, capable, compat, width⟩ := twins
    obtain ⟨-, -, portNum, -, portId, -⟩ := IbPort.returns_create mad
    exact .intro (IbPort.settled_of_create mad) capable ⟨portId, portNum⟩ width
      (IbPortCompat.watches_of_create compat) (IbPortCompat.path_of_create compat) rfl rfl
      fun v => (Nat.zero_add _).symm
  rw [split] at faithful
  obtain ⟨sim, rest⟩ := Twins.sim_run start faithful
  cases op with
  | reset =>
    obtain ⟨n', c', ends, ends', -⟩ := Twins.sim_reset sim rest.1 build
    exact ⟨n', c', ends, ends', by simp⟩
  | refresh =>
    obtain ⟨n', c', ends, ends', -, agree⟩ := Twins.sim_refresh sim rest.1 build
    exact ⟨n', c', ends, ends', fun _ => agree⟩

/-! ## Example -/

/-- A channel adapter of width 4 with all capabilities, all of whose counters are `m`. -/
def IbPort.capableDevice (m : ℕ) : MadAnswers where
  openPort := true
  pma _ _ _ _ := some (uniformReply m)
  smp _ _ _ := some {
    byte := fun _ => 0
    decode32 := fun
      | .nodeType => ibNodeCa
      | .portLinkWidthActive => 2
      | _ => 0
    decode64 := fun _ => 0 }
  reset _ _ _ _ := true

/-- The port that is constructed for it. -/
def IbPort.capablePort : IbPort where
  counters := IbPerfCounter.init
  lid := 3
  portNum := 1
  linkWidth := 4
  madPort := some ⟨.madPort, 0⟩
  portId := ibPortidSet 3 0 0
  nodeType := ibNodeCa
  isExtendedWidthSupported := true
  isAdditionalExtendedPortCountersSupported := true
  isXmitWaitSupported := true

theorem IbPort.create_capablePort (build : Build) (little : build.byteOrder = .little) (m : ℕ) :
    Eff.Returns (create build (capableDevice m) 3 1) 0 capablePort 1 := by
  have extendedWidth : memcpy16 .little (fun _ => 0xff) 2 &&& ibPmExtWidthSupported .little ≠ 0 := by
    decide
  have xmitWait : memcpy16 .little (fun _ => 0xff) 2 &&& ibPmPcXmitWaitSup .little ≠ 0 := by decide
  have additional : htonl .little (htonl .little (memcpy32 .little (fun _ => 0xff) 4) >>> 5) &&&
      ibPmIsAddlPortCtrsExtSup .little ≠ 0 := by decide
  refine returns_create_iff.mpr ⟨⟨rfl, rfl⟩, _, _, _, rfl, rfl, rfl, ?_⟩
  simp [capablePort, built, uniformReply, little, decode8, extendedWidth, xmitWait, additional,
    calcLinkWidth]

/-- Files and replies that show `m` and `k` everywhere. -/
def uniformIo (m k : ℕ) : NodeIo := fun _ => ⟨IbPort.capableDevice k, everyFileShows m⟩

/-- The adapter with this port. -/
def capableAdapter : Adapter where
  deviceName := "mlx5_0"
  lid _ := 3
  portNum _ := 1

theorem Adapter.answers_capableDevice (A : Adapter) (j : ℕ) {k : ℕ} (small : k < 2 ^ 32) :
    A.Answers j (.both fun _ => k) (IbPort.capableDevice k) where
  std _ := ⟨_, rfl, fun _ _ _ => UInt32.toNat_ofNat_of_lt' (by simp only [UInt32.size]; omega)⟩
  ext _ := ⟨_, rfl, fun _ _ _ => UInt64.toNat_ofNat_of_lt' (by simp only [UInt64.size]; omega)⟩

theorem Adapter.filesShow_everyFileShows (A : Adapter) (j : ℕ) {m : ℕ} (small : m < 2 ^ 64) :
    A.FilesShow j (.both fun _ => m) (everyFileShows m) := by
  rw [FilesShow, Registers.number_both]
  exact everyFileShows_wellFormed (A.file j) .refresh small

/-- Both copies count 7, are reset, count 5, and are refreshed: 20 bytes and 5 packets. -/
theorem modes_agree_after_reset :
    let build : Build := ⟨true, .little⟩
    let n := IbNode.plain build (.mad IbPort.capablePort)
    let c := IbNode.plain build .plainCompat
    let events := [.traffic fun _ _ => 7, .call .reset (uniformIo 7 7), .traffic fun _ _ => 5]
    let s := Twins.run build capableAdapter events (Twins.start n c fun _ _ => 0)
    ∃ n' c', Eff.Returns (IbNode.call build .refresh (uniformIo 12 5)) s.mad () n' ∧
      Eff.Returns (IbNode.call build .refresh (uniformIo 12 5)) s.compat () c' ∧
      Twins.Agree n' c' ∧ n'.counters .xmitDataBytes = 20 ∧ n'.counters .xmitPkts = 5 := by
  intro build n c events
  have created : Pointwise (CreatedTwins build capableAdapter) n.ports c.ports := by
    refine ⟨rfl, fun j p q hp hq => ?_⟩
    obtain rfl : p = .mad IbPort.capablePort := by
      simpa [n, IbNode.plain] using List.mem_of_getElem? hp
    obtain rfl : q = .plainCompat := by simpa [c, IbNode.plain] using List.mem_of_getElem? hq
    exact .intro (IbPort.create_capablePort build rfl 0) ⟨rfl, rfl, rfl, by decide⟩
      (IbPortCompat.create_opened "mlx5_0" ⟨3, 2⟩ 1 0) rfl
  have faithful : Twins.FaithfulRun build capableAdapter (Twins.start n c fun _ _ => 0)
      (events ++ [.call .refresh (uniformIo 12 5)]) := by
    refine ⟨trivial, ⟨fun j q _ => ?_, fun j p _ _ _ => rfl⟩, trivial,
      ⟨fun j q _ => ?_, fun j p _ => ?_⟩, trivial⟩
    · exact capableAdapter.filesShow_everyFileShows j (m := 7) (by omega)
    · exact capableAdapter.filesShow_everyFileShows j (m := 12) (by omega)
    · exact capableAdapter.answers_capableDevice j (k := 5) (by omega)
  obtain ⟨n', c', ends, ends', agree⟩ :=
    modes_agree build capableAdapter n c created (fun _ _ => 0) _ faithful events .refresh _ [] rfl
  refine ⟨n', c', ends, ends', agree rfl, ?_, ?_⟩
  · obtain ⟨-, rfl⟩ := ends
    decide +kernel
  · obtain ⟨-, rfl⟩ := ends
    decide +kernel

end Detector
