import Detector.FileRecovery
import Detector.Resets

/-!
# Refreshes that throw

Nothing rolls a refresh back: clients catch its exception and go on with what it left. This
module says what that is. A MAD port has the values of the queries before the one that failed, a
file-backed counter those of the streams before the first one that is not good. A node has
refreshed the ports before the one that threw, left the later ones alone, and shows the sums of
the ports before it as its own counters.
-/
namespace Detector

open Cpp

/-! ## MAD ports -/

namespace IbPort

/-- The answer to query number `k` of a refresh. -/
def answer (a : MadAnswers) (p : IbPort) (k : ℕ) : Option MadBuf :=
  a.pma k p.portId p.portNum (if k = 0 then .gsiPortCountersExt else .gsiPortCounters)

/-- The buffer that query number `k` fills. -/
def Replies.buf (r : Replies) : ℕ → MadBuf
  | 0 => r.ext
  | 1 => r.errors
  | _ => r.rest

/-- The second query is only made when the extended buffer does not have the error counters. -/
def makes (build : Build) (p : IbPort) (k : ℕ) : Bool := k != 1 || !p.usesExtErrors build

/-- Query number `k` is the first one of a refresh that fails. -/
structure FailsAt (build : Build) (a : MadAnswers) (p : IbPort) (r : Replies) (k : ℕ) :
    Prop where
  lt_three : k < 3
  made : p.makes build k = true
  failed : answer a p k = none
  answered : ∀ i < k, p.makes build i = true → answer a p i = some (r.buf i)

/-- A refresh that throws has assigned what the queries before the failing one provide. -/
theorem failsAt_of_throws {build : Build} {a : MadAnswers} {p q : IbPort} {e : IbPerfException}
    (h : Eff.Throws (refreshCounters build a) p e q) :
    ∃ r k, FailsAt build a p r k ∧ q = p.refreshedTo build r k := by
  obtain ⟨r, ends⟩ : ∃ r, RefreshEnds build a p r := refreshCounters_ends
  refine ⟨r, ?_⟩
  cases ends with
  | noExt ext ends =>
    exact ⟨0, ⟨by omega, rfl, ext, by omega⟩, h.2.symm.trans ends.2⟩
  | noErrors ext path errors ends =>
    refine ⟨1, ⟨by omega, by simp [makes, path], errors, fun i hi _ => ?_⟩, h.2.symm.trans ends.2⟩
    obtain rfl : i = 0 := by omega
    exact ext
  | noRest ext errors rest ends =>
    refine ⟨2, ⟨by omega, rfl, rest, fun i hi made => ?_⟩, h.2.symm.trans ends.2⟩
    obtain rfl | rfl : i = 0 ∨ i = 1 := by omega
    · exact ext
    · exact errors (by simpa [makes] using made)
  | done _ _ _ ends => exact absurd h ends.not_throws

end IbPort

/-! ## File-backed counters -/

/-- The stream of entry `b` is the first that is not good; the variables of the entries before
it have new values, and all others are as they were. -/
structure FileCounters.StopsAt {ι : Type} {n : ℕ} (table : CounterTable ι n)
    (scale : ι → UInt64 → UInt64) (io : Reads) (s t : FileCounters ι n)
    (pre : List (ι × Fin n)) (b : ι × Fin n) : Prop where
  split : ∃ post, table.entries = pre ++ b :: post
  good : ∀ e ∈ pre, (s.reader.files e.2).good = true
  bad : (s.reader.files b.2).good = false
  assigned : ∀ e ∈ pre, t.counters e.1 =
    scale e.1 ((io (s.reader.files e.2).path).value 128 - s.reader.baseValues e.2)
  kept : ∀ v, v ∉ pre.map Prod.fst → t.counters v = s.counters v

theorem FileCounters.stopsAt_of_throws {ι : Type} {n : ℕ} [DecidableEq ι]
    {table : CounterTable ι n} {scale : ι → UInt64 → UInt64} {io : Reads}
    {s t : FileCounters ι n} {e : IbPerfException}
    (h : Eff.Throws (refreshWith table scale io) s e t) :
    ∃ pre b, StopsAt table scale io s t pre b := by
  cases refreshWith_ends table scale io s with
  | done _ _ ends => exact absurd h ends.not_throws
  | stopped u pre b post split good bad ends effect =>
    obtain rfl : u = t := ends.2.symm.trans h.2
    refine ⟨pre, b, ⟨post, split⟩, good, bad, fun e he => ?_, effect.kept⟩
    rw [effect.assigned e he, InStream.taken_of_not_fail (IoState.fail_of_good (good e he))]

/-! ## Ports and nodes -/

/-- What a refresh that throws leaves of a port. -/
inductive Port.LeftBy (build : Build) (io : PortIo) : Port → Port → Prop where
  | mad {p : IbPort} {r : IbPort.Replies} {k : ℕ} (fails : IbPort.FailsAt build io.mad p r k) :
      LeftBy build io (.mad p) (.mad (p.refreshedTo build r k))
  | compat {p : IbPortCompat} {t : FileCounters PerfVar 21} {pre : List (PerfVar × Fin 21)}
      {b : PerfVar × Fin 21} (stops : FileCounters.StopsAt IbPortCompat.table
        (IbPortCompat.scale p.linkWidth) io.files p.fileCounters t pre b) :
      LeftBy build io (.compat p) (.compat (p.withFileCounters t))

theorem Port.leftBy_of_throws {build : Build} {io : PortIo} {p p' : Port} {e : IbPerfException}
    (h : Eff.Throws (refreshCounters build io) p e p') : LeftBy build io p p' := by
  cases p with
  | mad p =>
    obtain ⟨q, ends, rfl⟩ := throws_refreshCounters_mad.mp h
    obtain ⟨r, k, fails, rfl⟩ := IbPort.failsAt_of_throws ends
    exact .mad fails
  | compat p =>
    obtain ⟨q, ends, rfl⟩ := throws_refreshCounters_compat.mp h
    obtain ⟨_, _, got, rest⟩ := (Eff.throws_bind.mp ends).resolve_left Eff.throws_get
    obtain ⟨rfl, rfl⟩ := Eff.returns_get.mp got
    obtain ⟨t, thrown, rfl⟩ := Eff.throws_focus.mp rest
    obtain ⟨pre, b, stops⟩ := FileCounters.stopsAt_of_throws thrown
    exact .compat stops

/-- What a refresh that throws leaves of a node: some first ports are refreshed, one is left
half-way, the later ones are as they were, and the node shows the sums of the first ones. -/
inductive IbNode.LeftBy (build : Build) (io : NodeIo) (n : IbNode) : IbNode → Prop where
  | stopped {pre post pre' : List Port} {p p' : Port} (split : n.ports = pre ++ p :: post)
      (refreshed : Eff.Each (fun j => Port.refreshCounters build (io j)) 0 pre pre')
      (last : Port.LeftBy build (io pre.length) p p') :
      LeftBy build io n (n.withBody (pre' ++ p' :: post, total pre'))

theorem IbNode.leftBy_of_throws {build : Build} {io : NodeIo} {n n' : IbNode}
    {e : IbPerfException} (h : Eff.Throws (refreshCounters build io) n e n') :
    LeftBy build io n n' := by
  obtain ⟨pre, p, post, pre', p', split, refreshed, ends, rfl⟩ := throws_refreshCounters h
  exact .stopped split refreshed (Port.leftBy_of_throws ends)

/-- In every state of a fabric or of a diagnostic counter that calls with any outcomes lead to,
a refresh of a port, of a node or of the diagnostic counter that throws leaves exactly what it
had done before the failure. -/
theorem failed_refresh_leaves_done_part (build : Build) :
    (∀ std a network compatibility m f m',
      Eff.Returns (IbFabric.create std build a network compatibility) m f m' →
      ∀ calls (i : ℕ) (n : IbNode), (Eff.runs (IbFabric.call build) calls f).nodes[i]? = some n →
        (∀ io e n', Eff.Throws (IbNode.refreshCounters build io) n e n' →
          IbNode.LeftBy build io n n') ∧
        ∀ (j : ℕ) (p : Port), n.ports[j]? = some p → ∀ io e p',
          Eff.Throws (Port.refreshCounters build io) p e p' → Port.LeftBy build io p p') ∧
    (∀ readable deviceName portNumber m o m',
      Eff.Returns (IbDiagPerfCounter.create readable deviceName portNumber) m o m' →
      ∀ calls io e o',
        let q := Eff.runs IbDiagPerfCounter.call calls o
        Eff.Throws (IbDiagPerfCounter.refreshCounters io) q e o' →
        ∃ pre b, FileCounters.StopsAt IbDiagPerfCounter.table (fun _ x => x) io
          q.toFileCounters o'.toFileCounters pre b) := by
  constructor
  · intro std a network compatibility m f m' _ calls i n _
    exact ⟨fun io e n' => IbNode.leftBy_of_throws, fun j p _ io e p' => Port.leftBy_of_throws⟩
  · intro readable deviceName portNumber m o m' _ calls io e o' q h
    obtain ⟨t, ends, rfl⟩ := Eff.throws_focus.mp h
    exact FileCounters.stopsAt_of_throws ends

/-! ## Examples -/

/-- A channel adapter whose second query fails. -/
def IbPort.secondQueryFails (xmit : UInt64) : MadAnswers where
  openPort := true
  pma n _ _ _ := if n = 1 then none else some (plainReply xmit 0)
  smp _ _ _ := none
  reset _ _ _ _ := true

/-- Files that show nothing, and queries of which the second one fails. -/
def secondQueryFails (xmit : UInt64) : PortIo := ⟨IbPort.secondQueryFails xmit, empty⟩

/-- In MAD mode a port showed 28 bytes, 4 times 7, and so did its node. A refresh whose second
query fails changes both: the port has the new 36 bytes and the node 0. -/
theorem failed_refresh_changes_getters :
    let build : Build := ⟨true, .little⟩
    let f := IbFabric.plain build .plainMad
    let g := Eff.runs (IbFabric.call build) [⟨.refresh, .fabric, everyPortShows 7⟩] f
    Eff.Returns (IbFabric.create (.stable _) build .plain false false) 0 f 3 ∧
      ∃ n p, g.nodes = [n] ∧ n.ports = [p] ∧
        n.getXmitDataBytes = 28 ∧ p.toIbPort.getXmitDataBytes = 28 ∧
        (∃ e n', Eff.Throws (IbNode.refreshCounters build fun _ => secondQueryFails 9) n e n' ∧
          n'.getXmitDataBytes = 0) ∧
        ∃ e p', Eff.Throws (Port.refreshCounters build (secondQueryFails 9)) p e p' ∧
          p'.toIbPort.getXmitDataBytes = 36 := by
  intro build f g
  refine ⟨IbFabric.create_plainMad _ build rfl, _, _, rfl, rfl, ?_, ?_, ?_, ?_⟩
  · decide
  · decide
  · exact ⟨_, _, ⟨rfl, rfl⟩, by decide⟩
  · exact ⟨_, _, ⟨rfl, rfl⟩, by decide⟩

/-- A node whose two ports showed 28 bytes, of which the second one fails: the node shows the 32
bytes of the first one, and the second one 36. And a diagnostic counter after an empty read. -/
theorem failed_refresh_leaves_done_part_mad :
    let build : Build := ⟨true, .little⟩
    let io : NodeIo := fun j => if j = 0 then everyPortShows 8 0 0 else secondQueryFails 9
    let o := IbDiagPerfCounter.opened "mlx5_0" 1
    let q := Eff.runs IbDiagPerfCounter.call [(.refresh, empty)] o
    (∃ n n', (Eff.runs (IbFabric.call build) [⟨.refresh, .fabric, everyPortShows 7⟩]
          ⟨none, [.dual]⟩).nodes[0]? = some n ∧ n.getXmitDataBytes = 56 ∧
        IbNode.LeftBy build io n n' ∧ n'.getXmitDataBytes = 32 ∧
        n'.ports.map (fun p => p.counters .xmitDataBytes) = [32, 36]) ∧
    ∃ (o' : IbDiagPerfCounter) (pre : _) (b : _), FileCounters.StopsAt IbDiagPerfCounter.table
      (fun _ x => x) (everyFileShows 7) q.toFileCounters o'.toFileCounters pre b := by
  intro build io o q
  have law := failed_refresh_leaves_done_part build
  constructor
  · have created := IbFabric.create_dual (.stable _)
    have left := law.1 _ _ _ _ _ _ _ created [⟨.refresh, .fabric, everyPortShows 7⟩] 0 _ rfl
    exact ⟨_, _, rfl, by decide, left.1 io _ _ ⟨rfl, rfl⟩, by decide, by decide⟩
  · exact ⟨_, law.2 _ _ _ _ _ _ (IbDiagPerfCounter.create_opened "mlx5_0" 1 0)
      [(.refresh, empty)] (everyFileShows 7) _ _ ⟨rfl, rfl⟩⟩

end Detector
