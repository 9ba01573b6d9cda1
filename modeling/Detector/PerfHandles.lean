import Detector.CreationFailures
import Detector.PortCalls

/-!
# The handles of `perftest`

From its constructor to its destructor the fabric of `perftest` is refreshed any number of times, and
each refresh may fail. The refreshes only query ports, so what is open when the program returns is
decided by the discovery alone.

## Main results

* `PerfTest.calls_main` — the external calls of the program, in their order.
* `PerfTest.main_closes_iff` — when the program gives back every handle that it was given.
-/
namespace Detector

open Cpp

/-! ## Calls that move no handle -/

theorem openAfter_of_keep {calls : List ExtCall} (h : ∀ c ∈ calls, desk.move c = .keep)
    (S : Finset Handle) : desk.openAfter calls S = some S := by
  induction calls with
  | nil => rfl
  | cons c calls ih =>
    have first : desk.applyCall S c = some S := by rw [Desk.applyCall, h c List.mem_cons_self]
    rw [Desk.openAfter_cons, first]
    exact ih fun d hd => h d (List.mem_cons_of_mem c hd)

theorem Port.keeps_requests (build : Build) (op : CounterOp) (io : PortIo) (p : Port) :
    ∀ c ∈ p.requests build op io, desk.move c = .keep := by
  intro c hc
  cases p with
  | compat p => cases hc
  | mad p =>
    cases op with
    | reset =>
      simp only [requests, IbPort.resetRequests] at hc
      split at hc <;> simp only [List.mem_cons, List.not_mem_nil, or_false] at hc
      · obtain rfl | rfl := hc <;> rfl
      · rw [hc]
        rfl
    | refresh =>
      simp only [requests, IbPort.refreshRequests] at hc
      split_ifs at hc <;> simp only [List.mem_cons, List.not_mem_nil, or_false] at hc
      · rw [hc]
        rfl
      · obtain rfl | rfl := hc <;> rfl
      · obtain rfl | rfl | rfl := hc <;> rfl

namespace IbFabric

theorem keeps_call (build : Build) (c : FabricCall) (f : IbFabric) :
    ∀ k ∈ ((call build c).run f).calls, desk.move k = .keep := by
  intro k hk
  rw [calls_call] at hk
  obtain ⟨x, -, made⟩ := List.mem_flatMap.mp hk
  rw [Port.calls_call] at made
  exact Port.keeps_requests build c.op _ x.1 k made

theorem Moved.owned {f g : IbFabric} (h : f.Moved g) : g.owned = f.owned := by
  have node : ∀ {n n' : IbNode}, n.Moved n' → heldBy n.ports = heldBy n'.ports := by
    intro n n' moved
    rw [heldBy, heldBy, List.flatMap_def, List.flatMap_def, moved.ports.map_eq]
    intro i p p' same
    cases same <;> rfl
  have nodes : heldByNodes f.nodes = heldByNodes g.nodes := by
    rw [heldByNodes, heldByNodes, List.flatMap_def, List.flatMap_def, h.nodes.map_eq]
    exact fun i n n' same => node same
  rw [IbFabric.owned, IbFabric.owned, h.fabric, nodes]

end IbFabric

/-! ## The program -/

namespace PerfTest

theorem calls_round (build : Build) (io : FabricIo) (f : IbFabric) (out : OutStream) :
    ((round build io).run (f, out)).calls = ((IbFabric.refreshCounters build io).run f).calls := by
  rw [round, Eff.calls_rescue fun _ _ => rfl, Eff.calls_then_silent fun _ _ => rfl]
  rfl

/-- Printing makes no external call. -/
theorem calls_loop (build : Build) (rounds : List FabricIo) (f : IbFabric) (t : List Char) :
    ((loop build rounds).run (f, ⟨t, .dec⟩)).calls =
      Eff.traces (IbFabric.refreshCounters build) rounds f := by
  induction rounds generalizing f t with
  | nil => rfl
  | cons io rounds ih =>
    have split : loop build (io :: rounds) = round build io >>= fun _ => loop build rounds := rfl
    rw [split, (returns_round build io f t).calls_then, calls_round, ih]
    rfl

section Main

variable (std : StdSort IbNode) (config : BuildConfig) (build : Build) {argv : List String}
  {a : DiscoveryAnswers} (rounds : List FabricIo) {network compat : Bool}

theorem calls_main (args : parseArgs argv = some (network, compat)) {m m' : ℕ} {f : IbFabric}
    (created : Eff.Returns (IbFabric.create std build a network compat) m f m') :
    ((main std config build argv a rounds).run ⟨m, .fresh⟩).calls =
      ((IbFabric.create std build a network compat).run m).calls ++
        (Eff.traces (IbFabric.refreshCounters build) rounds f ++
          (Eff.runs (IbFabric.refreshCounters build) rounds f).destroy) := by
  have built := returns_newFabric created ⟨banner config build, .dec⟩
  have looped := returns_refreshFabric build rounds m' f (banner config build)
  simp only [main, args]
  rw [(returns_banner config build m).calls_then, built.calls_then, looped.calls_then,
    Eff.calls_forM_emit]
  have first : ((newFabric std build a network compat).run ⟨m, ⟨banner config build, .dec⟩⟩).calls =
      ((IbFabric.create std build a network compat).run m).calls := Eff.calls_mapThrow
  have second : ((refreshFabric build rounds f).run ⟨m', ⟨banner config build, .dec⟩⟩).calls =
      Eff.traces (IbFabric.refreshCounters build) rounds f := by
    rw [refreshFabric, Eff.calls_mapThrow, Eff.run_focus, Eff.calls_withLocal, calls_loop]
  rw [first, second]
  rfl

theorem keeps_traces (f : IbFabric) :
    ∀ c ∈ Eff.traces (IbFabric.refreshCounters build) rounds f, desk.move c = .keep := by
  intro c hc
  obtain ⟨pre, io, post, -, made⟩ := Eff.mem_traces hc
  exact IbFabric.keeps_call build ⟨.refresh, .fabric, io⟩ _ c made

/-- A run that gets to its end has closed everything that it opened, whatever its refreshes met,
exactly when the discovery was a clean one: no device was skipped with a handle still open. -/
theorem main_closes_iff (args : parseArgs argv = some (network, compat)) {m m' : ℕ} {f : IbFabric}
    (created : Eff.Returns (IbFabric.create std build a network compat) m f m')
    {S : Finset Handle} (older : ∀ h ∈ S, h.id < m) :
    desk.openAfter ((main std config build argv a rounds).run ⟨m, .fresh⟩).calls S = some S ↔
      a.Clean network compat := by
  have fresh : desk.Apart m S [] := ⟨List.nodup_nil, older, by simp, by simp⟩
  obtain ⟨f', m'', hs, ⟨-, -, sub, exact_iff⟩, leaves⟩ | ⟨e, m'', hs, -, leaves⟩ :=
    IbFabric.create_ends std build a network compat m []
  · obtain ⟨rfl, -⟩ := created.unique ⟨leaves.result, leaves.state⟩
    have opened := leaves.opens S fresh
    have apart := leaves.apart S fresh
    simp only [List.nil_append, List.toFinset_nil, Finset.union_empty] at opened apart
    have moved := moved_refreshes build rounds f
    have released := IbFabric.released_destroy (Eff.runs (IbFabric.refreshCounters build) rounds f)
    rw [moved.owned] at released
    have nodup : f.owned.Nodup := by
      obtain ⟨l, perm, sublist⟩ := sub
      exact perm.nodup_iff.mp (apart.nodup.sublist sublist)
    have ends : desk.openAfter ((main std config build argv a rounds).run ⟨m, .fresh⟩).calls S =
        some ((S ∪ hs.toFinset) \ f.owned.toFinset) := by
      rw [calls_main std config build rounds args created, Desk.openAfter_append, opened,
        Option.bind_some, Desk.openAfter_append, openAfter_of_keep (keeps_traces build rounds f),
        Option.bind_some, Desk.openAfter_release _ _ _ (IbFabric.destroy_never_acquires _)
          (released.nodup_iff.mpr nodup), List.toFinset_eq_of_perm _ _ released]
      intro h hh
      exact Finset.mem_union_right _ (List.mem_toFinset.mpr (sub.subset (released.mem_iff.mp hh)))
    rw [ends, Option.some_inj, ← exact_iff]
    constructor
    · intro same
      refine (List.subperm_of_subset apart.nodup fun h hh => ?_).antisymm sub
      by_contra kept
      have inside : h ∈ (S ∪ hs.toFinset) \ f.owned.toFinset := by simp [hh, kept]
      rw [same] at inside
      exact apart.disjoint h hh inside
    · intro perm
      rw [List.toFinset_eq_of_perm _ _ perm, Finset.union_sdiff_cancel_right]
      refine Finset.disjoint_left.mpr fun h inOther owned => ?_
      exact apart.disjoint h (perm.mem_iff.mpr (List.mem_toFinset.mp owned)) inOther
  · exact absurd ⟨leaves.result, leaves.state⟩ created.not_throws

end Main

/-- Two rounds on an adapter with one port, of which the second one fails. -/
theorem main_closes_iff_plain :
    let config : BuildConfig := ⟨"v1".toList, "now".toList, "master".toList, "abc".toList⟩
    desk.openAfter ((main (.stable _) config ⟨true, .little⟩ ["perftest", "local", "mad"] .plain
      [everyPortShows 7, fun _ _ => secondQueryFails 9]).run ⟨0, .fresh⟩).calls ∅ = some ∅ := by
  intro config
  have args : parseArgs ["perftest", "local", "mad"] = some (false, false) := by decide +kernel
  have created := IbFabric.create_plainMad (.stable _) ⟨true, .little⟩ rfl
  refine (main_closes_iff (.stable _) config _ _ args created (S := ∅) (by simp)).mpr ?_
  rintro _ ⟨rfl⟩ device hd
  obtain rfl := List.mem_singleton.mp hd
  exact .inl ⟨rfl, ⟨1, 1⟩, rfl, fun i _ => ⟨⟨3, 2⟩, rfl, ⟨rfl, rfl, rfl, rfl⟩⟩⟩

end PerfTest

end Detector
