import Detector.FileRuns
import Detector.Library.Rounds

/-!
# Refreshing files round by round

A client that only refreshes file-backed counters sees what the files show in each round, as long as
every stream stays good. The refresh in which a stream gets a bad bit still returns; from then on
every refresh throws.
-/
namespace Detector

open Cpp

namespace FileClass

section Conditions

variable {ι : Type} {n : ℕ} (k : FileClass ι n) (path : ι → String)

/-- All streams are good. -/
def Works (s : FileCounters ι n) : Prop := ∀ i, (s.reader.files i).good = true

/-- The streams are on their files, and no reset has recorded a base value. -/
structure Unreset (s : FileCounters ι n) : Prop where
  placed : k.Placed path s
  baseValues : ∀ i, s.reader.baseValues i = 0

/-- The read of each file leaves a good stream good. -/
def ReadsWell (io : Reads) : Prop :=
  ∀ e ∈ k.table.entries, (({} : IoState).readLine (io (path e.1)) 128).1.good = true

instance (io : Reads) : Decidable (k.ReadsWell path io) :=
  inferInstanceAs (Decidable (∀ _ ∈ _, _))

/-- The values that the files show. -/
def values (io : Reads) (v : ι) : UInt64 := k.scale v ((io (path v)).value 128)

variable {k path}

theorem unreset_of_fresh {s : FileCounters ι n} (h : s.Fresh k.table path) : k.Unreset path s :=
  ⟨(healthy_of_fresh h).placed, h.baseValues⟩

theorem works_of_fresh {s : FileCounters ι n} (h : s.Fresh k.table path) : Works s :=
  (healthy_of_fresh h).good

/-- A refresh that read all streams has assigned what the files show, and left the streams good just
when the reads went well. -/
theorem refreshed_of_works {s t : FileCounters ι n} {io : Reads} (works : Works s) (unreset : k.Unreset path s)
    (effect : FileCounters.Refreshed k.scale io k.table.entries s t) :
    t.counters = k.values path io ∧ (Works t ↔ k.ReadsWell path io) := by
  have read : ∀ e ∈ k.table.entries, (t.reader.files e.2).good =
      (({} : IoState).readLine (io (path e.1)) 128).1.good := by
    intro e he
    have clean : (s.reader.files e.2).state = {} := IoState.good_iff.mp (works e.2)
    rw [effect.files, if_pos (List.mem_map_of_mem he), ← unreset.placed e he, ← clean]
    rfl
  refine ⟨funext fun v => ?_, fun good e he => ?_, fun well i => ?_⟩
  · obtain ⟨e, he, rfl⟩ := k.exists_entry' v
    rw [effect.assigned e he, InStream.taken_of_not_fail (IoState.fail_of_good (works e.2)),
      unreset.placed e he, unreset.baseValues, UInt64.sub_zero, values]
  · rw [← read e he]
    exact good e.2
  · obtain ⟨e, he, rfl⟩ := k.exists_entry i
    rw [read e he]
    exact well e he

end Conditions

/-- Refreshes without resets between them: an object works until the first one whose reads do not go
well. -/
theorem latch {ι : Type} {n : ℕ} [DecidableEq ι] (k : FileClass ι n) (path : ι → String) :
    Eff.Latch (fun io => k.call (.refresh, io)) FileCounters.counters (k.Unreset path) Works
      (k.ReadsWell path) (k.values path) (.ibFileException "Unable to read file!") := by
  constructor
  case keeps =>
    intro io s unreset
    refine ⟨placed_after (.refresh, io) unreset.placed, fun i => ?_⟩
    cases FileCounters.refreshWith_ends k.table k.scale io s with
    | done t _ ends effect =>
      rw [FileClass.call, ends.after_eq, effect.baseValues, unreset.baseValues]
    | stopped t _ _ _ _ _ _ ends effect =>
      rw [FileClass.call, ends.after_eq, effect.baseValues, unreset.baseValues]
  case gives =>
    intro io s unreset works
    cases FileCounters.refreshWith_ends k.table k.scale io s with
    | done t _ ends effect =>
      have returned : Eff.Returns (k.call (.refresh, io)) s () t := ends
      exact returned.outcome_eq.trans (congrArg _ (refreshed_of_works works unreset effect).1)
    | stopped t pre b _ _ _ bad =>
      rw [works b.2] at bad
      cases bad
  case clean_iff =>
    intro io s unreset works
    cases FileCounters.refreshWith_ends k.table k.scale io s with
    | done t _ ends effect =>
      rw [FileClass.call, ends.after_eq, (refreshed_of_works works unreset effect).2]
    | stopped t pre b _ _ _ bad =>
      rw [works b.2] at bad
      cases bad
  case fails =>
    intro io s _ broken
    cases FileCounters.refreshWith_ends k.table k.scale io s with
    | done t good =>
      refine absurd (fun i => ?_) broken
      obtain ⟨e, he, rfl⟩ := k.exists_entry i
      exact good e he
    | stopped t _ _ _ _ _ _ ends =>
      have thrown : Eff.Throws (k.call (.refresh, io)) s _ t := ends
      exact thrown.outcome_eq
  case stays =>
    intro io s _ broken
    cases FileCounters.refreshWith_ends k.table k.scale io s with
    | done t good =>
      refine absurd (fun i => ?_) broken
      obtain ⟨e, he, rfl⟩ := k.exists_entry i
      exact good e he
    | stopped t pre b post split _ bad ends effect =>
      -- The stream that stopped the refresh was not read.
      have unread : b.2 ∉ pre.map Prod.snd := by
        have distinct := k.table.index_nodup
        rw [split, List.map_append] at distinct
        intro read
        exact (List.nodup_append.mp distinct).2.2 b.2 read b.2 (by simp) rfl
      intro works
      have good := works b.2
      rw [FileClass.call, ends.after_eq, effect.files, if_neg unread, bad] at good
      cases good

end FileClass

end Detector
