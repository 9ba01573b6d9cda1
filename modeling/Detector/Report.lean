import Detector.IbPerfCounter
import Detector.IbDiagPerfCounter
import Detector.Library.Report

/-!
# What the output operators write

`operator<<` of `IbPerfCounter` and of `IbDiagPerfCounter` writes every counter behind a label,
on a line of its own. Reading the text back by the labels gives the counters again, except that
the line of the link recovery counter is written with the link downed counter.
-/
namespace Detector

open Cpp

/-- The label that names each counter in the output of `IbPerfCounter`. -/
def PerfVar.label : PerfVar → List Char
  | .xmitDataBytes => chars "XmitData: " rfl
  | .rcvDataBytes => chars "RcvData: " rfl
  | .xmitPkts => chars "XmitPkts: " rfl
  | .rcvPkts => chars "RcvPkts: " rfl
  | .unicastXmitPkts => chars "UnicastXmitPkts: " rfl
  | .unicastRcvPkts => chars "UnicastRcvPkts: " rfl
  | .multicastXmitPkts => chars "MulitcastXmitPkts: " rfl
  | .multicastRcvPkts => chars "MulitcastRcvPkts: " rfl
  | .symbolErrors => chars "SymbolErrors: " rfl
  | .linkDowned => chars "LinkDownedCounter: " rfl
  | .linkRecoveries => chars "LinkRecoveryCounter: " rfl
  | .rcvErrors => chars "RcvErrors: " rfl
  | .rcvRemotePhysicalErrors => chars "RcvRemotePhysicalErrors: " rfl
  | .rcvSwitchRelayErrors => chars "RcvSwitchRelayErrors: " rfl
  | .xmitDiscards => chars "XmitDiscards: " rfl
  | .xmitConstraintErrors => chars "XmitConstraintErrors: " rfl
  | .rcvConstraintErrors => chars "RcvConstraintErrors: " rfl
  | .localLinkIntegrityErrors => chars "LocalLinkIntegrityErrors: " rfl
  | .excessiveBufferOverrunErrors => chars "ExcessiveBufferOverrunErrors: " rfl
  | .vl15Dropped => chars "VL15Dropped: " rfl
  | .xmitWait => chars "XmitWait: " rfl

/-- The label that names each counter in the output of `IbDiagPerfCounter`. -/
def DiagVar.label : DiagVar → List Char
  | .lifespan => chars "    Lifespan: " rfl
  | .rqLocalLengthErrors => chars "    RqLocalLengthErrors: " rfl
  | .rqLocalProtectionErrors => chars "    RqLocalProtectionErrors: " rfl
  | .rqLocalQpProtectionErrors => chars "    RqLocalQpProtectionErrors: " rfl
  | .rqOutOfSequenceErrors => chars "    RqOutOfSequenceErrors: " rfl
  | .rqRemoteAccessErrors => chars "    RqRemoteAccessErrors: " rfl
  | .rqRemoteInvalidRequestErrors => chars "    RqRemoteInvalidRequestErrors: " rfl
  | .rqRnrNakNum => chars "    RqRnrNakNum: " rfl
  | .rqCompletionQueueEntryErrors => chars "    RqCompletionQueueEntryErrors: " rfl
  | .sqBadResponseErrors => chars "    SqBadResponseErrors: " rfl
  | .sqLocalLengthErrors => chars "    SqLocalLengthErrors: " rfl
  | .sqLocalProtectionErrors => chars "    SqLocalProtectionErrors: " rfl
  | .sqLocalQpProtectionErrors => chars "    SqLocalQpProtectionErrors: " rfl
  | .sqMemoryWindowBindErrors => chars "    SqMemoryWindowBindErrors: " rfl
  | .sqOutOfSequenceErrors => chars "    SqOutOfSequenceErrors: " rfl
  | .sqRemoteAccessErrors => chars "    SqRemoteAccessErrors: " rfl
  | .sqRemoteInvalidRequestErrors => chars "    SqRemoteInvalidRequestErrors: " rfl
  | .sqRnrNakNum => chars "    SqRnrNakNum: " rfl
  | .sqRemoteOperationErrors => chars "    SqRemoteOperationErrors: " rfl
  | .sqRnrNakRetriesExceededErrors => chars "    SqRnrNakRetriesExceededErrors: " rfl
  | .sqTransportRetriesExceededErrors => chars "    SqTransportRetriesExceededErrors: " rfl
  | .sqCompletionQueueEntryErrors => chars "    SqCompletionQueueEntryErrors: " rfl

namespace IbPerfCounter

/-- What `operator<<` writes, in its order: each label with the member behind it and the number of
`std::endl` after it. -/
def report : Report PerfVar where
  items :=
    [⟨chars "XmitData: " rfl, .xmitDataBytes, chars " Bytes" rfl, 1⟩,
     ⟨chars "RcvData: " rfl, .rcvDataBytes, chars " Bytes" rfl, 1⟩,
     ⟨chars "XmitPkts: " rfl, .xmitPkts, [], 1⟩,
     ⟨chars "RcvPkts: " rfl, .rcvPkts, [], 2⟩,
     ⟨chars "UnicastXmitPkts: " rfl, .unicastXmitPkts, [], 1⟩,
     ⟨chars "UnicastRcvPkts: " rfl, .unicastRcvPkts, [], 1⟩,
     ⟨chars "MulitcastXmitPkts: " rfl, .multicastXmitPkts, [], 1⟩,
     ⟨chars "MulitcastRcvPkts: " rfl, .multicastRcvPkts, [], 2⟩,
     ⟨chars "SymbolErrors: " rfl, .symbolErrors, [], 1⟩,
     ⟨chars "LinkDownedCounter: " rfl, .linkDowned, [], 1⟩,
     -- The member is `m_linkDowned` once more.
     ⟨chars "LinkRecoveryCounter: " rfl, .linkDowned, [], 1⟩,
     ⟨chars "RcvErrors: " rfl, .rcvErrors, [], 1⟩,
     ⟨chars "RcvRemotePhysicalErrors: " rfl, .rcvRemotePhysicalErrors, [], 1⟩,
     ⟨chars "RcvSwitchRelayErrors: " rfl, .rcvSwitchRelayErrors, [], 1⟩,
     ⟨chars "XmitDiscards: " rfl, .xmitDiscards, [], 1⟩,
     ⟨chars "XmitConstraintErrors: " rfl, .xmitConstraintErrors, [], 1⟩,
     ⟨chars "RcvConstraintErrors: " rfl, .rcvConstraintErrors, [], 1⟩,
     ⟨chars "LocalLinkIntegrityErrors: " rfl, .localLinkIntegrityErrors, [], 1⟩,
     ⟨chars "ExcessiveBufferOverrunErrors: " rfl, .excessiveBufferOverrunErrors, [], 1⟩,
     ⟨chars "VL15Dropped: " rfl, .vl15Dropped, [], 1⟩,
     ⟨chars "XmitWait: " rfl, .xmitWait, [], 0⟩]
  legible := by decide +kernel

/-- `operator<<`. -/
def print (o : IbPerfCounter) : List Char := report.render o.counters

/-- The counter that is written behind the label of each counter. -/
def printed : PerfVar → PerfVar
  | .linkRecoveries => .linkDowned
  | v => v

/-- The items stand in the order in which the variables are declared. -/
theorem report_shows (v : PerfVar) :
    ∃ x ∈ report.items, x.label = v.label ∧ x.source = printed v := by
  have table : report.items.map (fun x => (x.label, x.source)) =
      PerfVar.all.map fun v => (v.label, printed v) := rfl
  have shown : (v.label, printed v) ∈ report.items.map fun x => (x.label, x.source) := by
    rw [table]
    exact List.mem_map_of_mem (Finset.mem_univ v)
  obtain ⟨x, hx, same⟩ := List.mem_map.mp shown
  exact ⟨x, hx, Prod.mk.inj same⟩

theorem readBack_print (o : IbPerfCounter) (v : PerfVar) :
    readBack v.label o.print = some (o.counters (printed v)) := by
  obtain ⟨x, hx, label, source⟩ := report_shows v
  have read := report.readBack_render o.counters hx (.inl rfl)
  rw [List.nil_append, label, source] at read
  exact read

/-- The text says every counter but the link recoveries. -/
theorem print_inj (o o' : IbPerfCounter) :
    o.print = o'.print ↔ ∀ v ≠ .linkRecoveries, o.counters v = o'.counters v := by
  have sources : ∀ x ∈ report.items, x.source ≠ .linkRecoveries := by decide +kernel
  unfold print
  rw [report.render_inj]
  constructor
  · intro agree v hv
    obtain ⟨x, hx, -, source⟩ := report_shows v
    have itself : printed v = v := by cases v <;> first | rfl | exact absurd rfl hv
    rw [← itself, ← source]
    exact agree x hx
  · intro agree x hx
    exact agree x.source (sources x hx)

/-- Every counter comes back when the two that are written with one member are equal. -/
theorem reads_back_iff (o : IbPerfCounter) :
    (∀ v, readBack (PerfVar.label v) o.print = some (o.counters v)) ↔
      o.counters .linkRecoveries = o.counters .linkDowned := by
  constructor
  · intro back
    have shown := o.readBack_print .linkRecoveries
    rw [back .linkRecoveries] at shown
    exact Option.some.inj shown
  · intro same v
    rw [o.readBack_print v]
    cases v
    case linkRecoveries => rw [printed, same]
    all_goals rfl

/-- The texts tell two objects apart unless they differ in their link recoveries only. -/
theorem told_apart_iff (o o' : IbPerfCounter) :
    (o.counters ≠ o'.counters → o.print ≠ o'.print) ↔
      o.counters .linkRecoveries = o'.counters .linkRecoveries ∨
        ∃ v ≠ .linkRecoveries, o.counters v ≠ o'.counters v := by
  constructor
  · intro apart
    by_contra! hidden
    obtain ⟨differ, others⟩ := hidden
    have texts : o.print = o'.print := (o.print_inj o').mpr others
    exact apart (fun same => differ (congrFun same _)) texts
  · intro visible differ texts
    have others := (o.print_inj o').mp texts
    obtain same | ⟨v, hv, apart⟩ := visible
    · apply differ
      funext v
      by_cases hv : v = .linkRecoveries
      · rw [hv, same]
      · exact others v hv
    · exact apart (others v hv)

end IbPerfCounter

namespace IbDiagPerfCounter

/-- What `operator<<` writes after the first line. -/
def report : Report DiagVar where
  items :=
    [⟨chars "    Lifespan: " rfl, .lifespan, [], 1⟩,
     ⟨chars "    RqLocalLengthErrors: " rfl, .rqLocalLengthErrors, [], 1⟩,
     ⟨chars "    RqLocalProtectionErrors: " rfl, .rqLocalProtectionErrors, [], 1⟩,
     ⟨chars "    RqLocalQpProtectionErrors: " rfl, .rqLocalQpProtectionErrors, [], 1⟩,
     ⟨chars "    RqOutOfSequenceErrors: " rfl, .rqOutOfSequenceErrors, [], 1⟩,
     ⟨chars "    RqRemoteAccessErrors: " rfl, .rqRemoteAccessErrors, [], 1⟩,
     ⟨chars "    RqRemoteInvalidRequestErrors: " rfl, .rqRemoteInvalidRequestErrors, [], 1⟩,
     ⟨chars "    RqRnrNakNum: " rfl, .rqRnrNakNum, [], 1⟩,
     ⟨chars "    RqCompletionQueueEntryErrors: " rfl, .rqCompletionQueueEntryErrors, [], 1⟩,
     ⟨chars "    SqBadResponseErrors: " rfl, .sqBadResponseErrors, [], 1⟩,
     ⟨chars "    SqLocalLengthErrors: " rfl, .sqLocalLengthErrors, [], 1⟩,
     ⟨chars "    SqLocalProtectionErrors: " rfl, .sqLocalProtectionErrors, [], 1⟩,
     ⟨chars "    SqLocalQpProtectionErrors: " rfl, .sqLocalQpProtectionErrors, [], 1⟩,
     ⟨chars "    SqMemoryWindowBindErrors: " rfl, .sqMemoryWindowBindErrors, [], 1⟩,
     ⟨chars "    SqOutOfSequenceErrors: " rfl, .sqOutOfSequenceErrors, [], 1⟩,
     ⟨chars "    SqRemoteAccessErrors: " rfl, .sqRemoteAccessErrors, [], 1⟩,
     ⟨chars "    SqRemoteInvalidRequestErrors: " rfl, .sqRemoteInvalidRequestErrors, [], 1⟩,
     ⟨chars "    SqRnrNakNum: " rfl, .sqRnrNakNum, [], 1⟩,
     ⟨chars "    SqRemoteOperationErrors: " rfl, .sqRemoteOperationErrors, [], 1⟩,
     ⟨chars "    SqRnrNakRetriesExceededErrors: " rfl, .sqRnrNakRetriesExceededErrors, [], 1⟩,
     ⟨chars "    SqTransportRetriesExceededErrors: " rfl, .sqTransportRetriesExceededErrors,
      [], 1⟩,
     ⟨chars "    SqCompletionQueueEntryErrors: " rfl, .sqCompletionQueueEntryErrors, [], 0⟩]
  legible := by decide +kernel

/-- The first line, which names the device and a port that is not 0. -/
def header (o : IbDiagPerfCounter) : String :=
  "Device: " ++ o.deviceName ++
    (if o.portNumber > 0 then ", Port: " ++ toString o.portNumber.toNat else "")

/-- `operator<<`. -/
def print (o : IbDiagPerfCounter) : List Char :=
  (o.header.toList ++ ['\n']) ++ report.render o.counters

theorem report_shows (v : DiagVar) :
    ∃ x ∈ report.items, x.label = v.label ∧ x.source = v := by
  have order : report.items.map (fun x => (x.label, x.source)) =
      (table.entries.map Prod.fst).map fun v => (v.label, v) := rfl
  have shown : (v.label, v) ∈ report.items.map fun x => (x.label, x.source) := by
    rw [order]
    exact List.mem_map_of_mem (table.variable_complete v)
  obtain ⟨x, hx, same⟩ := List.mem_map.mp shown
  exact ⟨x, hx, Prod.mk.inj same⟩

theorem readBack_print (o : IbDiagPerfCounter) (v : DiagVar) :
    readBack v.label o.print = some (o.counters v) := by
  obtain ⟨x, hx, label, source⟩ := report_shows v
  rw [← label, print, report.readBack_render o.counters hx (.inr ⟨o.header.toList, rfl⟩),
    source]

theorem counters_eq_of_print {o o' : IbDiagPerfCounter} (texts : o.print = o'.print) :
    o.counters = o'.counters := by
  funext v
  have back := o.readBack_print v
  rw [texts, o'.readBack_print v] at back
  exact (Option.some.inj back).symm

end IbDiagPerfCounter

/-- Reading the texts back by their labels: the link recovery counter comes back just when it is
equal to the link downed counter, and two objects whose counters differ print different texts
just when the link recoveries are not all that differs. Everything else, and every diagnostic
counter, always comes back. -/
theorem counters_read_back_iff (o o' : IbPerfCounter) (d d' : IbDiagPerfCounter) :
    ((∀ v, readBack (PerfVar.label v) o.print = some (o.counters v)) ↔
      o.counters .linkRecoveries = o.counters .linkDowned) ∧
    ((o.counters ≠ o'.counters → o.print ≠ o'.print) ↔
      o.counters .linkRecoveries = o'.counters .linkRecoveries ∨
        ∃ v ≠ .linkRecoveries, o.counters v ≠ o'.counters v) ∧
    (∀ v, readBack (DiagVar.label v) d.print = some (d.counters v)) ∧
    (d.counters ≠ d'.counters → d.print ≠ d'.print) := by
  refine ⟨o.reads_back_iff, o.told_apart_iff o', d.readBack_print, fun differ texts => ?_⟩
  exact differ (IbDiagPerfCounter.counters_eq_of_print texts)

/-- Seven recoveries of a link that was never down are printed as 0, as on a healthy link. -/
theorem link_recoveries_not_printed :
    let recovered : IbPerfCounter := ⟨fun v => if v = .linkRecoveries then 7 else 0⟩
    let healthy : IbPerfCounter := ⟨fun _ => 0⟩
    readBack (PerfVar.label .linkRecoveries) recovered.print = some 0 ∧
      recovered.counters .linkRecoveries = 7 ∧
      recovered.counters ≠ healthy.counters ∧ recovered.print = healthy.print := by
  intro recovered healthy
  refine ⟨recovered.readBack_print .linkRecoveries, rfl, ?_, ?_⟩
  · intro same
    exact absurd (congrFun same .linkRecoveries) (by decide)
  · apply (recovered.print_inj healthy).mpr
    intro v hv
    exact if_neg hv

end Detector
