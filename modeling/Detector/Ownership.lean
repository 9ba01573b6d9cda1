import Detector.Handles
import Detector.Resets

/-!
# The handles of a fabric

A fabric opens the device list or the discovered fabric, next to what its nodes open. The
device list is closed when all devices have been visited, the discovered fabric by the
destructor. An exception on the way leaves both open, and a device that is skipped leaves what
the constructor of its node had opened. So the contract of a constructor, nothing open after a
throw and nothing but its own handles after a return, holds under a condition on the answers
of the libraries, which the last theorem states.
-/
namespace Detector

open Cpp

/-- The handles of some nodes. -/
def heldByNodes (nodes : List IbNode) : List Handle := nodes.flatMap fun n => heldBy n.ports

/-- All ports of the nodes are of the class that the mode asks for. -/
def AllInMode (compatibility : Bool) (nodes : List IbNode) : Prop :=
  ∀ n ∈ nodes, ∀ p ∈ n.ports, p.InMode compatibility

namespace DiscoveryAnswers

variable (a : DiscoveryAnswers)

/-- No device of the list stops the discovery, or is skipped with a handle still open. -/
def LocalClean (compatibility : Bool) : Prop :=
  ∀ devices, a.deviceList = some devices →
    ∀ d ∈ devices, d.Builds compatibility ∨ d.SkipsCleanly compatibility

/-- All ports of the discovered nodes can be constructed. -/
def NetworkClean : Prop := ∀ list, a.fabric = some list → ∀ node ∈ list.1 :: list.2, node.Builds

/-- The condition of the discovery that the mode selects. -/
def Clean (network compatibility : Bool) : Prop :=
  if network && !compatibility then a.NetworkClean else a.LocalClean compatibility

end DiscoveryAnswers

namespace IbFabric

/-- What the attempt to construct the node of a device leaves open. -/
def Attempted (compatibility : Bool) (d : IbvDevice) : Option IbNode → List Handle → Prop
  | some node, hs => d.Builds compatibility ∧ (∀ p ∈ node.ports, p.InMode compatibility) ∧
    hs = heldBy node.ports
  | none, hs => ¬ d.Builds compatibility ∧ (hs = [] ↔ d.SkipsCleanly compatibility)

theorem attempt_ends (build : Build) (compatibility : Bool) (d : IbvDevice) :
    desk.Ends [] (Eff.attempt isVerbs (IbNode.ofDevice build d compatibility))
      (Attempted compatibility d)
      (fun _ _ => ¬ (d.Builds compatibility ∨ d.SkipsCleanly compatibility)) := by
  refine .attempt ((IbNode.ofDevice_ends build d compatibility).imp (fun _ _ h => h) ?_)
  rintro e hs ⟨notBuilt, left⟩
  cases verbs : isVerbs e with
  | false =>
    rw [verbs] at left
    rintro (built | skips)
    · exact notBuilt built
    · exact skips.not_stops left
  | true =>
    rw [verbs, if_pos rfl] at left
    exact ⟨notBuilt, left.2⟩

/-- The nodes that were found own some of the open handles, and all of them exactly when each
device was constructed or skipped cleanly. -/
theorem collected_devices {compatibility : Bool} {ds : List IbvDevice}
    {found : List (Option IbNode)} {hs : List Handle}
    (h : Desk.Collected (Attempted compatibility) ds found hs) :
    AllInMode compatibility found.reduceOption ∧
      (heldByNodes found.reduceOption).Sublist hs ∧
      (hs = heldByNodes found.reduceOption ↔
        ∀ d ∈ ds, d.Builds compatibility ∨ d.SkipsCleanly compatibility) := by
  induction h with
  | nil => simp [AllInMode, heldByNodes]
  | @cons d ds node found hs₁ hs first _ ih =>
    obtain ⟨inMode, sub, exact_iff⟩ := ih
    rw [List.forall_mem_cons, ← exact_iff]
    cases node with
    | some node =>
      obtain ⟨builds, nodeInMode, rfl⟩ := first
      have all : AllInMode compatibility (node :: found.reduceOption) :=
        List.forall_mem_cons.mpr ⟨nodeInMode, inMode⟩
      have held : heldByNodes (node :: found.reduceOption) =
          heldBy node.ports ++ heldByNodes found.reduceOption := rfl
      rw [List.reduceOption_cons_of_some, held]
      refine ⟨all, sub.append_left _, ?_⟩
      simp [builds]
    | none =>
      obtain ⟨notBuilt, left⟩ := first
      rw [List.reduceOption_cons_of_none]
      refine ⟨inMode, sub.trans (List.sublist_append_right _ _), ?_⟩
      have shorter := sub.length_le
      constructor
      · intro same
        have lengths := congrArg List.length same
        rw [List.length_append] at lengths
        have empty : hs₁ = [] := List.length_eq_zero_iff.mp (by omega)
        subst empty
        exact ⟨.inr (left.mp rfl), same⟩
      · rintro ⟨built | skips, same⟩
        · exact absurd built notBuilt
        · rw [left.mpr skips, List.nil_append, same]

/-- The end of the discovery of local devices. A throw out of the loop leaves the device list
open. -/
theorem discoverLocalDevices_ends (build : Build) (a : DiscoveryAnswers) (compatibility : Bool) :
    desk.Ends [] (discoverLocalDevices build a compatibility)
      (fun nodes hs => AllInMode compatibility nodes ∧ (heldByNodes nodes).Sublist hs ∧
        (hs = heldByNodes nodes ↔ a.LocalClean compatibility))
      (fun _ hs => hs = [] ↔ a.LocalClean compatibility) := by
  refine acquire_then (fun _ => rfl) rfl fun deviceList granted => ?_
  refine .require_then (fun absent => ?_) fun devices present => ?_
  · have null : deviceList = none := by simpa [absent] using granted
    simp [null, DiscoveryAnswers.LocalClean, absent]
  have clean_iff : a.LocalClean compatibility ↔
      ∀ d ∈ devices, d.Builds compatibility ∨ d.SkipsCleanly compatibility := by
    simp [DiscoveryAnswers.LocalClean, present]
  have loop := (Desk.Ends.collect (attempt_ends build compatibility) devices).frame
    deviceList.toList
  rw [List.append_nil] at loop
  refine (loop.imp (fun _ _ h => h) ?_).bind ?_
  · rintro e _ ⟨hs, rfl, pre, d, post, _, _, _, split, -, failed, -⟩
    have unclean : ¬ a.LocalClean compatibility := fun clean =>
      failed (clean_iff.mp clean d (by rw [split]; simp))
    have leaked : deviceList.toList ++ hs ≠ [] := by
      cases deviceList <;> simp_all
    exact iff_of_false leaked unclean
  · rintro found _ ⟨hs, rfl, made⟩
    rw [clean_iff]
    exact release_then [] deviceList (fun _ => rfl) rfl (.pure (collected_devices made))

/-- The end of the discovery of the network. A throw leaves the discovered fabric open. -/
theorem discoverNetwork_ends (build : Build) (a : DiscoveryAnswers) :
    desk.Ends [] (discoverNetwork build a)
      (fun found hs => a.NetworkClean ∧ found.1.isSome = true ∧ AllInMode false found.2 ∧
        hs = found.1.toList ++ heldByNodes found.2)
      (fun _ hs => hs = [] ↔ a.NetworkClean) := by
  refine acquire_then (fun _ => rfl) rfl fun fabric granted => ?_
  refine .require_then (fun absent => ?_) fun list present => ?_
  · have null : fabric = none := by simpa [absent] using granted
    simp [null, DiscoveryAnswers.NetworkClean, absent]
  have clean_iff : a.NetworkClean ↔ ∀ node ∈ list.1 :: list.2, node.Builds := by
    simp [DiscoveryAnswers.NetworkClean, present]
  have loop := (Desk.Ends.collect (IbNode.ofNetwork_ends build) (list.1 :: list.2)).frame
    fabric.toList
  rw [List.append_nil] at loop
  refine (loop.imp (fun _ _ h => h) ?_).bind ?_
  · rintro e _ ⟨hs, rfl, pre, node, post, _, _, _, split, -, failed, -⟩
    have unclean : ¬ a.NetworkClean := fun clean =>
      failed (clean_iff.mp clean node (by rw [split]; simp))
    have leaked : fabric.toList ++ hs ≠ [] := by
      cases fabric <;> simp_all
    exact iff_of_false leaked unclean
  · rintro nodes _ ⟨hs, rfl, made⟩
    obtain ⟨allBuild, allInMode, rfl, -⟩ := made.all fun _ _ _ h => h
    exact .pure ⟨clean_iff.mpr allBuild, by simp [granted, present], allInMode, rfl⟩

/-! ## Construction -/

/-- The end of the discovery. -/
theorem discoverFabric_ends (build : Build) (a : DiscoveryAnswers)
    (network compatibility : Bool) :
    desk.Ends [] (discoverFabric build a network compatibility)
      (fun found hs => found.1.isSome = (network && !compatibility) ∧
        AllInMode compatibility found.2 ∧
        (found.1.toList ++ heldByNodes found.2).Sublist hs ∧
        (hs = found.1.toList ++ heldByNodes found.2 ↔ a.Clean network compatibility))
      (fun _ hs => hs = [] ↔ a.Clean network compatibility) := by
  cases compatibility with
  | true =>
    refine ((discoverLocalDevices_ends build a true).imp (fun _ _ h => h) ?_).bind ?_
    · simp [DiscoveryAnswers.Clean]
    · rintro nodes hs ⟨inMode, sub, exact_iff⟩
      exact .pure ⟨by simp, inMode, sub, by simpa [DiscoveryAnswers.Clean] using exact_iff⟩
  | false =>
    cases network with
    | true =>
      refine (discoverNetwork_ends build a).imp ?_ ?_
      · rintro found _ ⟨clean, opened, inMode, rfl⟩
        exact ⟨opened, inMode, .refl _, by simp [DiscoveryAnswers.Clean, clean]⟩
      · simp [DiscoveryAnswers.Clean]
    | false =>
      refine ((discoverLocalDevices_ends build a false).imp (fun _ _ h => h) ?_).bind ?_
      · simp [DiscoveryAnswers.Clean]
      · rintro nodes hs ⟨inMode, sub, exact_iff⟩
        exact .pure ⟨by simp, inMode, sub, by simpa [DiscoveryAnswers.Clean] using exact_iff⟩

/-- The handles that the fabric closes when it is destroyed. -/
def owned (f : IbFabric) : List Handle := f.fabric.toList ++ heldByNodes f.nodes

/-- The end of the constructor, which also sorts the nodes. -/
theorem create_ends (std : StdSort IbNode) (build : Build) (a : DiscoveryAnswers)
    (network compatibility : Bool) :
    desk.Ends [] (create std build a network compatibility)
      (fun f hs => f.fabric.isSome = (network && !compatibility) ∧
        AllInMode compatibility f.nodes ∧ f.owned.Subperm hs ∧
        (hs.Perm f.owned ↔ a.Clean network compatibility))
      (fun _ hs => hs = [] ↔ a.Clean network compatibility) := by
  refine (discoverFabric_ends build a network compatibility).bind ?_
  rintro ⟨fabric, nodes⟩ hs ⟨opened, inMode, sub, exact_iff⟩
  have sorted := std.perm lessDescription nodes strictWeak_lessDescription
  have same : (fabric.toList ++ heldByNodes (std.sort lessDescription nodes)).Perm
      (fabric.toList ++ heldByNodes nodes) := (sorted.flatMap_right _).append_left _
  refine .pure ⟨opened, fun n hn => inMode n (sorted.mem_iff.mp hn), same.subperm.trans
    sub.subperm, ?_⟩
  rw [← exact_iff]
  constructor
  · intro perm
    exact (sub.eq_of_length (perm.trans same).length_eq.symm).symm
  · rintro rfl
    exact same.symm

/-! ## Destruction -/

theorem released_destroy_port (p : Port) :
    p.destroy.filterMap desk.released = p.madHandle.toList := by
  have closes : ∀ q : IbPort, q.destroy.filterMap desk.released = q.madPort.toList := by
    intro q
    cases h : q.madPort <;> simp [IbPort.destroy, h, Desk.released, desk]
  cases p with
  | mad p => exact closes p
  | compat p => exact closes p.toIbPort

/-- The destructor gives back each handle that the fabric owns. -/
theorem released_destroy (f : IbFabric) :
    (f.destroy.filterMap desk.released).Perm f.owned := by
  have nodes : (f.nodes.flatMap IbNode.destroy).filterMap desk.released =
      heldByNodes f.nodes := by
    simp only [List.filterMap_flatMap, IbNode.destroy, released_destroy_port]
    rfl
  have fabric : (if f.fabric.isSome then [ExtCall.ibndDestroyFabric f.fabric] else []).filterMap
      desk.released = f.fabric.toList := by
    cases h : f.fabric <;> simp [Desk.released, desk]
  rw [destroy, List.filterMap_append, nodes, fabric]
  exact List.perm_append_comm

theorem destroy_never_acquires (f : IbFabric) (c : ExtCall) (hc : c ∈ f.destroy) (h : Handle) :
    desk.move c ≠ .acquire h := by
  have ports : ∀ q : IbPort, c ∈ q.destroy → desk.move c ≠ .acquire h := by
    intro q hq
    cases held : q.madPort <;> simp [IbPort.destroy, held] at hq
    rw [hq]
    simp [desk]
  obtain inNodes | inFabric := List.mem_append.mp hc
  · obtain ⟨n, -, inNode⟩ := List.mem_flatMap.mp inNodes
    obtain ⟨p, -, inPort⟩ := List.mem_flatMap.mp inNode
    cases p with
    | mad p => exact ports p inPort
    | compat p => exact ports p.toIbPort inPort
  · cases held : f.fabric <;> simp [held] at inFabric
    rw [inFabric]
    simp [desk]

/-! ## The contract -/

/-- The fabric that a constructor returned has the handles that it should have, started with the
handles `S` open, and the destructor closes these. -/
structure OwnsItsHandles (network compatibility : Bool) (S : Finset Handle)
    (calls : List ExtCall) (f : IbFabric) : Prop where
  fabric : f.fabric.isSome = (network && !compatibility)
  ports : AllInMode compatibility f.nodes
  nodup : f.owned.Nodup
  disjoint : ∀ h ∈ f.owned, h ∉ S
  opened : desk.openAfter calls S = some (S ∪ f.owned.toFinset)
  released : (f.destroy.filterMap desk.released).Perm f.owned
  closed : desk.openAfter (calls ++ f.destroy) S = some S

/-- The constructor leaves no handle open when it throws, and only the handles of the new fabric
when it returns, whatever has been opened before. -/
def ReleasesHandles (std : StdSort IbNode) (build : Build) (a : DiscoveryAnswers)
    (network compatibility : Bool) : Prop :=
  ∀ (m : ℕ) (S : Finset Handle), (∀ h ∈ S, h.id < m) →
    let run := (create std build a network compatibility).run m
    match run.result with
    | .ok f => OwnsItsHandles network compatibility S run.calls f
    | .error _ => desk.openAfter run.calls S = some S

theorem ownsItsHandles_of_perm {network compatibility : Bool} {m : ℕ} {S : Finset Handle}
    {calls : List ExtCall} {f : IbFabric} {hs : List Handle}
    (fabric : f.fabric.isSome = (network && !compatibility))
    (ports : AllInMode compatibility f.nodes) (apart : desk.Apart m S hs)
    (opens : desk.openAfter calls S = some (S ∪ hs.toFinset)) (perm : hs.Perm f.owned) :
    OwnsItsHandles network compatibility S calls f := by
  have nodup : f.owned.Nodup := perm.nodup_iff.mp apart.nodup
  have disjoint : ∀ h ∈ f.owned, h ∉ S := fun h hh => apart.disjoint h (perm.mem_iff.mpr hh)
  have opened : desk.openAfter calls S = some (S ∪ f.owned.toFinset) := by
    rw [opens, List.toFinset_eq_of_perm _ _ perm]
  have released := released_destroy f
  have closes : desk.openAfter f.destroy (S ∪ f.owned.toFinset) = some S := by
    rw [Desk.openAfter_release _ _ _ f.destroy_never_acquires (released.nodup_iff.mpr nodup),
      List.toFinset_eq_of_perm _ _ released, Finset.union_sdiff_cancel_right]
    · refine Finset.disjoint_left.mpr fun h inOther inOwned => ?_
      exact disjoint h (List.mem_toFinset.mp inOwned) inOther
    · intro h hh
      exact Finset.mem_union_right _ (List.mem_toFinset.mpr (released.mem_iff.mp hh))
  refine ⟨fabric, ports, nodup, disjoint, opened, released, ?_⟩
  rw [Desk.openAfter_append, opened]
  exact closes

/-- The constructor keeps to the contract exactly when the answers of the libraries let it. -/
theorem releases_handles_iff (std : StdSort IbNode) (build : Build) (a : DiscoveryAnswers)
    (network compatibility : Bool) :
    ReleasesHandles std build a network compatibility ↔ a.Clean network compatibility := by
  constructor
  · intro releases
    have apart : desk.Apart 0 ∅ [] := ⟨List.nodup_nil, by simp, by simp, by simp⟩
    have kept := releases 0 ∅ (by simp)
    obtain ⟨f, m', hs, ⟨-, -, sub, exact_iff⟩, leaves⟩ | ⟨e, m', hs, exact_iff, leaves⟩ :=
      create_ends std build a network compatibility 0 []
    all_goals
      have opens := leaves.opens ∅ apart
      have nodup := (leaves.apart ∅ apart).nodup
      simp only [leaves.result] at kept
      simp only [List.nil_append, List.toFinset_nil, Finset.empty_union] at opens nodup
    · have same := kept.opened.symm.trans opens
      rw [Finset.empty_union, Option.some_inj] at same
      exact exact_iff.mp (List.perm_of_nodup_nodup_toFinset_eq nodup kept.nodup same.symm)
    · have same := kept.symm.trans opens
      rw [Option.some_inj] at same
      exact exact_iff.mp (List.toFinset_eq_empty_iff _ |>.mp same.symm)
  · intro clean m S older
    have apart : desk.Apart m S [] := ⟨List.nodup_nil, older, by simp, by simp⟩
    obtain ⟨f, m', hs, ⟨fabric, ports, sub, exact_iff⟩, leaves⟩ | ⟨e, m', hs, exact_iff, leaves⟩ :=
      create_ends std build a network compatibility m []
    all_goals
      have opens := leaves.opens S apart
      simp only [List.nil_append, List.toFinset_nil, Finset.union_empty] at opens
      simp only [leaves.result]
    · exact ownsItsHandles_of_perm fabric ports (leaves.apart S apart) opens
        (exact_iff.mpr clean)
    · rw [opens, exact_iff.mpr clean]
      simp

/-- A device that cannot be queried is skipped, and the context that was opened for it stays
open although the constructor returns. -/
theorem skipped_device_keeps_context :
    let device : IbvDevice := { IbvDevice.plain with queryDevice := .error "No such device" }
    let a : DiscoveryAnswers := ⟨some [device], "", none⟩
    let run := (create (.stable _) ⟨true, .little⟩ a false false).run 0
    (∃ f, run.result = .ok f ∧ f.owned = []) ∧
      desk.openAfter run.calls ∅ = some {⟨.context, 1⟩} ∧
      ¬ ReleasesHandles (.stable _) ⟨true, .little⟩ a false false := by
  intro device a run
  have sorted : (StdSort.stable IbNode).sort lessDescription [] = [] := List.mergeSort_nil
  have result : run.result = .ok ⟨none, []⟩ :=
    congrArg (fun nodes => Except.ok (IbFabric.mk none nodes)) sorted
  have opened : desk.openAfter run.calls ∅ = some {⟨.context, 1⟩} := by decide
  refine ⟨⟨_, result, rfl⟩, opened, fun releases => ?_⟩
  have kept := releases 0 ∅ (by simp)
  change match run.result with
    | .ok f => OwnsItsHandles false false ∅ run.calls f
    | .error _ => desk.openAfter run.calls ∅ = some ∅ at kept
  rw [result] at kept
  have same := kept.opened.symm.trans opened
  revert same
  decide

end IbFabric

end Detector
