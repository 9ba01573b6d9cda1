import Mathlib.Data.String.Basic
import Detector.IbNode
import Detector.Library.Run

/-!
# The fabric

`IbFabric` discovers the nodes of the local machine or of the network when it is constructed,
sorts them by their description, and owns them. The constructors run against the answers of the
libraries; a device that fails with an `IbVerbsException` is skipped, any other exception
leaves the constructor. `FabricCall` is what a client can do with the finished object: reset or
refresh the fabric, one of its nodes, or one of their ports.
-/
namespace Detector

open Cpp

structure IbFabric where
  fabric : Option Handle
  nodes : List IbNode

/-- The answers of `ibverbs` and `ibnetdisc` during the construction of a fabric: the device
list, the text of `strerror(errno)`, and the linked list of nodes, which is not empty. -/
structure DiscoveryAnswers where
  deviceList : Option (List IbvDevice)
  listError : String
  fabric : Option (IbndNode × List IbndNode)

/-- A comparator that `std::sort` accepts. -/
structure StrictWeak {α : Type} (less : α → α → Bool) : Prop where
  irrefl : ∀ a, less a a = false
  trans : ∀ a b c, less a b = true → less b c = true → less a c = true
  incomparable_trans : ∀ a b c, less a b = false → less b a = false → less b c = false →
    less c b = false → less a c = false ∧ less c a = false

/-- `std::sort`: for a strict weak order, some sorted permutation. -/
structure StdSort (α : Type) where
  sort : (α → α → Bool) → List α → List α
  perm : ∀ less l, StrictWeak less → (sort less l).Perm l
  sorted : ∀ less l, StrictWeak less → (sort less l).Pairwise fun a b => less b a = false

theorem StrictWeak.not_less_trans {α : Type} {less : α → α → Bool} (h : StrictWeak less)
    {a b c : α} (hba : less b a = false) (hcb : less c b = false) : less c a = false := by
  cases hca : less c a with
  | false => rfl
  | true =>
    have hbc : less b c = false := by
      cases hbc : less b c with
      | false => rfl
      | true => exact absurd (h.trans b c a hbc hca) (by simp [hba])
    have hab : less a b = false := by
      cases hab : less a b with
      | false => rfl
      | true => exact absurd (h.trans c a b hca hab) (by simp [hcb])
    have incomparable := (h.incomparable_trans a b c hab hba hbc hcb).2
    exact absurd hca (by simp [incomparable])

/-- The stable merge sort is one such sort. -/
def StdSort.stable (α : Type) : StdSort α where
  sort less l := l.mergeSort fun a b => !less b a
  perm less l _ := List.mergeSort_perm l _
  sorted less l h := by
    have le_trans : ∀ a b c, (!less b a) = true → (!less c b) = true → (!less c a) = true := by
      intro a b c hab hbc
      simp only [Bool.not_eq_true'] at *
      exact h.not_less_trans hab hbc
    have le_total : ∀ a b, (!less b a || !less a b) = true := by
      intro a b
      cases hba : less b a with
      | false => rfl
      | true =>
        cases hab : less a b with
        | false => rfl
        | true => exact absurd (h.trans a b a hab hba) (by simp [h.irrefl])
    exact (List.pairwise_mergeSort le_trans le_total l).imp fun hab => by simpa using hab

/-- What each port meets during one call, by the positions of its node and of the port. -/
abbrev FabricIo := ℕ → NodeIo

namespace IbFabric

/-! ## Construction -/

/-- The handler `catch(const IbVerbsException &)`. -/
def isVerbs : IbPerfException → Bool
  | .ibVerbsException _ => true
  | _ => false

def discoverLocalDevices (build : Build) (a : DiscoveryAnswers) (compatibility : Bool) :
    Method ℕ (List IbNode) := do
  let deviceList ← acquire .deviceList a.deviceList.isSome .ibvGetDeviceList
  let devices ← Eff.require a.deviceList
    (.ibVerbsException ("Unable to get device list! Error: " ++ a.listError))
  let nodes ← Eff.collect
    (fun device => Eff.attempt isVerbs (IbNode.ofDevice build device compatibility)) devices
  Eff.emit (.ibvFreeDeviceList deviceList)
  return nodes.reduceOption

def discoverNetwork (build : Build) (a : DiscoveryAnswers) :
    Method ℕ (Option Handle × List IbNode) := do
  let fabric ← acquire .fabric a.fabric.isSome .ibndDiscoverFabric
  let list ← Eff.require a.fabric (.ibNetDiscException
    "Unable to discover nodes in the fabric (ibnd_discover_fabric failed)!")
  let nodes ← Eff.collect (IbNode.ofNetwork build) (list.1 :: list.2)
  return (fabric, nodes)

/-- Compatibility mode only knows local devices. -/
def discoverFabric (build : Build) (a : DiscoveryAnswers) (network compatibility : Bool) :
    Method ℕ (Option Handle × List IbNode) :=
  if compatibility then do
    let nodes ← discoverLocalDevices build a true
    return (none, nodes)
  else if network then discoverNetwork build a
  else do
    let nodes ← discoverLocalDevices build a false
    return (none, nodes)

/-- `[](IbNode *l, IbNode *r) { return l->GetDescription() < r->GetDescription(); }` -/
def lessDescription (l r : IbNode) : Bool := decide (l.desc < r.desc)

/-- The constructor. -/
def create (std : StdSort IbNode) (build : Build) (a : DiscoveryAnswers)
    (network compatibility : Bool) : Method ℕ IbFabric := do
  let found ← discoverFabric build a network compatibility
  return { fabric := found.1, nodes := std.sort lessDescription found.2 }

/-- The destructor deletes the nodes, then the discovered fabric. -/
def destroy (f : IbFabric) : List ExtCall :=
  f.nodes.flatMap IbNode.destroy ++
    if f.fabric.isSome then [.ibndDestroyFabric f.fabric] else []

theorem strictWeak_lessDescription : StrictWeak lessDescription := by
  constructor
  · intro a
    simp [lessDescription]
  · intro a b c
    simp only [lessDescription, decide_eq_true_eq]
    exact lt_trans
  · intro a b c hab hba hbc hcb
    simp only [lessDescription, decide_eq_false_iff_not, not_lt] at *
    exact ⟨hbc.trans hab, hba.trans hcb⟩

/-! ## Member functions -/

def withNodes (f : IbFabric) (s : List IbNode × Unit) : IbFabric := { f with nodes := s.1 }

def resetCounters (io : FabricIo) : Method IbFabric Unit :=
  Eff.focus (fun f => (f.nodes, ())) withNodes
    (Eff.visit fun i => Eff.onItem (IbNode.resetCounters (io i)))

def refreshCounters (build : Build) (io : FabricIo) : Method IbFabric Unit :=
  Eff.focus (fun f => (f.nodes, ())) withNodes
    (Eff.visit fun i => Eff.onItem (IbNode.refreshCounters build (io i)))

/-- A call of a client on node number `i`, through `GetNodes`. -/
def onNode (i : ℕ) (x : Method IbNode Unit) : Method IbFabric Unit :=
  Eff.focus nodes (fun f nodes => { f with nodes := nodes }) (Eff.onNth i x)

/-- The object that a client calls: the fabric, a node or a port of a node. -/
inductive Target where
  | fabric
  | node (i : ℕ)
  | port (i j : ℕ)
  deriving DecidableEq

/-- A call of a client, with what the ports meet during it. -/
structure FabricCall where
  op : CounterOp
  target : Target
  io : FabricIo

def call (build : Build) (c : FabricCall) : Method IbFabric Unit :=
  match c.op, c.target with
  | .reset, .fabric => resetCounters c.io
  | .reset, .node i => onNode i (IbNode.resetCounters (c.io i))
  | .reset, .port i j => onNode i (IbNode.onPort j (Port.resetCounters (c.io i j)))
  | .refresh, .fabric => refreshCounters build c.io
  | .refresh, .node i => onNode i (IbNode.refreshCounters build (c.io i))
  | .refresh, .port i j => onNode i (IbNode.onPort j (Port.refreshCounters build (c.io i j)))

end IbFabric

end Detector
