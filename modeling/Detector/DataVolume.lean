import Detector.MadRuns

/-!
# Reported data volume

Rates are computed from the difference of two refreshes, so the byte counts should grow as the
raw counters of the hardware do, scaled by the link width. They do, with one exception that the
code makes on purpose: of the received data of a switch only the lower 40 bits are used, so
there the count falls back to 0 whenever the raw counter reaches a multiple of `2^40`.
-/
namespace Detector

open Cpp

namespace IbPort

theorem calcLinkWidth_pos (activeWidth : UInt8) : 0 < (calcLinkWidth activeWidth).toNat := by
  unfold calcLinkWidth
  split <;> decide

/-- The raw 64-bit data counters of the hardware, as a refresh gets to see them. -/
def rawXmit (r : Replies) : ℕ := (r.ext.decode64 .pcExtXmtBytes).toNat
def rawRcv (r : Replies) : ℕ := (r.ext.decode64 .pcExtRcvBytes).toNat

/-- What is used of the raw received data. -/
def visibleRcv (p : IbPort) (r : Replies) : ℕ :=
  if p.nodeType = ibNodeSwitch then rawRcv r % 2 ^ 40 else rawRcv r

theorem visibleRcv_le (p : IbPort) (r : Replies) : visibleRcv p r ≤ rawRcv r := by
  unfold visibleRcv
  split
  · exact Nat.mod_le _ _
  · exact le_refl _

theorem toNat_rcvData (p : IbPort) (r : Replies) :
    (rcvData p.nodeType (r.ext.decode64 .pcExtRcvBytes)).toNat = visibleRcv p r := by
  unfold rcvData visibleRcv rawRcv
  split
  · rw [UInt64.toNat_and]
    exact Nat.and_two_pow_sub_one_eq_mod _ 40
  · rfl

theorem toNat_width (p : IbPort) : p.linkWidth.toUInt64.toNat = p.linkWidth.toNat := by simp

variable {build : Build} {p : IbPort} {r : Replies}

theorem reading_xmit (h : p.linkWidth.toNat * rawXmit r < 2 ^ 64) :
    (reading build p r .xmitDataBytes).toNat = p.linkWidth.toNat * rawXmit r := by
  rw [reading, UInt64.toNat_mul, toNat_width, Nat.mul_comm]
  exact Nat.mod_eq_of_lt h

theorem reading_rcv (h : p.linkWidth.toNat * rawRcv r < 2 ^ 64) :
    (reading build p r .rcvDataBytes).toNat = p.linkWidth.toNat * visibleRcv p r := by
  have le := Nat.mul_le_mul_left p.linkWidth.toNat (visibleRcv_le p r)
  rw [reading, UInt64.toNat_mul, toNat_width, toNat_rcvData, Nat.mul_comm]
  exact Nat.mod_eq_of_lt (by omega)

/-- Both raw values lie in the same block of `2^40`, or the port is not that of a switch. -/
def SameBlock (p : IbPort) (r r' : Replies) : Prop :=
  p.nodeType = ibNodeSwitch → rawRcv r / 2 ^ 40 = rawRcv r' / 2 ^ 40

/-- The visible received data grow as the raw ones exactly within a block. -/
theorem visibleRcv_grows_iff {r' : Replies} (mono : rawRcv r ≤ rawRcv r') :
    visibleRcv p r' = visibleRcv p r + (rawRcv r' - rawRcv r) ↔ SameBlock p r r' := by
  unfold visibleRcv SameBlock
  split
  · constructor
    · intro h _
      omega
    · intro h
      have := h ‹_›
      omega
  · constructor
    · intro _ h
      contradiction
    · intro _
      omega

/-! ## One port -/

/-- A refresh, with the replies that its queries get. -/
structure Sample where
  a : MadAnswers
  r : Replies

/-- The port after refreshes. -/
def sampled (build : Build) (run : List Sample) (p : IbPort) : IbPort :=
  Eff.runs (fun x => refreshCounters build x.a) run p

/-- The queries of every refresh succeed, and the raw data counters stay small and never
decrease. -/
structure Steady (build : Build) (p : IbPort) (run : List Sample) : Prop where
  answers : ∀ x ∈ run, Answers build x.a p x.r
  small : ∀ x ∈ run, p.linkWidth.toNat * rawXmit x.r < 2 ^ 64 ∧
    p.linkWidth.toNat * rawRcv x.r < 2 ^ 64
  mono : run.Pairwise fun x y => rawXmit x.r ≤ rawXmit y.r ∧ rawRcv x.r ≤ rawRcv y.r

/-- After refreshes that succeeded the counters are the last readings. -/
theorem sampled_concat {p₀ : IbPort} (settled : Settled p₀ p) (run : List Sample) {x : Sample}
    (answers : Answers build x.a p₀ x.r) :
    sampled build (run ++ [x]) p = p₀.withCounters (reading build p₀ x.r) := by
  have before : Settled p₀ (sampled build run p) :=
    Eff.runs_invariant settled run fun y q _ hq => settled_call build hq (.refresh, y.a)
  have final : (sampled build run p).refreshedTo build x.r 3 = _ :=
    before.refreshedTo_three build x.r
  have ends : Eff.Returns (refreshCounters build x.a) (sampled build run p) ()
      ((sampled build run p).refreshedTo build x.r 3) := by
    refine returns_refreshCounters_iff.mpr ⟨x.r, ?_, rfl⟩
    obtain ⟨c, hc, -⟩ := before
    rw [hc]
    exact ⟨answers.ext, answers.errors, answers.rest⟩
  rw [sampled, Eff.runs_concat]
  exact ends.after_eq.trans final

/-- After each refresh of a steady run the received bytes are the link width times what is used of
the raw counter. -/
theorem rcv_of_sampled {p₀ : IbPort} (settled : Settled p₀ p) {run : List Sample}
    (steady : Steady build p₀ run) {pre post : List Sample} {x : Sample}
    (split : run = pre ++ x :: post) : (sampled build (pre ++ [x]) p).getRcvDataBytes.toNat =
      p₀.linkWidth.toNat * visibleRcv p₀ x.r := by
  have hx : x ∈ run := by simp [split]
  rw [sampled_concat settled pre (steady.answers x hx), IbPerfCounter.getRcvDataBytes,
    withCounters_counters, reading_rcv (steady.small x hx).2]

/-- Between any two refreshes of a steady run, the transmitted bytes grow by the link width
times the growth of the raw counter; the received bytes do so exactly when no multiple of
`2^40` lies between the raw values or the port is not that of a switch. -/
theorem data_follows_raw {p₀ : IbPort} (settled : Settled p₀ p) (width : 0 < p₀.linkWidth.toNat)
    {run : List Sample} (steady : Steady build p₀ run) {pre mid post : List Sample} {x y : Sample}
    (split : run = pre ++ x :: mid ++ y :: post) :
    (sampled build (pre ++ x :: mid ++ [y]) p).getXmitDataBytes.toNat =
        (sampled build (pre ++ [x]) p).getXmitDataBytes.toNat +
          p₀.linkWidth.toNat * (rawXmit y.r - rawXmit x.r) ∧
      ((sampled build (pre ++ x :: mid ++ [y]) p).getRcvDataBytes.toNat =
          (sampled build (pre ++ [x]) p).getRcvDataBytes.toNat +
            p₀.linkWidth.toNat * (rawRcv y.r - rawRcv x.r) ↔
        SameBlock p₀ x.r y.r) := by
  have hx : x ∈ run := by simp [split]
  have hy : y ∈ run := by simp [split]
  have first := sampled_concat settled pre (steady.answers x hx)
  have second := sampled_concat settled (pre ++ x :: mid) (steady.answers y hy)
  obtain ⟨monoX, monoR⟩ : rawXmit x.r ≤ rawXmit y.r ∧ rawRcv x.r ≤ rawRcv y.r := by
    have pairs := steady.mono
    rw [split, List.pairwise_append] at pairs
    exact pairs.2.2 x (by simp) y (by simp)
  rw [first, second]
  simp only [IbPerfCounter.getXmitDataBytes, IbPerfCounter.getRcvDataBytes,
    withCounters_counters, reading_xmit (steady.small x hx).1, reading_xmit (steady.small y hy).1,
    reading_rcv (steady.small x hx).2, reading_rcv (steady.small y hy).2]
  constructor
  · rw [← Nat.mul_add, Nat.add_sub_cancel' monoX]
  · rw [← Nat.mul_add, Nat.mul_right_inj width.ne', visibleRcv_grows_iff monoR]

end IbPort

/-! ## A node -/

namespace IbNode

open IbPort (Replies rawXmit rawRcv visibleRcv SameBlock reading)

/-- A refresh of the node, with the replies that the queries of each port get. -/
structure Sample where
  io : NodeIo
  r : ℕ → Replies

/-- The node after refreshes. -/
def sampled (build : Build) (run : List Sample) (n : IbNode) : IbNode :=
  Eff.runs (fun x => refreshCounters build x.io) run n

/-- The sum over the ports of a value times the link width. -/
def weighted (ps : List IbPort) (value : ℕ → IbPort → ℕ) : ℕ :=
  (ps.mapIdx fun j p => p.linkWidth.toNat * value j p).sum

/-- The queries of every refresh succeed, the raw data counters never decrease, and the exact
sums stay below `2^64`. -/
structure Steady (build : Build) (ps : List IbPort) (run : List Sample) : Prop where
  answers : ∀ x ∈ run, ∀ j p, ps[j]? = some p → IbPort.Answers build (x.io j).mad p (x.r j)
  small : ∀ x ∈ run, weighted ps (fun j _ => rawXmit (x.r j)) < 2 ^ 64 ∧
    weighted ps (fun j _ => rawRcv (x.r j)) < 2 ^ 64
  mono : run.Pairwise fun x y => ∀ j p, ps[j]? = some p →
    rawXmit (x.r j) ≤ rawXmit (y.r j) ∧ rawRcv (x.r j) ≤ rawRcv (y.r j)

/-- The ports of the node are the ports `ps` with some counters. -/
def MadPorts (ps : List IbPort) (n : IbNode) : Prop :=
  ∃ c : ℕ → IbPort → PerfCounters,
    n.ports = ps.mapIdx fun j p => Port.mad (p.withCounters (c j p))

variable {build : Build} {ps : List IbPort} {n : IbNode}

theorem refreshedTo_data {p : IbPort} (c : PerfCounters) (r : Replies) {v : PerfVar}
    (data : IbPerfCounter.isData v = true) :
    ((p.withCounters c).refreshedTo build r 3).counters v = reading build p r v := by
  have supported : (p.withCounters c).supports v = true := by
    cases v <;> simp_all [IbPerfCounter.isData, IbPort.supports]
  have below := IbPort.query_lt_three build (p.withCounters c) v
  rw [IbPort.refreshedTo, IbPort.withCounters_counters, supported, decide_eq_true below,
    Bool.and_self, if_pos rfl]
  rfl

/-- After a refresh that succeeds the data counters of the node are the sums of the readings. -/
theorem refresh_answered {x : Sample} (h : MadPorts ps n)
    (answers : ∀ j p, ps[j]? = some p → IbPort.Answers build (x.io j).mad p (x.r j)) :
    ∃ n', Eff.Returns (refreshCounters build x.io) n () n' ∧ MadPorts ps n' ∧
      ∀ v, IbPerfCounter.isData v = true →
        n'.counters v = (ps.mapIdx fun j p => reading build p (x.r j) v).sum := by
  obtain ⟨c, hc⟩ := h
  let after (j : ℕ) (p : IbPort) : IbPort := (p.withCounters (c j p)).refreshedTo build (x.r j) 3
  let refreshed (j : ℕ) (q : Port) : Port := .mad (q.toIbPort.refreshedTo build (x.r j) 3)
  have each : Eff.Each (fun j => Port.refreshCounters build (x.io j)) 0 n.ports
      (n.ports.mapIdx refreshed) := by
    refine Eff.Each.mapIdx fun j q hq => ?_
    rw [hc, List.getElem?_mapIdx] at hq
    obtain ⟨p, hp, rfl⟩ := Option.map_eq_some_iff.mp hq
    obtain ⟨ext, errors, rest⟩ := answers j p hp
    refine Port.returns_refreshCounters_mad.mpr ⟨_, ?_, rfl⟩
    exact IbPort.returns_refreshCounters_iff.mpr ⟨x.r j, ⟨ext, errors, rest⟩, rfl⟩
  have ports : n.ports.mapIdx refreshed = ps.mapIdx fun j p => Port.mad (after j p) := by
    rw [hc, List.mapIdx_mapIdx]
    rfl
  rw [ports] at each
  refine ⟨_, returns_refreshCounters.mpr ⟨_, each, rfl⟩, ⟨fun j p => (after j p).counters, rfl⟩,
    fun v data => ?_⟩
  change ((ps.mapIdx fun j p => Port.mad (after j p)).map fun q => q.counters v).sum = _
  have values : (ps.mapIdx fun j p => Port.mad (after j p)).map (fun q => q.counters v) =
      ps.mapIdx fun j p => reading build p (x.r j) v := by
    refine List.ext_getElem (by simp) fun j _ _ => ?_
    rw [List.getElem_map, List.getElem_mapIdx, List.getElem_mapIdx]
    exact refreshedTo_data _ _ data
  rw [values]

/-- Values that grow make the sum grow by the sum of their growths. -/
theorem weighted_add (f g d : ℕ → IbPort → ℕ)
    (h : ∀ j p, ps[j]? = some p → g j p = f j p + d j p) :
    weighted ps g = weighted ps f + weighted ps d := by
  rw [weighted, weighted, weighted, ← sum_mapIdx_add]
  refine sum_mapIdx_congr fun j p hp => ?_
  rw [h j p hp, Nat.mul_add]

/-- After refreshes that succeed the byte counts of the node show the raw counters. -/
theorem sampled_concat (h : MadPorts ps n) (run : List Sample) (x : Sample)
    (answers : ∀ y ∈ run ++ [x], ∀ j p, ps[j]? = some p →
      IbPort.Answers build (y.io j).mad p (y.r j))
    (small : weighted ps (fun j _ => rawXmit (x.r j)) < 2 ^ 64 ∧
      weighted ps (fun j _ => rawRcv (x.r j)) < 2 ^ 64) :
    (sampled build (run ++ [x]) n).getXmitDataBytes.toNat =
        weighted ps (fun j _ => rawXmit (x.r j)) ∧
      (sampled build (run ++ [x]) n).getRcvDataBytes.toNat =
        weighted ps (fun j p => visibleRcv p (x.r j)) := by
  have before : MadPorts ps (sampled build run n) := by
    refine Eff.runs_invariant h run fun y n hy hn => ?_
    obtain ⟨n', ends, ports, -⟩ := refresh_answered hn (answers y (by simp [hy]))
    rw [ends.after_eq]
    exact ports
  obtain ⟨n', ends, -, value⟩ := refresh_answered before (answers x (by simp))
  have final : sampled build (run ++ [x]) n = n' := by
    rw [sampled, Eff.runs_concat]
    exact ends.after_eq
  rw [final, IbPerfCounter.getXmitDataBytes, IbPerfCounter.getRcvDataBytes, value _ rfl,
    value _ rfl]
  constructor
  · refine toNat_sum_mapIdx ps _ _ (fun j p hp => IbPort.reading_xmit ?_) small.1
    have term := le_sum_mapIdx (fun j p => p.linkWidth.toNat * rawXmit (x.r j)) hp
    exact term.trans_lt small.1
  · refine toNat_sum_mapIdx ps _ _ (fun j p hp => IbPort.reading_rcv ?_) ?_
    · have term := le_sum_mapIdx (fun j p => p.linkWidth.toNat * rawRcv (x.r j)) hp
      exact term.trans_lt small.2
    · have hidden : weighted ps (fun j _ => rawRcv (x.r j)) = _ :=
        weighted_add (fun j p => visibleRcv p (x.r j)) _
          (fun j p => rawRcv (x.r j) - visibleRcv p (x.r j))
          fun j p _ => (Nat.add_sub_cancel' (IbPort.visibleRcv_le p (x.r j))).symm
      have bound := small.2
      rw [hidden] at bound
      exact (Nat.le_add_right _ _).trans_lt bound

/-- Between any two refreshes of a steady run, the byte counts of the node grow by the sum of
the growths, where no port of a switch gets past a multiple of `2^40`. -/
theorem data_follows_ports (h : MadPorts ps n) {run : List Sample} (steady : Steady build ps run)
    {pre mid post : List Sample} {x y : Sample} (split : run = pre ++ x :: mid ++ y :: post) :
    (sampled build (pre ++ x :: mid ++ [y]) n).getXmitDataBytes.toNat =
        (sampled build (pre ++ [x]) n).getXmitDataBytes.toNat +
          weighted ps (fun j _ => rawXmit (y.r j) - rawXmit (x.r j)) ∧
      ((∀ j p, ps[j]? = some p → SameBlock p (x.r j) (y.r j)) →
        (sampled build (pre ++ x :: mid ++ [y]) n).getRcvDataBytes.toNat =
          (sampled build (pre ++ [x]) n).getRcvDataBytes.toNat +
            weighted ps (fun j _ => rawRcv (y.r j) - rawRcv (x.r j))) := by
  have hx : x ∈ run := by simp [split]
  have hy : y ∈ run := by simp [split]
  obtain ⟨xmit, rcv⟩ := sampled_concat h pre x
    (fun z hz => steady.answers z (by rw [split]; simp at hz ⊢; tauto)) (steady.small x hx)
  obtain ⟨xmit', rcv'⟩ := sampled_concat h (pre ++ x :: mid) y
    (fun z hz => steady.answers z (by rw [split]; simp at hz ⊢; tauto)) (steady.small y hy)
  have mono : ∀ j p, ps[j]? = some p →
      rawXmit (x.r j) ≤ rawXmit (y.r j) ∧ rawRcv (x.r j) ≤ rawRcv (y.r j) := by
    have pairs := steady.mono
    rw [split, List.pairwise_append] at pairs
    exact pairs.2.2 x (by simp) y (by simp)
  rw [xmit, xmit', rcv, rcv']
  constructor
  · exact weighted_add _ _ _ fun j p hp => (Nat.add_sub_cancel' (mono j p hp).1).symm
  · intro block
    exact weighted_add _ _ _ fun j p hp =>
      (IbPort.visibleRcv_grows_iff (mono j p hp).2).mpr (block j p hp)

end IbNode

/-- Whatever the history of a constructed port or of a node of such ports: in a steady run of
refreshes the reported data volume follows the hardware, except for the received data of a
switch, which show its lower 40 bits and so follow it exactly within a block of `2^40`. -/
theorem data_volume_follows_hardware (build : Build) :
    (∀ a₀ lid portNum m p₀ m', Eff.Returns (IbPort.create build a₀ lid portNum) m p₀ m' →
      ∀ history run, IbPort.Steady build p₀ run →
        let p := Eff.runs (IbPort.call build) history p₀
        (∀ (pre : List IbPort.Sample) (x : IbPort.Sample) (post : List IbPort.Sample),
            run = pre ++ x :: post →
          (IbPort.sampled build (pre ++ [x]) p).getRcvDataBytes.toNat =
            p₀.linkWidth.toNat * IbPort.visibleRcv p₀ x.r) ∧
        ∀ (pre : List IbPort.Sample) (x : IbPort.Sample) (mid : List IbPort.Sample)
            (y : IbPort.Sample) (post : List IbPort.Sample),
            run = pre ++ x :: mid ++ y :: post →
          let before := IbPort.sampled build (pre ++ [x]) p
          let after := IbPort.sampled build (pre ++ x :: mid ++ [y]) p
          after.getXmitDataBytes.toNat = before.getXmitDataBytes.toNat +
              p₀.linkWidth.toNat * (IbPort.rawXmit y.r - IbPort.rawXmit x.r) ∧
            (after.getRcvDataBytes.toNat = before.getRcvDataBytes.toNat +
                p₀.linkWidth.toNat * (IbPort.rawRcv y.r - IbPort.rawRcv x.r) ↔
              IbPort.SameBlock p₀ x.r y.r)) ∧
    (∀ ps n, IbNode.MadPorts ps n → ∀ run, IbNode.Steady build ps run →
      ∀ (pre : List IbNode.Sample) (x : IbNode.Sample) (mid : List IbNode.Sample)
          (y : IbNode.Sample) (post : List IbNode.Sample), run = pre ++ x :: mid ++ y :: post →
        let before := IbNode.sampled build (pre ++ [x]) n
        let after := IbNode.sampled build (pre ++ x :: mid ++ [y]) n
        after.getXmitDataBytes.toNat = before.getXmitDataBytes.toNat +
            IbNode.weighted ps (fun j _ => IbPort.rawXmit (y.r j) - IbPort.rawXmit (x.r j)) ∧
          ((∀ j p, ps[j]? = some p → IbPort.SameBlock p (x.r j) (y.r j)) →
            after.getRcvDataBytes.toNat = before.getRcvDataBytes.toNat +
              IbNode.weighted ps (fun j _ => IbPort.rawRcv (y.r j) - IbPort.rawRcv (x.r j)))) := by
  constructor
  · intro a₀ lid portNum m p₀ m' created history run steady p
    have settled : IbPort.Settled p₀ (Eff.runs (IbPort.call build) history p₀) :=
      IbPort.settled_runs (IbPort.settled_of_create created) history
    have width : 0 < p₀.linkWidth.toNat := by
      obtain ⟨-, -, -, -, -, activeWidth, same⟩ := IbPort.returns_create created
      rw [same]
      exact IbPort.calcLinkWidth_pos activeWidth
    exact ⟨fun pre x post => IbPort.rcv_of_sampled settled steady,
      fun pre x mid y post => IbPort.data_follows_raw settled width steady⟩
  · intro ps n ports run steady pre x mid y post split
    exact IbNode.data_follows_ports ports steady split

/-! ## Examples -/

/-- A refresh of a plain device. -/
def IbPort.Sample.plain (nodeType activeWidth : UInt32) (xmit rcv : UInt64) :
    IbPort.Sample where
  a := plainDevice nodeType activeWidth xmit rcv
  r := ⟨plainReply xmit rcv, plainReply xmit rcv, plainReply xmit rcv⟩

theorem IbPort.Sample.answers_plain (build : Build) (p : IbPort) (nodeType activeWidth : UInt32)
    (xmit rcv : UInt64) : Answers build (plain nodeType activeWidth xmit rcv).a p
      (plain nodeType activeWidth xmit rcv).r :=
  ⟨rfl, fun _ => rfl, rfl⟩

/-- Such refreshes of the ports of a node; there are no files. -/
def IbNode.Sample.ofPorts (x : ℕ → IbPort.Sample) : IbNode.Sample where
  io j := ⟨(x j).a, fun _ => ⟨false, [], false⟩⟩
  r j := (x j).r

/-- A node with two ports. -/
def IbNode.ofPorts (p q : IbPort) : IbNode where
  counters := IbPerfCounter.init
  desc := "plain"
  guid := 1
  numPorts := 2
  ports := [.mad p, .mad q]

/-- A router port of width 4, alone and in a node with a port of width 1. -/
theorem data_volume_follows_hardware_router :
    let build : Build := ⟨true, .little⟩
    let p := IbPort.plainPort ibNodeRouter 2 0
    let q := IbPort.plainPort ibNodeRouter 1 1
    let x := IbPort.Sample.plain ibNodeRouter 2 70 90
    let y := IbPort.Sample.plain ibNodeRouter 2 80 95
    let x' := IbPort.Sample.plain ibNodeRouter 1 7 2
    let y' := IbPort.Sample.plain ibNodeRouter 1 9 5
    let first : IbNode.Sample := .ofPorts fun j => if j = 0 then x else x'
    let second : IbNode.Sample := .ofPorts fun j => if j = 0 then y else y'
    let n := IbNode.ofPorts p q
    ((IbPort.sampled build [x, y] p).getXmitDataBytes.toNat =
        (IbPort.sampled build [x] p).getXmitDataBytes.toNat + 40 ∧
      (IbPort.sampled build [x, y] p).getRcvDataBytes.toNat =
        (IbPort.sampled build [x] p).getRcvDataBytes.toNat + 20) ∧
    (IbNode.sampled build [first, second] n).getXmitDataBytes.toNat =
        (IbNode.sampled build [first] n).getXmitDataBytes.toNat + 42 ∧
      (IbNode.sampled build [first, second] n).getRcvDataBytes.toNat =
        (IbNode.sampled build [first] n).getRcvDataBytes.toNat + 23 := by
  intro build p q x y x' y' first second n
  have law := data_volume_follows_hardware build
  have notSwitch : ∀ {k : IbPort} {r r' : IbPort.Replies}, k.nodeType = ibNodeRouter →
      IbPort.SameBlock k r r' := fun router switch => absurd (router.symm.trans switch) (by decide)
  have grows : IbPort.rawXmit x.r ≤ IbPort.rawXmit y.r ∧ IbPort.rawRcv x.r ≤ IbPort.rawRcv y.r := by
    decide
  have grows' : IbPort.rawXmit x'.r ≤ IbPort.rawXmit y'.r ∧
      IbPort.rawRcv x'.r ≤ IbPort.rawRcv y'.r := by decide
  constructor
  · have steady : IbPort.Steady build p [x, y] := by
      refine ⟨?_, ?_, ?_⟩
      · simp [x, y, IbPort.Sample.answers_plain]
      · simp only [List.forall_mem_cons]
        decide
      · exact List.pairwise_pair.mpr grows
    obtain ⟨-, follows⟩ := law.1 _ _ _ _ _ _
      (IbPort.create_plainPort build rfl ibNodeRouter 2 70 90 0) [] _ steady
    obtain ⟨xmit, rcv⟩ := follows [] x [] y [] rfl
    exact ⟨xmit, rcv.mpr (notSwitch rfl)⟩
  · have ports : IbNode.MadPorts [p, q] n := ⟨fun _ k => k.counters, rfl⟩
    have places : ∀ {P : ℕ → IbPort → Prop}, P 0 p → P 1 q → ∀ j k, [p, q][j]? = some k → P j k := by
      rintro P atP atQ (_ | _ | j) k hk
      · obtain rfl : p = k := by simpa using hk
        exact atP
      · obtain rfl : q = k := by simpa using hk
        exact atQ
      · simp at hk
    have steady : IbNode.Steady build [p, q] [first, second] := by
      refine ⟨?_, ?_, ?_⟩
      · simp only [List.forall_mem_cons]
        refine ⟨places ?_ ?_, places ?_ ?_, by simp⟩
        all_goals exact IbPort.Sample.answers_plain build _ _ _ _ _
      · simp only [List.forall_mem_cons]
        decide
      · exact List.pairwise_pair.mpr (places grows grows')
    obtain ⟨xmit, rcv⟩ := law.2 _ _ ports _ steady [] _ [] _ [] rfl
    exact ⟨xmit, rcv (places (notSwitch rfl) (notSwitch rfl))⟩

/-- A switch port of width 1: when its raw counter reaches `2^40`, the received data fall back
to 0. -/
theorem switch_rcv_falls_back :
    let build : Build := ⟨true, .little⟩
    let p := IbPort.plainPort ibNodeSwitch 1 0
    let x := IbPort.Sample.plain ibNodeSwitch 1 0 0xffffffffff
    let y := IbPort.Sample.plain ibNodeSwitch 1 0 0x10000000000
    Eff.Returns (IbPort.create build x.a 3 1) 0 p 1 ∧ IbPort.Steady build p [x, y] ∧
      (IbPort.sampled build [x] p).getRcvDataBytes = 0xffffffffff ∧
      (IbPort.sampled build [x, y] p).getRcvDataBytes = 0 := by
  intro build p x y
  have created := IbPort.create_plainPort build rfl ibNodeSwitch 1 0 0xffffffffff 0
  have settled := IbPort.settled_of_create created
  refine ⟨created, ⟨?_, ?_, ?_⟩, ?_, ?_⟩
  · simp [x, y, IbPort.Sample.answers_plain]
  · simp only [List.forall_mem_cons]
    decide
  · exact List.pairwise_pair.mpr (by decide)
  · rw [← List.nil_append [x], IbPort.sampled_concat settled [] (IbPort.Sample.answers_plain ..)]
    decide
  · rw [show [x, y] = [x] ++ [y] from rfl,
      IbPort.sampled_concat settled [x] (IbPort.Sample.answers_plain ..)]
    decide

end Detector
