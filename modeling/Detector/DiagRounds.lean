import Detector.DiagTest
import Detector.FileRounds
import Detector.Library.Lineup
import Detector.PerfTest

/-!
# The rounds of `diagtest`

After its setup `diagtest` goes through its counters again and again. A round refreshes and prints
them one after the other, and the first exception ends the round. A stream that is not good never
becomes good again without a reset, which `diagtest` does not make: once the reads of a counter did
not go well, this counter and all counters behind it are never printed again.

## Main definitions

* `IbDiagPerfCounter.writeTo` — the output operator, into a stream.
* `DiagTest.loop` — the loop, `DiagTest.main` the program.
* `DiagTest.roundsText` — what the rounds print.

## Main results

* `DiagTest.returns_loop` — the loop writes the text of the rounds.
* `DiagTest.main_prints` — everything that a run of the program prints.
-/
namespace Detector

open Cpp

/-! ## The operator -/

namespace IbDiagPerfCounter

/-- `operator<<`. -/
def writeTo (o : IbDiagPerfCounter) (os : OutStream) : OutStream :=
  os |>.put (chars "Device: " rfl) |>.put o.deviceName.toList
    |>.put (if o.portNumber > 0 then (", Port: " ++ toString o.portNumber.toNat).toList else [])
    |>.endl |> report.writeTo o.counters

theorem inserts_writeTo (o : IbDiagPerfCounter) : OutStream.Inserts o.writeTo o.print := by
  intro t
  have counters := report.inserts_writeTo o.counters
  have first : (OutStream.mk t .dec |>.put (chars "Device: " rfl) |>.put o.deviceName.toList
      |>.put (if o.portNumber > 0 then (", Port: " ++ toString o.portNumber.toNat).toList else [])
      |>.endl) = ⟨t ++ (o.header.toList ++ ['\n']), .dec⟩ := by
    cases port : decide (o.portNumber > 0) <;>
      simp_all [OutStream.put, OutStream.endl, header, chars]
  rw [writeTo, first, counters, print, List.append_assoc]

/-! ## Refreshes without resets -/

/-- The files that the counter reads. -/
def path (o : IbDiagPerfCounter) (v : DiagVar) : String :=
  counterPath o.deviceName o.portNumber ++ fileOf v

/-- The reads of the counter's files leave good streams good. -/
def ReadsWell (o : IbDiagPerfCounter) (io : Reads) : Prop := fileClass.ReadsWell o.path io

instance (o : IbDiagPerfCounter) (io : Reads) : Decidable (o.ReadsWell io) :=
  inferInstanceAs (Decidable (fileClass.ReadsWell _ _))

/-- What is printed for the counter when the files show this. -/
def printed (o : IbDiagPerfCounter) (io : Reads) : List Char :=
  ({ o with counters := fileClass.values o.path io } : IbDiagPerfCounter).print

/-- The same counter after refreshes. -/
def Later (o q : IbDiagPerfCounter) : Prop :=
  (q.deviceName = o.deviceName ∧ q.portNumber = o.portNumber) ∧
    fileClass.Unreset o.path q.toFileCounters

/-- All streams of the counter are good. -/
def Works (o : IbDiagPerfCounter) : Prop := FileClass.Works o.toFileCounters

/-- A counter prints what its files show, up to the first refresh whose reads do not go well. -/
theorem latch (o : IbDiagPerfCounter) : Eff.Latch refreshCounters print o.Later Works o.ReadsWell
    o.printed (.ibFileException "Unable to read file!") := by
  refine (FileClass.latch fileClass o.path).focus
    (fun q : IbDiagPerfCounter => q.deviceName = o.deviceName ∧ q.portNumber = o.portNumber)
    (fun counters => ({ o with counters := counters } : IbDiagPerfCounter).print) ?_ ?_ ?_
  · exact fun _ _ => rfl
  · exact fun _ _ same => same
  · rintro q ⟨name, port⟩
    simp only [print, header, name, port]

theorem later_of_create {readable : String → Bool} {deviceName : String} {portNumber : UInt8}
    {m m' : ℕ} {o : IbDiagPerfCounter}
    (created : Eff.Returns (create readable deviceName portNumber) m o m') :
    o.Later o ∧ o.Works := by
  have fresh := returns_create created
  have named : o.deviceName = deviceName ∧ o.portNumber = portNumber := by
    obtain ⟨_, _, -, built⟩ := Eff.returns_bind.mp created
    obtain ⟨rfl, -⟩ := Eff.returns_pure.mp built
    exact ⟨rfl, rfl⟩
  rw [← named.1, ← named.2] at fresh
  exact ⟨⟨⟨rfl, rfl⟩, FileClass.unreset_of_fresh (k := fileClass) fresh⟩,
    FileClass.works_of_fresh (k := fileClass) fresh⟩

end IbDiagPerfCounter

namespace DiagTest

/-! ## The loop -/

/-- The exceptions that the handler in `main` names. -/
def isFile : IbPerfException → Bool
  | .ibFileException _ => true
  | _ => false

/-- The line that is printed for an exception. -/
def message (exception : IbPerfException) : List Char :=
  chars "An exception occurred: " rfl ++ exception.what.toList ++ ['\n']

/-- The body of the loop in `main`, without the sleep. -/
def round (io : ℕ → Reads) : Method (List IbDiagPerfCounter × OutStream) Unit :=
  Eff.rescue isFile (fun exception => Eff.modify fun s => (s.1, s.2.put (message exception)))
    (do
      Eff.visit fun i => Eff.showing (fun os o => (o.writeTo os).endl.endl)
        (IbDiagPerfCounter.refreshCounters (io i))
      Eff.modify fun s => (s.1, s.2.endl))

/-- The rounds until the signal, with what the files show when each counter is refreshed. -/
def loop (rounds : List (ℕ → Reads)) : Method (List IbDiagPerfCounter × OutStream) Unit :=
  rounds.forM round

/-! ## What the loop writes -/

/-- What a round prints after the rounds `pre`: the counters before the first one of which a read
went wrong in an earlier round, and the exception when there is one. -/
def roundText (counters : List IbDiagPerfCounter) (pre : List (ℕ → Reads)) (io : ℕ → Reads) :
    List Char :=
  let k := Eff.unbroken IbDiagPerfCounter.ReadsWell counters pre
  (Eff.shown IbDiagPerfCounter.printed counters io k).flatMap (fun t => t ++ ['\n', '\n']) ++
    if k = counters.length then ['\n'] else message (.ibFileException "Unable to read file!")

/-- What the rounds print that follow the rounds `pre`. -/
def roundsText (counters : List IbDiagPerfCounter) (pre : List (ℕ → Reads)) :
    List (ℕ → Reads) → List Char
  | [] => []
  | io :: rounds => roundText counters pre io ++ roundsText counters (pre ++ [io]) rounds

/-- The counters after some rounds. -/
abbrev Printing (counters : List IbDiagPerfCounter) (pre : List (ℕ → Reads))
    (now : List IbDiagPerfCounter) : Prop :=
  Eff.Lineup IbDiagPerfCounter.Later IbDiagPerfCounter.Works counters
    (Eff.unbroken IbDiagPerfCounter.ReadsWell counters pre) now

/-- A round prints the counters that worked before it, and leaves those that were read well. -/
theorem returns_round {counters now : List IbDiagPerfCounter} {pre : List (ℕ → Reads)}
    (printing : Printing counters pre now) (io : ℕ → Reads) (t : List Char) :
    ∃ next, Printing counters (pre ++ [io]) next ∧
      Eff.Returns (round io) (now, ⟨t, .dec⟩) () (next, ⟨t ++ roundText counters pre io, .dec⟩) := by
  obtain ⟨next, left, texts, result, state⟩ := printing.visitFrom IbDiagPerfCounter.latch
    (fun os o => (o.writeTo os).endl.endl) io 0 ⟨t, .dec⟩
  simp only [Nat.zero_add, Eff.remaining_unbroken] at left texts
  generalize count : Eff.unbroken IbDiagPerfCounter.ReadsWell counters pre = k at texts result state
  have each : ∀ o : IbDiagPerfCounter, OutStream.Inserts (fun os => (o.writeTo os).endl.endl)
      (o.print ++ ['\n', '\n']) := by
    intro o u
    simp [o.inserts_writeTo u, OutStream.endl, OutStream.put]
  have written : (next.take k).foldl (fun os o => (o.writeTo os).endl.endl) ⟨t, .dec⟩ = _ :=
    OutStream.inserts_foldl each (next.take k) t
  have shown : (next.take k).flatMap (fun o => o.print ++ ['\n', '\n']) =
      (Eff.shown IbDiagPerfCounter.printed counters io k).flatMap (fun t => t ++ ['\n', '\n']) := by
    rw [← texts, List.flatMap_map]
  rw [written, shown] at state
  refine ⟨next, left, ?_⟩
  by_cases all : k = counters.length
  · rw [if_pos all] at result
    refine Eff.rescue_of_returns (Eff.returns_bind.mpr ⟨(), _, ⟨result, state⟩, ?_⟩)
    simp [Eff.returns_modify, OutStream.endl, OutStream.put, roundText, count, all]
  · rw [if_neg all] at result
    have thrown : Eff.Throws (do
        Eff.visit fun i => Eff.showing (fun os o => (o.writeTo os).endl.endl)
          (IbDiagPerfCounter.refreshCounters (io i))
        Eff.modify fun s : List IbDiagPerfCounter × OutStream => (s.1, s.2.endl))
        (now, ⟨t, .dec⟩) (.ibFileException "Unable to read file!") _ :=
      Eff.throws_bind.mpr (.inl ⟨result, state⟩)
    refine Eff.rescue_of_throws thrown rfl (Eff.returns_modify.mpr ?_)
    simp [OutStream.put, roundText, count, all]

/-- The loop writes the text of the rounds. -/
theorem returns_loop {counters now : List IbDiagPerfCounter} {pre : List (ℕ → Reads)}
    (printing : Printing counters pre now) (rounds : List (ℕ → Reads)) (t : List Char) :
    ∃ last, Eff.Returns (loop rounds) (now, ⟨t, .dec⟩) ()
      (last, ⟨t ++ roundsText counters pre rounds, .dec⟩) := by
  induction rounds generalizing now pre t with
  | nil => exact ⟨now, Eff.returns_pure.mpr ⟨rfl, by simp [roundsText]⟩⟩
  | cons io rounds ih =>
    obtain ⟨next, left, first⟩ := returns_round printing io t
    obtain ⟨last, rest⟩ := ih left (t ++ roundText counters pre io)
    rw [List.append_assoc] at rest
    exact ⟨last, first.returns_then.mpr rest⟩

/-! ## The program -/

/-- What is printed before `main` exits. -/
def Stop.printed : Stop → List Char
  | .exitFailure message => message.toList
  | _ => []

/-- `setup` does not know the output, so its message is printed when it is left. -/
def main (fuel : ℕ) (config : BuildConfig) (build : Build) (a : DiscoveryAnswers)
    (rounds : List (ℕ → Reads)) : Eff Stop ExtCall PerfTest.World Unit := do
  Eff.modify fun w => { w with out := config.printBanner build w.out }
  let counters ← Eff.rescue (fun _ => true)
    (fun stop => do
      Eff.modify fun w => { w with out := w.out.put stop.printed }
      Eff.throw stop)
    (Eff.focus PerfTest.World.handles (fun w handles => { w with handles := handles })
      (setup fuel a))
  let _ ← Eff.mapThrow .uncaught (Eff.focus PerfTest.World.out (fun w out => { w with out := out })
    (Eff.withLocal counters (loop rounds)))

section Main

variable {fuel : ℕ} {a : DiscoveryAnswers} {m m' : ℕ}

/-- The setup creates every counter. -/
theorem printing_of_setup {counters : List IbDiagPerfCounter}
    (h : Eff.Returns (setup fuel a) m counters m') :
    Printing counters [] counters := by
  rw [Printing, Eff.unbroken_nil]
  refine Eff.Lineup.of_all (List.forall₂_same.mpr ?_)
  have created : ∀ {device : IbvDevice} {j : UInt8} {u : ℕ} {o : IbDiagPerfCounter} {v : ℕ},
      Eff.Returns (createCounter device j) u o v → o.Later o ∧ o.Works :=
    fun made => IbDiagPerfCounter.later_of_create (Eff.returns_mapThrow.mp made)
  obtain ⟨_, _, -, rest⟩ := Eff.returns_bind.mp h
  obtain ⟨devices, _, -, rest⟩ := Eff.returns_bind.mp rest
  obtain ⟨each, _, collected, rest⟩ := Eff.returns_bind.mp rest
  obtain ⟨_, _, -, made⟩ := Eff.returns_bind.mp rest
  obtain ⟨rfl, -⟩ := Eff.returns_pure.mp made
  have all : ∀ l ∈ each, ∀ o ∈ l, o.Later o ∧ o.Works := by
    refine Eff.forall_of_collect (fun device _ u l v made => ?_) collected
    obtain ⟨_, _, -, rest⟩ := Eff.returns_bind.mp made
    obtain ⟨_, _, -, rest⟩ := Eff.returns_bind.mp rest
    obtain ⟨_, _, -, rest⟩ := Eff.returns_bind.mp rest
    obtain ⟨attributes, _, -, rest⟩ := Eff.returns_bind.mp rest
    obtain ⟨whole, _, first, rest⟩ := Eff.returns_bind.mp rest
    obtain ⟨ports, _, looped, rest⟩ := Eff.returns_bind.mp rest
    obtain ⟨_, _, -, made⟩ := Eff.returns_bind.mp rest
    obtain ⟨rfl, -⟩ := Eff.returns_pure.mp made
    exact List.forall_mem_cons.mpr
      ⟨created first, Eff.forall_of_collectWhile (fun _ _ _ _ => created) looped⟩
  intro o ho
  obtain ⟨l, hl, inside⟩ := List.mem_flatten.mp ho
  exact all l hl o inside

variable (fuel a m) (config : BuildConfig) (build : Build) (rounds : List (ℕ → Reads))

/-- The program prints the banner, and then either the message of a failed setup or the text of the
rounds. -/
theorem main_prints : ((main fuel config build a rounds).run ⟨m, .fresh⟩).state.out.text =
    PerfTest.banner config build ++
      match ((setup fuel a).run m).result with
      | .ok counters => roundsText counters [] rounds
      | .error stop => stop.printed := by
  have printed : config.printBanner build .fresh = ⟨PerfTest.banner config build, .dec⟩ :=
    config.inserts_printBanner build []
  have start : Eff.Returns (Eff.modify fun w : PerfTest.World =>
      { w with out := config.printBanner build w.out } : Eff Stop ExtCall _ Unit) ⟨m, .fresh⟩ ()
      ⟨m, ⟨PerfTest.banner config build, .dec⟩⟩ := Eff.returns_modify.mpr (by rw [printed])
  obtain ⟨counters, m', made⟩ | ⟨stop, m', thrown⟩ := Eff.returns_or_throws (setup fuel a) m
  · obtain ⟨last, looped⟩ := returns_loop (printing_of_setup made) rounds
      (PerfTest.banner config build)
    have ends : Eff.Returns (main fuel config build a rounds) ⟨m, .fresh⟩ ()
        ⟨m', ⟨PerfTest.banner config build ++ roundsText counters [] rounds, .dec⟩⟩ := by
      refine start.returns_then.mpr (Eff.returns_bind.mpr
        ⟨counters, ⟨m', ⟨PerfTest.banner config build, .dec⟩⟩, ?_, ?_⟩)
      · exact Eff.rescue_of_returns (Eff.returns_focus.mpr ⟨m', made, rfl⟩)
      · refine Eff.returns_bind.mpr ⟨last, _, Eff.returns_mapThrow.mpr (Eff.returns_focus.mpr
          ⟨_, Eff.withLocal_of_returns looped, rfl⟩), Eff.returns_pure.mpr ⟨rfl, rfl⟩⟩
    rw [ends.2, made.1]
  · have ends : Eff.Throws (main fuel config build a rounds) ⟨m, .fresh⟩ stop
        ⟨m', ⟨PerfTest.banner config build ++ stop.printed, .dec⟩⟩ := by
      refine start.throws_then.mpr (Eff.throws_bind.mpr (.inl ?_))
      refine Eff.rescue_of_rethrows (Eff.throws_focus.mpr ⟨m', thrown, rfl⟩) rfl ?_
      exact Eff.throws_bind.mpr (.inr ⟨(), _, Eff.returns_modify.mpr rfl, rfl, rfl⟩)
    rw [ends.2, thrown.1]

end Main

end DiagTest

end Detector
