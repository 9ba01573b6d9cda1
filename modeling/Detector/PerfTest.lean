import Detector.Creation
import Detector.FabricReport
import Detector.Library.Rounds

/-!
# `perftest`

The program prints a banner, reads two arguments, builds a fabric, and then refreshes and prints it
again and again until it gets a signal. An exception of a refresh is printed, without a line end,
and the loop goes on; an exception of the constructor ends the program. How many rounds there are,
and what the ports meet in each of them, is an input.

## Main definitions

* `BuildConfig.printBanner` — the banner.
* `PerfTest.main` — the program, `PerfTest.loop` its loop.
* `PerfTest.reports` — what each round of the loop is about.

## Main results

* `PerfTest.returns_loop` — the loop writes the text of each round.
* `PerfTest.main_read_back` — from everything that the program writes, the nodes and counters of
  each round whose refresh returned are read back, and nothing else.
-/
namespace Detector

open Cpp

/-! ## The banner -/

/-- The texts that the build system fills in. -/
structure BuildConfig where
  version : List Char
  buildDate : List Char
  gitBranch : List Char
  gitRev : List Char

namespace BuildConfig

/-- The lines of `banner`, with the arguments of `printf`. -/
def bannerLines (c : BuildConfig) (build : Build) : List (List Char) :=
  [chars "    ____       __            __             # Version             : " rfl ++ c.version,
   chars "   / __ \\___  / /____  _____/ /_____  _____ # Build Date          : " rfl ++ c.buildDate,
   chars "  / / / / _ \\/ __/ _ \\/ ___/ __/ __ \\/ ___/ # Git Branch          : " rfl ++ c.gitBranch,
   chars " / /_/ /  __/ /_/  __/ /__/ /_/ /_/ / /     # Git Commit          : " rfl ++ c.gitRev,
   chars "/_____/\\___/\\__/\\___/\\___/\\__/\\____/_/      # Additional counters : " rfl ++
     if build.useAdditionalExtendedCounters then chars "Enabled" rfl else chars "Disabled" rfl]

def printBanner (c : BuildConfig) (build : Build) (os : OutStream) : OutStream :=
  os |>.put ['\n'] |>.put ((c.bannerLines build).flatMap fun l => l ++ ['\n']) |>.put ['\n', '\n']

end BuildConfig

namespace PerfTest

/-! ## The loop -/

/-- What is printed for an exception. -/
def message (exception : IbPerfException) : List Char :=
  chars "An exception occurred: " rfl ++ exception.what.toList

/-- The body of the loop in `main`, without the sleep. -/
def round (build : Build) (io : FabricIo) : Method (IbFabric × OutStream) Unit :=
  Eff.rescue (fun _ => true)
    (fun exception => Eff.modify fun s => (s.1, s.2.put (message exception)))
    (do
      Eff.onItem (IbFabric.refreshCounters build io)
      Eff.modify fun s => (s.1, (s.1.writeTo s.2).endl.endl))

/-- The rounds until the signal. -/
def loop (build : Build) (rounds : List FabricIo) : Method (IbFabric × OutStream) Unit :=
  rounds.forM (round build)

/-! ## The program -/

/-- Why `main` does not get to its loop. -/
inductive Stop where
  | exitFailure
  | uncaught (exception : IbPerfException)

/-- The number of handles given out, and the standard output. -/
structure World where
  handles : ℕ
  out : OutStream

abbrev Main (α : Type) := Eff Stop ExtCall World α

def print (s : List Char) : Main Unit := Eff.modify fun w => { w with out := w.out.put s }

def usage : List Char := chars "Usage: ./perftest <network/local> <mad/compat>\n" rfl

/-- The tests of the arguments; whichever fails, `main` prints `usage` and exits. -/
def parseArgs : List String → Option (Bool × Bool)
  | _ :: area :: mode :: _ => do
    let network ← if area = "network" then some true else if area = "local" then some false else none
    let compat ← if mode = "mad" then some false else if mode = "compat" then some true else none
    return (network, compat)
  | _ => none

/-- `Detector::IbFabric fabric(network, compat);`. Nothing catches an exception. -/
def newFabric (std : StdSort IbNode) (build : Build) (a : DiscoveryAnswers)
    (network compat : Bool) : Main IbFabric :=
  Eff.mapThrow .uncaught (Eff.focus World.handles (fun w handles => { w with handles := handles })
    (IbFabric.create std build a network compat))

/-- `while(isRunning)`, and the fabric at its end. -/
def refreshFabric (build : Build) (rounds : List FabricIo) (fabric : IbFabric) : Main IbFabric :=
  Eff.mapThrow .uncaught (Eff.focus World.out (fun w out => { w with out := out })
    (Eff.withLocal fabric (loop build rounds)))

def main (std : StdSort IbNode) (config : BuildConfig) (build : Build) (argv : List String)
    (a : DiscoveryAnswers) (rounds : List FabricIo) : Main Unit := do
  Eff.modify fun w => { w with out := config.printBanner build w.out }
  match parseArgs argv with
  | none => do
    print usage
    Eff.throw .exitFailure
  | some (network, compat) => do
    let fabric ← newFabric std build a network compat
    let fabric ← refreshFabric build rounds fabric
    fabric.destroy.forM Eff.emit

/-! ## What the loop writes -/

/-- What a round writes, for the records of the nodes or the exception of the refresh. -/
def roundText : Except IbPerfException (List NodeRecord) → List Char
  | .ok nodes => fabricText nodes ++ ['\n', '\n']
  | .error exception => message exception

/-- What the nodes of the fabric are printed as. -/
def records (f : IbFabric) : List NodeRecord := f.nodes.map IbNode.record

/-- What each round prints: the nodes after its refresh, or the exception that left it. -/
def reports (build : Build) (rounds : List FabricIo) (f : IbFabric) :
    List (Except IbPerfException (List NodeRecord)) :=
  Eff.outcomes (IbFabric.refreshCounters build) records rounds f

theorem returns_round (build : Build) (io : FabricIo) (f : IbFabric) (t : List Char) :
    Eff.Returns (round build io) (f, ⟨t, .dec⟩) () (Eff.after (IbFabric.refreshCounters build io) f,
      ⟨t ++ roundText (Eff.outcome (IbFabric.refreshCounters build) records io f), .dec⟩) := by
  obtain ⟨_, f', ends⟩ | ⟨e, f', ends⟩ :=
    Eff.returns_or_throws (IbFabric.refreshCounters build io) f
  · have printed : f'.writeTo ⟨t, .dec⟩ = ⟨t ++ fabricText (records f'), .dec⟩ :=
      f'.inserts_writeTo t
    rw [ends.after_eq, ends.outcome_eq]
    refine Eff.rescue_of_returns (Eff.returns_bind.mpr ⟨(), (f', ⟨t, .dec⟩), ?_, ?_⟩)
    · exact Eff.returns_focus.mpr ⟨f', ends, rfl⟩
    · rw [Eff.returns_modify, printed]
      simp [OutStream.endl, OutStream.put, roundText]
  · rw [ends.after_eq, ends.outcome_eq]
    have thrown : Eff.Throws (do
        Eff.onItem (IbFabric.refreshCounters build io)
        Eff.modify fun s : IbFabric × OutStream => (s.1, (s.1.writeTo s.2).endl.endl))
        (f, ⟨t, .dec⟩) e (f', ⟨t, .dec⟩) :=
      Eff.throws_bind.mpr (.inl (Eff.throws_focus.mpr ⟨f', ends, rfl⟩))
    exact Eff.rescue_of_throws thrown rfl (Eff.returns_modify.mpr rfl)

/-- The loop writes the text of each round, and leaves the stream in decimal. -/
theorem returns_loop (build : Build) (rounds : List FabricIo) (f : IbFabric) (t : List Char) :
    Eff.Returns (loop build rounds) (f, ⟨t, .dec⟩) ()
      (Eff.runs (IbFabric.refreshCounters build) rounds f,
        ⟨t ++ (reports build rounds f).flatMap roundText, .dec⟩) := by
  induction rounds generalizing f t with
  | nil => exact Eff.returns_pure.mpr ⟨rfl, by simp [reports, Eff.outcomes]⟩
  | cons io rounds ih =>
    refine (returns_round build io f t).returns_then.mpr ?_
    have rest := ih (Eff.after (IbFabric.refreshCounters build io) f)
      (t ++ roundText (Eff.outcome (IbFabric.refreshCounters build) records io f))
    rw [List.append_assoc] at rest
    exact rest

/-! ## Reading what was written -/

/-- A beginning of a line that consists of messages: what stands before the next report. -/
structure Fragment (s : List Char) : Prop where
  newline : '\n' ∉ s
  first : ∀ c ∈ s.head?, c = 'A'
  last : s.getLast? ≠ some ':'

/-- A round that can be told from the other lines: its names, or its message, have no line end. -/
def Legible : Except IbPerfException (List NodeRecord) → Prop
  | .ok nodes => ∀ r ∈ nodes, '\n' ∉ r.desc
  | .error exception => '\n' ∉ exception.what.toList ∧ exception.what.toList.getLast? ≠ some ':'

namespace Fragment

variable {s : List Char}

theorem nil : Fragment [] := ⟨by simp, by simp, by simp⟩

theorem isHeadline (h : Fragment s) : isHeadline s = false := isSuffixOf_eq_false rfl h.last

theorem starts (h : Fragment s) : s = [] ∨ ∃ t, s = 'A' :: t := by
  cases s with
  | nil => exact .inl rfl
  | cons c t => exact .inr ⟨t, by rw [h.first c rfl]⟩

/-- It is neither the line of a node nor the line of a port. -/
theorem idle (h : Fragment s) : isNodeLine s = false ∧ isPortLine s = false := by
  obtain rfl | ⟨t, rfl⟩ := h.starts
  · exact ⟨rfl, rfl⟩
  · exact ⟨rfl, rfl⟩

theorem append_message (h : Fragment s) {e : IbPerfException} (legible : Legible (.error e)) :
    Fragment (s ++ message e) := by
  obtain ⟨free, last⟩ := legible
  refine ⟨?_, ?_, ?_⟩
  · simp [h.newline, message, chars, free]
  · obtain rfl | ⟨t, rfl⟩ := h.starts
    · simp [message, chars]
    · simp
  · rw [message, ← List.append_assoc, List.getLast?_append]
    cases end_ : e.what.toList.getLast? with
    | none => simp [chars]
    | some c => simpa [end_] using last

end Fragment

/-- The reports are read back, whatever messages stand between them. -/
theorem groups_rounds (rounds : List (Except IbPerfException (List NodeRecord)))
    (legible : ∀ r ∈ rounds, Legible r) {s : List Char} (before : Fragment s) :
    let split := groups isHeadline ((s ++ rounds.flatMap roundText).splitOn '\n')
    split.2.mapM (fun report => readNodes report.2) = some (rounds.filterMap Except.toOption) ∧
      ∀ l ∈ split.1, isNodeLine l = false ∧ isPortLine l = false := by
  induction rounds generalizing s with
  | nil =>
    have split : groups isHeadline ([s] ++ []) = ([s], []) :=
      groups_append (by simp [before.isHeadline]) []
    have line : (s ++ [].flatMap roundText).splitOn '\n' = [s] ++ [] := by
      simp [List.splitOn_eq_singleton before.newline]
    rw [line, split]
    exact ⟨rfl, by simpa using before.idle⟩
  | cons r rounds ih =>
    have rest : ∀ r' ∈ rounds, Legible r' := fun r' hr => legible r' (by simp [hr])
    cases r with
    | error e =>
      have text : s ++ (Except.error e :: rounds).flatMap roundText =
          s ++ message e ++ rounds.flatMap roundText := by simp [roundText]
      rw [text]
      exact ih rest (before.append_message (legible _ (by simp)))
    | ok nodes =>
      have names : ∀ r ∈ nodes, '\n' ∉ r.desc := legible (.ok nodes) (by simp)
      obtain ⟨read, idle⟩ := ih rest .nil
      have text : s ++ (Except.ok nodes :: rounds).flatMap roundText =
          s ++ fabricText nodes ++ '\n' :: ([] ++ '\n' :: ([] ++ rounds.flatMap roundText)) := by
        simp [roundText]
      have lines : (s ++ (Except.ok nodes :: rounds).flatMap roundText).splitOn '\n' =
          (s ++ headline nodes.length) :: (reportLines nodes ++ [[]] ++
            ([] ++ rounds.flatMap roundText).splitOn '\n') := by
        rw [text, List.splitOn_append_cons_self, splitOn_fabricText names before.newline,
          List.splitOn_append_cons_self]
        simp
      have others : ∀ l ∈ reportLines nodes ++ [[]], isHeadline l = false := by
        intro l hl
        obtain hl | hl := List.mem_append.mp hl
        · exact isHeadline_reportLines l hl
        · rw [List.mem_singleton.mp hl]
          rfl
      rw [lines, groups_head (isHeadline_headline s nodes.length), groups_append others]
      have between : ∀ l ∈ [] ::
          (groups isHeadline (([] ++ rounds.flatMap roundText).splitOn '\n')).1,
          isNodeLine l = false ∧ isPortLine l = false :=
        List.forall_mem_cons.mpr ⟨⟨rfl, rfl⟩, idle⟩
      have nodes_read := readNodes_reportLines nodes between
      simp only [List.append_assoc, List.singleton_append, List.mapM_cons, nodes_read, read]
      exact ⟨rfl, by simp⟩

/-- Text in front that ends its line is no report, when none of its lines is a headline. -/
theorem readReports_behind {s : List Char} (h : ∀ l ∈ s.splitOn '\n', isHeadline l = false)
    (t : List Char) : readReports (s ++ '\n' :: t) = readReports t := by
  rw [readReports, List.splitOn_append_cons_self, groups_append h]
  rfl

/-! ### What can be read -/

theorem moved_refreshes (build : Build) (rounds : List FabricIo) (f : IbFabric) :
    f.Moved (Eff.runs (IbFabric.refreshCounters build) rounds f) :=
  Eff.runs_invariant (IbFabric.Moved.refl f) rounds fun io g _ moved =>
    moved.trans (IbFabric.moved_call build ⟨.refresh, .fabric, io⟩ g)

/-- Refreshes leave the names alone. -/
theorem mem_desc_of_moved {f g : IbFabric} (moved : f.Moved g) {r : NodeRecord}
    (hr : r ∈ records g) : ∃ n ∈ f.nodes, r.desc = n.desc.toList := by
  obtain ⟨n', hn', rfl⟩ := List.mem_map.mp hr
  obtain ⟨i, hi⟩ := List.mem_iff_getElem?.mp hn'
  obtain ⟨n, hn, same⟩ := moved.nodes.source hi
  refine ⟨n, List.mem_of_getElem? hn, ?_⟩
  rw [IbNode.record, same.desc]

/-- The messages of refreshes can be told from the other lines. -/
theorem legible_message (compatibility : Bool) :
    ∀ e ∈ IbPerfException.ofCalls compatibility .refresh, Legible (.error e) := by
  have all : ∀ b, ∀ e ∈ IbPerfException.ofCalls b .refresh,
      '\n' ∉ e.what.toList ∧ e.what.toList.getLast? ≠ some ':' := by decide +kernel
  exact all compatibility

/-- So can everything that the rounds are about. -/
theorem legible_reports (build : Build) (rounds : List FabricIo) {f : IbFabric}
    (names : ∀ n ∈ f.nodes, '\n' ∉ n.desc.toList) : ∀ r ∈ reports build rounds f, Legible r := by
  intro r hr
  obtain ⟨pre, io, post, -, rfl⟩ := Eff.mem_outcomes hr
  have moved := moved_refreshes build (pre ++ [io]) f
  rw [Eff.runs_concat] at moved
  obtain ⟨_, g, ends⟩ | ⟨e, g, ends⟩ := Eff.returns_or_throws
    (IbFabric.refreshCounters build io) (Eff.runs (IbFabric.refreshCounters build) pre f)
  · rw [ends.outcome_eq]
    rw [ends.after_eq] at moved
    intro r hr
    obtain ⟨n, hn, same⟩ := mem_desc_of_moved moved hr
    rw [same]
    exact names n hn
  · rw [ends.outcome_eq]
    have failed := ends.1
    rw [IbFabric.result_refreshCounters] at failed
    cases first : firstFailure build .refresh io
        ((Eff.runs (IbFabric.refreshCounters build) pre f).portsIn .fabric) with
    | none =>
      rw [first] at failed
      cases failed
    | some e' =>
      rw [first] at failed
      obtain rfl := Except.error.inj failed
      obtain ⟨x, -, fails⟩ := List.exists_of_findSome?_eq_some first
      exact legible_message _ _ (Port.failure_mem fails)

/-- The log of a run is read back: the nodes of each round whose refresh returned, in the order of
the rounds. -/
theorem readReports_loop (build : Build) (rounds : List FabricIo) {f : IbFabric}
    (names : ∀ n ∈ f.nodes, '\n' ∉ n.desc.toList) :
    readReports ((reports build rounds f).flatMap roundText) =
      some ((reports build rounds f).filterMap Except.toOption) :=
  (groups_rounds _ (legible_reports build rounds names) .nil).1

end PerfTest

/-! ### The banner -/

namespace BuildConfig

/-- No text of the build system breaks a line or ends with a colon. -/
structure Plain (c : BuildConfig) : Prop where
  version : '\n' ∉ c.version ∧ c.version.getLast? ≠ some ':'
  buildDate : '\n' ∉ c.buildDate ∧ c.buildDate.getLast? ≠ some ':'
  gitBranch : '\n' ∉ c.gitBranch ∧ c.gitBranch.getLast? ≠ some ':'
  gitRev : '\n' ∉ c.gitRev ∧ c.gitRev.getLast? ≠ some ':'

variable {c : BuildConfig} (build : Build)

/-- The banner without its last line end. -/
def text (c : BuildConfig) (build : Build) : List Char :=
  '\n' :: ((c.bannerLines build).flatMap (fun l => l ++ ['\n']) ++ ['\n'])

theorem inserts_printBanner (c : BuildConfig) :
    OutStream.Inserts (c.printBanner build) (c.text build ++ ['\n']) := by
  intro t
  simp [printBanner, OutStream.put, text]

/-- A label with a value behind it. -/
theorem labelled {label value : List Char} (free : '\n' ∉ label) (last : label.getLast? = some ' ')
    (plain : '\n' ∉ value ∧ value.getLast? ≠ some ':') :
    '\n' ∉ label ++ value ∧ isHeadline (label ++ value) = false := by
  refine ⟨by simp [free, plain.1], isSuffixOf_eq_false rfl ?_⟩
  rw [List.getLast?_append, last]
  cases shown : value.getLast? with
  | none => decide
  | some c => simpa [shown] using plain.2

theorem Plain.lines (h : c.Plain) :
    ∀ l ∈ c.bannerLines build, '\n' ∉ l ∧ isHeadline l = false := by
  have switch : ∀ b : Bool, '\n' ∉ (if b then chars "Enabled" rfl else chars "Disabled" rfl) ∧
      (if b then chars "Enabled" rfl else chars "Disabled" rfl).getLast? ≠ some ':' := by decide
  simp only [bannerLines, List.forall_mem_cons, List.not_mem_nil, false_implies, implies_true,
    and_true]
  exact ⟨labelled (by decide) rfl h.version, labelled (by decide) rfl h.buildDate,
    labelled (by decide) rfl h.gitBranch, labelled (by decide) rfl h.gitRev,
    labelled (by decide) rfl (switch _)⟩

/-- No line of the banner is the first line of a report. -/
theorem Plain.isHeadline_text (h : c.Plain) :
    ∀ l ∈ (c.text build).splitOn '\n', isHeadline l = false := by
  have lines : (c.text build).splitOn '\n' = [] :: (c.bannerLines build ++ [[], []]) := by
    rw [text, ← List.nil_append ('\n' :: _), List.splitOn_append_cons_self,
      splitOn_lines fun l hl => (h.lines build l hl).1]
    rfl
  intro l hl
  rw [lines, List.mem_cons, List.mem_append] at hl
  obtain rfl | hl | hl := hl
  · rfl
  · exact (h.lines build l hl).2
  · obtain rfl | rfl := List.mem_pair.mp hl
    all_goals rfl

end BuildConfig

/-! ### The program -/

namespace PerfTest

section Main

variable (std : StdSort IbNode) (config : BuildConfig) (build : Build) (argv : List String)
  (a : DiscoveryAnswers) (rounds : List FabricIo) (m : ℕ)

/-- The reports that a run of the program is to print: none when it does not get to its loop, and
otherwise one for each round whose refresh returns. -/
def expected : List (List NodeRecord) :=
  match parseArgs argv with
  | none => []
  | some (network, compat) =>
    match ((IbFabric.create std build a network compat).run m).result with
    | .error _ => []
    | .ok f => (reports build rounds f).filterMap Except.toOption

/-- What is printed before the arguments are looked at. -/
def banner : List Char := config.text build ++ ['\n']

theorem returns_banner : Eff.Returns (Eff.modify fun w => { w with
    out := config.printBanner build w.out } : Main Unit) ⟨m, .fresh⟩ ()
    ⟨m, ⟨banner config build, .dec⟩⟩ := by
  have printed : config.printBanner build .fresh = ⟨_, .dec⟩ := config.inserts_printBanner build []
  exact Eff.returns_modify.mpr (by rw [printed]; rfl)

variable {std build a m} in
theorem returns_newFabric {network compat : Bool} {f : IbFabric} {m' : ℕ}
    (created : Eff.Returns (IbFabric.create std build a network compat) m f m') (out : OutStream) :
    Eff.Returns (newFabric std build a network compat) ⟨m, out⟩ f ⟨m', out⟩ :=
  Eff.returns_mapThrow.mpr (Eff.returns_focus.mpr ⟨m', created, rfl⟩)

theorem returns_refreshFabric (f : IbFabric) (t : List Char) :
    Eff.Returns (refreshFabric build rounds f) ⟨m, ⟨t, .dec⟩⟩
      (Eff.runs (IbFabric.refreshCounters build) rounds f)
      ⟨m, ⟨t ++ (reports build rounds f).flatMap roundText, .dec⟩⟩ :=
  Eff.returns_mapThrow.mpr (Eff.returns_focus.mpr
    ⟨_, Eff.withLocal_of_returns (returns_loop build rounds f t), rfl⟩)

/-- Without proper arguments the program only prints how it is called. -/
theorem main_usage (h : parseArgs argv = none) :
    Eff.Throws (main std config build argv a rounds) ⟨m, .fresh⟩ .exitFailure
      ⟨m, ⟨banner config build ++ usage, .dec⟩⟩ := by
  simp only [main, h]
  exact (returns_banner config build m).throws_then.mpr ⟨rfl, rfl⟩

/-- An exception of the constructor leaves the program. -/
theorem main_uncaught {network compat : Bool} (h : parseArgs argv = some (network, compat))
    {e : IbPerfException} {m' : ℕ}
    (thrown : Eff.Throws (IbFabric.create std build a network compat) m e m') :
    Eff.Throws (main std config build argv a rounds) ⟨m, .fresh⟩ (.uncaught e)
      ⟨m', ⟨banner config build, .dec⟩⟩ := by
  simp only [main, h]
  refine (returns_banner config build m).throws_then.mpr (Eff.throws_bind.mpr (.inl ?_))
  exact Eff.throws_mapThrow.mpr ⟨e, Eff.throws_focus.mpr ⟨m', thrown, rfl⟩, rfl⟩

/-- Otherwise the program gets to the end of its loop, and has printed the text of each round. -/
theorem main_loop {network compat : Bool} (h : parseArgs argv = some (network, compat))
    {f : IbFabric} {m' : ℕ}
    (created : Eff.Returns (IbFabric.create std build a network compat) m f m') :
    Eff.Returns (main std config build argv a rounds) ⟨m, .fresh⟩ ()
      ⟨m', ⟨banner config build ++ (reports build rounds f).flatMap roundText, .dec⟩⟩ := by
  simp only [main, h]
  refine (returns_banner config build m).returns_then.mpr ?_
  refine (returns_newFabric created _).returns_then.mpr ?_
  refine (returns_refreshFabric build rounds m' f _).returns_then.mpr ?_
  exact Eff.returns_forM_emit _ _

variable {config a} in
/-- Everything that the program writes is read: the reports of the rounds whose refresh returned, in
their order, each with all nodes and ports, and nothing else. -/
theorem main_read_back (plain : config.Plain) (names : ∀ name ∈ a.names, '\n' ∉ name.toList) :
    readReports ((main std config build argv a rounds).run ⟨m, .fresh⟩).state.out.text =
      some (expected std build argv a rounds m) := by
  have behind : ∀ t, readReports (banner config build ++ t) = readReports t := by
    intro t
    rw [banner, List.append_assoc]
    exact readReports_behind (plain.isHeadline_text build) t
  cases args : parseArgs argv with
  | none =>
    have nothing : readReports usage = some [] := by decide +kernel
    rw [(main_usage std config build argv a rounds m args).2, behind, expected, args, nothing]
  | some modes =>
    obtain ⟨network, compat⟩ := modes
    obtain ⟨f, m', created⟩ | ⟨e, m', thrown⟩ :=
      Eff.returns_or_throws (IbFabric.create std build a network compat) m
    · have made := IbFabric.made_of_create created
      rw [(main_loop std config build argv a rounds m args created).2, behind, expected, args]
      simp only [created.1]
      exact readReports_loop build rounds fun n hn => names _ (made n hn).desc
    · rw [(main_uncaught std config build argv a rounds m args thrown).2, expected, args]
      simp only [thrown.1]
      have nothing : readReports (banner config build ++ []) = some [] := by
        rw [behind]
        decide +kernel
      rw [← nothing, List.append_nil]

end Main

/-- Two rounds on an adapter with one port, of which the second one fails. -/
theorem main_read_back_one_report :
    let config : BuildConfig := ⟨"v1".toList, "now".toList, "master".toList, "abc".toList⟩
    readReports ((main (.stable _) config ⟨true, .little⟩ ["perftest", "local", "mad"] .plain
      [everyPortShows 7, fun _ _ => secondQueryFails 9]).run ⟨0, .fresh⟩).state.out.text =
      some [[⟨"mlx5_0".toList, 2 ^ 56, 1, [⟨1, 3, 4, 28, 0⟩]⟩]] := by
  intro config
  have plain : config.Plain := by
    constructor <;> decide +kernel
  have names : ∀ name ∈ DiscoveryAnswers.plain.names, '\n' ∉ name.toList := by decide +kernel
  have created := IbFabric.create_plainMad (.stable _) ⟨true, .little⟩ rfl
  rw [main_read_back _ _ _ _ _ plain names]
  have args : parseArgs ["perftest", "local", "mad"] = some (false, false) := by decide +kernel
  simp only [expected, args, created.1]
  decide +kernel

end PerfTest

end Detector
