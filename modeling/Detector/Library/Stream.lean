import Detector.Library.Decimal

/-!
# Reading one line from an input file stream

The part of `std::ifstream` that a counter reader uses: the three state bits, `seekg` to the
start of the file, and `getline` into a character array of fixed size. What the file shows
when it is read is an input (`Read`), so it may differ at every call; seeking to the start is
taken to make the next `getline` see the current content.

Two facts about the state bits carry everything built on this module. `seekg` clears
`eofbit` and no other bit, and both functions do nothing but set `failbit` on a stream that
already failed. So the outcome of a read depends on the stream only through `fail()`.
-/
namespace Cpp

/-- `std::ios_base::iostate`. -/
structure IoState where
  eofbit : Bool := false
  failbit : Bool := false
  badbit : Bool := false
  deriving DecidableEq

/-- What the file shows at one read: whether seeking to its start works, its characters, and
whether reading on after them is an I/O error instead of the end of the file. -/
structure Read where
  seekable : Bool
  content : List Char
  broken : Bool

namespace IoState

def good (f : IoState) : Bool := !f.eofbit && !f.failbit && !f.badbit

/-- `fail()`, which looks at two of the bits. -/
def fail (f : IoState) : Bool := f.failbit || f.badbit

def clearEof (f : IoState) : IoState := { f with eofbit := false }
def setEof (f : IoState) : IoState := { f with eofbit := true }
def setFail (f : IoState) : IoState := { f with failbit := true }
def setBad (f : IoState) : IoState := { f with badbit := true }

/-- The check that every unformatted input function starts with. -/
def sentry (f : IoState) : IoState := if f.good then f else f.setFail

/-- `seekg(0, std::ios::beg)`. -/
def seekg (r : Read) (f : IoState) : IoState :=
  let f := f.clearEof.sentry
  if f.good && !r.seekable then f.setFail else f

end IoState

/-- The characters that `getline` stores into an array of `n`, without the final null. -/
def Read.line (r : Read) (n : ℕ) : List Char :=
  (r.content.takeWhile (fun c => c != '\n')).take (n - 1)

namespace IoState

/-- `getline(s, n)`: the bits it leaves and the characters it stores. -/
def getline (r : Read) (n : ℕ) (f : IoState) : IoState × List Char :=
  let f := f.sentry
  if f.good then
    let line := r.line n
    match r.content.drop line.length with
    | [] =>
      let f := if r.broken then f.setBad else f.setEof
      (if line = [] then f.setFail else f, line)
    -- A character after the line is the newline that ends it, or the array is full.
    | c :: _ => if c = '\n' then (f, line) else (f.setFail, line)
  else (f, [])

/-- The two calls with which a counter file is read. -/
def readLine (r : Read) (n : ℕ) (f : IoState) : IoState × List Char :=
  (f.seekg r).getline r n

theorem good_iff {f : IoState} : f.good = true ↔ f = {} := by
  rcases f with ⟨_ | _, _ | _, _ | _⟩ <;> decide

theorem fail_of_good {f : IoState} (h : f.good = true) : f.fail = false := by
  rw [good_iff.mp h]; rfl

/-- A stream that has not failed is read as a clean one: `seekg` drops a pending end of file. -/
theorem readLine_of_not_fail {f : IoState} (h : f.fail = false) (r : Read) (n : ℕ) :
    f.readLine r n = ({} : IoState).readLine r n := by
  have clean : f.clearEof = {} := by
    rcases f with ⟨_ | _, _ | _, _ | _⟩ <;> simp_all [fail, clearEof]
  unfold readLine seekg
  rw [clean]
  rfl

/-- A stream that has failed stays failed, and an empty string is stored. -/
theorem readLine_of_fail {f : IoState} (h : f.fail = true) (r : Read) (n : ℕ) :
    f.readLine r n = ({ eofbit := false, failbit := true, badbit := f.badbit }, []) := by
  rcases f with ⟨_ | _, _ | _, _ | _⟩ <;>
    simp_all [fail, readLine, seekg, getline, sentry, good, clearEof, setFail]

theorem length_readLine_lt {n : ℕ} (hn : 0 < n) (r : Read) (f : IoState) :
    (f.readLine r n).2.length < n := by
  have short : (r.line n).length < n := by simp [Read.line]; omega
  unfold readLine getline
  dsimp only
  split
  · split
    · exact short
    · split <;> exact short
  · simpa using hn

end IoState

/-- The read finds the number `m` on a line of its own. -/
def Read.Shows (r : Read) (m : ℕ) : Prop :=
  r.seekable = true ∧ ∃ rest, r.content = decimal m ++ '\n' :: rest

/-- Reading such a line from a clean stream keeps it clean and stores the digits. -/
theorem Read.Shows.readLine {r : Read} {m : ℕ} (h : r.Shows m) (hm : m < 2 ^ 64) {n : ℕ}
    (hn : 20 < n) : ({} : IoState).readLine r n = ({}, decimal m) := by
  obtain ⟨seek, rest, content⟩ := h
  have text : r.line n = decimal m := by
    have digits : ∀ c ∈ decimal m, (c != '\n') = true := fun c hc => by
      simpa using ne_of_mem_decimal hc (by decide)
    have len := length_decimal_le hm
    rw [Read.line, content, takeWhile_decimal digits]
    simpa using List.take_of_length_le (by omega)
  have after : r.content.drop (decimal m).length = '\n' :: rest := by
    rw [content]; simp
  simp [IoState.readLine, IoState.seekg, IoState.getline, IoState.sentry, IoState.clearEof,
    IoState.good, seek, after, text]

/-- The line was read without a failure and is the decimal text of `m`. -/
def Read.Plain (r : Read) (n m : ℕ) : Prop :=
  (({} : IoState).readLine r n).1.fail = false ∧ (({} : IoState).readLine r n).2 = decimal m

theorem Read.Shows.plain {r : Read} {m : ℕ} (h : r.Shows m) (hm : m < 2 ^ 64) {n : ℕ}
    (hn : 20 < n) : r.Plain n m := by
  rw [Read.Plain, h.readLine hm hn]
  exact ⟨rfl, rfl⟩

/-! ## Character arrays -/

/-- A character that fails the test ends the prefix, whatever follows it. -/
theorem takeWhile_append_stop {p : Char → Bool} (l rest : List Char) {c : Char}
    (hc : p c = false) : (l ++ c :: rest).takeWhile p = l.takeWhile p := by
  induction l with
  | nil => simp [hc]
  | cons d l ih => cases hd : p d <;> simp [hd, ih]

/-- The null character that ends a C string. -/
def nul : Char := Char.ofNat 0

/-- `char buffer[n]`. -/
structure CharBuffer (n : ℕ) where
  chars : List Char
  size : chars.length = n

namespace CharBuffer

variable {n : ℕ}

/-- `memset(buffer, 0, sizeof(buffer))`. -/
def zeroed (n : ℕ) : CharBuffer n := ⟨List.replicate n nul, by simp⟩

/-- Write `line` and a null character to the front of the array. -/
def store (b : CharBuffer n) (line : List Char) : CharBuffer n where
  chars := (line ++ nul :: b.chars.drop (line.length + 1)).take n
  size := by
    have := b.size
    simp
    omega

/-- The C string that starts at the front of the array. -/
def cstr (b : CharBuffer n) : List Char := b.chars.takeWhile (fun c => c != nul)

/-- A string that fits is read back up to its first null character, whatever was there. -/
theorem cstr_store (b : CharBuffer n) {line : List Char} (h : line.length < n) :
    (b.store line).cstr = line.takeWhile (fun c => c != nul) := by
  have front : (b.store line).chars =
      line ++ nul :: (b.chars.drop (line.length + 1)).take (n - (line.length + 1)) := by
    have tail : n - line.length = n - (line.length + 1) + 1 := by omega
    change (line ++ nul :: _).take n = _
    rw [List.take_append, List.take_of_length_le h.le, tail, List.take_succ_cons]
  rw [cstr, front]
  exact takeWhile_append_stop line _ (by simp)

end CharBuffer

/-- The value a reader takes from one successful or unsuccessful read of a clean stream. -/
def Read.value (r : Read) (n : ℕ) : UInt64 :=
  strtoull ((({} : IoState).readLine r n).2.takeWhile (fun c => c != nul))

theorem takeWhile_nul_decimal (m : ℕ) :
    (decimal m).takeWhile (fun c => c != nul) = decimal m := by
  have digits : ∀ c ∈ decimal m, (c != nul) = true := fun c hc => by
    simpa using ne_of_mem_decimal hc (by decide)
  simpa using takeWhile_decimal digits []

/-- A plainly written number below `2^64` is the value that is taken. -/
theorem Read.Plain.value {r : Read} {n m : ℕ} (h : r.Plain n m) (hm : m < 2 ^ 64) :
    r.value n = UInt64.ofNat m := by
  rw [Read.value, h.2, takeWhile_nul_decimal, strtoull_decimal hm]

/-! ## File streams -/

/-- `std::ifstream`: the file it was opened for, whether that worked, and its state bits. -/
structure InStream where
  path : String
  isOpen : Bool
  state : IoState

namespace InStream

/-- `std::ifstream(path, std::ios::in)`; opening a file that cannot be read sets `failbit`. -/
def ofFile (readable : String → Bool) (path : String) : InStream :=
  if readable path then ⟨path, true, {}⟩ else ⟨path, false, { failbit := true }⟩

def good (s : InStream) : Bool := s.state.good

@[simp] theorem isOpen_ofFile (readable : String → Bool) (path : String) :
    (ofFile readable path).isOpen = readable path := by
  cases h : readable path <;> simp [ofFile, h]

theorem ofFile_of_isOpen {readable : String → Bool} {path : String}
    (h : (ofFile readable path).isOpen = true) : ofFile readable path = ⟨path, true, {}⟩ := by
  cases r : readable path <;> simp_all [ofFile]

/-- The stream after `seekg` and `getline`. -/
def afterRead (files : String → Read) (n : ℕ) (s : InStream) : InStream :=
  { s with state := (s.state.readLine (files s.path) n).1 }

/-- The value a reader takes from the stream's next read. -/
def taken (files : String → Read) (n : ℕ) (s : InStream) : UInt64 :=
  strtoull ((s.state.readLine (files s.path) n).2.takeWhile (fun c => c != nul))

theorem taken_of_not_fail {s : InStream} (h : s.state.fail = false) (files : String → Read)
    (n : ℕ) : s.taken files n = (files s.path).value n := by
  rw [taken, Read.value, IoState.readLine_of_not_fail h]

/-- A stream that has not failed is clean after it read a number on a line of its own. -/
theorem afterRead_of_shows {s : InStream} {files : String → Read} {m n : ℕ}
    (clean : s.state.fail = false) (shows : (files s.path).Shows m) (hm : m < 2 ^ 64)
    (hn : 20 < n) : (s.afterRead files n).state = {} := by
  rw [afterRead, IoState.readLine_of_not_fail clean, shows.readLine hm hn]

/-- And the value taken from it is that number. -/
theorem taken_of_shows {s : InStream} {files : String → Read} {m n : ℕ}
    (clean : s.state.fail = false) (shows : (files s.path).Shows m) (hm : m < 2 ^ 64)
    (hn : 20 < n) : s.taken files n = UInt64.ofNat m := by
  rw [taken_of_not_fail clean, (shows.plain hm hn).value hm]

/-- The next read of the stream works and finds the number `m` in its file. -/
def Finds (files : String → Read) (n : ℕ) (s : InStream) (m : ℕ) : Prop :=
  s.state.fail = false ∧ (files s.path).Plain n m

theorem Finds.taken {s : InStream} {files : String → Read} {m n : ℕ} (h : s.Finds files n m)
    (hm : m < 2 ^ 64) : s.taken files n = UInt64.ofNat m := by
  rw [taken_of_not_fail h.1, h.2.value hm]

@[simp] theorem afterRead_path (files : String → Read) (n : ℕ) (s : InStream) :
    (s.afterRead files n).path = s.path := by
  simp only [afterRead]

end InStream

end Cpp
