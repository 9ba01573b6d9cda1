import Mathlib.Data.Finset.Basic
import Mathlib.Data.Finset.Dedup
import Detector.Library.Effect

/-!
# Handles that computations acquire and release

A computation asks libraries for handles and gives them back; its calls record both. The state
of such a computation is the number of handles given out so far, so that a new handle has a
number that no handle before it has.

`Ends` is a triple for such computations: from the handles it may give back, it says which
handles are open when the computation returns and when it throws. Its rules follow the
computation, and the other open handles are framed off, so an exit path that forgets a handle
shows it in the list.
-/
namespace Cpp

/-- What a call does with handles. -/
inductive Move (ι : Type) where
  | acquire (h : ι)
  | release (h : ι)
  | keep

/-- How calls move handles, and the number of each handle. -/
structure Desk (κ ι : Type) where
  move : κ → Move ι
  serial : ι → ℕ

namespace Desk

variable {ε κ ι α β : Type} [DecidableEq ι] (D : Desk κ ι)

/-! ## Open handles -/

/-- The open handles after one more call. A handle is not given out while it is open, and only
an open handle can be given back. -/
def applyCall (S : Finset ι) (c : κ) : Option (Finset ι) :=
  match D.move c with
  | .acquire h => if h ∈ S then none else some (insert h S)
  | .release h => if h ∈ S then some (S.erase h) else none
  | .keep => some S

/-- The open handles after some calls, if these are legal. -/
def openAfter (calls : List κ) (S : Finset ι) : Option (Finset ι) := calls.foldlM D.applyCall S

/-- The handle that a call releases. -/
def released (c : κ) : Option ι :=
  match D.move c with
  | .release h => some h
  | _ => none

@[simp] theorem openAfter_nil (S : Finset ι) : D.openAfter [] S = some S := rfl

theorem openAfter_cons (c : κ) (l : List κ) (S : Finset ι) :
    D.openAfter (c :: l) S = (D.applyCall S c).bind (D.openAfter l) := rfl

theorem openAfter_append (l l' : List κ) (S : Finset ι) :
    D.openAfter (l ++ l') S = (D.openAfter l S).bind (D.openAfter l') :=
  List.foldlM_append

/-- Calls that only give back different open handles are legal. -/
theorem openAfter_release (calls : List κ) (S : Finset ι)
    (never : ∀ c ∈ calls, ∀ h, D.move c ≠ .acquire h)
    (nodup : (calls.filterMap D.released).Nodup)
    (isOpen : ∀ h ∈ calls.filterMap D.released, h ∈ S) :
    D.openAfter calls S = some (S \ (calls.filterMap D.released).toFinset) := by
  induction calls generalizing S with
  | nil => simp
  | cons c calls ih =>
    have later : ∀ c' ∈ calls, ∀ h, D.move c' ≠ .acquire h :=
      fun c' hc' => never c' (List.mem_cons_of_mem _ hc')
    cases move : D.move c with
    | acquire h => exact absurd move (never c List.mem_cons_self h)
    | keep =>
      have none_released : D.released c = none := by rw [released, move]
      rw [List.filterMap_cons_none none_released] at nodup isOpen ⊢
      have step : D.applyCall S c = some S := by rw [applyCall, move]
      rw [openAfter_cons, step]
      exact ih S later nodup isOpen
    | release h =>
      have one_released : D.released c = some h := by rw [released, move]
      rw [List.filterMap_cons_some one_released] at nodup isOpen ⊢
      obtain ⟨new, nodup⟩ := List.nodup_cons.mp nodup
      have step : D.applyCall S c = some (S.erase h) := by
        simp [applyCall, move, isOpen h List.mem_cons_self]
      rw [openAfter_cons, step, Option.bind_some, ih (S.erase h) later nodup ?_]
      · rw [List.toFinset_cons, Finset.sdiff_insert, Finset.erase_sdiff_comm]
      · intro g hg
        refine Finset.mem_erase.mpr ⟨?_, isOpen g (List.mem_cons_of_mem _ hg)⟩
        rintro rfl
        exact new hg

/-! ## Single runs -/

/-- The other open handles `S` and the handles `l` are all different, and their numbers are
below `m`. -/
structure Apart (m : ℕ) (S : Finset ι) (l : List ι) : Prop where
  nodup : l.Nodup
  other_lt : ∀ h ∈ S, D.serial h < m
  held_lt : ∀ h ∈ l, D.serial h < m
  disjoint : ∀ h ∈ l, h ∉ S

/-- From number `m` on and with `l` open, the computation ends with `r`, at number `m'` and with
`l'` open, whatever else is open. -/
structure Leaves (x : Eff ε κ ℕ α) (m : ℕ) (l : List ι) (r : Except ε α) (m' : ℕ)
    (l' : List ι) : Prop where
  result : (x.run m).result = r
  state : (x.run m).state = m'
  apart : ∀ S, D.Apart m S l → D.Apart m' S l'
  opens : ∀ S, D.Apart m S l →
    D.openAfter (x.run m).calls (S ∪ l.toFinset) = some (S ∪ l'.toFinset)

namespace Leaves

variable {D} {m m' m'' : ℕ} {l l' l'' : List ι} {e : ε} {a : α} {r : Except ε β}

/-- A run without calls leaves what was open. -/
theorem of_silent {x : Eff ε κ ℕ α} {r : Except ε α} (run : x.run m = ⟨r, m, []⟩) :
    D.Leaves x m l r m l := by
  refine ⟨by rw [run], by rw [run], fun _ h => h, fun S _ => ?_⟩
  rw [run, openAfter_nil]

theorem of_keep {x : Eff ε κ ℕ α} {c : κ} (run : x.run m = ⟨.ok a, m, [c]⟩)
    (move : D.move c = .keep) : D.Leaves x m l (.ok a) m l := by
  refine ⟨by rw [run], by rw [run], fun _ h => h, fun S _ => ?_⟩
  rw [run, openAfter_cons, applyCall, move]
  rfl

/-- A handle is given out. -/
theorem of_acquire {x : Eff ε κ ℕ α} {c : κ} {h : ι}
    (run : x.run m = ⟨.ok a, m + 1, [c]⟩) (move : D.move c = .acquire h)
    (serial : D.serial h = m) : D.Leaves x m l (.ok a) (m + 1) (l ++ [h]) := by
  have new : ∀ {S : Finset ι}, D.Apart m S l → h ∉ l ∧ h ∉ S := by
    intro S apart
    constructor
    · intro hl
      have := apart.held_lt h hl
      omega
    · intro hS
      have := apart.other_lt h hS
      omega
  refine ⟨by rw [run], by rw [run], fun S apart => ?_, fun S apart => ?_⟩
  · obtain ⟨unheld, unknown⟩ := new apart
    refine ⟨?_, fun g hg => ?_, fun g hg => ?_, fun g hg => ?_⟩
    · exact List.nodup_append.mpr ⟨apart.nodup, by simp, by
        intro g hg g' hg' same
        obtain rfl : g' = h := by simpa using hg'
        exact unheld (same ▸ hg)⟩
    · have := apart.other_lt g hg
      omega
    · obtain old | last := List.mem_append.mp hg
      · have := apart.held_lt g old
        omega
      · obtain rfl : g = h := by simpa using last
        omega
    · obtain old | last := List.mem_append.mp hg
      · exact apart.disjoint g old
      · obtain rfl : g = h := by simpa using last
        exact unknown
  · obtain ⟨unheld, unknown⟩ := new apart
    have step : D.applyCall (S ∪ l.toFinset) c = some (insert h (S ∪ l.toFinset)) := by
      simp [applyCall, move, unheld, unknown]
    rw [run, openAfter_cons, step, Option.bind_some, openAfter_nil]
    congr 1
    ext g
    simp only [Finset.mem_insert, Finset.mem_union, List.mem_toFinset, List.mem_append,
      List.mem_singleton]
    tauto

/-- A handle is given back. -/
theorem of_release {x : Eff ε κ ℕ α} {c : κ} {h : ι} {pre post : List ι}
    (run : x.run m = ⟨.ok a, m, [c]⟩) (move : D.move c = .release h) :
    D.Leaves x m (pre ++ h :: post) (.ok a) m (pre ++ post) := by
  refine ⟨by rw [run], by rw [run], fun S apart => ?_, fun S apart => ?_⟩
  · have sub : (pre ++ post).Sublist (pre ++ h :: post) :=
      List.Sublist.append_left (List.sublist_cons_self h post) pre
    exact ⟨apart.nodup.sublist sub, apart.other_lt, fun g hg => apart.held_lt g (sub.subset hg),
      fun g hg => apart.disjoint g (sub.subset hg)⟩
  · have unknown : h ∉ S := apart.disjoint h (by simp)
    have gone : h ∉ pre ++ post :=
      (List.nodup_cons.mp (List.nodup_middle.mp apart.nodup)).1
    have step : D.applyCall (S ∪ (pre ++ h :: post).toFinset) c =
        some ((S ∪ (pre ++ h :: post).toFinset).erase h) := by
      simp [applyCall, move]
    rw [run, openAfter_cons, step, Option.bind_some, openAfter_nil]
    congr 1
    ext g
    simp only [Finset.mem_erase, Finset.mem_union, List.mem_toFinset, List.mem_append,
      List.mem_cons] at gone ⊢
    by_cases same : g = h
    · subst same
      tauto
    · tauto

theorem bind_ok {x : Eff ε κ ℕ α} {f : α → Eff ε κ ℕ β} (first : D.Leaves x m l (.ok a) m' l')
    (rest : D.Leaves (f a) m' l' r m'' l'') : D.Leaves (x >>= f) m l r m'' l'' := by
  obtain ⟨result, state, apart, opens⟩ := first
  have run : (x >>= f).run m =
      ⟨((f a).run m').result, ((f a).run m').state, (x.run m).calls ++ ((f a).run m').calls⟩ := by
    rw [Eff.run_bind, Eff.andThen, result, state]
  refine ⟨by rw [run]; exact rest.result, by rw [run]; exact rest.state,
    fun S hS => rest.apart S (apart S hS), fun S hS => ?_⟩
  rw [run, openAfter_append, opens S hS]
  exact rest.opens S (apart S hS)

/-- A computation that makes the same calls, and ends in another way. -/
theorem same_calls {x : Eff ε κ ℕ α} {y : Eff ε κ ℕ β} {q : Except ε α}
    (h : D.Leaves x m l q m' l') (run : y.run m = ⟨r, m', (x.run m).calls⟩) :
    D.Leaves y m l r m' l' := by
  refine ⟨by rw [run], by rw [run], h.apart, fun S hS => ?_⟩
  rw [run]
  exact h.opens S hS

theorem bind_error {x : Eff ε κ ℕ α} {f : α → Eff ε κ ℕ β}
    (first : D.Leaves x m l (.error e) m' l') :
    D.Leaves (x >>= f) m l (.error e) m' l' :=
  first.same_calls (by rw [Eff.run_bind, Eff.andThen, first.result, first.state])

theorem attempt_ok {x : Eff ε κ ℕ α} {handles : ε → Bool} (h : D.Leaves x m l (.ok a) m' l') :
    D.Leaves (Eff.attempt handles x) m l (.ok (some a)) m' l' :=
  h.same_calls (by rw [Eff.run, Eff.attempt, h.result, h.state])

theorem attempt_caught {x : Eff ε κ ℕ α} {handles : ε → Bool}
    (h : D.Leaves x m l (.error e) m' l') (caught : handles e = true) :
    D.Leaves (Eff.attempt handles x) m l (.ok none) m' l' :=
  h.same_calls (by rw [Eff.run, Eff.attempt, h.result, h.state]; simp [caught])

theorem attempt_passed {x : Eff ε κ ℕ α} {handles : ε → Bool}
    (h : D.Leaves x m l (.error e) m' l') (passed : handles e = false) :
    D.Leaves (Eff.attempt handles x) m l (.error e) m' l' :=
  h.same_calls (by rw [Eff.run, Eff.attempt, h.result, h.state]; simp [passed])

end Leaves

/-! ## Triples -/

/-- Started with the handles `held`, the computation either returns, with a value and open
handles that meet `returns`, or throws, with an exception and open handles that meet
`throws`. -/
def Ends (held : List ι) (x : Eff ε κ ℕ α) (returns : α → List ι → Prop)
    (throws : ε → List ι → Prop) : Prop :=
  ∀ m l, (∃ a m' hs, returns a hs ∧ D.Leaves x m (l ++ held) (.ok a) m' (l ++ hs)) ∨
    ∃ e m' hs, throws e hs ∧ D.Leaves x m (l ++ held) (.error e) m' (l ++ hs)

/-- What the iterations of a loop returned, and the handles that they left open. -/
inductive Collected (made : α → β → List ι → Prop) : List α → List β → List ι → Prop where
  | nil : Collected made [] [] []
  | cons {a as b bs hs hs'} (first : made a b hs) (rest : Collected made as bs hs') :
    Collected made (a :: as) (b :: bs) (hs ++ hs')

omit [DecidableEq ι] in
/-- What holds for each iteration holds for the loop. -/
theorem Collected.all {made : α → β → List ι → Prop} {good : α → Prop} {fine : β → Prop}
    {held : β → List ι} (each : ∀ a b hs, made a b hs → good a ∧ fine b ∧ hs = held b)
    {as : List α} {bs : List β} {hs : List ι} (h : Collected made as bs hs) :
    (∀ a ∈ as, good a) ∧ (∀ b ∈ bs, fine b) ∧ hs = bs.flatMap held ∧
      bs.length = as.length := by
  induction h with
  | nil => simp
  | cons first _ ih =>
    obtain ⟨good_a, fine_b, rfl⟩ := each _ _ _ first
    obtain ⟨good_as, fine_bs, rfl, length⟩ := ih
    exact ⟨by simpa using ⟨good_a, good_as⟩, by simpa using ⟨fine_b, fine_bs⟩, rfl,
      by simp [length]⟩

namespace Ends

variable {D} {held : List ι} {returns : α → List ι → Prop} {throws : ε → List ι → Prop}

theorem imp {x : Eff ε κ ℕ α} {returns' : α → List ι → Prop} {throws' : ε → List ι → Prop}
    (h : D.Ends held x returns' throws') (hr : ∀ a hs, returns' a hs → returns a hs)
    (ht : ∀ e hs, throws' e hs → throws e hs) : D.Ends held x returns throws := by
  intro m l
  obtain ⟨a, m', hs, post, leaves⟩ | ⟨e, m', hs, post, leaves⟩ := h m l
  · exact .inl ⟨a, m', hs, hr a hs post, leaves⟩
  · exact .inr ⟨e, m', hs, ht e hs post, leaves⟩

/-- What a triple says about a run that returned. -/
theorem of_returns {x : Eff ε κ ℕ α} (h : D.Ends [] x returns throws) {m m' : ℕ} {a : α}
    (ends : Eff.Returns x m a m') : ∃ hs, returns a hs := by
  obtain ⟨a', _, hs, post, leaves⟩ | ⟨e, _, _, -, leaves⟩ := h m []
  · have same : a' = a := Except.ok.inj (leaves.result.symm.trans ends.1)
    exact ⟨hs, same ▸ post⟩
  · cases leaves.result.symm.trans ends.1

/-- What a triple says about a run that threw. -/
theorem of_throws {x : Eff ε κ ℕ α} (h : D.Ends [] x returns throws) {m m' : ℕ} {e : ε}
    (ends : Eff.Throws x m e m') : ∃ hs, throws e hs := by
  obtain ⟨a, _, _, -, leaves⟩ | ⟨e', _, hs, post, leaves⟩ := h m []
  · cases leaves.result.symm.trans ends.1
  · have same : e' = e := Except.error.inj (leaves.result.symm.trans ends.1)
    exact ⟨hs, same ▸ post⟩

/-- Handles in front of the held ones are not touched. -/
theorem frame {x : Eff ε κ ℕ α} (pre : List ι) (h : D.Ends held x returns throws) :
    D.Ends (pre ++ held) x (fun a hs => ∃ hs', hs = pre ++ hs' ∧ returns a hs')
      (fun e hs => ∃ hs', hs = pre ++ hs' ∧ throws e hs') := by
  intro m l
  obtain ⟨a, m', hs, post, leaves⟩ | ⟨e, m', hs, post, leaves⟩ := h m (l ++ pre)
  · refine .inl ⟨a, m', pre ++ hs, ⟨hs, rfl, post⟩, ?_⟩
    simpa using leaves
  · refine .inr ⟨e, m', pre ++ hs, ⟨hs, rfl, post⟩, ?_⟩
    simpa using leaves

protected theorem pure {a : α} (post : returns a held) :
    D.Ends held (pure a : Eff ε κ ℕ α) returns throws :=
  fun m _ => .inl ⟨a, m, held, post, .of_silent rfl⟩

theorem throw {e : ε} (post : throws e held) :
    D.Ends held (Eff.throw e : Eff ε κ ℕ α) returns throws :=
  fun m _ => .inr ⟨e, m, held, post, .of_silent rfl⟩

theorem require {o : Option α} {e : ε} (fails : o = none → throws e held)
    (answers : ∀ a, o = some a → returns a held) :
    D.Ends held (Eff.require o e) returns throws := by
  cases o with
  | none => exact throw (fails rfl)
  | some a => exact .pure (answers a rfl)

theorem bind {x : Eff ε κ ℕ β} {f : β → Eff ε κ ℕ α} {returns' : β → List ι → Prop}
    (first : D.Ends held x returns' throws)
    (rest : ∀ b hs, returns' b hs → D.Ends hs (f b) returns throws) :
    D.Ends held (x >>= f) returns throws := by
  intro m l
  obtain ⟨b, m', hs, mid, leaves⟩ | ⟨e, m', hs, post, leaves⟩ := first m l
  · obtain ⟨a, m'', hs', post, leaves'⟩ | ⟨e, m'', hs', post, leaves'⟩ := rest b hs mid m' l
    · exact .inl ⟨a, m'', hs', post, leaves.bind_ok leaves'⟩
    · exact .inr ⟨e, m'', hs', post, leaves.bind_ok leaves'⟩
  · exact .inr ⟨e, m', hs, post, leaves.bind_error⟩

/-! ### Statements in front of the rest of a computation -/

theorem throw_then {e : ε} {f : β → Eff ε κ ℕ α} (post : throws e held) :
    D.Ends held (Eff.throw e >>= f) returns throws :=
  have first : D.Ends held (Eff.throw e) (fun _ _ => False) throws := throw post
  bind first fun _ _ impossible => impossible.elim

theorem ensure_then {b : Bool} {e : ε} {f : Unit → Eff ε κ ℕ α}
    (fails : b = false → throws e held) (rest : b = true → D.Ends held (f ()) returns throws) :
    D.Ends held (Eff.ensure b e >>= f) returns throws := by
  cases b with
  | false => exact throw_then (fails rfl)
  | true => exact rest rfl

theorem require_then {o : Option β} {e : ε} {f : β → Eff ε κ ℕ α}
    (fails : o = none → throws e held)
    (rest : ∀ b, o = some b → D.Ends held (f b) returns throws) :
    D.Ends held (Eff.require o e >>= f) returns throws := by
  cases o with
  | none => exact throw_then (fails rfl)
  | some b => exact rest b rfl

theorem keep_then {x : Eff ε κ ℕ β} {f : β → Eff ε κ ℕ α} {b : β} {c : κ}
    (run : ∀ m, x.run m = ⟨.ok b, m, [c]⟩) (move : D.move c = .keep)
    (rest : D.Ends held (f b) returns throws) : D.Ends held (x >>= f) returns throws := by
  have first : D.Ends held x (fun b' hs => b' = b ∧ hs = held) throws :=
    fun m _ => .inl ⟨b, m, held, ⟨rfl, rfl⟩, .of_keep (run m) move⟩
  refine bind first ?_
  rintro _ _ ⟨rfl, rfl⟩
  exact rest

theorem acquire_then {x : Eff ε κ ℕ β} {f : β → Eff ε κ ℕ α} {b : ℕ → β} {c : ℕ → κ} {h : ℕ → ι}
    (run : ∀ m, x.run m = ⟨.ok (b m), m + 1, [c m]⟩) (move : ∀ m, D.move (c m) = .acquire (h m))
    (serial : ∀ m, D.serial (h m) = m)
    (rest : ∀ m, D.Ends (held ++ [h m]) (f (b m)) returns throws) :
    D.Ends held (x >>= f) returns throws := by
  have first : D.Ends held x (fun b' hs => ∃ m, b' = b m ∧ hs = held ++ [h m]) throws := by
    refine fun m l => .inl ⟨b m, m + 1, held ++ [h m], ⟨m, rfl, rfl⟩, ?_⟩
    rw [← List.append_assoc]
    exact .of_acquire (run m) (move m) (serial m)
  refine bind first ?_
  rintro _ _ ⟨m, rfl, rfl⟩
  exact rest m

theorem release_then {x : Eff ε κ ℕ β} {f : β → Eff ε κ ℕ α} {b : β} {c : κ} {h : ι}
    {pre post : List ι} (run : ∀ m, x.run m = ⟨.ok b, m, [c]⟩) (move : D.move c = .release h)
    (rest : D.Ends (pre ++ post) (f b) returns throws) :
    D.Ends (pre ++ h :: post) (x >>= f) returns throws := by
  have first : D.Ends (pre ++ h :: post) x (fun b' hs => b' = b ∧ hs = pre ++ post) throws := by
    refine fun m l => .inl ⟨b, m, pre ++ post, ⟨rfl, rfl⟩, ?_⟩
    rw [← List.append_assoc, ← List.append_assoc]
    exact .of_release (run m) move
  refine bind first ?_
  rintro _ _ ⟨rfl, rfl⟩
  exact rest

/-! ### Handlers and loops -/

theorem attempt {x : Eff ε κ ℕ α} {handles : ε → Bool} {returns : Option α → List ι → Prop}
    (h : D.Ends held x (fun a hs => returns (some a) hs)
      (fun e hs => if handles e then returns none hs else throws e hs)) :
    D.Ends held (Eff.attempt handles x) returns throws := by
  intro m l
  obtain ⟨a, m', hs, post, leaves⟩ | ⟨e, m', hs, post, leaves⟩ := h m l
  · exact .inl ⟨some a, m', hs, post, leaves.attempt_ok⟩
  · cases caught : handles e with
    | true =>
      rw [caught, if_pos rfl] at post
      exact .inl ⟨none, m', hs, post, leaves.attempt_caught caught⟩
    | false =>
      rw [caught] at post
      exact .inr ⟨e, m', hs, post, leaves.attempt_passed caught⟩

/-- A loop ends with the handles of all iterations, or those up to one that threw. -/
theorem collect {f : α → Eff ε κ ℕ β} {made : α → β → List ι → Prop}
    {fails : α → ε → List ι → Prop} (step : ∀ a, D.Ends [] (f a) (made a) (fails a))
    (as : List α) :
    D.Ends [] (Eff.collect f as) (Collected made as) (fun e hs => ∃ pre a post bs hs₁ hs₂,
      as = pre ++ a :: post ∧ Collected made pre bs hs₁ ∧ fails a e hs₂ ∧ hs = hs₁ ++ hs₂) := by
  induction as with
  | nil => exact .pure .nil
  | cons a as ih =>
    have first : D.Ends [] (f a) (made a) (fun e hs => ∃ pre a' post bs hs₁ hs₂,
        a :: as = pre ++ a' :: post ∧ Collected made pre bs hs₁ ∧ fails a' e hs₂ ∧
          hs = hs₁ ++ hs₂) :=
      (step a).imp (fun _ _ h => h) fun e hs h => ⟨[], a, as, [], [], hs, rfl, .nil, h, rfl⟩
    refine bind first fun b hs made_b => ?_
    have later : D.Ends hs (Eff.collect f as)
        (fun bs all => ∃ hs', all = hs ++ hs' ∧ Collected made as bs hs')
        (fun e all => ∃ pre a' post bs hs₁ hs₂, a :: as = pre ++ a' :: post ∧
          Collected made pre bs hs₁ ∧ fails a' e hs₂ ∧ all = hs₁ ++ hs₂) := by
      have framed := ih.frame hs
      rw [List.append_nil] at framed
      refine framed.imp (fun _ _ h => h) ?_
      rintro e _ ⟨_, rfl, pre, a', post, bs, hs₁, hs₂, rfl, before, failed, rfl⟩
      exact ⟨a :: pre, a', post, b :: bs, hs ++ hs₁, hs₂, rfl, .cons made_b before, failed,
        (List.append_assoc ..).symm⟩
    refine bind later ?_
    rintro bs _ ⟨hs', rfl, rest⟩
    exact .pure (.cons made_b rest)

end Ends

end Desk

end Cpp
