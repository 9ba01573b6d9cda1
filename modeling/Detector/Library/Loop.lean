import Mathlib.Data.List.Forall2
import Detector.Library.Effect

/-!
# Loops of throwing computations

Two loops and the rules that take them apart.

A loop over a list whose iterations each test a guard, throw when it fails and otherwise make
an update: when no update changes the guard of a later iteration, the loop runs up to the
first entry whose guard failed in the *initial* state.

A loop over objects that are held by pointer (`visit`): each object is left in the state its
method leaves it in, and a throw stops the loop with the later objects untouched.
-/
namespace Cpp

/-- Either every entry passes a test, or there is a first one that does not. -/
theorem forall_or_first {α : Type} (p : α → Bool) (l : List α) :
    (∀ a ∈ l, p a = true) ∨
      ∃ pre b post, l = pre ++ b :: post ∧ (∀ a ∈ pre, p a = true) ∧ p b = false := by
  induction l with
  | nil => exact .inl (by simp)
  | cons a l ih =>
    cases ha : p a with
    | false => exact .inr ⟨[], a, l, rfl, by simp, ha⟩
    | true =>
      obtain h | ⟨pre, b, post, rfl, hpre, hb⟩ := ih
      · exact .inl (by simpa [ha] using h)
      · exact .inr ⟨a :: pre, b, post, rfl, by simpa [ha] using hpre, hb⟩

theorem findSome?_flatMap {α β γ : Type} {p : β → Option γ} {f : α → List β} (l : List α) :
    (l.flatMap f).findSome? p = l.findSome? fun a => (f a).findSome? p := by
  induction l with
  | nil => rfl
  | cons a l ih =>
    rw [List.flatMap_cons, List.findSome?_append, ih, List.findSome?_cons]
    cases (f a).findSome? p <;> rfl

/-- Two positions in one list: one comes first, or they are the same. -/
theorem split_cases {α : Type} {pre post pre' post' : List α} {a b : α}
    (h : pre ++ a :: post = pre' ++ b :: post') : a ∈ pre' ∨ a = b ∨ b ∈ pre := by
  obtain ⟨mid, rfl, later⟩ | ⟨mid, rfl, later⟩ := List.append_eq_append_iff.mp h
  · cases mid with
    | nil => exact .inr (.inl (List.cons.inj later).1)
    | cons c mid => exact .inl (by simp [(List.cons.inj later).1])
  · cases mid with
    | nil => exact .inr (.inl (List.cons.inj later).1.symm)
    | cons c mid => exact .inr (.inr (by simp [(List.cons.inj later).1]))

namespace Eff

variable {ε κ σ τ α : Type}

/-! ## Guarded iterations -/

section Guarded

variable {f : α → Eff ε κ σ Unit} {guard : σ → α → Bool} {update : σ → α → σ} {e : ε}

/-- Later guards do not notice an update, so they can all be tested in the initial state. -/
def GuardsKept (guard : σ → α → Bool) (update : σ → α → σ) (l : List α) : Prop :=
  l.Pairwise fun a b => ∀ s, guard (update s a) b = guard s b

theorem run_forM_ok (step : ∀ s a, guard s a = true → (f a).run s = ⟨.ok (), update s a, []⟩)
    (l : List α) (kept : GuardsKept guard update l) (s : σ)
    (h : ∀ a ∈ l, guard s a = true) : (l.forM f).run s = ⟨.ok (), l.foldl update s, []⟩ := by
  induction l generalizing s with
  | nil => rfl
  | cons a l ih =>
    have later := (List.pairwise_cons.mp kept).1
    have rest := ih (List.pairwise_cons.mp kept).2 (update s a) fun b hb => by
      rw [later b hb s]
      exact h b (by simp [hb])
    change andThen ((f a).run s) (fun _ => l.forM f) = _
    rw [step s a (h a (by simp)), andThen_ok, rest]
    rfl

theorem run_forM_error (stopped : σ → α → σ)
    (step : ∀ s a, guard s a = true → (f a).run s = ⟨.ok (), update s a, []⟩)
    (stop : ∀ s a, guard s a = false → (f a).run s = ⟨.error e, stopped s a, []⟩)
    (pre : List α) (b : α) (post : List α)
    (kept : GuardsKept guard update (pre ++ b :: post)) (s : σ)
    (h : ∀ a ∈ pre, guard s a = true) (hb : guard s b = false) :
    ((pre ++ b :: post).forM f).run s = ⟨.error e, stopped (pre.foldl update s) b, []⟩ := by
  induction pre generalizing s with
  | nil =>
    change andThen ((f b).run s) (fun _ => post.forM f) = _
    rw [stop s b hb, andThen_error]
    rfl
  | cons a pre ih =>
    have later := (List.pairwise_cons.mp kept).1
    have rest := ih (List.pairwise_cons.mp kept).2 (update s a)
      (fun c hc => by rw [later c (by simp [hc]) s]; exact h c (by simp [hc]))
      (by rw [later b (by simp) s]; exact hb)
    change andThen ((f a).run s) (fun _ => (pre ++ b :: post).forM f) = _
    rw [step s a (h a (by simp)), andThen_ok, rest]
    rfl

end Guarded

/-! ## Visiting owned objects -/

/-- The loop from object number `i` on, with the objects still to visit and the state `t` of
the object that owns them. -/
def visitFrom (body : ℕ → Eff ε κ (σ × τ) Unit) : ℕ → List σ → τ → Outcome ε κ (List σ × τ) Unit
  | _, [], t => ⟨.ok (), ([], t), []⟩
  | i, x :: xs, t =>
    let o := (body i).run (x, t)
    match o.result with
    | .error e => ⟨.error e, (o.state.1 :: xs, o.state.2), o.calls⟩
    | .ok _ =>
      let p := visitFrom body (i + 1) xs o.state.2
      ⟨p.result, (o.state.1 :: p.state.1, p.state.2), o.calls ++ p.calls⟩

/-- `for (auto *x : xs) body(x)`; the body also sees the number of the object. -/
def visit (body : ℕ → Eff ε κ (σ × τ) Unit) : Eff ε κ (List σ × τ) Unit := fun s =>
  visitFrom body 0 s.1 s.2

@[simp] theorem run_visit (body : ℕ → Eff ε κ (σ × τ) Unit) (s : List σ × τ) :
    (visit body).run s = visitFrom body 0 s.1 s.2 := by
  simp only [run, visit]

/-- Every object from number `i` on was visited and no visit threw. -/
inductive Visited (body : ℕ → Eff ε κ (σ × τ) Unit) :
    ℕ → List σ → τ → List σ → τ → Prop where
  | nil (i : ℕ) (t : τ) : Visited body i [] t [] t
  | cons {i : ℕ} {x x' : σ} {xs xs' : List σ} {t u v : τ} :
      Returns (body i) (x, t) () (x', u) → Visited body (i + 1) xs u xs' v →
      Visited body i (x :: xs) t (x' :: xs') v

variable {body : ℕ → Eff ε κ (σ × τ) Unit}

theorem visitFrom_ok {i : ℕ} {xs : List σ} {t : τ}
    (h : (visitFrom body i xs t).result = .ok ()) :
    Visited body i xs t (visitFrom body i xs t).state.1 (visitFrom body i xs t).state.2 := by
  induction xs generalizing i t with
  | nil => exact .nil i t
  | cons x xs ih =>
    rcases hx : (body i).run (x, t) with ⟨⟨e⟩ | ⟨⟨⟩⟩, ⟨x', u⟩, l⟩
    · simp [visitFrom, hx] at h
    · simp only [visitFrom, hx] at h ⊢
      exact .cons ⟨by rw [hx], by rw [hx]⟩ (ih h)

theorem Visited.visitFrom_eq {i : ℕ} {xs xs' : List σ} {t u : τ}
    (h : Visited body i xs t xs' u) :
    (visitFrom body i xs t).result = .ok () ∧ (visitFrom body i xs t).state = (xs', u) := by
  induction h with
  | nil => exact ⟨rfl, rfl⟩
  | cons first _ ih =>
    obtain ⟨hr, hs⟩ := first
    simp [visitFrom, hr, hs, ih.1, ih.2]

theorem visitFrom_error {i : ℕ} {xs : List σ} {t : τ} {e : ε}
    (h : (visitFrom body i xs t).result = .error e) :
    ∃ pre x post pre' u x' v, xs = pre ++ x :: post ∧ Visited body i pre t pre' u ∧
      Throws (body (i + pre.length)) (x, u) e (x', v) ∧
      (visitFrom body i xs t).state = (pre' ++ x' :: post, v) := by
  induction xs generalizing i t with
  | nil => simp [visitFrom] at h
  | cons x xs ih =>
    rcases hx : (body i).run (x, t) with ⟨⟨e'⟩ | ⟨⟨⟩⟩, ⟨x', u⟩, l⟩
    · simp only [visitFrom, hx] at h ⊢
      obtain rfl : e' = e := by simpa using h
      exact ⟨[], x, xs, [], t, x', u, rfl, .nil i t, ⟨by simp [hx], by simp [hx]⟩, rfl⟩
    · simp only [visitFrom, hx] at h ⊢
      obtain ⟨pre, y, post, pre', w, y', v, rfl, seen, thrown, final⟩ := ih h
      refine ⟨x :: pre, y, post, x' :: pre', w, y', v, rfl,
        .cons ⟨by rw [hx], by rw [hx]⟩ seen, ?_, by rw [final]; rfl⟩
      rwa [List.length_cons, Nat.add_comm pre.length 1, ← Nat.add_assoc]

theorem returns_visit {xs xs' : List σ} {t u : τ} :
    Returns (visit body) (xs, t) () (xs', u) ↔ Visited body 0 xs t xs' u := by
  constructor
  · rintro ⟨ends, state⟩
    have visited := visitFrom_ok ends
    rw [run_visit] at state
    simpa [state] using visited
  · exact fun h => h.visitFrom_eq

/-- A loop that throws visited some first objects, threw at the next, and left the rest. -/
theorem throws_visit {xs : List σ} {t : τ} {e : ε} {s : List σ × τ}
    (h : Throws (visit body) (xs, t) e s) :
    ∃ pre x post pre' u x' v, xs = pre ++ x :: post ∧ Visited body 0 pre t pre' u ∧
      Throws (body pre.length) (x, u) e (x', v) ∧ s = (pre' ++ x' :: post, v) := by
  obtain ⟨pre, x, post, pre', u, x', v, split, seen, thrown, final⟩ := visitFrom_error h.1
  rw [Nat.zero_add] at thrown
  exact ⟨pre, x, post, pre', u, x', v, split, seen, thrown, h.2.symm.trans final⟩

/-- How a computation without a value ended. -/
def ending : Option ε → Except ε Unit
  | none => .ok ()
  | some e => .error e

/-- When each visit fails or not whatever was visited before, the first object that fails decides how
the loop ends. -/
theorem result_visitFrom {fail : ℕ → σ → Option ε} {xs : List σ}
    (each : ∀ x ∈ xs, ∀ i t, ((body i).run (x, t)).result = ending (fail i x)) (i : ℕ) (t : τ) :
    (visitFrom body i xs t).result =
      ending ((xs.zipIdx i).findSome? fun x => fail x.2 x.1) := by
  induction xs generalizing i t with
  | nil => rfl
  | cons x xs ih =>
    have first := each x (by simp) i t
    have rest := ih (fun y hy => each y (by simp [hy])) (i + 1)
    rw [List.zipIdx_cons, List.findSome?_cons]
    rcases hx : (body i).run (x, t) with ⟨⟨e⟩ | ⟨⟨⟩⟩, ⟨x', u⟩, l⟩
    · rw [hx] at first
      cases failed : fail i x with
      | none => simp [failed, ending] at first
      | some e' =>
        obtain rfl : e = e' := by simpa [failed, ending] using first
        simp [visitFrom, hx, ending]
    · rw [hx] at first
      cases failed : fail i x with
      | none => simpa [visitFrom, hx, failed] using rest u
      | some e' => simp [failed, ending] at first

/-- The elements that a loop gets to: all up to the first one that fails, and this one. -/
def reached (fail : α → Option ε) : List α → List α
  | [] => []
  | a :: l => if (fail a).isSome then [a] else a :: reached fail l

theorem reached_sublist (fail : α → Option ε) (l : List α) : (reached fail l).Sublist l := by
  induction l with
  | nil => exact .slnil
  | cons a l ih =>
    rw [reached]
    split
    · exact (List.nil_sublist l).cons_cons a
    · exact ih.cons_cons a

theorem reached_of_none {fail : α → Option ε} {l : List α} (h : l.findSome? fail = none) :
    reached fail l = l := by
  induction l with
  | nil => rfl
  | cons a l ih =>
    rw [List.findSome?_cons] at h
    cases failed : fail a with
    | some e => simp [failed] at h
    | none =>
      rw [reached, failed, ih (by simpa [failed] using h)]
      rfl

theorem reached_append (fail : α → Option ε) (l l' : List α) : reached fail (l ++ l') =
    if (l.findSome? fail).isSome then reached fail l else l ++ reached fail l' := by
  induction l with
  | nil => rfl
  | cons a l ih =>
    rw [List.cons_append, reached, reached, List.findSome?_cons, ih]
    cases fail a with
    | some e => rfl
    | none =>
      cases (l.findSome? fail).isSome <;> rfl

theorem reached_map {β : Type} (fail : α → Option ε) (f : β → α) (l : List β) :
    reached fail (l.map f) = (reached (fun b => fail (f b)) l).map f := by
  induction l with
  | nil => rfl
  | cons b l ih =>
    rw [List.map_cons, reached, reached, ih]
    cases (fail (f b)).isSome <;> rfl

/-- A loop in a loop, as one loop. -/
theorem reached_flatMap {β : Type} (fail : α → Option ε) (f : β → List α) (l : List β) :
    reached fail (l.flatMap f) =
      (reached (fun b => (f b).findSome? fail) l).flatMap fun b => reached fail (f b) := by
  induction l with
  | nil => rfl
  | cons b l ih =>
    rw [List.flatMap_cons, reached_append, reached]
    cases failed : (f b).findSome? fail with
    | some e => simp
    | none => simp [ih, reached_of_none failed]

/-- Loops over related elements that fail alike get equally far. -/
theorem forall₂_reached {β : Type} {R : α → β → Prop} {fail : α → Option ε} {fail' : β → Option ε}
    (alike : ∀ a b, R a b → fail a = fail' b) {l : List α} {l' : List β}
    (h : List.Forall₂ R l l') : List.Forall₂ R (reached fail l) (reached fail' l') := by
  induction h with
  | nil => exact .nil
  | @cons a b l l' first _ ih =>
    rw [reached, reached, alike a b first]
    split
    · exact .cons first .nil
    · exact .cons first ih

/-- A loop makes the external calls of the visits that it gets to. -/
theorem calls_visitFrom {fail : ℕ → σ → Option ε} {made : ℕ → σ → List κ} {xs : List σ}
    (each : ∀ x ∈ xs, ∀ i t, ((body i).run (x, t)).result = ending (fail i x) ∧
      ((body i).run (x, t)).calls = made i x) (i : ℕ) (t : τ) :
    (visitFrom body i xs t).calls =
      (reached (fun x => fail x.2 x.1) (xs.zipIdx i)).flatMap fun x => made x.2 x.1 := by
  induction xs generalizing i t with
  | nil => rfl
  | cons x xs ih =>
    obtain ⟨ends, calls⟩ := each x (by simp) i t
    have rest := ih (fun y hy => each y (by simp [hy])) (i + 1)
    rw [List.zipIdx_cons, reached]
    rcases hx : (body i).run (x, t) with ⟨⟨e⟩ | ⟨⟨⟩⟩, ⟨x', u⟩, l⟩
    · rw [hx] at ends calls
      cases failed : fail i x with
      | none => simp [failed, ending] at ends
      | some e' => simp [visitFrom, hx, ← calls]
    · rw [hx] at ends calls
      cases failed : fail i x with
      | none => simp [visitFrom, hx, ← calls, rest]
      | some e' => simp [failed, ending] at ends

/-- A computation on the visited object alone. -/
def onItem (x : Eff ε κ σ α) : Eff ε κ (σ × τ) α := focus Prod.fst (fun s x => (x, s.2)) x

/-- A method returned for every object from number `i` on. -/
inductive Each (f : ℕ → Eff ε κ σ Unit) : ℕ → List σ → List σ → Prop where
  | nil (i : ℕ) : Each f i [] []
  | cons {i : ℕ} {x x' : σ} {xs xs' : List σ} :
      Returns (f i) x () x' → Each f (i + 1) xs xs' → Each f i (x :: xs) (x' :: xs')

theorem visited_onItem {f : ℕ → Eff ε κ σ Unit} {i : ℕ} {xs xs' : List σ} {t u : τ} :
    Visited (fun i => onItem (f i)) i xs t xs' u ↔ Each f i xs xs' ∧ u = t := by
  constructor
  · intro h
    induction h with
    | nil => exact ⟨.nil _, rfl⟩
    | cons first _ ih =>
      obtain ⟨x', ends, same⟩ := returns_focus.mp first
      obtain ⟨rfl, rfl⟩ := Prod.mk.inj same
      exact ⟨.cons ends ih.1, ih.2⟩
  · rintro ⟨h, rfl⟩
    induction h with
    | nil => exact .nil _ _
    | cons first _ ih => exact .cons (returns_focus.mpr ⟨_, first, rfl⟩) ih

theorem Each.mapIdx_from {f : ℕ → Eff ε κ σ Unit} {g : ℕ → σ → σ} (xs : List σ) (i : ℕ)
    (h : ∀ j x, xs[j]? = some x → Returns (f (i + j)) x () (g (i + j) x)) :
    Each f i xs (xs.mapIdx fun j => g (i + j)) := by
  induction xs generalizing i with
  | nil => exact .nil i
  | cons x xs ih =>
    rw [List.mapIdx_cons]
    refine .cons (h 0 x rfl) ?_
    have rest := ih (i + 1) fun j y hy => by
      rw [Nat.add_assoc, Nat.add_comm 1 j]
      exact h (j + 1) y (by simpa using hy)
    simpa [Nat.add_assoc, Nat.add_comm 1] using rest

/-- When the call on each object returns, the loop returns with all the objects changed. -/
theorem Each.mapIdx {f : ℕ → Eff ε κ σ Unit} {g : ℕ → σ → σ} {xs : List σ}
    (h : ∀ j x, xs[j]? = some x → Returns (f j) x () (g j x)) : Each f 0 xs (xs.mapIdx g) := by
  have each := Each.mapIdx_from (f := f) (g := g) xs 0 fun j x hx => by
    simpa using h j x hx
  simpa using each

/-! ## One owned object -/

/-- A call on object number `i`, if there is one. -/
def onNth (i : ℕ) (x : Eff ε κ σ Unit) : Eff ε κ (List σ) Unit := fun l =>
  match l[i]? with
  | none => ⟨.ok (), l, []⟩
  | some a =>
    let o := x.run a
    ⟨o.result, l.set i o.state, o.calls⟩

theorem run_onNth_none {i : ℕ} {x : Eff ε κ σ Unit} {l : List σ} (h : l[i]? = none) :
    (onNth i x).run l = ⟨.ok (), l, []⟩ := by
  simp only [run, onNth, h]

theorem run_onNth_some {i : ℕ} {x : Eff ε κ σ Unit} {l : List σ} {a : σ}
    (h : l[i]? = some a) :
    (onNth i x).run l = ⟨(x.run a).result, l.set i (x.run a).state, (x.run a).calls⟩ := by
  simp only [run, onNth, h]

end Eff

end Cpp
