import Detector.Library.Run

/-!
# Rounds of a client that shows what it gets

A client calls an object again and again. When a call returns it shows the object, and when the call
throws it shows the exception and goes on. `outcomes` is what is shown in each round of such a run.

## Main definitions

* `Eff.rescue` — `try` with a handler that sees the exception.
* `Eff.withLocal` — a computation with a local variable.
* `Eff.outcomes` — what the rounds of a run show.

## Main results

* `Eff.outcomes_split` — a round shows what its call gives in the state after the rounds before it.
* `Eff.outcomes_eq_map` — the rounds of an object whose answers do not depend on its history.
* `Eff.Latch.outcomes_of_first` — the rounds of an object that fails for good once a round went
  wrong.
-/
namespace Cpp

namespace Eff

variable {ε ε' κ σ τ α β γ : Type}

/-! ## Handlers and local variables -/

/-- `try { x } catch (e) { handler(e) }`, for the exceptions that the handler names. -/
def rescue (handles : ε → Bool) (handler : ε → Eff ε κ σ α) (x : Eff ε κ σ α) : Eff ε κ σ α :=
  fun s =>
    let o := x.run s
    match o.result with
    | .ok a => ⟨.ok a, o.state, o.calls⟩
    | .error e =>
      if handles e then
        let p := (handler e).run o.state
        ⟨p.result, p.state, o.calls ++ p.calls⟩
      else ⟨.error e, o.state, o.calls⟩

/-- Run a computation with a local variable that starts as `a`, and give its last value. -/
def withLocal (a : α) (x : Eff ε κ (α × σ) Unit) : Eff ε κ σ α := fun s =>
  let o := x.run (a, s)
  match o.result with
  | .ok _ => ⟨.ok o.state.1, o.state.2, o.calls⟩
  | .error e => ⟨.error e, o.state.2, o.calls⟩

theorem rescue_of_returns {handles : ε → Bool} {handler : ε → Eff ε κ σ α} {x : Eff ε κ σ α}
    {s t : σ} {a : α} (h : Returns x s a t) : Returns (rescue handles handler x) s a t := by
  obtain ⟨result, state⟩ := h
  simp only [Returns, rescue, run] at *
  simp [result, state]

theorem rescue_of_throws {handles : ε → Bool} {handler : ε → Eff ε κ σ α} {x : Eff ε κ σ α}
    {s t u : σ} {e : ε} {a : α} (h : Throws x s e t) (caught : handles e = true)
    (handled : Returns (handler e) t a u) : Returns (rescue handles handler x) s a u := by
  obtain ⟨result, state⟩ := h
  simp only [Returns, rescue, run] at *
  simpa [result, state, caught] using handled

theorem rescue_of_rethrows {handles : ε → Bool} {handler : ε → Eff ε κ σ α} {x : Eff ε κ σ α}
    {s t u : σ} {e e' : ε} (h : Throws x s e t) (caught : handles e = true)
    (handled : Throws (handler e) t e' u) : Throws (rescue handles handler x) s e' u := by
  obtain ⟨result, state⟩ := h
  simp only [Throws, rescue, run] at *
  simpa [result, state, caught] using handled

theorem withLocal_of_returns {a b : α} {x : Eff ε κ (α × σ) Unit} {s t : σ}
    (h : Returns x (a, s) () (b, t)) : Returns (withLocal a x) s b t := by
  obtain ⟨result, state⟩ := h
  simp only [Returns, withLocal, run] at *
  simp [result, state]

/-! ## What is called -/

/-- What follows without a call adds none. -/
theorem calls_then_silent {x : Eff ε κ σ α} {f : α → Eff ε κ σ β} {s : σ}
    (silent : ∀ a t, ((f a).run t).calls = []) : ((x >>= f).run s).calls = (x.run s).calls := by
  rw [run_bind]
  rcases x.run s with ⟨⟨e⟩ | ⟨a⟩, t, l⟩
  · rfl
  · rw [andThen_ok, silent, List.append_nil]

theorem calls_rescue {handles : ε → Bool} {handler : ε → Eff ε κ σ α} {x : Eff ε κ σ α} {s : σ}
    (silent : ∀ e t, ((handler e).run t).calls = []) :
    ((rescue handles handler x).run s).calls = (x.run s).calls := by
  have ends : (rescue handles handler x).run s = match (x.run s).result with
      | .ok a => ⟨.ok a, (x.run s).state, (x.run s).calls⟩
      | .error e =>
        if handles e then
          let p := (handler e).run (x.run s).state
          ⟨p.result, p.state, (x.run s).calls ++ p.calls⟩
        else ⟨.error e, (x.run s).state, (x.run s).calls⟩ := rfl
  rw [ends]
  rcases x.run s with ⟨⟨e⟩ | ⟨a⟩, t, l⟩
  · cases h : handles e <;> simp [h, silent]
  · rfl

theorem calls_mapThrow {f : ε → ε'} {x : Eff ε κ σ α} {s : σ} :
    ((mapThrow f x).run s).calls = (x.run s).calls := by
  have ends : (mapThrow f x).run s = match (x.run s).result with
      | .ok a => ⟨.ok a, (x.run s).state, (x.run s).calls⟩
      | .error e => ⟨.error (f e), (x.run s).state, (x.run s).calls⟩ := rfl
  rw [ends]
  cases (x.run s).result <;> rfl

theorem calls_withLocal {a : α} {x : Eff ε κ (α × σ) Unit} {s : σ} :
    ((withLocal a x).run s).calls = (x.run (a, s)).calls := by
  have ends : (withLocal a x).run s = match (x.run (a, s)).result with
      | .ok _ => ⟨.ok (x.run (a, s)).state.1, (x.run (a, s)).state.2, (x.run (a, s)).calls⟩
      | .error e => ⟨.error e, (x.run (a, s)).state.2, (x.run (a, s)).calls⟩ := rfl
  rw [ends]
  cases (x.run (a, s)).result <;> rfl

theorem calls_forM_emit (l : List κ) (s : σ) :
    ((l.forM emit : Eff ε κ σ PUnit).run s).calls = l := by
  induction l with
  | nil => rfl
  | cons k l ih => exact congrArg (List.cons k) ih

/-! ## What rounds show -/

/-- What one call gives: the object afterwards as `view` shows it, or the exception. -/
def outcome (call : γ → Eff ε κ σ Unit) (view : σ → β) (c : γ) (s : σ) : Except ε β :=
  match ((call c).run s).result with
  | .ok _ => .ok (view (after (call c) s))
  | .error e => .error e

/-- What the calls of a run give, one after the other. -/
def outcomes (call : γ → Eff ε κ σ Unit) (view : σ → β) : List γ → σ → List (Except ε β)
  | [], _ => []
  | c :: l, s => outcome call view c s :: outcomes call view l (after (call c) s)

section Outcomes

variable {call : γ → Eff ε κ σ Unit} {view : σ → β}

theorem Returns.outcome_eq {c : γ} {s t : σ} (h : Returns (call c) s () t) :
    outcome call view c s = .ok (view t) := by
  rw [outcome, h.1, h.after_eq]

theorem Throws.outcome_eq {c : γ} {s t : σ} {e : ε} (h : Throws (call c) s e t) :
    outcome call view c s = .error e := by
  rw [outcome, h.1]

theorem outcomes_append (l l' : List γ) (s : σ) : outcomes call view (l ++ l') s =
    outcomes call view l s ++ outcomes call view l' (runs call l s) := by
  induction l generalizing s with
  | nil => rfl
  | cons c l ih => exact congrArg _ (ih (after (call c) s))

/-- A round shows what its call gives in the state after the rounds before it. -/
theorem outcomes_split (pre : List γ) (c : γ) (post : List γ) (s : σ) :
    outcomes call view (pre ++ c :: post) s =
      outcomes call view pre s ++ outcome call view c (runs call pre s) ::
        outcomes call view post (runs call (pre ++ [c]) s) := by
  rw [outcomes_append, runs_concat]
  rfl

/-- Every round shows what its call gives in some state that the rounds before it lead to. -/
theorem mem_outcomes {l : List γ} {s : σ} {o : Except ε β} (h : o ∈ outcomes call view l s) :
    ∃ pre c post, l = pre ++ c :: post ∧ o = outcome call view c (runs call pre s) := by
  induction l generalizing s with
  | nil => cases h
  | cons c l ih =>
    obtain rfl | later := List.mem_cons.mp h
    · exact ⟨[], c, l, rfl, rfl⟩
    · obtain ⟨pre, d, post, rfl, same⟩ := ih later
      exact ⟨c :: pre, d, post, rfl, same⟩

/-- When an invariant fixes what a call gives, no round depends on the rounds before it. -/
theorem outcomes_eq_map {I : σ → Prop} {give : γ → Except ε β} {l : List γ}
    (each : ∀ c ∈ l, ∀ s, I s → outcome call view c s = give c ∧ I (after (call c) s)) {s : σ}
    (h : I s) : outcomes call view l s = l.map give := by
  induction l generalizing s with
  | nil => rfl
  | cons c l ih =>
    obtain ⟨first, kept⟩ := each c (by simp) s h
    rw [outcomes, first, ih (fun d hd => each d (by simp [hd])) kept]
    rfl

end Outcomes

/-- An object that works as long as all its calls were clean. The first call that is not clean still
works, and every later one throws. -/
structure Latch (call : γ → Eff ε κ σ Unit) (view : σ → β) (inv works : σ → Prop)
    (clean : γ → Prop) (give : γ → β) (e : ε) : Prop where
  keeps : ∀ c s, inv s → inv (after (call c) s)
  gives : ∀ c s, inv s → works s → outcome call view c s = .ok (give c)
  clean_iff : ∀ c s, inv s → works s → (works (after (call c) s) ↔ clean c)
  fails : ∀ c s, inv s → ¬ works s → outcome call view c s = .error e
  stays : ∀ c s, inv s → ¬ works s → ¬ works (after (call c) s)

namespace Latch

variable {call : γ → Eff ε κ σ Unit} {view : σ → β} {inv works : σ → Prop} {clean : γ → Prop}
  {give : γ → β} {e : ε} {s : σ}

/-- A working object returns, and shows what the call gives. -/
theorem returns (h : Latch call view inv works clean give e) (c : γ) (inside : inv s)
    (working : works s) :
    Returns (call c) s () (after (call c) s) ∧ view (after (call c) s) = give c := by
  have shown := h.gives c s inside working
  obtain ⟨_, t, ends⟩ | ⟨e', t, ends⟩ := returns_or_throws (call c) s
  · rw [ends.outcome_eq] at shown
    rw [ends.after_eq]
    exact ⟨ends, Except.ok.inj shown⟩
  · rw [ends.outcome_eq] at shown
    cases shown

theorem throws (h : Latch call view inv works clean give e) (c : γ) (inside : inv s)
    (broken : ¬ works s) : Throws (call c) s e (after (call c) s) := by
  have shown := h.fails c s inside broken
  obtain ⟨_, t, ends⟩ | ⟨e', t, ends⟩ := returns_or_throws (call c) s
  · rw [ends.outcome_eq] at shown
    cases shown
  · rw [ends.outcome_eq] at shown
    obtain rfl := Except.error.inj shown
    rw [ends.after_eq]
    exact ends

/-- Only a working object returns. -/
theorem of_returns (h : Latch call view inv works clean give e) {c : γ} {t : σ} (inside : inv s)
    (ends : Returns (call c) s () t) : works s ∧ view t = give c ∧ (works t ↔ clean c) := by
  have working : works s := by
    by_contra broken
    exact ends.not_throws (h.throws c inside broken)
  have shown := (h.returns c inside working).2
  have still := h.clean_iff c s inside working
  rw [ends.after_eq] at shown still
  exact ⟨working, shown, still⟩

/-- A part of an object that is a latch makes the object one, when what else is shown stays. -/
theorem focus {β' : Type} {get : τ → σ} {put : τ → σ → τ} {view' : τ → β'}
    (h : Latch call view inv works clean give e) (frame : τ → Prop) (show' : β → β')
    (get_put : ∀ u t, get (put u t) = t) (framed : ∀ u t, frame u → frame (put u t))
    (shows : ∀ u, frame u → view' u = show' (view (get u))) :
    Latch (fun c => Eff.focus get put (call c)) view' (fun u => frame u ∧ inv (get u))
      (fun u => works (get u)) clean (fun c => show' (give c)) e where
  keeps c u inside := ⟨framed u _ inside.1, by
    rw [after, run_focus, get_put]
    exact h.keeps c _ inside.2⟩
  gives c u inside working := by
    obtain ⟨ends, gives⟩ := h.returns c inside.2 working
    have returned : Returns (Eff.focus get put (call c)) u () (put u (after (call c) (get u))) :=
      returns_focus.mpr ⟨_, ends, rfl⟩
    refine returned.outcome_eq.trans ?_
    rw [shows _ (framed u _ inside.1), get_put, gives]
  clean_iff c u inside working := by
    rw [after, run_focus, get_put]
    exact h.clean_iff c _ inside.2 working
  fails c u inside broken := by
    have thrown : Throws (Eff.focus get put (call c)) u e (put u (after (call c) (get u))) :=
      throws_focus.mpr ⟨_, h.throws c inside.2 broken, rfl⟩
    exact thrown.outcome_eq
  stays c u inside broken := by
    rw [after, run_focus, get_put]
    exact h.stays c _ inside.2 broken

/-- The rounds of a working object, while its calls are clean. -/
theorem outcomes_of_clean (h : Latch call view inv works clean give e) {l : List γ}
    (all : ∀ c ∈ l, clean c) (start : inv s ∧ works s) :
    outcomes call view l s = l.map (fun c => .ok (give c)) ∧
      inv (runs call l s) ∧ works (runs call l s) := by
  induction l generalizing s with
  | nil => exact ⟨rfl, start⟩
  | cons c l ih =>
    obtain ⟨inside, working⟩ := start
    have still := (h.clean_iff c s inside working).mpr (all c (by simp))
    obtain ⟨later, kept⟩ := ih (fun d hd => all d (by simp [hd])) ⟨h.keeps c s inside, still⟩
    rw [outcomes, h.gives c s inside working, later]
    exact ⟨rfl, kept⟩

/-- The rounds of an object that does not work any more. -/
theorem outcomes_of_broken (h : Latch call view inv works clean give e) (l : List γ)
    (start : inv s ∧ ¬ works s) :
    outcomes call view l s = List.replicate l.length (.error e) := by
  induction l generalizing s with
  | nil => rfl
  | cons c l ih =>
    obtain ⟨inside, broken⟩ := start
    rw [outcomes, h.fails c s inside broken, ih ⟨h.keeps c s inside, h.stays c s inside broken⟩]
    rfl

/-- The first call that is not clean is the last one that returns. -/
theorem outcomes_of_first (h : Latch call view inv works clean give e) {pre : List γ} {c : γ}
    (all : ∀ d ∈ pre, clean d) (unclean : ¬ clean c) (post : List γ) (start : inv s ∧ works s) :
    outcomes call view (pre ++ c :: post) s =
      (pre ++ [c]).map (fun d => .ok (give d)) ++ List.replicate post.length (.error e) := by
  obtain ⟨before, inside, working⟩ := h.outcomes_of_clean all start
  have broken : ¬ works (runs call (pre ++ [c]) s) := by
    rw [runs_concat, h.clean_iff c _ inside working]
    exact unclean
  have kept : inv (runs call (pre ++ [c]) s) := by
    rw [runs_concat]
    exact h.keeps c _ inside
  rw [outcomes_split, before, h.gives c _ inside working, h.outcomes_of_broken post ⟨kept, broken⟩]
  simp

end Latch

end Eff

end Cpp
