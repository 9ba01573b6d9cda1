import Detector.Library.Loop
import Detector.Library.Rounds

/-!
# Computations that agree

Two versions of a method may make different external calls and still do the same to the object and
end in the same way. `Agree x y s` says so of two computations that start in `s`. The rules follow
the statements, the loops and the runs of calls.
-/
namespace Cpp

namespace Eff

variable {ε κ σ τ α β γ : Type}

/-- From `s`, both computations end in the same way and leave the same state. -/
def Agree (x y : Eff ε κ σ α) (s : σ) : Prop :=
  (x.run s).result = (y.run s).result ∧ (x.run s).state = (y.run s).state

namespace Agree

variable {x y : Eff ε κ σ α} {s : σ}

protected theorem refl (x : Eff ε κ σ α) (s : σ) : Agree x x s := ⟨rfl, rfl⟩

theorem of_returns {t : σ} {a : α} (h : Returns x s a t) (h' : Returns y s a t) : Agree x y s :=
  ⟨h.1.trans h'.1.symm, h.2.trans h'.2.symm⟩

theorem bind {f g : α → Eff ε κ σ β} (first : Agree x y s)
    (rest : ∀ a t, Returns x s a t → Agree (f a) (g a) t) : Agree (x >>= f) (y >>= g) s := by
  obtain ⟨result, state⟩ := first
  unfold Agree
  rw [run_bind, run_bind]
  rcases hx : x.run s with ⟨⟨e⟩ | ⟨a⟩, t, l⟩
  · rcases hy : y.run s with ⟨r, u, m⟩
    rw [hx, hy] at result state
    obtain rfl : t = u := state
    obtain rfl : Except.error e = r := result
    exact ⟨rfl, rfl⟩
  · rcases hy : y.run s with ⟨r, u, m⟩
    have ends : Returns x s a t := ⟨by rw [hx], by rw [hx]⟩
    rw [hx, hy] at result state
    obtain rfl : t = u := state
    obtain rfl : Except.ok a = r := result
    exact rest a t ends

theorem focus {view : τ → σ} {put : τ → σ → τ} {s : τ} (h : Agree x y (view s)) :
    Agree (Eff.focus view put x) (Eff.focus view put y) s :=
  ⟨h.1, congrArg (put s) h.2⟩

/-- An object that passes its calls on to a part of another class. -/
theorem map {x' y' : Eff ε κ τ α} {t : τ} (f : σ → τ) (h : Agree x y s)
    (left : x'.run t = (x.run s).map f) (right : y'.run t = (y.run s).map f) : Agree x' y' t := by
  unfold Agree
  rw [left, right]
  exact ⟨h.1, congrArg f h.2⟩

/-- Loops whose visits agree, whatever was visited before. -/
theorem visit {body body' : ℕ → Eff ε κ (σ × τ) Unit} {xs : List σ} {t : τ}
    (each : ∀ i a, xs[i]? = some a → ∀ u, Agree (body i) (body' i) (a, u)) :
    Agree (Eff.visit body) (Eff.visit body') (xs, t) := by
  have loop : ∀ (k : ℕ) (xs : List σ) (t : τ),
      (∀ i a, xs[i]? = some a → ∀ u, Agree (body (k + i)) (body' (k + i)) (a, u)) →
      (visitFrom body k xs t).result = (visitFrom body' k xs t).result ∧
        (visitFrom body k xs t).state = (visitFrom body' k xs t).state := by
    intro k xs
    induction xs generalizing k with
    | nil => exact fun _ _ => ⟨rfl, rfl⟩
    | cons a xs ih =>
      intro t each
      obtain ⟨result, state⟩ := each 0 a rfl t
      have rest : ∀ i b, xs[i]? = some b → ∀ u,
          Agree (body (k + 1 + i)) (body' (k + 1 + i)) (b, u) := fun i b hb u => by
        have later := each (i + 1) b (by simpa using hb) u
        rwa [← Nat.add_assoc, Nat.add_right_comm] at later
      rw [Nat.add_zero] at result state
      rcases hx : (body k).run (a, t) with ⟨⟨e⟩ | ⟨⟨⟩⟩, ⟨a', u⟩, l⟩
      all_goals
        rcases hy : (body' k).run (a, t) with ⟨r, ⟨a'', u'⟩, l'⟩
        rw [hx, hy] at result state
        obtain ⟨rfl, rfl⟩ := Prod.mk.inj state
        obtain rfl := result
        simp only [visitFrom, hx, hy]
      · trivial
      · obtain ⟨result, state⟩ := ih (k + 1) u rest
        exact ⟨result, by rw [state]⟩
  have agree := loop 0 xs t fun i a ha u => by simpa using each i a ha u
  simpa [Agree] using agree

theorem onNth {i : ℕ} {x y : Eff ε κ σ Unit} {l : List σ} (h : ∀ a ∈ l[i]?, Agree x y a) :
    Agree (Eff.onNth i x) (Eff.onNth i y) l := by
  cases ha : l[i]? with
  | none =>
    unfold Agree
    rw [run_onNth_none ha, run_onNth_none ha]
    exact ⟨rfl, rfl⟩
  | some a =>
    obtain ⟨result, state⟩ := h a ha
    unfold Agree
    rw [run_onNth_some ha, run_onNth_some ha]
    exact ⟨result, by rw [state]⟩

/-- Runs of calls that agree in all states that are reached. -/
theorem runs {call call' : γ → Eff ε κ σ Unit} {view : σ → β} {I : σ → Prop} {l : List γ}
    (keeps : ∀ c ∈ l, ∀ s, I s → I (after (call c) s))
    (each : ∀ c ∈ l, ∀ s, I s → Agree (call c) (call' c) s) {s : σ} (start : I s) :
    Eff.runs call l s = Eff.runs call' l s ∧
      outcomes call view l s = outcomes call' view l s := by
  induction l generalizing s with
  | nil => exact ⟨rfl, rfl⟩
  | cons c l ih =>
    obtain ⟨result, state⟩ := each c (by simp) s start
    have next : after (call c) s = after (call' c) s := state
    have shown : outcome call view c s = outcome call' view c s := by
      rw [outcome, outcome, result, next]
    obtain ⟨states, rest⟩ := ih (fun d hd => keeps d (by simp [hd]))
      (fun d hd => each d (by simp [hd])) (keeps c (by simp) s start)
    rw [outcomes, outcomes, shown, rest, next]
    refine ⟨?_, rfl⟩
    change Eff.runs call l (after (call c) s) = Eff.runs call' l (after (call' c) s)
    rw [states, next]

end Agree

end Eff

end Cpp
