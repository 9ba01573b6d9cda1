import Mathlib.Data.List.Induction
import Detector.Library.Effect

/-!
# Runs of calls

A client calls the member functions of an object one after the other and goes on when one of
them throws. `runs` is the state after such a list of calls; what a run preserves follows from
what one call preserves, by one of the three rules below: an invariant, an invariant that may
mention the calls made so far, and a relation between two runs of the same commands.
-/
namespace Cpp

namespace Eff

variable {ε κ σ τ γ : Type}

/-- The state after one call, however it ended. -/
def after (x : Eff ε κ σ Unit) (s : σ) : σ := (x.run s).state

/-- The state after a list of calls, whose exceptions were caught. -/
def runs (call : γ → Eff ε κ σ Unit) (l : List γ) (s : σ) : σ :=
  l.foldl (fun s c => after (call c) s) s

/-- The external calls made during a list of calls. -/
def traces (call : γ → Eff ε κ σ Unit) : List γ → σ → List κ
  | [], _ => []
  | c :: l, s => ((call c).run s).calls ++ traces call l (after (call c) s)

variable {call : γ → Eff ε κ σ Unit}

theorem Returns.after_eq {x : Eff ε κ σ Unit} {s t : σ} (h : Returns x s () t) :
    after x s = t := h.2

theorem Throws.after_eq {x : Eff ε κ σ Unit} {s t : σ} {e : ε} (h : Throws x s e t) :
    after x s = t := h.2

@[simp] theorem runs_nil (s : σ) : runs call [] s = s := rfl

@[simp] theorem runs_concat (l : List γ) (c : γ) (s : σ) :
    runs call (l ++ [c]) s = after (call c) (runs call l s) := by
  simp [runs]

/-- An external call during a run is made by one of the calls, in the state that the calls before
it left. -/
theorem mem_traces {l : List γ} {s : σ} {k : κ} (h : k ∈ traces call l s) :
    ∃ pre c post, l = pre ++ c :: post ∧ k ∈ ((call c).run (runs call pre s)).calls := by
  induction l generalizing s with
  | nil => simp [traces] at h
  | cons c l ih =>
    obtain first | later := List.mem_append.mp h
    · exact ⟨[], c, l, rfl, first⟩
    · obtain ⟨pre, d, post, rfl, made⟩ := ih later
      exact ⟨c :: pre, d, post, rfl, made⟩

/-- An invariant that may mention the calls made so far. -/
theorem runs_history {P : List γ → σ → Prop} {s : σ} (nil : P [] s) (l : List γ)
    (step : ∀ pre c t, c ∈ l → P pre t → P (pre ++ [c]) (after (call c) t)) :
    P l (runs call l s) := by
  induction l using List.reverseRecOn with
  | nil => exact nil
  | append_singleton pre c ih =>
    rw [runs_concat]
    refine step pre c _ (by simp) (ih fun pre' c' t hc => ?_)
    exact step pre' c' t (by simp [hc])

/-- What every call preserves, a run preserves. -/
theorem runs_invariant {P : σ → Prop} {s : σ} (h : P s) (l : List γ)
    (step : ∀ c t, c ∈ l → P t → P (after (call c) t)) : P (runs call l s) :=
  runs_history (P := fun _ => P) h l fun _ => step

/-- Two objects that are driven by the same commands stay related. -/
theorem runs_related {call' : γ → Eff ε κ τ Unit} {R : σ → τ → Prop} {s : σ} {t : τ}
    (h : R s t) (l : List γ)
    (step : ∀ c u v, c ∈ l → R u v → R (after (call c) u) (after (call' c) v)) :
    R (runs call l s) (runs call' l t) := by
  induction l using List.reverseRecOn with
  | nil => exact h
  | append_singleton pre c ih =>
    rw [runs_concat, runs_concat]
    refine step c _ _ (by simp) (ih fun c' u v hc => ?_)
    exact step c' u v (by simp [hc])

end Eff

end Cpp
