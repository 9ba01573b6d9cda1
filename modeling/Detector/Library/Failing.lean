import Detector.Library.Rounds

/-!
# Failures that can be told beforehand

Whether a constructor throws depends on the answers that it gets, and not on the state that it
starts in. `FailsWith x failure` says so of a computation, and names the exception. The rules
follow the computations statement by statement: what is done first fails first, a loop fails
with the first of its iterations that fails, and a handler lets the other exceptions pass.
-/
namespace Cpp

namespace Eff

variable {ε ε' κ σ τ α β γ : Type}

/-- From every state, the computation throws the failure, or returns when there is none. -/
def FailsWith (x : Eff ε κ σ α) (failure : Option ε) : Prop :=
  ∀ s, match failure with
    | some e => ∃ t, Throws x s e t
    | none => ∃ a t, Returns x s a t

namespace FailsWith

variable {x : Eff ε κ σ α} {f : α → Eff ε κ σ β} {failure rest : Option ε} {e : ε}

theorem throws_iff (h : FailsWith x failure) (s : σ) : (∃ t, Throws x s e t) ↔ failure = some e := by
  have ends := h s
  cases failure with
  | none =>
    obtain ⟨a, t, returned⟩ := ends
    exact iff_of_false (fun ⟨_, thrown⟩ => returned.not_throws thrown) (by simp)
  | some e' =>
    obtain ⟨t, thrown⟩ := ends
    constructor
    · rintro ⟨_, thrown'⟩
      exact congrArg some (Except.error.inj (thrown.1.symm.trans thrown'.1))
    · intro same
      exact ⟨t, Option.some.inj same ▸ thrown⟩

theorem returns_iff (h : FailsWith x failure) (s : σ) :
    (∃ a t, Returns x s a t) ↔ failure = none := by
  have ends := h s
  cases failure with
  | none => exact iff_of_true ends rfl
  | some e =>
    obtain ⟨t, thrown⟩ := ends
    exact iff_of_false (fun ⟨_, _, returned⟩ => returned.not_throws thrown) (by simp)

/-! ## Statements -/

protected theorem pure (a : α) : FailsWith (pure a : Eff ε κ σ α) none := fun s =>
  ⟨a, s, rfl, rfl⟩

protected theorem throw (e : ε) : FailsWith (Eff.throw e : Eff ε κ σ α) (some e) := fun s =>
  ⟨s, rfl, rfl⟩

theorem bind (first : FailsWith x failure)
    (second : ∀ a s t, Returns x s a t → FailsWith (f a) rest) :
    FailsWith (x >>= f) (failure.or rest) := by
  intro s
  have ends := first s
  cases failure with
  | some e =>
    obtain ⟨t, thrown⟩ := ends
    exact ⟨t, throws_bind.mpr (.inl thrown)⟩
  | none =>
    obtain ⟨a, t, returned⟩ := ends
    have later := second a s t returned t
    cases rest with
    | some e =>
      obtain ⟨u, thrown⟩ := later
      exact ⟨u, returned.throws_then.mpr thrown⟩
    | none =>
      obtain ⟨b, u, ends⟩ := later
      exact ⟨b, u, returned.returns_then.mpr ends⟩

/-- What only computes a value behind a computation does not fail. -/
theorem value {g : α → Eff ε κ σ β} (h : FailsWith x failure) (last : ∀ a, FailsWith (g a) none) :
    FailsWith (x >>= g) failure := by
  rw [← Option.or_none (o := failure)]
  exact h.bind fun a _ _ _ => last a

/-- Behind what does not fail, the rest decides. -/
theorem then_rest (first : FailsWith x none) (second : ∀ a, FailsWith (f a) rest) :
    FailsWith (x >>= f) rest := by
  rw [← Option.none_or (o := rest)]
  exact first.bind fun a _ _ _ => second a

theorem emit_then {k : κ} {f : Unit → Eff ε κ σ β} (second : FailsWith (f ()) rest) :
    FailsWith (emit k >>= f) rest := by
  have first : FailsWith (emit k : Eff ε κ σ Unit) none := fun s => ⟨(), s, rfl, rfl⟩
  exact first.then_rest fun _ => second

theorem ensure_then {b : Bool} {f : Unit → Eff ε κ σ β} (second : FailsWith (f ()) rest) :
    FailsWith (ensure b e >>= f) (if b then rest else some e) := by
  cases b with
  | true => exact second
  | false => exact fun s => ⟨s, rfl, rfl⟩

/-- A handler lets the exceptions pass that it does not name. -/
theorem attempt {handles : ε → Bool} (h : FailsWith x failure) :
    FailsWith (Eff.attempt handles x) (failure.filter fun e => !handles e) := by
  intro s
  have ends := h s
  cases failure with
  | none =>
    obtain ⟨a, t, returned⟩ := ends
    exact ⟨some a, t, returns_attempt.mpr (.inl ⟨a, rfl, returned⟩)⟩
  | some e =>
    obtain ⟨t, thrown⟩ := ends
    cases caught : handles e with
    | true =>
      simp only [Option.filter, caught, Bool.not_true, Bool.false_eq_true, if_false]
      exact ⟨none, t, returns_attempt.mpr (.inr ⟨e, rfl, caught, thrown⟩)⟩
    | false =>
      simp only [Option.filter, caught, Bool.not_false, if_true]
      refine ⟨t, ?_⟩
      simp [Throws, run_attempt, thrown.1, thrown.2, caught]

/-- A handler that names all exceptions decides alone. -/
theorem rescue {handler : ε → Eff ε κ σ α} (handled : ∀ e, FailsWith (handler e) none) :
    FailsWith (Eff.rescue (fun _ => true) handler x) none := by
  intro s
  obtain ⟨a, t, returned⟩ | ⟨e, t, thrown⟩ := returns_or_throws x s
  · exact ⟨a, t, rescue_of_returns returned⟩
  · obtain ⟨a, u, ends⟩ := handled e t
    exact ⟨a, u, rescue_of_throws thrown rfl ends⟩

theorem mapThrow {g : ε → ε'} (h : FailsWith x failure) :
    FailsWith (Eff.mapThrow g x) (failure.map g) := by
  intro s
  have ends := h s
  cases failure with
  | none =>
    obtain ⟨a, t, returned⟩ := ends
    exact ⟨a, t, returns_mapThrow.mpr returned⟩
  | some e =>
    obtain ⟨t, thrown⟩ := ends
    exact ⟨t, throws_mapThrow.mpr ⟨e, thrown, rfl⟩⟩

theorem focus {view : τ → σ} {put : τ → σ → τ} (h : FailsWith x failure) :
    FailsWith (Eff.focus view put x) failure := by
  intro s
  have ends := h (view s)
  cases failure with
  | none =>
    obtain ⟨a, t, returned⟩ := ends
    exact ⟨a, _, returns_focus.mpr ⟨t, returned, rfl⟩⟩
  | some e =>
    obtain ⟨t, thrown⟩ := ends
    exact ⟨_, throws_focus.mpr ⟨t, thrown, rfl⟩⟩

theorem withLocal {x : Eff ε κ (α × σ) Unit} (a : α) (h : FailsWith x none) :
    FailsWith (Eff.withLocal a x) none := by
  intro s
  obtain ⟨_, ⟨b, t⟩, returned⟩ := h (a, s)
  exact ⟨b, t, withLocal_of_returns returned⟩

theorem modify {g : σ → σ} : FailsWith (Eff.modify g : Eff ε κ σ Unit) none := fun s =>
  ⟨(), g s, rfl, rfl⟩

theorem forM {f : γ → Eff ε κ σ Unit} {l : List γ} (each : ∀ c ∈ l, FailsWith (f c) none) :
    FailsWith (l.forM f : Eff ε κ σ PUnit) none := by
  induction l with
  | nil => exact .pure ()
  | cons c l ih =>
    have first := each c List.mem_cons_self
    exact first.value fun _ => ih fun d hd => each d (List.mem_cons_of_mem c hd)

/-- A loop fails with the first of its iterations that fails. -/
theorem collect {f : γ → Eff ε κ σ β} {failure : γ → Option ε} {l : List γ}
    (each : ∀ c ∈ l, FailsWith (f c) (failure c)) :
    FailsWith (Eff.collect f l) (l.findSome? failure) := by
  induction l with
  | nil => exact .pure []
  | cons c l ih =>
    have later := ih fun d hd => each d (List.mem_cons_of_mem c hd)
    have both := (each c List.mem_cons_self).bind fun b _ _ _ => later.value fun bs => .pure (b :: bs)
    have split : (c :: l).findSome? failure = (failure c).or (l.findSome? failure) := by
      rw [List.findSome?_cons]
      cases failure c <;> rfl
    rw [split]
    exact both

end FailsWith

end Eff

end Cpp
