import Mathlib.Data.List.Forall2
import Detector.Library.Effect

/-!
# Runs that end alike

What a constructor builds may mention the state it was started in, such as the number of a handle,
and still be the same in all that matters. `Alike R x y` says so of two computations: whatever
states they start in, both return and `R` relates the values, or both throw the same exception.
The rules follow the computations statement by statement.
-/
namespace Cpp

namespace Eff

variable {ε κ σ τ α β α' β' : Type}

/-- From any two states, both computations return related values or throw the same exception. -/
def Alike (R : α → β → Prop) (x : Eff ε κ σ α) (y : Eff ε κ τ β) : Prop :=
  ∀ s t, (∃ a s' b t', Returns x s a s' ∧ Returns y t b t' ∧ R a b) ∨
    ∃ e s' t', Throws x s e s' ∧ Throws y t e t'

namespace Alike

variable {R : α → β → Prop} {S : α' → β' → Prop} {x : Eff ε κ σ α} {y : Eff ε κ τ β}

protected theorem pure {a : α} {b : β} (h : R a b) :
    Alike R (pure a : Eff ε κ σ α) (pure b : Eff ε κ τ β) :=
  fun s t => .inl ⟨a, s, b, t, ⟨rfl, rfl⟩, ⟨rfl, rfl⟩, h⟩

theorem throw (e : ε) : Alike R (Eff.throw e : Eff ε κ σ α) (Eff.throw e : Eff ε κ τ β) :=
  fun s t => .inr ⟨e, s, t, ⟨rfl, rfl⟩, ⟨rfl, rfl⟩⟩

theorem bind {f : α → Eff ε κ σ α'} {g : β → Eff ε κ τ β'} (first : Alike R x y)
    (rest : ∀ a b, R a b → Alike S (f a) (g b)) : Alike S (x >>= f) (y >>= g) := by
  intro s t
  obtain ⟨a, s', b, t', left, right, related⟩ | ⟨e, s', t', left, right⟩ := first s t
  · obtain ⟨a', s'', b', t'', left', right', related'⟩ | ⟨e, s'', t'', left', right'⟩ :=
      rest a b related s' t'
    · exact .inl ⟨a', s'', b', t'', returns_bind.mpr ⟨a, s', left, left'⟩,
        returns_bind.mpr ⟨b, t', right, right'⟩, related'⟩
    · exact .inr ⟨e, s'', t'', throws_bind.mpr (.inr ⟨a, s', left, left'⟩),
        throws_bind.mpr (.inr ⟨b, t', right, right'⟩)⟩
  · exact .inr ⟨e, s', t', throws_bind.mpr (.inl left), throws_bind.mpr (.inl right)⟩

/-- Calls may differ in the handles that they name. -/
theorem emit_then {k k' : κ} {f : Unit → Eff ε κ σ α'} {g : Unit → Eff ε κ τ β'}
    (rest : Alike S (f ()) (g ())) : Alike S (emit k >>= f) (emit k' >>= g) := by
  intro s t
  obtain ⟨a, s', b, t', left, right, related⟩ | ⟨e, s', t', left, right⟩ := rest s t
  · exact .inl ⟨a, s', b, t', returns_bind.mpr ⟨(), s, returns_emit.mpr rfl, left⟩,
      returns_bind.mpr ⟨(), t, returns_emit.mpr rfl, right⟩, related⟩
  · exact .inr ⟨e, s', t', throws_bind.mpr (.inr ⟨(), s, returns_emit.mpr rfl, left⟩),
      throws_bind.mpr (.inr ⟨(), t, returns_emit.mpr rfl, right⟩)⟩

theorem ensure_then {p q : Bool} {e : ε} {f : Unit → Eff ε κ σ α'} {g : Unit → Eff ε κ τ β'}
    (same : p = q) (rest : Alike S (f ()) (g ())) :
    Alike S (ensure p e >>= f) (ensure q e >>= g) := by
  subst same
  cases p with
  | false => exact (throw e : Alike (fun _ _ => True) _ _).bind fun _ _ _ => rest
  | true => exact rest

theorem require {a : Option α} {e : ε} :
    Alike Eq (Eff.require a e : Eff ε κ σ α) (Eff.require a e : Eff ε κ τ α) := by
  cases a with
  | none => exact throw e
  | some a => exact .pure rfl

/-- Loops over the same list. -/
theorem collect {γ : Type} {f : γ → Eff ε κ σ α} {g : γ → Eff ε κ τ β} (l : List γ)
    (each : ∀ c ∈ l, Alike R (f c) (g c)) :
    Alike (List.Forall₂ R) (Eff.collect f l) (Eff.collect g l) := by
  induction l with
  | nil => exact .pure .nil
  | cons c l ih =>
    refine (each c List.mem_cons_self).bind fun a b related => ?_
    refine (ih fun d hd => each d (List.mem_cons_of_mem c hd)).bind fun as bs later => ?_
    exact .pure (.cons related later)

/-- A run that returns makes the other one return too. -/
theorem of_returns (h : Alike R x y) {s s' : σ} {a : α} (ends : Returns x s a s') (t : τ) :
    ∃ b t', Returns y t b t' ∧ R a b := by
  obtain ⟨a', u, b, t', left, right, related⟩ | ⟨e, u, t', left, -⟩ := h s t
  · obtain ⟨rfl, -⟩ := ends.unique left
    exact ⟨b, t', right, related⟩
  · exact absurd left ends.not_throws

theorem of_throws (h : Alike R x y) {s s' : σ} {e : ε} (ends : Throws x s e s') (t : τ) :
    ∃ t', Throws y t e t' := by
  obtain ⟨a, u, b, t', left, -, -⟩ | ⟨e', u, t', left, right⟩ := h s t
  · exact absurd ends left.not_throws
  · have same : e' = e := Except.error.inj (left.1.symm.trans ends.1)
    exact ⟨t', same ▸ right⟩

end Alike

end Eff

end Cpp
