import Mathlib.Data.List.Forall2
import Mathlib.Data.List.ReduceOption
import Detector.Library.Effect

/-!
# Loops that collect what their iterations return

`collect` appends the value of each iteration to a list. What every iteration establishes
between its element and its value, the loop establishes between the two lists. An iteration that
may have nothing to append returns an optional value, and the values that are there are kept in
their order.

`collectWhile` is the loop whose variable is counted on while a test holds. Whether it ends
depends on the test alone, so it takes a number of iterations after which the model gives up.
-/
namespace Cpp

/-- Related lists of optional values have related lists of values. -/
theorem forall₂_reduceOption {α β : Type} {R : α → β → Prop} {as : List (Option α)}
    {bs : List (Option β)} (h : List.Forall₂ (Option.Rel R) as bs) :
    List.Forall₂ R as.reduceOption bs.reduceOption := by
  induction h with
  | nil => exact .nil
  | @cons a b as bs first _ ih =>
    cases first with
    | none => simpa using ih
    | some related => simpa using ⟨related, ih⟩

/-- Keeping what passes a test, one element at a time. -/
theorem reduceOption_map_guard {α : Type} (p : α → Bool) (l : List α) :
    (l.map (Option.guard p)).reduceOption = l.filter p := by
  rw [List.reduceOption, List.filterMap_map]
  exact congrFun List.filterMap_eq_filter l

theorem map_eq_map_of_forall₂ {α β γ : Type} {f : α → γ} {g : β → γ} {as : List α} {bs : List β}
    (h : List.Forall₂ (fun a b => f a = g b) as bs) : as.map f = bs.map g := by
  induction h with
  | nil => rfl
  | cons first _ ih => rw [List.map_cons, List.map_cons, first, ih]

/-- A relation that is decided by its first argument, at each pair. -/
theorem forall₂_iff_of_forall₂ {α β : Type} {R : α → β → Prop} {P : α → Prop} {as : List α}
    {bs : List β} (h : List.Forall₂ (fun a b => R a b ↔ P a) as bs) :
    List.Forall₂ R as bs ↔ ∀ a ∈ as, P a := by
  induction h with
  | nil => simp
  | cons first _ ih => rw [List.forall₂_cons, List.forall_mem_cons, first, ih]

namespace Eff

variable {ε κ σ α β : Type} {f : α → Eff ε κ σ β} {l : List α}

/-- What each iteration relates, the loop relates. -/
theorem forall₂_of_collect {R : α → β → Prop} {s t : σ} {bs : List β}
    (each : ∀ a ∈ l, ∀ u b v, Returns (f a) u b v → R a b)
    (h : Returns (collect f l) s bs t) : List.Forall₂ R l bs := by
  induction l generalizing s bs with
  | nil =>
    obtain ⟨rfl, -⟩ := returns_collect_nil.mp h
    exact .nil
  | cons a l ih =>
    obtain ⟨b, u, bs', first, rest, rfl⟩ := returns_collect_cons.mp h
    have later := ih (fun a' ha' => each a' (List.mem_cons_of_mem a ha')) rest
    exact .cons (each a List.mem_cons_self s b u first) later

/-- What every iteration makes, every entry of the result is. -/
theorem forall_of_collect {P : β → Prop} {s t : σ} {bs : List β}
    (each : ∀ a ∈ l, ∀ u b v, Returns (f a) u b v → P b)
    (h : Returns (collect f l) s bs t) : ∀ b ∈ bs, P b := by
  intro b hb
  have made : List.Forall₂ (fun (_ : α) b => P b) l bs := forall₂_of_collect each h
  obtain ⟨i, hi, rfl⟩ := List.getElem_of_mem hb
  exact made.get (made.length_eq ▸ hi) hi

theorem collect_map {γ : Type} (g : γ → α) (l : List γ) :
    collect f (l.map g) = collect (fun c => f (g c)) l := by
  induction l with
  | nil => rfl
  | cons c l ih => simp only [List.map_cons, collect, ih]

/-- A loop whose iterations return, whatever the state, returns. -/
theorem exists_collect (each : ∀ a ∈ l, ∀ s, ∃ b t, Returns (f a) s b t) (s : σ) :
    ∃ bs t, Returns (collect f l) s bs t := by
  induction l generalizing s with
  | nil => exact ⟨[], s, returns_collect_nil.mpr ⟨rfl, rfl⟩⟩
  | cons a l ih =>
    obtain ⟨b, t, first⟩ := each a List.mem_cons_self s
    obtain ⟨bs, u, rest⟩ := ih (fun a' ha' => each a' (List.mem_cons_of_mem a ha')) t
    exact ⟨b :: bs, u, returns_collect_cons.mpr ⟨b, t, bs, first, rest, rfl⟩⟩

/-- A loop whose iterations return or throw `e` returns or throws `e`. -/
theorem collect_or_throws {e : ε}
    (each : ∀ a ∈ l, ∀ s, (∃ b t, Returns (f a) s b t) ∨ ∃ t, Throws (f a) s e t) (s : σ) :
    (∃ bs t, Returns (collect f l) s bs t) ∨ ∃ t, Throws (collect f l) s e t := by
  induction l generalizing s with
  | nil => exact .inl ⟨[], s, returns_collect_nil.mpr ⟨rfl, rfl⟩⟩
  | cons a l ih =>
    obtain ⟨b, t, first⟩ | ⟨t, thrown⟩ := each a List.mem_cons_self s
    · obtain ⟨bs, u, rest⟩ | ⟨u, later⟩ := ih (fun a' ha' => each a' (List.mem_cons_of_mem a ha')) t
      · exact .inl ⟨b :: bs, u, returns_collect_cons.mpr ⟨b, t, bs, first, rest, rfl⟩⟩
      · exact .inr ⟨u, first.throws_then.mpr (throws_bind.mpr (.inl later))⟩
    · exact .inr ⟨t, throws_bind.mpr (.inl thrown)⟩

/-! ## Counting on while a test holds -/

/-- `for (a = first; test(a); a = next(a)) v.push_back(f(a));`, given up with `e` when `fuel`
tests were not enough. -/
def collectWhile (e : ε) (test : α → Bool) (next : α → α) (f : α → Eff ε κ σ β) :
    ℕ → α → Eff ε κ σ (List β)
  | 0, _ => throw e
  | fuel + 1, a =>
    if test a then do
      let b ← f a
      let bs ← collectWhile e test next f fuel (next a)
      return b :: bs
    else return []

/-- From `a` on, the loop variable takes these values, and then the test fails. -/
inductive Visits (test : α → Bool) (next : α → α) : α → List α → Prop where
  | stop {a : α} : test a = false → Visits test next a []
  | step {a : α} {l : List α} : test a = true → Visits test next (next a) l →
    Visits test next a (a :: l)

variable {e : ε} {test : α → Bool} {next : α → α} {a : α}

/-- A loop that ends is a loop over the values of its variable. -/
theorem collectWhile_eq_collect (h : Visits test next a l) {fuel : ℕ} (enough : l.length < fuel) :
    collectWhile e test next f fuel a = collect f l := by
  induction h generalizing fuel with
  | stop failed =>
    obtain ⟨n, rfl⟩ := Nat.exists_eq_succ_of_ne_zero (Nat.ne_of_gt enough)
    simp [collectWhile, collect, failed]
  | step passed _ ih =>
    obtain ⟨n, rfl⟩ := Nat.exists_eq_succ_of_ne_zero (Nat.ne_of_gt (Nat.zero_lt_of_lt enough))
    have fewer := Nat.lt_of_succ_lt_succ enough
    simp only [collectWhile, collect, passed, if_true, ih fewer]

/-- A loop whose iterations return comes to its end or is given up. -/
theorem collectWhile_or_throws (each : ∀ a, test a = true → ∀ s, ∃ b t, Returns (f a) s b t)
    (fuel : ℕ) (a : α) (s : σ) :
    (∃ bs t, Returns (collectWhile e test next f fuel a) s bs t) ∨
      ∃ t, Throws (collectWhile e test next f fuel a) s e t := by
  induction fuel generalizing a s with
  | zero => exact .inr ⟨s, rfl, rfl⟩
  | succ fuel ih =>
    cases h : test a with
    | false =>
      have stops : collectWhile e test next f (fuel + 1) a = (pure [] : Eff ε κ σ (List β)) := by
        simp [collectWhile, h]
      rw [stops]
      exact .inl ⟨[], s, rfl, rfl⟩
    | true =>
      obtain ⟨b, t, first⟩ := each a h s
      simp only [collectWhile, h, if_true]
      obtain ⟨bs, u, rest⟩ | ⟨u, thrown⟩ := ih (next a) t
      · exact .inl ⟨b :: bs, u, first.returns_then.mpr (rest.returns_then.mpr ⟨rfl, rfl⟩)⟩
      · exact .inr ⟨u, first.throws_then.mpr (throws_bind.mpr (.inl thrown))⟩

/-- What every iteration makes, every entry of the result is. -/
theorem forall_of_collectWhile {P : β → Prop} {fuel : ℕ} {s t : σ} {bs : List β}
    (each : ∀ a u b v, Returns (f a) u b v → P b)
    (h : Returns (collectWhile e test next f fuel a) s bs t) : ∀ b ∈ bs, P b := by
  induction fuel generalizing a s t bs with
  | zero => exact absurd (⟨rfl, rfl⟩ : Throws (throw e) s e s) h.not_throws
  | succ fuel ih =>
    cases passed : test a with
    | false =>
      simp only [collectWhile, passed, Bool.false_eq_true, if_false] at h
      obtain ⟨rfl, -⟩ := returns_pure.mp h
      simp
    | true =>
      simp only [collectWhile, passed, if_true] at h
      obtain ⟨b, u, first, rest⟩ := returns_bind.mp h
      obtain ⟨bs', v, later, made⟩ := returns_bind.mp rest
      obtain ⟨rfl, -⟩ := returns_pure.mp made
      exact List.forall_mem_cons.mpr ⟨each a s b u first, ih later⟩

/-- A loop whose test never fails does not come to an end, however much fuel there is. -/
theorem not_returns_collectWhile (always : ∀ a, test a = true) (fuel : ℕ) {a : α} {s t : σ}
    {bs : List β} : ¬ Returns (collectWhile e test next f fuel a) s bs t := by
  induction fuel generalizing a s t bs with
  | zero => exact fun h => h.not_throws (⟨rfl, rfl⟩ : Throws (throw e) s e s)
  | succ fuel ih =>
    intro h
    simp only [collectWhile, always, if_true] at h
    obtain ⟨b, u, -, rest⟩ := returns_bind.mp h
    obtain ⟨bs', v, later, -⟩ := returns_bind.mp rest
    exact ih later

end Eff

end Cpp
