import Detector.Library.Loop
import Detector.Library.Run

/-!
# Positions in a list of owned objects

A list of objects is changed in place, so its objects keep their positions. `Pointwise R l l'`
says what happened at each of them; the loops and the calls on one object preserve such a
relation when every single call does.
-/
namespace Cpp

/-- At each position the objects are related. -/
structure Pointwise {σ : Type} (R : ℕ → σ → σ → Prop) (l l' : List σ) : Prop where
  length_eq : l'.length = l.length
  at_index : ∀ i x x', l[i]? = some x → l'[i]? = some x' → R i x x'

namespace Pointwise

variable {ε κ σ τ : Type} {R : ℕ → σ → σ → Prop} {l l' : List σ}

theorem of_refl (refl : ∀ i x, R i x x) (l : List σ) : Pointwise R l l := by
  refine ⟨rfl, fun i x x' hx hx' => ?_⟩
  obtain rfl : x = x' := Option.some.inj (hx.symm.trans hx')
  exact refl i x

theorem imp {S : ℕ → σ → σ → Prop} (h : Pointwise R l l')
    (step : ∀ i x x', R i x x' → S i x x') : Pointwise S l l' :=
  ⟨h.length_eq, fun i x x' hx hx' => step i x x' (h.at_index i x x' hx hx')⟩

/-- What is known of the objects of the first list may be used at each position. -/
theorem with_source {P : σ → Prop} (h : Pointwise R l l') (all : ∀ x ∈ l, P x) :
    Pointwise (fun i x x' => P x ∧ R i x x') l l' :=
  ⟨h.length_eq, fun i x x' hx hx' => ⟨all x (List.mem_of_getElem? hx), h.at_index i x x' hx hx'⟩⟩

/-- Every object of the second list comes from one of the first. -/
theorem source (h : Pointwise R l l') {i : ℕ} {x' : σ} (hx' : l'[i]? = some x') :
    ∃ x, l[i]? = some x ∧ R i x x' := by
  obtain ⟨hi, -⟩ := List.getElem?_eq_some_iff.mp hx'
  have hx := List.getElem?_eq_getElem (h.length_eq ▸ hi)
  exact ⟨_, hx, h.at_index i _ _ hx hx'⟩

/-- Every object of the first list is still there in the second. -/
theorem target (h : Pointwise R l l') {i : ℕ} {x : σ} (hx : l[i]? = some x) :
    ∃ x', l'[i]? = some x' ∧ R i x x' := by
  obtain ⟨hi, -⟩ := List.getElem?_eq_some_iff.mp hx
  have hx' := List.getElem?_eq_getElem (h.length_eq.symm ▸ hi)
  exact ⟨_, hx', h.at_index i _ _ hx hx'⟩

/-- A position at which nothing changes. -/
theorem getElem?_eq (h : Pointwise R l l') {i : ℕ} (same : ∀ x x', R i x x' → x' = x) :
    l'[i]? = l[i]? := by
  cases hx : l[i]? with
  | none =>
    have outside : l'.length ≤ i := h.length_eq ▸ List.getElem?_eq_none_iff.mp hx
    exact List.getElem?_eq_none_iff.mpr outside
  | some x =>
    obtain ⟨x', hx', related⟩ := h.target hx
    rw [hx', same x x' related]

/-- What is carried over at each position is carried over. -/
theorem forall_mem {P Q : σ → Prop} (h : Pointwise (fun _ x x' => P x → Q x') l l')
    (all : ∀ x ∈ l, P x) : ∀ x ∈ l', Q x := by
  intro x' hx'
  obtain ⟨i, hi⟩ := List.mem_iff_getElem?.mp hx'
  obtain ⟨x, hx, step⟩ := h.source hi
  exact step (all x (List.mem_of_getElem? hx))

/-- What an object keeps, some object keeps. -/
theorem exists_mem {P Q : σ → Prop} (h : Pointwise (fun _ x x' => P x → Q x') l l')
    (some_one : ∃ x ∈ l, P x) : ∃ x ∈ l', Q x := by
  obtain ⟨x, hx, holds⟩ := some_one
  obtain ⟨i, hi⟩ := List.mem_iff_getElem?.mp hx
  obtain ⟨x', hx', step⟩ := h.target hi
  exact ⟨x', List.mem_of_getElem? hx', step holds⟩

theorem trans {S T : ℕ → σ → σ → Prop} {l'' : List σ} (h : Pointwise R l l')
    (h' : Pointwise S l' l'') (step : ∀ i x y z, R i x y → S i y z → T i x z) :
    Pointwise T l l'' := by
  refine ⟨h'.length_eq.trans h.length_eq, fun i x z hx hz => ?_⟩
  obtain ⟨y, hy, first⟩ := h.target hx
  exact step i x y z first (h'.at_index i y z hy hz)

theorem mapIdx {S : ℕ → σ → σ → Prop} {f g : ℕ → σ → σ} (h : Pointwise R l l')
    (step : ∀ i x x', R i x x' → l[i]? = some x → l'[i]? = some x' → S i (f i x) (g i x')) :
    Pointwise S (l.mapIdx f) (l'.mapIdx g) := by
  refine ⟨by simp [h.length_eq], fun i y y' hy hy' => ?_⟩
  rw [List.getElem?_mapIdx] at hy hy'
  obtain ⟨x, hx, rfl⟩ := Option.map_eq_some_iff.mp hy
  obtain ⟨x', hx', rfl⟩ := Option.map_eq_some_iff.mp hy'
  exact step i x x' (h.at_index i x x' hx hx') hx hx'

theorem map_eq {α : Type} {f g : σ → α} (h : Pointwise R l l')
    (same : ∀ i x x', R i x x' → f x = g x') : l.map f = l'.map g := by
  refine List.ext_getElem (by simp [h.length_eq]) fun i hi hi' => ?_
  rw [List.getElem_map, List.getElem_map]
  rw [List.length_map] at hi hi'
  exact same i _ _ (h.at_index i _ _ (List.getElem?_eq_getElem hi) (List.getElem?_eq_getElem hi'))

theorem mapIdx_eq {α : Type} {f g : ℕ → σ → α} (h : Pointwise R l l')
    (same : ∀ i x x', R i x x' → f i x = g i x') : l.mapIdx f = l'.mapIdx g := by
  refine List.ext_getElem (by simp [h.length_eq]) fun i hi hi' => ?_
  rw [List.getElem_mapIdx, List.getElem_mapIdx]
  rw [List.length_mapIdx] at hi hi'
  exact same i _ _ (h.at_index i _ _ (List.getElem?_eq_getElem hi) (List.getElem?_eq_getElem hi'))

/-- The objects at their positions in the first list, as the objects of the second. -/
theorem mapIdx_eq_map {α : Type} {f : ℕ → σ → α} {g : σ → α} (h : Pointwise R l l')
    (same : ∀ i x x', R i x x' → f i x = g x') : l.mapIdx f = l'.map g := by
  rw [h.mapIdx_eq (g := fun _ => g) same, List.mapIdx_eq_zipIdx_map]
  exact (List.map_map (f := Prod.fst) (g := g)).symm.trans (by rw [List.zipIdx_map_fst])

/-- What is found first in both lists is the same when it is at each position. -/
theorem findSome?_eq {α : Type} {f g : σ × ℕ → Option α} (h : Pointwise R l l')
    (same : ∀ i x x', R i x x' → f (x, i) = g (x', i)) :
    l.zipIdx.findSome? f = l'.zipIdx.findSome? g := by
  have numbered : l.zipIdx.map f = l'.zipIdx.map g := by
    have each := h.mapIdx_eq (f := fun i x => f (x, i)) (g := fun i x => g (x, i)) same
    simpa [List.mapIdx_eq_zipIdx_map] using each
  have found : ∀ {l : List σ} {f : σ × ℕ → Option α},
      l.zipIdx.findSome? f = (l.zipIdx.map f).findSome? id := by
    intro l f
    rw [List.findSome?_map, Function.id_comp]
  rw [found, numbered, ← found]

/-- A condition on every object of the second list, as one on the objects of the first. -/
theorem forall_iff {P Q : ℕ → σ → Prop} (h : Pointwise R l l')
    (same : ∀ i x x', R i x x' → (P i x ↔ Q i x')) :
    (∀ i x, l[i]? = some x → P i x) ↔ ∀ i x, l'[i]? = some x → Q i x := by
  constructor
  · intro all i x' hx'
    obtain ⟨x, hx, related⟩ := h.source hx'
    exact (same i x x' related).mp (all i x hx)
  · intro all i x hx
    obtain ⟨x', hx', related⟩ := h.target hx
    exact (same i x x' related).mpr (all i x' hx')

/-- The same, for a condition that does not mention the position. -/
theorem forall_mem_iff {P : ℕ → σ → Prop} {Q : σ → Prop} (h : Pointwise R l l')
    (same : ∀ i x x', R i x x' → (P i x ↔ Q x')) :
    (∀ x ∈ l', Q x) ↔ ∀ i x, l[i]? = some x → P i x := by
  rw [h.forall_iff (Q := fun _ => Q) same]
  constructor
  · exact fun all i x hx => all x (List.mem_of_getElem? hx)
  · intro all x hx
    obtain ⟨i, hi⟩ := List.mem_iff_getElem?.mp hx
    exact all i x hi

/-- The objects with their positions, pair by pair. -/
theorem forall₂_zipIdx (h : Pointwise R l l') :
    List.Forall₂ (fun a b => b.2 = a.2 ∧ R a.2 a.1 b.1) l.zipIdx l'.zipIdx := by
  refine List.forall₂_iff_get.mpr ⟨by simp [h.length_eq], fun i hi hi' => ?_⟩
  rw [List.length_zipIdx] at hi hi'
  have related := h.at_index i _ _ (List.getElem?_eq_getElem hi) (List.getElem?_eq_getElem hi')
  simpa using related

/-- What the objects stand for is kept when each change keeps it. -/
theorem forall₂ {α : Type} {Q : α → σ → Prop} {as : List α} (h : Pointwise R l l')
    (stands : List.Forall₂ Q as l) (step : ∀ i a x x', R i x x' → Q a x → Q a x') :
    List.Forall₂ Q as l' := by
  refine List.forall₂_iff_get.mpr ⟨by rw [stands.length_eq, h.length_eq], fun i hi hi' => ?_⟩
  have here : i < l.length := h.length_eq ▸ hi'
  have related := h.at_index i _ _ (List.getElem?_eq_getElem here) (List.getElem?_eq_getElem hi')
  exact step i _ _ _ related (stands.get hi here)

theorem cons {x x' : σ} (head : R 0 x x') (tail : Pointwise (fun i => R (i + 1)) l l') :
    Pointwise R (x :: l) (x' :: l') := by
  refine ⟨by simp [tail.length_eq], fun i y y' hy hy' => ?_⟩
  cases i with
  | zero =>
    obtain rfl : x = y := by simpa using hy
    obtain rfl : x' = y' := by simpa using hy'
    exact head
  | succ i => exact tail.at_index i y y' (by simpa using hy) (by simpa using hy')

/-- The loop visits the objects one after the other; a throw leaves the later ones as they
were. -/
theorem visitFrom (body : ℕ → Eff ε κ (σ × τ) Unit) (refl : ∀ i x, R i x x) (k : ℕ)
    (step : ∀ i x t, R i x ((body (k + i)).run (x, t)).state.1) (xs : List σ) (t : τ) :
    Pointwise R xs (Eff.visitFrom body k xs t).state.1 := by
  induction xs generalizing k t R with
  | nil => exact of_refl refl []
  | cons x xs ih =>
    have first := step 0 x t
    have later := ih (R := fun i => R (i + 1)) (fun i => refl (i + 1)) (k + 1) fun i x t => by
      have next := step (i + 1) x t
      rwa [← Nat.add_assoc, Nat.add_right_comm] at next
    rcases hx : (body k).run (x, t) with ⟨⟨e⟩ | ⟨⟨⟩⟩, ⟨x', u⟩, l⟩
    · rw [Nat.add_zero, hx] at first
      simp only [Eff.visitFrom, hx]
      exact cons first (of_refl (fun i => refl (i + 1)) xs)
    · rw [Nat.add_zero, hx] at first
      simp only [Eff.visitFrom, hx]
      exact cons first (later u)

theorem visit (body : ℕ → Eff ε κ (σ × τ) Unit) (refl : ∀ i x, R i x x)
    (step : ∀ i x t, R i x ((body i).run (x, t)).state.1) (s : List σ × τ) :
    Pointwise R s.1 ((Eff.visit body).run s).state.1 := by
  rw [Eff.run_visit]
  exact visitFrom body refl 0 (fun i x t => by simpa using step i x t) s.1 s.2

/-- When each visit fails or not whatever was visited before, the loop changes the objects that it
gets to and no others. -/
theorem of_reached {body : ℕ → Eff ε κ (σ × τ) Unit} {fail : ℕ → σ → Option ε} {next : ℕ → σ → σ}
    {xs : List σ} (each : ∀ x ∈ xs, ∀ i t, ((body i).run (x, t)).result = Eff.ending (fail i x) ∧
      ((body i).run (x, t)).state.1 = next i x) (i : ℕ) (t : τ) :
    Pointwise (fun j x x' => x' =
      if i + j ∈ (Eff.reached (fun x => fail x.2 x.1) (xs.zipIdx i)).map Prod.snd
      then next (i + j) x else x) xs (Eff.visitFrom body i xs t).state.1 := by
  induction xs generalizing i t with
  | nil => exact ⟨rfl, by simp⟩
  | cons x xs ih =>
    obtain ⟨ends, state⟩ := each x (by simp) i t
    have rest := ih (fun y hy => each y (by simp [hy])) (i + 1)
    have shift : ∀ j, i + (j + 1) = i + 1 + j := fun j => by omega
    rw [List.zipIdx_cons, Eff.reached]
    rcases hx : (body i).run (x, t) with ⟨⟨e⟩ | ⟨⟨⟩⟩, ⟨x', u⟩, l⟩
    · rw [hx] at ends state
      cases failed : fail i x with
      | none => simp [failed, Eff.ending] at ends
      | some e' =>
        simp only [Eff.visitFrom, hx]
        refine cons (by simpa using state) ⟨rfl, fun j y y' hy hy' => ?_⟩
        have same : y = y' := Option.some.inj (hy.symm.trans hy')
        simp [same]
    · rw [hx] at ends state
      cases failed : fail i x with
      | some e' => simp [failed, Eff.ending] at ends
      | none =>
        simp only [Eff.visitFrom, hx]
        refine cons (by simpa using state) ((rest u).imp fun j y y' changed => ?_)
        have apart : i + 1 + j ≠ i := by omega
        rw [changed, shift j]
        simp only [Option.isSome_none, Bool.false_eq_true, if_false, List.map_cons, List.mem_cons,
          apart, false_or]

theorem onNth {i : ℕ} {x : Eff ε κ σ Unit} (refl : ∀ j y, R j y y)
    (step : ∀ y, R i y (x.run y).state) (l : List σ) :
    Pointwise R l ((Eff.onNth i x).run l).state := by
  cases hy : l[i]? with
  | none =>
    rw [Eff.run_onNth_none hy]
    exact of_refl refl l
  | some y =>
    rw [Eff.run_onNth_some hy]
    refine ⟨by simp, fun j z z' hz hz' => ?_⟩
    by_cases hij : i = j
    · subst hij
      obtain rfl : y = z := Option.some.inj (hy.symm.trans hz)
      obtain ⟨-, rfl⟩ : _ ∧ (x.run y).state = z' := by simpa [List.getElem?_set] using hz'
      exact step y
    · obtain rfl : z = z' := by
        rw [List.getElem?_set_ne hij, hz] at hz'
        exact Option.some.inj hz'
      exact refl j z

/-- A call on one object changes this object and no other. -/
theorem onNth_state (i : ℕ) (x : Eff ε κ σ Unit) (l : List σ) :
    Pointwise (fun j y y' => y' = if j = i then (x.run y).state else y) l
      ((Eff.onNth i x).run l).state := by
  cases hy : l[i]? with
  | none =>
    rw [Eff.run_onNth_none hy]
    refine ⟨rfl, fun j z z' hz hz' => ?_⟩
    have apart : j ≠ i := by
      rintro rfl
      rw [hy] at hz
      cases hz
    rw [if_neg apart]
    exact Option.some.inj (hz'.symm.trans hz)
  | some y =>
    rw [Eff.run_onNth_some hy]
    refine ⟨by simp, fun j z z' hz hz' => ?_⟩
    by_cases hj : j = i
    · subst hj
      obtain rfl : y = z := Option.some.inj (hy.symm.trans hz)
      obtain ⟨-, rfl⟩ : _ ∧ (x.run y).state = z' := by simpa [List.getElem?_set] using hz'
      rw [if_pos rfl]
    · rw [List.getElem?_set_ne (Ne.symm hj)] at hz'
      rw [if_neg hj]
      exact Option.some.inj (hz'.symm.trans hz)

/-- A call on one object that returned has changed this object and no other. -/
theorem of_onNth {i : ℕ} {x : Eff ε κ σ Unit} (h : Eff.Returns (Eff.onNth i x) l () l') :
    Pointwise (fun j y y' => if j = i then Eff.Returns x y () y' else y' = y) l l' := by
  obtain ⟨result, rfl⟩ := h
  cases hy : l[i]? with
  | none =>
    rw [Eff.run_onNth_none hy]
    refine ⟨rfl, fun j z z' hz hz' => ?_⟩
    have apart : j ≠ i := by
      rintro rfl
      rw [hy] at hz
      cases hz
    rw [if_neg apart]
    exact Option.some.inj (hz'.symm.trans hz)
  | some y =>
    rw [Eff.run_onNth_some hy] at result ⊢
    refine ⟨by simp, fun j z z' hz hz' => ?_⟩
    by_cases hj : j = i
    · subst hj
      obtain rfl : y = z := Option.some.inj (hy.symm.trans hz)
      obtain ⟨-, rfl⟩ : _ ∧ (x.run y).state = z' := by simpa [List.getElem?_set] using hz'
      rw [if_pos rfl]
      exact ⟨result, rfl⟩
    · rw [List.getElem?_set_ne (Ne.symm hj)] at hz'
      rw [if_neg hj]
      exact Option.some.inj (hz'.symm.trans hz)

/-- When every call returned, every object was changed by its call. -/
theorem of_each {f : ℕ → Eff ε κ σ Unit} {k : ℕ} {xs xs' : List σ}
    (h : Eff.Each f k xs xs') (step : ∀ i x x', Eff.Returns (f (k + i)) x () x' → R i x x') :
    Pointwise R xs xs' := by
  induction h generalizing R with
  | nil => exact ⟨rfl, by simp⟩
  | @cons k x x' xs xs' first _ ih =>
    refine cons (step 0 x x' first) (ih fun i y y' hy => step (i + 1) y y' ?_)
    rwa [← Nat.add_assoc, Nat.add_right_comm]

/-- Two lists of related objects on which the same calls return, pair by pair. -/
theorem each {S : ℕ → σ → σ → Prop} {f : ℕ → Eff ε κ σ Unit} (h : Pointwise R l l')
    (step : ∀ i x x', R i x x' → l[i]? = some x → l'[i]? = some x' →
      ∃ y y', Eff.Returns (f i) x () y ∧ Eff.Returns (f i) x' () y' ∧ S i y y') :
    ∃ m m', Eff.Each f 0 l m ∧ Eff.Each f 0 l' m' ∧ Pointwise S m m' := by
  refine ⟨_, _, Eff.Each.mapIdx (g := fun i => Eff.after (f i)) fun i x hx => ?_,
    Eff.Each.mapIdx (g := fun i => Eff.after (f i)) fun i x' hx' => ?_,
    h.mapIdx fun i x x' related hx hx' => ?_⟩
  · obtain ⟨x', hx', related⟩ := h.target hx
    obtain ⟨y, y', ends, -⟩ := step i x x' related hx hx'
    exact ⟨ends.1, rfl⟩
  · obtain ⟨x, hx, related⟩ := h.source hx'
    obtain ⟨y, y', -, ends, -⟩ := step i x x' related hx hx'
    exact ⟨ends.1, rfl⟩
  · obtain ⟨y, y', ends, ends', result⟩ := step i x x' related hx hx'
    rwa [ends.after_eq, ends'.after_eq]

end Pointwise

end Cpp
