import Mathlib.Data.List.Forall2
import Detector.Library.Loop
import Detector.Library.Rounds

/-!
# A client that goes through objects which can break

In each round a client calls a list of objects one after the other and shows each of them; the first
one that throws ends the round. When a broken object stays broken, the objects behind it are never
called again. All that the client has to remember is how many objects it still shows.

## Main definitions

* `Eff.showing` — call an object and show it.
* `Eff.Lineup` — the first objects work, and the next one is broken.
* `Eff.unbroken` — how many objects are shown after some rounds.

## Main results

* `Eff.Lineup.visitFrom` — what a round shows, how it ends, and what it leaves.
-/
namespace Cpp

namespace Eff

variable {ε κ σ τ α β γ : Type}

/-- Call the object, and show it when the call returned. -/
def showing (put : τ → σ → τ) (x : Eff ε κ σ Unit) : Eff ε κ (σ × τ) Unit := do
  onItem x
  modify fun s => (s.1, put s.2 s.1)

theorem returns_showing {put : τ → σ → τ} {x : Eff ε κ σ Unit} {s s' : σ} {t : τ}
    (h : Returns x s () s') : Returns (showing put x) (s, t) () (s', put t s') := by
  refine returns_bind.mpr ⟨(), (s', t), ?_, returns_modify.mpr rfl⟩
  exact returns_focus.mpr ⟨s', h, rfl⟩

theorem throws_showing {put : τ → σ → τ} {x : Eff ε κ σ Unit} {s s' : σ} {t : τ} {e : ε}
    (h : Throws x s e s') : Throws (showing put x) (s, t) e (s', t) :=
  throws_bind.mpr (.inl (throws_focus.mpr ⟨s', h, rfl⟩))

/-- How many of the first `k` objects are still shown after a round: those before the first call that
is not clean. -/
def remaining (clean : α → γ → Prop) [∀ a c, Decidable (clean a c)] (entries : List α)
    (c : ℕ → γ) (k : ℕ) : ℕ :=
  ((entries.take k).mapIdx fun i a => decide (clean a (c i))).findIdx (!·)

/-- How many objects are shown in the round after some rounds: those before the first one with a call
that was not clean. -/
def unbroken (clean : α → γ → Prop) [∀ a c, Decidable (clean a c)] (entries : List α)
    (pre : List (ℕ → γ)) : ℕ :=
  (entries.mapIdx fun i a => decide (∀ c ∈ pre, clean a (c i))).findIdx (!·)

/-- What is shown of the first `k` objects. -/
def shown (give : α → γ → β) (entries : List α) (c : ℕ → γ) (k : ℕ) : List β :=
  (entries.take k).mapIdx fun i a => give a (c i)

/-- An object for each entry: the first `k` of them work, and the next one, if there is one, is
broken. -/
inductive Lineup (inv : α → σ → Prop) (works : σ → Prop) : List α → ℕ → List σ → Prop where
  | nil : Lineup inv works [] 0 []
  | broken {a : α} {x : σ} {entries : List α} {objects : List σ} (head : inv a x)
      (bad : ¬ works x) (rest : List.Forall₂ inv entries objects) :
      Lineup inv works (a :: entries) 0 (x :: objects)
  | cons {a : α} {x : σ} {entries : List α} {objects : List σ} {k : ℕ} (head : inv a x)
      (good : works x) (rest : Lineup inv works entries k objects) :
      Lineup inv works (a :: entries) (k + 1) (x :: objects)

section Remaining

variable {clean : α → γ → Prop} [∀ a c, Decidable (clean a c)] {a : α} {entries : List α}
  {c : ℕ → γ} {k : ℕ}

theorem remaining_cons_of_clean (h : clean a (c 0)) : remaining clean (a :: entries) c (k + 1) =
    remaining clean entries (fun i => c (i + 1)) k + 1 := by
  simp [remaining, List.findIdx_cons, h]

theorem remaining_cons_of_not (h : ¬ clean a (c 0)) :
    remaining clean (a :: entries) c (k + 1) = 0 := by
  simp [remaining, List.findIdx_cons, h]

theorem unbroken_nil : unbroken clean entries [] = entries.length := by
  induction entries with
  | nil => rfl
  | cons a entries ih =>
    rw [unbroken] at ih ⊢
    simp_all [List.findIdx_cons]

theorem unbroken_cons_of_clean {pre : List (ℕ → γ)} (h : ∀ c ∈ pre, clean a (c 0)) :
    unbroken clean (a :: entries) pre =
      unbroken clean entries (pre.map fun c i => c (i + 1)) + 1 := by
  simp only [unbroken, List.mapIdx_cons, List.findIdx_cons, decide_eq_true h, List.forall_mem_map]
  rfl

theorem unbroken_cons_of_not {pre : List (ℕ → γ)} (h : ¬ ∀ c ∈ pre, clean a (c 0)) :
    unbroken clean (a :: entries) pre = 0 := by
  simp only [unbroken, List.mapIdx_cons, List.findIdx_cons, h, decide_false]
  rfl

/-- One more round leaves the objects that were shown and read well in it. -/
theorem remaining_unbroken (pre : List (ℕ → γ)) (c : ℕ → γ) :
    remaining clean entries c (unbroken clean entries pre) = unbroken clean entries (pre ++ [c]) := by
  induction entries generalizing pre c with
  | nil => rfl
  | cons a entries ih =>
    by_cases before : ∀ c ∈ pre, clean a (c 0)
    · rw [unbroken_cons_of_clean before]
      by_cases now : clean a (c 0)
      · have all : ∀ d ∈ pre ++ [c], clean a (d 0) := by
          simpa [or_imp, forall_and] using ⟨before, now⟩
        rw [remaining_cons_of_clean now, unbroken_cons_of_clean all, ih, List.map_append]
        rfl
      · rw [remaining_cons_of_not now, unbroken_cons_of_not fun all => now (all c (by simp))]
    · rw [unbroken_cons_of_not before,
        unbroken_cons_of_not fun all => before fun d hd => all d (by simp [hd])]
      rfl

end Remaining

namespace Lineup

variable {call : γ → Eff ε κ σ Unit} {view : σ → β} {inv : α → σ → Prop} {works : σ → Prop}
  {clean : α → γ → Prop} [∀ a c, Decidable (clean a c)] {give : α → γ → β} {e : ε}
  {entries : List α} {k : ℕ} {objects : List σ}

theorem forall₂ (h : Lineup inv works entries k objects) : List.Forall₂ inv entries objects := by
  induction h with
  | nil => exact .nil
  | broken head _ rest => exact .cons head rest
  | cons head _ _ ih => exact .cons head ih

/-- While all objects work, all are shown. -/
theorem of_all (h : List.Forall₂ (fun a x => inv a x ∧ works x) entries objects) :
    Lineup inv works entries entries.length objects := by
  induction h with
  | nil => exact .nil
  | cons head _ ih => exact .cons head.1 head.2 ih

/-- A round shows the working objects, ends with the exception when there is a broken one, and leaves
those that were read well. -/
theorem visitFrom (latch : ∀ a, Latch call view (inv a) works (clean a) (give a) e)
    (put : τ → σ → τ) (h : Lineup inv works entries k objects) (c : ℕ → γ) (i : ℕ) (t : τ) :
    ∃ objects', Lineup inv works entries (remaining clean entries (fun j => c (i + j)) k) objects' ∧
      (objects'.take k).map view = shown give entries (fun j => c (i + j)) k ∧
      (Eff.visitFrom (fun i => showing put (call (c i))) i objects t).result =
        (if k = entries.length then .ok () else .error e) ∧
      (Eff.visitFrom (fun i => showing put (call (c i))) i objects t).state =
        (objects', (objects'.take k).foldl put t) := by
  induction h generalizing i t with
  | nil => exact ⟨[], .nil, rfl, rfl, rfl⟩
  | @broken a x entries objects head bad rest =>
    have thrown : Throws (showing put (call (c i))) (x, t) e (after (call (c i)) x, t) :=
      throws_showing ((latch a).throws (c i) head bad)
    refine ⟨_ :: objects, .broken ((latch a).keeps (c i) x head) ((latch a).stays (c i) x head bad)
      rest, rfl, ?_, ?_⟩
    · simp [Eff.visitFrom, thrown.1]
    · simp [Eff.visitFrom, thrown.1, thrown.2]
  | @cons a x entries objects k head good rest ih =>
    obtain ⟨ends, gives⟩ := (latch a).returns (c i) head good
    have first : Returns (showing put (call (c i))) (x, t) () _ := returns_showing ends
    have kept := (latch a).keeps (c i) x head
    obtain ⟨objects', lineup, views, result, state⟩ :=
      ih (i + 1) (put t (after (call (c i)) x))
    have shift : (fun j => c (i + 1 + j)) = fun j => c (i + (j + 1)) := by
      funext j
      rw [Nat.add_assoc, Nat.add_comm 1]
    rw [shift] at lineup views
    refine ⟨after (call (c i)) x :: objects', ?_, ?_, ?_, ?_⟩
    · by_cases well : clean a (c i)
      · rw [remaining_cons_of_clean (by simpa using well)]
        exact .cons kept (((latch a).clean_iff (c i) x head good).mpr well) lineup
      · rw [remaining_cons_of_not (by simpa using well)]
        exact .broken kept (fun works => well (((latch a).clean_iff (c i) x head good).mp works))
          lineup.forall₂
    · rw [List.take_succ_cons, List.map_cons, gives, views]
      simp [shown]
    · simp only [Eff.visitFrom, first.1, first.2, result]
      simp
    · simp only [Eff.visitFrom, first.1, first.2, state]
      simp

end Lineup

end Eff

end Cpp
