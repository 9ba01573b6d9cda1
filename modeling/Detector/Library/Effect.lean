import Mathlib.Data.List.Basic
import Mathlib.Logic.Function.Basic

/-!
# Computations that keep their state when they throw

A C++ member function that throws leaves behind whatever it wrote before the throw. `Eff`
models that: a computation ends with a value or an exception, and in both cases with a state
and with the external calls it made, oldest first. Nothing rolls a state back.

`Returns` and `Throws` describe one run. Their rules for sequencing are equivalences, so a
long straight-line function is taken apart by rewriting instead of by unfolding. `focus`
runs a computation on one part of a larger state, `attempt` catches exceptions, and `collect`
is the loop that builds a list and stops at the first throw.
-/
namespace Cpp

/-- How one run ended, the state it left, and the calls it made. -/
structure Outcome (ε κ σ α : Type) where
  result : Except ε α
  state : σ
  calls : List κ

/-- The same outcome with another state. -/
def Outcome.map {ε κ σ τ α : Type} (f : σ → τ) (o : Outcome ε κ σ α) : Outcome ε κ τ α :=
  ⟨o.result, f o.state, o.calls⟩

theorem Outcome.result_map {ε κ σ τ α : Type} (f : σ → τ) (o : Outcome ε κ σ α) :
    (o.map f).result = o.result := rfl

/-- A computation over states `σ` that may throw `ε` and makes calls of type `κ`. -/
def Eff (ε κ σ α : Type) := σ → Outcome ε κ σ α

namespace Eff

variable {ε κ σ τ α β : Type}

def run (x : Eff ε κ σ α) (s : σ) : Outcome ε κ σ α := x s

/-- Run `f` on the value of an outcome; a throw is passed on. -/
def andThen (o : Outcome ε κ σ α) (f : α → Eff ε κ σ β) : Outcome ε κ σ β :=
  match o.result with
  | .error e => ⟨.error e, o.state, o.calls⟩
  | .ok a =>
    let p := (f a).run o.state
    ⟨p.result, p.state, o.calls ++ p.calls⟩

instance : Monad (Eff ε κ σ) where
  pure a := fun s => ⟨.ok a, s, []⟩
  bind x f := fun s => andThen (x.run s) f

def throw (e : ε) : Eff ε κ σ α := fun s => ⟨.error e, s, []⟩
def get : Eff ε κ σ σ := fun s => ⟨.ok s, s, []⟩
def modify (f : σ → σ) : Eff ε κ σ Unit := fun s => ⟨.ok (), f s, []⟩

/-- Make one external call. -/
def emit (k : κ) : Eff ε κ σ Unit := fun s => ⟨.ok (), s, [k]⟩

/-- Throw `e` unless the test succeeds. -/
def ensure (b : Bool) (e : ε) : Eff ε κ σ Unit := if b then pure () else throw e

/-- Take the value of an optional answer, or throw `e` when there is none. -/
def require (a : Option α) (e : ε) : Eff ε κ σ α :=
  match a with
  | some a => pure a
  | none => throw e

/-- `try { x } catch`, for the exceptions that the handler names: `none` when one was caught. -/
def attempt (handles : ε → Bool) (x : Eff ε κ σ α) : Eff ε κ σ (Option α) := fun s =>
  let o := x.run s
  match o.result with
  | .ok a => ⟨.ok (some a), o.state, o.calls⟩
  | .error e => if handles e then ⟨.ok none, o.state, o.calls⟩ else ⟨.error e, o.state, o.calls⟩

/-- `for (a : l) v.push_back(f(a));` -/
def collect (f : α → Eff ε κ σ β) : List α → Eff ε κ σ (List β)
  | [] => pure []
  | a :: l => do
    let b ← f a
    let bs ← collect f l
    return b :: bs

/-- Run a computation on the part of the state that `view` reads and `put` writes back. -/
def focus (view : τ → σ) (put : τ → σ → τ) (x : Eff ε κ σ α) : Eff ε κ τ α := fun s =>
  let o := x.run (view s)
  ⟨o.result, put s o.state, o.calls⟩

/-- The same computation for callers that know other exceptions. -/
def mapThrow {ε' : Type} (f : ε → ε') (x : Eff ε κ σ α) : Eff ε' κ σ α := fun s =>
  let o := x.run s
  match o.result with
  | .ok a => ⟨.ok a, o.state, o.calls⟩
  | .error e => ⟨.error (f e), o.state, o.calls⟩

/-! ## Running the primitives -/

@[simp] theorem run_pure (a : α) (s : σ) :
    (pure a : Eff ε κ σ α).run s = ⟨.ok a, s, []⟩ := rfl

@[simp] theorem run_bind (x : Eff ε κ σ α) (f : α → Eff ε κ σ β) (s : σ) :
    (x >>= f).run s = andThen (x.run s) f := rfl

@[simp] theorem run_throw (e : ε) (s : σ) :
    (throw e : Eff ε κ σ α).run s = ⟨.error e, s, []⟩ := rfl

@[simp] theorem run_get (s : σ) : (get : Eff ε κ σ σ).run s = ⟨.ok s, s, []⟩ := rfl

@[simp] theorem run_modify (f : σ → σ) (s : σ) :
    (modify f : Eff ε κ σ Unit).run s = ⟨.ok (), f s, []⟩ := rfl

@[simp] theorem run_emit (k : κ) (s : σ) :
    (emit k : Eff ε κ σ Unit).run s = ⟨.ok (), s, [k]⟩ := rfl

@[simp] theorem run_ensure_true (e : ε) (s : σ) :
    (ensure true e : Eff ε κ σ Unit).run s = ⟨.ok (), s, []⟩ := rfl

@[simp] theorem run_ensure_false (e : ε) (s : σ) :
    (ensure false e : Eff ε κ σ Unit).run s = ⟨.error e, s, []⟩ := rfl

@[simp] theorem run_require_some (a : α) (e : ε) (s : σ) :
    (require (some a) e : Eff ε κ σ α).run s = ⟨.ok a, s, []⟩ := rfl

@[simp] theorem run_require_none (e : ε) (s : σ) :
    (require none e : Eff ε κ σ α).run s = ⟨.error e, s, []⟩ := rfl

@[simp] theorem run_focus (view : τ → σ) (put : τ → σ → τ) (x : Eff ε κ σ α) (s : τ) :
    (focus view put x).run s =
      ⟨(x.run (view s)).result, put s (x.run (view s)).state, (x.run (view s)).calls⟩ := rfl

theorem run_attempt (handles : ε → Bool) (x : Eff ε κ σ α) (s : σ) :
    (attempt handles x).run s = match (x.run s).result with
      | .ok a => ⟨.ok (some a), (x.run s).state, (x.run s).calls⟩
      | .error e => if handles e then ⟨.ok none, (x.run s).state, (x.run s).calls⟩
          else ⟨.error e, (x.run s).state, (x.run s).calls⟩ := rfl

/-- Catching an exception takes no call back. -/
@[simp] theorem calls_attempt (handles : ε → Bool) (x : Eff ε κ σ α) (s : σ) :
    ((attempt handles x).run s).calls = (x.run s).calls := by
  rw [run_attempt]
  rcases x.run s with ⟨⟨e⟩ | ⟨a⟩, t, l⟩
  · cases h : handles e <;> simp [h]
  · rfl

@[simp] theorem andThen_ok (a : α) (s : σ) (l : List κ) (f : α → Eff ε κ σ β) :
    andThen ⟨.ok a, s, l⟩ f =
      ⟨((f a).run s).result, ((f a).run s).state, l ++ ((f a).run s).calls⟩ := rfl

@[simp] theorem andThen_error (e : ε) (s : σ) (l : List κ) (f : α → Eff ε κ σ β) :
    andThen (⟨.error e, s, l⟩ : Outcome ε κ σ α) f = ⟨.error e, s, l⟩ := rfl

/-! ## How a run ends -/

/-- From `s` the computation ends normally with value `a` in state `t`. -/
def Returns (x : Eff ε κ σ α) (s : σ) (a : α) (t : σ) : Prop :=
  (x.run s).result = .ok a ∧ (x.run s).state = t

/-- From `s` the computation throws `e`, leaving state `t` behind. -/
def Throws (x : Eff ε κ σ α) (s : σ) (e : ε) (t : σ) : Prop :=
  (x.run s).result = .error e ∧ (x.run s).state = t

/-- Every run ends in exactly one of the two ways. -/
theorem returns_or_throws (x : Eff ε κ σ α) (s : σ) :
    (∃ a t, Returns x s a t) ∨ ∃ e t, Throws x s e t := by
  cases h : (x.run s).result with
  | ok a => exact .inl ⟨a, _, h, rfl⟩
  | error e => exact .inr ⟨e, _, h, rfl⟩

theorem Returns.not_throws {x : Eff ε κ σ α} {s t u : σ} {a : α} {e : ε}
    (h : Returns x s a t) : ¬ Throws x s e u := by
  intro g
  simpa [h.1] using g.1

theorem Returns.unique {x : Eff ε κ σ α} {s t u : σ} {a b : α}
    (h : Returns x s a t) (g : Returns x s b u) : a = b ∧ t = u :=
  ⟨Except.ok.inj (h.1.symm.trans g.1), h.2.symm.trans g.2⟩

theorem returns_bind {x : Eff ε κ σ α} {f : α → Eff ε κ σ β} {s u : σ} {b : β} :
    Returns (x >>= f) s b u ↔ ∃ a t, Returns x s a t ∧ Returns (f a) t b u := by
  unfold Returns
  rw [run_bind]
  rcases h : x.run s with ⟨⟨e⟩ | ⟨a⟩, t, l⟩
  · simp
  · simp

theorem throws_bind {x : Eff ε κ σ α} {f : α → Eff ε κ σ β} {s u : σ} {e : ε} :
    Throws (x >>= f) s e u ↔
      Throws x s e u ∨ ∃ a t, Returns x s a t ∧ Throws (f a) t e u := by
  unfold Throws Returns
  rw [run_bind]
  rcases h : x.run s with ⟨⟨e⟩ | ⟨a⟩, t, l⟩
  · simp
  · simp

/-- The calls of what follows come behind those of a computation that returns. -/
theorem Returns.calls_then {x : Eff ε κ σ α} {f : α → Eff ε κ σ β} {s t : σ} {a : α}
    (h : Returns x s a t) :
    ((x >>= f).run s).calls = (x.run s).calls ++ ((f a).run t).calls := by
  obtain ⟨result, state⟩ := h
  rw [run_bind, andThen, result, state]

/-- Behind a computation that returns, the rest decides. -/
theorem Returns.returns_then {x : Eff ε κ σ α} {f : α → Eff ε κ σ β} {s t u : σ} {a : α} {b : β}
    (h : Returns x s a t) : Returns (x >>= f) s b u ↔ Returns (f a) t b u := by
  rw [returns_bind]
  constructor
  · rintro ⟨a', t', first, rest⟩
    obtain ⟨rfl, rfl⟩ := h.unique first
    exact rest
  · exact fun rest => ⟨a, t, h, rest⟩

theorem Returns.throws_then {x : Eff ε κ σ α} {f : α → Eff ε κ σ β} {s t u : σ} {a : α} {e : ε}
    (h : Returns x s a t) : Throws (x >>= f) s e u ↔ Throws (f a) t e u := by
  rw [throws_bind]
  constructor
  · rintro (first | ⟨a', t', first, rest⟩)
    · exact absurd first h.not_throws
    · obtain ⟨rfl, rfl⟩ := h.unique first
      exact rest
  · exact fun rest => .inr ⟨a, t, h, rest⟩

@[simp] theorem returns_pure {a b : α} {s t : σ} :
    Returns (pure a : Eff ε κ σ α) s b t ↔ b = a ∧ t = s := by
  simp [Returns, eq_comm]

@[simp] theorem throws_pure {a : α} {s t : σ} {e : ε} :
    ¬ Throws (pure a : Eff ε κ σ α) s e t := by
  simp [Throws]

@[simp] theorem returns_get {a s t : σ} :
    Returns (get : Eff ε κ σ σ) s a t ↔ a = s ∧ t = s := by
  simp [Returns, eq_comm]

@[simp] theorem throws_get {s t : σ} {e : ε} : ¬ Throws (get : Eff ε κ σ σ) s e t := by
  simp [Throws]

@[simp] theorem returns_modify {f : σ → σ} {s t : σ} {a : Unit} :
    Returns (modify f : Eff ε κ σ Unit) s a t ↔ t = f s := by
  simp [Returns, eq_comm]

@[simp] theorem throws_modify {f : σ → σ} {s t : σ} {e : ε} :
    ¬ Throws (modify f : Eff ε κ σ Unit) s e t := by
  simp [Throws]

@[simp] theorem returns_ensure {b : Bool} {s t : σ} {e : ε} {a : Unit} :
    Returns (ensure b e : Eff ε κ σ Unit) s a t ↔ b = true ∧ t = s := by
  cases b <;> simp [Returns, eq_comm]

@[simp] theorem throws_ensure {b : Bool} {s t : σ} {e e' : ε} :
    Throws (ensure b e : Eff ε κ σ Unit) s e' t ↔ b = false ∧ e' = e ∧ t = s := by
  cases b <;> simp [Throws, eq_comm]

@[simp] theorem returns_emit {k : κ} {s t : σ} {a : Unit} :
    Returns (emit k : Eff ε κ σ Unit) s a t ↔ t = s := by
  simp [Returns, eq_comm]

@[simp] theorem throws_emit {k : κ} {s t : σ} {e : ε} :
    ¬ Throws (emit k : Eff ε κ σ Unit) s e t := by
  simp [Throws]

@[simp] theorem returns_require {a : Option α} {b : α} {s t : σ} {e : ε} :
    Returns (require a e : Eff ε κ σ α) s b t ↔ a = some b ∧ t = s := by
  cases a <;> simp [Returns, eq_comm]

@[simp] theorem throws_require {a : Option α} {s t : σ} {e e' : ε} :
    Throws (require a e : Eff ε κ σ α) s e' t ↔ a = none ∧ e' = e ∧ t = s := by
  cases a <;> simp [Throws, eq_comm]

@[simp] theorem returns_focus {view : τ → σ} {put : τ → σ → τ} {x : Eff ε κ σ α} {s u : τ}
    {a : α} : Returns (focus view put x) s a u ↔
      ∃ t, Returns x (view s) a t ∧ u = put s t := by
  simp only [Returns, run_focus]
  exact ⟨fun h => ⟨_, ⟨h.1, rfl⟩, h.2.symm⟩, fun ⟨t, h, hu⟩ => ⟨h.1, by rw [h.2, hu]⟩⟩

@[simp] theorem throws_focus {view : τ → σ} {put : τ → σ → τ} {x : Eff ε κ σ α} {s u : τ}
    {e : ε} : Throws (focus view put x) s e u ↔
      ∃ t, Throws x (view s) e t ∧ u = put s t := by
  simp only [Throws, run_focus]
  exact ⟨fun h => ⟨_, ⟨h.1, rfl⟩, h.2.symm⟩, fun ⟨t, h, hu⟩ => ⟨h.1, by rw [h.2, hu]⟩⟩

@[simp] theorem returns_attempt {handles : ε → Bool} {x : Eff ε κ σ α} {s t : σ}
    {a : Option α} : Returns (attempt handles x) s a t ↔
      (∃ b, a = some b ∧ Returns x s b t) ∨
        ∃ e, a = none ∧ handles e = true ∧ Throws x s e t := by
  unfold Returns Throws
  rw [run_attempt]
  rcases x.run s with ⟨⟨e⟩ | ⟨b⟩, u, l⟩
  · cases h : handles e with
    | false => simp [h]
    | true => simp only [h]; grind
  · grind

@[simp] theorem returns_mapThrow {ε' : Type} {f : ε → ε'} {x : Eff ε κ σ α} {s t : σ} {a : α} :
    Returns (mapThrow f x) s a t ↔ Returns x s a t := by
  have run : (mapThrow f x).run s = match (x.run s).result with
      | .ok a => ⟨.ok a, (x.run s).state, (x.run s).calls⟩
      | .error e => ⟨.error (f e), (x.run s).state, (x.run s).calls⟩ := rfl
  unfold Returns
  rw [run]
  rcases x.run s with ⟨⟨e⟩ | ⟨b⟩, u, l⟩
  · simp
  · simp

@[simp] theorem throws_mapThrow {ε' : Type} {f : ε → ε'} {x : Eff ε κ σ α} {s t : σ} {e' : ε'} :
    Throws (mapThrow f x) s e' t ↔ ∃ e, Throws x s e t ∧ e' = f e := by
  have run : (mapThrow f x).run s = match (x.run s).result with
      | .ok a => ⟨.ok a, (x.run s).state, (x.run s).calls⟩
      | .error e => ⟨.error (f e), (x.run s).state, (x.run s).calls⟩ := rfl
  unfold Throws
  rw [run]
  rcases x.run s with ⟨⟨e⟩ | ⟨b⟩, u, l⟩
  · simp [and_comm, eq_comm]
  · simp

/-- Calls that are made one after the other. -/
theorem returns_forM_emit (l : List κ) (s : σ) :
    Returns (l.forM emit : Eff ε κ σ PUnit) s () s := by
  induction l with
  | nil => exact returns_pure.mpr ⟨rfl, rfl⟩
  | cons k l ih => exact returns_bind.mpr ⟨(), s, returns_emit.mpr rfl, ih⟩

@[simp] theorem returns_collect_nil {f : α → Eff ε κ σ β} {s t : σ} {bs : List β} :
    Returns (collect f []) s bs t ↔ bs = [] ∧ t = s := returns_pure

theorem returns_collect_cons {f : α → Eff ε κ σ β} {a : α} {l : List α} {s u : σ}
    {bs : List β} : Returns (collect f (a :: l)) s bs u ↔
      ∃ b t bs', Returns (f a) s b t ∧ Returns (collect f l) t bs' u ∧ bs = b :: bs' := by
  simp only [collect, returns_bind, returns_pure]
  constructor
  · rintro ⟨b, t, first, bs', _, rest, rfl, rfl⟩
    exact ⟨b, t, bs', first, rest, rfl⟩
  · rintro ⟨b, t, bs', first, rest, rfl⟩
    exact ⟨b, t, first, bs', u, rest, rfl, rfl⟩

/-- A run that does what another one does, up to the state. -/
theorem returns_of_run_map {x : Eff ε κ τ α} {y : Eff ε κ σ α} {f : σ → τ} {s : σ} {u v : τ}
    {a : α} (h : x.run u = (y.run s).map f) :
    Returns x u a v ↔ ∃ t, Returns y s a t ∧ v = f t := by
  simp only [Returns, h, Outcome.map]
  exact ⟨fun g => ⟨_, ⟨g.1, rfl⟩, g.2.symm⟩, fun ⟨t, g, hv⟩ => ⟨g.1, by rw [g.2, hv]⟩⟩

theorem throws_of_run_map {x : Eff ε κ τ α} {y : Eff ε κ σ α} {f : σ → τ} {s : σ} {u v : τ}
    {e : ε} (h : x.run u = (y.run s).map f) :
    Throws x u e v ↔ ∃ t, Throws y s e t ∧ v = f t := by
  simp only [Throws, h, Outcome.map]
  exact ⟨fun g => ⟨_, ⟨g.1, rfl⟩, g.2.symm⟩, fun ⟨t, g, hv⟩ => ⟨g.1, by rw [g.2, hv]⟩⟩

end Eff

end Cpp
