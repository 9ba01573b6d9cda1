import Detector.Library.Loop
import Detector.Library.Run

/-!
# What may be called after what

A protocol says of each external call whether it is allowed after the calls made before it. The
calls of a run are `Allowed` when each of them is, at its place. `Obeys` is the triple for
computations that build something: started after some calls, the computation makes allowed calls
only, and a value that it returns is described together with all the calls made until then. For
methods of a finished object, whose calls do not depend on each other, `Makes` is enough. `Always`
is the other direction: a call that is made whatever the state is.
-/
namespace Cpp

variable {κ : Type}

/-- Each of the calls is allowed after `before` and the calls that stand before it. -/
def Allowed (ok : List κ → κ → Prop) (before calls : List κ) : Prop :=
  ∀ pre c post, calls = pre ++ c :: post → ok (before ++ pre) c

/-- What is allowed stays allowed after more calls. -/
def Grows {α : Type} (ok : List κ → α → Prop) : Prop :=
  ∀ before after a, before ⊆ after → ok before a → ok after a

namespace Allowed

variable {ok : List κ → κ → Prop} {before : List κ}

theorem nil : Allowed ok before [] := by
  intro pre c post split
  simp at split

theorem cons {c : κ} {calls : List κ} (first : ok before c)
    (rest : Allowed ok (before ++ [c]) calls) : Allowed ok before (c :: calls) := by
  intro pre d post split
  cases pre with
  | nil =>
    obtain ⟨rfl, -⟩ := List.cons.inj split
    simpa using first
  | cons b pre =>
    obtain ⟨rfl, tail⟩ := List.cons.inj split
    simpa using rest pre d post tail

theorem head {c : κ} {calls : List κ} (h : Allowed ok before (c :: calls)) : ok before c := by
  simpa using h [] c calls rfl

theorem tail {c : κ} {calls : List κ} (h : Allowed ok before (c :: calls)) :
    Allowed ok (before ++ [c]) calls := by
  intro pre d post split
  have place := h (c :: pre) d post (by rw [split, List.cons_append])
  simpa using place

theorem append {calls later : List κ} (h : Allowed ok before calls)
    (rest : Allowed ok (before ++ calls) later) : Allowed ok before (calls ++ later) := by
  induction calls generalizing before with
  | nil => simpa using rest
  | cons c calls ih => exact cons h.head (ih h.tail (by simpa using rest))

/-- Calls that are allowed at once. -/
theorem of_forall {calls : List κ} (grows : Grows ok) (h : ∀ c ∈ calls, ok before c) :
    Allowed ok before calls := by
  rintro pre c post rfl
  exact grows before _ c (List.subset_append_left before pre) (h c (by simp))

theorem imp {ok' : List κ → κ → Prop} {calls : List κ} (h : Allowed ok before calls)
    (weaker : ∀ before c, ok before c → ok' before c) : Allowed ok' before calls :=
  fun pre c post split => weaker _ c (h pre c post split)

end Allowed

namespace Eff

variable {ε σ τ α β γ : Type}

/-! ## Calls of a method -/

/-- From `s`, the computation makes calls of one kind only. -/
def Makes (Q : κ → Prop) (x : Eff ε κ σ α) (s : σ) : Prop := ∀ c ∈ (x.run s).calls, Q c

namespace Makes

variable {Q : κ → Prop}

theorem of_silent {x : Eff ε κ σ α} {s : σ} (h : (x.run s).calls = []) : Makes Q x s := by
  intro c hc
  simp [h] at hc

theorem emit {c : κ} (h : Q c) (s : σ) : Makes Q (emit c : Eff ε κ σ Unit) s := by
  intro d hd
  obtain rfl := List.mem_singleton.mp hd
  exact h

theorem bind {x : Eff ε κ σ α} {f : α → Eff ε κ σ β} {s : σ} (first : Makes Q x s)
    (rest : ∀ a t, Returns x s a t → Makes Q (f a) t) : Makes Q (x >>= f) s := by
  intro c hc
  rw [run_bind] at hc
  rcases h : x.run s with ⟨⟨e⟩ | ⟨a⟩, t, l⟩
  · rw [h, andThen_error] at hc
    exact first c (by rw [h]; exact hc)
  · rw [h, andThen_ok] at hc
    obtain hc | hc := List.mem_append.mp hc
    · exact first c (by rw [h]; exact hc)
    · exact rest a t ⟨by rw [h], by rw [h]⟩ c hc

theorem forM {f : α → Eff ε κ σ Unit} {l : List α} (h : ∀ a ∈ l, ∀ s, Makes Q (f a) s) (s : σ) :
    Makes Q (l.forM f) s := by
  induction l generalizing s with
  | nil => exact of_silent rfl
  | cons a l ih => exact (h a (by simp) s).bind fun _ t _ => ih (fun b hb => h b (by simp [hb])) t

theorem visit {body : ℕ → Eff ε κ (σ × τ) Unit} {l : List σ} {t : τ}
    (h : ∀ x ∈ l, ∀ i t, Makes Q (body i) (x, t)) : Makes Q (visit body) (l, t) := by
  suffices loop : ∀ i, ∀ c ∈ (visitFrom body i l t).calls, Q c by
    intro c hc
    rw [run_visit] at hc
    exact loop 0 c hc
  induction l generalizing t with
  | nil => simp [visitFrom]
  | cons x l ih =>
    intro i c hc
    rcases first : (body i).run (x, t) with ⟨⟨e⟩ | ⟨⟨⟩⟩, ⟨x', u⟩, calls⟩
    · simp only [visitFrom, first] at hc
      exact h x (by simp) i t c (by rw [first]; exact hc)
    · simp only [visitFrom, first, List.mem_append] at hc
      obtain hc | hc := hc
      · exact h x (by simp) i t c (by rw [first]; exact hc)
      · exact ih (fun y hy => h y (by simp [hy])) (i + 1) c hc

theorem onNth {i : ℕ} {x : Eff ε κ σ Unit} {l : List σ} (h : ∀ a ∈ l, Makes Q x a) :
    Makes Q (onNth i x) l := by
  cases at_i : l[i]? with
  | none => exact of_silent (by rw [run_onNth_none at_i])
  | some a =>
    intro c hc
    rw [run_onNth_some at_i] at hc
    exact h a (List.mem_of_getElem? at_i) c hc

end Makes

/-! ## Triples -/

/-- Started after the calls `before`, the computation makes allowed calls only, and what it
returns is described together with the calls made until then. -/
def Obeys (ok : List κ → κ → Prop) (before : List κ) (x : Eff ε κ σ α)
    (post : α → List κ → Prop) : Prop :=
  ∀ s, Allowed ok before (x.run s).calls ∧
    ∀ a, (x.run s).result = .ok a → post a (before ++ (x.run s).calls)

namespace Obeys

variable {ok : List κ → κ → Prop} {before : List κ} {post : α → List κ → Prop}

protected theorem pure {a : α} (h : post a before) :
    Obeys ok before (pure a : Eff ε κ σ α) post := by
  intro s
  refine ⟨.nil, fun b hb => ?_⟩
  obtain rfl := Except.ok.inj hb
  simpa using h

theorem throw (e : ε) : Obeys ok before (throw e : Eff ε κ σ α) post := by
  intro s
  exact ⟨.nil, fun b hb => by simp at hb⟩

theorem bind {x : Eff ε κ σ α} {f : α → Eff ε κ σ β} {post' : β → List κ → Prop}
    (first : Obeys ok before x post)
    (rest : ∀ a after, before ⊆ after → post a after → Obeys ok after (f a) post') :
    Obeys ok before (x >>= f) post' := by
  intro s
  obtain ⟨allowed, value⟩ := first s
  rw [run_bind]
  rcases h : x.run s with ⟨⟨e⟩ | ⟨a⟩, t, l⟩
  · rw [h] at allowed
    exact ⟨allowed, fun b hb => by simp at hb⟩
  · rw [h] at allowed value
    obtain ⟨allowed', value'⟩ :=
      rest a _ (List.subset_append_left before l) (value a rfl) t
    refine ⟨allowed.append allowed', fun b hb => ?_⟩
    rw [andThen_ok, ← List.append_assoc]
    exact value' b hb

theorem emit_then {c : κ} {f : Unit → Eff ε κ σ α} (allowed : ok before c)
    (rest : Obeys ok (before ++ [c]) (f ()) post) : Obeys ok before (emit c >>= f) post := by
  have first : Obeys ok before (emit c : Eff ε κ σ Unit) fun _ after => after = before ++ [c] :=
    fun _ => ⟨.cons allowed .nil, fun _ _ => rfl⟩
  refine first.bind fun _ after _ same => ?_
  rw [same]
  exact rest

theorem ensure_then {b : Bool} {e : ε} {f : Unit → Eff ε κ σ α}
    (rest : b = true → Obeys ok before (f ()) post) :
    Obeys ok before (ensure b e >>= f) post := by
  cases b with
  | false => exact throw e
  | true => exact rest rfl

theorem require_then {o : Option β} {e : ε} {f : β → Eff ε κ σ α}
    (rest : ∀ b, o = some b → Obeys ok before (f b) post) :
    Obeys ok before (require o e >>= f) post := by
  cases o with
  | none => exact throw e
  | some b => exact rest b rfl

/-- An answer is taken, whatever it is. -/
theorem require (o : Option α) (e : ε) :
    Obeys ok before (require o e : Eff ε κ σ α) fun _ _ => True := by
  cases o with
  | none => exact throw e
  | some a => exact .pure trivial

theorem attempt {x : Eff ε κ σ α} (handles : ε → Bool) (h : Obeys ok before x post) :
    Obeys ok before (attempt handles x) fun o after => ∀ a ∈ o, post a after := by
  intro s
  obtain ⟨allowed, value⟩ := h s
  rw [calls_attempt]
  refine ⟨allowed, fun o ends a ha => ?_⟩
  obtain ⟨b, rfl, returned⟩ | ⟨e, rfl, -, -⟩ := returns_attempt.mp ⟨ends, rfl⟩
  · obtain rfl := Option.some.inj ha
    exact value b returned.1
  · cases ha

/-- What holds after every return may be added to what is known of the value. -/
theorem and_of_returns {x : Eff ε κ σ α} {P : Prop} (h : Obeys ok before x post)
    (known : ∀ s a t, Returns x s a t → P) : Obeys ok before x fun a after => post a after ∧ P :=
  fun s => ⟨(h s).1, fun a ends => ⟨(h s).2 a ends, known s a _ ⟨ends, rfl⟩⟩⟩

/-- A loop that collects what its iterations return. It gets to an iteration only when the ones
before it have returned, and then `passes` holds of their elements. -/
theorem collect_reached {passes : β → Prop} {f : β → Eff ε κ σ α} {l : List β}
    (grows : Grows fun after a => post a after)
    (each : ∀ pre b rest, l = pre ++ b :: rest → (∀ c ∈ pre, passes c) → ∀ after, before ⊆ after →
      Obeys ok after (f b) fun a last => post a last ∧ passes b) :
    Obeys ok before (collect f l) fun as after => ∀ a ∈ as, post a after := by
  induction l generalizing before with
  | nil => exact .pure (by simp)
  | cons b l ih =>
    refine (each [] b l rfl (by simp) before (List.Subset.refl _)).bind fun a after sub made => ?_
    have rest : Obeys ok after (Eff.collect f l) fun as last => ∀ a ∈ as, post a last := by
      refine ih fun pre b' rest split passed last sub' => ?_
      refine each (b :: pre) b' rest (by rw [split]; rfl) (fun c hc => ?_) last
        (List.Subset.trans sub sub')
      obtain rfl | hc := List.mem_cons.mp hc
      · exact made.2
      · exact passed c hc
    refine rest.bind fun as last sub' mades => .pure fun a' ha' => ?_
    obtain rfl | ha' := List.mem_cons.mp ha'
    · exact grows after last a' sub' made.1
    · exact mades a' ha'

/-- The same, for iterations that may all be reached. -/
theorem collect {f : β → Eff ε κ σ α} {l : List β} (grows : Grows fun after a => post a after)
    (each : ∀ b ∈ l, ∀ after, before ⊆ after → Obeys ok after (f b) post) :
    Obeys ok before (collect f l) fun as after => ∀ a ∈ as, post a after := by
  have reached : ∀ pre b rest, l = pre ++ b :: rest → (∀ c ∈ pre, True) → ∀ after,
      before ⊆ after → Obeys ok after (f b) fun a last => post a last ∧ True :=
    fun pre b rest split _ after sub =>
      (each b (by simp [split]) after sub).and_of_returns fun _ _ _ _ => trivial
  exact collect_reached grows reached

end Obeys

/-! ## Calls that are always made -/

/-- From every state, the computation makes this call. -/
def Always (x : Eff ε κ σ α) (c : κ) : Prop := ∀ s, c ∈ (x.run s).calls

namespace Always

variable {c : κ}

theorem emit_then {f : Unit → Eff ε κ σ α} : Always (emit c >>= f) c := fun _ =>
  List.mem_cons_self

theorem bind_left {x : Eff ε κ σ α} {f : α → Eff ε κ σ β} (h : Always x c) :
    Always (x >>= f) c := by
  intro s
  have made := h s
  rw [run_bind]
  rcases first : x.run s with ⟨⟨e⟩ | ⟨a⟩, t, l⟩
  · rwa [first] at made
  · rw [first] at made
    exact List.mem_append_left _ made

/-- Behind what returns. -/
theorem bind_right {x : Eff ε κ σ α} {f : α → Eff ε κ σ β}
    (h : ∀ s, ∃ a t, Returns x s a t ∧ Always (f a) c) : Always (x >>= f) c := by
  intro s
  obtain ⟨a, t, returned, later⟩ := h s
  rw [returned.calls_then]
  exact List.mem_append_right _ (later t)

theorem attempt {x : Eff ε κ σ α} {handles : ε → Bool} (h : Always x c) :
    Always (attempt handles x) c := fun s => by
  rw [calls_attempt]
  exact h s

/-- A loop makes the calls of an iteration that it gets to. -/
theorem collect {f : β → Eff ε κ σ α} {pre post : List β} {b : β}
    (passed : ∀ d ∈ pre, ∀ s, ∃ a t, Returns (f d) s a t) (h : Always (f b) c) :
    Always (collect f (pre ++ b :: post)) c := by
  induction pre with
  | nil => exact h.bind_left
  | cons d pre ih =>
    refine bind_right fun s => ?_
    obtain ⟨a, t, returned⟩ := passed d List.mem_cons_self s
    exact ⟨a, t, returned, (ih fun d' hd => passed d' (List.mem_cons_of_mem d hd)).bind_left⟩

end Always

end Eff

end Cpp
