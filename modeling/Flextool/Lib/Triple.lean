import Flextool.Lib.Proc

/-!
# Pre- and postconditions of procedures

`Triple P p Q E` says of a procedure started where `P` holds that it either returns, and `Q` holds
of what it returns and of the state, or stops, and `E` holds of why it stops and of the state.  A
procedure always ends, so this is total correctness.  There is a rule for each way to build a
procedure; the rule for loops lets the invariant speak of the items that were handled.
-/

variable {ε σ α β : Type}

namespace Proc

/-- Started where `P` holds, the procedure returns with `Q` or stops with `E`. -/
def Triple (P : σ → Prop) (p : Proc ε σ α) (Q : α → σ → Prop) (E : ε → σ → Prop) : Prop :=
  ∀ s, P s → match exec p s with
    | (.ok a, s') => Q a s'
    | (.error e, s') => E e s'

namespace Triple

variable {P P' : σ → Prop} {Q Q' : α → σ → Prop} {R : β → σ → Prop} {E E' : ε → σ → Prop}
  {p : Proc ε σ α}

/-! ### Using a triple -/

theorem conseq (h : Triple P p Q E) (hP : ∀ s, P' s → P s) (hQ : ∀ a s, Q a s → Q' a s)
    (hE : ∀ e s, E e s → E' e s) : Triple P' p Q' E' := by
  intro s hs
  have hends := h s (hP s hs)
  rcases hexec : exec p s with ⟨e | a, s'⟩
  · rw [hexec] at hends
    exact hE e s' hends
  · rw [hexec] at hends
    exact hQ a s' hends

theorem weaken (h : Triple P p Q E) (hQ : ∀ a s, Q a s → Q' a s) : Triple P p Q' E :=
  h.conseq (fun _ hs => hs) hQ fun _ _ he => he

theorem strengthen (h : Triple P p Q E) (hP : ∀ s, P' s → P s) : Triple P' p Q E :=
  h.conseq hP (fun _ _ hs => hs) fun _ _ he => he

/-- A part of the precondition that does not speak of the state is a hypothesis. -/
theorem of_imp {φ : Prop} (h : φ → Triple P p Q E) : Triple (fun s => φ ∧ P s) p Q E :=
  fun s hs => h hs.1 s hs.2

/-- So is a witness. -/
theorem of_exists {ι : Type} {P : ι → σ → Prop} (h : ∀ i, Triple (P i) p Q E) :
    Triple (fun s => ∃ i, P i s) p Q E :=
  fun s ⟨i, hs⟩ => h i s hs

/-! ### One step -/

theorem pure {a : α} (h : ∀ s, P s → Q a s) : Triple P (Pure.pure a : Proc ε σ α) Q E := h

theorem throw {e : ε} (h : ∀ s, P s → E e s) :
    Triple P (MonadExcept.throw e : Proc ε σ α) Q E := h

theorem ofExcept {r : Except ε α} (hok : ∀ a, r = .ok a → ∀ s, P s → Q a s)
    (herror : ∀ e, r = .error e → ∀ s, P s → E e s) : Triple P (Proc.ofExcept r) Q E := by
  intro s hs
  rw [exec_ofExcept]
  cases r with
  | error e => exact herror e rfl s hs
  | ok a => exact hok a rfl s hs

/-! ### Sequences and loops -/

theorem bind {f : α → Proc ε σ β} (hp : Triple P p Q E) (hf : ∀ a, Triple (Q a) (f a) R E) :
    Triple P (p >>= f) R E := by
  intro s hs
  have hends := hp s hs
  rw [exec_bind]
  rcases hexec : exec p s with ⟨e | a, s'⟩
  · rw [hexec] at hends
    exact hends
  · rw [hexec] at hends
    exact hf a s' hends

/-- A loop whose invariant speaks of the items that were handled. -/
theorem forM {step : α → Proc ε σ PUnit} {l : List α} {I : List α → σ → Prop}
    (h : ∀ handled a rest, l = handled ++ a :: rest →
      Triple (I handled) (step a) (fun _ => I (handled ++ [a])) E) :
    Triple (I []) (l.forM step) (fun _ => I l) E := by
  have hloop : ∀ rest handled, l = handled ++ rest →
      Triple (I handled) (rest.forM step) (fun _ => I l) E := by
    intro rest
    induction rest with
    | nil =>
      rintro handled hl
      rw [List.append_nil] at hl
      exact Triple.pure fun s hs => hl ▸ hs
    | cons a rest ih =>
      intro handled hl
      rw [forM_cons]
      exact (h handled a rest hl).bind fun _ => ih (handled ++ [a]) (by rw [hl]; simp)
  exact hloop l [] rfl

end Triple

end Proc
