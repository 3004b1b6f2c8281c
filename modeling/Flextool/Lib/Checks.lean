import Flextool.Lib.Proc

/-!
# Checks that can be taken out

Two versions of the same code, of which the second lacks some checks of the first: it never ends for
a reason that is `bad`, and the first version either ends for one or does what the second does.
`Disarms` says so of computations that may fail, `Proc.Disarms` of procedures, where besides the
second version goes on from wherever a check stopped the first.  Both are kept by all that
computations are built with, so only the checks themselves have to be looked at.
-/

namespace Checks

variable {ε δ σ α β : Type} {bad : ε → Prop}

/-- The second computation is the first without its checks. -/
structure Disarms (bad : ε → Prop) (x y : Except ε α) : Prop where
  safe : ∀ e, y = .error e → ¬ bad e
  same : (∃ e, x = .error e ∧ bad e) ∨ x = y

namespace Disarms

/-- What does not fail at a check is the same in both. -/
theorem of_safe {x : Except ε α} (h : ∀ e, x = .error e → ¬ bad e) : Disarms bad x x :=
  ⟨h, Or.inr rfl⟩

theorem ok (a : α) : Disarms bad (.ok a : Except ε α) (.ok a) :=
  of_safe fun _ h => Except.noConfusion rfl rfl (heq_of_eq h)

/-- A check is taken out. -/
theorem check {e : ε} (h : bad e) (a : α) : Disarms bad (.error e : Except ε α) (.ok a) :=
  ⟨fun _ h' => Except.noConfusion rfl rfl (heq_of_eq h'), Or.inl ⟨e, rfl, h⟩⟩

theorem ite {c : Prop} [Decidable c] {x x' y y' : Except ε α} (hc : c → Disarms bad x y)
    (hn : ¬ c → Disarms bad x' y') :
    Disarms bad (if c then x else x') (if c then y else y') := by
  by_cases h : c
  · rw [if_pos h, if_pos h]
    exact hc h
  · rw [if_neg h, if_neg h]
    exact hn h

theorem bind {x y : Except ε α} {f g : α → Except ε β} (h : Disarms bad x y)
    (hf : ∀ a, Disarms bad (f a) (g a)) : Disarms bad (x >>= f) (y >>= g) := by
  cases y with
  | error e =>
    refine ⟨fun e' h' => h.safe e' (by rw [← Except.error.inj h']), ?_⟩
    rcases h.same with ⟨e', rfl, hbad⟩ | rfl
    · exact Or.inl ⟨e', rfl, hbad⟩
    · exact Or.inr rfl
  | ok a =>
    refine ⟨(hf a).safe, ?_⟩
    rcases h.same with ⟨e', rfl, hbad⟩ | rfl
    · exact Or.inl ⟨e', rfl, hbad⟩
    · exact (hf a).same

theorem foldlM {f g : σ → α → Except ε σ} (h : ∀ s a, Disarms bad (f s a) (g s a)) (l : List α)
    (s : σ) : Disarms bad (l.foldlM f s) (l.foldlM g s) := by
  induction l generalizing s with
  | nil => exact ok s
  | cons a l ih =>
    rw [List.foldlM_cons, List.foldlM_cons]
    exact (h s a).bind ih

theorem forM {f g : α → Except ε Unit} (h : ∀ a, Disarms bad (f a) (g a)) (l : List α) :
    Disarms bad (l.forM f) (l.forM g) := by
  induction l with
  | nil => exact ok ()
  | cons a l ih => exact (h a).bind fun _ => ih

/-- Reasons that are read in a larger type. -/
theorem mapError {x y : Except ε α} (h : Disarms bad x y) {bad' : δ → Prop} {why : ε → δ}
    (hwhy : ∀ e, bad' (why e) ↔ bad e) : Disarms bad' (x.mapError why) (y.mapError why) := by
  cases y with
  | error e =>
    refine ⟨fun e' h' => ?_, ?_⟩
    · rw [← Except.error.inj h', hwhy]
      exact h.safe e rfl
    · rcases h.same with ⟨e', rfl, hbad⟩ | rfl
      · exact Or.inl ⟨why e', rfl, (hwhy e').2 hbad⟩
      · exact Or.inr rfl
  | ok a =>
    rcases h.same with ⟨e', rfl, hbad⟩ | rfl
    · exact check ((hwhy e').2 hbad) a
    · exact ok a

end Disarms

end Checks

namespace Proc

variable {ε δ σ τ α β : Type} {bad : ε → Prop} {R : σ → σ → Prop}

open Checks (Disarms)

/-- The second procedure is the first without its checks, and goes on, in the sense of `R`, from
where a check stops the first. -/
structure Disarms (bad : ε → Prop) (R : σ → σ → Prop) (p q : Proc ε σ α) : Prop where
  safe : ∀ s e, (exec q s).1 = .error e → ¬ bad e
  moves : Moves R q
  same : ∀ s, (∃ e, (exec p s).1 = .error e ∧ bad e ∧ R (exec p s).2 (exec q s).2) ∨
    exec p s = exec q s

namespace Disarms

variable {p q : Proc ε σ α}

/-- What never fails has no checks. -/
theorem of_returns {p : Proc ε σ α} (h : ∀ s, ∃ a, (exec p s).1 = .ok a) (hmoves : Moves R p) :
    Disarms bad R p p where
  safe s e he := by
    obtain ⟨a, ha⟩ := h s
    exact absurd (ha.symm.trans he) (by simp)
  moves := hmoves
  same _ := Or.inr rfl

theorem pure [Std.Refl R] (a : α) : Disarms bad R (Pure.pure a : Proc ε σ α) (Pure.pure a) :=
  of_returns (fun _ => ⟨a, rfl⟩) (Moves.pure a)

theorem get [Std.Refl R] : Disarms bad R (MonadState.get : Proc ε σ σ) MonadState.get :=
  of_returns (fun s => ⟨s, rfl⟩) fun s => Std.Refl.refl s

theorem update {f : σ → σ} (h : ∀ s, R s (f s)) :
    Disarms bad R (Proc.update f : Proc ε σ Unit) (Proc.update f) :=
  of_returns (fun _ => ⟨(), rfl⟩) (Moves.update h)

theorem throw [Std.Refl R] {e : ε} (h : ¬ bad e) :
    Disarms bad R (MonadExcept.throw e : Proc ε σ α) (MonadExcept.throw e) where
  safe _ _ he := Except.error.inj he ▸ h
  moves := Moves.throw e
  same _ := Or.inr rfl

theorem ofExcept [Std.Refl R] {x y : Except ε α} (h : Checks.Disarms bad x y) :
    Disarms bad R (Proc.ofExcept x : Proc ε σ α) (Proc.ofExcept y) where
  safe _ e he := h.safe e he
  moves := Moves.ofExcept y
  same s := by
    rcases h.same with ⟨e, he, hbad⟩ | hsame
    · exact Or.inl ⟨e, he, hbad, Std.Refl.refl s⟩
    · exact Or.inr (by rw [hsame])

theorem ite {c : Prop} [Decidable c] {p p' q q' : Proc ε σ α} (hc : c → Disarms bad R p q)
    (hn : ¬ c → Disarms bad R p' q') :
    Disarms bad R (if c then p else p') (if c then q else q') := by
  by_cases h : c
  · rw [if_pos h, if_pos h]
    exact hc h
  · rw [if_neg h, if_neg h]
    exact hn h

theorem bind [IsTrans σ R] {f g : α → Proc ε σ β} (h : Disarms bad R p q)
    (hf : ∀ a, Disarms bad R (f a) (g a)) : Disarms bad R (p >>= f) (q >>= g) where
  safe s e he := by
    rw [exec_bind] at he
    have hsafe := h.safe s
    rcases hexec : exec q s with ⟨e' | a, s'⟩
    · rw [hexec] at he hsafe
      exact Except.error.inj he ▸ hsafe e' rfl
    · rw [hexec] at he
      exact (hf a).safe s' e he
  moves := h.moves.bind fun a => (hf a).moves
  same s := by
    rcases h.same s with ⟨e, he, hbad, hR⟩ | hsame
    · have hstopped : exec (p >>= f) s = (.error e, (exec p s).2) :=
        exec_bind_error (Prod.ext he rfl) f
      refine Or.inl ⟨e, by rw [hstopped], hbad, ?_⟩
      rw [hstopped, exec_bind]
      rcases hexec : exec q s with ⟨e' | a, s'⟩
      · rw [hexec] at hR
        exact hR
      · rw [hexec] at hR
        exact IsTrans.trans _ _ _ hR ((hf a).moves s')
    · rw [exec_bind, exec_bind, hsame]
      rcases exec q s with ⟨e | a, s'⟩
      · exact Or.inr rfl
      · exact (hf a).same s'

theorem forM [Std.Refl R] [IsTrans σ R] {f g : α → Proc ε σ PUnit}
    (h : ∀ a, Disarms bad R (f a) (g a)) (l : List α) : Disarms bad R (l.forM f) (l.forM g) := by
  induction l with
  | nil => exact pure _
  | cons a l ih =>
    rw [forM_cons, forM_cons]
    exact (h a).bind fun _ => ih

theorem foldlM [Std.Refl R] [IsTrans σ R] {f g : β → α → Proc ε σ β}
    (h : ∀ b a, Disarms bad R (f b a) (g b a)) (l : List α) (b : β) :
    Disarms bad R (l.foldlM f b) (l.foldlM g b) := by
  induction l generalizing b with
  | nil => exact pure b
  | cons a l ih =>
    rw [List.foldlM_cons, List.foldlM_cons]
    exact (h b a).bind ih

/-- Two procedures on a part of the state: what relates the parts has to relate the states that they
are put into. -/
theorem onPart {part : σ → τ} {put : τ → σ → σ} {why : δ → ε} {bad' : δ → Prop}
    {R' : τ → τ → Prop} (hwhy : ∀ e, bad (why e) ↔ bad' e)
    (hmoves : ∀ s t, R' (part s) t → R s (put t s))
    (hput : ∀ s t t', R' t t' → R (put t s) (put t' s)) {p q : Proc δ τ α}
    (h : Disarms bad' R' p q) :
    Disarms bad R (Proc.onPart part put why p) (Proc.onPart part put why q) where
  safe s e he := by
    have hsafe := h.safe (part s)
    rw [exec_onPart] at he
    rcases hexec : exec q (part s) with ⟨e' | a, t⟩
    · rw [hexec] at he hsafe
      rw [← Except.error.inj he, hwhy]
      exact hsafe e' rfl
    · rw [hexec] at he
      exact absurd he (by simp [Except.mapError])
  moves s := hmoves s _ (h.moves (part s))
  same s := by
    rw [exec_onPart, exec_onPart]
    rcases h.same (part s) with ⟨e, he, hbad, hR⟩ | hsame
    · exact Or.inl ⟨why e, by rw [he]; rfl, (hwhy e).2 hbad, hput s _ _ hR⟩
    · exact Or.inr (by rw [hsame])

end Disarms

end Proc
