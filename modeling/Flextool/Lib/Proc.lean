import Mathlib.Order.Defs.Unbundled
import Flextool.Lib.Loops

/-!
# Procedures that change a state and may stop

A `Proc ε σ α` returns a value or stops with an `ε`, and changes a state `σ` on the way; what was
changed before it stopped stays changed.  `exec` runs one, and `result` is what it returns when it
does.  `Moves R p` says that wherever `p` is started, and however it ends, the state before and
after are related by `R`; a preorder of the states is kept by everything that is built from
procedures that keep it.
-/

variable {ε σ τ α β : Type}

/-- A procedure over a state, which is kept when the procedure stops. -/
abbrev Proc (ε σ α : Type) : Type := ExceptT ε (StateM σ) α

namespace Proc

/-- Run a procedure: how it ended, and the state it left. -/
def exec (p : Proc ε σ α) (s : σ) : Except ε α × σ := Id.run (StateT.run (ExceptT.run p) s)

/-- Stop unless the computation succeeds. -/
def ofExcept (r : Except ε α) : Proc ε σ α := ExceptT.mk (pure r)

/-- Change the state. -/
def update (f : σ → σ) : Proc ε σ Unit := modify f

/-- Run a procedure on a part of the state, and say in terms of the whole why it stops. -/
def onPart {δ : Type} (part : σ → τ) (put : τ → σ → σ) (why : δ → ε) (p : Proc δ τ α) :
    Proc ε σ α :=
  ExceptT.mk fun s => pure ((exec p (part s)).1.mapError why, put (exec p (part s)).2 s)

@[simp] theorem exec_pure (a : α) (s : σ) : exec (pure a : Proc ε σ α) s = (.ok a, s) := rfl

@[simp] theorem exec_throw (e : ε) (s : σ) : exec (throw e : Proc ε σ α) s = (.error e, s) := rfl

@[simp] theorem exec_get (s : σ) : exec (get : Proc ε σ σ) s = (.ok s, s) := rfl

@[simp] theorem exec_update (f : σ → σ) (s : σ) :
    exec (update f : Proc ε σ Unit) s = (.ok (), f s) := rfl

@[simp] theorem exec_ofExcept (r : Except ε α) (s : σ) : exec (ofExcept r) s = (r, s) := rfl

@[simp] theorem exec_onPart {δ : Type} (part : σ → τ) (put : τ → σ → σ) (why : δ → ε)
    (p : Proc δ τ α) (s : σ) : exec (onPart part put why p) s =
      ((exec p (part s)).1.mapError why, put (exec p (part s)).2 s) := rfl

theorem exec_bind (p : Proc ε σ α) (f : α → Proc ε σ β) (s : σ) :
    exec (p >>= f) s = match exec p s with
      | (.ok a, s') => exec (f a) s'
      | (.error e, s') => (.error e, s') := by
  simp only [exec, ExceptT.run_bind, StateT.run_bind, Id.run_bind]
  rcases (StateT.run (ExceptT.run p) s).run with ⟨e | a, s'⟩
  · rfl
  · rfl

@[simp] theorem exec_map (f : α → β) (p : Proc ε σ α) (s : σ) :
    exec (f <$> p) s = ((exec p s).1.map f, (exec p s).2) := by
  simp only [exec, ExceptT.run_map, StateT.run_map]
  rfl

theorem exec_bind_ok {p : Proc ε σ α} {s s' : σ} {a : α} (h : exec p s = (.ok a, s'))
    (f : α → Proc ε σ β) : exec (p >>= f) s = exec (f a) s' := by
  rw [exec_bind, h]

theorem exec_bind_error {p : Proc ε σ α} {s s' : σ} {e : ε} (h : exec p s = (.error e, s'))
    (f : α → Proc ε σ β) : exec (p >>= f) s = (.error e, s') := by
  rw [exec_bind, h]

/-- A sequence returns exactly when both parts do. -/
theorem exec_bind_eq_ok_iff {p : Proc ε σ α} {f : α → Proc ε σ β} {s s'' : σ} {b : β} :
    exec (p >>= f) s = (.ok b, s'') ↔
      ∃ a s', exec p s = (.ok a, s') ∧ exec (f a) s' = (.ok b, s'') := by
  rw [exec_bind]
  rcases exec p s with ⟨e | a, s'⟩ <;> simp

@[simp] theorem exec_update_bind (f : σ → σ) (k : Unit → Proc ε σ β) (s : σ) :
    exec (update f >>= k) s = exec (k ()) (f s) := exec_bind_ok rfl k

@[simp] theorem exec_get_bind (k : σ → Proc ε σ β) (s : σ) :
    exec (get >>= k) s = exec (k s) s := exec_bind_ok rfl k

theorem forM_cons (f : α → Proc ε σ PUnit) (a : α) (l : List α) :
    (a :: l).forM f = f a >>= fun _ => l.forM f := rfl

/-- A sequence returns when its first part does, and the rest from there. -/
theorem returns_bind_iff {p : Proc ε σ α} {f : α → Proc ε σ β} {s : σ} {b : β} :
    (exec (p >>= f) s).1 = .ok b ↔
      ∃ a s', exec p s = (.ok a, s') ∧ (exec (f a) s').1 = .ok b := by
  rw [exec_bind]
  rcases exec p s with ⟨e | a, s'⟩ <;> simp

/-- A loop returns exactly when each of its steps does, where the state has no say in that. -/
theorem returns_forM_iff {step : α → Proc ε σ PUnit} {good : α → Prop} {l : List α}
    (h : ∀ a ∈ l, ∀ s, (exec (step a) s).1 = .ok ⟨⟩ ↔ good a) (s : σ) :
    (exec (l.forM step) s).1 = .ok ⟨⟩ ↔ ∀ a ∈ l, good a := by
  induction l generalizing s with
  | nil => exact iff_of_true rfl fun a ha => absurd ha List.not_mem_nil
  | cons a l ih =>
    have hrest := ih fun b hb => h b (List.mem_cons_of_mem _ hb)
    rw [forM_cons, returns_bind_iff, List.forall_mem_cons, ← h a (List.mem_cons_self ..) s]
    constructor
    · rintro ⟨⟨⟩, s', hexec, hl⟩
      exact ⟨congrArg Prod.fst hexec, (hrest s').1 hl⟩
    · rintro ⟨hexec, hl⟩
      exact ⟨⟨⟩, _, Prod.ext hexec rfl, (hrest _).2 hl⟩

/-! ## What a procedure returns -/

/-- The value that a procedure returns and the state it leaves, unless it stops. -/
def result (p : Proc ε σ α) (s : σ) : Except ε (α × σ) :=
  match exec p s with
  | (.ok a, s') => .ok (a, s')
  | (.error e, _) => .error e

theorem result_eq_ok_iff {p : Proc ε σ α} {s s' : σ} {a : α} :
    result p s = .ok (a, s') ↔ exec p s = (.ok a, s') := by
  unfold result
  rcases exec p s with ⟨e | a', s''⟩ <;> simp

@[simp] theorem result_pure (a : α) (s : σ) : result (pure a : Proc ε σ α) s = .ok (a, s) := rfl

@[simp] theorem result_update_bind (f : σ → σ) (k : Unit → Proc ε σ β) (s : σ) :
    result (update f >>= k) s = result (k ()) (f s) := by
  rw [result, exec_update_bind, ← result]

@[simp] theorem result_get_bind (k : σ → Proc ε σ β) (s : σ) :
    result (get >>= k) s = result (k s) s := by
  rw [result, exec_get_bind, ← result]

@[simp] theorem result_ofExcept_bind (r : Except ε α) (k : α → Proc ε σ β) (s : σ) :
    result (ofExcept r >>= k) s = r >>= fun a => result (k a) s := by
  cases r with
  | error e => rw [result, exec_bind_error (exec_ofExcept ..)]; rfl
  | ok a => rw [result, exec_bind_ok (exec_ofExcept ..), ← result]; rfl

/-! ## What a procedure does to the state -/

/-- However the procedure ends, it leads from a state to one related to it. -/
def Moves (R : σ → σ → Prop) (p : Proc ε σ α) : Prop := ∀ s, R s (exec p s).2

namespace Moves

variable {R : σ → σ → Prop}

theorem pure [Std.Refl R] (a : α) : Moves R (Pure.pure a : Proc ε σ α) := fun s => Std.Refl.refl s

theorem get [Std.Refl R] : Moves R (MonadState.get : Proc ε σ σ) := fun s => Std.Refl.refl s

theorem throw [Std.Refl R] (e : ε) : Moves R (MonadExcept.throw e : Proc ε σ α) :=
  fun s => Std.Refl.refl s

theorem ofExcept [Std.Refl R] (r : Except ε α) : Moves R (Proc.ofExcept r : Proc ε σ α) :=
  fun s => Std.Refl.refl s

theorem update {f : σ → σ} (h : ∀ s, R s (f s)) : Moves R (Proc.update f : Proc ε σ Unit) := h

theorem bind [IsTrans σ R] {p : Proc ε σ α} {f : α → Proc ε σ β} (hp : Moves R p)
    (hf : ∀ a, Moves R (f a)) : Moves R (p >>= f) := by
  intro s
  have hs := hp s
  rw [exec_bind]
  rcases h : exec p s with ⟨e | a, s'⟩
  · rwa [h] at hs
  · rw [h] at hs
    exact IsTrans.trans _ _ _ hs (hf a s')

/-- A loop leads from a state to one related to it when each of its steps does. -/
theorem forM [Std.Refl R] [IsTrans σ R] {step : α → Proc ε σ PUnit} {l : List α}
    (h : ∀ a ∈ l, Moves R (step a)) : Moves R (l.forM step) := by
  induction l with
  | nil => exact Moves.pure _
  | cons a l ih =>
    rw [forM_cons]
    exact (h a (by simp)).bind fun _ => ih fun b hb => h b (by simp [hb])

end Moves

/-! ## Logs -/

section Logs

variable {A : Type} {log : σ → List A} {P : A → Prop}

/-- The log of the second state goes on from that of the first, with entries that satisfy `P`. -/
def Extends (log : σ → List A) (P : A → Prop) (s s' : σ) : Prop :=
  ∃ t, log s' = log s ++ t ∧ ∀ a ∈ t, P a

instance : Std.Refl (Extends log P) := ⟨fun _ => ⟨[], by simp⟩⟩

instance : IsTrans σ (Extends log P) where
  trans := by
    rintro s s' s'' ⟨t, ht, hP⟩ ⟨t', ht', hP'⟩
    refine ⟨t ++ t', by rw [ht', ht, List.append_assoc], fun a ha => ?_⟩
    exact (List.mem_append.1 ha).elim (hP a) (hP' a)

theorem Extends.beginning {s s' : σ} (h : Extends log P s s') : log s <+: log s' := by
  obtain ⟨t, ht, -⟩ := h
  exact ⟨t, ht.symm⟩

end Logs

end Proc
