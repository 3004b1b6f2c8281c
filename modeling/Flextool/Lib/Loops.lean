import Mathlib.Data.List.Basic

/-!
# Loops whose steps may fail

A step of a fallible loop is `Guarded` when a condition on the item alone decides whether it
fails, and otherwise it makes a pure step.  A loop over guarded steps is itself a guarded step
over the list of its items, so nested loops are handled by applying `Guarded.foldlM` twice.
-/

namespace Loops

variable {ε σ α : Type}

@[simp] theorem ok_bind {β : Type} (a : α) (f : α → Except ε β) : (Except.ok a >>= f) = f a := rfl

@[simp] theorem error_bind {β : Type} (e : ε) (f : α → Except ε β) :
    (Except.error e >>= f) = .error e := rfl

@[simp] theorem pure_eq_ok (a : α) : (pure a : Except ε α) = .ok a := rfl

@[simp] theorem map_ok {β : Type} (f : α → β) (a : α) :
    (Except.ok a : Except ε α).map f = .ok (f a) := rfl

@[simp] theorem map_error {β : Type} (f : α → β) (e : ε) :
    (Except.error e : Except ε α).map f = .error e := rfl

theorem bind_eq_ok_iff {β : Type} {x : Except ε α} {f : α → Except ε β} {b : β} :
    x >>= f = .ok b ↔ ∃ a, x = .ok a ∧ f a = .ok b := by
  cases x with
  | error e => simp
  | ok a => simp

theorem mapError_eq_ok_iff {δ : Type} {f : ε → δ} {x : Except ε α} {a : α} :
    x.mapError f = .ok a ↔ x = .ok a := by
  cases x with
  | error e => simp [Except.mapError]
  | ok a' => simp [Except.mapError]

/-- A loop that only asserts succeeds exactly when every assertion does. -/
theorem forM_eq_ok_iff {f : α → Except ε Unit} {l : List α} :
    l.forM f = .ok () ↔ ∀ a ∈ l, f a = .ok () := by
  induction l with
  | nil => exact iff_of_true rfl fun a ha => absurd ha List.not_mem_nil
  | cons a l ih =>
    show (f a >>= fun _ => l.forM f) = .ok () ↔ _
    rw [bind_eq_ok_iff, List.forall_mem_cons, ← ih]
    exact ⟨fun ⟨_, ha, hl⟩ => ⟨ha, hl⟩, fun ⟨ha, hl⟩ => ⟨⟨⟩, ha, hl⟩⟩

/-- `step` makes the pure step `next` on the items that satisfy `guard` and fails on the others. -/
structure Guarded (step : σ → α → Except ε σ) (guard : α → Prop) (next : σ → α → σ) : Prop where
  ok : ∀ s a, guard a → step s a = .ok (next s a)
  error : ∀ s a, ¬ guard a → ∃ e, step s a = .error e

namespace Guarded

variable {step : σ → α → Except ε σ} {guard : α → Prop} {next : σ → α → σ}

theorem eq_ok_iff (h : Guarded step guard next) (s s' : σ) (a : α) :
    step s a = .ok s' ↔ guard a ∧ next s a = s' := by
  by_cases ha : guard a
  · simp [h.ok s a ha, ha]
  · obtain ⟨e, he⟩ := h.error s a ha
    simp [he, ha]

/-- Items excused by `skip` leave the state alone and cannot fail. -/
theorem skipIf (h : Guarded step guard next) (skip : α → Prop) [DecidablePred skip] :
    Guarded (fun s a => if skip a then .ok s else step s a) (fun a => ¬ skip a → guard a)
      (fun s a => if skip a then s else next s a) where
  ok s a ha := by
    by_cases hs : skip a
    · simp [hs]
    · simp [hs, h.ok s a (ha hs)]
  error s a ha := by
    rw [Classical.not_imp] at ha
    obtain ⟨hs, hg⟩ := ha
    simpa [hs] using h.error s a hg

/-- A loop of guarded steps is a guarded step: it fails exactly when some item does. -/
theorem foldlM (h : Guarded step guard next) :
    Guarded (fun s (l : List α) => l.foldlM step s) (fun l => ∀ a ∈ l, guard a)
      (fun s l => l.foldl next s) where
  ok s l := by
    induction l generalizing s with
    | nil => exact fun _ => rfl
    | cons a l ih =>
      intro hl
      rw [List.foldlM_cons, h.ok s a (hl a (by simp)), List.foldl_cons]
      exact ih _ fun b hb => hl b (by simp [hb])
  error s l := by
    induction l generalizing s with
    | nil => exact fun hl => absurd (by simp) hl
    | cons a l ih =>
      intro hl
      rw [List.foldlM_cons]
      by_cases ha : guard a
      · rw [h.ok s a ha]
        exact ih _ fun hl' => hl (by simpa [ha] using hl')
      · obtain ⟨e, he⟩ := h.error s a ha
        exact ⟨e, by rw [he]; rfl⟩

/-- A step that loops over the items belonging to its own item. -/
theorem nested {β : Type} {step : α → σ → β → Except ε σ} {guard : α → β → Prop}
    {next : α → σ → β → σ} (h : ∀ a, Guarded (step a) (guard a) (next a)) (items : α → List β) :
    Guarded (fun s a => (items a).foldlM (step a) s) (fun a => ∀ x ∈ items a, guard a x)
      (fun s a => (items a).foldl (next a) s) where
  ok s a := (h a).foldlM.ok s (items a)
  error s a := (h a).foldlM.error s (items a)

end Guarded

/-! ## Outputs of a loop -/

section Outputs

variable {β : Type}

theorem length_flatMap_le {f g : α → List β} {l : List α}
    (h : ∀ a ∈ l, (f a).length ≤ (g a).length) : (l.flatMap f).length ≤ (l.flatMap g).length := by
  induction l with
  | nil => simp
  | cons a l ih =>
    rw [List.flatMap_cons, List.flatMap_cons, List.length_append, List.length_append]
    exact Nat.add_le_add (h a (by simp)) (ih fun x hx => h x (by simp [hx]))

/-- Two loops of which one emits no more than the other at each item emit the same in total only
when they emit the same at each item. -/
theorem flatMap_eq_iff_of_length_le {f g : α → List β} {l : List α}
    (h : ∀ a ∈ l, (f a).length ≤ (g a).length) :
    l.flatMap f = l.flatMap g ↔ ∀ a ∈ l, f a = g a := by
  refine ⟨fun e => ?_, fun e => List.flatMap_congr e⟩
  induction l with
  | nil => simp
  | cons a l ih =>
    have htail : ∀ x ∈ l, (f x).length ≤ (g x).length := fun x hx => h x (by simp [hx])
    have hle : (l.flatMap f).length ≤ (l.flatMap g).length := length_flatMap_le htail
    have ha : (f a).length ≤ (g a).length := h a (by simp)
    have hlen := congrArg List.length e
    simp only [List.flatMap_cons, List.length_append] at hlen e
    obtain ⟨e₁, e₂⟩ := List.append_inj e (by omega)
    simpa [e₁] using ih htail e₂

/-- A loop that emits one output for some of its items. -/
theorem flatMap_ite_singleton (p : α → Prop) [DecidablePred p] (f : α → β) (l : List α) :
    (l.flatMap fun a => if p a then [f a] else []) = (l.filter fun a => decide (p a)).map f := by
  induction l with
  | nil => rfl
  | cons a l ih =>
    by_cases h : p a
    · simp [h, ih]
    · simp [h, ih]

theorem filter_eq_filter_iff_of_imp {p q : α → Bool} {l : List α} (h : ∀ a ∈ l, p a → q a) :
    l.filter p = l.filter q ↔ ∀ a ∈ l, q a → p a := by
  constructor
  · intro e a ha hq
    have : a ∈ l.filter q := List.mem_filter.2 ⟨ha, hq⟩
    rw [← e] at this
    exact (List.mem_filter.1 this).2
  · intro e
    apply List.filter_congr
    intro a ha
    exact Bool.eq_iff_iff.2 ⟨h a ha, e a ha⟩

end Outputs

end Loops
