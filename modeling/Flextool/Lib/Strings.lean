import Mathlib.Data.List.Infix

/-!
# Prefixes up to a letter map, and separators

`Begins f p s` says that the list `p` begins the list `s` once every letter of both is read
through `f` (case folding, in the usual instance).  The second half follows such a prefix across
the join `k ++ sep :: v` of a key and a value: a prefix that ends in the separator either spells the
whole key or stays inside it.
-/

namespace Strings

variable {α β : Type}

/-- `p` begins `s`, both read through the letter map `f`. -/
def Begins (f : α → β) (p s : List α) : Prop := p.map f <+: s.map f

instance [DecidableEq β] (f : α → β) (p s : List α) : Decidable (Begins f p s) :=
  inferInstanceAs (Decidable (p.map f <+: s.map f))

theorem begins_append (f : α → β) (p s : List α) : Begins f p (p ++ s) := by
  simp [Begins]

/-- A one-letter prefix is the first letter. -/
theorem begins_singleton_iff (f : α → β) (a : α) (s : List α) :
    Begins f [a] s ↔ ∃ c t, s = c :: t ∧ f c = f a := by
  cases s with
  | nil => simp [Begins]
  | cons c t => simp [Begins, List.cons_prefix_cons, eq_comm]

/-- Two prefixes of one list start with the same letter. -/
theorem Begins.head_eq {f : α → β} {a b : α} {p q s : List α} (hp : Begins f (a :: p) s)
    (hq : Begins f (b :: q) s) : f a = f b := by
  cases s with
  | nil => simp [Begins] at hp
  | cons c t =>
    simp only [Begins, List.map_cons, List.cons_prefix_cons] at hp hq
    exact hp.1.trans hq.1.symm

/-- The same for prefixes of which nothing is known but that they are not empty. -/
theorem Begins.head?_eq {f : α → β} {p q s : List α} (hp : Begins f p s) (hq : Begins f q s)
    (hpne : p ≠ []) (hqne : q ≠ []) : p.head?.map f = q.head?.map f := by
  obtain ⟨a, p, rfl⟩ := List.exists_cons_of_ne_nil hpne
  obtain ⟨b, q, rfl⟩ := List.exists_cons_of_ne_nil hqne
  exact congrArg some (hp.head_eq hq)

/-- A list begins itself, and every list that reads the same. -/
theorem begins_of_map_eq {f : α → β} {p s : List α} (h : p.map f = s.map f) : Begins f p s := by
  unfold Begins
  rw [h]

/-! ## Undoing a join -/

/-- The part before the first separator, and what follows it, if there is one. -/
def cut [BEq α] (sep : α) (s : List α) : List α × Option (List α) :=
  (s.takeWhile (· != sep), (s.dropWhile (· != sep)).tail?)

/-- A join is undone when the key does not hold the separator. -/
theorem cut_join [BEq α] [LawfulBEq α] {sep : α} {k : List α} (h : sep ∉ k) (v : List α) :
    cut sep (k ++ sep :: v) = (k, some v) := by
  have hk : ∀ c ∈ k, (c != sep) = true := fun c hc => by
    rw [bne_iff_ne]
    rintro rfl
    exact h hc
  unfold cut
  rw [List.takeWhile_append_of_pos hk, List.dropWhile_append_of_pos hk]
  simp

/-! ## Prefixes of a join -/

theorem append_singleton_prefix_append_cons_iff {x : β} {p k v : List β} (hx : x ∉ p) :
    p ++ [x] <+: k ++ x :: v ↔ p = k ∨ p ++ [x] <+: k := by
  constructor
  · intro h
    rcases List.prefix_or_prefix_of_prefix h (List.prefix_append k (x :: v)) with hp | hk
    · exact Or.inr hp
    · rcases List.prefix_concat_iff.1 hk with rfl | ⟨r, rfl⟩
      · exact Or.inr (List.prefix_refl _)
      · left
        cases r with
        | nil => simp
        | cons y r =>
          rw [List.append_assoc, List.prefix_append_right_inj, List.cons_append,
            List.cons_prefix_cons] at h
          exact absurd (by simp [h.1]) hx
  · rintro (rfl | h)
    · simp
    · exact h.trans (List.prefix_append _ _)

/-- A prefix that ends in the separator begins the join when it spells the key, or begins it. -/
theorem begins_sep_join_iff {f : α → β} {sep : α} {p : List α} (hp : f sep ∉ p.map f)
    (k v : List α) :
    Begins f (p ++ [sep]) (k ++ sep :: v) ↔ p.map f = k.map f ∨ Begins f (p ++ [sep]) k := by
  rw [Begins, List.map_append, List.map_append, List.map_cons, List.map_cons, List.map_nil,
    append_singleton_prefix_append_cons_iff hp, Begins, List.map_append, List.map_cons,
    List.map_nil]

end Strings
