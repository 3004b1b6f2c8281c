import Mathlib.Order.BooleanAlgebra.Set
import Mathlib.Data.Set.Insert

/-!
# Objects in custody

A run is a list of actions that create, destroy and lend objects.  `Held r run live` says that the
run is in order from its first action on, and which objects are alive after it: nothing is created
that is alive, and only what is alive is destroyed or lent.
-/

namespace Custody

variable {A ω : Type}

/-- What the actions of a run do to objects. -/
structure Reading (A ω : Type) where
  creates : A → Set ω
  destroys : A → Set ω
  lends : A → Set ω

namespace Reading

variable (r : Reading A ω)

/-- The action creates this object and does nothing else. -/
structure Creates (a : A) (o : ω) : Prop where
  creates : r.creates a = {o}
  destroys : r.destroys a = ∅
  lends : r.lends a = ∅

/-- The action destroys this object and does nothing else. -/
structure Destroys (a : A) (o : ω) : Prop where
  creates : r.creates a = ∅
  destroys : r.destroys a = {o}
  lends : r.lends a = ∅

/-- The action lends none but these objects and does nothing else. -/
structure Lends (a : A) (objects : Set ω) : Prop where
  creates : r.creates a = ∅
  destroys : r.destroys a = ∅
  lends : r.lends a ⊆ objects

end Reading

/-- The run is in order, and these objects are alive after it. -/
inductive Held (r : Reading A ω) : List A → Set ω → Prop
  | start : Held r [] ∅
  | step {run : List A} {live : Set ω} {a : A} : Held r run live →
      (∀ o ∈ r.creates a, o ∉ live) → r.destroys a ⊆ live → r.lends a ⊆ live →
      Held r (run ++ [a]) ((live ∪ r.creates a) \ r.destroys a)

namespace Held

variable {r : Reading A ω} {run : List A} {live : Set ω} {a : A} {o : ω}

theorem lend (h : Held r run live) (ha : r.Lends a live) : Held r (run ++ [a]) live := by
  have hstep := h.step (a := a) (by simp [ha.creates]) (by simp [ha.destroys]) ha.lends
  rwa [ha.creates, ha.destroys, Set.union_empty, Set.sdiff_empty] at hstep

theorem create (h : Held r run live) (ha : r.Creates a o) (ho : o ∉ live) :
    Held r (run ++ [a]) (insert o live) := by
  have hstep := h.step (a := a) (by simpa [ha.creates] using ho) (by simp [ha.destroys])
    (by simp [ha.lends])
  rwa [ha.creates, ha.destroys, Set.sdiff_empty, Set.union_singleton] at hstep

theorem destroy (h : Held r run live) (ha : r.Destroys a o) (ho : o ∈ live) :
    Held r (run ++ [a]) (live \ {o}) := by
  have hstep := h.step (a := a) (by simp [ha.creates]) (by simpa [ha.destroys] using ho)
    (by simp [ha.lends])
  rwa [ha.creates, ha.destroys, Set.union_empty] at hstep

/-! ### Several actions -/

theorem lendAll {actions : List A} (h : Held r run live) (ha : ∀ a ∈ actions, r.Lends a live) :
    Held r (run ++ actions) live := by
  induction actions generalizing run with
  | nil => rwa [List.append_nil]
  | cons a actions ih =>
    rw [List.append_cons]
    exact ih (h.lend (ha a (by simp))) fun b hb => ha b (by simp [hb])

theorem createAll {f : ω → A} (hf : ∀ o, r.Creates (f o) o) {objects : List ω}
    (hnodup : objects.Nodup) (hnew : ∀ o ∈ objects, o ∉ live) (h : Held r run live) :
    Held r (run ++ objects.map f) (live ∪ {o | o ∈ objects}) := by
  induction objects generalizing run live with
  | nil => simpa using h
  | cons o objects ih =>
    obtain ⟨ho, hnodup⟩ := List.nodup_cons.1 hnodup
    have hlive : live ∪ {x | x ∈ o :: objects} = insert o live ∪ {x | x ∈ objects} := by
      ext x
      simp only [Set.mem_union, Set.mem_ofPred_eq, List.mem_cons, Set.mem_insert_iff]
      tauto
    rw [List.map_cons, List.append_cons, hlive]
    apply ih hnodup _ (h.create (hf o) (hnew o (by simp)))
    intro x hx
    rw [Set.mem_insert_iff, not_or]
    exact ⟨fun e => ho (e ▸ hx), hnew x (by simp [hx])⟩

theorem destroyAll {f : ω → A} (hf : ∀ o, r.Destroys (f o) o) {objects : List ω}
    (hnodup : objects.Nodup) (halive : ∀ o ∈ objects, o ∈ live) (h : Held r run live) :
    Held r (run ++ objects.map f) (live \ {o | o ∈ objects}) := by
  induction objects generalizing run live with
  | nil => simpa using h
  | cons o objects ih =>
    obtain ⟨ho, hnodup⟩ := List.nodup_cons.1 hnodup
    have hlive : live \ {x | x ∈ o :: objects} = (live \ {o}) \ {x | x ∈ objects} := by
      ext x
      simp only [Set.mem_sdiff, Set.mem_ofPred_eq, List.mem_cons, Set.mem_singleton_iff]
      tauto
    rw [List.map_cons, List.append_cons, hlive]
    apply ih hnodup _ (h.destroy (hf o) (halive o (by simp)))
    exact fun x hx => ⟨halive x (by simp [hx]), fun e => ho ((Set.mem_singleton_iff.1 e) ▸ hx)⟩

end Held

end Custody
