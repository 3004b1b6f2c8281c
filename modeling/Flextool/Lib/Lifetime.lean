import Mathlib.Data.List.Basic

/-!
# Objects that are handed out and destroyed

A run is a list of actions.  Some of them hand objects out, some destroy objects, and some deliver
something to whoever was handed an object.  The objects `Outlive` the deliveries when nothing that
was handed out is destroyed before one.
-/

namespace Lifetime

variable {A ω : Type}

/-- How the actions of a run treat objects. -/
structure Reading (A ω : Type) where
  gives : A → List ω
  destroys : A → List ω
  delivers : A → Prop

variable (r : Reading A ω)

/-- At every delivery, no object handed out earlier has been destroyed. -/
def Outlive (run : List A) : Prop :=
  ∀ before a after, run = before ++ a :: after → r.delivers a →
    ∀ g ∈ before, ∀ o ∈ r.gives g, ∀ d ∈ before, o ∉ r.destroys d

variable {r}

/-- Where nothing is handed out, nothing can be missed. -/
theorem outlive_of_no_gives {run : List A} (h : ∀ a ∈ run, r.gives a = []) : Outlive r run := by
  rintro before a after rfl - g hg o ho
  rw [h g (List.mem_append_left _ hg)] at ho
  exact absurd ho List.not_mem_nil

/-- An object that is handed out, destroyed and then asked for does not outlive the delivery. -/
theorem not_outlive {run before after : List A} {a g d : A} {o : ω}
    (hrun : run = before ++ a :: after) (ha : r.delivers a) (hg : g ∈ before) (ho : o ∈ r.gives g)
    (hd : d ∈ before) (hdo : o ∈ r.destroys d) : ¬ Outlive r run :=
  fun h => h before a after hrun ha g hg o ho d hd hdo

/-- The same, where the delivery is found by its place in the run. -/
theorem not_outlive_at {run : List A} {i : ℕ} {a g d : A} {o : ω} (hrun : run[i]? = some a)
    (ha : r.delivers a) (hg : g ∈ run.take i) (ho : o ∈ r.gives g) (hd : d ∈ run.take i)
    (hdo : o ∈ r.destroys d) : ¬ Outlive r run := by
  obtain ⟨hi, hget⟩ := List.getElem?_eq_some_iff.1 hrun
  have hsplit : run = run.take i ++ a :: run.drop (i + 1) := by
    rw [← hget, ← List.drop_eq_getElem_cons hi, List.take_append_drop]
  exact not_outlive hsplit ha hg ho hd hdo

end Lifetime
