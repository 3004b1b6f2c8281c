import Mathlib.Logic.Function.Basic
import Mathlib.Data.List.Basic

/-!
# Stores

A store maps keys to the values they hold, if any.  After a sequence of `put`s a key holds the last
value that was put there, and a key that none of them mentions is as it was.
-/

namespace Store

variable {κ ν α : Type} [DecidableEq κ]

/-- Let the key hold the value. -/
def put (k : κ) (v : ν) (store : κ → Option ν) : κ → Option ν := Function.update store k (some v)

@[simp] theorem put_self (k : κ) (v : ν) (store : κ → Option ν) : put k v store k = some v :=
  Function.update_self ..

theorem put_of_ne {k k' : κ} (h : k' ≠ k) (v : ν) (store : κ → Option ν) :
    put k v store k' = store k' := Function.update_of_ne h ..

@[simp] theorem put_put (k : κ) (v w : ν) (store : κ → Option ν) :
    put k w (put k v store) = put k w store := Function.update_idem ..

/-- Two values can be put in either order, unless they differ and go to one key. -/
theorem put_comm {k k' : κ} {v v' : ν} (h : k = k' → v = v') (store : κ → Option ν) :
    put k v (put k' v' store) = put k' v' (put k v store) := by
  by_cases hk : k = k'
  · subst hk
    rw [h rfl]
  · exact (Function.update_comm hk ..).symm

/-- Put a value for every item, in order. -/
def putAll (key : α → κ) (value : α → ν) (items : List α) (store : κ → Option ν) : κ → Option ν :=
  items.foldl (fun store a => put (key a) (value a) store) store

variable {key : α → κ} {value : α → ν} {items : List α}

theorem putAll_of_not_mem {k : κ} (h : ∀ a ∈ items, key a ≠ k) (store : κ → Option ν) :
    putAll key value items store k = store k := by
  induction items generalizing store with
  | nil => rfl
  | cons a items ih =>
    unfold putAll
    rw [List.foldl_cons]
    exact (ih (fun b hb => h b (by simp [hb])) _).trans
      (put_of_ne (Ne.symm (h a (by simp))) _ _)

/-- The order does not matter when items with one key have one value. -/
theorem putAll_perm {items' : List α} (h : items'.Perm items)
    (hagree : ∀ a ∈ items, ∀ b ∈ items, key a = key b → value a = value b)
    (store : κ → Option ν) :
    putAll key value items' store = putAll key value items store :=
  h.foldl_eq' (fun a ha b hb store => put_comm (fun hk =>
    hagree b (h.subset hb) a (h.subset ha) hk) store) store

/-- The last item with a key decides what the key holds. -/
theorem putAll_last (before : List α) (a : α) {after : List α} (h : ∀ b ∈ after, key b ≠ key a)
    (store : κ → Option ν) :
    putAll key value (before ++ a :: after) store (key a) = some (value a) := by
  unfold putAll
  rw [List.foldl_append, List.foldl_cons]
  exact (putAll_of_not_mem h _).trans (put_self ..)

end Store
