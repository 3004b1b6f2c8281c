import Mathlib.Data.List.DropRight
import Mathlib.Logic.Function.Iterate

/-!
# The last component of a path and its extension

A path is a list of letters, split at the last occurrence of a separator.  `afterLast sep` is the
last component of a path, and `extension dot` the extension of a file name, from its last dot: it is
empty when there is none, when the only one is the first letter, and for the names `.` and `..`.
A name that has a tag and its own extension put behind it keeps its extension, and determines the
name it was made from (`tagged_inj`), from which it always differs (`iterate_tagged_ne`).
-/

namespace Paths

variable {α : Type} [DecidableEq α]

/-- The letters after the last occurrence of `sep`. -/
def afterLast (sep : α) (l : List α) : List α := l.rtakeWhile fun a => decide (a ≠ sep)

/-- The letters up to the last occurrence of `sep`, with it. -/
def throughLast (sep : α) (l : List α) : List α := l.rdropWhile fun a => decide (a ≠ sep)

/-- The extension of a file name, with its dot. -/
def extension (dot : α) (name : List α) : List α :=
  if name = [dot, dot] then []
  else if (throughLast dot name).length ≤ 1 then []
  else dot :: afterLast dot name

theorem throughLast_append_afterLast (sep : α) (l : List α) :
    throughLast sep l ++ afterLast sep l = l := List.rdropWhile_append_rtakeWhile ..

theorem not_mem_afterLast (sep : α) (l : List α) : sep ∉ afterLast sep l := fun h => by
  simpa using List.mem_rtakeWhile_imp h

theorem throughLast_append_cons {sep : α} {suffix : List α} (h : sep ∉ suffix) (l : List α) :
    throughLast sep (l ++ sep :: suffix) = l ++ [sep] := by
  induction suffix using List.reverseRecOn with
  | nil => exact List.rdropWhile_concat_neg _ _ _ (by simp)
  | append_singleton suffix a ih =>
    simp only [List.mem_append, List.mem_singleton, not_or] at h
    unfold throughLast
    rw [← List.cons_append, ← List.append_assoc,
      List.rdropWhile_concat_pos _ _ _ (by simpa using Ne.symm h.2)]
    exact ih h.1

theorem afterLast_append_cons {sep : α} {suffix : List α} (h : sep ∉ suffix) (l : List α) :
    afterLast sep (l ++ sep :: suffix) = suffix := by
  have hsplit := throughLast_append_afterLast sep (l ++ sep :: suffix)
  rw [throughLast_append_cons h, List.append_assoc, List.append_right_inj, List.singleton_append,
    List.cons.injEq] at hsplit
  exact hsplit.2

/-- What ends at the last separator ends in it. -/
theorem exists_throughLast_eq {sep : α} {l : List α} (h : throughLast sep l ≠ []) :
    ∃ stem, throughLast sep l = stem ++ [sep] := by
  have hnot := List.rdropWhile_last_not (fun a => decide (a ≠ sep)) l h
  have hlast : (throughLast sep l).getLast h = sep := by
    by_contra hne
    exact hnot (decide_eq_true hne)
  have hsplit := List.dropLast_append_getLast h
  rw [hlast] at hsplit
  exact ⟨_, hsplit.symm⟩

theorem afterLast_of_not_mem {sep : α} {l : List α} (h : sep ∉ l) : afterLast sep l = l := by
  unfold afterLast
  rw [List.rtakeWhile_eq_self_iff]
  intro a ha
  exact decide_eq_true fun e => h (e ▸ ha)

/-- A component without separators extends the last component. -/
theorem afterLast_append {sep : α} {component : List α} (h : sep ∉ component) (l : List α) :
    afterLast sep (l ++ component) = afterLast sep l ++ component := by
  have hsplit := throughLast_append_afterLast sep l
  have hrest : sep ∉ afterLast sep l ++ component := by
    simp [h, not_mem_afterLast sep l]
  by_cases hthrough : throughLast sep l = []
  · rw [hthrough, List.nil_append] at hsplit
    rw [hsplit] at hrest ⊢
    exact afterLast_of_not_mem hrest
  · obtain ⟨stem, hstem⟩ := exists_throughLast_eq hthrough
    conv_lhs => rw [← hsplit, hstem]
    rw [List.append_assoc, List.append_assoc, List.singleton_append]
    exact afterLast_append_cons hrest stem

/-! ## Extensions -/

theorem extension_append_cons {dot : α} {stem suffix : List α} (hstem : stem ≠ [])
    (hsuffix : dot ∉ suffix) (hname : stem ++ dot :: suffix ≠ [dot, dot]) :
    extension dot (stem ++ dot :: suffix) = dot :: suffix := by
  have hlen : 0 < stem.length := List.length_pos_iff.2 hstem
  unfold extension
  rw [if_neg hname, throughLast_append_cons hsuffix,
    if_neg (by rw [List.length_append, List.length_singleton]; omega),
    afterLast_append_cons hsuffix]

/-- A name that has an extension is a nonempty stem, the last dot and what follows it. -/
theorem exists_of_extension_ne_nil {dot : α} {name : List α} (h : extension dot name ≠ []) :
    ∃ stem suffix, stem ≠ [] ∧ dot ∉ suffix ∧ name = stem ++ dot :: suffix ∧
      extension dot name = dot :: suffix := by
  unfold extension at h ⊢
  split at h
  · exact absurd rfl h
  · rename_i hdots
    split at h
    · exact absurd rfl h
    · rename_i hlen
      have hne : throughLast dot name ≠ [] := fun e => by simp [e] at hlen
      obtain ⟨stem, hstem⟩ := exists_throughLast_eq hne
      refine ⟨stem, afterLast dot name, ?_, not_mem_afterLast dot name, ?_, by
        rw [if_neg hdots, if_neg hlen]⟩
      · rintro rfl
        simp [hstem] at hlen
      · conv_lhs => rw [← throughLast_append_afterLast dot name, hstem]
        rw [List.append_assoc, List.singleton_append]

theorem extension_isSuffix (dot : α) (name : List α) : extension dot name <:+ name := by
  by_cases h : extension dot name = []
  · rw [h]
    exact List.nil_suffix
  · obtain ⟨stem, suffix, -, -, hname, hext⟩ := exists_of_extension_ne_nil h
    rw [hext, hname]
    exact List.suffix_append stem _

/-- What stands before a name that has an extension does not change the extension. -/
theorem extension_append_left {dot : α} {name : List α} (h : extension dot name ≠ [])
    (l : List α) : extension dot (l ++ name) = extension dot name := by
  obtain ⟨stem, suffix, hstem, hsuffix, hname, hext⟩ := exists_of_extension_ne_nil h
  have hstem' : l ++ stem ≠ [] := List.append_ne_nil_of_right_ne_nil l hstem
  rw [hext, hname, ← List.append_assoc]
  apply extension_append_cons hstem' hsuffix
  intro e
  have hlen := congrArg List.length e
  have hpos : 0 < stem.length := List.length_pos_iff.2 hstem
  simp only [List.length_append, List.length_cons, List.length_nil] at hlen
  have hl : l = [] := List.length_eq_zero_iff.1 (by omega)
  rw [hl, List.nil_append, ← hname] at e
  exact h (by rw [e]; exact if_pos rfl)

/-- A name with a tag and its own extension behind it. -/
def tagged (dot : α) (tag name : List α) : List α := name ++ tag ++ extension dot name

theorem not_mem_tagged {sep dot : α} {tag name : List α} (htag : sep ∉ tag) (hname : sep ∉ name) :
    sep ∉ tagged dot tag name := by
  have hextension : sep ∉ extension dot name := fun h =>
    hname ((extension_isSuffix dot name).subset h)
  simp [tagged, htag, hname, hextension]

/-- A tagged name keeps the extension. -/
theorem extension_tagged {dot : α} {name : List α} (tag : List α) (h : extension dot name ≠ []) :
    extension dot (tagged dot tag name) = extension dot name := by
  obtain ⟨stem, suffix, hstem, hsuffix, hname, hext⟩ := exists_of_extension_ne_nil h
  have hne : name ++ tag ≠ [] := by simp [hname]
  unfold tagged
  rw [hext]
  apply extension_append_cons hne hsuffix
  intro e
  have hlen := congrArg List.length e
  have hpos : 0 < stem.length := List.length_pos_iff.2 hstem
  simp only [hname, List.length_append, List.length_cons, List.length_nil] at hlen
  omega

/-- A tagged name determines the name it was made from. -/
theorem tagged_inj {dot : α} {tag f g : List α} (hf : extension dot f ≠ [])
    (hg : extension dot g ≠ []) : tagged dot tag f = tagged dot tag g ↔ f = g := by
  refine ⟨fun h => ?_, congrArg _⟩
  have hext := congrArg (extension dot) h
  rw [extension_tagged tag hf, extension_tagged tag hg] at hext
  rwa [tagged, tagged, hext, List.append_cancel_right_eq, List.append_cancel_right_eq] at h

/-- A tag makes a name longer, every time. -/
theorem length_add_le_iterate_tagged {dot : α} {tag : List α} (htag : tag ≠ []) (n : ℕ)
    (name : List α) : name.length + n ≤ ((tagged dot tag)^[n] name).length := by
  have hpos : 0 < tag.length := List.length_pos_iff.2 htag
  induction n with
  | zero => exact le_refl _
  | succ n ih =>
    rw [Function.iterate_succ_apply']
    generalize (tagged dot tag)^[n] name = tagged' at ih ⊢
    unfold tagged
    rw [List.length_append, List.length_append]
    omega

/-- Tagging a name again and again never gives it back. -/
theorem iterate_tagged_ne {dot : α} {tag : List α} (htag : tag ≠ []) {n : ℕ} (hn : 1 ≤ n)
    (name : List α) : (tagged dot tag)^[n] name ≠ name := by
  intro e
  have hlen : name.length + n ≤ ((tagged dot tag)^[n] name).length :=
    length_add_le_iterate_tagged htag n name
  rw [e] at hlen
  omega

end Paths
