import Flextool.BuildPath
import Flextool.MainProof

/-!
# What LibTooling is run with

`World.clangArgs` are the arguments of LibTooling for a command line: the defaults, the options that
are let through, and `-help` when it is asked for.  Read the way LibTooling reads them, the
forwarded words are the options of the command line again, with their values as they were given
(`readWord_clangOutputs`).
-/

namespace Flextool

/-! ## The arguments -/

/-- The options that are left over for LibTooling. -/
def World.leftOver (w : World) : List UnergisteredOption :=
  w.commandLine.unregisteredOptions w.baseSwitches

/-- The arguments of LibTooling for this command line. -/
def World.clangArgs (w : World) : List Str :=
  pushDefaultClangArgs w.host w.outDir w.host.dirExePath [] ++
    w.leftOver.flatMap (clangOutputs w.host) ++
      if w.commandLine.Given kHelp then [kClangHelpFlag] else []

/-- They are what `clang_env.init` collects. -/
theorem argsStorage_of_clangInit {w : World} {clangEnv : ScopedClangEnvironment}
    (h : w.clangInit = .ok (true, clangEnv)) : clangEnv.argsStorage = w.clangArgs := by
  obtain ⟨dirExe, hdir, -, hargs⟩ := ScopedClangEnvironment.argsStorage_init h
  have hpath : w.host.dirExePath = dirExe := by rw [Host.dirExePath, hdir, Option.getD_some]
  rw [hargs, World.clangArgs, hpath, World.outDir, hpath]
  rfl

/-- No word is empty: `-` stands before each but the name of the application and the positional
arguments, and an empty positional argument names no file. -/
theorem clangOutputs_ne_nil (host : Host) (o : UnergisteredOption) :
    ∀ arg ∈ clangOutputs host o, arg ≠ [] := by
  rintro arg harg rfl
  obtain ⟨text, -, hout⟩ := List.mem_flatMap.1 harg
  unfold clangOutput at hout
  split at hout
  · next hallowed =>
    rw [List.mem_singleton] at hout
    split at hout
    · rw [← hout, not_allowed_nil] at hallowed
      exact absurd hallowed.1 (by simp)
    · exact absurd hout (by simp)
  · exact absurd hout List.not_mem_nil

theorem pushDefaultClangArgs_words (host : Host) (path dirExe : FilePath) :
    ∀ arg ∈ pushDefaultClangArgs host path dirExe [], arg ≠ [] := by
  obtain ⟨flags, hflags⟩ := pushDefaultClangArgs_eq host path dirExe
  have hpath : kClangBuildPathFlag ++ path ≠ [] := List.append_ne_nil_of_left_ne_nil (by decide) _
  have hflag : ∀ flag, kExtraClangFlag ++ flag ≠ [] := fun flag =>
    List.append_ne_nil_of_left_ne_nil (by decide) _
  rw [hflags]
  intro arg harg
  rcases List.mem_cons.1 harg with rfl | harg
  · decide
  · rcases List.mem_append.1 harg with harg | harg
    · split at harg
      · rw [List.mem_singleton.1 harg]
        exact hpath
      · exact absurd harg List.not_mem_nil
    · obtain ⟨flag, -, rfl⟩ := List.mem_map.1 harg
      exact hflag flag

theorem clangArgs_words (w : World) : ∀ arg ∈ w.clangArgs, arg ≠ [] := by
  intro arg harg
  rcases List.mem_append.1 harg with harg | harg
  · rcases List.mem_append.1 harg with harg | harg
    · exact pushDefaultClangArgs_words _ _ _ arg harg
    · obtain ⟨o, -, ho⟩ := List.mem_flatMap.1 harg
      exact clangOutputs_ne_nil w.host o arg ho
  · split at harg
    · rw [List.mem_singleton.1 harg]
      decide
    · exact absurd harg List.not_mem_nil

theorem clangArgs_ne_nil (w : World) : w.clangArgs ≠ [] :=
  List.append_ne_nil_of_left_ne_nil
    (List.append_ne_nil_of_left_ne_nil (pushDefaultClangArgs_ne_nil _ _ _ _) _) _

/-- LibTooling is asked for help exactly when the command line asks for it. -/
theorem help_mem_clangArgs_iff (w : World) :
    kClangHelpFlag ∈ w.clangArgs ↔ w.commandLine.Given kHelp := by
  have hforwarded : kClangHelpFlag ∉ w.leftOver.flatMap (clangOutputs w.host) := by
    intro hmem
    obtain ⟨o, -, ho⟩ := List.mem_flatMap.1 hmem
    exact flag_not_mem_clangOutputs w.host o (by decide : isFlag valuelessFlags kHelp = true) ho
  have hdefaults := help_not_mem_pushDefaultClangArgs w.host w.outDir w.host.dirExePath
  unfold World.clangArgs
  rw [List.mem_append, List.mem_append, or_iff_right (not_or.2 ⟨hdefaults, hforwarded⟩)]
  split
  · next h => exact iff_of_true (List.mem_singleton_self _) h
  · next h => exact iff_of_false List.not_mem_nil h

/-! ## Reading them back -/

/-- A word as LibTooling reads it: a dash, a key up to the first `=`, and a value.  Any other word
is positional. -/
def readWord : Str → Str × Str
  | '-' :: rest => ((Strings.cut '=' rest).1, (Strings.cut '=' rest).2.getD [])
  | word => ([], word)

/-- The values that are let through: none when the key starts with a dash, and otherwise those that
are allowed and do not start with one themselves. -/
def UnergisteredOption.letThrough (host : Host) (o : UnergisteredOption) : List Str :=
  o.values.filter fun v => decide (o.key.head? ≠ some '-') && Allowed host (o.text v) &&
    decide ((o.text v).head? ≠ some '-')

theorem readWord_of_not_dash {word : Str} (h : word.head? ≠ some '-') :
    readWord word = ([], word) := by
  unfold readWord
  split
  · exact absurd rfl h
  · rfl

/-- Of an option whose key holds no `=`, LibTooling reads the key and each value that was let
through. -/
theorem readWord_clangOutputs (host : Host) {o : UnergisteredOption} (h : '=' ∉ o.key) :
    (clangOutputs host o).map readWord = (o.letThrough host).map fun v => (o.key, v) := by
  unfold UnergisteredOption.letThrough
  by_cases hd : o.key.head? = some '-'
  · rw [clangOutputs_of_dash host hd]
    simp [hd]
  · by_cases hk : o.key = []
    · simp only [clangOutputs_positional host hk, o.text_of_key_nil hk, hk, List.head?_nil, ne_eq,
        reduceCtorEq, not_false_eq_true, decide_true, Bool.true_and, Bool.decide_and,
        Bool.decide_eq_true]
      apply List.map_congr_left
      intro v hv
      have hdash := (List.mem_filter.1 hv).2
      rw [Bool.and_eq_true, decide_eq_true_eq] at hdash
      exact readWord_of_not_dash hdash.2
    · have htext : ∀ v, (o.text v).head? = o.key.head? := fun v => by
        obtain ⟨c, key, hkey⟩ := List.exists_cons_of_ne_nil hk
        rw [o.text_of_key_ne_nil hk, hkey]
        rfl
      simp only [clangOutputs_keyed host hk hd, htext, ne_eq, hd, not_false_eq_true, decide_true,
        Bool.true_and, Bool.and_true, List.map_map]
      apply List.map_congr_left
      intro v _
      show ((Strings.cut '=' (o.key ++ '=' :: v)).1,
        (Strings.cut '=' (o.key ++ '=' :: v)).2.getD []) = (o.key, v)
      rw [Strings.cut_join h]
      rfl

end Flextool
