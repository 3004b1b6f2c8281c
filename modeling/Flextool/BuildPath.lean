import Flextool.ClangEnvironment
import Flextool.Forwarding

/-!
# Options that LibTooling takes once

Three producers fill the arguments that LibTooling is run with: the defaults, the forwarding loop
and the push of `-help` in `init`.  What each of them says of the build path is computed on its own,
and the three are put together in `filter_argsStorage_init`: the default is pushed without a look at
the command line, and the loop forwards every value of `p`.
-/

namespace Flextool

/-- The argument sets the build path of LibTooling. -/
def setsBuildPath (arg : Str) : Bool := decide (kClangBuildPathFlag <+: arg)

/-- The option is the build path of LibTooling, whatever its value. -/
def UnergisteredOption.NamesBuildPath (o : UnergisteredOption) : Prop :=
  o.key = "p".toList ∨ "p=".toList <+: o.key

instance (o : UnergisteredOption) : Decidable o.NamesBuildPath :=
  inferInstanceAs (Decidable (_ ∨ _))

/-- The build paths that are given with an option, one for each value. -/
def UnergisteredOption.buildPaths (o : UnergisteredOption) : List Str :=
  if o.NamesBuildPath then o.values.map fun v => kClangArgPrefix ++ o.text v else []

/-- The build paths that are given on the command line. -/
def CommandLine.buildPaths (baseSwitches : BaseSwitches) (cmd : CommandLine) : List Str :=
  (cmd.unregisteredOptions baseSwitches).flatMap UnergisteredOption.buildPaths

/-- No option is set twice, and a given build path replaces the default. -/
structure SetOnce (given args : List Str) : Prop where
  buildPath : (args.filter setsBuildPath).length ≤ 1
  help : args.count kClangHelpFlag ≤ 1
  /-- unless there are no arguments, one of the given paths is the only one -/
  replaced : args ≠ [] → given ≠ [] → ∃ path ∈ given, args.filter setsBuildPath = [path]

/-- Of the paths that are set, those that are given come after those that are not. -/
theorem setOnce_iff {given others args : List Str}
    (hfilter : args.filter setsBuildPath = others ++ given)
    (hhelp : args.count kClangHelpFlag ≤ 1) :
    SetOnce given args ↔ others.length + given.length ≤ 1 := by
  rw [← List.length_append, ← hfilter]
  refine ⟨SetOnce.buildPath, fun hlen => ⟨hlen, hhelp, fun _ hgiven => ?_⟩⟩
  rw [hfilter, List.length_append] at hlen
  have hpos : 0 < given.length := List.length_pos_iff.2 hgiven
  have hothers : others = [] := List.length_eq_zero_iff.1 (by omega)
  obtain ⟨path, rfl⟩ := List.length_eq_one_iff.1 (by omega : given.length = 1)
  exact ⟨path, List.mem_singleton_self _, by rw [hfilter, hothers, List.nil_append]⟩

/-! ## The producers -/

/-- The defaults are the name of the application, the build path if it exists, and arguments that
begin with `-extra-arg`. -/
theorem pushDefaultClangArgs_eq (host : Host) (path dirExe : FilePath) :
    ∃ flags : List Str, pushDefaultClangArgs host path dirExe [] = "clang_app".toList ::
      ((if host.pathExists path then [kClangBuildPathFlag ++ path] else []) ++
        flags.map (kExtraClangFlag ++ ·)) := by
  have hpath : (!path.isEmpty && host.pathExists path) = host.pathExists path := by
    cases path with
    | nil => exact host.pathExists_nil.symm
    | cons c path => rfl
  refine ⟨["=".toList ++ "-Wno-unused-command-line-argument".toList,
    "=".toList ++ "-DCLANG_ENABLED=1".toList, "=".toList ++ "-DCLANG_IS_ON=1".toList,
    "=".toList ++ "-DBOOST_SYSTEM_NO_DEPRECATED".toList,
    "=".toList ++ "-DBOOST_ERROR_CODE_HEADER_ONLY".toList, "=-I".toList ++ dirExe,
    "=-I".toList ++ host.append dirExe "./resources".toList, "=".toList ++ "-std=c++17".toList], ?_⟩
  unfold pushDefaultClangArgs
  rw [hpath]
  cases host.pathExists path <;> rfl

/-- An argument that begins with `-extra-arg` is neither a build path nor `-help`. -/
theorem extraArg_apart (flag : Str) : setsBuildPath (kExtraClangFlag ++ flag) = false ∧
    kExtraClangFlag ++ flag ≠ kClangHelpFlag := by
  constructor
  · apply decide_eq_false
    show ¬ '-' :: 'p' :: ['='] <+: '-' :: 'e' :: ("xtra-arg".toList ++ flag)
    rw [List.prefix_cons_inj, List.cons_prefix_cons]
    exact fun h => absurd h.1 (by decide)
  · show '-' :: 'e' :: ("xtra-arg".toList ++ flag) ≠ '-' :: 'h' :: "elp".toList
    simp

/-- The build path among the defaults. -/
theorem filter_pushDefaultClangArgs (host : Host) (path dirExe : FilePath) :
    (pushDefaultClangArgs host path dirExe []).filter setsBuildPath =
      if host.pathExists path then [kClangBuildPathFlag ++ path] else [] := by
  have hname : ¬ setsBuildPath "clang_app".toList = true := by decide
  have hset : setsBuildPath (kClangBuildPathFlag ++ path) = true :=
    decide_eq_true (List.prefix_append _ _)
  obtain ⟨flags, hflags⟩ := pushDefaultClangArgs_eq host path dirExe
  have hrest : (flags.map (kExtraClangFlag ++ ·)).filter setsBuildPath = [] := by
    rw [List.filter_eq_nil_iff, List.forall_mem_map]
    intro flag _
    rw [(extraArg_apart flag).1]
    exact Bool.false_ne_true
  rw [hflags, List.filter_cons_of_neg hname, List.filter_append, hrest, List.append_nil]
  split
  · rw [List.filter_cons_of_pos hset, List.filter_nil]
  · rfl

/-- No default is `-help`. -/
theorem help_not_mem_pushDefaultClangArgs (host : Host) (path dirExe : FilePath) :
    kClangHelpFlag ∉ pushDefaultClangArgs host path dirExe [] := by
  obtain ⟨flags, hflags⟩ := pushDefaultClangArgs_eq host path dirExe
  have hpath : kClangBuildPathFlag ++ path ≠ kClangHelpFlag := by
    show '-' :: 'p' :: ('=' :: path) ≠ '-' :: 'h' :: "elp".toList
    simp
  rw [hflags, List.mem_cons, List.mem_append, List.mem_map]
  rintro (hname | hdefault | ⟨flag, -, hflag⟩)
  · exact absurd hname (by decide)
  · split at hdefault
    · exact hpath (List.mem_singleton.1 hdefault).symm
    · exact absurd hdefault List.not_mem_nil
  · exact (extraArg_apart flag).2 hflag

theorem UnergisteredOption.NamesBuildPath.head {o : UnergisteredOption} (h : o.NamesBuildPath) :
    o.key.head? = some 'p' := by
  rcases h with hkey | ⟨rest, hkey⟩
  · rw [hkey]
    rfl
  · rw [← hkey]
    rfl

theorem setsBuildPath_text_iff {o : UnergisteredOption} (hk : o.key ≠ []) (v : Str) :
    setsBuildPath (kClangArgPrefix ++ o.text v) = true ↔ o.NamesBuildPath := by
  have hsep : '=' ∉ "p".toList := by decide
  have hjoin := Strings.append_singleton_prefix_append_cons_iff hsep (k := o.key) (v := v)
  unfold setsBuildPath UnergisteredOption.NamesBuildPath
  rw [o.text_of_key_ne_nil hk, decide_eq_true_iff, kClangArgPrefix_eq]
  show '-' :: ("p".toList ++ ['=']) <+: '-' :: (o.key ++ '=' :: v) ↔ _
  rw [List.prefix_cons_inj, hjoin, eq_comm]
  rfl

theorem allowed_of_namesBuildPath (host : Host) {o : UnergisteredOption} (hk : o.key ≠ [])
    (h : o.NamesBuildPath) (v : Str) : Allowed host (o.text v) = true := by
  have hprefix := (setsBuildPath_text_iff hk v).2 h
  unfold setsBuildPath at hprefix
  rw [decide_eq_true_iff] at hprefix
  have hbegins : "p=".toList <+: o.text v := (List.prefix_cons_inj _).1 hprefix
  apply allowed_of_namesOption
  exact namesOption_of_startsWith (by decide) ((startsWith_iff _ _).2 (hbegins.map _))

/-- Every value of `p` is forwarded, and no other option sets the build path. -/
theorem filter_clangOutputs (host : Host) (o : UnergisteredOption) :
    (clangOutputs host o).filter setsBuildPath = o.buildPaths := by
  unfold UnergisteredOption.buildPaths
  by_cases hk : o.key = []
  · have hnot : ¬ o.NamesBuildPath := fun h => by simpa [hk] using h.head
    rw [clangOutputs_positional host hk, if_neg hnot, List.filter_eq_nil_iff]
    intro v hv hset
    have hdash : v.head? ≠ some '-' := (of_decide_eq_true (List.mem_filter.1 hv).2).2
    obtain ⟨rest, rfl⟩ := of_decide_eq_true hset
    exact hdash rfl
  · by_cases hd : o.key.head? = some '-'
    · have hnot : ¬ o.NamesBuildPath := fun h => by simpa [hd] using h.head
      rw [clangOutputs_of_dash host hd, if_neg hnot, List.filter_nil]
    · have houtput : ∀ v, '-' :: (o.key ++ '=' :: v) = kClangArgPrefix ++ o.text v := fun v => by
        rw [o.text_of_key_ne_nil hk]
        rfl
      rw [clangOutputs_keyed host hk hd, List.filter_map, List.filter_filter]
      simp only [houtput]
      by_cases h : o.NamesBuildPath
      · rw [if_pos h, List.filter_eq_self.2]
        intro v _
        rw [allowed_of_namesBuildPath host hk h, Bool.and_true]
        exact (setsBuildPath_text_iff hk v).2 h
      · rw [if_neg h, List.map_eq_nil_iff, List.filter_eq_nil_iff]
        intro v _ hkept
        rw [Bool.and_eq_true] at hkept
        exact h ((setsBuildPath_text_iff hk v).1 hkept.1)

/-! ## The arguments of `init` -/

section Started

variable {b : Build} {host : Host} {baseSwitches : BaseSwitches} {cmd : CommandLine}
  {env' : ScopedClangEnvironment}

/-- The arguments after `init`: the defaults, what the loop forwards, and `-help`. -/
theorem ScopedClangEnvironment.argsStorage_init
    (h : (ScopedClangEnvironment.init b host baseSwitches cmd).result .new = .ok (true, env')) :
    ∃ dirExe, host.dirExe = some dirExe ∧ host.fileExe.isSome ∧
      env'.argsStorage = pushDefaultClangArgs host (cmd.outDir host.dirExePath) dirExe [] ++
        (cmd.unregisteredOptions baseSwitches).flatMap (clangOutputs host) ++
        if cmd.Given kHelp then [kClangHelpFlag] else [] := by
  obtain ⟨-, args, hpopulate, rfl⟩ := (init_eq_ok_true_iff ..).1 h
  obtain ⟨defaults, hadd, -, rfl⟩ := (populateClangArguments_eq_ok_iff ..).1 hpopulate
  obtain ⟨dirExe, hdir, hfile, -, rfl⟩ := (addDefaultClangArgs_eq_ok_true_iff ..).1 hadd
  refine ⟨dirExe, hdir, hfile, ?_⟩
  unfold started
  simp only [decide_eq_true_eq]
  rfl

/-- The build paths that LibTooling is given: the default, and all that stand on the command
line. -/
theorem filter_argsStorage_init
    (h : (ScopedClangEnvironment.init b host baseSwitches cmd).result .new = .ok (true, env')) :
    env'.argsStorage.filter setsBuildPath =
      (if host.pathExists (cmd.outDir host.dirExePath) then
        [kClangBuildPathFlag ++ cmd.outDir host.dirExePath] else []) ++
      cmd.buildPaths baseSwitches := by
  obtain ⟨dirExe, -, -, hargs⟩ := ScopedClangEnvironment.argsStorage_init h
  have hhelp : ∀ given : Prop, ∀ _ : Decidable given,
      (if given then [kClangHelpFlag] else []).filter setsBuildPath = [] := by
    intro given _
    split <;> decide
  rw [hargs, List.filter_append, List.filter_append, filter_pushDefaultClangArgs,
    List.filter_flatMap, hhelp, List.append_nil]
  simp only [filter_clangOutputs]
  rfl

/-- `-help` stands among the arguments as often as `init` pushes it. -/
theorem count_help_init_le
    (h : (ScopedClangEnvironment.init b host baseSwitches cmd).result .new = .ok (true, env')) :
    env'.argsStorage.count kClangHelpFlag ≤ 1 := by
  obtain ⟨dirExe, -, -, hargs⟩ := ScopedClangEnvironment.argsStorage_init h
  have hforwarded : kClangHelpFlag ∉
      (cmd.unregisteredOptions baseSwitches).flatMap (clangOutputs host) := by
    intro hmem
    obtain ⟨o, -, ho⟩ := List.mem_flatMap.1 hmem
    exact flag_not_mem_clangOutputs host o (by decide : isFlag valuelessFlags kHelp = true) ho
  have hdefaults := help_not_mem_pushDefaultClangArgs host (cmd.outDir host.dirExePath) dirExe
  rw [hargs, List.count_append, List.count_append, List.count_eq_zero.2 hdefaults,
    List.count_eq_zero.2 hforwarded]
  split <;> simp

end Started

/-- LibTooling is given each of the two options at most once, with the build path of the command
line in place of the default, exactly when the command line gives at most one build path, and none
if the output directory exists. -/
theorem init_sets_once_iff (b : Build) (host : Host) (baseSwitches : BaseSwitches)
    (cmd : CommandLine) (created : Bool) (env' : ScopedClangEnvironment)
    (h : (ScopedClangEnvironment.init b host baseSwitches cmd).result .new = .ok (created, env')) :
    SetOnce (cmd.buildPaths baseSwitches) env'.argsStorage ↔
      (host.dirExe.isSome → host.fileExe.isSome → (cmd.buildPaths baseSwitches).length ≤ 1 ∧
        (host.pathExists (cmd.outDir host.dirExePath) = true →
          cmd.buildPaths baseSwitches = [])) := by
  cases created with
  | false =>
    obtain ⟨hservice, hargs⟩ := ScopedClangEnvironment.init_eq_ok_false h
    rw [hargs]
    refine iff_of_true ⟨by simp, by simp, fun hne => absurd rfl hne⟩ ?_
    exact fun hdir hfile => absurd ⟨hdir, hfile⟩ hservice
  | true =>
    obtain ⟨dirExe, hdir, hfile, -⟩ := ScopedClangEnvironment.argsStorage_init h
    rw [setOnce_iff (filter_argsStorage_init h) (count_help_init_le h)]
    simp only [hdir, hfile, Option.isSome_some, forall_const]
    cases host.pathExists (cmd.outDir host.dirExePath) with
    | true =>
      simp only [if_true, List.length_singleton, forall_const, ← List.length_eq_zero_iff]
      omega
    | false => simp

/-- The command line `--p=/build`. -/
def CommandLine.sample : CommandLine :=
  ⟨[⟨"p".toList, ["/build".toList]⟩], none, none, [], [], fun _ => [], fun _ => []⟩

theorem init_sets_once_iff_given :
    let host := Host.ofPaths []
    let args := pushDefaultClangArgs host "/opt".toList "/opt".toList [] ++ ["-p=/build".toList]
    SetOnce (CommandLine.sample.buildPaths .sample) args ↔
      (host.dirExe.isSome → host.fileExe.isSome →
        (CommandLine.sample.buildPaths .sample).length ≤ 1 ∧
          (host.pathExists (CommandLine.sample.outDir host.dirExePath) = true →
            CommandLine.sample.buildPaths .sample = [])) :=
  init_sets_once_iff ⟨true, true⟩ (Host.ofPaths []) .sample .sample true
    (.started ⟨pushDefaultClangArgs (Host.ofPaths []) "/opt".toList "/opt".toList [] ++
      ["-p=/build".toList], []⟩ false) (by decide)

/-- When `/opt` exists, the path that `--p=/build` gives stands beside the default. -/
theorem init_sets_build_path_twice :
    let host := Host.ofPaths ["/opt".toList]
    let args := pushDefaultClangArgs host "/opt".toList "/opt".toList [] ++ ["-p=/build".toList]
    (ScopedClangEnvironment.init ⟨true, true⟩ host .sample .sample).result .new =
        .ok (true, .started ⟨args, []⟩ false) ∧
      args.filter setsBuildPath = ["-p=/opt".toList, "-p=/build".toList] ∧
      ¬ SetOnce (CommandLine.sample.buildPaths .sample) args :=
  ⟨by decide, by decide, fun h => absurd h.buildPath (by decide)⟩

end Flextool
