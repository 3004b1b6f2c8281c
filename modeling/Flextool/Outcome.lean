import Flextool.ClingAgreement
import Flextool.Runs

/-!
# When `main` succeeds

What a run needs in order to return is read off its command line and what the libraries answer:
`Ready` for the environments, and `ToolCompletes` for LibTooling.  `main` returns `EXIT_SUCCESS`
exactly when both hold, where the version needs no LibTooling (`main_success_iff`), and
`EXIT_FAILURE` in a debug build only when `base_env.init` fails (`main_failure_iff`).
-/

namespace Flextool

open Loops

/-! ## The environments -/

/-- What a debug build asserts of what Cling is given: some option with a key, and none without,
is passed on to it, and no script file has an empty path. -/
structure World.ClingAsserted (w : World) : Prop where
  keyed : ∃ o ∈ w.leftOver, o.key ≠ [] ∧ ∃ v ∈ o.values, Pipelined (o.text v)
  positional : ∀ o ∈ w.leftOver, o.key = [] → ∀ v ∈ o.values, ¬ Pipelined v
  scripts : ∀ path ∈ w.commandLine.clingScripts, path ≠ []

/-- What a debug build asserts of where plugins are. -/
def World.PluginsNamed (w : World) : Prop :=
  w.commandLine.pluginsDir w.host w.kDefaultPluginsDirName w.host.dirExePath ≠ [] ∧
    w.commandLine.pluginsConfigFile w.host w.kPluginsConfigFileName w.host.dirExePath ≠ []

/-- All that the environments of `main` need. -/
structure World.Ready (w : World) : Prop where
  arguments : w.HasArguments
  dirExe : w.host.dirExe.isSome
  fileExe : w.host.fileExe.isSome
  parsed : w.parsed.isSome
  base : w.baseInit w.baseInitArgs = true
  curDir : w.curDir = w.outDir
  outDir : w.outDir ≠ []
  plugins : w.build.dcheckIsOn = true → w.PluginsNamed
  texts : ∀ o ∈ w.leftOver, ∀ text ∈ o.texts, TextSafe w.build text
  cling : w.build.clingIsOn = true → w.build.dcheckIsOn = true → w.ClingAsserted

section

variable {w : World}

theorem check_eq_ok_unit_iff (c : Bool) (u : Unit) : check c = .ok u ↔ c = true := check_eq_ok_iff c

theorem cmdInit_eq_ok_true_iff : ScopedCmdEnvironment.init w = .ok true ↔
    (w.build.dcheckIsOn = true → 0 < w.argc) ∧ w.host.dirExe.isSome ∧ w.parsed.isSome := by
  unfold ScopedCmdEnvironment.init
  rw [bind_eq_ok_iff]
  simp only [dcheck_eq_ok_iff, decide_eq_true_eq, exists_const]
  apply and_congr_right
  intro _
  cases w.host.dirExe with
  | none => cases hb : w.build.dcheckIsOn <;> simp [notReached, hb]
  | some dirExe =>
    cases w.parsed with
    | none => cases hb : w.build.dcheckIsOn <;> simp [dcheck, hb]
    | some cmd => simp

/-- Only a release build goes on to return false. -/
theorem cmdInit_eq_ok_false_iff : ScopedCmdEnvironment.init w = .ok false ↔
    w.build.dcheckIsOn = false ∧ ¬ (w.host.dirExe.isSome ∧ w.parsed.isSome) := by
  unfold ScopedCmdEnvironment.init
  cases hb : w.build.dcheckIsOn with
  | false =>
    cases w.host.dirExe with
    | none => simp [dcheck, notReached, hb]
    | some dirExe => cases w.parsed <;> simp [dcheck, hb]
  | true =>
    rw [bind_eq_ok_iff]
    cases w.host.dirExe with
    | none => simp [notReached, hb]
    | some dirExe => cases w.parsed <;> simp [dcheck, hb]

theorem pluginInit_eq_ok_true_iff : w.pluginInit = .ok true ↔
    (w.build.dcheckIsOn = true → 0 < w.argc) ∧ w.host.dirExe.isSome ∧ w.curDir = w.outDir ∧
      (w.build.dcheckIsOn = true → w.PluginsNamed) := by
  unfold World.pluginInit World.PluginsNamed Host.dirExePath
  rw [bind_eq_ok_iff]
  simp only [dcheck_eq_ok_iff, decide_eq_true_eq, exists_const]
  apply and_congr_right
  intro _
  cases w.host.dirExe with
  | none => cases hb : w.build.dcheckIsOn <;> simp [notReached, hb]
  | some dirExe =>
    simp only [bind_eq_ok_iff, check_eq_ok_unit_iff, dcheck_eq_ok_iff, decide_eq_true_eq,
      pure_eq_ok, exists_const, Option.isSome_some, true_and, Option.getD_some, and_true,
      Bool.not_eq_true', List.isEmpty_eq_false_iff]
    exact and_congr_right fun _ => imp_and.symm

theorem pluginInit_eq_ok_false_iff : w.pluginInit = .ok false ↔
    w.build.dcheckIsOn = false ∧ w.host.dirExe = none := by
  unfold World.pluginInit
  cases hdir : w.host.dirExe with
  | none => cases hb : w.build.dcheckIsOn <;> simp [notReached, dcheck, hb, bind_eq_ok_iff]
  | some dirExe => simp [bind_eq_ok_iff]

/-- The default places of plugins pass what is asserted of them, if their names are not empty. -/
theorem pluginsNamed (hdir : w.kDefaultPluginsDirName ≠ [])
    (hconf : w.kPluginsConfigFileName ≠ []) : w.PluginsNamed := by
  have happend : ∀ dir name, name ≠ [] → w.host.append dir name ≠ [] := by
    intro dir name hname
    obtain ⟨pre, hpre⟩ := w.host.append_eq dir
    rw [hpre name hname]
    exact List.append_ne_nil_of_right_ne_nil _ hname
  constructor
  · unfold CommandLine.pluginsDir
    dsimp only
    split
    · exact happend _ _ hdir
    · next h => simpa using h
  · unfold CommandLine.pluginsConfigFile
    dsimp only
    split
    · exact happend _ _ hconf
    · next h => simpa using h

theorem clangInit_eq_ok_true_iff : (∃ env, w.clangInit = .ok (true, env)) ↔
    w.outDir ≠ [] ∧ w.host.dirExe.isSome ∧ w.host.fileExe.isSome ∧
      ∀ o ∈ w.leftOver, ∀ text ∈ o.texts, TextSafe w.build text := by
  unfold World.clangInit World.clangProc
  simp only [ScopedClangEnvironment.init_eq_ok_true_iff, populateClangArguments_eq_ok_iff,
    addDefaultClangArgs_eq_ok_true_iff]
  constructor
  · rintro ⟨-, houtDir, args, ⟨defaults, ⟨dirExe, hdir, hfile, -⟩, htexts, -⟩, -⟩
    exact ⟨houtDir, by rw [hdir]; rfl, hfile, htexts⟩
  · rintro ⟨houtDir, hdir, hfile, htexts⟩
    obtain ⟨dirExe, hdir⟩ := Option.isSome_iff_exists.1 hdir
    exact ⟨_, houtDir, _, ⟨_, ⟨dirExe, hdir, hfile, trivial, rfl⟩, htexts, rfl⟩, rfl⟩

theorem clangInit_eq_ok_false_iff : (∃ env, w.clangInit = .ok (false, env)) ↔
    w.build.dcheckIsOn = false ∧ ¬ (w.host.dirExe.isSome ∧ w.host.fileExe.isSome) := by
  have hadd : w.build.dcheckIsOn = true → ¬ (w.host.dirExe.isSome ∧ w.host.fileExe.isSome) →
      ∀ path args, addDefaultClangArgs w.build w.host path args = .error .notReached := by
    intro hb hservice path args
    unfold addDefaultClangArgs
    cases hdir : w.host.dirExe <;> cases hfile : w.host.fileExe <;>
      simp_all [notReached]
  unfold World.clangInit World.clangProc
  constructor
  · rintro ⟨env, h⟩
    have hservice := (ScopedClangEnvironment.init_eq_ok_false h).1
    refine ⟨?_, hservice⟩
    by_contra hb
    rw [ScopedClangEnvironment.result_init] at h
    obtain ⟨-, -, h⟩ := bind_eq_ok_iff.1 h
    obtain ⟨r, hpopulate, -⟩ := bind_eq_ok_iff.1 h
    unfold populateClangArguments at hpopulate
    rw [hadd (by simpa using hb) hservice] at hpopulate
    exact absurd hpopulate (by simp)
  · rintro ⟨hb, hservice⟩
    rw [ScopedClangEnvironment.result_init]
    unfold populateClangArguments addDefaultClangArgs
    cases hdir : w.host.dirExe <;> cases hfile : w.host.fileExe <;>
      simp_all [notReached, dcheck]

/-- What Cling's `init` asserts is what `ClingAsserted` says of the command line. -/
theorem initAsserts_iff (hon : w.build.clingIsOn = true) :
    ScopedClingEnvironment.new.InitAsserts w.commandLine.clingScripts
      (w.leftOver.flatMap (clingOutputs w.build)) ↔ w.ClingAsserted := by
  have hdashed := clingOutputs_dashed_iff hon w.leftOver
  constructor
  · intro h
    obtain ⟨hkeyed, hpositional⟩ := hdashed.1 ⟨h.extraArgs, h.dashed⟩
    exact ⟨hkeyed, hpositional, h.scripts⟩
  · intro h
    obtain ⟨hne, hdash⟩ := hdashed.2 ⟨h.keyed, h.positional⟩
    exact ⟨hne, hdash, List.cons_ne_nil _ _, h.scripts⟩

/-- Once LibTooling has its arguments, the interpreter starts or an assertion of a debug build
fails. -/
theorem clingInit_eq_ok_iff (hon : w.build.clingIsOn = true) {clangEnv : ScopedClangEnvironment}
    (hclang : w.clangInit = .ok (true, clangEnv)) (created : Bool) :
    (∃ env, w.clingInit clangEnv.clingExtraArgs = .ok (created, env)) ↔
      created = true ∧ (w.build.dcheckIsOn = true → w.ClingAsserted) := by
  obtain ⟨-, args, hpopulate, henv⟩ := (ScopedClangEnvironment.init_eq_ok_true_iff ..).1 hclang
  obtain ⟨_, hadd, -, rfl⟩ := (populateClangArguments_eq_ok_iff ..).1 hpopulate
  obtain ⟨dirExe, hdir, -⟩ := (addDefaultClangArgs_eq_ok_true_iff ..).1 hadd
  have hextra : clangEnv.clingExtraArgs = w.leftOver.flatMap (clingOutputs w.build) := by
    rw [henv]
    rfl
  have hdefaults : addDefaultClingArgs w.build w.host
      ScopedClingEnvironment.new.clingInterpreterArgs =
        .ok (true, pushDefaultClingArgs w.host dirExe []) :=
    (addDefaultClingArgs_eq_ok_true_iff ..).2 ⟨dirExe, hdir, rfl, rfl⟩
  cases created with
  | true =>
    unfold World.clingInit World.clingProc
    simp only [ScopedClingEnvironment.init_eq_ok_true_iff hon, true_and, ← initAsserts_iff hon,
      hextra]
    exact ⟨fun ⟨_, _, _, h, _⟩ => h, fun h => ⟨_, _, hdefaults, h, rfl⟩⟩
  | false =>
    refine iff_of_false ?_ fun h => Bool.noConfusion h.1
    rintro ⟨env, h⟩
    unfold World.clingInit World.clingProc ScopedClingEnvironment.init at h
    rw [if_pos hon, Proc.result_get_bind, hdefaults] at h
    simp only [Proc.result_ofExcept_bind, Proc.result_update_bind, Proc.result_pure, ok_bind,
      bind_eq_ok_iff, Bool.not_true, Bool.false_eq_true, if_false] at h
    simp at h

/-! ### All of them -/

/-- Go on only when the first is true. -/
def andThen (r next : Except Fault Bool) : Except Fault Bool := do
  if !(← r) then return false else next

theorem andThen_eq_ok_true_iff {r next : Except Fault Bool} :
    andThen r next = .ok true ↔ r = .ok true ∧ next = .ok true := by
  rcases r with fault | ⟨_ | _⟩ <;> simp [andThen]

theorem andThen_eq_ok_false_iff {r next : Except Fault Bool} :
    andThen r next = .ok false ↔ r = .ok false ∨ r = .ok true ∧ next = .ok false := by
  rcases r with fault | ⟨_ | _⟩ <;> simp [andThen]

/-- The last two environments. -/
def World.toolOutcome (w : World) : Except Fault Bool := do
  let (clangCreated, clangEnv) ← w.clangInit
  if !clangCreated then
    return false
  else if w.build.clingIsOn then
    let (clingCreated, _) ← w.clingInit clangEnv.clingExtraArgs
    return clingCreated
  else
    return true

theorem initOutcome_eq (w : World) : w.initOutcome =
    andThen (ScopedCmdEnvironment.init w) (andThen (.ok (w.baseInit w.baseInitArgs))
      (andThen w.pluginInit w.toolOutcome)) := rfl

theorem bind_fst_eq_ok_iff {α : Type} {r : Except Fault (Bool × α)} (created : Bool) :
    (do let (c, _) ← r; return c) = .ok created ↔ ∃ a, r = .ok (created, a) := by
  rcases r with fault | ⟨c, a⟩ <;> simp

theorem toolOutcome_eq_ok_iff (created : Bool) : w.toolOutcome = .ok created ↔
    (created = false ∧ ∃ env, w.clangInit = .ok (false, env)) ∨
      (created = true ∧ (∃ env, w.clangInit = .ok (true, env)) ∧
        (w.build.clingIsOn = true → w.build.dcheckIsOn = true → w.ClingAsserted)) := by
  unfold World.toolOutcome
  rcases hclang : w.clangInit with fault | ⟨_ | _, env⟩
  · simp
  · cases created <;> simp
  · by_cases hon : w.build.clingIsOn = true
    · have hcling := (bind_fst_eq_ok_iff created).trans
        (clingInit_eq_ok_iff hon hclang created)
      simpa [hon] using hcling
    · cases created <;> simp [hon]

/-- With arguments, the environments are created exactly when all that they need is there. -/
theorem ready_iff (w : World) : w.Ready ↔ w.HasArguments ∧ w.initOutcome = .ok true := by
  rw [initOutcome_eq, andThen_eq_ok_true_iff, andThen_eq_ok_true_iff, andThen_eq_ok_true_iff,
    cmdInit_eq_ok_true_iff, pluginInit_eq_ok_true_iff, toolOutcome_eq_ok_iff,
    clangInit_eq_ok_true_iff, Except.ok.injEq]
  constructor
  · intro h
    have hargc : w.build.dcheckIsOn = true → 0 < w.argc := fun hb => by
      have := h.arguments hb
      omega
    exact ⟨h.arguments, ⟨hargc, h.dirExe, h.parsed⟩, h.base, ⟨hargc, h.dirExe, h.curDir, h.plugins⟩,
      Or.inr ⟨rfl, ⟨h.outDir, h.dirExe, h.fileExe, h.texts⟩, h.cling⟩⟩
  · rintro ⟨harguments, ⟨-, hdir, hparsed⟩, hbase, ⟨-, -, hcurDir, hplugins⟩, ⟨h, -⟩ |
      ⟨-, ⟨houtDir, -, hfile, htexts⟩, hcling⟩⟩
    · exact absurd h (by simp)
    · exact ⟨harguments, hdir, hfile, hparsed, hbase, hcurDir, houtDir, hplugins, htexts, hcling⟩

/-- An environment cannot be created, and no assertion fails before that is noticed. -/
inductive World.Refused (w : World) : Prop
  /-- a release build goes on without the directory of the tool or a command line -/
  | unparsed : w.build.dcheckIsOn = false → ¬ (w.host.dirExe.isSome ∧ w.parsed.isSome) → w.Refused
  | base : w.host.dirExe.isSome → w.parsed.isSome → w.baseInit w.baseInitArgs = false → w.Refused
  /-- a release build goes on without the path of the tool -/
  | clang : w.build.dcheckIsOn = false → w.host.dirExe.isSome → w.parsed.isSome →
      w.baseInit w.baseInitArgs = true → w.curDir = w.outDir → w.host.fileExe = none → w.Refused

theorem refused_iff (hargs : w.HasArguments) : w.initOutcome = .ok false ↔ w.Refused := by
  have hargc : w.build.dcheckIsOn = true → 0 < w.argc := fun hb => by
    have := hargs hb
    omega
  rw [initOutcome_eq, andThen_eq_ok_false_iff, andThen_eq_ok_false_iff, andThen_eq_ok_false_iff,
    cmdInit_eq_ok_true_iff, cmdInit_eq_ok_false_iff, pluginInit_eq_ok_true_iff,
    pluginInit_eq_ok_false_iff, toolOutcome_eq_ok_iff, clangInit_eq_ok_false_iff, Except.ok.injEq,
    Except.ok.injEq]
  constructor
  · rintro (⟨hb, h⟩ | ⟨⟨-, hdir, hparsed⟩, hbase | ⟨hbase, ⟨-, hdir'⟩ |
      ⟨⟨-, -, hcurDir, -⟩, ⟨-, hb, hservice⟩ | ⟨h, -⟩⟩⟩⟩)
    · exact .unparsed hb h
    · exact .base hdir hparsed hbase
    · rw [hdir'] at hdir
      exact absurd hdir (by simp)
    · refine .clang hb hdir hparsed hbase hcurDir ?_
      simpa [hdir] using hservice
    · exact absurd h (by simp)
  · rintro (⟨hb, h⟩ | ⟨hdir, hparsed, hbase⟩ | ⟨hb, hdir, hparsed, hbase, hcurDir, hfile⟩)
    · exact Or.inl ⟨hb, h⟩
    · exact Or.inr ⟨⟨hargc, hdir, hparsed⟩, Or.inl hbase⟩
    · have hdebug : ∀ φ : Prop, w.build.dcheckIsOn = true → φ := fun φ h =>
        absurd (hb.symm.trans h) Bool.false_ne_true
      have hplugins := hdebug w.PluginsNamed
      have hservice : ¬ (w.host.dirExe.isSome ∧ w.host.fileExe.isSome) := by
        rw [hfile]
        simp
      exact Or.inr ⟨⟨hargc, hdir, hparsed⟩, Or.inr ⟨hbase, Or.inr
        ⟨⟨hargc, hdir, hcurDir, hplugins⟩, Or.inl ⟨rfl, hb, hservice⟩⟩⟩⟩

/-- When the environments are created, LibTooling finds its sources with `World.clangArgs`. -/
theorem sources_of_ready (h : w.Ready) :
    w.sources = (w.optionsParser w.clangArgs).toOption.getD [] := by
  obtain ⟨clangEnv, hclang⟩ :=
    clangInit_eq_ok_true_iff.2 ⟨h.outDir, h.dirExe, h.fileExe, h.texts⟩
  unfold World.sources
  rw [hclang, ← argsStorage_of_clangInit hclang]

/-! ## LibTooling -/

/-- All that LibTooling and `saveFile` need for these sources. -/
structure World.Processed (w : World) (sources : List SourceRun) : Prop where
  located : w.build.dcheckIsOn = true → ∀ run ∈ sources, w.host.makeAbsoluteFilePath run.path ≠ []
  saved : ∀ run ∈ sources, run.Saves → run.device.Succeeds run.source.editBuffer.length ∧
    PathChecked w.build w.host (w.outPath run)

/-- LibTooling finds its sources, and comes to its end. -/
def World.ToolCompletes (w : World) : Prop :=
  ∃ sources, w.optionsParser w.clangArgs = .ok sources ∧ w.Processed sources

theorem processSource_returns_iff (run : SourceRun) (s : MainState) :
    ((processSource w run).exec s).1 = .ok () ↔ (run.Saves →
      run.device.Succeeds run.source.editBuffer.length ∧
        PathChecked w.build w.host (w.outPath run)) := by
  obtain ⟨actions, -, hexec⟩ := exec_processSource w run s
  rw [hexec, mapError_eq_ok_iff]
  exact saveSource_returns_iff w run s.save

theorem logSourcePathList_eq_ok_iff (sources : List SourceRun) :
    logSourcePathList w sources = .ok () ↔ (w.build.dcheckIsOn = true →
      ∀ run ∈ sources, w.host.makeAbsoluteFilePath run.path ≠ []) := by
  unfold logSourcePathList
  rw [forM_eq_ok_iff]
  simp only [dcheck_eq_ok_iff, Bool.not_eq_true', List.isEmpty_eq_false_iff]
  exact ⟨fun h hb run hrun => h run hrun hb, fun h run hrun hb => h hb run hrun⟩

theorem assertions_returns_bind_iff {α β : Type} {r : Except Fault α} {f : α → MainProc β}
    {s : MainState} {b : β} :
    ((assertions r >>= f).exec s).1 = .ok b ↔ ∃ a, r = .ok a ∧ ((f a).exec s).1 = .ok b := by
  cases r with
  | error fault => simp
  | ok a => simp

theorem clangTool_run_returns_iff (s : MainState) :
    ((ClangTool.run w w.clangArgs).exec s).1 = .ok () ↔ w.ToolCompletes := by
  have hargs : check (!w.clangArgs.isEmpty) = .ok () :=
    (check_eq_ok_iff _).2 (by simpa using clangArgs_ne_nil w)
  have hwords : dcheck w.build (w.clangArgs.all fun arg => !arg.isEmpty) = .ok () :=
    dcheck_of_true _ (by simpa using clangArgs_words w)
  unfold ClangTool.run World.ToolCompletes
  rw [Proc.exec_bind_ok (exec_act ..), hargs, exec_assertions_ok_bind, hwords,
    exec_assertions_ok_bind]
  cases w.optionsParser w.clangArgs with
  | error status => simp
  | ok sources =>
    dsimp only
    rw [assertions_returns_bind_iff]
    simp only [Proc.returns_bind_iff, exec_act, and_true, Except.ok.injEq, exists_eq_left']
    have hloop := Proc.returns_forM_iff (l := sources)
      (fun run _ s => processSource_returns_iff (w := w) run s)
    constructor
    · rintro ⟨⟨⟩, hlog, ⟨⟩, s', hexec⟩
      exact ⟨(logSourcePathList_eq_ok_iff sources).1 hlog, (hloop _).1 (congrArg Prod.fst hexec)⟩
    · rintro ⟨hlocated, hsaved⟩
      exact ⟨(), (logSourcePathList_eq_ok_iff sources).2 hlocated, (), _,
        Prod.ext ((hloop _).2 hsaved) rfl⟩

/-! ## `main` -/

theorem runAndReturn_returns_iff {s : MainState} (h : w.Initialised s) (code : ℤ) :
    ((runAndReturn w).exec s).1 = .ok code ↔ code = exitSuccess ∧ w.ToolCompletes := by
  have hargs := argsStorage_of_clangInit h
  have htool := clangTool_run_returns_iff (w := w) s
  obtain ⟨s', -, ⟨hrun, hends⟩ | ⟨stop, hends⟩⟩ := exec_runAndReturn h
  · rw [hargs] at hrun
    rw [hends, ← htool, hrun]
    simp [eq_comm]
  · have hstopped : ((ClangTool.run w w.clangArgs).exec s).1 ≠ .ok () := by
      intro hok
      have hrun : (runClangLibTooling w).exec s =
          (.ok (), ((ClangTool.run w w.clangArgs).exec s).2) := by
        rw [exec_runClangLibTooling h, hargs]
        exact Prod.ext hok rfl
      unfold runAndReturn at hends
      rw [Proc.exec_bind_ok hrun, Proc.exec_bind_ok (exec_destroyLocals ..)] at hends
      simp at hends
    rw [hends, ← htool]
    simp [hstopped]

theorem afterInit_returns_iff {s : MainState} (h : w.Initialised s) (code : ℤ) :
    ((afterInit w).exec s).1 = .ok code ↔
      code = exitSuccess ∧ (w.commandLine.Given kVersion ∨ w.ToolCompletes) := by
  by_cases hversion : w.commandLine.Given kVersion
  · rw [exec_afterInit_version hversion]
    simp [hversion, eq_comm]
  · by_cases hhelp : w.commandLine.Given kHelp
    · rw [exec_afterInit_help hversion hhelp, runAndReturn_returns_iff (h.record _)]
      simp [hversion]
    · rw [exec_afterInit_run hversion hhelp, runAndReturn_returns_iff h]
      simp [hversion]

variable {files : FilePath → Option Str}

theorem ready_of_success (h : ((main w).exec (.start files)).1 = .ok exitSuccess) :
    w.Ready ∧ (w.commandLine.Given kVersion ∨ w.ToolCompletes) := by
  obtain ⟨hargs, created, hinit⟩ := outcome_of_main_returns h
  cases created with
  | false =>
    obtain ⟨s₀, s₁, -, -, hmain⟩ := exec_main_of_initFailed hargs hinit files
    rw [hmain] at h
    exact absurd (Except.ok.inj h) (by decide)
  | true =>
    obtain ⟨s₀, s₁, -, -, -, -, hclang, hmain⟩ := exec_main_of_initialised hargs hinit files
    rw [hmain, afterInit_returns_iff hclang] at h
    exact ⟨(ready_iff w).2 ⟨hargs, hinit⟩, h.2⟩

theorem success_of_ready (hready : w.Ready)
    (h : w.commandLine.Given kVersion ∨ w.ToolCompletes) (files : FilePath → Option Str) :
    ((main w).exec (.start files)).1 = .ok exitSuccess := by
  obtain ⟨hargs, hinit⟩ := (ready_iff w).1 hready
  obtain ⟨s₀, s₁, -, -, -, -, hclang, hmain⟩ := exec_main_of_initialised hargs hinit files
  rw [hmain, afterInit_returns_iff hclang]
  exact ⟨rfl, h⟩

end

/-- `main` returns `EXIT_SUCCESS` exactly when its environments have what they need and either the
version is asked for or LibTooling comes to its end. -/
theorem main_success_iff (w : World) (files : FilePath → Option Str) :
    ((main w).exec (.start files)).1 = .ok exitSuccess ↔
      w.Ready ∧ (w.commandLine.Given kVersion ∨ w.ToolCompletes) :=
  ⟨ready_of_success, fun h => success_of_ready h.1 h.2 files⟩

/-- `main` returns `EXIT_FAILURE` exactly when it has arguments and an environment is refused, and
nothing else but these two codes. -/
theorem main_failure_iff (w : World) (files : FilePath → Option Str) :
    (((main w).exec (.start files)).1 = .ok exitFailure ↔ w.HasArguments ∧ w.Refused) ∧
      ∀ code, ((main w).exec (.start files)).1 = .ok code →
        code = exitSuccess ∨ code = exitFailure := by
  constructor
  · constructor
    · intro h
      obtain ⟨hargs, created, hinit⟩ := outcome_of_main_returns h
      cases created with
      | false => exact ⟨hargs, (refused_iff hargs).1 hinit⟩
      | true =>
        obtain ⟨s₀, s₁, -, -, -, -, hclang, hmain⟩ := exec_main_of_initialised hargs hinit files
        rw [hmain, afterInit_returns_iff hclang] at h
        exact absurd h.1 (by decide)
    · rintro ⟨hargs, hrefused⟩
      obtain ⟨s₀, s₁, -, -, hmain⟩ :=
        exec_main_of_initFailed hargs ((refused_iff hargs).2 hrefused) files
      rw [hmain]
  · intro code hcode
    rcases main_ends w files with ⟨code', p, hcode', hp, -⟩ | ⟨stop, hstop, -⟩
    · have hsame : code = code' := Except.ok.inj (hcode.symm.trans hcode')
      subst hsame
      cases hp with
      | failed _ _ _ => exact Or.inr rfl
      | finished _ => exact Or.inl rfl
    · exact absurd (hstop.symm.trans hcode) (by simp)

end Flextool
