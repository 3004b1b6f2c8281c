import Flextool.MainProof

/-!
# The exit status of a run

Neither `ClangTool::run` nor `main` looks at the status of LibTooling, and `saveFile` has nothing to
report a missing extension with.  So `EXIT_SUCCESS` says that everything was generated exactly when
LibTooling could process every source, and the name of each has an extension
(`main_generated_iff`).
-/

namespace Flextool

/-- The status that `clang::tooling::ClangTool::run` returned. -/
def Action.toolStatus : Action → Option ℕ
  | .toolReturned status => some status
  | _ => none

/-- A source for which `saveFile` returned without having stored its output. -/
def Action.incompleteSource : Action → Option SourceFile
  | .saved source false => some source
  | _ => none

/-- All sources of a run were processed, and all that was generated is stored. -/
structure Generated (s : MainState) : Prop where
  /-- LibTooling was run once and returned zero -/
  status : s.tell Action.toolStatus = [0]
  /-- no call of `saveFile` left its output incomplete -/
  complete : s.tell Action.incompleteSource = []

theorem overlooks_toolStatus : Overlooks Action.toolStatus where
  silent a h := by cases a <;> simp_all [Action.silent, Action.quiet, Action.toolStatus]
  destroyed _ := rfl
  shutdown := rfl

theorem overlooks_incompleteSource : Overlooks Action.incompleteSource where
  silent a h := by cases a <;> simp_all [Action.silent, Action.quiet, Action.incompleteSource]
  destroyed _ := rfl
  shutdown := rfl

/-! ## One source -/

/-- What is recorded for a source by a run of LibTooling that returns. -/
def SourceRun.actions (run : SourceRun) : List Action :=
  if run.reachesEnd then [.saved run.source (decide run.source.Savable)] else []

/-- When `saveFile` returns, the output is complete exactly when there is one. -/
theorem stored_of_returns {w : World} {source : SourceFile} {device : Device} {s s' : SaveState}
    (h : (boundSaveFile w.build w.host w.outDir ⟨source, device⟩).exec s = (.ok (), s')) :
    w.stored s' source = decide source.Savable := by
  by_cases hsavable : source.Savable
  · have hdevice := (saveFile_returns_iff w.build w.host w.outDir false hsavable device s).1
      (congrArg Prod.fst h)
    have hfiles := saveFile_stores w.build w.host w.outDir false hsavable hdevice.1 s
    have hs' : s'.files =
        Store.put (outPath w.host w.outDir source.name) source.editBuffer.flatten s.files := by
      rw [← hfiles]
      exact congrArg (fun ended => ended.2.files) h.symm
    have hstored : s'.files (w.host.append w.outDir (filename source.name ++
        kGeneratedFileExtentionSuffix ++ extension source.name)) =
          some source.editBuffer.flatten := by
      rw [hs']
      exact Store.put_self ..
    have hext : (extension source.name).isEmpty = false := List.isEmpty_eq_false_iff.2 hsavable
    rw [World.stored, hext, decide_eq_true hstored, decide_eq_true hsavable]
    rfl
  · have hext : (extension source.name).isEmpty = true :=
      List.isEmpty_iff.2 (not_not.1 hsavable)
    rw [World.stored, hext, decide_eq_false hsavable]
    rfl

theorem trace_processSource {w : World} {run : SourceRun} {s s' : MainState}
    (h : (processSource w run).exec s = (.ok (), s')) : s'.trace = s.trace ++ run.actions := by
  unfold processSource at h
  cases hend : run.reachesEnd with
  | false =>
    rw [hend, if_neg Bool.false_ne_true, Proc.exec_pure] at h
    rw [← (Prod.mk.inj h).2, SourceRun.actions, hend, if_neg Bool.false_ne_true, List.append_nil]
  | true =>
    rw [hend, if_pos rfl, Proc.exec_bind_eq_ok_iff] at h
    obtain ⟨⟨⟩, s₁, hsave, hrecord⟩ := h
    rcases hexec : (boundSaveFile w.build w.host w.outDir ⟨run.source, run.device⟩).exec s.save
      with ⟨fault | ⟨⟩, save⟩
    · rw [Proc.exec_onPart, hexec] at hsave
      exact absurd (congrArg Prod.fst hsave) (by simp)
    · rw [Proc.exec_onPart, hexec] at hsave
      have hs₁ : { s with save := save } = s₁ := (Prod.mk.inj hsave).2
      rw [Proc.exec_get_bind, exec_act, ← hs₁] at hrecord
      rw [← (Prod.mk.inj hrecord).2, record_trace, SourceRun.actions, hend, if_pos rfl,
        stored_of_returns hexec]

/-! ## All sources -/

theorem trace_processSources {w : World} {sources : List SourceRun} {s s' : MainState}
    (h : (sources.forM (processSource w)).exec s = (.ok (), s')) :
    s'.trace = s.trace ++ sources.flatMap SourceRun.actions := by
  induction sources generalizing s with
  | nil =>
    have hs : s = s' := congrArg Prod.snd h
    rw [hs, List.flatMap_nil, List.append_nil]
  | cons run sources ih =>
    rw [Proc.forM_cons, Proc.exec_bind_eq_ok_iff] at h
    obtain ⟨⟨⟩, s₁, hfirst, hrest⟩ := h
    rw [ih hrest, trace_processSource hfirst, List.flatMap_cons, List.append_assoc]

/-- A run of LibTooling that returns has found its sources, and recorded each and its status. -/
theorem trace_clangTool_run {w : World} {args : List Str} {s s' : MainState}
    (h : (ClangTool.run w args).exec s = (.ok (), s')) :
    ∃ sources, w.optionsParser args = .ok sources ∧
      s'.trace = s.trace ++ .clangRun args :: sources.flatMap SourceRun.actions ++
        [.toolReturned (w.toolStatus sources)] := by
  unfold ClangTool.run at h
  rw [Proc.exec_bind_ok (exec_act ..)] at h
  obtain ⟨⟨⟩, s₁, hcheck, h⟩ := Proc.exec_bind_eq_ok_iff.1 h
  obtain ⟨⟨⟩, s₂, hdcheck, h⟩ := Proc.exec_bind_eq_ok_iff.1 h
  have hs₂ : s.record [.clangRun args] = s₂ := (Prod.mk.inj hcheck).2.trans (Prod.mk.inj hdcheck).2
  cases hparsed : w.optionsParser args with
  | error status =>
    rw [hparsed] at h
    simp at h
  | ok sources =>
    rw [hparsed] at h
    obtain ⟨⟨⟩, s₃, hlog, h⟩ := Proc.exec_bind_eq_ok_iff.1 h
    obtain ⟨⟨⟩, s₄, hsources, h⟩ := Proc.exec_bind_eq_ok_iff.1 h
    have hs₃ : s.record [.clangRun args] = s₃ := hs₂.trans (Prod.mk.inj hlog).2
    rw [exec_act] at h
    refine ⟨sources, rfl, ?_⟩
    rw [← (Prod.mk.inj h).2, record_trace, trace_processSources hsources, ← hs₃, record_trace]
    simp only [List.append_assoc, List.cons_append, List.nil_append]

/-- Of such a run, a reader that overlooks the call tells the sources and the status. -/
theorem tell_of_toolReturned {β : Type} {g : Action → Option β} {s s' : MainState}
    {args : List Str} {sources : List SourceRun} {status : ℕ}
    (htrace : s'.trace = s.trace ++ .clangRun args :: sources.flatMap SourceRun.actions ++
      [.toolReturned status])
    (hnone : s.tell g = []) (hcall : ∀ args, g (.clangRun args) = none) :
    s'.tell g = (sources.flatMap SourceRun.actions).filterMap g ++
      (g (.toolReturned status)).toList := by
  unfold MainState.tell at hnone ⊢
  rw [htrace, List.filterMap_append, List.filterMap_append, List.filterMap_cons, hnone, hcall,
    List.nil_append, List.append_right_inj, List.filterMap_cons, List.filterMap_nil]
  cases g (.toolReturned status) <;> rfl

/-! ## The exit status -/

theorem mem_actions_iff (run : SourceRun) (a : Action) :
    a ∈ run.actions ↔
      run.reachesEnd = true ∧ a = .saved run.source (decide run.source.Savable) := by
  unfold SourceRun.actions
  cases run.reachesEnd with
  | false => simp
  | true => simp

theorem toolStatus_actions (sources : List SourceRun) :
    (sources.flatMap SourceRun.actions).filterMap Action.toolStatus = [] := by
  rw [List.filterMap_eq_nil_iff]
  intro a ha
  obtain ⟨run, -, ha⟩ := List.mem_flatMap.1 ha
  obtain ⟨-, rfl⟩ := (mem_actions_iff run a).1 ha
  rfl

theorem incompleteSource_actions_iff (sources : List SourceRun) :
    (sources.flatMap SourceRun.actions).filterMap Action.incompleteSource = [] ↔
      ∀ run ∈ sources, run.reachesEnd = true → run.source.Savable := by
  simp only [List.filterMap_eq_nil_iff, List.mem_flatMap, forall_exists_index, and_imp]
  constructor
  · intro h run hrun hend
    by_contra hsavable
    have hnone := h _ run hrun ((mem_actions_iff run _).2 ⟨hend, rfl⟩)
    rw [decide_eq_false hsavable] at hnone
    exact Option.some_ne_none _ hnone
  · intro h a run hrun ha
    obtain ⟨hend, rfl⟩ := (mem_actions_iff run a).1 ha
    rw [decide_eq_true (h run hrun hend)]
    rfl

/-- The sources that LibTooling finds in its arguments, once its environment is created. -/
def World.sources (w : World) : List SourceRun :=
  match w.clangInit with
  | .ok (true, clangEnv) => (w.optionsParser clangEnv.argsStorage).toOption.getD []
  | _ => []

theorem sources_eq {w : World} {s : MainState} (h : w.Initialised s) {sources : List SourceRun}
    (hparsed : w.optionsParser s.clangEnv.argsStorage = .ok sources) : w.sources = sources := by
  rw [World.Initialised] at h
  rw [World.sources, h]
  dsimp only
  rw [hparsed]
  rfl

/-- A run of LibTooling after which `main` returns left this behind. -/
theorem generated_runAndReturn_iff {w : World} {s : MainState} (h : w.Initialised s)
    (hstatus : s.tell Action.toolStatus = []) (hcomplete : s.tell Action.incompleteSource = [])
    {code : ℤ} (hreturns : ((runAndReturn w).exec s).1 = .ok code) :
    Generated ((runAndReturn w).exec s).2 ↔
      ∀ run ∈ w.sources, run.processed = true ∧ run.source.Savable := by
  obtain ⟨s', -, ⟨hrun, hends⟩ | ⟨stop, hends⟩⟩ := exec_runAndReturn h
  · obtain ⟨sources, hparsed, htrace⟩ := trace_clangTool_run hrun
    have hstatus' : (w.afterDestroy s').tell Action.toolStatus = [w.toolStatus sources] := by
      rw [tell_afterDestroy overlooks_toolStatus,
        tell_of_toolReturned htrace hstatus fun _ => rfl, toolStatus_actions]
      rfl
    have hcomplete' : (w.afterDestroy s').tell Action.incompleteSource =
        (sources.flatMap SourceRun.actions).filterMap Action.incompleteSource := by
      rw [tell_afterDestroy overlooks_incompleteSource,
        tell_of_toolReturned htrace hcomplete fun _ => rfl]
      exact List.append_nil _
    rw [hends, sources_eq h hparsed]
    constructor
    · intro hgenerated
      have hzero : w.toolStatus sources = 0 := by simpa [hstatus'] using hgenerated.status
      have hprocessed := (w.toolStatus_eq_zero_iff sources).1 hzero
      have hsavable := (incompleteSource_actions_iff sources).1
        (hcomplete'.symm.trans hgenerated.complete)
      exact fun run hrun => ⟨hprocessed run hrun,
        hsavable run hrun (run.reachesEnd_of_processed (hprocessed run hrun))⟩
    · intro hsources
      have hzero := (w.toolStatus_eq_zero_iff sources).2 fun run hrun => (hsources run hrun).1
      exact ⟨by rw [hstatus', hzero], hcomplete'.trans <|
        (incompleteSource_actions_iff sources).2 fun run hrun _ => (hsources run hrun).2⟩
  · rw [hends] at hreturns
    simp at hreturns

/-- When `main` returns `EXIT_SUCCESS` after a run of LibTooling, everything was generated exactly
when LibTooling could process every source, and the name of each has an extension. -/
theorem main_generated_iff (w : World) (files : FilePath → Option Str)
    (hversion : ¬ w.commandLine.Given kVersion) (hhelp : ¬ w.commandLine.Given kHelp)
    (h : ((main w).exec (.start files)).1 = .ok exitSuccess) :
    Generated ((main w).exec (.start files)).2 ↔
      ∀ run ∈ w.sources, run.processed = true ∧ run.source.Savable := by
  obtain ⟨hargs, created, hinit⟩ := outcome_of_main_returns h
  cases created with
  | false =>
    obtain ⟨s₀, s₁, -, -, hmain⟩ := exec_main_of_initFailed hargs hinit files
    rw [hmain] at h
    exact absurd (Except.ok.inj h) (by decide)
  | true =>
    obtain ⟨s₀, s₁, hs₀, hs₁, -, -, hclang, hmain⟩ := exec_main_of_initialised hargs hinit files
    rw [hmain, exec_afterInit_run hversion hhelp] at h ⊢
    -- nothing was recorded of LibTooling before it is run
    have hstatus : s₁.tell Action.toolStatus = [] :=
      (tell_of_started overlooks_toolStatus hs₀ hs₁).trans (ite_self _)
    have hcomplete : s₁.tell Action.incompleteSource = [] :=
      (tell_of_started overlooks_incompleteSource hs₀ hs₁).trans (ite_self _)
    exact generated_runAndReturn_iff hclang hstatus hcomplete h

theorem main_generated_iff_define :
    let w := World.sample [⟨"extra-arg".toList, ["-DX".toList]⟩]
      [SourceRun.sample "/src/a.cc".toList true]
    Generated ((main w).exec (.start fun _ => none)).2 ↔
      ∀ run ∈ w.sources, run.processed = true ∧ run.source.Savable :=
  main_generated_iff (World.sample [⟨"extra-arg".toList, ["-DX".toList]⟩]
      [SourceRun.sample "/src/a.cc".toList true]) (fun _ => none)
    (by decide) (by decide) (by decide +kernel)

/-- For a source that cannot be processed, the status of LibTooling is one, and `main` succeeds. -/
theorem main_succeeds_without_output :
    let w := World.sample [⟨"extra-arg".toList, ["-DX".toList]⟩]
      [SourceRun.sample "/src/a.cc".toList false]
    let ended := (main w).exec (.start fun _ => none)
    ended.1 = .ok exitSuccess ∧ ¬ w.commandLine.Given kVersion ∧ ¬ w.commandLine.Given kHelp ∧
      ¬ Generated ended.2 := by
  intro w ended
  have hstatus : ended.2.tell Action.toolStatus = [1] := by decide +kernel
  refine ⟨by decide +kernel, by decide, by decide, fun h => ?_⟩
  exact absurd (hstatus.symm.trans h.status) (by decide)

end Flextool
