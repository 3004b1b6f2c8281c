import Flextool.Lib.Checks
import Flextool.Outcome

/-!
# The builds of the program

`DCHECK` and `NOTREACHED` are all that tells a debug build of the program from a release build.
Function by function, the release build is the debug build without these checks
(`Checks.Disarms`), and so is `main`: a run of the debug build that does not stop at one of them is
the run of the release build, and one that does is a beginning of it, in its trace and in what
`saveFile` did (`main_release`).

With the same answers of LibTooling and of the plugins, a build without Cling does all that one
with Cling does but start the interpreter and hand it out (`main_withoutCling`).
-/

namespace Flextool

open Checks (Disarms)

/-- The build without `DCHECK` and `NOTREACHED`. -/
abbrev Build.release (b : Build) : Build := { b with dcheckIsOn := false }

/-- Only a debug build stops for this. -/
def Fault.DebugOnly : Fault → Prop
  | .dcheck | .notReached => True
  | _ => False

/-! ## Without checks

### `clang_util.cc` -/

section

variable (b : Build) (host : Host)

theorem dcheck_disarms (condition : Bool) :
    Disarms Fault.DebugOnly (dcheck b condition) (dcheck b.release condition) := by
  have hrelease : dcheck b.release condition = .ok () := rfl
  rw [hrelease, dcheck]
  split
  · exact Disarms.check trivial ()
  · exact Disarms.ok ()

theorem notReached_disarms :
    Disarms Fault.DebugOnly (notReached b) (notReached b.release) := by
  have hrelease : notReached b.release = .ok () := rfl
  rw [hrelease, notReached]
  split
  · exact Disarms.check trivial ()
  · exact Disarms.ok ()

theorem check_disarms (condition : Bool) :
    Disarms Fault.DebugOnly (check condition) (check condition) := by
  refine Disarms.of_safe fun e he => ?_
  unfold check at he
  split at he
  · cases he
  · cases he
    exact id

theorem removePrefix_disarms (piece : Str) (n : ℕ) :
    Disarms Fault.DebugOnly (removePrefix piece n) (removePrefix piece n) := by
  refine Disarms.of_safe fun e he => ?_
  unfold removePrefix at he
  split at he
  · cases he
  · cases he
    exact id

theorem addDefaultClangArgs_disarms (clangBuildPath : FilePath) (args : List Str) :
    Disarms Fault.DebugOnly (addDefaultClangArgs b host clangBuildPath args)
      (addDefaultClangArgs b.release host clangBuildPath args) := by
  unfold addDefaultClangArgs
  cases host.dirExe with
  | none => exact (notReached_disarms b).bind fun _ => .ok _
  | some dirExe =>
    cases host.fileExe with
    | none => exact (notReached_disarms b).bind fun _ => .ok _
    | some fileExe => exact (check_disarms _).bind fun _ => .ok _

theorem addDefaultClingArgs_disarms (args : List Str) :
    Disarms Fault.DebugOnly (addDefaultClingArgs b host args)
      (addDefaultClingArgs b.release host args) := by
  unfold addDefaultClingArgs
  cases host.dirExe with
  | none => exact (notReached_disarms b).bind fun _ => .ok _
  | some dirExe => exact (check_disarms _).bind fun _ => .ok _

theorem isAllowedClangArgument_disarms (arg : Str) :
    Disarms Fault.DebugOnly (isAllowedClangArgument host arg)
      (isAllowedClangArgument host arg) := by
  by_cases h : arg = ['-']
  · rw [h, isAllowedClangArgument_dash]
    exact Disarms.of_safe fun e he => Except.error.inj he ▸ id
  · rw [isAllowedClangArgument_eq host h]
    exact .ok _

theorem clangArgToClingArg_disarms (arg : Str) :
    Disarms Fault.DebugOnly (clangArgToClingArg arg) (clangArgToClingArg arg) := by
  unfold clangArgToClingArg
  refine Disarms.ite (fun _ => .ok _) fun _ => Disarms.ite (fun _ => .ok _) fun _ => ?_
  exact (check_disarms _).bind fun _ => (removePrefix_disarms ..).bind fun _ => .ok _

theorem pipelineClangArgToCling_disarms (combinedForClang : Str) (o : UnergisteredOption)
    (clingExtraArgs : List Str) :
    Disarms Fault.DebugOnly (pipelineClangArgToCling combinedForClang o clingExtraArgs)
      (pipelineClangArgToCling combinedForClang o clingExtraArgs) := by
  unfold pipelineClangArgToCling
  refine (clangArgToClingArg_disarms _).bind fun arg => ?_
  cases arg with
  | none => exact .ok _
  | some combinedForCling =>
    refine Disarms.ite (fun _ => (check_disarms _).bind fun _ => .ok _) fun _ => ?_
    exact Disarms.ite (fun _ => .ok _) fun _ => .ok _

theorem forwardValue_disarms (o : UnergisteredOption) (args : Arguments) (value : Str) :
    Disarms Fault.DebugOnly (forwardValue b host o args value)
      (forwardValue b.release host o args value) := by
  unfold forwardValue
  refine Disarms.ite (fun _ => (notReached_disarms b).bind fun _ => .ok _) fun _ => ?_
  refine (isAllowedClangArgument_disarms host _).bind fun allowed => ?_
  refine Disarms.ite (fun _ => .ok _) fun _ => Disarms.ite (fun _ => .ok _) fun _ => ?_
  refine Disarms.ite (fun _ => ?_) fun _ => .ok _
  exact (pipelineClangArgToCling_disarms ..).bind fun _ => .ok _

theorem forwardOption_disarms (args : Arguments) (o : UnergisteredOption) :
    Disarms Fault.DebugOnly (forwardOption b host args o) (forwardOption b.release host args o) :=
  Disarms.ite (fun _ => .ok _) fun _ =>
    Disarms.foldlM (fun args value => forwardValue_disarms b host o args value) o.values args

theorem populateClangArguments_disarms (clangBuildPath : FilePath) (args : Arguments)
    (unregisteredOptions : List UnergisteredOption) :
    Disarms Fault.DebugOnly
      (populateClangArguments b host clangBuildPath args unregisteredOptions)
      (populateClangArguments b.release host clangBuildPath args unregisteredOptions) := by
  unfold populateClangArguments
  refine (addDefaultClangArgs_disarms b host _ _).bind fun added => ?_
  refine (dcheck_disarms b _).bind fun _ => Disarms.ite (fun _ => .ok _) fun _ => ?_
  exact (Disarms.foldlM (forwardOption_disarms b host) _ _).bind fun _ => .ok _

/-! ### The environments -/

/-- The second environment has created what the first has, and perhaps more. -/
abbrev ScopedClangEnvironment.GoesOn : ScopedClangEnvironment → ScopedClangEnvironment → Prop :=
  Proc.Extends ScopedClangEnvironment.created fun _ => True

theorem makeUnique_disarms (object : Object) :
    Proc.Disarms Fault.DebugOnly ScopedClangEnvironment.GoesOn (makeUnique object)
      (makeUnique object) :=
  .update fun _ => ⟨[object], rfl, fun _ _ => trivial⟩

/-- Nothing that is changed was created. -/
theorem updateClang_disarms {f : ScopedClangEnvironment → ScopedClangEnvironment}
    (h : ∀ env, (f env).created = env.created) :
    Proc.Disarms (ε := Fault) Fault.DebugOnly ScopedClangEnvironment.GoesOn (Proc.update f)
      (Proc.update f) :=
  .update fun env =>
    ⟨[], (h env).trans (List.append_nil _).symm, fun _ ha => absurd ha List.not_mem_nil⟩

theorem dcheckOwned_disarms (object : Object) :
    Proc.Disarms Fault.DebugOnly ScopedClangEnvironment.GoesOn (dcheckOwned b object)
      (dcheckOwned b.release object) :=
  Proc.Disarms.get.bind fun _ => .ofExcept (dcheck_disarms b _)

theorem createObjects_disarms (outDir : FilePath) :
    Proc.Disarms Fault.DebugOnly ScopedClangEnvironment.GoesOn
      (ScopedClangEnvironment.createObjects b outDir)
      (ScopedClangEnvironment.createObjects b.release outDir) := by
  unfold ScopedClangEnvironment.createObjects
  refine (makeUnique_disarms _).bind fun _ => (dcheckOwned_disarms b _).bind fun _ => ?_
  refine (makeUnique_disarms _).bind fun _ => ?_
  refine (Proc.Disarms.ofExcept (check_disarms _)).bind fun _ => ?_
  refine (dcheckOwned_disarms b _).bind fun _ => (dcheckOwned_disarms b _).bind fun _ => ?_
  refine (makeUnique_disarms _).bind fun _ => (dcheckOwned_disarms b _).bind fun _ => ?_
  refine Proc.Disarms.bind (updateClang_disarms ?_) fun _ => makeUnique_disarms _
  exact fun _ => rfl

theorem ScopedClangEnvironment.init_disarms (baseSwitches : BaseSwitches) (cmd : CommandLine) :
    Proc.Disarms Fault.DebugOnly ScopedClangEnvironment.GoesOn (init b host baseSwitches cmd)
      (init b.release host baseSwitches cmd) := by
  unfold init
  refine (Proc.Disarms.ofExcept (dcheck_disarms b _)).bind fun _ => ?_
  refine Proc.Disarms.get.bind fun env => ?_
  refine (Proc.Disarms.ofExcept (populateClangArguments_disarms b host _ _ _)).bind ?_
  rintro ⟨ok, args⟩
  refine Proc.Disarms.bind (updateClang_disarms ?_) fun _ => ?_
  · exact fun _ => rfl
  refine Proc.Disarms.ite (fun _ => .pure _) fun _ => ?_
  refine (Proc.Disarms.ofExcept (dcheck_disarms b _)).bind fun _ => ?_
  refine Proc.Disarms.bind (updateClang_disarms ?_) fun _ => ?_
  · intro env
    split <;> rfl
  · exact (createObjects_disarms b _).bind fun _ => .pure _

theorem pipelineClingArg_disarms (args : List Str) (arg : Str) :
    Disarms Fault.DebugOnly (pipelineClingArg b args arg) (pipelineClingArg b.release args arg) :=
  Disarms.ite (fun _ => (notReached_disarms b).bind fun _ => .ok _) fun _ => .ok _

theorem loadScriptFile_disarms (interpreter : ClingInterpreter) (fullPath : FilePath) :
    Disarms Fault.DebugOnly (loadScriptFile b interpreter fullPath)
      (loadScriptFile b.release interpreter fullPath) :=
  (dcheck_disarms b _).bind fun _ => .ok _

/-- If the first environment has an interpreter, then so has the second. -/
abbrev ScopedClingEnvironment.GoesOn : ScopedClingEnvironment → ScopedClingEnvironment → Prop :=
  Proc.Extends ScopedClingEnvironment.members fun _ => True

theorem updateCling_disarms {f : ScopedClingEnvironment → ScopedClingEnvironment}
    (h : ∀ env, env.clingInterpreter.isSome → (f env).clingInterpreter.isSome) :
    Proc.Disarms (ε := Fault) Fault.DebugOnly ScopedClingEnvironment.GoesOn (Proc.update f)
      (Proc.update f) := by
  refine .update fun env => ?_
  unfold ScopedClingEnvironment.GoesOn Proc.Extends ScopedClingEnvironment.members
  by_cases hsome : env.clingInterpreter.isSome = true
  · exact ⟨[], by rw [if_pos hsome, if_pos (h env hsome), List.append_nil], fun _ _ => trivial⟩
  · exact ⟨_, by rw [if_neg hsome, List.nil_append], fun _ _ => trivial⟩

theorem ScopedClingEnvironment.init_disarms (scriptFiles : List FilePath)
    (clingExtraArgs : List Str) :
    Proc.Disarms Fault.DebugOnly ScopedClingEnvironment.GoesOn
      (init b host scriptFiles clingExtraArgs)
      (init b.release host scriptFiles clingExtraArgs) := by
  have hargs : ∀ args : List Str, Proc.Disarms (ε := Fault) Fault.DebugOnly GoesOn
      (Proc.update fun env => { env with clingInterpreterArgs := args })
      (Proc.update fun env => { env with clingInterpreterArgs := args }) := fun _ =>
    updateCling_disarms fun _ h => h
  have hinterpreter : ∀ interpreter : ClingInterpreter,
      Proc.Disarms (ε := Fault) Fault.DebugOnly GoesOn
        (Proc.update fun env => { env with clingInterpreter := some interpreter })
        (Proc.update fun env => { env with clingInterpreter := some interpreter }) := fun _ =>
    updateCling_disarms fun _ _ => rfl
  unfold init
  refine Proc.Disarms.ite (fun _ => ?_) fun _ => .pure _
  refine Proc.Disarms.get.bind fun env => ?_
  refine (Proc.Disarms.ofExcept (addDefaultClingArgs_disarms b host _)).bind ?_
  rintro ⟨ok, defaults⟩
  refine (hargs defaults).bind fun _ => Proc.Disarms.ite (fun _ => .pure _) fun _ => ?_
  refine (Proc.Disarms.ofExcept (dcheck_disarms b _)).bind fun _ => ?_
  refine (Proc.Disarms.ofExcept (dcheck_disarms b _)).bind fun _ => ?_
  refine (Proc.Disarms.ofExcept
    (Disarms.foldlM (pipelineClingArg_disarms b) _ _)).bind fun args => ?_
  refine (hargs args).bind fun _ => (Proc.Disarms.ofExcept (dcheck_disarms b _)).bind fun _ => ?_
  refine (Proc.Disarms.ofExcept (dcheck_disarms b _)).bind fun _ => ?_
  refine (hinterpreter _).bind fun _ => (Proc.Disarms.ofExcept
    (Disarms.foldlM (loadScriptFile_disarms b) _ _)).bind fun interpreter => ?_
  exact (hinterpreter interpreter).bind fun _ => .pure _

/-! ### `saveFile` -/

/-- The second state is reached from the first. -/
abbrev SaveState.GoesOn : SaveState → SaveState → Prop := Proc.Extends SaveState.log fun _ => True

/-- The release build of a part of `saveFile`, next to the debug build. -/
abbrev Save.Disarms {α : Type} (p q : Save α) : Prop :=
  Proc.Disarms Fault.DebugOnly SaveState.GoesOn p q

theorem emit_disarms (event : SaveEvent) : Save.Disarms (emit event) (emit event) :=
  .update fun _ => ⟨[event], rfl, fun _ _ => trivial⟩

theorem setFile_disarms (path : FilePath) (contents : Str) :
    Save.Disarms (setFile path contents) (setFile path contents) :=
  .update fun _ => ⟨[], (List.append_nil _).symm, fun _ h => absurd h List.not_mem_nil⟩

theorem appendFile_disarms (path : FilePath) (text : Str) :
    Save.Disarms (appendFile path text) (appendFile path text) :=
  Proc.Disarms.get.bind fun _ => setFile_disarms ..

theorem RawFdOstream.new_disarms (device : Device) (path : FilePath) :
    Save.Disarms (RawFdOstream.new device path) (RawFdOstream.new device path) := by
  unfold RawFdOstream.new
  refine (emit_disarms _).bind fun _ => ?_
  exact Proc.Disarms.ite (fun _ => (setFile_disarms ..).bind fun _ => .pure _) fun _ => .pure _

theorem RawFdOstream.write_disarms (device : Device) (stream : RawFdOstream) (text : Str) :
    Save.Disarms (stream.write device text) (stream.write device text) := by
  unfold write
  refine (emit_disarms _).bind fun _ => Proc.Disarms.ite (fun _ => ?_) fun _ => .throw id
  cases device.writes stream.written with
  | stored => exact (appendFile_disarms ..).bind fun _ => .pure _
  | failed count => exact (appendFile_disarms ..).bind fun _ => .pure _

theorem RawFdOstream.close_disarms (device : Device) (stream : RawFdOstream) :
    Save.Disarms (stream.close device) (stream.close device) :=
  (emit_disarms _).bind fun _ => .ite (fun _ => .pure _) fun _ => .throw id

theorem RawFdOstream.destroy_disarms (stream : RawFdOstream) :
    Save.Disarms stream.destroy stream.destroy :=
  .ite (fun _ => .throw id) fun _ => .pure _

theorem flushFile_disarms (outPath : FilePath) (editBuffer : List Str) (device : Device) :
    Save.Disarms (flushFile b host outPath editBuffer device)
      (flushFile b.release host outPath editBuffer device) := by
  unfold flushFile
  refine (RawFdOstream.new_disarms device outPath).bind fun opened => ?_
  refine (Proc.Disarms.foldlM (RawFdOstream.write_disarms device) _ _).bind fun outFile => ?_
  refine (RawFdOstream.close_disarms device outFile).bind fun outFile => ?_
  refine (emit_disarms _).bind fun _ => ?_
  refine Proc.Disarms.bind (Proc.Disarms.get.bind fun _ => .pure _) fun absolutePath => ?_
  exact (Proc.Disarms.ofExcept (dcheck_disarms b _)).bind fun _ => outFile.destroy_disarms

theorem boundSaveFile_disarms (outDir : FilePath) (call : SaveCall) :
    Save.Disarms (boundSaveFile b host outDir call) (boundSaveFile b.release host outDir call) := by
  unfold boundSaveFile saveFile
  refine Proc.Disarms.ite (fun _ => emit_disarms _) fun _ => ?_
  refine Proc.Disarms.ite (fun _ => emit_disarms _) fun _ => ?_
  refine Proc.Disarms.ite (fun _ => emit_disarms _) fun _ => ?_
  exact (flushFile_disarms b host _ _ _).bind fun _ => .pure _

end

/-! ### The steps of `main` -/

/-- The same command line and the same answers, for the release build. -/
abbrev World.release (w : World) : World := { w with build := w.build.release }

def Stop.DebugOnly : Stop → Prop
  | .fault f => f.DebugOnly
  | .exited _ => False

/-- The second state is reached from the first: nothing that was done or saved is undone. -/
structure MainState.GoesOn (s s' : MainState) : Prop where
  trace : s.trace <+: s'.trace
  saves : s.save.log <+: s'.save.log

instance : Std.Refl MainState.GoesOn := ⟨fun _ => ⟨List.prefix_refl _, List.prefix_refl _⟩⟩

instance : IsTrans MainState MainState.GoesOn :=
  ⟨fun _ _ _ h h' => ⟨h.trace.trans h'.trace, h.saves.trans h'.saves⟩⟩

/-- The release build of a part of `main`, next to the debug build. -/
abbrev MainProc.Disarms {α : Type} (p q : MainProc α) : Prop :=
  Proc.Disarms Stop.DebugOnly MainState.GoesOn p q

section

theorem assertions_disarms {α : Type} {x y : Except Fault α}
    (h : Checks.Disarms Fault.DebugOnly x y) : MainProc.Disarms (assertions x) (assertions y) :=
  .ofExcept (h.mapError fun _ => Iff.rfl)

theorem act_disarms (action : Action) : MainProc.Disarms (act action) (act action) :=
  .update fun _ => ⟨List.prefix_append _ _, List.prefix_refl _⟩

theorem createAll_disarms (objects : List Object) :
    MainProc.Disarms (createAll objects) (createAll objects) :=
  .forM (fun _ => act_disarms _) objects

theorem destroyAll_disarms (objects : List Object) :
    MainProc.Disarms (destroyAll objects) (destroyAll objects) :=
  .forM (fun _ => act_disarms _) objects

variable (w : World)

theorem trigger_disarms (event : Event) :
    MainProc.Disarms (trigger w event) (trigger w.release event) :=
  (act_disarms _).bind fun _ => Proc.Disarms.get.bind fun _ => .forM (fun _ => act_disarms _) _

theorem logSourcePathList_disarms (sources : List SourceRun) :
    Disarms Fault.DebugOnly (logSourcePathList w sources) (logSourcePathList w.release sources) :=
  .forM (fun _ => dcheck_disarms w.build _) sources

theorem processSource_disarms (run : SourceRun) :
    MainProc.Disarms (processSource w run) (processSource w.release run) := by
  unfold processSource
  refine Proc.Disarms.ite (fun _ => ?_) fun _ => .pure _
  refine Proc.Disarms.bind ?_ fun _ => Proc.Disarms.get.bind fun _ => act_disarms _
  refine .onPart ?_ ?_ ?_ (boundSaveFile_disarms w.build w.host w.outDir _)
  · exact fun _ => Iff.rfl
  · exact fun s save h => ⟨List.prefix_refl _, h.beginning⟩
  · exact fun s save save' h => ⟨List.prefix_refl _, h.beginning⟩

theorem clangTool_run_disarms (args : List Str) :
    MainProc.Disarms (ClangTool.run w args) (ClangTool.run w.release args) := by
  unfold ClangTool.run
  refine (act_disarms _).bind fun _ => (assertions_disarms (check_disarms _)).bind fun _ => ?_
  refine (assertions_disarms (dcheck_disarms w.build _)).bind fun _ => ?_
  cases w.optionsParser args with
  | error status =>
    exact .throw id
  | ok sources =>
    refine (assertions_disarms (logSourcePathList_disarms w sources)).bind fun _ => ?_
    exact (Proc.Disarms.forM (processSource_disarms w) sources).bind fun _ => act_disarms _

theorem runClangLibTooling_disarms :
    MainProc.Disarms (runClangLibTooling w) (runClangLibTooling w.release) := by
  unfold runClangLibTooling
  refine Proc.Disarms.get.bind fun s => ?_
  refine (assertions_disarms (dcheck_disarms w.build _)).bind fun _ => ?_
  refine (assertions_disarms (dcheck_disarms w.build _)).bind fun _ => ?_
  exact clangTool_run_disarms w _

theorem cmdInit_disarms :
    Disarms Fault.DebugOnly (ScopedCmdEnvironment.init w)
      (ScopedCmdEnvironment.init w.release) := by
  unfold ScopedCmdEnvironment.init
  refine (dcheck_disarms w.build _).bind fun _ => ?_
  cases w.host.dirExe with
  | none =>
    exact (notReached_disarms w.build).bind fun _ => .ok _
  | some dirExe =>
    cases w.parsed with
    | none =>
      exact (dcheck_disarms w.build _).bind fun _ => .ok _
    | some cmd =>
      exact .ok _

theorem pluginInit_disarms :
    MainProc.Disarms (ScopedPluginEnvironment.init w) (ScopedPluginEnvironment.init w.release) := by
  unfold ScopedPluginEnvironment.init
  refine (assertions_disarms (dcheck_disarms w.build _)).bind fun _ => ?_
  cases w.host.dirExe with
  | none =>
    exact (assertions_disarms (notReached_disarms w.build)).bind fun _ => .pure _
  | some dirExe =>
    refine (trigger_disarms w _).bind fun _ => ?_
    refine (assertions_disarms (check_disarms _)).bind fun _ => ?_
    refine (assertions_disarms (dcheck_disarms w.build _)).bind fun _ => ?_
    refine (assertions_disarms (dcheck_disarms w.build _)).bind fun _ => ?_
    exact (trigger_disarms w _).bind fun _ => .pure _

theorem initBase_disarms : MainProc.Disarms (initBase w) (initBase w.release) :=
  (act_disarms _).bind fun _ => .pure _

theorem checkCompileCommands_disarms :
    MainProc.Disarms (checkCompileCommands w) (checkCompileCommands w.release) :=
  .ite (fun _ => act_disarms _) fun _ => .pure _

/-- The `init` of an environment of which is recorded what it created. -/
theorem onPart_disarms {τ : Type} {part : MainState → τ} {put : τ → MainState → MainState}
    {objects : τ → List Object}
    (hput : ∀ t s, (put t s).trace = s.trace ++ (objects t).map .created ∧ (put t s).save = s.save)
    {p q : Proc Fault τ Bool}
    (h : Proc.Disarms Fault.DebugOnly (Proc.Extends objects fun _ => True) p q) :
    MainProc.Disarms (Proc.onPart part put Stop.fault p) (Proc.onPart part put Stop.fault q) := by
  refine .onPart (fun _ => Iff.rfl) (fun s t _ => ?_) (fun s t t' hextends => ?_) h
  · obtain ⟨htrace, hsave⟩ := hput t s
    exact ⟨htrace ▸ List.prefix_append _ _, hsave ▸ List.prefix_refl _⟩
  · obtain ⟨htrace, hsave⟩ := hput t s
    obtain ⟨htrace', hsave'⟩ := hput t' s
    constructor
    · rw [htrace, htrace']
      exact (List.prefix_append_right_inj _).2 (hextends.beginning.map _)
    · rw [hsave, hsave']

theorem initClang_disarms : MainProc.Disarms (initClang w) (initClang w.release) := by
  refine onPart_disarms ?_ (ScopedClangEnvironment.init_disarms w.build w.host _ _)
  exact fun _ _ => ⟨rfl, rfl⟩

theorem initCling_disarms : MainProc.Disarms (initCling w) (initCling w.release) := by
  unfold initCling
  refine Proc.Disarms.get.bind fun s => ?_
  refine onPart_disarms ?_ (ScopedClingEnvironment.init_disarms w.build w.host _ _)
  exact fun _ _ => ⟨rfl, rfl⟩

theorem registerClingInterpreter_disarms :
    MainProc.Disarms (registerClingInterpreter w) (registerClingInterpreter w.release) :=
  Proc.Disarms.get.bind fun _ => (assertions_disarms (dcheck_disarms w.build _)).bind fun _ =>
    trigger_disarms w _

theorem registerAnnotationMethods_disarms :
    MainProc.Disarms (registerAnnotationMethods w) (registerAnnotationMethods w.release) :=
  Proc.Disarms.get.bind fun _ => (assertions_disarms (dcheck_disarms w.build _)).bind fun _ =>
    (assertions_disarms (dcheck_disarms w.build _)).bind fun _ => trigger_disarms w _

theorem require_disarms {p q : MainProc Bool} {next next' : MainProc (Option ℤ)} (message : Str)
    (h : MainProc.Disarms p q) (hnext : MainProc.Disarms next next') :
    MainProc.Disarms (require p message next) (require q message next') :=
  h.bind fun _ => .ite (fun _ => hnext) fun _ => (act_disarms _).bind fun _ => .pure _

theorem initEnv_disarms : MainProc.Disarms (initEnv w) (initEnv w.release) := by
  unfold initEnv
  apply require_disarms _ (assertions_disarms (cmdInit_disarms w))
  apply require_disarms _ (initBase_disarms w)
  apply require_disarms _ (pluginInit_disarms w)
  refine (checkCompileCommands_disarms w).bind fun _ => ?_
  refine require_disarms _ (initClang_disarms w) (Proc.Disarms.ite (fun _ => ?_) fun _ => ?_)
  · apply require_disarms _ (initCling_disarms w)
    exact (registerClingInterpreter_disarms w).bind fun _ =>
      (registerAnnotationMethods_disarms w).bind fun _ => .pure _
  · exact (registerAnnotationMethods_disarms w).bind fun _ => .pure _

theorem handleCmdOptions_disarms :
    MainProc.Disarms (handleCmdOptions w) (handleCmdOptions w.release) := by
  unfold handleCmdOptions
  refine Proc.Disarms.ite (fun _ => ?_) fun _ => Proc.Disarms.ite (fun _ => ?_) fun _ => .pure _
  · exact (assertions_disarms (dcheck_disarms w.build _)).bind fun _ =>
      (trigger_disarms w _).bind fun _ => .pure _
  · exact (trigger_disarms w _).bind fun _ => (runClangLibTooling_disarms w).bind fun _ => .pure _

theorem createLocals_disarms : MainProc.Disarms (createLocals w) (createLocals w.release) := by
  unfold createLocals
  refine Proc.Disarms.ite (fun _ => ?_) fun _ => createAll_disarms _
  exact (assertions_disarms (notReached_disarms w.build)).bind fun _ => createAll_disarms _

theorem destroyLocals_disarms : MainProc.Disarms (destroyLocals w) (destroyLocals w.release) := by
  unfold destroyLocals ScopedPluginEnvironment.destroy
  refine Proc.Disarms.get.bind fun s => (destroyAll_disarms _).bind fun _ => ?_
  refine (destroyAll_disarms _).bind fun _ => Proc.Disarms.bind ?_ fun _ => destroyAll_disarms _
  exact (trigger_disarms w _).bind fun _ => destroyAll_disarms _

theorem main_disarms : MainProc.Disarms (main w) (main w.release) := by
  have hreturn : ∀ code, MainProc.Disarms
      (destroyLocals w >>= fun _ => (pure code : MainProc ℤ))
      (destroyLocals w.release >>= fun _ => (pure code : MainProc ℤ)) :=
    fun _ => (destroyLocals_disarms w).bind fun _ => .pure _
  unfold main
  refine (assertions_disarms (dcheck_disarms w.build _)).bind fun _ => ?_
  refine (createLocals_disarms w).bind fun _ => (initEnv_disarms w).bind fun exit => ?_
  cases exit with
  | some code => exact (act_disarms _).bind fun _ => hreturn code
  | none =>
    refine (handleCmdOptions_disarms w).bind fun exit => ?_
    cases exit with
    | some code => exact hreturn code
    | none => exact (runClangLibTooling_disarms w).bind fun _ => hreturn exitSuccess

end

/-- The release build never stops at a `DCHECK` or a `NOTREACHED`.  A run of the debug build that
does not stop at one either is the run of the release build, to the last action and file; in one
that does, the debug build did and saved nothing that the release build does not as well, in that
order, before it goes on. -/
theorem main_release (w : World) (files : FilePath → Option Str) :
    let debug := (main w).exec (.start files)
    let release := (main w.release).exec (.start files)
    (∀ stop, release.1 = .error stop → ¬ stop.DebugOnly) ∧
      ((∃ stop, debug.1 = .error stop ∧ stop.DebugOnly ∧ debug.2.trace <+: release.2.trace ∧
          debug.2.save.log <+: release.2.save.log) ∨
        debug = release) := by
  intro debug release
  refine ⟨fun stop h => (main_disarms w).safe _ stop h, ?_⟩
  rcases (main_disarms w).same (.start files) with ⟨stop, hstop, hdebug, hgoes⟩ | hsame
  · exact Or.inl ⟨stop, hstop, hdebug, hgoes.trace, hgoes.saves⟩
  · exact Or.inr hsame

/-! ## Without Cling -/

/-- The build without Cling, with the same command line and the same answers of LibTooling and of
the plugins, although these are not handed an interpreter: in particular they rewrite each source to
the same text. -/
abbrev World.withoutCling (w : World) : World :=
  { w with build := { w.build with clingIsOn := false } }

/-- What the interpreter asks of the command line. -/
structure World.ServesCling (w : World) : Prop where
  /-- something follows `extra-arg=` and the character after it -/
  long : ∀ o ∈ w.leftOver, ∀ text ∈ o.texts, startsWith text kExtraArgPrefix = true →
    12 ≤ text.length
  asserted : w.build.dcheckIsOn = true → w.ClingAsserted

section

variable {w : World}

theorem ready_withoutCling_iff : w.Ready ↔
    w.withoutCling.Ready ∧ (w.build.clingIsOn = true → w.ServesCling) := by
  constructor
  · intro h
    refine ⟨⟨h.arguments, h.dirExe, h.fileExe, h.parsed, h.base, h.curDir, h.outDir, h.plugins,
      fun o ho text ht => ?_, fun hon => absurd hon Bool.false_ne_true⟩, fun hon => ?_⟩
    · obtain ⟨hempty, hdash, -⟩ := h.texts o ho text ht
      exact ⟨hempty, hdash, fun hon => absurd hon Bool.false_ne_true⟩
    · exact ⟨fun o ho text ht => (h.texts o ho text ht).2.2 hon, h.cling hon⟩
  · rintro ⟨h, hserves⟩
    refine ⟨h.arguments, h.dirExe, h.fileExe, h.parsed, h.base, h.curDir, h.outDir, h.plugins,
      fun o ho text ht => ?_, fun hon => (hserves hon).asserted⟩
    obtain ⟨hempty, hdash, -⟩ := h.texts o ho text ht
    exact ⟨hempty, hdash, fun hon => (hserves hon).long o ho text ht⟩

/-- Cling takes no part in what LibTooling does. -/
theorem toolCompletes_withoutCling_iff : w.withoutCling.ToolCompletes ↔ w.ToolCompletes :=
  ⟨fun ⟨sources, hsources, h⟩ => ⟨sources, hsources, h.located, h.saved⟩,
    fun ⟨sources, hsources, h⟩ => ⟨sources, hsources, h.located, h.saved⟩⟩

theorem protocol_withoutCling (w : World) :
    w.withoutCling.protocol = w.protocol.filter fun call => decide (call ≠ interpreterCall) := by
  have hkept : ∀ calls : List Call, (∀ call ∈ calls, call ≠ interpreterCall) →
      (calls.filter fun call => decide (call ≠ interpreterCall)) = calls := fun calls h =>
    List.filter_eq_self.2 fun call hcall => decide_eq_true (h call hcall)
  have hstart : ∀ call ∈ w.startCalls, call ≠ interpreterCall := by
    simp [World.startCalls, interpreterCall]
  have hcommands : ∀ call ∈ w.commands ++ w.toolCalls, call ≠ interpreterCall := by
    intro call hcall
    rcases List.mem_append.1 hcall with hcall | hcall
    · unfold World.commands at hcall
      split at hcall
      · rw [List.mem_singleton.1 hcall]
        decide
      · exact absurd hcall List.not_mem_nil
    · unfold World.toolCalls at hcall
      split at hcall
      · exact absurd hcall List.not_mem_nil
      · rw [List.mem_singleton.1 hcall]
        simp [interpreterCall]
  have hregistrations : (w.registrations.filter fun call => decide (call ≠ interpreterCall)) =
      [annotationsCall] := by
    unfold World.registrations
    split <;> decide
  unfold World.protocol
  rw [List.filter_append, List.filter_append, hkept _ hstart, hkept _ hcommands, hregistrations]
  rfl

end

/-- With the same answers of LibTooling and of the plugins, a run of the build with Cling succeeds
exactly when that of the build without succeeds and the command line has what the interpreter asks
of it.  Then both leave the same files, and plugins and LibTooling are asked for the same, but for
the event with the interpreter. -/
theorem main_withoutCling (w : World) (files : FilePath → Option Str) :
    let on := (main w).exec (.start files)
    let off := (main w.withoutCling).exec (.start files)
    (on.1 = .ok exitSuccess ↔
      off.1 = .ok exitSuccess ∧ (w.build.clingIsOn = true → w.ServesCling)) ∧
    (on.1 = .ok exitSuccess → off.2.save.files = on.2.save.files ∧
      off.2.calls = on.2.calls.filter fun call => decide (call ≠ interpreterCall)) := by
  intro on off
  have hiff : on.1 = .ok exitSuccess ↔
      off.1 = .ok exitSuccess ∧ (w.build.clingIsOn = true → w.ServesCling) := by
    constructor
    · intro h
      obtain ⟨hready, hends⟩ := ready_of_success h
      obtain ⟨hready', hserves⟩ := ready_withoutCling_iff.1 hready
      exact ⟨success_of_ready hready' (hends.imp_right toolCompletes_withoutCling_iff.2) files,
        hserves⟩
    · rintro ⟨h, hserves⟩
      obtain ⟨hready', hends⟩ := ready_of_success h
      exact success_of_ready (ready_withoutCling_iff.2 ⟨hready', hserves⟩)
        (hends.imp_right toolCompletes_withoutCling_iff.1) files
  refine ⟨hiff, fun hon => ?_⟩
  have hoff := (hiff.1 hon).1
  have hready := (ready_of_success hon).1
  have hsources : w.withoutCling.sources = w.sources := by
    rw [sources_of_ready hready, sources_of_ready (ready_withoutCling_iff.1 hready).1]
    rfl
  constructor
  · rw [files_of_success hon, files_of_success hoff]
    unfold World.finalFiles World.savedSources
    rw [hsources]
    rfl
  · rw [calls_of_success hon, calls_of_success hoff, protocol_withoutCling, List.filter_append]
    rfl

end Flextool
