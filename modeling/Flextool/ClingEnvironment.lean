import Flextool.ClangEnvironment

/-!
# `cling_environment.cc`: the interpreter

`ScopedClingEnvironment.init` starts the C++ interpreter on the default Cling arguments followed by
those that `populateClangArguments` collected, and calls `loadFile` for each script file.  What it
demands of the collected arguments is `InitAsserts`: there must be some, and each starts with a
dash.
-/

namespace Flextool

open Loops

/-- `cling_utils::ClingInterpreter` -/
structure ClingInterpreter where
  debugId : Str
  args : List Str
  includePaths : List Str
  /-- the files that `loadFile` was called for, whether or not it could load them -/
  loadFileCalls : List FilePath
  deriving DecidableEq, Repr

/-- The result of the call is not looked at. -/
def ClingInterpreter.loadFile (interpreter : ClingInterpreter) (path : FilePath) :
    ClingInterpreter :=
  { interpreter with loadFileCalls := interpreter.loadFileCalls ++ [path] }

/-- Must store the data related to the interpreter. -/
structure ScopedClingEnvironment where
  clingInterpreter : Option ClingInterpreter
  clingIncludePaths : List Str
  clingInterpreterArgs : List Str
  deriving DecidableEq, Repr

def ScopedClingEnvironment.new : ScopedClingEnvironment where
  clingInterpreter := none
  clingIncludePaths := [".".toList, "../".toList]
  clingInterpreterArgs := []

/-- The body of the loop over the extra arguments. -/
def pipelineClingArg (b : Build) (clingInterpreterArgs : List Str) (arg : Str) :
    Except Fault (List Str) := do
  if !startsWith arg kClingArgPrefix then
    notReached b
    return clingInterpreterArgs
  else
    return clingInterpreterArgs ++ [arg]

/-- The body of the loop over the script files. -/
def loadScriptFile (b : Build) (interpreter : ClingInterpreter) (fullPath : FilePath) :
    Except Fault ClingInterpreter := do
  dcheck b (!fullPath.isEmpty)
  return interpreter.loadFile fullPath

/-- Returns whether the environment was created.  Once there is an interpreter, it stays when an
assertion fails later. -/
def ScopedClingEnvironment.init (b : Build) (host : Host) (scriptFiles : List FilePath)
    (clingExtraArgs : List Str) : Proc Fault ScopedClingEnvironment Bool := do
  if b.clingIsOn then
    let env ← get
    let (ok, args) ← Proc.ofExcept (addDefaultClingArgs b host env.clingInterpreterArgs)
    Proc.update fun env => { env with clingInterpreterArgs := args }
    if !ok then
      return false
    else
      Proc.ofExcept (dcheck b (!args.isEmpty))
      Proc.ofExcept (dcheck b (!clingExtraArgs.isEmpty))
      let args ← Proc.ofExcept (clingExtraArgs.foldlM (pipelineClingArg b) args)
      Proc.update fun env => { env with clingInterpreterArgs := args }
      Proc.ofExcept (dcheck b (!args.isEmpty))
      Proc.ofExcept (dcheck b (!env.clingIncludePaths.isEmpty))
      let interpreter : ClingInterpreter :=
        ⟨"MainClingInterpreter_debug_id".toList, args, env.clingIncludePaths, []⟩
      Proc.update fun env => { env with clingInterpreter := some interpreter }
      let interpreter ← Proc.ofExcept (scriptFiles.foldlM (loadScriptFile b) interpreter)
      Proc.update fun env => { env with clingInterpreter := some interpreter }
      return true
  else
    return true

def ScopedClingEnvironment.members (env : ScopedClingEnvironment) : List Object :=
  if env.clingInterpreter.isSome then [.clingInterpreter] else []

/-! ## What `init` asserts -/

/-- The argument starts with the dash that every argument of the interpreter needs. -/
def Dashed (arg : Str) : Prop := arg.head? = some '-'

instance (arg : Str) : Decidable (Dashed arg) := inferInstanceAs (Decidable (_ = _))

theorem pipelineClingArg_guarded (b : Build) :
    Guarded (pipelineClingArg b) (fun arg => b.dcheckIsOn = true → Dashed arg)
      fun args arg => args ++ if Dashed arg then [arg] else [] where
  ok args arg h := by
    by_cases hd : Dashed arg
    · have hs : startsWith arg kClingArgPrefix = true := (startsWith_dash arg).2 hd
      simp [pipelineClingArg, hs, hd]
    · have hs : ¬ startsWith arg kClingArgPrefix = true := mt (startsWith_dash arg).1 hd
      simp [pipelineClingArg, hs, hd, notReached, mt h hd]
  error args arg h := by
    rw [Classical.not_imp] at h
    have hs : ¬ startsWith arg kClingArgPrefix = true := mt (startsWith_dash arg).1 h.2
    exact ⟨.notReached, by simp [pipelineClingArg, hs, notReached, h.1]⟩

theorem loadScriptFile_guarded (b : Build) :
    Guarded (loadScriptFile b) (fun path => b.dcheckIsOn = true → path ≠ [])
      ClingInterpreter.loadFile where
  ok interpreter path h := by
    have hd : dcheck b (!path.isEmpty) = .ok () :=
      (dcheck_eq_ok_iff b _ _).2 fun hb => by simpa using h hb
    simp [loadScriptFile, hd]
  error interpreter path h := by
    rw [Classical.not_imp, not_not] at h
    exact ⟨.dcheck, by simp [loadScriptFile, dcheck, h.1, h.2]⟩

theorem foldl_append_dashed (l args : List Str) :
    (l.foldl (fun args arg => args ++ if Dashed arg then [arg] else []) args) =
      args ++ l.filter fun arg => decide (Dashed arg) := by
  induction l generalizing args with
  | nil => simp
  | cons arg l ih =>
    rw [List.foldl_cons, ih]
    by_cases h : Dashed arg <;> simp [h]

theorem foldl_loadFile (l : List FilePath) (interpreter : ClingInterpreter) :
    l.foldl ClingInterpreter.loadFile interpreter =
      { interpreter with loadFileCalls := interpreter.loadFileCalls ++ l } := by
  induction l generalizing interpreter with
  | nil => simp
  | cons path l ih => simp [ih, ClingInterpreter.loadFile]

theorem pushDefaultClingArgs_ne_nil (host : Host) (dirExe : FilePath) (args : List Str) :
    pushDefaultClingArgs host dirExe args ≠ [] :=
  List.append_ne_nil_of_right_ne_nil _ (List.cons_ne_nil _ _)

/-- The default arguments are added exactly when `PathService` answers and the vector is still
empty. -/
theorem addDefaultClingArgs_eq_ok_true_iff (b : Build) (host : Host) (args defaults : List Str) :
    addDefaultClingArgs b host args = .ok (true, defaults) ↔
      ∃ dirExe, host.dirExe = some dirExe ∧ args = [] ∧
        defaults = pushDefaultClingArgs host dirExe [] := by
  unfold addDefaultClingArgs
  cases hd : host.dirExe with
  | none => cases hb : b.dcheckIsOn <;> simp [notReached, hb]
  | some dirExe =>
    cases args with
    | nil => simp [check_true, eq_comm]
    | cons a args => simp [check]

/-- What a debug build asserts about the extra arguments and the script files. -/
structure ScopedClingEnvironment.InitAsserts (env : ScopedClingEnvironment)
    (scriptFiles : List FilePath) (clingExtraArgs : List Str) : Prop where
  extraArgs : clingExtraArgs ≠ []
  dashed : ∀ arg ∈ clingExtraArgs, Dashed arg
  includePaths : env.clingIncludePaths ≠ []
  scripts : ∀ path ∈ scriptFiles, path ≠ []

/-- The environment after `init`, when it runs on these default arguments. -/
def ScopedClingEnvironment.started (env : ScopedClingEnvironment) (defaults : List Str)
    (scriptFiles : List FilePath) (clingExtraArgs : List Str) : ScopedClingEnvironment :=
  let args := defaults ++ clingExtraArgs.filter fun arg => decide (Dashed arg)
  { env with
    clingInterpreter :=
      some ⟨"MainClingInterpreter_debug_id".toList, args, env.clingIncludePaths, scriptFiles⟩
    clingInterpreterArgs := args }

/-- In a build with Cling, `init` succeeds exactly when the defaults are added and, in a debug
build, nothing it asserts fails. -/
theorem ScopedClingEnvironment.init_eq_ok_true_iff {b : Build} (hb : b.clingIsOn = true)
    (host : Host) (env env' : ScopedClingEnvironment) (scriptFiles : List FilePath)
    (clingExtraArgs : List Str) :
    (init b host scriptFiles clingExtraArgs).result env = .ok (true, env') ↔
      ∃ defaults, addDefaultClingArgs b host env.clingInterpreterArgs = .ok (true, defaults) ∧
        (b.dcheckIsOn = true → env.InitAsserts scriptFiles clingExtraArgs) ∧
        env' = env.started defaults scriptFiles clingExtraArgs := by
  unfold init
  rw [if_pos hb]
  simp only [Proc.result_get_bind, Proc.result_ofExcept_bind, Proc.result_update_bind]
  cases hadd : addDefaultClingArgs b host env.clingInterpreterArgs with
  | error fault => simp
  | ok r =>
    obtain ⟨ok, defaults⟩ := r
    cases ok with
    | false => simp
    | true =>
      have hne : defaults ≠ [] := by
        obtain ⟨dirExe, -, -, rfl⟩ := (addDefaultClingArgs_eq_ok_true_iff ..).1 hadd
        exact pushDefaultClingArgs_ne_nil host dirExe []
      have hdefaults : dcheck b (!defaults.isEmpty) = .ok () :=
        dcheck_of_true b (by simpa using hne)
      have hargs := fun args => (pipelineClingArg_guarded b).foldlM.eq_ok_iff defaults args
        clingExtraArgs
      have hfiles := fun start final => (loadScriptFile_guarded b).foldlM.eq_ok_iff start final
        scriptFiles
      simp only [foldl_append_dashed] at hargs
      simp only [foldl_loadFile] at hfiles
      simp only [ok_bind, Bool.not_true, Bool.false_eq_true, if_false, Proc.result_ofExcept_bind,
        Proc.result_update_bind, Proc.result_pure, Except.ok.injEq, Prod.mk.injEq, true_and,
        exists_eq_left', bind_eq_ok_iff, hdefaults, hargs, hfiles, dcheck_eq_ok_iff, and_assoc,
        exists_and_left, exists_const]
      constructor
      · rintro ⟨hextra, hdashed, -, hpaths, hscripts, rfl⟩
        exact ⟨fun hd => ⟨by simpa using hextra hd, fun a ha => hdashed a ha hd,
          by simpa using hpaths hd, fun p hp => hscripts p hp hd⟩, rfl⟩
      · rintro ⟨hasserts, rfl⟩
        exact ⟨fun hd => by simpa using (hasserts hd).extraArgs,
          fun a ha hd => (hasserts hd).dashed a ha, fun _ => by simp [hne],
          fun hd => by simpa using (hasserts hd).includePaths,
          fun p hp hd => (hasserts hd).scripts p hp, rfl⟩

end Flextool
