import Flextool.Application

/-!
# `main.cc`, `plugin_environment.cc` and `clang_tool.cc`

`main` creates its environments, initialises them one after the other (`initEnv`), handles the
options that it knows itself and runs LibTooling.  When it returns, its locals are destroyed in
reverse order of declaration, and on the way the destructor of the plugin environment triggers the
last event.  A step that assertions may end is an `Except Fault`.
-/

namespace Flextool

def exitSuccess : ℤ := 0

def exitFailure : ℤ := 1

def kIcuDataFileName : Str := "./resources/icu/optimal/icudt68l.dat".toList

def kTraceReportFileName : Str := "trace_report.json".toList

def kStringCommandDelim : Str := "/".toList

/-- What the parser holds: nothing, until the command line is parsed. -/
def World.commandLine (w : World) : CommandLine :=
  w.parsed.getD ⟨[], none, none, [], [], fun _ => [], fun _ => []⟩

/-- `cmd_env.appCmd.count` -/
def World.count (w : World) (key : Str) : ℕ := w.commandLine.count w.baseSwitches key

/-- `cmd_env.appCmd.outDir()` -/
def World.outDir (w : World) : FilePath := w.commandLine.outDir w.host.dirExePath

/-! ## `clang_tool.cc` -/

/-- `base::MakeAbsoluteFilePath`, before anything is generated. -/
def Host.makeAbsoluteFilePath (host : Host) (path : FilePath) : FilePath :=
  if host.pathExists path then host.realPath path else []

/-- The assertion of `logSourcePathList` about each source; what it logs is left out. -/
def logSourcePathList (w : World) (sources : List SourceRun) : Except Fault Unit :=
  sources.forM fun run =>
    dcheck w.build (!(w.host.makeAbsoluteFilePath run.path).isEmpty)

/-- The output for this source is stored completely. -/
def World.stored (w : World) (s : SaveState) (source : SourceFile) : Bool :=
  !(extension source.name).isEmpty &&
    decide (s.files (w.host.append w.outDir
      (filename source.name ++ kGeneratedFileExtentionSuffix ++ extension source.name)) =
        some source.editBuffer.flatten)

/-- LibTooling processes a source: at its end the handler that was bound to the output directory
is called. -/
def processSource (w : World) (run : SourceRun) : MainProc Unit := do
  if run.reachesEnd then
    Proc.onPart MainState.save (fun save s => { s with save := save }) Stop.fault
      (boundSaveFile w.build w.host w.outDir ⟨run.source, run.device⟩)
    let s ← get
    act (.saved run.source (w.stored s.save run.source))
  else
    return ()

/-- `ClangTool::run`; the status of the tool is not looked at. -/
def ClangTool.run (w : World) (args : List Str) : MainProc Unit := do
  act (.clangRun args)
  assertions (check (!args.isEmpty))
  assertions (dcheck w.build (args.all fun arg => !arg.isEmpty))
  match w.optionsParser args with
  | .error status => throw (.exited status)
  | .ok sources =>
    assertions (logSourcePathList w sources)
    sources.forM (processSource w)
    act (.toolReturned (w.toolStatus sources))

/-! ## `plugin_environment.cc` -/

def ScopedPluginEnvironment.init (w : World) : MainProc Bool := do
  assertions (dcheck w.build (0 < w.argc))
  match w.host.dirExe with
  | none =>
    assertions (notReached w.build)
    return false
  | some dirExe =>
    trigger w (.init w.argc)
    assertions (check (w.curDir = w.outDir))
    let pluginsDir := w.commandLine.pluginsDir w.host w.kDefaultPluginsDirName dirExe
    let pluginsConfigFile :=
      w.commandLine.pluginsConfigFile w.host w.kPluginsConfigFileName dirExe
    assertions (dcheck w.build (!pluginsDir.isEmpty))
    assertions (dcheck w.build (!pluginsConfigFile.isEmpty))
    trigger w (.startup pluginsDir pluginsConfigFile w.commandLine.pathsToExtraPluginFiles)
    return true

/-- The destructor: plugins are told first, then the dispatcher goes. -/
def ScopedPluginEnvironment.destroy (w : World) : MainProc Unit := do
  trigger w .shutdown
  destroyAll [.mainEventsDispatcher, .pluginEnv]

/-! ## `initEnv` -/

/-- `ScopedCmdEnvironment::init` -/
def ScopedCmdEnvironment.init (w : World) : Except Fault Bool := do
  dcheck w.build (0 < w.argc)
  match w.host.dirExe, w.parsed with
  | none, _ =>
    notReached w.build
    return false
  | some _, none =>
    dcheck w.build false
    return false
  | some _, some _ => return true

/-- The arguments that `initEnv` calls `base_env.init` with. -/
def World.baseInitArgs (w : World) : BaseInitArgs where
  autoStartTracing := w.count kAutoStartTracer
  tracingCategories := w.commandLine.tracingCategories
  outDir := w.outDir
  icuDataFileName := kIcuDataFileName
  traceReportFileName := kTraceReportFileName
  threadsNum := w.commandLine.threadsNum

/-- The call of `base_env.init`. -/
def initBase (w : World) : MainProc Bool := do
  act (.baseInit w.baseInitArgs)
  return w.baseInit w.baseInitArgs

/-- `compile_commands.json` in the output directory. -/
def World.compileCommandsPath (w : World) : FilePath :=
  w.host.append (w.host.makeAbsoluteFilePath w.outDir) "compile_commands.json".toList

/-- `compile_commands.json` in the parent folder. -/
def World.compileCommandsParentPath (w : World) : FilePath :=
  w.host.append (w.host.append (w.host.makeAbsoluteFilePath w.outDir) "..".toList)
    "compile_commands.json".toList

/-- There is a compilation database in or above the output directory. -/
def World.hasCompileCommands (w : World) : Bool :=
  w.host.pathExists w.compileCommandsPath || w.host.pathExists w.compileCommandsParentPath

def World.compileCommandsMessage (w : World) : Str :=
  ("Disable generation of compilation database. If you are using CMake, than set " ++
    "`CMAKE_EXPORT_COMPILE_COMMANDS` to `FALSE`. If `compile_commands.json` exist in build " ++
    "folder (or in parent folder), then code generator may fail. " ++
    "Delete compile_commands.json file: ").toList ++ w.compileCommandsPath ++
    " Delete compile_commands.json file: ".toList ++ w.compileCommandsParentPath

/-- Complain about a compilation database. -/
def checkCompileCommands (w : World) : MainProc Unit := do
  if w.hasCompileCommands then
    act (.log .error w.compileCommandsMessage)
  else
    return ()

/-- The environment after an `init` that was called on a new one, with what that has created. -/
def MainState.putClang (clangEnv : ScopedClangEnvironment) (s : MainState) : MainState :=
  ({ s with clangEnv := clangEnv }).record (clangEnv.created.map .created)

def MainState.putCling (clingEnv : ScopedClingEnvironment) (s : MainState) : MainState :=
  ({ s with clingEnv := clingEnv }).record (clingEnv.members.map .created)

/-- The call of `clang_env.init`. -/
def initClang (w : World) : MainProc Bool :=
  Proc.onPart MainState.clangEnv MainState.putClang Stop.fault
    (ScopedClangEnvironment.init w.build w.host w.baseSwitches w.commandLine)

/-- The call of `cling_env.init`. -/
def initCling (w : World) : MainProc Bool := do
  let s ← get
  Proc.onPart MainState.clingEnv MainState.putCling Stop.fault
    (ScopedClingEnvironment.init w.build w.host w.commandLine.clingScripts
      s.clangEnv.clingExtraArgs)

def registerClingInterpreter (w : World) : MainProc Unit := do
  let s ← get
  assertions (dcheck w.build s.clingEnv.clingInterpreter.isSome)
  trigger w (.registerClingInterpreter .clingInterpreter)

def registerAnnotationMethods (w : World) : MainProc Unit := do
  let s ← get
  assertions (dcheck w.build (s.clangEnv.owns .annotationMethods))
  assertions (dcheck w.build (s.clangEnv.owns .sourceTransformPipeline))
  trigger w (.registerAnnotationMethods .annotationMethods .sourceTransformPipeline)

/-- Go on only when an environment was created; otherwise `initEnv` returns `EXIT_FAILURE`. -/
def require (envCreated : MainProc Bool) (message : Str) (next : MainProc (Option ℤ)) :
    MainProc (Option ℤ) := do
  if ← envCreated then
    next
  else
    act (.log .error message)
    return some exitFailure

/-- Initialise the environments; the order matters. -/
def initEnv (w : World) : MainProc (Option ℤ) :=
  require (assertions (ScopedCmdEnvironment.init w))
    "Unable to create command-line environment".toList <|
  require (initBase w) "Unable to create application environment".toList <|
  require (ScopedPluginEnvironment.init w) "Unable to create application environment".toList do
    checkCompileCommands w
    require (initClang w) "Unable to create clang environment".toList do
      if w.build.clingIsOn then
        require (initCling w) "Unable to create clang environment".toList do
          registerClingInterpreter w
          registerAnnotationMethods w
          return none
      else
        registerAnnotationMethods w
        return none

/-! ## `main` -/

def runClangLibTooling (w : World) : MainProc Unit := do
  let s ← get
  assertions (dcheck w.build (!s.clangEnv.argsStorage.isEmpty))
  assertions (dcheck w.build s.clangEnv.annotationMatchOptions)
  -- the name and the callbacks in these options are set where they are created
  ClangTool.run w s.clangEnv.argsStorage

/-- Nothing is done after the version. -/
def handleVersionCmd (w : World) : MainProc (Option ℤ) := do
  assertions (dcheck w.build (w.count kVersion ≠ 0))
  trigger w (.stringCommand (kStringCommandDelim ++ kVersion) [kVersion])
  return some exitSuccess

/-- The event is the one for the version; help itself is forwarded to LibTooling. -/
def handleHelpCmd (w : World) : MainProc (Option ℤ) := do
  trigger w (.stringCommand (kStringCommandDelim ++ kVersion) [kVersion])
  runClangLibTooling w
  return some exitSuccess

def handleCmdOptions (w : World) : MainProc (Option ℤ) :=
  if w.count kVersion ≠ 0 then handleVersionCmd w
  else if w.count kHelp ≠ 0 then handleHelpCmd w
  else return none

/-- The constructors of the locals of `main`. -/
def createLocals (w : World) : MainProc Unit := do
  if w.host.dirExe.isNone then
    assertions (notReached w.build)
  createAll [.cmdEnv, .baseEnv, .mainEventsDispatcher, .pluginEnv, .clangEnv, .clingEnv]

/-- The destructors of the locals of `main`, last declared first. -/
def destroyLocals (w : World) : MainProc Unit := do
  let s ← get
  destroyAll (.clingEnv :: s.clingEnv.members.reverse)
  destroyAll (.clangEnv :: s.clangEnv.members.reverse)
  ScopedPluginEnvironment.destroy w
  destroyAll [.baseEnv, .cmdEnv]

def main (w : World) : MainProc ℤ := do
  assertions (dcheck w.build (1 < w.argc))
  createLocals w
  match ← initEnv w with
  | some exitCode =>
    act (.log .warning "exited during environment creation".toList)
    destroyLocals w
    return exitCode
  | none =>
    match ← handleCmdOptions w with
    | some exitCode =>
      destroyLocals w
      return exitCode
    | none =>
      runClangLibTooling w
      destroyLocals w
      return exitSuccess

end Flextool
