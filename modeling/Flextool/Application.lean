import Flextool.ClangEnvironment
import Flextool.ClingEnvironment
import Flextool.SaveFile

/-!
# What a run of the application is made of

`main` is a `MainProc`: it changes a `MainState`, in which what it does is recorded as a `trace` of
actions, next to the log of what `saveFile` does, and it stops early at a failed assertion or when
LibTooling exits the process.  What the libraries around it answer is a `World`.
-/

namespace Flextool

/-- The events of `plugin::ToolPlugin::Events` and `backend::PluginManagerEvents`. -/
inductive Event where
  | init (argc : ℕ)
  | startup (pathToDirWithPlugins pathToPluginsConfFile : FilePath)
      (pathsToExtraPluginFiles : List FilePath)
  | registerClingInterpreter (interpreter : Object)
  | registerAnnotationMethods (methods pipeline : Object)
  | stringCommand (rawCmd : Str) (splitParts : List Str)
  | shutdown
  deriving DecidableEq, Repr

/-- The objects whose addresses an event hands to plugins. -/
def Event.handles : Event → List Object
  | .registerClingInterpreter interpreter => [interpreter]
  | .registerAnnotationMethods methods pipeline => [methods, pipeline]
  | _ => []

inductive Sender where
  | main
  | plugin
  deriving DecidableEq, Repr

/-- The arguments of `basis::ScopedBaseEnvironment::init`. -/
structure BaseInitArgs where
  autoStartTracing : ℕ
  tracingCategories : Str
  outDir : FilePath
  icuDataFileName : Str
  traceReportFileName : Str
  threadsNum : ℤ
  deriving DecidableEq, Repr

/-- What a run does. -/
inductive Action where
  | created (object : Object)
  | destroyed (object : Object)
  | log (severity : Severity) (message : Str)
  | baseInit (args : BaseInitArgs)
  /-- an event is triggered on `main_events_dispatcher` -/
  | triggered (sender : Sender) (event : Event)
  /-- `flextool::ClangTool::run` is called -/
  | clangRun (args : List Str)
  /-- `saveFile` returned for this source; whether its output is complete -/
  | saved (source : SourceFile) (complete : Bool)
  /-- `clang::tooling::ClangTool::run` returned -/
  | toolReturned (status : ℕ)
  deriving DecidableEq, Repr

/-- What LibTooling does with one source. -/
structure SourceRun where
  path : FilePath
  /-- it was processed without error -/
  processed : Bool
  /-- the handler for the end of the source file is called, and with it `saveFile` -/
  reachesEnd : Bool
  reachesEnd_of_processed : processed = true → reachesEnd = true
  source : SourceFile
  device : Device

/-- A source with this name, on a machine on which everything works. -/
def SourceRun.sample (name : Str) (processed : Bool) : SourceRun where
  path := name
  processed := processed
  reachesEnd := processed
  reachesEnd_of_processed h := h
  source := ⟨name, ["x".toList], []⟩
  device := Device.working

/-- What the libraries answer in one run of the application. -/
structure World where
  build : Build
  host : Host
  baseSwitches : BaseSwitches
  /-- the number of words on the command line, the name of the application included -/
  argc : ℕ
  /-- `BoostCmdParser::init`; `none` when the command line cannot be parsed -/
  parsed : Option CommandLine
  /-- `basis::ScopedBaseEnvironment::init` -/
  baseInit : BaseInitArgs → Bool
  /-- `base::GetCurrentDirectory` -/
  curDir : FilePath
  kDefaultPluginsDirName : Str
  kPluginsConfigFileName : Str
  /-- the events that plugins trigger while an event is delivered, after a run so far -/
  reactions : List Action → Event → List Event
  /-- `CommonOptionsParser`: the sources, or the status with which it exits the process -/
  optionsParser : List Str → Except ℤ (List SourceRun)
  /-- what `clang::tooling::ClangTool::run` returns for these sources -/
  toolStatus : List SourceRun → ℕ
  /-- it is zero exactly when every source was processed -/
  toolStatus_eq_zero_iff : ∀ sources,
    toolStatus sources = 0 ↔ ∀ source ∈ sources, source.processed = true

/-- A debug build with Cling, in a world where everything works: a command line with these options
and the names of these sources is given, and LibTooling finds them. -/
def World.sample (options : List UnergisteredOption) (sources : List SourceRun) : World where
  build := ⟨true, true⟩
  host := Host.ofPaths (sources.map SourceRun.path)
  baseSwitches := .sample
  argc := options.length + sources.length + 1
  parsed := some ⟨options ++ sources.map fun run => ⟨[], [run.path]⟩, none, none, [], [],
    fun _ => [], fun _ => []⟩
  baseInit _ := true
  curDir := "/opt".toList
  kDefaultPluginsDirName := "plugins".toList
  kPluginsConfigFileName := "plugins.conf".toList
  reactions _ _ := []
  optionsParser _ := .ok sources
  toolStatus sources := if sources.all SourceRun.processed then 0 else 1
  toolStatus_eq_zero_iff sources := by simp

/-- Why a run stops before `main` returns. -/
inductive Stop where
  | fault (fault : Fault)
  | exited (status : ℤ)
  deriving DecidableEq, Repr

/-- The locals of `main` that `initEnv` fills, the files, and what happened so far. -/
structure MainState where
  clangEnv : ScopedClangEnvironment
  clingEnv : ScopedClingEnvironment
  save : SaveState
  trace : List Action

def MainState.start (files : FilePath → Option Str) : MainState where
  clangEnv := .new
  clingEnv := .new
  save := ⟨files, []⟩
  trace := []

/-- Add actions to the trace. -/
def MainState.record (s : MainState) (actions : List Action) : MainState :=
  { s with trace := s.trace ++ actions }

abbrev MainProc (α : Type) : Type := Proc Stop MainState α

def act (action : Action) : MainProc Unit :=
  Proc.update fun s => s.record [action]

/-- Run code that may violate an assertion. -/
def assertions {α : Type} (r : Except Fault α) : MainProc α := Proc.ofExcept (r.mapError .fault)

/-- Trigger an event on `main_events_dispatcher`. -/
def trigger (w : World) (event : Event) : MainProc Unit := do
  act (.triggered .main event)
  let s ← get
  (w.reactions s.trace event).forM fun reaction => act (.triggered .plugin reaction)

def createAll (objects : List Object) : MainProc Unit := objects.forM fun o => act (.created o)

def destroyAll (objects : List Object) : MainProc Unit := objects.forM fun o => act (.destroyed o)

end Flextool
