import Flextool.ClangUtil

/-!
# `cmd_environment.cc` and `app_cmd_options.cc`: the command line

`BoostCmdParser` splits the command line into options.  Those that `registerOptions` made known to
it are counted, and all others are left over for LibTooling, so `AppCmdOptions.count` knows nothing
of an option that was never registered.
-/

namespace Flextool

def kAutoStartTracer : Str := "start_tracing".toList

def kTracingCategories : Str := "tracing_categories".toList

def kHelp : Str := "help".toList

def kInDir : Str := "indir".toList

def kOutDir : Str := "outdir".toList

def kVersion : Str := "version".toList

def kPluginsDir : Str := "plugins_dir".toList

def kPluginsConfFile : Str := "plugins_config".toList

/-- the long and the short name of one option -/
def kThreadNum : Str := "threads,J".toList

def kScriptFiles : Str := "cling_scripts".toList

def kExtraPluginFiles : Str := "load_plugin".toList

def kDefaultThreadNum : ℤ := 2

def kMinThreadNum : ℤ := 1

def kMaxThreadNum : ℤ := 100

def kPluginsConfigFilesDir : Str := "resources/configuration_files".toList

def defaultEventCategories : Str :=
  ("-sequence_manager,-thread_pool,-base,-toplevel,profiler,user_timing,ui,browser,latency," ++
    "latencyInfo,loading,skia,task_scheduler,native,benchmark,ipc,mojom,media," ++
    "disabled-by-default-lifecycles,disabled-by-default-renderer.scheduler," ++
    "disabled-by-default-v8.gc,disabled-by-default-blink_gc," ++
    "disabled-by-default-system_stats,disabled-by-default-network," ++
    "disabled-by-default-cpu_profiler,disabled-by-default-memory-infra").toList

/-! ## Registered options -/

/-- The names under which an option is known: `long,s` has a long and a short one. -/
def optionNames (spec : Str) : List Str := spec.splitOn ','

def registerCommonOptions (options : List Str) : List Str := options ++ [kHelp, kVersion]

def registerPluginsOptions (options : List Str) : List Str :=
  options ++ [kPluginsDir, kPluginsConfFile, kExtraPluginFiles]

def registerClingOptions (options : List Str) : List Str := options ++ [kScriptFiles]

def registerTracingOptions (options : List Str) : List Str := options ++ [kTracingCategories]

def registerToolOptions (options : List Str) : List Str :=
  options ++ [kOutDir, kInDir, kThreadNum]

/-- The switches of `base/base_switches.h` are registered again. -/
def registerBaseSwitches (baseSwitches options : List Str) : List Str := options ++ baseSwitches

def registerOptions (baseSwitches options : List Str) : List Str :=
  let options := registerCommonOptions options
  let options := registerPluginsOptions options
  let options := registerClingOptions options
  let options := registerTracingOptions options
  let options := registerToolOptions options
  registerBaseSwitches baseSwitches options

/-- The switches of `base`, none of which is called `start_tracing`. -/
structure BaseSwitches where
  switches : List Str
  not_start_tracing : ∀ spec ∈ switches, kAutoStartTracer ∉ optionNames spec

/-- A sample: three of the switches of `base`. -/
def BaseSwitches.sample : BaseSwitches where
  switches := ["v".toList, "vmodule".toList, "trace-to-file".toList]
  not_start_tracing := by decide

/-! ## `BoostCmdParser` and `AppCmdOptions` -/

/-- What `BoostCmdParser` makes of a command line.  An option that occurs several times stands here
several times; a positional argument has an empty key. -/
structure CommandLine where
  options : List UnergisteredOption
  tracingCategoriesArg : Option Str
  threadNumArg : Option ℤ
  clingScripts : List FilePath
  pathsToExtraPluginFiles : List FilePath
  /-- `cmdKeyToDirectory`: the directory that an option names, or nothing -/
  cmdKeyToDirectory : Str → FilePath
  /-- `cmdKeyToFile` -/
  cmdKeyToFile : Str → FilePath

def registered (baseSwitches : BaseSwitches) (key : Str) : Bool :=
  (registerOptions baseSwitches.switches []).any fun spec => (optionNames spec).contains key

/-- `BoostCmdParser::count`: how often an option that is registered occurs. -/
def CommandLine.count (baseSwitches : BaseSwitches) (cmd : CommandLine) (key : Str) : ℕ :=
  if registered baseSwitches key then (cmd.options.filter fun o => decide (o.key = key)).length
  else 0

/-- `BoostCmdParser::unregisteredOptions`: the rest of the command line. -/
def CommandLine.unregisteredOptions (baseSwitches : BaseSwitches) (cmd : CommandLine) :
    List UnergisteredOption :=
  cmd.options.filter fun o => !registered baseSwitches o.key

/-- `AppCmdOptions::tracingCategories` -/
def CommandLine.tracingCategories (cmd : CommandLine) : Str :=
  cmd.tracingCategoriesArg.getD defaultEventCategories

/-- `AppCmdOptions::outDir` -/
def CommandLine.outDir (cmd : CommandLine) (dirExe : FilePath) : FilePath :=
  let dir := cmd.cmdKeyToDirectory kOutDir
  if dir.isEmpty then dirExe else dir

/-- `AppCmdOptions::pluginsDir`, where `kDefaultPluginsDirName` comes from `basis` -/
def CommandLine.pluginsDir (host : Host) (kDefaultPluginsDirName : Str) (cmd : CommandLine)
    (dirExe : FilePath) : FilePath :=
  let dir := cmd.cmdKeyToDirectory kPluginsDir
  if dir.isEmpty then host.append dirExe kDefaultPluginsDirName else dir

/-- `AppCmdOptions::pluginsConfigFile`, where `kPluginsConfigFileName` comes from `basis` -/
def CommandLine.pluginsConfigFile (host : Host) (kPluginsConfigFileName : Str) (cmd : CommandLine)
    (dirExe : FilePath) : FilePath :=
  let pluginsConfigFile := cmd.cmdKeyToFile kPluginsConfFile
  if pluginsConfigFile.isEmpty then
    host.append (host.append dirExe kPluginsConfigFilesDir) kPluginsConfigFileName
  else pluginsConfigFile

/-- `AppCmdOptions::threadsNum` -/
def CommandLine.threadsNum (cmd : CommandLine) : ℤ :=
  max kMinThreadNum (min (cmd.threadNumArg.getD kDefaultThreadNum) kMaxThreadNum)

/-! ## Counting -/

/-- The option stands on the command line. -/
def CommandLine.Given (cmd : CommandLine) (key : Str) : Prop := ∃ o ∈ cmd.options, o.key = key

instance (cmd : CommandLine) (key : Str) : Decidable (cmd.Given key) :=
  inferInstanceAs (Decidable (∃ o ∈ cmd.options, _))

/-- For a registered option, counting tells whether it was given. -/
theorem count_ne_zero_iff {baseSwitches : BaseSwitches} {key : Str}
    (h : registered baseSwitches key = true) (cmd : CommandLine) :
    cmd.count baseSwitches key ≠ 0 ↔ cmd.Given key := by
  simp [CommandLine.count, h, CommandLine.Given]

theorem registerOptions_eq (baseSwitches : List Str) :
    registerOptions baseSwitches [] = registerOptions [] [] ++ baseSwitches := by
  simp [registerOptions, registerBaseSwitches]

/-- What is registered without the switches of `base` stays registered with them. -/
theorem registered_of_own {baseSwitches : BaseSwitches} {key : Str}
    (h : ((registerOptions [] []).any fun spec => (optionNames spec).contains key) = true) :
    registered baseSwitches key = true := by
  rw [registered, registerOptions_eq, List.any_append, h, Bool.true_or]

theorem registered_help (baseSwitches : BaseSwitches) : registered baseSwitches kHelp = true :=
  registered_of_own (by decide)

theorem registered_version (baseSwitches : BaseSwitches) :
    registered baseSwitches kVersion = true := registered_of_own (by decide)

end Flextool
