import Flextool.Base

/-!
# `clang_util.cc`: command-line arguments for Clang and Cling

`populateClangArguments` turns the options that the command-line parser did not know into the
arguments of the Clang front end (`argsStorage`) and, in a build with Cling, into extra arguments of
the interpreter (`clingExtraArgs`).  The vectors that the C++ code fills by reference are passed in
and returned here; an early `return` or `continue` is a branch.
-/

namespace Flextool

/-- `cmd::UnergisteredOption`: a key (empty for a positional argument) and its values. -/
structure UnergisteredOption where
  key : Str
  values : List Str
  deriving DecidableEq, Repr

/-- `KVToSting(i, separator)`, given the value with index `i`. -/
def UnergisteredOption.kvToSting (o : UnergisteredOption) (value separator : Str) : Str :=
  o.key ++ separator ++ value

def kExtraClangFlag : Str := "-extra-arg".toList

def kExtraIncludeFlag : Str := "-extra-arg=-I".toList

def kClingIncludeFlag : Str := "-I".toList

def kClangBuildPathFlag : Str := "-p=".toList

/-- must be `extra-arg=`, not `--extra-arg=`, after parsing of the command line -/
def kExtraArgPrefix : Str := "extra-arg=".toList

/-- parsed arguments must not start with `-` -/
def kInvalidParsedArgPrefix : Str := "-".toList

/-- arguments are passed to Clang with the `-` prefix -/
def kClangArgPrefix : Str := "-".toList

/-- all arguments passed to Cling must start with `-` -/
def kClingArgPrefix : Str := "-".toList

/-! ## Default arguments -/

def addBoostDefines (args : List Str) (pre : Str) : List Str :=
  args ++ [pre ++ "-DBOOST_SYSTEM_NO_DEPRECATED".toList,
    pre ++ "-DBOOST_ERROR_CODE_HEADER_ONLY".toList]

def addWarningFlags (args : List Str) (pre : Str) : List Str :=
  args ++ [pre ++ "-Wno-unused-command-line-argument".toList]

/-- The pushes of `addDefaultClangArgs`; the application name must be the first argument. -/
def pushDefaultClangArgs (host : Host) (clangBuildPath dirExe : FilePath) (args : List Str) :
    List Str :=
  let args := args ++ ["clang_app".toList]
  let args :=
    if !clangBuildPath.isEmpty && host.pathExists clangBuildPath then
      args ++ [kClangBuildPathFlag ++ clangBuildPath]
    else args
  let prefixForClangFlag := kExtraClangFlag ++ "=".toList
  let args := addWarningFlags args prefixForClangFlag
  let args := args ++ [prefixForClangFlag ++ "-DCLANG_ENABLED=1".toList]
  let args := args ++ [prefixForClangFlag ++ "-DCLANG_IS_ON=1".toList]
  let args := addBoostDefines args prefixForClangFlag
  let args := args ++ [kExtraIncludeFlag ++ dirExe]
  let args := args ++ [kExtraIncludeFlag ++ host.append dirExe "./resources".toList]
  args ++ [prefixForClangFlag ++ "-std=c++17".toList]

/-- Returns whether the defaults were added, and the vector. -/
def addDefaultClangArgs (b : Build) (host : Host) (clangBuildPath : FilePath) (args : List Str) :
    Except Fault (Bool × List Str) := do
  match host.dirExe, host.fileExe with
  | some dirExe, some _ =>
    check args.isEmpty
    return (true, pushDefaultClangArgs host clangBuildPath dirExe args)
  | _, _ =>
    notReached b
    return (false, args)

/-- The pushes of `addDefaultClingArgs`; the application name must be the first argument. -/
def pushDefaultClingArgs (host : Host) (dirExe : FilePath) (args : List Str) : List Str :=
  let args := args ++ ["cling_app".toList]
  let args := addWarningFlags args []
  let args := args ++ ["-DCLING_ENABLED=1".toList]
  let args := args ++ ["-DCLING_IS_ON=1".toList]
  let args := addBoostDefines args []
  let args := args ++ ["--std=c++17".toList]
  let args := args ++ [kClingIncludeFlag ++ dirExe]
  args ++ [kClingIncludeFlag ++ host.append dirExe "./resources".toList]

def addDefaultClingArgs (b : Build) (host : Host) (clingInterpreterArgs : List Str) :
    Except Fault (Bool × List Str) := do
  match host.dirExe with
  | some dirExe =>
    check clingInterpreterArgs.isEmpty
    return (true, pushDefaultClingArgs host dirExe clingInterpreterArgs)
  | none =>
    notReached b
    return (false, clingInterpreterArgs)

/-! ## Filtering and translating one argument -/

/-- The options built into LibTooling that the tool lets through. -/
def allowedClangArguments : List Str :=
  ["help".toList, "help-list".toList, "version".toList, "extra-arg=".toList,
    "extra-arg-before=".toList, "p=".toList]

def isAllowedClangArgument (host : Host) (arg : Str) : Except Fault Bool := do
  check (arraySize kClangArgPrefix ≠ 0)
  -- the copy without the dash is made, but `arg` itself is compared below
  let _argWithoutPrefix ←
    if startsWith arg kClangArgPrefix then removePrefix arg (arraySize kClangArgPrefix)
    else .ok arg
  if allowedClangArguments.any fun allowedArg => startsWith arg allowedArg then
    return true
  else
    return host.pathExists arg

def clangArgToClingArg (arg : Str) : Except Fault (Option Str) := do
  if startsWith arg kInvalidParsedArgPrefix then
    return none
  else if !startsWith arg kExtraArgPrefix then
    return none
  else
    check (arraySize kExtraArgPrefix ≠ 0)
    -- `base::size` counts the NUL: eleven characters for the ten of `extra-arg=`
    let argWithoutPrefix ← removePrefix arg (arraySize kExtraArgPrefix)
    return some argWithoutPrefix

/-- Returns whether the argument was pipelined, and the extra arguments. -/
def pipelineClangArgToCling (combinedForClang : Str) (o : UnergisteredOption)
    (clingExtraArgs : List Str) : Except Fault (Bool × List Str) := do
  match ← clangArgToClingArg combinedForClang with
  | some combinedForCling =>
    if combinedForCling.isEmpty then
      check (combinedForClang = kExtraArgPrefix)
      return (false, clingExtraArgs)
    else if startsWith combinedForCling kClingArgPrefix then
      return (false, clingExtraArgs)
    else
      let withPrefix :=
        if o.key.isEmpty then combinedForCling else kClingArgPrefix ++ combinedForCling
      return (true, clingExtraArgs ++ [withPrefix])
  | none => return (false, clingExtraArgs)

/-! ## The forwarding loop -/

/-- The two vectors that `populateClangArguments` fills. -/
structure Arguments where
  argsStorage : List Str
  clingExtraArgs : List Str
  deriving DecidableEq, Repr

/-- The separator between a key and its value; a positional argument has none. -/
def UnergisteredOption.kvSeparator (o : UnergisteredOption) : Str :=
  if o.key.isEmpty then [] else "=".toList

/-- The body of the loop over the values of an option. -/
def forwardValue (b : Build) (host : Host) (o : UnergisteredOption) (args : Arguments)
    (value : Str) : Except Fault Arguments := do
  let combinedForClang := o.kvToSting value o.kvSeparator
  if combinedForClang.isEmpty then
    notReached b
    return args
  else if !(← isAllowedClangArgument host combinedForClang) then
    return args
  else if startsWith combinedForClang kClangArgPrefix then
    return args
  else
    let withPrefix :=
      if o.key.isEmpty then combinedForClang else kClangArgPrefix ++ combinedForClang
    let argsStorage := args.argsStorage ++ [withPrefix]
    if b.clingIsOn then
      let (_pipelineDone, clingExtraArgs) ←
        pipelineClangArgToCling combinedForClang o args.clingExtraArgs
      return ⟨argsStorage, clingExtraArgs⟩
    else
      return ⟨argsStorage, args.clingExtraArgs⟩

/-- The body of the loop over the unregistered options. -/
def forwardOption (b : Build) (host : Host) (args : Arguments) (o : UnergisteredOption) :
    Except Fault Arguments :=
  if startsWith o.key kInvalidParsedArgPrefix then .ok args
  else o.values.foldlM (forwardValue b host o) args

/-- Returns whether the vectors were populated, and the vectors. -/
def populateClangArguments (b : Build) (host : Host) (clangBuildPath : FilePath)
    (args : Arguments) (unregisteredOptions : List UnergisteredOption) :
    Except Fault (Bool × Arguments) := do
  let (addOk, argsStorage) ← addDefaultClangArgs b host clangBuildPath args.argsStorage
  dcheck b (!argsStorage.isEmpty)
  if !addOk then
    return (false, ⟨argsStorage, args.clingExtraArgs⟩)
  else
    let args ← unregisteredOptions.foldlM (forwardOption b host) ⟨argsStorage, args.clingExtraArgs⟩
    return (true, args)

end Flextool
