import Flextool.Base
import Flextool.Lib.Paths
import Flextool.Lib.Proc
import Flextool.Lib.Store

/-!
# `clang_util.cc`: `FileSaveHandler::saveFile`

`saveFile` writes the edit buffer of a source file to a file in the output directory, through an
`llvm::raw_fd_ostream`.  What the machine answers to opening, to each write and to closing the
output file is a `Device`; what happened is recorded in the `log` of the state, next to the files,
so that a run that stops at an assertion can still be told what it did.
-/

namespace Flextool

inductive Severity where
  | info
  | warning
  | error
  deriving DecidableEq, Repr

/-- How one write to a file ends. -/
inductive WriteOutcome where
  | stored
  /-- only the first `count` characters were stored -/
  | failed (count : ℕ)
  deriving DecidableEq, Repr

/-- What the machine answers to the calls made for one output file. -/
structure Device where
  opens : Bool
  writes : ℕ → WriteOutcome
  closes : Bool

/-- A machine on which everything works. -/
def Device.working : Device := ⟨true, fun _ => .stored, true⟩

/-- What `saveFile` does that can be seen. -/
inductive SaveEvent where
  | opened (path : FilePath) (ok : Bool)
  /-- a write to a stream that is open, or not -/
  | write (path : FilePath) (isOpen : Bool)
  | close (path : FilePath) (isOpen : Bool)
  | log (severity : Severity) (message : Str)
  /-- to `llvm::outs()` -/
  | printed (text : Str)
  deriving DecidableEq, Repr

/-- The files and what was done so far. -/
structure SaveState where
  files : FilePath → Option Str
  log : List SaveEvent

/-- The `clang::FileEntry` of a source file, with the text that the rewriter holds for it. -/
structure SourceFile where
  /-- `fileEntry->getName()` -/
  name : Str
  /-- the pieces of `rewriter.getEditBuffer(fileID)`, one write each -/
  editBuffer : List Str
  /-- the edit buffer of `sourceManager.getMainFileID()` -/
  mainBuffer : List Str
  deriving DecidableEq, Repr

abbrev Save (α : Type) : Type := Proc Fault SaveState α

def emit (event : SaveEvent) : Save Unit :=
  Proc.update fun s => { s with log := s.log ++ [event] }

def setFile (path : FilePath) (contents : Str) : Save Unit :=
  Proc.update fun s => { s with files := Store.put path contents s.files }

/-! ## `llvm::raw_fd_ostream` -/

structure RawFdOstream where
  path : FilePath
  isOpen : Bool
  hasError : Bool
  /-- how many writes were made -/
  written : ℕ
  deriving DecidableEq, Repr

/-- The constructor: opening truncates the file.  Returns whether the `error_code` is set, and the
stream. -/
def RawFdOstream.new (device : Device) (path : FilePath) : Save (Bool × RawFdOstream) := do
  emit (.opened path device.opens)
  if device.opens then
    setFile path []
    return (false, ⟨path, true, false, 0⟩)
  else
    return (true, ⟨path, false, false, 0⟩)

/-- Append to the file. -/
def appendFile (path : FilePath) (text : Str) : Save Unit := do
  let s ← get
  setFile path ((s.files path).getD [] ++ text)

/-- A failure is kept in the stream. -/
def RawFdOstream.write (device : Device) (stream : RawFdOstream) (text : Str) :
    Save RawFdOstream := do
  emit (.write stream.path stream.isOpen)
  if stream.isOpen then
    match device.writes stream.written with
    | .stored =>
      appendFile stream.path text
      return { stream with written := stream.written + 1 }
    | .failed count =>
      appendFile stream.path (text.take count)
      return { stream with written := stream.written + 1, hasError := true }
  else
    throw .streamAssert

def RawFdOstream.close (device : Device) (stream : RawFdOstream) : Save RawFdOstream := do
  emit (.close stream.path stream.isOpen)
  if stream.isOpen then
    return { stream with isOpen := false, hasError := stream.hasError || !device.closes }
  else
    throw .streamAssert

/-- The destructor does not let an error pass that nobody checked. -/
def RawFdOstream.destroy (stream : RawFdOstream) : Save Unit :=
  if stream.hasError then throw .fatalError else return ()

/-! ## `saveFile` -/

/-- On POSIX, `MakeAbsoluteFilePath` fails if the path does not exist. -/
def makeAbsoluteFilePath (host : Host) (path : FilePath) : Save FilePath := do
  let s ← get
  return if (s.files path).isSome then host.realPath path else []

/-- The part of `saveFile` under `shouldFlushFile`. -/
def flushFile (b : Build) (host : Host) (outPath : FilePath) (editBuffer : List Str)
    (device : Device) : Save Unit := do
  let (errorCode, outFile) ← RawFdOstream.new device outPath
  let outFile ← editBuffer.foldlM (RawFdOstream.write device) outFile
  let outFile ← outFile.close device
  emit <|
    if errorCode then .log .error ("Could not save file: ".toList ++ outPath)
    else .log .info ("Saved file: ".toList ++ outPath)
  let absolutePath ← makeAbsoluteFilePath host outPath
  Proc.ofExcept (dcheck b (outPath = absolutePath))
  outFile.destroy

def kGeneratedFileExtentionSuffix : Str := ".generated".toList

/-- `fs::path(path).filename()` -/
def filename (path : FilePath) : Str := Paths.afterLast '/' path

/-- `fs::path(path).extension()` -/
def extension (path : FilePath) : Str := Paths.extension '.' (filename path)

def saveFile (b : Build) (host : Host) (outDir : FilePath)
    (shouldFlushFile shouldPrintEditBufferToConsole : Bool) (source : SourceFile)
    (device : Device) : Save Unit := do
  let fullFilePath := source.name
  if fullFilePath.isEmpty then
    emit (.log .warning "unable to save file, invalid file path".toList)
  else
    let originalFileExtention := extension fullFilePath
    if originalFileExtention.isEmpty then
      emit (.log .warning "unable to save file, invalid file extension".toList)
    else
      let filename := filename fullFilePath
      if filename.isEmpty then
        emit (.log .warning "unable to save file, invalid file name".toList)
      else
        let outPath :=
          host.append outDir (filename ++ kGeneratedFileExtentionSuffix ++ originalFileExtention)
        if shouldFlushFile then
          flushFile b host outPath source.editBuffer device
        if shouldPrintEditBufferToConsole then
          emit (.printed source.mainBuffer.flatten)

/-! ## The calls of a run -/

/-- One call of the handler, with what the machine answers to it. -/
structure SaveCall where
  source : SourceFile
  device : Device

/-- `saveFile` with the arguments that `ScopedClangEnvironment::init` binds. -/
def boundSaveFile (b : Build) (host : Host) (outDir : FilePath) (call : SaveCall) : Save Unit :=
  saveFile b host outDir true false call.source call.device

def saveAll (b : Build) (host : Host) (outDir : FilePath) (calls : List SaveCall) : Save Unit :=
  calls.forM (boundSaveFile b host outDir)

end Flextool
