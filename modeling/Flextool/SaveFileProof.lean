import Flextool.SaveFile

/-!
# What `saveFile` leaves behind

A source file is `Savable` when its name has an extension.  Only then is anything opened, and only
the output path is written.  Saving returns exactly when the output file could be opened, and no
write and not the close failed, see `exec_flushFile_of_opens` and `exec_flushFile_of_not_opens`.
-/

namespace Flextool

/-! ## Names -/

/-- `saveFile` gets as far as the output file. -/
def SourceFile.Savable (source : SourceFile) : Prop := extension source.name ≠ []

instance (source : SourceFile) : Decidable source.Savable := inferInstanceAs (Decidable (_ ≠ _))

/-- The name of the file generated for a source file of this name. -/
def generatedName (name : Str) : Str :=
  Paths.tagged '.' kGeneratedFileExtentionSuffix (filename name)

/-- Where the output for a source file of this name goes. -/
def outPath (host : Host) (outDir : FilePath) (name : Str) : FilePath :=
  host.append outDir (generatedName name)

theorem filename_ne_nil {name : Str} (h : extension name ≠ []) : filename name ≠ [] := by
  obtain ⟨stem, suffix, -, -, hname, -⟩ := Paths.exists_of_extension_ne_nil h
  rw [hname]
  simp

theorem name_ne_nil {name : Str} (h : extension name ≠ []) : name ≠ [] := by
  rintro rfl
  exact filename_ne_nil h rfl

theorem generatedName_ne_nil (name : Str) : generatedName name ≠ [] := by
  have hsuffix : kGeneratedFileExtentionSuffix ≠ [] := by decide
  simp [generatedName, Paths.tagged, hsuffix]

/-- Two outputs share a path exactly when the sources share their last path component. -/
theorem outPath_eq_iff (host : Host) (outDir : FilePath) {s t : Str} (hs : extension s ≠ [])
    (ht : extension t ≠ []) : outPath host outDir s = outPath host outDir t ↔
      filename s = filename t := by
  rw [outPath, outPath, host.append_inj outDir (generatedName_ne_nil s) (generatedName_ne_nil t)]
  exact Paths.tagged_inj hs ht

/-! ## The stream -/

/-- What a write with this outcome stores. -/
def WriteOutcome.kept (outcome : WriteOutcome) (text : Str) : Str :=
  match outcome with
  | .stored => text
  | .failed count => text.take count

/-- What a sequence of writes stores, the first of them being the `i`-th of the device. -/
def Device.kept (device : Device) (i : ℕ) : List Str → Str
  | [] => []
  | text :: rest => (device.writes i).kept text ++ device.kept (i + 1) rest

/-- Some of `n` writes from the `i`-th on fails. -/
def Device.failsWrite (device : Device) (i n : ℕ) : Bool :=
  (List.range' i n).any fun j => decide (device.writes j ≠ .stored)

/-- Opening, every write and closing succeed. -/
def Device.Succeeds (device : Device) (n : ℕ) : Prop :=
  device.opens = true ∧ (∀ i < n, device.writes i = .stored) ∧ device.closes = true

theorem failsWrite_eq_false_iff (device : Device) (n : ℕ) :
    device.failsWrite 0 n = false ↔ ∀ i < n, device.writes i = .stored := by
  simp [Device.failsWrite, List.any_eq_false, List.mem_range']

/-- Everything that was written is stored when no write fails. -/
theorem kept_of_stored {device : Device} {i : ℕ} {texts : List Str}
    (h : ∀ j, i ≤ j → j < i + texts.length → device.writes j = .stored) :
    device.kept i texts = texts.flatten := by
  induction texts generalizing i with
  | nil => rfl
  | cons text rest ih =>
    rw [Device.kept, h i (le_refl i) (by simp), List.flatten_cons,
      ih fun j hj hj' => h j (by omega) (by simp only [List.length_cons]; omega)]
    rfl

theorem exec_write_of_open (device : Device) {stream : RawFdOstream} (hopen : stream.isOpen = true)
    (text : Str) {s : SaveState} {contents : Str} (hfile : s.files stream.path = some contents) :
    (stream.write device text).exec s =
      (.ok { stream with
          written := stream.written + 1
          hasError := stream.hasError || decide (device.writes stream.written ≠ .stored) },
        { files := Store.put stream.path
            (contents ++ (device.writes stream.written).kept text) s.files
          log := s.log ++ [.write stream.path true] }) := by
  cases hw : device.writes stream.written with
  | stored =>
    simp [RawFdOstream.write, emit, hopen, hw, appendFile, setFile, hfile, WriteOutcome.kept,
      Proc.exec_bind]
  | failed count =>
    simp [RawFdOstream.write, emit, hopen, hw, appendFile, setFile, hfile, WriteOutcome.kept,
      Proc.exec_bind]

theorem exec_write_of_closed (device : Device) (stream : RawFdOstream)
    (hopen : stream.isOpen = false) (text : Str) (s : SaveState) :
    (stream.write device text).exec s =
      (.error .streamAssert, { s with log := s.log ++ [.write stream.path false] }) := by
  simp [RawFdOstream.write, emit, hopen]

/-- All the writes of a buffer to an open stream. -/
theorem exec_writes (device : Device) (texts : List Str) (stream : RawFdOstream)
    (hopen : stream.isOpen = true) (s : SaveState) {contents : Str}
    (hfile : s.files stream.path = some contents) :
    (texts.foldlM (RawFdOstream.write device) stream).exec s =
      (.ok { stream with
          written := stream.written + texts.length
          hasError := stream.hasError || device.failsWrite stream.written texts.length },
        { files := Store.put stream.path (contents ++ device.kept stream.written texts) s.files
          log := s.log ++ List.replicate texts.length (.write stream.path true) }) := by
  induction texts generalizing stream s contents with
  | nil =>
    have hput : Store.put stream.path contents s.files = s.files :=
      Function.update_eq_self_iff.2 hfile.symm
    simp [Device.failsWrite, Device.kept, hput]
  | cons text texts ih =>
    rw [List.foldlM_cons, Proc.exec_bind_ok (exec_write_of_open device hopen text hfile)]
    refine (ih _ (by exact hopen) _ (Store.put_self ..)).trans ?_
    simp only [Device.failsWrite, Device.kept, List.length_cons, List.range'_succ, List.any_cons,
      Bool.or_assoc, Store.put_put, List.append_assoc, List.replicate_succ, List.singleton_append,
      Nat.add_assoc, Nat.add_comm 1]

theorem exec_new_of_opens {device : Device} (h : device.opens = true) (path : FilePath)
    (s : SaveState) :
    (RawFdOstream.new device path).exec s =
      (.ok (false, ⟨path, true, false, 0⟩),
        ⟨Store.put path [] s.files, s.log ++ [.opened path true]⟩) := by
  simp [RawFdOstream.new, emit, setFile, h]

theorem exec_new_of_not_opens {device : Device} (h : device.opens = false) (path : FilePath)
    (s : SaveState) :
    (RawFdOstream.new device path).exec s =
      (.ok (true, ⟨path, false, false, 0⟩), { s with log := s.log ++ [.opened path false] }) := by
  simp [RawFdOstream.new, emit, h]

theorem exec_destroy (stream : RawFdOstream) (s : SaveState) :
    stream.destroy.exec s = (if stream.hasError then .error .fatalError else .ok (), s) := by
  cases h : stream.hasError <;> simp [RawFdOstream.destroy, h]

/-! ## Writing the output file -/

/-- What is recorded when an output file that could be opened is written in `n` pieces. -/
def flushEvents (path : FilePath) (n : ℕ) : List SaveEvent :=
  .opened path true :: List.replicate n (.write path true) ++
    [.close path true, .log .info ("Saved file: ".toList ++ path)]

theorem mem_flushEvents {path : FilePath} {n : ℕ} {event : SaveEvent}
    (h : event ∈ flushEvents path n) :
    event = .opened path true ∨ event = .write path true ∨ event = .close path true ∨
      event = .log .info ("Saved file: ".toList ++ path) := by
  simp only [flushEvents, List.cons_append, List.mem_cons, List.mem_append, List.mem_replicate,
    List.not_mem_nil, or_false] at h
  rcases h with h | ⟨-, h⟩ | h | h
  · exact Or.inl h
  · exact Or.inr (Or.inl h)
  · exact Or.inr (Or.inr (Or.inl h))
  · exact Or.inr (Or.inr (Or.inr h))

/-- How that ends. -/
def flushOutcome (b : Build) (host : Host) (path : FilePath) (device : Device) (n : ℕ) :
    Except Fault Unit := do
  dcheck b (path = host.realPath path)
  if device.failsWrite 0 n || !device.closes then .error .fatalError else .ok ()

theorem exec_flushFile_of_opens (b : Build) (host : Host) (path : FilePath) (texts : List Str)
    {device : Device} (h : device.opens = true) (s : SaveState) :
    (flushFile b host path texts device).exec s =
      (flushOutcome b host path device texts.length,
        ⟨Store.put path (device.kept 0 texts) s.files,
          s.log ++ flushEvents path texts.length⟩) := by
  have hwrites := exec_writes device texts ⟨path, true, false, 0⟩ rfl
    ⟨Store.put path [] s.files, s.log ++ [.opened path true]⟩ (Store.put_self ..)
  unfold flushFile
  rw [Proc.exec_bind_ok (exec_new_of_opens h path s)]
  refine (Proc.exec_bind_ok hwrites _).trans ?_
  simp only [RawFdOstream.close, emit, makeAbsoluteFilePath, flushOutcome, flushEvents,
    bind_assoc, Proc.exec_update_bind, Proc.exec_get_bind, if_true, pure_bind,
    Bool.false_eq_true, if_false, Store.put_self, Store.put_put, Option.isSome_some, Bool.false_or,
    List.nil_append, List.append_assoc, List.cons_append]
  cases dcheck b (path = host.realPath path) with
  | error fault => rw [Proc.exec_bind_error (Proc.exec_ofExcept ..), Loops.error_bind]
  | ok u => rw [Proc.exec_bind_ok (Proc.exec_ofExcept ..), exec_destroy, Loops.ok_bind]

/-- When the output file cannot be opened, the first write or the close trips an assertion. -/
theorem exec_flushFile_of_not_opens (b : Build) (host : Host) (path : FilePath) (texts : List Str)
    {device : Device} (h : device.opens = false) (s : SaveState) :
    ∃ event ∈ [SaveEvent.write path false, .close path false],
      (flushFile b host path texts device).exec s =
        (.error .streamAssert, { s with log := s.log ++ [.opened path false, event] }) := by
  unfold flushFile
  rw [Proc.exec_bind_ok (exec_new_of_not_opens h path s)]
  cases texts with
  | nil =>
    refine ⟨.close path false, by simp, ?_⟩
    simp [RawFdOstream.close, emit, Proc.exec_bind]
  | cons text texts =>
    refine ⟨.write path false, by simp, ?_⟩
    have hwrite := exec_write_of_closed device ⟨path, false, false, 0⟩ rfl text
      { s with log := s.log ++ [.opened path false] }
    have hwrites := Proc.exec_bind_error hwrite fun stream =>
      texts.foldlM (RawFdOstream.write device) stream
    refine (Proc.exec_bind_error hwrites _).trans ?_
    simp

/-! ## `saveFile` -/

/-- The last part of `saveFile`. -/
def printBuffer (shouldPrintEditBufferToConsole : Bool) (source : SourceFile) : Save Unit :=
  if shouldPrintEditBufferToConsole then emit (.printed source.mainBuffer.flatten) else pure ()

/-- For a savable source the file is written and the buffer is printed, each if asked for. -/
theorem saveFile_of_savable (b : Build) (host : Host) (outDir : FilePath) (flush print : Bool)
    {source : SourceFile} (h : source.Savable) (device : Device) :
    saveFile b host outDir flush print source device =
      ((if flush then flushFile b host (outPath host outDir source.name) source.editBuffer device
        else pure ()) >>= fun _ => printBuffer print source) := by
  have hname : source.name.isEmpty = false := by simpa using name_ne_nil h
  have hext : (extension source.name).isEmpty = false :=
    List.isEmpty_eq_false_iff.2 h
  have hfile : (filename source.name).isEmpty = false := by simpa using filename_ne_nil h
  simp only [saveFile, hname, hext, hfile, Bool.false_eq_true, if_false]
  cases flush <;> rfl

/-- For any other source a warning is logged. -/
theorem saveFile_of_not_savable (b : Build) (host : Host) (outDir : FilePath) (flush print : Bool)
    {source : SourceFile} (h : ¬ source.Savable) (device : Device) :
    ∃ message, saveFile b host outDir flush print source device = emit (.log .warning message) := by
  have hext : (extension source.name).isEmpty = true := by
    rw [SourceFile.Savable, not_not] at h
    rw [h]
    rfl
  simp only [saveFile, hext, if_true]
  split
  · exact ⟨_, rfl⟩
  · exact ⟨_, rfl⟩

theorem exec_printBuffer (print : Bool) (source : SourceFile) (s : SaveState) :
    (printBuffer print source).exec s = (.ok (), { s with
      log := s.log ++ if print then [.printed source.mainBuffer.flatten] else [] }) := by
  cases print <;> simp [printBuffer, emit]

/-- The whole of a call for a savable source whose output file can be opened. -/
theorem exec_saveFile_of_opens (b : Build) (host : Host) (outDir : FilePath) (print : Bool)
    {source : SourceFile} (h : source.Savable) {device : Device} (hopens : device.opens = true)
    (s : SaveState) :
    ∃ printed, (∀ e ∈ printed, e = SaveEvent.printed source.mainBuffer.flatten) ∧
      (saveFile b host outDir true print source device).exec s =
        (flushOutcome b host (outPath host outDir source.name) device source.editBuffer.length,
          ⟨Store.put (outPath host outDir source.name) (device.kept 0 source.editBuffer) s.files,
            s.log ++ flushEvents (outPath host outDir source.name) source.editBuffer.length ++
              printed⟩) := by
  have hflush := exec_flushFile_of_opens b host (outPath host outDir source.name)
    source.editBuffer hopens s
  rw [saveFile_of_savable b host outDir true print h device, if_pos rfl, Proc.exec_bind, hflush]
  cases flushOutcome b host (outPath host outDir source.name) device source.editBuffer.length with
  | error fault => exact ⟨[], by simp, by simp⟩
  | ok u =>
    refine ⟨_, ?_, exec_printBuffer print source _⟩
    cases print <;> simp

/-- And of one whose output file cannot be opened. -/
theorem exec_saveFile_of_not_opens (b : Build) (host : Host) (outDir : FilePath) (print : Bool)
    {source : SourceFile} (h : source.Savable) {device : Device} (hopens : device.opens = false)
    (s : SaveState) :
    ∃ event ∈ [SaveEvent.write (outPath host outDir source.name) false,
        .close (outPath host outDir source.name) false],
      (saveFile b host outDir true print source device).exec s = (.error .streamAssert,
        ⟨s.files, s.log ++ [.opened (outPath host outDir source.name) false, event]⟩) := by
  obtain ⟨event, hevent, hflush⟩ := exec_flushFile_of_not_opens b host
    (outPath host outDir source.name) source.editBuffer hopens s
  rw [saveFile_of_savable b host outDir true print h device]
  exact ⟨event, hevent, Proc.exec_bind_error hflush _⟩

/-! ## Which files change -/

/-- No file but the one at `path` differs. -/
def OnlyAt (path : FilePath) (s s' : SaveState) : Prop :=
  ∀ other, other ≠ path → s'.files other = s.files other

theorem saveFile_onlyAt (b : Build) (host : Host) (outDir : FilePath) (print : Bool)
    {source : SourceFile} (h : source.Savable) (device : Device) :
    (saveFile b host outDir true print source device).Moves
      (OnlyAt (outPath host outDir source.name)) := by
  intro s other hother
  cases hopens : device.opens with
  | true =>
    obtain ⟨printed, -, hexec⟩ := exec_saveFile_of_opens b host outDir print h hopens s
    rw [hexec]
    exact Store.put_of_ne hother ..
  | false =>
    obtain ⟨event, -, hexec⟩ := exec_saveFile_of_not_opens b host outDir print h hopens s
    rw [hexec]

/-- A source that is not savable changes no file. -/
theorem exec_saveFile_of_not_savable (b : Build) (host : Host) (outDir : FilePath)
    (flush print : Bool) {source : SourceFile} (h : ¬ source.Savable) (device : Device)
    (s : SaveState) :
    ∃ log, (saveFile b host outDir flush print source device).exec s =
      (.ok (), ⟨s.files, log⟩) := by
  obtain ⟨message, hsave⟩ := saveFile_of_not_savable b host outDir flush print h device
  rw [hsave]
  exact ⟨_, Proc.exec_update ..⟩

theorem flushOutcome_eq_ok_iff (b : Build) (host : Host) (path : FilePath) (device : Device)
    (n : ℕ) : flushOutcome b host path device n = .ok () ↔
      (b.dcheckIsOn = true → path = host.realPath path) ∧ (∀ i < n, device.writes i = .stored) ∧
        device.closes = true := by
  unfold flushOutcome
  rw [Loops.bind_eq_ok_iff]
  simp only [dcheck_eq_ok_iff, decide_eq_true_eq, ← failsWrite_eq_false_iff, exists_const]
  apply and_congr_right
  intro _
  cases device.failsWrite 0 n <;> cases device.closes <;> simp

/-- The path of the output is the one that a debug build finds for it. -/
def PathChecked (b : Build) (host : Host) (path : FilePath) : Prop :=
  b.dcheckIsOn = true → path = host.realPath path

/-- For a savable source, `saveFile` returns exactly when everything done to the output file
succeeds and its path passes the check, and the file then holds the whole edit buffer. -/
theorem saveFile_returns_iff (b : Build) (host : Host) (outDir : FilePath) (print : Bool)
    {source : SourceFile} (h : source.Savable) (device : Device) (s : SaveState) :
    ((saveFile b host outDir true print source device).exec s).1 = .ok () ↔
      device.Succeeds source.editBuffer.length ∧
        PathChecked b host (outPath host outDir source.name) := by
  cases hopens : device.opens with
  | false =>
    obtain ⟨event, -, hexec⟩ := exec_saveFile_of_not_opens b host outDir print h hopens s
    simp [hexec, Device.Succeeds, hopens]
  | true =>
    obtain ⟨printed, -, hexec⟩ := exec_saveFile_of_opens b host outDir print h hopens s
    rw [hexec, flushOutcome_eq_ok_iff]
    simp only [Device.Succeeds, hopens, PathChecked, true_and]
    exact and_comm

theorem saveFile_stores (b : Build) (host : Host) (outDir : FilePath) (print : Bool)
    {source : SourceFile} (h : source.Savable) {device : Device}
    (hdevice : device.Succeeds source.editBuffer.length) (s : SaveState) :
    ((saveFile b host outDir true print source device).exec s).2.files =
      Store.put (outPath host outDir source.name) source.editBuffer.flatten s.files := by
  obtain ⟨printed, -, hexec⟩ := exec_saveFile_of_opens b host outDir print h hdevice.1 s
  rw [hexec, kept_of_stored fun j _ hj => hdevice.2.1 j (by omega)]

end Flextool
