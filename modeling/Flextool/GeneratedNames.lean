import Flextool.SaveFileProof

/-!
# Names of generated files

`saveFile` names its output after the source, with `.generated` and the extension of the source put
behind.  On names that have an extension this is an operation, `SourceName.generated`, that can be
undone, keeps the extension and never comes back to a name it started from
(`generated_names_invertible`).
-/

namespace Flextool

/-! ## Names that `saveFile` accepts -/

theorem filename_of_not_mem {name : Str} (h : '/' ∉ name) : filename name = name :=
  Paths.afterLast_of_not_mem h

theorem not_mem_filename (path : FilePath) : '/' ∉ filename path := Paths.not_mem_afterLast '/' path

theorem extension_of_not_mem {name : Str} (h : '/' ∉ name) :
    extension name = Paths.extension '.' name := by
  unfold extension
  rw [filename_of_not_mem h]

theorem append_suffix_eq_tagged {name : Str} (h : '/' ∉ name) :
    name ++ kGeneratedFileExtentionSuffix ++ extension name =
      Paths.tagged '.' kGeneratedFileExtentionSuffix name := by
  rw [extension_of_not_mem h]
  rfl

theorem not_mem_generated {name : Str} (h : '/' ∉ name) :
    '/' ∉ name ++ kGeneratedFileExtentionSuffix ++ extension name := by
  rw [append_suffix_eq_tagged h]
  exact Paths.not_mem_tagged (by decide) h

theorem extension_generated {name : Str} (h : '/' ∉ name) (hext : extension name ≠ []) :
    extension (name ++ kGeneratedFileExtentionSuffix ++ extension name) = extension name := by
  rw [extension_of_not_mem (not_mem_generated h), append_suffix_eq_tagged h]
  rw [extension_of_not_mem h] at hext ⊢
  exact Paths.extension_tagged _ hext

/-- A file name, without directories, that has an extension. -/
structure SourceName where
  name : Str
  noSeparator : '/' ∉ name
  hasExtension : extension name ≠ []

/-- The name that `saveFile` gives the output for a source with this name. -/
def SourceName.generated (f : SourceName) : SourceName where
  name := f.name ++ kGeneratedFileExtentionSuffix ++ extension f.name
  noSeparator := not_mem_generated f.noSeparator
  hasExtension := by
    rw [extension_generated f.noSeparator f.hasExtension]
    exact f.hasExtension

theorem SourceName.generated_name (f : SourceName) :
    f.generated.name = Paths.tagged '.' kGeneratedFileExtentionSuffix f.name :=
  append_suffix_eq_tagged f.noSeparator

theorem SourceName.extension_name (f : SourceName) : Paths.extension '.' f.name ≠ [] :=
  extension_of_not_mem f.noSeparator ▸ f.hasExtension

theorem SourceName.generated_name_inj (f g : SourceName) :
    f.generated.name = g.generated.name ↔ f.name = g.name := by
  rw [f.generated_name, g.generated_name]
  exact Paths.tagged_inj f.extension_name g.extension_name

/-- Generating again and again tags the name again and again. -/
theorem SourceName.iterate_generated_name (n : ℕ) (f : SourceName) :
    (SourceName.generated^[n] f).name =
      (Paths.tagged '.' kGeneratedFileExtentionSuffix)^[n] f.name :=
  Function.Semiconj.iterate_right SourceName.generated_name n f

theorem SourceName.iterate_generated_name_ne (f : SourceName) {n : ℕ} (hn : 1 ≤ n) :
    (SourceName.generated^[n] f).name ≠ f.name := by
  rw [f.iterate_generated_name n]
  exact Paths.iterate_tagged_ne (by decide) hn f.name

/-- The output file has the extension of the source, wherever it is put. -/
theorem SourceName.extension_append (f : SourceName) (host : Host) (outDir : FilePath) :
    extension (host.append outDir f.name) = extension f.name := by
  have hname : f.name ≠ [] := name_ne_nil f.hasExtension
  obtain ⟨pre, happend⟩ := host.append_eq outDir
  have hlast : filename (pre ++ f.name) = filename pre ++ f.name :=
    Paths.afterLast_append f.noSeparator pre
  rw [happend f.name hname, extension_of_not_mem f.noSeparator]
  unfold extension
  rw [hlast]
  exact Paths.extension_append_left f.extension_name (filename pre)

/-! ## What `saveFile` opens -/

def SaveEvent.openedPath : SaveEvent → Option FilePath
  | .opened path _ => some path
  | _ => none

/-- The paths that were opened, in order. -/
def SaveState.opened (s : SaveState) : List FilePath := s.log.filterMap SaveEvent.openedPath

theorem openedPath_flushEvents (path : FilePath) (n : ℕ) :
    (flushEvents path n).filterMap SaveEvent.openedPath = [path] := by
  have hwrites : (List.replicate n (SaveEvent.write path true)).filterMap SaveEvent.openedPath =
      [] := by
    rw [List.filterMap_eq_nil_iff]
    intro event hevent
    rw [List.eq_of_mem_replicate hevent]
    rfl
  unfold flushEvents
  rw [List.filterMap_append, List.filterMap_cons, hwrites]
  rfl

/-- A call for a savable source opens one file, whether this succeeds or not. -/
theorem opened_saveFile (b : Build) (host : Host) (outDir : FilePath) (print : Bool)
    {source : SourceFile} (h : source.Savable) (device : Device) (s : SaveState) :
    ((saveFile b host outDir true print source device).exec s).2.opened =
      s.opened ++ [outPath host outDir source.name] := by
  unfold SaveState.opened
  cases hopens : device.opens with
  | true =>
    obtain ⟨printed, hprinted, hexec⟩ := exec_saveFile_of_opens b host outDir print h hopens s
    have hnone : printed.filterMap SaveEvent.openedPath = [] := by
      rw [List.filterMap_eq_nil_iff]
      intro event hevent
      rw [hprinted event hevent]
      rfl
    rw [hexec, List.filterMap_append, List.filterMap_append, openedPath_flushEvents, hnone,
      List.append_nil]
  | false =>
    obtain ⟨event, hevent, hexec⟩ := exec_saveFile_of_not_opens b host outDir print h hopens s
    have hnone : event.openedPath = none := by
      rcases List.mem_pair.1 hevent with rfl | rfl
      · rfl
      · rfl
    rw [hexec, List.filterMap_append, List.filterMap_cons, List.filterMap_cons, hnone]
    rfl

/-- The name of a source that is saved. -/
def SourceFile.sourceName (source : SourceFile) (h : source.Savable) : SourceName where
  name := filename source.name
  noSeparator := not_mem_filename source.name
  hasExtension := by
    rw [extension_of_not_mem (not_mem_filename source.name)]
    exact h

theorem SourceFile.outPath_eq (source : SourceFile) (h : source.Savable) (host : Host)
    (outDir : FilePath) :
    outPath host outDir source.name = host.append outDir (source.sourceName h).generated.name := by
  rw [SourceName.generated_name]
  rfl

/-- The name of the output determines the name of the source and has its extension, so `saveFile`
accepts the output as a source, and it differs from that name however often names are generated; and
two calls of `saveFile` open the same file exactly when the last path components of their sources
are equal. -/
theorem generated_names_invertible (b : Build) (host : Host) (outDir : FilePath) :
    (∀ f g : SourceName, f.generated.name = g.generated.name ↔ f.name = g.name) ∧
    (∀ f : SourceName, extension f.generated.name = extension f.name ∧
      ∀ source : SourceFile, source.name = host.append outDir f.generated.name →
        extension source.name = extension f.name ∧ source.Savable) ∧
    (∀ (f : SourceName) (n : ℕ), 1 ≤ n → (SourceName.generated^[n] f).name ≠ f.name) ∧
    ∀ (c d : SaveCall) (hc : c.source.Savable) (hd : d.source.Savable) (s s' : SaveState),
      ((boundSaveFile b host outDir c).exec s).2.opened =
        s.opened ++ [host.append outDir (c.source.sourceName hc).generated.name] ∧
      ((boundSaveFile b host outDir d).exec s').2.opened =
        s'.opened ++ [host.append outDir (d.source.sourceName hd).generated.name] ∧
      (host.append outDir (c.source.sourceName hc).generated.name =
          host.append outDir (d.source.sourceName hd).generated.name ↔
        filename c.source.name = filename d.source.name) := by
  refine ⟨SourceName.generated_name_inj, fun f => ⟨?_, ?_⟩, fun f n hn =>
    f.iterate_generated_name_ne hn, fun c d hc hd s s' => ?_⟩
  · exact extension_generated f.noSeparator f.hasExtension
  · intro source hname
    have hext : extension source.name = extension f.name := by
      rw [hname, f.generated.extension_append]
      exact extension_generated f.noSeparator f.hasExtension
    exact ⟨hext, fun hnil => f.hasExtension (hext ▸ hnil)⟩
  · rw [← c.source.outPath_eq hc, ← d.source.outPath_eq hd]
    exact ⟨opened_saveFile b host outDir false hc c.device s,
      opened_saveFile b host outDir false hd d.device s', outPath_eq_iff host outDir hc hd⟩

theorem generated_names_invertible_twice :
    let f : SourceName := ⟨"a.b.cc".toList, by decide, by decide⟩
    f.generated.name = "a.b.cc.generated.cc".toList ∧
      (SourceName.generated^[2] f).name ≠ f.name :=
  ⟨by decide,
    (generated_names_invertible ⟨true, true⟩ (Host.ofPaths []) "/out".toList).2.2.1 _ 2 (by decide)⟩

end Flextool
