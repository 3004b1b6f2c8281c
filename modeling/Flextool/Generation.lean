import Mathlib.Logic.Function.DependsOn
import Flextool.SaveFileProof

/-!
# Generated files

`saveFile` consults only the error of opening, after everything is written: it ends cleanly exactly
when nothing fails (`saveFile_clean_iff`).  Over a whole run, each output file holds the buffer of
the last source with its file name (`saveAll_outputs`), and the sources themselves are left alone
exactly when none of them is where the output of another goes; if nor is a file that one of them
includes, the texts are those made from the files before the run (`saveAll_leaves_sources_iff`).
-/

namespace Flextool

/-! ## One call -/

/-- How a call for this source should have gone, given how it ended and what it left. -/
structure CleanSave (device : Device) (source : SourceFile) (path : FilePath)
    (ended : Except Fault Unit × SaveState) : Prop where
  /-- only a stream that is open is written or closed -/
  onlyOpen : ∀ other isOpen, SaveEvent.write other isOpen ∈ ended.2.log ∨
    SaveEvent.close other isOpen ∈ ended.2.log → isOpen = true
  /-- success is logged only when everything was stored -/
  truthful : SaveEvent.log .info ("Saved file: ".toList ++ path) ∈ ended.2.log →
    ended.2.files path = some source.editBuffer.flatten
  /-- a failure is logged, and the call returns -/
  reported : ¬ device.Succeeds source.editBuffer.length → ended.1 = .ok () ∧
    SaveEvent.log .error ("Could not save file: ".toList ++ path) ∈ ended.2.log

/-- A call for a savable source is clean exactly when opening, every write and closing succeed. -/
theorem saveFile_clean_iff (b : Build) (host : Host) (outDir : FilePath) (print : Bool)
    (source : SourceFile) (device : Device) (files : FilePath → Option Str)
    (h : source.Savable) :
    CleanSave device source (outPath host outDir source.name)
        ((saveFile b host outDir true print source device).exec ⟨files, []⟩) ↔
      device.Succeeds source.editBuffer.length := by
  cases hopens : device.opens with
  | false =>
    obtain ⟨event, -, hexec⟩ := exec_saveFile_of_not_opens b host outDir print h hopens ⟨files, []⟩
    rw [hexec]
    have hnot : ¬ device.Succeeds source.editBuffer.length := by simp [Device.Succeeds, hopens]
    exact iff_of_false (fun hclean => by simpa using (hclean.reported hnot).1) hnot
  | true =>
    obtain ⟨printed, hprinted, hexec⟩ :=
      exec_saveFile_of_opens b host outDir print h hopens ⟨files, []⟩
    rw [hexec]
    have hlog : ∀ event ∈ flushEvents (outPath host outDir source.name) source.editBuffer.length ++
        printed, event = .opened (outPath host outDir source.name) true ∨
          event = .write (outPath host outDir source.name) true ∨
          event = .close (outPath host outDir source.name) true ∨
          event = .log .info ("Saved file: ".toList ++ outPath host outDir source.name) ∨
          event = .printed source.mainBuffer.flatten := by
      intro event hevent
      rcases List.mem_append.1 hevent with hevent | hevent
      · have := mem_flushEvents hevent
        tauto
      · exact Or.inr (Or.inr (Or.inr (Or.inr (hprinted event hevent))))
    constructor
    · intro hclean
      by_contra hnot
      have hlogged := hlog _ (hclean.reported hnot).2
      simp at hlogged
    · intro hdevice
      refine ⟨fun other isOpen hevent => ?_, fun _ => ?_, fun hnot => absurd hdevice hnot⟩
      · rcases hevent with hevent | hevent
        · have := hlog _ hevent
          simp_all
        · have := hlog _ hevent
          simp_all
      · rw [kept_of_stored fun j _ hj => hdevice.2.1 j (by omega)]
        exact Store.put_self ..

theorem saveFile_clean_iff_working :
    CleanSave Device.working ⟨"/src/a.cc".toList, ["x".toList], []⟩
        (outPath (Host.ofPaths []) "/out".toList "/src/a.cc".toList)
        ((saveFile ⟨true, true⟩ (Host.ofPaths []) "/out".toList true false
          ⟨"/src/a.cc".toList, ["x".toList], []⟩ Device.working).exec ⟨fun _ => none, []⟩) ↔
      Device.working.Succeeds 1 :=
  saveFile_clean_iff ⟨true, true⟩ (Host.ofPaths []) "/out".toList false
    ⟨"/src/a.cc".toList, ["x".toList], []⟩ Device.working (fun _ => none) (by decide)

/-- On a full disk `saveFile` logs that the file was saved, although nothing was stored. -/
theorem saveFile_not_clean_on_full_disk :
    ¬ CleanSave ⟨true, fun _ => .failed 0, true⟩ ⟨"/src/a.cc".toList, ["x".toList], []⟩
        (outPath (Host.ofPaths []) "/out".toList "/src/a.cc".toList)
        ((saveFile ⟨true, true⟩ (Host.ofPaths []) "/out".toList true false
          ⟨"/src/a.cc".toList, ["x".toList], []⟩ ⟨true, fun _ => .failed 0, true⟩).exec
          ⟨fun _ => none, []⟩) := by
  intro hclean
  have hstored := hclean.truthful (by decide)
  exact absurd hstored (by decide)

/-! ## A run -/

/-- The path that a call writes to. -/
def SaveCall.path (host : Host) (outDir : FilePath) (call : SaveCall) : FilePath :=
  outPath host outDir call.source.name

/-- A run over savable sources that returns has put every buffer where it goes, in order. -/
theorem saveAll_files (b : Build) (host : Host) (outDir : FilePath) {calls : List SaveCall}
    (hsavable : ∀ call ∈ calls, call.source.Savable) {s s' : SaveState}
    (hrun : (saveAll b host outDir calls).exec s = (.ok (), s')) :
    s'.files = Store.putAll (SaveCall.path host outDir)
      (fun call => call.source.editBuffer.flatten) calls s.files := by
  induction calls generalizing s with
  | nil =>
    have : s = s' := congrArg Prod.snd hrun
    rw [this]
    rfl
  | cons call calls ih =>
    have hcall := hsavable call (by simp)
    have hrest := fun c hc => hsavable c (List.mem_cons_of_mem call hc)
    unfold saveAll at hrun
    rw [Proc.forM_cons, Proc.exec_bind_eq_ok_iff] at hrun
    obtain ⟨⟨⟩, s₁, hfirst, htail⟩ := hrun
    have hdevice := (saveFile_returns_iff b host outDir false hcall call.device s).1
      (congrArg Prod.fst hfirst)
    have hfiles := saveFile_stores b host outDir false hcall hdevice.1 s
    rw [show saveFile b host outDir true false call.source call.device =
      boundSaveFile b host outDir call from rfl, hfirst] at hfiles
    rw [ih hrest htail, hfiles]
    rfl

/-- In a run that returns, two outputs share a path exactly when their sources share their file
name, and every path ends with the buffer of the last source that goes there; so no output is lost
when the file names are distinct. -/
theorem saveAll_outputs (b : Build) (host : Host) (outDir : FilePath) (calls : List SaveCall)
    (s s' : SaveState) (hsavable : ∀ call ∈ calls, call.source.Savable)
    (hrun : (saveAll b host outDir calls).exec s = (.ok (), s')) :
    (∀ c ∈ calls, ∀ d ∈ calls, c.path host outDir = d.path host outDir ↔
      filename c.source.name = filename d.source.name) ∧
    (∀ before c after, calls = before ++ c :: after →
      (∀ d ∈ after, filename d.source.name ≠ filename c.source.name) →
      s'.files (c.path host outDir) = some c.source.editBuffer.flatten) ∧
    ((calls.map fun c => filename c.source.name).Nodup →
      (calls.map (SaveCall.path host outDir)).Nodup ∧
      ∀ c ∈ calls, s'.files (c.path host outDir) = some c.source.editBuffer.flatten) := by
  have hpath : ∀ c ∈ calls, ∀ d ∈ calls, c.path host outDir = d.path host outDir ↔
      filename c.source.name = filename d.source.name := fun c hc d hd =>
    outPath_eq_iff host outDir (hsavable c hc) (hsavable d hd)
  have hlast : ∀ before c after, calls = before ++ c :: after →
      (∀ d ∈ after, filename d.source.name ≠ filename c.source.name) →
      s'.files (c.path host outDir) = some c.source.editBuffer.flatten := by
    rintro before c after hcalls hafter
    rw [saveAll_files b host outDir hsavable hrun, hcalls]
    refine Store.putAll_last before c (fun d hd => ?_) s.files
    rw [Ne, hpath d (by simp [hcalls, hd]) c (by simp [hcalls])]
    exact hafter d hd
  refine ⟨hpath, hlast, fun hnodup => ⟨?_, fun c hc => ?_⟩⟩
  · rw [List.Nodup, List.pairwise_map] at hnodup ⊢
    exact hnodup.imp_of_mem fun {c d} hc hd hne => by rwa [Ne, hpath c hc d hd]
  · obtain ⟨before, after, rfl⟩ := List.append_of_mem hc
    apply hlast before c after rfl
    intro d hd
    rw [List.map_append, List.map_cons] at hnodup
    have hnot := (List.nodup_cons.1 (List.nodup_append.1 hnodup).2.1).1
    exact fun e => hnot (e ▸ List.mem_map_of_mem hd)

/-- A call for a source file with this name and text, when everything works. -/
def SaveCall.ofText (name text : String) : SaveCall :=
  ⟨⟨name.toList, [text.toList], []⟩, Device.working⟩

theorem saveAll_outputs_two :
    let calls := [SaveCall.ofText "/a/x.cc" "1", SaveCall.ofText "/b/y.cc" "2"]
    let ended := (saveAll ⟨true, true⟩ (Host.ofPaths []) "/out".toList calls).exec
      ⟨fun _ => none, []⟩
    (∀ c ∈ calls, ∀ d ∈ calls,
      c.path (Host.ofPaths []) "/out".toList = d.path (Host.ofPaths []) "/out".toList ↔
        filename c.source.name = filename d.source.name) ∧
    (∀ before c after, calls = before ++ c :: after →
      (∀ d ∈ after, filename d.source.name ≠ filename c.source.name) →
      ended.2.files (c.path (Host.ofPaths []) "/out".toList) =
        some c.source.editBuffer.flatten) ∧
    ((calls.map fun c => filename c.source.name).Nodup →
      (calls.map (SaveCall.path (Host.ofPaths []) "/out".toList)).Nodup ∧
      ∀ c ∈ calls, ended.2.files (c.path (Host.ofPaths []) "/out".toList) =
        some c.source.editBuffer.flatten) :=
  saveAll_outputs ⟨true, true⟩ (Host.ofPaths []) "/out".toList
    [SaveCall.ofText "/a/x.cc" "1", SaveCall.ofText "/b/y.cc" "2"] ⟨fun _ => none, []⟩ _
    (by decide) (Prod.ext (by decide) rfl)

/-- Of two sources with one file name in different directories, only the output of the last
survives. -/
theorem saveAll_loses_output :
    let calls := [SaveCall.ofText "/a/x.cc" "1", SaveCall.ofText "/b/x.cc" "2"]
    let ended := (saveAll ⟨true, true⟩ (Host.ofPaths []) "/out".toList calls).exec
      ⟨fun _ => none, []⟩
    ended.1 = .ok () ∧ (calls.map fun c => c.source.name).Nodup ∧
      ∀ path, ended.2.files path ≠ some "1".toList := by
  intro calls ended
  have hok : ended.1 = .ok () := by decide
  have hfiles := saveAll_files ⟨true, true⟩ (Host.ofPaths []) "/out".toList
    (by decide : ∀ call ∈ calls, call.source.Savable) (Prod.ext hok rfl : _ = (_, ended.2))
  have hsame : (SaveCall.ofText "/a/x.cc" "1").path (Host.ofPaths []) "/out".toList =
      (SaveCall.ofText "/b/x.cc" "2").path (Host.ofPaths []) "/out".toList := by decide
  refine ⟨hok, by decide, fun path hpath => ?_⟩
  rw [hfiles, Store.putAll, List.foldl_cons, List.foldl_cons, List.foldl_nil, hsame,
    Store.put_put] at hpath
  by_cases hp : path = (SaveCall.ofText "/b/x.cc" "2").path (Host.ofPaths []) "/out".toList
  · rw [hp, Store.put_self] at hpath
    exact absurd hpath (by decide)
  · rw [Store.put_of_ne hp] at hpath
    simp at hpath

/-! ## The sources of a run -/

/-- The files in `S` are the same in both states. -/
def SameOn (S : Set FilePath) (s s' : SaveState) : Prop := ∀ t ∈ S, s'.files t = s.files t

instance (S : Set FilePath) : Std.Refl (SameOn S) := ⟨fun _ _ _ => rfl⟩

instance (S : Set FilePath) : IsTrans SaveState (SameOn S) :=
  ⟨fun _ _ _ h h' t ht => (h' t ht).trans (h t ht)⟩

/-- No file in `R` is where the output of a member of `S` goes. -/
def NoOutputIn (host : Host) (outDir : FilePath) (S R : Set FilePath) : Prop :=
  ∀ s ∈ S, ∀ t ∈ R, extension s ≠ [] → outPath host outDir s ≠ t

section

variable (b : Build) {host : Host} {outDir : FilePath} {S R : Set FilePath}

theorem boundSaveFile_sameOn (hR : NoOutputIn host outDir S R) {call : SaveCall}
    (hcall : call.source.name ∈ S) : (boundSaveFile b host outDir call).Moves (SameOn R) := by
  intro s t ht
  by_cases h : call.source.Savable
  · exact saveFile_onlyAt b host outDir false h call.device s t
      (Ne.symm (hR call.source.name hcall t ht h))
  · obtain ⟨log, hexec⟩ :=
      exec_saveFile_of_not_savable b host outDir true false h call.device s
    rw [boundSaveFile, hexec]

theorem saveAll_sameOn (hR : NoOutputIn host outDir S R) {calls : List SaveCall}
    (hcalls : ∀ call ∈ calls, call.source.name ∈ S) :
    (saveAll b host outDir calls).Moves (SameOn R) :=
  Proc.Moves.forM fun call hcall => boundSaveFile_sameOn b hR (hcalls call hcall)

end

/-- Process the sources in order: what is made of each from the files as they are by then is
saved. -/
def processAll (b : Build) (host : Host) (outDir : FilePath)
    (rewrite : (FilePath → Option Str) → FilePath → SourceFile) (device : FilePath → Device)
    (names : List FilePath) : Save Unit :=
  names.forM fun name => do
    let s ← get
    boundSaveFile b host outDir ⟨rewrite s.files name, device name⟩

/-- When nothing that is read is an output, what is saved for a source does not depend on what was
saved before it. -/
theorem processAll_eq_saveAll (b : Build) {host : Host} {outDir : FilePath} {S R : Set FilePath}
    (hR : NoOutputIn host outDir S R)
    {rewrite : (FilePath → Option Str) → FilePath → SourceFile} (device : FilePath → Device)
    {names : List FilePath} (hnames : ∀ name ∈ names, name ∈ S)
    (hname : ∀ files, ∀ name ∈ names, (rewrite files name).name = name)
    (hreads : ∀ name ∈ names, DependsOn (fun files => rewrite files name) R) (s s₀ : SaveState)
    (hsame : SameOn R s₀ s) :
    (processAll b host outDir rewrite device names).exec s =
      (saveAll b host outDir
        (names.map fun name => ⟨rewrite s₀.files name, device name⟩)).exec s := by
  induction names generalizing s with
  | nil => rfl
  | cons name names ih =>
    have hmem : name ∈ name :: names := List.mem_cons_self ..
    have hcall : (⟨rewrite s₀.files name, device name⟩ : SaveCall).source.name ∈ S := by
      rw [hname _ name hmem]
      exact hnames name hmem
    have hmoves := boundSaveFile_sameOn b hR hcall s
    have hrewrite : rewrite s.files name = rewrite s₀.files name := hreads name hmem hsame
    rw [processAll, saveAll, List.map_cons, Proc.forM_cons, Proc.forM_cons, bind_assoc,
      Proc.exec_get_bind, hrewrite, Proc.exec_bind, Proc.exec_bind]
    rcases hexec : (boundSaveFile b host outDir
      ⟨rewrite s₀.files name, device name⟩).exec s with ⟨fault | ⟨⟩, s'⟩
    · rfl
    · rw [hexec] at hmoves
      exact ih (fun n hn => hnames n (List.mem_cons_of_mem name hn))
        (fun files n hn => hname files n (List.mem_cons_of_mem name hn))
        (fun n hn => hreads n (List.mem_cons_of_mem name hn)) s'
        (IsTrans.trans _ _ _ hsame hmoves)

/-- Every run over a set of sources leaves all of them as they are exactly when no output goes to
one of them; and when none goes to a file in `R`, and nothing but `R` is read to make the text of a
source, what is saved for each is made from the files as they were at first. -/
theorem saveAll_leaves_sources_iff (b : Build) (host : Host) (outDir : FilePath)
    (S : Set FilePath) :
    ((∀ calls : List SaveCall, (∀ call ∈ calls, call.source.name ∈ S) → ∀ s, ∀ t ∈ S,
        ((saveAll b host outDir calls).exec s).2.files t = s.files t) ↔
      NoOutputIn host outDir S S) ∧
    (∀ R : Set FilePath, NoOutputIn host outDir S R →
      ∀ (rewrite : (FilePath → Option Str) → FilePath → SourceFile) (device : FilePath → Device)
        (names : List FilePath), (∀ name ∈ names, name ∈ S) →
        (∀ files, ∀ name ∈ names, (rewrite files name).name = name) →
        (∀ name ∈ names, DependsOn (fun files => rewrite files name) R) → ∀ s,
          (processAll b host outDir rewrite device names).exec s =
            (saveAll b host outDir
              (names.map fun name => ⟨rewrite s.files name, device name⟩)).exec s) := by
  refine ⟨⟨fun hleft s hs t ht hext hpath => ?_, fun hS calls hcalls s =>
    saveAll_sameOn b hS hcalls s⟩, fun R hR rewrite device names hnames hname hreads s =>
    processAll_eq_saveAll b hR device hnames hname hreads s s (Std.Refl.refl s)⟩
  -- saving `s` creates the file `t`, empty, where there was none
  let source : SourceFile := ⟨s, [], []⟩
  have hsavable : source.Savable := hext
  have hworking : Device.working.Succeeds 0 := ⟨rfl, fun _ _ => rfl, rfl⟩
  have hstored := saveFile_stores b host outDir false hsavable hworking ⟨fun _ => none, []⟩
  have hsame := hleft [⟨source, Device.working⟩] (by simpa [source] using hs)
    ⟨fun _ => none, []⟩ t ht
  have hone : saveAll b host outDir [⟨source, Device.working⟩] =
      saveFile b host outDir true false source Device.working := bind_pure_unit
  rw [hone, hstored, show outPath host outDir source.name = t from hpath, Store.put_self] at hsame
  exact Option.some_ne_none _ hsame

/-- A source whose text is left as it is. -/
def SourceFile.unchanged (files : FilePath → Option Str) (name : FilePath) : SourceFile :=
  ⟨name, [(files name).getD []], []⟩

theorem saveAll_leaves_sources_two :
    let names := ["/src/a.cc".toList, "/src/b.cc".toList]
    let s : SaveState := ⟨fun path => if path ∈ names then some "x".toList else none, []⟩
    (processAll ⟨true, true⟩ (Host.ofPaths []) "/out".toList SourceFile.unchanged
        (fun _ => Device.working) names).exec s =
      (saveAll ⟨true, true⟩ (Host.ofPaths []) "/out".toList
        (names.map fun name => ⟨SourceFile.unchanged s.files name, Device.working⟩)).exec s := by
  intro names s
  have hnone : NoOutputIn (Host.ofPaths []) "/out".toList {t | t ∈ names} {t | t ∈ names} := by
    have hpaths : ∀ s ∈ names, ∀ t ∈ names, extension s ≠ [] →
        outPath (Host.ofPaths []) "/out".toList s ≠ t := by decide
    exact hpaths
  have hreads : ∀ name ∈ names,
      DependsOn (fun files => SourceFile.unchanged files name) {t | t ∈ names} := by
    intro name hname files files' hsame
    show SourceFile.unchanged files name = SourceFile.unchanged files' name
    rw [SourceFile.unchanged, SourceFile.unchanged, hsame name hname]
  exact (saveAll_leaves_sources_iff ⟨true, true⟩ (Host.ofPaths []) "/out".toList
    {t | t ∈ names}).2 {t | t ∈ names} hnone SourceFile.unchanged (fun _ => Device.working) names
    (fun _ h => h) (fun _ _ _ => rfl) hreads s

/-- A generated file that is picked up as a source is where the output of the first one goes. -/
theorem saveAll_overwrites_source :
    let S : Set FilePath := {"/out/a.cc".toList, "/out/a.cc.generated.cc".toList}
    let calls := [SaveCall.ofText "/out/a.cc" "new"]
    (∀ call ∈ calls, call.source.name ∈ S) ∧ "/out/a.cc.generated.cc".toList ∈ S ∧
      ((saveAll ⟨true, true⟩ (Host.ofPaths []) "/out".toList calls).exec
          ⟨fun _ => some "old".toList, []⟩).2.files "/out/a.cc.generated.cc".toList =
        some "new".toList := by
  refine ⟨?_, Or.inr rfl, by decide⟩
  intro call hcall
  rw [List.mem_singleton] at hcall
  exact Or.inl (congrArg (fun c : SaveCall => c.source.name) hcall)

end Flextool
