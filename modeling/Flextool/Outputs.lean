import Flextool.ExitStatus
import Flextool.Lib.Triple

/-!
# The files that a run of LibTooling leaves

LibTooling has `saveFile` called for each source whose end it reaches, one after the other
(`World.saveSources`).  So whatever stops a run, some sources from the front of the list are saved
completely (`filesAfter`), at most the output of the next one holds a part of its text, and nothing
else is changed (`Leaves`).
-/

namespace Flextool

open Proc (Triple)

/-- LibTooling reaches the end of the source, and its name has an extension. -/
def SourceRun.Saves (run : SourceRun) : Prop := run.reachesEnd = true ∧ run.source.Savable

instance (run : SourceRun) : Decidable run.Saves := inferInstanceAs (Decidable (_ ∧ _))

/-- The call of `saveFile` for a source, if its end is reached. -/
def World.saveSource (w : World) (run : SourceRun) : Save Unit :=
  if run.reachesEnd then boundSaveFile w.build w.host w.outDir ⟨run.source, run.device⟩
  else pure ()

/-- All of them, in order. -/
def World.saveSources (w : World) (sources : List SourceRun) : Save Unit :=
  sources.forM w.saveSource

/-- The calls that are made for these sources. -/
def saveCalls (sources : List SourceRun) : List SaveCall :=
  (sources.filter SourceRun.reachesEnd).map fun run => ⟨run.source, run.device⟩

theorem saveSources_eq_saveAll (w : World) (sources : List SourceRun) :
    w.saveSources sources = saveAll w.build w.host w.outDir (saveCalls sources) := by
  unfold World.saveSources saveAll
  induction sources with
  | nil => rfl
  | cons run sources ih =>
    rw [Proc.forM_cons, World.saveSource, ih]
    cases hend : run.reachesEnd with
    | true =>
      have hcalls : saveCalls (run :: sources) = ⟨run.source, run.device⟩ :: saveCalls sources := by
        rw [saveCalls, List.filter_cons_of_pos hend]
        rfl
      rw [hcalls, Proc.forM_cons, if_pos rfl]
    | false =>
      have hcalls : saveCalls (run :: sources) = saveCalls sources := by
        rw [saveCalls, List.filter_cons_of_neg (by simp [hend])]
        rfl
      rw [hcalls, if_neg Bool.false_ne_true, pure_bind]

theorem saveSources_nil (w : World) : w.saveSources [] = pure () := rfl

/-- One more source. -/
theorem saveSources_concat (w : World) (sources : List SourceRun) (run : SourceRun) :
    w.saveSources (sources ++ [run]) = w.saveSources sources >>= fun _ => w.saveSource run := by
  unfold World.saveSources
  have hone : [run].forM w.saveSource = w.saveSource run := bind_pure _
  rw [← hone]
  exact List.forM_append

/-- Where the output for the source goes. -/
def World.outPath (w : World) (run : SourceRun) : FilePath :=
  Flextool.outPath w.host w.outDir run.source.name

/-- The files when these sources are saved completely, in this order. -/
def World.filesAfter (w : World) (sources : List SourceRun) (files : FilePath → Option Str) :
    FilePath → Option Str :=
  Store.putAll w.outPath (fun run => run.source.editBuffer.flatten)
    (sources.filter fun run => decide run.Saves) files

/-- What a run that handles these sources in order may leave, wherever it stops. -/
inductive World.Leaves (w : World) (sources : List SourceRun) (files : FilePath → Option Str) :
    (FilePath → Option Str) → Prop
  /-- the sources in front are saved, and the others are not begun -/
  | between (done rest : List SourceRun) : sources = done ++ rest →
      w.Leaves sources files (w.filesAfter done files)
  /-- besides, the output of the next source holds what its device stored -/
  | within (done : List SourceRun) (run : SourceRun) (rest : List SourceRun) :
      sources = done ++ run :: rest → run.Saves →
      w.Leaves sources files (Store.put (w.outPath run)
        (run.device.kept 0 run.source.editBuffer) (w.filesAfter done files))

theorem filesAfter_append (w : World) (sources sources' : List SourceRun)
    (files : FilePath → Option Str) :
    w.filesAfter (sources ++ sources') files =
      w.filesAfter sources' (w.filesAfter sources files) := by
  unfold World.filesAfter Store.putAll
  rw [List.filter_append, List.foldl_append]

theorem filesAfter_of_saves (w : World) {run : SourceRun} (h : run.Saves)
    (files : FilePath → Option Str) :
    w.filesAfter [run] files =
      Store.put (w.outPath run) run.source.editBuffer.flatten files := by
  unfold World.filesAfter
  rw [List.filter_cons_of_pos (by simpa using h)]
  rfl

theorem filesAfter_of_not_saves (w : World) {run : SourceRun} (h : ¬ run.Saves)
    (files : FilePath → Option Str) : w.filesAfter [run] files = files := by
  unfold World.filesAfter
  rw [List.filter_cons_of_neg (by simpa using h)]
  rfl

/-- Nothing but outputs of these sources is changed. -/
theorem filesAfter_of_not_output (w : World) {sources : List SourceRun} {path : FilePath}
    (h : ∀ run ∈ sources, run.Saves → w.outPath run ≠ path) (files : FilePath → Option Str) :
    w.filesAfter sources files path = files path := by
  apply Store.putAll_of_not_mem
  intro run hrun
  obtain ⟨hmem, hsaves⟩ := List.mem_filter.1 hrun
  exact h run hmem (by simpa using hsaves)

/-- A message, or text on the console. -/
def SaveEvent.told : SaveEvent → Bool
  | .log .. | .printed _ => true
  | _ => false

/-- What the call for a source that began in `s` comes to. -/
inductive World.SourceEnds (w : World) (run : SourceRun) (s : SaveState) :
    Except Fault Unit × SaveState → Prop
  /-- it is not made, or nothing but a warning comes of it -/
  | skipped (messages : List SaveEvent) : ¬ run.Saves → (∀ e ∈ messages, e.told = true) →
      w.SourceEnds run s (.ok (), ⟨s.files, s.log ++ messages⟩)
  /-- the stream is used all the same -/
  | notOpened (event : SaveEvent) : run.Saves → run.device.opens = false →
      event ∈ [.write (w.outPath run) false, .close (w.outPath run) false] →
      w.SourceEnds run s (.error .streamAssert,
        ⟨s.files, s.log ++ [.opened (w.outPath run) false, event]⟩)
  | opened (printed : List SaveEvent) : run.Saves → run.device.opens = true →
      (∀ e ∈ printed, e.told = true) →
      w.SourceEnds run s (flushOutcome w.build w.host (w.outPath run) run.device
          run.source.editBuffer.length,
        ⟨Store.put (w.outPath run) (run.device.kept 0 run.source.editBuffer) s.files,
          s.log ++ flushEvents (w.outPath run) run.source.editBuffer.length ++ printed⟩)

theorem saveSource_ends (w : World) (run : SourceRun) (s : SaveState) :
    w.SourceEnds run s ((w.saveSource run).exec s) := by
  unfold World.saveSource boundSaveFile
  by_cases hend : run.reachesEnd = true
  · rw [if_pos hend]
    by_cases hsavable : run.source.Savable
    · cases hopens : run.device.opens with
      | false =>
        obtain ⟨event, hevent, hexec⟩ :=
          exec_saveFile_of_not_opens w.build w.host w.outDir false hsavable hopens s
        rw [hexec]
        exact .notOpened event ⟨hend, hsavable⟩ hopens hevent
      | true =>
        obtain ⟨printed, hprinted, hexec⟩ :=
          exec_saveFile_of_opens w.build w.host w.outDir false hsavable hopens s
        rw [hexec]
        exact .opened printed ⟨hend, hsavable⟩ hopens fun e he => by rw [hprinted e he]; rfl
    · obtain ⟨message, hsave⟩ := saveFile_of_not_savable w.build w.host w.outDir true false
        hsavable run.device
      rw [hsave]
      exact .skipped [.log .warning message] (fun h => hsavable h.2) fun e he => by
        rw [List.mem_singleton.1 he]
        rfl
  · rw [if_neg hend, Proc.exec_pure]
    have hskipped := World.SourceEnds.skipped (w := w) (s := s) [] (fun h => hend h.1)
      fun e he => absurd he List.not_mem_nil
    rwa [List.append_nil] at hskipped

/-- It returns when the source is not to be saved, or can be. -/
theorem saveSource_returns_iff (w : World) (run : SourceRun) (s : SaveState) :
    ((w.saveSource run).exec s).1 = .ok () ↔ (run.Saves →
      run.device.Succeeds run.source.editBuffer.length ∧
        PathChecked w.build w.host (w.outPath run)) := by
  by_cases hsaves : run.Saves
  · rw [World.saveSource, if_pos hsaves.1, forall_prop_of_true hsaves]
    exact saveFile_returns_iff w.build w.host w.outDir false hsaves.2 run.device s
  · refine iff_of_true ?_ fun h => absurd h hsaves
    have hends := saveSource_ends w run s
    generalize (w.saveSource run).exec s = ended at hends ⊢
    cases hends with
    | skipped _ _ _ => rfl
    | notOpened _ h _ _ => exact absurd h hsaves
    | opened _ h _ _ => exact absurd h hsaves

/-- What saving one source does to the files. -/
theorem saveSource_files (w : World) (run : SourceRun) (files : FilePath → Option Str) :
    Triple (fun s => s.files = files) (w.saveSource run)
      (fun _ s => s.files = w.filesAfter [run] files)
      (fun _ s => run.Saves ∧ (s.files = files ∨ s.files = Store.put (w.outPath run)
        (run.device.kept 0 run.source.editBuffer) files)) := by
  rintro s rfl
  have hends := saveSource_ends w run s
  generalize (w.saveSource run).exec s = ended at hends ⊢
  cases hends with
  | skipped messages hnot _ => exact (filesAfter_of_not_saves w hnot s.files).symm
  | notOpened event hsaves _ _ => exact ⟨hsaves, Or.inl rfl⟩
  | opened printed hsaves _ _ =>
    cases houtcome : flushOutcome w.build w.host (w.outPath run) run.device
        run.source.editBuffer.length with
    | error fault => exact ⟨hsaves, Or.inr rfl⟩
    | ok u =>
      obtain ⟨-, hwrites, -⟩ := (flushOutcome_eq_ok_iff ..).1 houtcome
      rw [filesAfter_of_saves w hsaves]
      show Store.put _ (run.device.kept 0 run.source.editBuffer) _ = _
      rw [kept_of_stored fun j _ hj => hwrites j (by omega)]

/-! ## All of them -/

/-- What saving these sources does to the files, however it ends. -/
theorem saveSources_files (w : World) (sources : List SourceRun) (files : FilePath → Option Str) :
    Triple (fun s => s.files = files) (w.saveSources sources)
      (fun _ s => s.files = w.filesAfter sources files)
      (fun _ s => w.Leaves sources files s.files) := by
  refine (Triple.forM (I := fun done (s : SaveState) => s.files = w.filesAfter done files)
    fun done run rest hsources => ?_).strengthen fun _ h => h
  refine (saveSource_files w run _).conseq (fun _ h => h) ?_ ?_
  · rintro _ s hs
    rw [filesAfter_append]
    exact hs
  · rintro _ s ⟨hsaves, hs | hs⟩
    · exact hs ▸ .between done (run :: rest) hsources
    · exact hs ▸ .within done run rest hsources hsaves

/-- When only some of them are begun, the others are left. -/
theorem World.Leaves.append {w : World} {sources : List SourceRun}
    {files files' : FilePath → Option Str} (h : w.Leaves sources files files')
    (sources' : List SourceRun) : w.Leaves (sources ++ sources') files files' := by
  cases h with
  | between done rest hsources =>
    exact .between done (rest ++ sources') (by rw [hsources, List.append_assoc])
  | within done run rest hsources hsaves =>
    exact .within done run (rest ++ sources') (by rw [hsources, List.append_assoc]; rfl) hsaves

/-- Sources from the front are saved, the last of which may have stopped it. -/
def World.Saving (w : World) (sources : List SourceRun) (files : FilePath → Option Str)
    (outcome : Except Fault Unit) (save : SaveState) : Prop :=
  ∃ begun rest, sources = begun ++ rest ∧
    (w.saveSources begun).exec ⟨files, []⟩ = (outcome, save)

theorem World.Saving.leaves {w : World} {sources : List SourceRun}
    {files : FilePath → Option Str} {outcome : Except Fault Unit} {save : SaveState}
    (h : w.Saving sources files outcome save) : w.Leaves sources files save.files := by
  obtain ⟨begun, rest, rfl, hexec⟩ := h
  have hfiles := saveSources_files w begun files ⟨files, []⟩ rfl
  rw [hexec] at hfiles
  cases outcome with
  | error fault => exact World.Leaves.append hfiles rest
  | ok u =>
    rw [show save.files = w.filesAfter begun files from hfiles]
    exact .between begun rest rfl

end Flextool
