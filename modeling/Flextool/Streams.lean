import Flextool.Runs

/-!
# Streams of a run

The output streams of `saveFile` are held as the objects of `main` are: opening a stream creates
it, closing it destroys it, and it has to be open for a write.  Whatever stops a run, its streams
were used in this order, and all of them are closed.  The one way to break it is to write to or
close a stream whose file could not be opened, and a run does nothing after that.
-/

namespace Flextool

open Proc (Triple)

/-- A stream is told by the path of its file. -/
def streams : Custody.Reading SaveEvent FilePath where
  creates
    | .opened path true => {path}
    | _ => ∅
  destroys
    | .close path true => {path}
    | _ => ∅
  lends
    | .write path _ => {path}
    | .close path false => {path}
    | _ => ∅

/-- A write to a stream that is not open, or an attempt to close it. -/
def SaveEvent.onClosed : SaveEvent → Bool
  | .write _ false | .close _ false => true
  | _ => false

theorem lends_of_told {event : SaveEvent} (h : event.told = true) (live : Set FilePath) :
    streams.Lends event live := by
  cases event with
  | log severity message => exact ⟨rfl, rfl, Set.empty_subset _⟩
  | printed text => exact ⟨rfl, rfl, Set.empty_subset _⟩
  | _ => exact absurd h Bool.false_ne_true

/-- No stream is open, and none was used but while it was. -/
def SaveState.Tidy (s : SaveState) : Prop := Custody.Held streams s.log ∅

/-- Nothing but the last event is amiss: a stream was used that is not open. -/
def SaveState.Broken (s : SaveState) : Prop :=
  ∃ log event, Custody.Held streams log ∅ ∧ event.onClosed = true ∧ s.log = log ++ [event]

/-- What is recorded of a file that could be opened begins and ends without an open stream. -/
theorem held_flushEvents {log : List SaveEvent} (h : Custody.Held streams log ∅) (path : FilePath)
    (n : ℕ) : Custody.Held streams (log ++ flushEvents path n) ∅ := by
  have hopened : Custody.Held streams (log ++ [.opened path true]) (insert path ∅) :=
    h.create ⟨rfl, rfl, rfl⟩ (Set.notMem_empty path)
  have hwritten : Custody.Held streams (log ++ [.opened path true] ++
      List.replicate n (.write path true)) (insert path ∅) :=
    hopened.lendAll fun event he => by
      rw [(List.mem_replicate.1 he).2]
      exact ⟨rfl, rfl, Set.singleton_subset_iff.2 (Set.mem_insert _ _)⟩
  have hclosed := hwritten.destroy (a := .close path true) (o := path) ⟨rfl, rfl, rfl⟩
    (Set.mem_insert _ _)
  have hlogged := hclosed.lend (a := .log .info ("Saved file: ".toList ++ path))
    ⟨rfl, rfl, Set.empty_subset _⟩
  have hnone : (insert path ∅ : Set FilePath) \ {path} = ∅ := by simp
  have hevents : log ++ flushEvents path n = log ++ [.opened path true] ++
      List.replicate n (.write path true) ++ [.close path true] ++
        [.log .info ("Saved file: ".toList ++ path)] := by
    simp [flushEvents]
  rw [hnone] at hlogged
  rw [hevents]
  exact hlogged

/-- One source. -/
theorem triple_saveSource (w : World) (run : SourceRun) :
    Triple SaveState.Tidy (w.saveSource run) (fun _ => SaveState.Tidy)
      (fun fault s => s.Tidy ∨ (fault = .streamAssert ∧ s.Broken)) := by
  intro s hs
  have hends := saveSource_ends w run s
  generalize (w.saveSource run).exec s = ended at hends ⊢
  cases hends with
  | skipped messages _ htold =>
    exact Custody.Held.lendAll hs fun e he => lends_of_told (htold e he) _
  | notOpened event _ _ hevent =>
    right
    refine ⟨rfl, s.log ++ [.opened (w.outPath run) false], event,
      hs.lend ⟨rfl, rfl, Set.empty_subset _⟩, ?_, List.append_cons ..⟩
    rcases List.mem_cons.1 hevent with rfl | hevent
    · rfl
    · rw [List.mem_singleton.1 hevent]
      rfl
  | opened printed _ _ htold =>
    have htidy : Custody.Held streams (s.log ++ flushEvents (w.outPath run)
        run.source.editBuffer.length ++ printed) ∅ :=
      (held_flushEvents hs _ _).lendAll fun e he => lends_of_told (htold e he) _
    cases flushOutcome w.build w.host (w.outPath run) run.device run.source.editBuffer.length with
    | error fault => exact Or.inl htidy
    | ok u => exact htidy

/-- However a run ends, no file was opened twice at a time, all writes went to streams that were
open at that time, and no stream is left open; or the run stopped when, after all that, it used a
stream that is not open. -/
theorem main_streams (w : World) (files : FilePath → Option Str) :
    let ended := (main w).exec (.start files)
    ended.2.save.Tidy ∨ (ended.1 = .error (.fault .streamAssert) ∧ ended.2.save.Broken) := by
  intro ended
  obtain ⟨outcome, ⟨begun, rest, -, hexec⟩, hfault⟩ := saving_of_main w files
  have hends : Triple SaveState.Tidy (w.saveSources begun) (fun _ => SaveState.Tidy)
      (fun fault s => s.Tidy ∨ (fault = .streamAssert ∧ s.Broken)) :=
    Triple.forM (I := fun _ => SaveState.Tidy) fun _ run _ _ => triple_saveSource w run
  have hstart := hends ⟨files, []⟩ Custody.Held.start
  rw [hexec] at hstart
  cases outcome with
  | ok u => exact Or.inl hstart
  | error fault =>
    rcases hstart with htidy | ⟨rfl, hbroken⟩
    · exact Or.inl htidy
    · exact Or.inr ⟨hfault _ rfl, hbroken⟩

end Flextool
