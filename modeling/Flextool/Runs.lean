import Flextool.Protocol

/-!
# What every run of `main` leaves

The triples of the steps are put together to one for `main` (`triple_main`).  From it, for every
run and however it ends: the calls that were made (`main_calls`), the objects that are alive
(`main_held`), the files (`main_leaves`) and the interpreter that plugins were handed
(`main_interpreter`).
-/

namespace Flextool

open Proc (Triple)

section

variable {w : World} {files : FilePath → Option Str} {p : Progress}

/-! ## LibTooling -/

/-- The stage of a run that has saved this. -/
theorem World.Stage.withSave (hp : w.Stage files p) {save : SaveState}
    (h : w.Saving w.sources files (.ok ()) save) : w.Stage files { p with save := save } :=
  ⟨hp.calls, h, fun hcall => ⟨(hp.interpreter hcall).clang, (hp.interpreter hcall).cling⟩⟩

theorem MainState.At.withSave {s : MainState} (h : s.At p) (save : SaveState) :
    ({ s with save := save }).At { p with save := save } :=
  ⟨h.calls, h.clangEnv, h.clingEnv, rfl, h.held, h.intact⟩

/-- These sources are saved, and this is what is left. -/
def World.Saved (w : World) (files : FilePath → Option Str) (sources : List SourceRun)
    (save : SaveState) : Prop :=
  (w.saveSources sources).exec ⟨files, []⟩ = (.ok (), save)

/-- LibTooling saves a source as `World.saveSource` does. -/
theorem exec_processSource (w : World) (run : SourceRun) (s : MainState) :
    ∃ actions, (∀ a ∈ actions, a.inert = true) ∧ (processSource w run).exec s =
      (((w.saveSource run).exec s.save).1.mapError .fault,
        ({ s with save := ((w.saveSource run).exec s.save).2 }).record actions) := by
  unfold processSource World.saveSource
  by_cases hend : run.reachesEnd = true
  · rw [if_pos hend, if_pos hend, Proc.exec_bind, Proc.exec_onPart]
    rcases (boundSaveFile w.build w.host w.outDir ⟨run.source, run.device⟩).exec s.save with
      ⟨fault | ⟨⟩, save⟩
    · exact ⟨[], fun a ha => absurd ha List.not_mem_nil, by rw [record_nil]; rfl⟩
    · exact ⟨[.saved run.source (w.stored save run.source)],
        fun a ha => by rw [List.mem_singleton.1 ha]; rfl, rfl⟩
  · rw [if_neg hend, if_neg hend]
    exact ⟨[], fun a ha => absurd ha List.not_mem_nil, by rw [record_nil]; rfl⟩

/-- One source; those before it are saved. -/
theorem triple_processSource (hp : w.Stage files p) {done rest : List SourceRun} {run : SourceRun}
    (hsources : w.sources = done ++ run :: rest) :
    Triple (fun s => ∃ save, w.Saved files done save ∧ s.At { p with save := save })
      (processSource w run)
      (fun _ s => ∃ save, w.Saved files (done ++ [run]) save ∧ s.At { p with save := save })
      (w.Cut files) := by
  rintro s ⟨save, hsaved, hs⟩
  obtain ⟨actions, hinert, hexec⟩ := exec_processSource w run s
  have hbegun : (w.saveSources (done ++ [run])).exec ⟨files, []⟩ =
      (w.saveSource run).exec s.save := by
    rw [saveSources_concat, Proc.exec_bind_ok hsaved, hs.save]
  have hat := (hs.withSave ((w.saveSource run).exec s.save).2).record hinert
  rw [hexec]
  rcases hend : (w.saveSource run).exec s.save with ⟨fault | ⟨⟩, save'⟩
  · rw [hend] at hat
    refine ⟨p, .error fault, save', hp, ⟨done ++ [run], rest, ?_, hbegun.trans hend⟩, ?_, hat⟩
    · rw [hsources, List.append_cons]
    · exact fun fault' h => congrArg Stop.fault (Except.error.inj h)
  · rw [hend] at hat
    exact ⟨save', hbegun.trans hend, hat⟩

/-- The sources that a run that returns `EXIT_SUCCESS` has saved. -/
def World.savedSources (w : World) : List SourceRun :=
  if w.commandLine.Given kVersion then [] else w.sources

theorem savedSources_prefix (w : World) : ∃ rest, w.sources = w.savedSources ++ rest := by
  unfold World.savedSources
  split
  · exact ⟨w.sources, rfl⟩
  · exact ⟨[], (List.append_nil _).symm⟩

/-- The files at the end of such a run. -/
def World.finalFiles (w : World) (files : FilePath → Option Str) : FilePath → Option Str :=
  w.filesAfter w.savedSources files

/-- How far a run is when all is done but the destruction of its locals. -/
structure World.Finished (w : World) (files : FilePath → Option Str) (p : Progress) : Prop where
  stage : w.Stage files p
  locals : p.locals = mainLocals
  calls : p.calls = w.protocol
  saved : w.Saved files w.savedSources p.save

/-- How far it is when nothing but LibTooling is left to run. -/
structure World.Prepared (w : World) (files : FilePath → Option Str) (p : Progress) : Prop where
  stage : w.Stage files p
  locals : p.locals = mainLocals
  save : p.save = ⟨files, []⟩
  clang : w.clangInit = .ok (true, p.clangEnv)
  calls : p.calls ++ [.tool w.clangArgs] = w.protocol
  noVersion : ¬ w.commandLine.Given kVersion

/-- A call that hands out no interpreter leads from stage to stage. -/
theorem World.Stage.withCall (hp : w.Stage files p) {call : Call}
    (hcalls : p.calls ++ [call] <+: w.protocol) (hcall : call ≠ interpreterCall) :
    w.Stage files { p with calls := p.calls ++ [call] } := by
  refine ⟨hcalls, hp.save, fun h => ?_⟩
  have hregistered : interpreterCall ∈ p.calls :=
    (List.mem_append.1 h).resolve_right fun h' => hcall (List.mem_singleton.1 h').symm
  exact ⟨(hp.interpreter hregistered).clang, (hp.interpreter hregistered).cling⟩

/-- When LibTooling returns, all its sources are saved. -/
theorem triple_clangTool_run (hp : w.Prepared files p) :
    Triple (MainState.At p) (ClangTool.run w p.clangEnv.argsStorage)
      (fun _ s => ∃ p', w.Finished files p' ∧ s.At p') (w.Cut files) := by
  have hargs := argsStorage_of_clangInit hp.clang
  have hstage := hp.stage.withCall (by rw [hp.calls]) (by simp [interpreterCall])
  unfold ClangTool.run
  rw [hargs]
  refine Triple.bind (Q := fun _ => MainState.At
    { p with calls := p.calls ++ [.tool w.clangArgs] }) (fun s hs => hs.callTool _) fun _ => ?_
  refine triple_assertions_bind hstage fun _ _ => triple_assertions_bind hstage fun _ _ => ?_
  cases hparsed : w.optionsParser w.clangArgs with
  | error status => exact Triple.throw fun s hs => hstage.cut hs _
  | ok sources =>
    have hsources : w.sources = sources := by
      unfold World.sources
      rw [hp.clang]
      dsimp only
      rw [hargs, hparsed]
      rfl
    refine triple_assertions_bind hstage fun _ _ => ?_
    subst hsources
    refine Triple.bind ((Triple.forM (I := fun done s => ∃ save, w.Saved files done save ∧
      s.At { p with calls := p.calls ++ [.tool w.clangArgs], save := save })
      fun done run rest hl => triple_processSource hstage hl).strengthen ?_) fun _ => ?_
    · intro s hs
      refine ⟨⟨files, []⟩, rfl, ?_⟩
      rw [← hp.save]
      exact hs
    · refine Triple.of_exists fun save => Triple.of_imp fun hsaved => ?_
      refine (triple_act rfl).weaken fun _ s hs => ⟨_, ?_, hs⟩
      have hall : w.Saving w.sources files (.ok ()) save :=
        ⟨w.sources, [], (List.append_nil _).symm, hsaved⟩
      refine ⟨hstage.withSave hall, hp.locals, hp.calls, ?_⟩
      rw [World.savedSources, if_neg hp.noVersion]
      exact hsaved

theorem triple_runClangLibTooling (hp : w.Prepared files p) :
    Triple (MainState.At p) (runClangLibTooling w)
      (fun _ s => ∃ p', w.Finished files p' ∧ s.At p') (w.Cut files) := by
  intro s hs
  have hinit : w.Initialised s := by rw [World.Initialised, hs.clangEnv]; exact hp.clang
  rw [exec_runClangLibTooling hinit, hs.clangEnv]
  exact triple_clangTool_run hp s hs

/-! ## The command line -/

/-- Without a command, LibTooling is next. -/
theorem World.InitReturns.prepared (hp : w.InitReturns files none p)
    (hversion : ¬ w.commandLine.Given kVersion) (hhelp : ¬ w.commandLine.Given kHelp) :
    w.Prepared files p := by
  refine ⟨hp.stage, hp.locals, hp.save, (hp.done rfl).2, ?_, hversion⟩
  rw [(hp.done rfl).1, World.protocol, World.commands, if_neg (not_or.2 ⟨hversion, hhelp⟩),
    World.toolCalls, if_neg hversion, List.append_assoc]
  rfl

/-- For the version, its event is the last call. -/
theorem World.InitReturns.finished_version (hp : w.InitReturns files none p)
    (hversion : w.commandLine.Given kVersion) :
    w.Finished files { p with calls := p.calls ++ [.event versionCommand] } := by
  have hcalls : p.calls ++ [.event versionCommand] = w.protocol := by
    rw [(hp.done rfl).1, World.protocol, World.commands, if_pos (Or.inl hversion),
      World.toolCalls, if_pos hversion, List.append_assoc, List.append_nil]
  refine ⟨hp.stage.withCall (by rw [hcalls]) (by decide), hp.locals, hcalls, ?_⟩
  rw [World.savedSources, if_pos hversion, hp.save]
  rfl

/-- For help, LibTooling follows that event. -/
theorem World.InitReturns.prepared_help (hp : w.InitReturns files none p)
    (hversion : ¬ w.commandLine.Given kVersion) (hhelp : w.commandLine.Given kHelp) :
    w.Prepared files { p with calls := p.calls ++ [.event versionCommand] } := by
  have hcalls : p.calls ++ [.event versionCommand] ++ [.tool w.clangArgs] = w.protocol := by
    rw [(hp.done rfl).1, World.protocol, World.commands, if_pos (Or.inr hhelp),
      World.toolCalls, if_neg hversion]
    simp only [List.append_assoc]
  refine ⟨hp.stage.withCall ?_ (by decide), hp.locals, hp.save, (hp.done rfl).2, hcalls, hversion⟩
  exact hcalls ▸ List.prefix_append _ _

/-- A command is handled, or there is none. -/
theorem triple_handleCmdOptions (hp : w.InitReturns files none p) :
    Triple (MainState.At p) (handleCmdOptions w)
      (fun exit s => (exit = some exitSuccess ∧ ∃ p', w.Finished files p' ∧ s.At p') ∨
        (exit = none ∧ w.Prepared files p ∧ s.At p))
      (w.Cut files) := by
  have hversion := count_version_ne_zero w
  have hhelp := count_help_ne_zero w
  have hnone : ∀ o ∈ versionCommand.handles, o ∈ p.owned := fun o ho => absurd ho List.not_mem_nil
  unfold handleCmdOptions
  split
  · next h =>
    unfold handleVersionCmd
    refine triple_assertions_bind hp.stage fun _ _ => triple_trigger_bind hnone ?_
    exact Triple.pure fun s hs => Or.inl ⟨rfl, _, hp.finished_version (hversion.1 h), hs⟩
  · next h =>
    have hnoversion := mt hversion.2 h
    split
    · next h' =>
      unfold handleHelpCmd
      apply triple_trigger_bind hnone
      refine (triple_runClangLibTooling (hp.prepared_help hnoversion (hhelp.1 h'))).bind fun _ => ?_
      exact Triple.pure fun s hs => Or.inl ⟨rfl, hs⟩
    · next h' =>
      exact Triple.pure fun s hs => Or.inr ⟨rfl, hp.prepared hnoversion (mt hhelp.2 h'), hs⟩

/-! ## The destructors -/

/-- The locals of a run that was this far are destroyed. -/
structure MainState.Closed (p : Progress) (s : MainState) : Prop where
  calls : s.calls = p.calls ++ [.event .shutdown]
  clangEnv : s.clangEnv = p.clangEnv
  clingEnv : s.clingEnv = p.clingEnv
  save : s.save = p.save
  held : Custody.Held custody s.trace ∅

/-- What the destructors destroy after plugins are told. -/
def destroyedLast : List Object := [.mainEventsDispatcher, .pluginEnv, .baseEnv, .cmdEnv]

/-- What the destructors destroy is what was owned, each once. -/
theorem destroyed_perm {s : MainState} (hs : s.At p) (hlocals : p.locals = mainLocals) :
    (s.destroyedFirst ++ destroyedLast).Perm p.owned := by
  have hclang : (p.clangEnv.members.reverse).Perm p.clangEnv.members := List.reverse_perm _
  have hcling : (p.clingEnv.members.reverse).Perm p.clingEnv.members := List.reverse_perm _
  rw [MainState.destroyedFirst, hs.clangEnv, hs.clingEnv, Progress.owned, hlocals, mainLocals,
    destroyedLast, List.perm_iff_count]
  intro o
  simp only [List.count_append, List.count_cons, List.count_nil, hclang.count_eq, hcling.count_eq]
  omega

theorem held_destroyed {s : MainState} {live : Set Object} {objects : List Object}
    (h : Custody.Held custody s.trace live) (hnodup : objects.Nodup)
    (halive : ∀ o ∈ objects, o ∈ live) :
    Custody.Held custody (s.record (objects.map .destroyed)).trace
      (live \ {o | o ∈ objects}) :=
  h.destroyAll (fun _ => ⟨rfl, rfl, rfl⟩) hnodup halive

theorem calls_destroyed (s : MainState) (objects : List Object) :
    (s.record (objects.map .destroyed)).calls = s.calls := by
  have hnone : (objects.map Action.destroyed).filterMap Action.call = [] := by
    rw [List.filterMap_eq_nil_iff]
    intro a ha
    obtain ⟨o, -, rfl⟩ := List.mem_map.1 ha
    rfl
  rw [MainState.calls, tell_record, hnone, List.append_nil]
  rfl

theorem closed_afterDestroy {s : MainState} (hs : s.At p) (hlocals : p.locals = mainLocals) :
    (w.afterDestroy s).Closed p where
  calls := by
    unfold World.afterDestroy
    rw [calls_destroyed, calls_deliveries, calls_destroyed, hs.calls]
  clangEnv := hs.clangEnv
  clingEnv := hs.clingEnv
  save := hs.save
  held := by
    have hperm := destroyed_perm hs hlocals
    obtain ⟨hfirst, hlast, hdisjoint⟩ :=
      List.nodup_append.1 (hperm.nodup_iff.2 (owned_nodup hlocals))
    have halive : ∀ o ∈ s.destroyedFirst, o ∈ p.owned := fun o ho =>
      hperm.mem_iff.1 (List.mem_append_left _ ho)
    have hfirst' := held_destroyed hs.held hfirst halive
    have hshutdown := held_deliveries w .shutdown hfirst'
      fun o ho => absurd ho List.not_mem_nil
    have hlast' := held_destroyed hshutdown hlast fun o ho =>
      ⟨hperm.mem_iff.1 (List.mem_append_right _ ho), fun ho' => hdisjoint o ho' o ho rfl⟩
    have hnone : (({o | o ∈ p.owned} : Set Object) \ {o | o ∈ s.destroyedFirst}) \
        {o | o ∈ destroyedLast} = ∅ := by
      ext o
      have hmem := hperm.mem_iff (a := o)
      rw [List.mem_append] at hmem
      simp only [Set.mem_sdiff, Set.mem_ofPred_eq, Set.mem_empty_iff_false]
      tauto
    rwa [hnone] at hlast'

theorem triple_destroyLocals {α : Type} (hlocals : p.locals = mainLocals) (a : α) :
    Triple (MainState.At p) (destroyLocals w >>= fun _ => (pure a : MainProc α))
      (fun b s => b = a ∧ s.Closed p) (w.Cut files) := by
  intro s hs
  rw [Proc.exec_bind_ok (exec_destroyLocals ..), Proc.exec_pure]
  exact ⟨rfl, closed_afterDestroy hs hlocals⟩

/-! ## `main` -/

/-- How far a run is that returns this code. -/
inductive World.Returns (w : World) (files : FilePath → Option Str) : ℤ → Progress → Prop
  | failed {p : Progress} : w.Stage files p → p.save = ⟨files, []⟩ → p.calls <+: w.startCalls →
      w.Returns files exitFailure p
  | finished {p : Progress} : w.Finished files p → w.Returns files exitSuccess p

theorem World.Returns.stage {code : ℤ} (h : w.Returns files code p) : w.Stage files p := by
  cases h with
  | failed hstage _ _ => exact hstage
  | finished hfinished => exact hfinished.stage

theorem triple_main (w : World) (files : FilePath → Option Str) :
    Triple (fun s => s = .start files) (main w)
      (fun code s => ∃ p, w.Returns files code p ∧ s.Closed p) (w.Cut files) := by
  have hstage : w.Stage files (.start files) :=
    ⟨List.nil_prefix, saving_nil w files, fun h => absurd h List.not_mem_nil⟩
  have hreturn : ∀ {p : Progress} {code : ℤ}, p.locals = mainLocals → w.Returns files code p →
      Triple (MainState.At p) (destroyLocals w >>= fun _ => (pure code : MainProc ℤ))
        (fun code s => ∃ p, w.Returns files code p ∧ s.Closed p) (w.Cut files) := by
    intro p code hlocals hp
    exact (triple_destroyLocals hlocals code).weaken fun b s hs => ⟨p, hs.1 ▸ hp, hs.2⟩
  refine Triple.strengthen (P := MainState.At (.start files)) ?_ fun s hs => hs ▸ start_at files
  unfold main
  refine triple_assertions_bind hstage fun _ _ => ?_
  refine (triple_createLocals w files).bind fun _ => (triple_initEnv w files).bind fun exit => ?_
  refine Triple.of_exists fun p => Triple.of_imp fun hp => ?_
  cases exit with
  | some code =>
    obtain ⟨hcode, hcalls⟩ := hp.failed code rfl
    subst hcode
    exact (triple_act rfl).bind fun _ => hreturn hp.locals (.failed hp.stage hp.save hcalls)
  | none =>
    refine (triple_handleCmdOptions hp).bind fun exit => ?_
    have hfinish : ∀ p, w.Finished files p → Triple (MainState.At p)
        (destroyLocals w >>= fun _ => (pure exitSuccess : MainProc ℤ))
        (fun code s => ∃ p, w.Returns files code p ∧ s.Closed p) (w.Cut files) :=
      fun p hp => hreturn hp.locals (.finished hp)
    rintro s (⟨rfl, p', hp', hs⟩ | ⟨rfl, hprepared, hs⟩)
    · exact hfinish p' hp' s hs
    · exact (triple_runClangLibTooling hprepared).bind (fun _ =>
        Triple.of_exists fun p' => Triple.of_imp (hfinish p')) s hs

end

/-- Every run returns and has destroyed its locals, or is cut at some stage. -/
theorem main_ends (w : World) (files : FilePath → Option Str) :
    (∃ code p, ((main w).exec (.start files)).1 = .ok code ∧ w.Returns files code p ∧
      ((main w).exec (.start files)).2.Closed p) ∨
    ∃ stop, ((main w).exec (.start files)).1 = .error stop ∧
      w.Cut files stop ((main w).exec (.start files)).2 := by
  have hends := triple_main w files (.start files) rfl
  generalize (main w).exec (.start files) = ended at hends ⊢
  rcases ended with ⟨stop | code, s⟩
  · exact Or.inr ⟨stop, rfl, hends⟩
  · obtain ⟨p, hp, hs⟩ := hends
    exact Or.inl ⟨code, p, rfl, hp, hs⟩

section

variable {w : World} {files : FilePath → Option Str}

theorem finished_of_success (h : ((main w).exec (.start files)).1 = .ok exitSuccess) :
    ∃ p, w.Finished files p ∧ ((main w).exec (.start files)).2.Closed p := by
  rcases main_ends w files with ⟨code, p, hcode, hp, hs⟩ | ⟨stop, hstop, -⟩
  · cases hp with
    | failed _ _ _ => exact absurd (Except.ok.inj (hcode.symm.trans h)) (by decide)
    | finished hfinished => exact ⟨p, hfinished, hs⟩
  · exact absurd (hstop.symm.trans h) (by simp)

theorem unsaved_of_failure (h : ((main w).exec (.start files)).1 = .ok exitFailure) :
    ∃ p, p.save = ⟨files, []⟩ ∧ p.calls <+: w.startCalls ∧
      ((main w).exec (.start files)).2.Closed p := by
  rcases main_ends w files with ⟨code, p, hcode, hp, hs⟩ | ⟨stop, hstop, -⟩
  · cases hp with
    | failed _ hsave hcalls => exact ⟨p, hsave, hcalls, hs⟩
    | finished _ => exact absurd (Except.ok.inj (hcode.symm.trans h)) (by decide)
  · exact absurd (hstop.symm.trans h) (by simp)

/-- The files of a run that returns `EXIT_SUCCESS`. -/
theorem files_of_success (h : ((main w).exec (.start files)).1 = .ok exitSuccess) :
    ((main w).exec (.start files)).2.save.files = w.finalFiles files := by
  obtain ⟨p, hp, hs⟩ := finished_of_success h
  have hfiles := saveSources_files w w.savedSources files ⟨files, []⟩ rfl
  rw [hp.saved] at hfiles
  exact (congrArg SaveState.files hs.save).trans hfiles

/-- Its calls. -/
theorem calls_of_success (h : ((main w).exec (.start files)).1 = .ok exitSuccess) :
    ((main w).exec (.start files)).2.calls = w.protocol ++ [.event .shutdown] := by
  obtain ⟨p, hp, hs⟩ := finished_of_success h
  rw [hs.calls, hp.calls]

variable (w files)

/-- What any run has saved.  When saving failed, that is what stopped the run. -/
theorem saving_of_main : ∃ outcome,
    w.Saving w.sources files outcome ((main w).exec (.start files)).2.save ∧
      ∀ fault, outcome = .error fault →
        ((main w).exec (.start files)).1 = .error (.fault fault) := by
  rcases main_ends w files with ⟨code, p, hcode, hp, hs⟩ |
    ⟨stop, hstop, p, outcome, save, -, hsaving, hfault, hs⟩
  · refine ⟨.ok (), ?_, fun fault h => absurd h (by simp)⟩
    rw [hs.save]
    exact hp.stage.save
  · refine ⟨outcome, ?_, fun fault h => ?_⟩
    · rw [hs.save]
      exact hsaving
    · rw [← hfault fault h]
      exact hstop

theorem mem_protocol_of_calls {call : Call} (h : call ∈ ((main w).exec (.start files)).2.calls) :
    call ∈ w.protocol ∨ call = .event .shutdown := by
  rcases main_ends w files with ⟨code, p, -, hp, hs⟩ | ⟨stop, -, p, _, _, hp, -, -, hs⟩
  · rw [hs.calls] at h
    exact (List.mem_append.1 h).imp (fun h => hp.stage.calls.subset h) List.mem_singleton.1
  · rw [hs.calls] at h
    exact Or.inl (hp.calls.subset h)

end

/-! ## Results -/

/-- However a run ends, `main` has made the calls of a beginning of the protocol, and when it
returns, the event to shut down comes last.  The whole protocol is followed in a run that returns
`EXIT_SUCCESS`, and nothing is registered or run in one that returns `EXIT_FAILURE`. -/
theorem main_calls (w : World) (files : FilePath → Option Str) :
    let ended := (main w).exec (.start files)
    ∃ calls, calls <+: w.protocol ∧
      ended.2.calls = calls ++ (if ended.1.isOk then [.event .shutdown] else []) ∧
      (ended.1 = .ok exitSuccess → calls = w.protocol) ∧
      (ended.1 = .ok exitFailure → calls <+: w.startCalls) := by
  intro ended
  rcases main_ends w files with ⟨code, p, hcode, hp, hs⟩ | ⟨stop, hstop, p, _, _, hp, -, -, hs⟩
  · have hended : ended.2.calls = p.calls ++ if ended.1.isOk then [.event .shutdown] else [] := by
      rw [show ended.1 = .ok code from hcode]
      exact hs.calls
    refine ⟨p.calls, hp.stage.calls, hended, fun h => ?_, fun h => ?_⟩
    · obtain ⟨p', hp', hs'⟩ := finished_of_success h
      exact (List.append_cancel_right (hs.calls.symm.trans hs'.calls)).trans hp'.calls
    · obtain ⟨p', -, hcalls', hs'⟩ := unsaved_of_failure h
      rw [List.append_cancel_right (hs.calls.symm.trans hs'.calls)]
      exact hcalls'
  · have hnot : ∀ code, ended.1 ≠ .ok code := fun code h => by simpa using hstop.symm.trans h
    refine ⟨p.calls, hp.calls, ?_, fun h => absurd h (hnot _), fun h => absurd h (hnot _)⟩
    rw [show ended.1 = .error stop from hstop]
    exact hs.calls.trans (List.append_nil _).symm

/-- However a run ends, it has saved sources from the front of the list the way `saveAll` does: all
of them when it returns `EXIT_SUCCESS` and was not asked for the version, and none when it returns
`EXIT_FAILURE`.  When an assertion failed in `saveAll`, that is what stopped the run. -/
theorem main_saves (w : World) (files : FilePath → Option Str) :
    let ended := (main w).exec (.start files)
    ∃ begun rest, w.sources = begun ++ rest ∧
      let saving := (saveAll w.build w.host w.outDir (saveCalls begun)).exec ⟨files, []⟩
      ended.2.save = saving.2 ∧
        (∀ fault, saving.1 = .error fault → ended.1 = .error (.fault fault)) ∧
        (ended.1 = .ok exitSuccess → begun = w.savedSources) ∧
        (ended.1 = .ok exitFailure → begun = []) := by
  intro ended
  simp only [← saveSources_eq_saveAll]
  by_cases hsuccess : ended.1 = .ok exitSuccess
  · obtain ⟨p, hp, hs⟩ := finished_of_success hsuccess
    have hsaved := hp.saved
    obtain ⟨rest, hrest⟩ := savedSources_prefix w
    refine ⟨w.savedSources, rest, hrest, ?_, fun fault h => ?_, fun _ => rfl, fun h => ?_⟩
    · rw [hsaved]
      exact hs.save
    · rw [hsaved] at h
      exact absurd h (by simp)
    · exact absurd (Except.ok.inj (hsuccess.symm.trans h)) (by decide)
  · by_cases hfailure : ended.1 = .ok exitFailure
    · obtain ⟨p, hsave, -, hs⟩ := unsaved_of_failure hfailure
      refine ⟨[], w.sources, rfl, hs.save.trans hsave, fun fault h => ?_,
        fun h => absurd h hsuccess, fun _ => rfl⟩
      exact absurd h (by simp [saveSources_nil])
    · obtain ⟨outcome, ⟨begun, rest, hsources, hexec⟩, hfault⟩ := saving_of_main w files
      refine ⟨begun, rest, hsources, ?_, fun fault h => ?_, fun h => absurd h hsuccess,
        fun h => absurd h hfailure⟩
      · rw [hexec]
      · rw [hexec] at h
        exact hfault fault h

/-- However a run ends, sources from the front of the list are saved completely, at most one more
output is there in part, and no other file is changed. -/
theorem main_leaves (w : World) (files : FilePath → Option Str) :
    w.Leaves w.sources files ((main w).exec (.start files)).2.save.files := by
  obtain ⟨outcome, hsaving, -⟩ := saving_of_main w files
  exact hsaving.leaves

/-- A run that returns `EXIT_SUCCESS` has saved every source that can be saved, unless it was asked
for the version; one that returns `EXIT_FAILURE` has changed no file. -/
theorem main_finalFiles (w : World) (files : FilePath → Option Str) :
    let ended := (main w).exec (.start files)
    (ended.1 = .ok exitSuccess → ended.2.save.files = w.finalFiles files) ∧
      (ended.1 = .ok exitFailure → ended.2.save.files = files) := by
  refine ⟨files_of_success, fun h => ?_⟩
  obtain ⟨p, hsave, -, hs⟩ := unsaved_of_failure h
  exact congrArg SaveState.files (hs.save.trans hsave)

/-- The interpreter for this command line, when the tool is in this directory. -/
def World.interpreter (w : World) (dirExe : FilePath) : ClingInterpreter where
  debugId := "MainClingInterpreter_debug_id".toList
  args := pushDefaultClingArgs w.host dirExe [] ++
    ((w.commandLine.unregisteredOptions w.baseSwitches).flatMap (clingOutputs w.build)).filter
      fun arg => decide (Dashed arg)
  includePaths := [".".toList, "../".toList]
  loadFileCalls := w.commandLine.clingScripts

theorem World.Interprets.interpreter_eq {w : World} {p : Progress} (h : w.Interprets p)
    (hon : w.build.clingIsOn = true) :
    ∃ dirExe, w.host.dirExe = some dirExe ∧
      p.clingEnv.clingInterpreter = some (w.interpreter dirExe) := by
  obtain ⟨-, args, hpopulate, hclang⟩ := (ScopedClangEnvironment.init_eq_ok_true_iff ..).1 h.clang
  obtain ⟨defaults, hadd, -, hcling⟩ :=
    (ScopedClingEnvironment.init_eq_ok_true_iff hon ..).1 h.cling
  obtain ⟨dirExe, hdir, -, rfl⟩ := (addDefaultClingArgs_eq_ok_true_iff ..).1 hadd
  obtain ⟨_, -, -, rfl⟩ := (populateClangArguments_eq_ok_iff ..).1 hpopulate
  refine ⟨dirExe, hdir, ?_⟩
  rw [hcling, hclang]
  rfl

/-- However a run ends, an interpreter that plugins were handed was started on the default
arguments and then those of the command line, and `loadFile` was called for every script file. -/
theorem main_interpreter (w : World) (files : FilePath → Option Str)
    (h : interpreterCall ∈ ((main w).exec (.start files)).2.calls) :
    w.build.clingIsOn = true ∧ ∃ dirExe, w.host.dirExe = some dirExe ∧
      ((main w).exec (.start files)).2.clingEnv.clingInterpreter =
        some (w.interpreter dirExe) := by
  have hstage : ∀ {p : Progress}, w.Stage files p → interpreterCall ∈ p.calls →
      w.build.clingIsOn = true ∧ ∃ dirExe, w.host.dirExe = some dirExe ∧
        p.clingEnv.clingInterpreter = some (w.interpreter dirExe) := by
    intro p hp hregistered
    have hon : w.build.clingIsOn = true := by
      by_contra hoff
      have hprotocol := hp.calls.subset hregistered
      simp [World.protocol, World.startCalls, World.registrations, hoff, World.commands,
        World.toolCalls, interpreterCall, annotationsCall, versionCommand] at hprotocol
    exact ⟨hon, (hp.interpreter hregistered).interpreter_eq hon⟩
  rcases main_ends w files with ⟨code, p, -, hp, hs⟩ | ⟨stop, -, p, _, _, hp, -, -, hs⟩
  · rw [hs.calls] at h
    rw [hs.clingEnv]
    exact hstage hp.stage ((List.mem_append.1 h).resolve_right (by decide))
  · rw [hs.calls] at h
    rw [hs.clingEnv]
    exact hstage (p := p) hp h

theorem main_interpreter_define :
    let w := World.sample [⟨"extra-arg".toList, ["-DX".toList]⟩]
      [SourceRun.sample "/src/a.cc".toList true]
    w.build.clingIsOn = true ∧ ∃ dirExe, w.host.dirExe = some dirExe ∧
      ((main w).exec (.start fun _ => none)).2.clingEnv.clingInterpreter =
        some (w.interpreter dirExe) :=
  main_interpreter (World.sample [⟨"extra-arg".toList, ["-DX".toList]⟩]
    [SourceRun.sample "/src/a.cc".toList true]) (fun _ => none) (by decide +kernel)

theorem mem_calls_of_clangRun {s : MainState} {args : List Str} (h : .clangRun args ∈ s.trace) :
    Call.tool args ∈ s.calls := List.mem_filterMap.2 ⟨_, h, rfl⟩

/-- LibTooling is run with no other arguments than these. -/
theorem clangRun_args {w : World} {files : FilePath → Option Str} {args : List Str}
    (h : .clangRun args ∈ ((main w).exec (.start files)).2.trace) : args = w.clangArgs := by
  have hprotocol : Call.tool args ∈ w.protocol :=
    (mem_protocol_of_calls w files (mem_calls_of_clangRun h)).resolve_right (by simp)
  have htool : Call.tool args ∈ w.toolCalls := by
    have hregistrations : Call.tool args ∉ w.registrations := by
      unfold World.registrations interpreterCall annotationsCall
      split <;> simp
    have hcommands : Call.tool args ∉ w.commands := by
      unfold World.commands
      split <;> simp
    simpa [World.protocol, World.startCalls, hregistrations, hcommands] using hprotocol
  unfold World.toolCalls at htool
  split at htool
  · exact absurd htool List.not_mem_nil
  · exact Call.tool.inj (List.mem_singleton.1 htool)

/-- However a run ends, LibTooling was run with the defaults, words from which it reads the options
that are let through, with their values, in the order of the command line, and `-help` exactly when
help was asked for; no word is empty. -/
theorem main_clangRun (w : World) (files : FilePath → Option Str) (args : List Str)
    (hkeys : ∀ o ∈ w.leftOver, '=' ∉ o.key)
    (h : .clangRun args ∈ ((main w).exec (.start files)).2.trace) :
    (∃ forwarded, args = pushDefaultClangArgs w.host w.outDir w.host.dirExePath [] ++ forwarded ++
        (if w.commandLine.Given kHelp then [kClangHelpFlag] else []) ∧
      forwarded.map readWord =
        w.leftOver.flatMap fun o => (o.letThrough w.host).map fun v => (o.key, v)) ∧
    (kClangHelpFlag ∈ args ↔ w.commandLine.Given kHelp) ∧ ∀ arg ∈ args, arg ≠ [] := by
  have hargs := clangRun_args h
  subst hargs
  refine ⟨⟨_, rfl, ?_⟩, help_mem_clangArgs_iff w, clangArgs_words w⟩
  rw [List.map_flatMap]
  exact List.flatMap_congr fun o ho => readWord_clangOutputs w.host (hkeys o ho)

theorem main_clangRun_define :
    let w := World.sample [⟨"extra-arg".toList, ["-DX".toList]⟩]
      [SourceRun.sample "/src/a.cc".toList true]
    (∃ forwarded, w.clangArgs =
        pushDefaultClangArgs w.host w.outDir w.host.dirExePath [] ++ forwarded ++
          (if w.commandLine.Given kHelp then [kClangHelpFlag] else []) ∧
      forwarded.map readWord =
        w.leftOver.flatMap fun o => (o.letThrough w.host).map fun v => (o.key, v)) ∧
    (kClangHelpFlag ∈ w.clangArgs ↔ w.commandLine.Given kHelp) ∧ ∀ arg ∈ w.clangArgs, arg ≠ [] :=
  main_clangRun (World.sample [⟨"extra-arg".toList, ["-DX".toList]⟩]
      [SourceRun.sample "/src/a.cc".toList true]) (fun _ => none)
    (World.sample [⟨"extra-arg".toList, ["-DX".toList]⟩]
      [SourceRun.sample "/src/a.cc".toList true]).clangArgs (by decide +kernel)
    (by decide +kernel)

end Flextool
