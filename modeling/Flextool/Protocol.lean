import Flextool.Invocation
import Flextool.Progress

/-!
# The order of calls

`main` sends its events and runs LibTooling in a fixed order, `World.protocol`.  Every step has a
triple that says how far the run is after it; whatever stops the run, it is then at some
`World.Stage`: the calls made are a beginning of the protocol, and what was saved is what a run
over the sources may have saved.
-/

namespace Flextool

open Proc (Triple)

/-! ## Stages -/

/-- The events of `plugin_env.init`. -/
def World.startCalls (w : World) : List Call :=
  [.event (.init w.argc),
    .event (.startup
      (w.commandLine.pluginsDir w.host w.kDefaultPluginsDirName w.host.dirExePath)
      (w.commandLine.pluginsConfigFile w.host w.kPluginsConfigFileName w.host.dirExePath)
      w.commandLine.pathsToExtraPluginFiles)]

/-- With this event, plugins are handed the interpreter. -/
def interpreterCall : Call := .event (.registerClingInterpreter .clingInterpreter)

/-- With this event, plugins are handed the annotation methods and the pipeline. -/
def annotationsCall : Call :=
  .event (.registerAnnotationMethods .annotationMethods .sourceTransformPipeline)

/-- The events at the end of `initEnv`. -/
def World.registrations (w : World) : List Call :=
  (if w.build.clingIsOn then [interpreterCall] else []) ++ [annotationsCall]

/-- The event of the command handlers. -/
def World.commands (w : World) : List Call :=
  if w.commandLine.Given kVersion ∨ w.commandLine.Given kHelp then [.event versionCommand] else []

/-- The run of LibTooling, unless the version is asked for. -/
def World.toolCalls (w : World) : List Call :=
  if w.commandLine.Given kVersion then [] else [.tool w.clangArgs]

/-- All that `main` calls before it destroys its locals, in order. -/
def World.protocol (w : World) : List Call :=
  w.startCalls ++ (w.registrations ++ (w.commands ++ w.toolCalls))

/-- The interpreter is the one that this command line asks for. -/
structure World.Interprets (w : World) (p : Progress) : Prop where
  clang : w.clangInit = .ok (true, p.clangEnv)
  cling : w.clingInit p.clangEnv.clingExtraArgs = .ok (true, p.clingEnv)

/-- What holds of the progress of every run that began with these files. -/
structure World.Stage (w : World) (files : FilePath → Option Str) (p : Progress) : Prop where
  calls : p.calls <+: w.protocol
  save : w.Saving w.sources files (.ok ()) p.save
  interpreter : interpreterCall ∈ p.calls → w.Interprets p

/-- A run that stops for this reason was at some stage.  If saving a source failed besides, that is
the reason. -/
def World.Cut (w : World) (files : FilePath → Option Str) (stop : Stop) (s : MainState) : Prop :=
  ∃ p outcome save, w.Stage files p ∧ w.Saving w.sources files outcome save ∧
    (∀ fault, outcome = .error fault → stop = .fault fault) ∧ s.At { p with save := save }

section

variable {w : World} {files : FilePath → Option Str} {p : Progress}

theorem saving_nil (w : World) (files : FilePath → Option Str) :
    w.Saving w.sources files (.ok ()) ⟨files, []⟩ := ⟨[], w.sources, rfl, rfl⟩

theorem World.Stage.cut (hp : w.Stage files p) {s : MainState} (hs : s.At p) (stop : Stop) :
    w.Cut files stop s :=
  ⟨p, .ok (), p.save, hp, hp.save, fun fault h => absurd h (by simp), hs⟩

theorem triple_assertions {α : Type} (hp : w.Stage files p) (r : Except Fault α) :
    Triple (MainState.At p) (assertions r) (fun a s => r = .ok a ∧ s.At p) (w.Cut files) := by
  apply Triple.ofExcept
  · exact fun a h s hs => ⟨Loops.mapError_eq_ok_iff.1 h, hs⟩
  · exact fun stop _ s hs => hp.cut hs stop

/-- An assertion, and then the rest. -/
theorem triple_assertions_bind {α β : Type} (hp : w.Stage files p) {r : Except Fault α}
    {f : α → MainProc β} {R : β → MainState → Prop}
    (h : ∀ a, r = .ok a → Triple (MainState.At p) (f a) R (w.Cut files)) :
    Triple (MainState.At p) (assertions r >>= f) R (w.Cut files) :=
  (triple_assertions hp r).bind fun a => Triple.of_imp (h a)

/-- An event, and then the rest. -/
theorem triple_trigger_bind {β : Type} {event : Event} (hhandles : ∀ o ∈ event.handles, o ∈ p.owned)
    {f : Unit → MainProc β} {R : β → MainState → Prop}
    (h : Triple (MainState.At { p with calls := p.calls ++ [.event event] }) (f ()) R
      (w.Cut files)) :
    Triple (MainState.At p) (trigger w event >>= f) R (w.Cut files) := by
  intro s hs
  rw [exec_trigger_bind]
  exact h _ (hs.deliver w hhandles)

theorem triple_act {action : Action} (h : action.inert = true) :
    Triple (MainState.At p) (act action) (fun _ => MainState.At p) (w.Cut files) :=
  fun _ hs => hs.record fun a ha => by rwa [List.mem_singleton.1 ha]

end

/-! ## The steps of `initEnv` -/

/-- The locals of `main` are constructed. -/
def Progress.begun (files : FilePath → Option Str) : Progress :=
  { Progress.start files with locals := mainLocals }

/-- Before the registrations, nothing was saved and the locals are there. -/
structure World.Initialising (w : World) (files : FilePath → Option Str) (p : Progress) :
    Prop where
  calls : p.calls <+: w.startCalls
  locals : p.locals = mainLocals
  save : p.save = ⟨files, []⟩

/-- How far a run is when `initEnv` returns. -/
structure World.InitReturns (w : World) (files : FilePath → Option Str) (exit : Option ℤ)
    (p : Progress) : Prop where
  stage : w.Stage files p
  locals : p.locals = mainLocals
  save : p.save = ⟨files, []⟩
  failed : ∀ code, exit = some code → code = exitFailure ∧ p.calls <+: w.startCalls
  done : exit = none → p.calls = w.startCalls ++ w.registrations ∧
    w.clangInit = .ok (true, p.clangEnv)

/-- What holds when an environment was created, or was not. -/
def World.Created (w : World) (files : FilePath → Option Str) (Q : MainState → Prop)
    (envCreated : Bool) (s : MainState) : Prop :=
  (envCreated = true → Q s) ∧ (envCreated = false → ∃ p, w.Initialising files p ∧ s.At p)

section

variable {w : World} {files : FilePath → Option Str} {p : Progress}

/-- Before the interpreter is handed out, nothing is asked of it. -/
theorem World.Initialising.stage (hp : w.Initialising files p) : w.Stage files p where
  calls := hp.calls.trans (List.prefix_append _ _)
  save := hp.save ▸ saving_nil w files
  interpreter h := by simpa [World.startCalls, interpreterCall] using hp.calls.subset h

theorem initialising_begun (w : World) (files : FilePath → Option Str) :
    w.Initialising files (.begun files) := ⟨List.nil_prefix, rfl, rfl⟩

/-- One environment after the other. -/
theorem triple_require {P Q : MainState → Prop} {envCreated : MainProc Bool} {message : Str}
    {next : MainProc (Option ℤ)} (henv : Triple P envCreated (w.Created files Q) (w.Cut files))
    (hnext : Triple Q next (fun exit s => ∃ p, w.InitReturns files exit p ∧ s.At p) (w.Cut files)) :
    Triple P (require envCreated message next)
      (fun exit s => ∃ p, w.InitReturns files exit p ∧ s.At p) (w.Cut files) := by
  unfold require
  refine henv.bind fun created => ?_
  cases created with
  | true => exact hnext.strengthen fun s hs => hs.1 rfl
  | false =>
    intro s hs
    obtain ⟨p', hp', hat⟩ := hs.2 rfl
    refine ⟨p', ⟨hp'.stage, hp'.locals, hp'.save, fun code hcode => ?_, fun hnone => ?_⟩,
      hat.record fun a ha => by rw [List.mem_singleton.1 ha]; rfl⟩
    · exact ⟨(Option.some.inj hcode).symm, hp'.calls⟩
    · exact absurd hnone (Option.some_ne_none _)

theorem triple_createLocals (w : World) (files : FilePath → Option Str) :
    Triple (MainState.At (.start files)) (createLocals w) (fun _ => MainState.At (.begun files))
      (w.Cut files) := by
  have hstage : w.Stage files (.start files) :=
    ⟨List.nil_prefix, saving_nil w files, fun h => absurd h List.not_mem_nil⟩
  have hcreate : Triple (MainState.At (.start files)) (createAll mainLocals)
      (fun _ => MainState.At (.begun files)) (w.Cut files) := by
    intro s hs
    rw [exec_createAll]
    exact hs.create rfl rfl hs.clangEnv hs.clingEnv (List.Perm.refl _) (owned_nodup rfl)
  unfold createLocals
  split
  · exact triple_assertions_bind hstage fun _ _ => hcreate
  · exact hcreate

theorem triple_cmdInit (w : World) (files : FilePath → Option Str) :
    Triple (MainState.At (.begun files)) (assertions (ScopedCmdEnvironment.init w))
      (w.Created files (MainState.At (.begun files))) (w.Cut files) :=
  (triple_assertions (initialising_begun w files).stage _).weaken fun _ _ hs =>
    ⟨fun _ => hs.2, fun _ => ⟨_, initialising_begun w files, hs.2⟩⟩

theorem triple_initBase (w : World) (files : FilePath → Option Str) :
    Triple (MainState.At (.begun files)) (initBase w)
      (w.Created files (MainState.At (.begun files))) (w.Cut files) := by
  unfold initBase
  refine (triple_act rfl).bind fun _ => Triple.pure fun s hs => ?_
  exact ⟨fun _ => hs, fun _ => ⟨_, initialising_begun w files, hs⟩⟩

/-- The events of `plugin_env.init` are sent. -/
def World.connected (w : World) (files : FilePath → Option Str) : Progress :=
  { Progress.begun files with calls := w.startCalls }

theorem triple_pluginInit (w : World) (files : FilePath → Option Str) :
    Triple (MainState.At (.begun files)) (ScopedPluginEnvironment.init w)
      (w.Created files (MainState.At (w.connected files))) (w.Cut files) := by
  have hbegun := initialising_begun w files
  unfold ScopedPluginEnvironment.init
  refine triple_assertions_bind hbegun.stage fun _ _ => ?_
  cases hdir : w.host.dirExe with
  | none =>
    refine triple_assertions_bind hbegun.stage fun _ _ => Triple.pure fun s hs => ?_
    exact ⟨fun h => Bool.noConfusion h, fun _ => ⟨_, hbegun, hs⟩⟩
  | some dirExe =>
    have hpath : w.host.dirExePath = dirExe := by rw [Host.dirExePath, hdir, Option.getD_some]
    have hsent : w.Initialising files
        { Progress.begun files with calls := [.event (.init w.argc)] } :=
      ⟨List.prefix_append [_] [_], rfl, rfl⟩
    have hinit := hsent.stage
    refine triple_trigger_bind (fun o ho => absurd ho List.not_mem_nil) ?_
    refine triple_assertions_bind hinit fun _ _ => triple_assertions_bind hinit fun _ _ =>
      triple_assertions_bind hinit fun _ _ => ?_
    refine triple_trigger_bind (fun o ho => absurd ho List.not_mem_nil) (Triple.pure fun s hs => ?_)
    refine ⟨fun _ => ?_, fun h => Bool.noConfusion h⟩
    rw [World.connected, World.startCalls, hpath]
    exact hs

theorem triple_checkCompileCommands (w : World) :
    Triple (MainState.At p) (checkCompileCommands w) (fun _ => MainState.At p) (w.Cut files) := by
  simp only [checkCompileCommands]
  split
  · exact triple_act rfl
  · exact Triple.pure fun _ hs => hs

/-- The environment for LibTooling is filled. -/
def World.withClang (w : World) (files : FilePath → Option Str)
    (clangEnv : ScopedClangEnvironment) : Progress :=
  { w.connected files with clangEnv := clangEnv }

/-- However `clang_env.init` ended, its objects are those that were created. -/
theorem at_putClang {w : World} {s : MainState} (hs : s.At (w.connected files))
    {clangEnv : ScopedClangEnvironment} (h : clangEnv.Creating) :
    (s.putClang clangEnv).At (w.withClang files clangEnv) := by
  refine hs.create rfl rfl rfl hs.clingEnv ?_ (owned_nodup rfl)
  have hnone : (w.connected files).clangEnv.members = [] := rfl
  have hnone' : (w.connected files).clingEnv.members = [] := rfl
  simp only [Progress.owned, World.withClang, hnone, hnone', List.append_nil]
  exact h.perm_members.symm.append_left _

theorem triple_initClang (w : World) (files : FilePath → Option Str) :
    Triple (MainState.At (w.connected files)) (initClang w)
      (w.Created files fun s => ∃ clangEnv, w.clangInit = .ok (true, clangEnv) ∧
        s.At (w.withClang files clangEnv)) (w.Cut files) := by
  have hstage : ∀ clangEnv, w.Initialising files (w.withClang files clangEnv) := fun clangEnv =>
    ⟨List.prefix_refl _, rfl, rfl⟩
  have hcreating : (w.clangProc.exec .new).2.Creating := ScopedClangEnvironment.creating_init ..
  intro s hs
  rw [exec_initClang w hs.clangEnv]
  cases hinit : w.clangInit with
  | error fault => exact (hstage _).stage.cut (at_putClang hs hcreating) _
  | ok r =>
    obtain ⟨created, clangEnv⟩ := r
    rw [Proc.result_eq_ok_iff.1 hinit] at hcreating
    have hat := at_putClang hs hcreating
    refine ⟨?_, fun _ => ⟨_, hstage clangEnv, hat⟩⟩
    rintro rfl
    exact ⟨clangEnv, rfl, hat⟩

/-- The environment of the interpreter is filled. -/
def World.withCling (w : World) (files : FilePath → Option Str)
    (clangEnv : ScopedClangEnvironment) (clingEnv : ScopedClingEnvironment) : Progress :=
  { w.withClang files clangEnv with clingEnv := clingEnv }

/-- However `cling_env.init` ended, there is an interpreter if one was created. -/
theorem at_putCling {w : World} {s : MainState} {clangEnv : ScopedClangEnvironment}
    (hs : s.At (w.withClang files clangEnv)) (clingEnv : ScopedClingEnvironment) :
    (s.putCling clingEnv).At (w.withCling files clangEnv clingEnv) := by
  refine hs.create rfl rfl hs.clangEnv rfl ?_ (owned_nodup rfl)
  have hnone : (w.withClang files clangEnv).clingEnv.members = [] := rfl
  simp only [Progress.owned, World.withCling, hnone, List.append_nil]
  exact List.Perm.refl _

theorem triple_initCling (w : World) (files : FilePath → Option Str)
    (clangEnv : ScopedClangEnvironment) :
    Triple (MainState.At (w.withClang files clangEnv)) (initCling w)
      (w.Created files fun s => ∃ clingEnv,
        w.clingInit clangEnv.clingExtraArgs = .ok (true, clingEnv) ∧
          s.At (w.withCling files clangEnv clingEnv)) (w.Cut files) := by
  have hstage : ∀ clingEnv, w.Initialising files (w.withCling files clangEnv clingEnv) :=
    fun clingEnv => ⟨List.prefix_refl _, rfl, rfl⟩
  intro s hs
  have hextra : s.clangEnv.clingExtraArgs = clangEnv.clingExtraArgs :=
    congrArg ScopedClangEnvironment.clingExtraArgs hs.clangEnv
  rw [exec_initCling w hs.clingEnv, hextra]
  cases hinit : w.clingInit clangEnv.clingExtraArgs with
  | error fault => exact (hstage _).stage.cut (at_putCling hs _) _
  | ok r =>
    obtain ⟨created, clingEnv⟩ := r
    have hat := at_putCling hs clingEnv
    refine ⟨?_, fun _ => ⟨_, hstage clingEnv, hat⟩⟩
    rintro rfl
    exact ⟨clingEnv, rfl, hat⟩

/-! ### Registrations -/

/-- The interpreter is there when it is handed out. -/
theorem triple_registerClingInterpreter {w : World} (hon : w.build.clingIsOn = true)
    {p : Progress} (hp : w.Interprets p) :
    Triple (MainState.At p) (registerClingInterpreter w)
      (fun _ => MainState.At { p with calls := p.calls ++ [interpreterCall] })
      (w.Cut files) := by
  obtain ⟨defaults, -, -, henv⟩ := (ScopedClingEnvironment.init_eq_ok_true_iff hon ..).1 hp.cling
  have hsome : p.clingEnv.clingInterpreter.isSome = true := by rw [henv]; rfl
  intro s hs
  rw [exec_registerClingInterpreter w (by rw [hs.clingEnv]; exact hsome)]
  apply hs.deliver
  intro o ho
  rw [List.mem_singleton.1 ho]
  apply List.mem_append_right
  rw [ScopedClingEnvironment.members, if_pos hsome]
  exact List.mem_singleton_self _

/-- So are the annotation methods and the pipeline. -/
theorem triple_registerAnnotationMethods {w : World} {p : Progress}
    (hclang : w.clangInit = .ok (true, p.clangEnv)) :
    Triple (MainState.At p) (registerAnnotationMethods w)
      (fun _ => MainState.At { p with calls := p.calls ++ [annotationsCall] })
      (w.Cut files) := by
  obtain ⟨-, args, -, henv⟩ := (ScopedClangEnvironment.init_eq_ok_true_iff ..).1 hclang
  intro s hs
  rw [exec_registerAnnotationMethods w (by rw [hs.clangEnv, henv]; rfl)
    (by rw [hs.clangEnv, henv]; rfl)]
  apply hs.deliver
  intro o ho
  have hmembers : p.clangEnv.members = clangObjects := by rw [henv]; rfl
  apply List.mem_append_left
  apply List.mem_append_right
  rw [hmembers]
  exact List.mem_append_left [.annotationParser, .anotationMatchHandler] ho

/-! ### All of `initEnv` -/

/-- The last registration, after which `initEnv` returns. -/
theorem triple_registration {w : World} {p : Progress} (hlocals : p.locals = mainLocals)
    (hsave : p.save = ⟨files, []⟩) (hclang : w.clangInit = .ok (true, p.clangEnv))
    (hcalls : p.calls ++ [annotationsCall] = w.startCalls ++ w.registrations)
    (hinterpreter : interpreterCall ∈ p.calls → w.Interprets p) :
    Triple (MainState.At p)
      (registerAnnotationMethods w >>= fun _ => (pure none : MainProc (Option ℤ)))
      (fun exit s => ∃ p, w.InitReturns files exit p ∧ s.At p) (w.Cut files) := by
  refine (triple_registerAnnotationMethods hclang).bind fun _ => Triple.pure fun s hs => ?_
  refine ⟨_, ?_, hs⟩
  refine ⟨⟨?_, hsave ▸ saving_nil w files, fun h => ?_⟩, hlocals, hsave, ?_, ?_⟩
  · show p.calls ++ _ <+: w.protocol
    rw [hcalls, World.protocol, ← List.append_assoc]
    exact List.prefix_append _ _
  · have hregistered : interpreterCall ∈ p.calls :=
      (List.mem_append.1 h).resolve_right (by decide)
    exact ⟨(hinterpreter hregistered).clang, (hinterpreter hregistered).cling⟩
  · exact fun code hcode => absurd hcode.symm (Option.some_ne_none _)
  · exact fun _ => ⟨hcalls, hclang⟩

/-- With Cling, the interpreter is handed out before. -/
theorem triple_initCling_registration {w : World} (hon : w.build.clingIsOn = true)
    {clangEnv : ScopedClangEnvironment} (hclang : w.clangInit = .ok (true, clangEnv))
    (message : Str) :
    Triple (MainState.At (w.withClang files clangEnv))
      (require (initCling w) message do
        registerClingInterpreter w
        registerAnnotationMethods w
        return none)
      (fun exit s => ∃ p, w.InitReturns files exit p ∧ s.At p) (w.Cut files) := by
  apply triple_require (triple_initCling w files clangEnv)
  refine Triple.of_exists fun clingEnv => Triple.of_imp fun hcling => ?_
  have hinterprets : w.Interprets (w.withCling files clangEnv clingEnv) := ⟨hclang, hcling⟩
  refine (triple_registerClingInterpreter hon hinterprets).bind fun _ => ?_
  refine triple_registration rfl rfl hclang ?_ fun _ => ⟨hclang, hcling⟩
  show (w.startCalls ++ _) ++ _ = _
  rw [World.registrations, if_pos hon, List.append_assoc]

theorem triple_initEnv (w : World) (files : FilePath → Option Str) :
    Triple (MainState.At (.begun files)) (initEnv w)
      (fun exit s => ∃ p, w.InitReturns files exit p ∧ s.At p) (w.Cut files) := by
  unfold initEnv
  apply triple_require (triple_cmdInit w files)
  apply triple_require (triple_initBase w files)
  apply triple_require (triple_pluginInit w files)
  refine (triple_checkCompileCommands w).bind fun _ => ?_
  apply triple_require (triple_initClang w files)
  refine Triple.of_exists fun clangEnv => Triple.of_imp fun hclang => ?_
  split
  · next hon => exact triple_initCling_registration hon hclang _
  · next hoff =>
    refine triple_registration rfl rfl hclang ?_ fun h => ?_
    · rw [World.registrations, if_neg hoff]
      rfl
    · exact absurd h (by simp [World.withClang, World.connected, World.startCalls, interpreterCall])

end

end Flextool
