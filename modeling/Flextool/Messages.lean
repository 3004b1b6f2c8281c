import Flextool.Outcome

/-!
# What `main.cc` complains of

The errors and warnings of `main.cc` are the messages of a run.  All but three of its steps leave
them alone (`Mute`): `initEnv` complains of a compilation database and of an environment that
cannot be created, and `main` says so once more.  A run that returns `EXIT_FAILURE` names what was
refused, and any other says nothing but that there is a compilation database (`main_messages`).
-/

namespace Flextool

open Proc (Triple)

/-- A severity and a text. -/
abbrev Message : Type := Severity × Str

def Action.message : Action → Option Message
  | .log severity message => some (severity, message)
  | _ => none

def MainState.messages (s : MainState) : List Message := s.tell Action.message

/-- Nothing is said. -/
def Mute (s s' : MainState) : Prop := s'.messages = s.messages

instance : Std.Refl Mute := ⟨fun _ => rfl⟩

instance : IsTrans MainState Mute := ⟨fun _ _ _ h h' => h'.trans h⟩

/-! ## The steps that say nothing -/

theorem mute_record (s : MainState) {l : List Action} (h : ∀ a ∈ l, a.message = none) :
    Mute s (s.record l) := by
  have hnone : l.filterMap Action.message = [] := List.filterMap_eq_nil_iff.2 h
  rw [Mute, MainState.messages, tell_record, hnone, List.append_nil]
  rfl

theorem mute_created (s : MainState) (objects : List Object) :
    Mute s (s.record (objects.map .created)) :=
  mute_record s fun a ha => by
    obtain ⟨o, -, rfl⟩ := List.mem_map.1 ha
    rfl

theorem act_mute {action : Action} (h : action.message = none) : (act action).Moves Mute :=
  fun s => mute_record s fun a ha => by rw [List.mem_singleton.1 ha, h]

theorem assertions_mute {α : Type} (r : Except Fault α) : (assertions r).Moves Mute :=
  fun s => Std.Refl.refl s

theorem trigger_mute (w : World) (event : Event) : (trigger w event).Moves Mute := by
  unfold trigger
  refine (act_mute rfl).bind fun _ => Proc.Moves.get.bind fun s => ?_
  exact Proc.Moves.forM fun _ _ => act_mute rfl

theorem createAll_mute (objects : List Object) : (createAll objects).Moves Mute :=
  Proc.Moves.forM fun _ _ => act_mute rfl

theorem destroyAll_mute (objects : List Object) : (destroyAll objects).Moves Mute :=
  Proc.Moves.forM fun _ _ => act_mute rfl

section

variable (w : World)

theorem createLocals_mute : (createLocals w).Moves Mute := by
  unfold createLocals
  split
  · exact (assertions_mute _).bind fun _ => createAll_mute _
  · exact createAll_mute _

theorem initBase_mute : (initBase w).Moves Mute := (act_mute rfl).bind fun _ => .pure _

theorem pluginInit_mute : (ScopedPluginEnvironment.init w).Moves Mute := by
  unfold ScopedPluginEnvironment.init
  refine (assertions_mute _).bind fun _ => ?_
  split
  · exact (assertions_mute _).bind fun _ => .pure _
  · refine (trigger_mute w _).bind fun _ => (assertions_mute _).bind fun _ => ?_
    refine (assertions_mute _).bind fun _ => (assertions_mute _).bind fun _ => ?_
    exact (trigger_mute w _).bind fun _ => .pure _

theorem initClang_mute : (initClang w).Moves Mute := fun _ => mute_created _ _

theorem initCling_mute : (initCling w).Moves Mute :=
  Proc.Moves.get.bind fun _ _ => mute_created _ _

theorem registerClingInterpreter_mute : (registerClingInterpreter w).Moves Mute := by
  unfold registerClingInterpreter
  refine Proc.Moves.get.bind fun s => ?_
  exact (assertions_mute _).bind fun _ => trigger_mute w _

theorem registerAnnotationMethods_mute : (registerAnnotationMethods w).Moves Mute := by
  unfold registerAnnotationMethods
  refine Proc.Moves.get.bind fun s => ?_
  exact (assertions_mute _).bind fun _ => (assertions_mute _).bind fun _ => trigger_mute w _

theorem processSource_mute (run : SourceRun) : (processSource w run).Moves Mute := by
  unfold processSource
  split
  · exact Proc.Moves.bind (fun s => rfl) fun _ =>
      Proc.Moves.get.bind fun s => act_mute rfl
  · exact .pure _

theorem clangTool_run_mute (args : List Str) : (ClangTool.run w args).Moves Mute := by
  unfold ClangTool.run
  refine (act_mute rfl).bind fun _ => (assertions_mute _).bind fun _ => ?_
  refine (assertions_mute _).bind fun _ => ?_
  split
  · exact .throw _
  · exact (assertions_mute _).bind fun _ =>
      (Proc.Moves.forM fun run _ => processSource_mute w run).bind fun _ => act_mute rfl

theorem runClangLibTooling_mute : (runClangLibTooling w).Moves Mute := by
  unfold runClangLibTooling
  refine Proc.Moves.get.bind fun s => ?_
  exact (assertions_mute _).bind fun _ => (assertions_mute _).bind fun _ => clangTool_run_mute w _

theorem handleCmdOptions_mute : (handleCmdOptions w).Moves Mute := by
  unfold handleCmdOptions
  split
  · exact (assertions_mute _).bind fun _ => (trigger_mute w _).bind fun _ => .pure _
  · split
    · exact (trigger_mute w _).bind fun _ => (runClangLibTooling_mute w).bind fun _ => .pure _
    · exact .pure _

theorem destroyLocals_mute : (destroyLocals w).Moves Mute := by
  unfold destroyLocals ScopedPluginEnvironment.destroy
  refine Proc.Moves.get.bind fun s => (destroyAll_mute _).bind fun _ => ?_
  refine (destroyAll_mute _).bind fun _ => Proc.Moves.bind ?_ fun _ => destroyAll_mute _
  exact (trigger_mute w _).bind fun _ => destroyAll_mute _

end

/-! ## What is said, and when -/

/-- What `checkCompileCommands` complains of. -/
def World.databaseComplaint (w : World) : List Message :=
  if w.hasCompileCommands then [(.error, w.compileCommandsMessage)] else []

/-- What `initEnv` says of the first environment that cannot be created, after all it says
before. -/
def World.refusal (w : World) : List Message :=
  if ¬ (w.host.dirExe.isSome ∧ w.parsed.isSome) then
    [(.error, "Unable to create command-line environment".toList)]
  else if w.baseInit w.baseInitArgs = false then
    [(.error, "Unable to create application environment".toList)]
  else
    w.databaseComplaint ++ [(.error, "Unable to create clang environment".toList)]

/-- This was said so far. -/
def Said (messages : List Message) (s : MainState) : Prop := s.messages = messages

/-- What was said when a run is stopped. -/
def World.SaidAtStop (w : World) (_ : Stop) (s : MainState) : Prop :=
  Said [] s ∨ Said w.databaseComplaint s

/-- What was said when `initEnv` returns. -/
def World.SaidByInit (w : World) (exit : Option ℤ) (s : MainState) : Prop :=
  (exit = none ∧ Said w.databaseComplaint s) ∨ (exit = some exitFailure ∧ Said w.refusal s)

section

variable {w : World}

theorem said_record (s : MainState) (severity : Severity) (message : Str) {messages : List Message}
    (h : Said messages s) :
    Said (messages ++ [(severity, message)]) (s.record [.log severity message]) :=
  (tell_record s _).trans (congrArg (· ++ [(severity, message)]) h)

/-- A step that says nothing, and what is known of the values it returns. -/
theorem triple_of_mute {α : Type} {p : MainProc α} (h : p.Moves Mute) {messages : List Message}
    (hstop : messages = [] ∨ messages = w.databaseComplaint) {Q : α → Prop}
    (hreturns : ∀ s a, (p.exec s).1 = .ok a → Q a) :
    Triple (Said messages) p (fun a s => Q a ∧ Said messages s) w.SaidAtStop := by
  intro s hs
  have hsaid : Said messages (p.exec s).2 := (h s).trans hs
  have hvalue := hreturns s
  generalize p.exec s = ended at hsaid hvalue ⊢
  rcases ended with ⟨stop | a, s'⟩
  · rcases hstop with rfl | rfl
    · exact Or.inl hsaid
    · exact Or.inr hsaid
  · exact ⟨hvalue a rfl, hsaid⟩

/-- Such a step, and then the rest. -/
theorem triple_mute_bind {α β : Type} {p : MainProc α} (h : p.Moves Mute) {messages : List Message}
    (hstop : messages = [] ∨ messages = w.databaseComplaint) {f : α → MainProc β}
    {R : β → MainState → Prop} (hf : ∀ a, Triple (Said messages) (f a) R w.SaidAtStop) :
    Triple (Said messages) (p >>= f) R w.SaidAtStop :=
  (triple_of_mute h hstop (Q := fun _ => True) fun _ _ _ => trivial).bind fun a =>
    (hf a).strengthen fun _ hs => hs.2

theorem triple_checkCompileCommands_said :
    Triple (Said []) (checkCompileCommands w) (fun _ => Said w.databaseComplaint)
      w.SaidAtStop := by
  simp only [checkCompileCommands, World.databaseComplaint]
  split
  · exact fun s hs => said_record s .error _ hs
  · exact Triple.pure fun s hs => hs

/-- One environment after the other, which is the first to be refused if it is. -/
theorem triple_require_said {messages : List Message} {envCreated : MainProc Bool}
    {message : Str} {next : MainProc (Option ℤ)} (created : Prop)
    (henv : Triple (Said messages) envCreated (fun b s => ((b = true → created) ∧
      (b = false → w.refusal = messages ++ [(.error, message)])) ∧ Said messages s) w.SaidAtStop)
    (hnext : created → Triple (Said messages) next w.SaidByInit w.SaidAtStop) :
    Triple (Said messages) (require envCreated message next) w.SaidByInit w.SaidAtStop := by
  unfold require
  refine henv.bind fun b => Triple.of_imp fun hb => ?_
  cases b with
  | true => exact hnext (hb.1 rfl)
  | false =>
    intro s hs
    right
    rw [hb.2 rfl]
    exact ⟨rfl, said_record s .error message hs⟩

theorem refusal_of_cmdInit (h : ScopedCmdEnvironment.init w = .ok false) :
    w.refusal = [(.error, "Unable to create command-line environment".toList)] :=
  if_pos (cmdInit_eq_ok_false_iff.1 h).2

theorem refusal_of_baseInit (h : ScopedCmdEnvironment.init w = .ok true)
    (hbase : w.baseInit w.baseInitArgs = false) :
    w.refusal = [(.error, "Unable to create application environment".toList)] := by
  rw [World.refusal, if_neg (not_not.2 (cmdInit_eq_ok_true_iff.1 h).2), if_pos hbase]

theorem refusal_of_clangInit (h : ScopedCmdEnvironment.init w = .ok true)
    (hbase : w.baseInit w.baseInitArgs = true) :
    w.refusal =
      w.databaseComplaint ++ [(.error, "Unable to create clang environment".toList)] := by
  rw [World.refusal, if_neg (not_not.2 (cmdInit_eq_ok_true_iff.1 h).2),
    if_neg (by rw [hbase]; exact Bool.noConfusion)]

/-- Where the directory of the tool is known, the environment for plugins is created or an assertion
fails. -/
theorem pluginInit_ne_ok_false (h : ScopedCmdEnvironment.init w = .ok true) :
    w.pluginInit ≠ .ok false := by
  intro hplugin
  have hdir := (cmdInit_eq_ok_true_iff.1 h).2.1
  rw [(pluginInit_eq_ok_false_iff.1 hplugin).2] at hdir
  exact absurd hdir Bool.false_ne_true

variable (w)

theorem triple_registrations_said :
    Triple (Said w.databaseComplaint)
      (registerAnnotationMethods w >>= fun _ => (pure none : MainProc (Option ℤ)))
      w.SaidByInit w.SaidAtStop :=
  triple_mute_bind (registerAnnotationMethods_mute w) (Or.inr rfl) fun _ =>
    Triple.pure fun _ hs => Or.inl ⟨rfl, hs⟩

/-- The complaint about Cling is the one about clang. -/
theorem triple_initEnv_said : Triple (Said []) (initEnv w) w.SaidByInit w.SaidAtStop := by
  have hempty : ([] : List Message) = [] ∨ [] = w.databaseComplaint := Or.inl rfl
  have hcomplaint : w.databaseComplaint = [] ∨ w.databaseComplaint = w.databaseComplaint :=
    Or.inr rfl
  unfold initEnv
  refine triple_require_said (ScopedCmdEnvironment.init w = .ok true)
    (triple_of_mute (assertions_mute _) hempty fun s b h => ?_) fun hcmd => ?_
  · have hcmd : ScopedCmdEnvironment.init w = .ok b := Loops.mapError_eq_ok_iff.1 h
    exact ⟨fun hb => hb ▸ hcmd, fun hb => refusal_of_cmdInit (hb ▸ hcmd)⟩
  refine triple_require_said (w.baseInit w.baseInitArgs = true)
    (triple_of_mute (initBase_mute w) hempty fun s b h => ?_) fun hbase => ?_
  · have hbase : w.baseInit w.baseInitArgs = b := Except.ok.inj h
    exact ⟨fun hb => hb ▸ hbase, fun hb => refusal_of_baseInit hcmd (hb ▸ hbase)⟩
  refine triple_require_said True
    (triple_of_mute (pluginInit_mute w) hempty fun s b h => ?_) fun _ => ?_
  · obtain ⟨s', hexec, -⟩ := exec_pluginInit w s
    rw [hexec] at h
    have hplugin : w.pluginInit = .ok b := Loops.mapError_eq_ok_iff.1 h
    exact ⟨fun _ => trivial, fun hb => absurd (hb ▸ hplugin) (pluginInit_ne_ok_false hcmd)⟩
  refine triple_checkCompileCommands_said.bind fun _ => ?_
  have hrefused := refusal_of_clangInit hcmd hbase
  refine triple_require_said True (triple_of_mute (initClang_mute w) hcomplaint fun _ _ _ =>
    ⟨fun _ => trivial, fun _ => hrefused⟩) fun _ => ?_
  split
  · refine triple_require_said True (triple_of_mute (initCling_mute w) hcomplaint fun _ _ _ =>
      ⟨fun _ => trivial, fun _ => hrefused⟩) fun _ => ?_
    exact triple_mute_bind (registerClingInterpreter_mute w) hcomplaint fun _ =>
      triple_registrations_said w
  · exact triple_registrations_said w

/-- The message of `main` when an environment was refused. -/
def exitedMessage : Message := (.warning, "exited during environment creation".toList)

/-- What was said when `main` returns this code. -/
def World.SaidByMain (w : World) (code : ℤ) (s : MainState) : Prop :=
  (code = exitSuccess ∧ Said w.databaseComplaint s) ∨
    (code = exitFailure ∧ Said (w.refusal ++ [exitedMessage]) s)

/-- The destructors say nothing, and the code stays the same. -/
theorem triple_destroyLocals_said (messages : List Message) (code : ℤ) :
    Triple (Said messages) (destroyLocals w >>= fun _ => (pure code : MainProc ℤ))
      (fun code' s => code' = code ∧ Said messages s) w.SaidAtStop := by
  intro s hs
  have hmute := destroyLocals_mute w s
  rw [exec_destroyLocals] at hmute
  rw [Proc.exec_bind_ok (exec_destroyLocals ..), Proc.exec_pure]
  exact ⟨rfl, hmute.trans hs⟩

theorem handleCmdOptions_returns {s : MainState} {exit : Option ℤ}
    (h : ((handleCmdOptions w).exec s).1 = .ok exit) : exit = none ∨ exit = some exitSuccess := by
  unfold handleCmdOptions handleVersionCmd handleHelpCmd at h
  split at h
  · obtain ⟨_, s₁, -, h⟩ := Proc.returns_bind_iff.1 h
    obtain ⟨_, s₂, -, h⟩ := Proc.returns_bind_iff.1 h
    exact Or.inr (Except.ok.inj h).symm
  · split at h
    · obtain ⟨_, s₁, -, h⟩ := Proc.returns_bind_iff.1 h
      obtain ⟨_, s₂, -, h⟩ := Proc.returns_bind_iff.1 h
      exact Or.inr (Except.ok.inj h).symm
    · exact Or.inl (Except.ok.inj h).symm

theorem triple_main_said : Triple (Said []) (main w) w.SaidByMain w.SaidAtStop := by
  have hreturn : Triple (Said w.databaseComplaint)
      (destroyLocals w >>= fun _ => (pure exitSuccess : MainProc ℤ)) w.SaidByMain w.SaidAtStop :=
    (triple_destroyLocals_said w _ exitSuccess).weaken fun _ _ hs => Or.inl hs
  unfold main
  refine triple_mute_bind (assertions_mute _) (Or.inl rfl) fun _ => ?_
  refine triple_mute_bind (createLocals_mute w) (Or.inl rfl) fun _ => ?_
  refine (triple_initEnv_said w).bind fun exit => ?_
  rintro s (⟨rfl, hs⟩ | ⟨rfl, hs⟩)
  · refine (triple_of_mute (handleCmdOptions_mute w) (Or.inr rfl) fun s exit =>
      handleCmdOptions_returns w).bind (fun exit => Triple.of_imp fun hexit => ?_) s hs
    rcases hexit with rfl | rfl
    · exact triple_mute_bind (runClangLibTooling_mute w) (Or.inr rfl) fun _ => hreturn
    · exact hreturn
  · have hlogged : Triple (Said w.refusal)
        (act (.log .warning "exited during environment creation".toList))
        (fun _ => Said (w.refusal ++ [exitedMessage])) w.SaidAtStop :=
      fun s hs => said_record s .warning _ hs
    refine hlogged.bind (fun _ => ?_) s hs
    exact (triple_destroyLocals_said w _ exitFailure).weaken fun _ _ hs => Or.inr hs

end

/-- A run that returns `EXIT_FAILURE` says which environment was the first to be refused, and then
that it exited.  Whatever else a run comes to, it complains of nothing but a compilation database,
and always does when it returns. -/
theorem main_messages (w : World) (files : FilePath → Option Str) :
    let ended := (main w).exec (.start files)
    (ended.1 = .ok exitSuccess → ended.2.messages = w.databaseComplaint) ∧
      (ended.1 = .ok exitFailure → ended.2.messages = w.refusal ++ [exitedMessage]) ∧
      ∀ stop, ended.1 = .error stop →
        ended.2.messages = [] ∨ ended.2.messages = w.databaseComplaint := by
  have hends := triple_main_said w (.start files) rfl
  generalize (main w).exec (.start files) = ended at hends ⊢
  rcases ended with ⟨stop | code, s⟩
  · exact ⟨fun h => by simp at h, fun h => by simp at h, fun _ _ => hends⟩
  · refine ⟨fun h => ?_, fun h => ?_, fun _ h => by simp at h⟩
    · rcases hends with ⟨-, hs⟩ | ⟨hcode, -⟩
      · exact hs
      · exact absurd ((Except.ok.inj h).symm.trans hcode) (by decide)
    · rcases hends with ⟨hcode, -⟩ | ⟨-, hs⟩
      · exact absurd ((Except.ok.inj h).symm.trans hcode) (by decide)
      · exact hs

end Flextool
