import Flextool.Main
import Flextool.SaveFileProof

/-!
# What `main` does

The steps of `initEnv` only do things that plugins and users cannot tell (`Action.quiet`), and
their outcomes are a function of the world alone (`World.initOutcome`).  A run of `main` that
returns therefore has one of four shapes: see `exec_main_of_initFailed` and the lemmas after it.
-/

namespace Flextool

open Loops

/-- The action neither starts, hands out, destroys, commands nor runs anything. -/
def Action.quiet : Action → Bool
  | .created _ | .log .. | .triggered .plugin _ => true
  | .triggered .main (.init _) | .triggered .main (.startup ..) => true
  | _ => false

/-- Only such actions were added to the trace. -/
def Traced (P : Action → Bool) (s s' : MainState) : Prop :=
  Proc.Extends MainState.trace (fun a => P a = true) s s'

instance (P : Action → Bool) : Std.Refl (Traced P) :=
  inferInstanceAs (Std.Refl (Proc.Extends MainState.trace fun a => P a = true))

instance (P : Action → Bool) : IsTrans MainState (Traced P) :=
  inferInstanceAs (IsTrans MainState (Proc.Extends MainState.trace fun a => P a = true))

theorem Traced.mono {P Q : Action → Bool} (h : ∀ a, P a = true → Q a = true) {s s' : MainState} :
    Traced P s s' → Traced Q s s' := fun ⟨t, ht, hP⟩ => ⟨t, ht, fun a ha => h a (hP a ha)⟩

/-- Nothing but quiet actions was added, and the rest of the state is as it was. -/
structure QuietStep (s s' : MainState) : Prop where
  trace : Traced Action.quiet s s'
  clangEnv : s'.clangEnv = s.clangEnv
  clingEnv : s'.clingEnv = s.clingEnv
  save : s'.save = s.save

instance : Std.Refl QuietStep := ⟨fun s => ⟨Std.Refl.refl s, rfl, rfl, rfl⟩⟩

instance : IsTrans MainState QuietStep :=
  ⟨fun _ _ _ h h' => ⟨IsTrans.trans _ _ _ h.trace h'.trace, h'.clangEnv.trans h.clangEnv,
    h'.clingEnv.trans h.clingEnv, h'.save.trans h.save⟩⟩

/-! ## Recording actions -/

@[simp] theorem record_trace (s : MainState) (l : List Action) :
    (s.record l).trace = s.trace ++ l := rfl

@[simp] theorem record_clingEnv (s : MainState) (l : List Action) :
    (s.record l).clingEnv = s.clingEnv := rfl

@[simp] theorem record_save (s : MainState) (l : List Action) : (s.record l).save = s.save := rfl

theorem record_record (s : MainState) (l l' : List Action) :
    (s.record l).record l' = s.record (l ++ l') := by
  simp [MainState.record]

theorem record_nil (s : MainState) : s.record [] = s := by
  simp [MainState.record]

theorem quietStep_record (s : MainState) {l : List Action} (h : ∀ a ∈ l, a.quiet = true) :
    QuietStep s (s.record l) := ⟨⟨l, rfl, h⟩, rfl, rfl, rfl⟩

@[simp] theorem exec_act (action : Action) (s : MainState) :
    (act action).exec s = (.ok (), s.record [action]) := rfl

theorem exec_forM_act {α : Type} (f : α → Action) (l : List α) (s : MainState) :
    (l.forM fun a => act (f a)).exec s = (.ok (), s.record (l.map f)) := by
  induction l generalizing s with
  | nil => rw [List.map_nil, record_nil]; rfl
  | cons a l ih => rw [Proc.forM_cons, Proc.exec_bind_ok (exec_act ..), ih, record_record]; rfl

@[simp] theorem exec_createAll (objects : List Object) (s : MainState) :
    (createAll objects).exec s = (.ok (), s.record (objects.map .created)) := exec_forM_act ..

@[simp] theorem exec_destroyAll (objects : List Object) (s : MainState) :
    (destroyAll objects).exec s = (.ok (), s.record (objects.map .destroyed)) := exec_forM_act ..

/-- What an event adds to the trace: itself, and what plugins trigger while it is delivered. -/
def World.deliveries (w : World) (s : MainState) (event : Event) : List Action :=
  .triggered .main event ::
    (w.reactions (s.trace ++ [.triggered .main event]) event).map (.triggered .plugin)

@[simp] theorem exec_trigger (w : World) (event : Event) (s : MainState) :
    (trigger w event).exec s = (.ok (), s.record (w.deliveries s event)) := by
  unfold trigger
  rw [Proc.exec_bind_ok (exec_act ..), Proc.exec_get_bind, exec_forM_act, record_record]
  rfl

@[simp] theorem exec_assertions {α : Type} (r : Except Fault α) (s : MainState) :
    (assertions r).exec s = (r.mapError .fault, s) := rfl

theorem quietStep_deliveries (w : World) (s : MainState) {event : Event}
    (h : (Action.triggered .main event).quiet = true) :
    QuietStep s (s.record (w.deliveries s event)) := by
  apply quietStep_record s
  intro a ha
  rcases List.mem_cons.1 ha with rfl | ha
  · exact h
  · obtain ⟨e, -, rfl⟩ := List.mem_map.1 ha
    rfl

@[simp] theorem exec_assertions_ok_bind {α β : Type} (a : α) (f : α → MainProc β)
    (s : MainState) : (assertions (.ok a) >>= f).exec s = (f a).exec s := Proc.exec_bind_ok rfl f

@[simp] theorem exec_assertions_error_bind {α β : Type} (e : Fault) (f : α → MainProc β)
    (s : MainState) : (assertions (.error e) >>= f).exec s = (.error (.fault e), s) :=
  Proc.exec_bind_error rfl f

@[simp] theorem exec_trigger_bind {β : Type} (w : World) (event : Event) (f : Unit → MainProc β)
    (s : MainState) :
    (trigger w event >>= f).exec s = (f ()).exec (s.record (w.deliveries s event)) :=
  Proc.exec_bind_ok (exec_trigger w event s) f

@[simp] theorem mapError_ok {α ε ε' : Type} (a : α) (f : ε → ε') :
    (Except.ok a : Except ε α).mapError f = .ok a := rfl

@[simp] theorem mapError_error {α ε ε' : Type} (e : ε) (f : ε → ε') :
    (Except.error e : Except ε α).mapError f = .error (f e) := rfl

/-! ## The outcomes of the steps of `initEnv` -/

/-- How `plugin_env.init` ends. -/
def World.pluginInit (w : World) : Except Fault Bool := do
  dcheck w.build (0 < w.argc)
  match w.host.dirExe with
  | none =>
    notReached w.build
    return false
  | some dirExe =>
    check (w.curDir = w.outDir)
    dcheck w.build
      (!(w.commandLine.pluginsDir w.host w.kDefaultPluginsDirName dirExe).isEmpty)
    dcheck w.build
      (!(w.commandLine.pluginsConfigFile w.host w.kPluginsConfigFileName dirExe).isEmpty)
    return true

/-- `clang_env.init`, as it is called. -/
def World.clangProc (w : World) : Proc Fault ScopedClangEnvironment Bool :=
  ScopedClangEnvironment.init w.build w.host w.baseSwitches w.commandLine

/-- What it returns and leaves. -/
def World.clangInit (w : World) : Except Fault (Bool × ScopedClangEnvironment) :=
  w.clangProc.result .new

/-- `cling_env.init`, as it is called with these arguments. -/
def World.clingProc (w : World) (clingExtraArgs : List Str) :
    Proc Fault ScopedClingEnvironment Bool :=
  ScopedClingEnvironment.init w.build w.host w.commandLine.clingScripts clingExtraArgs

/-- What it returns and leaves. -/
def World.clingInit (w : World) (clingExtraArgs : List Str) :
    Except Fault (Bool × ScopedClingEnvironment) :=
  (w.clingProc clingExtraArgs).result .new

/-- Whether all the environments are created. -/
def World.initOutcome (w : World) : Except Fault Bool := do
  if !(← ScopedCmdEnvironment.init w) then
    return false
  else if !w.baseInit w.baseInitArgs then
    return false
  else if !(← w.pluginInit) then
    return false
  else
    let (clangCreated, clangEnv) ← w.clangInit
    if !clangCreated then
      return false
    else if w.build.clingIsOn then
      let (clingCreated, _) ← w.clingInit clangEnv.clingExtraArgs
      return clingCreated
    else
      return true

theorem exec_pluginInit (w : World) (s : MainState) :
    ∃ s', (ScopedPluginEnvironment.init w).exec s = (w.pluginInit.mapError .fault, s') ∧
      QuietStep s s' := by
  unfold ScopedPluginEnvironment.init World.pluginInit
  cases dcheck w.build (0 < w.argc) with
  | error fault => exact ⟨s, by simp, Std.Refl.refl s⟩
  | ok u =>
    cases w.host.dirExe with
    | none =>
      cases notReached w.build with
      | error fault => exact ⟨s, by simp, Std.Refl.refl s⟩
      | ok u => exact ⟨s, by simp, Std.Refl.refl s⟩
    | some dirExe =>
      simp only [exec_assertions_ok_bind, exec_trigger_bind, ok_bind]
      have hinit : QuietStep s (s.record (w.deliveries s (.init w.argc))) :=
        quietStep_deliveries w s rfl
      generalize s.record (w.deliveries s (.init w.argc)) = s₁ at hinit
      cases check (w.curDir = w.outDir) with
      | error fault => exact ⟨s₁, by simp, hinit⟩
      | ok u =>
        generalize w.commandLine.pluginsDir w.host w.kDefaultPluginsDirName dirExe = pluginsDir
        cases dcheck w.build (!pluginsDir.isEmpty) with
        | error fault => exact ⟨s₁, by simp, hinit⟩
        | ok u =>
          generalize w.commandLine.pluginsConfigFile w.host w.kPluginsConfigFileName dirExe = config
          cases dcheck w.build (!config.isEmpty) with
          | error fault => exact ⟨s₁, by simp, hinit⟩
          | ok u =>
            rw [exec_assertions_ok_bind, exec_assertions_ok_bind, exec_assertions_ok_bind,
              exec_trigger_bind]
            exact ⟨_, rfl, IsTrans.trans _ _ _ hinit (quietStep_deliveries w s₁ rfl)⟩

theorem exec_checkCompileCommands (w : World) (s : MainState) :
    ∃ s', (checkCompileCommands w).exec s = (.ok (), s') ∧ QuietStep s s' := by
  simp only [checkCompileCommands]
  split
  · exact ⟨_, exec_act .., quietStep_record s fun a ha => by rw [List.mem_singleton.1 ha]; rfl⟩
  · exact ⟨s, rfl, Std.Refl.refl s⟩

/-- However `clang_env.init` ends, the environment is filled, and its objects are created. -/
theorem exec_initClang (w : World) {s : MainState} (hs : s.clangEnv = .new) :
    (initClang w).exec s = match w.clangInit with
      | .error fault => (.error (.fault fault), s.putClang (w.clangProc.exec .new).2)
      | .ok (envCreated, clangEnv) => (.ok envCreated, s.putClang clangEnv) := by
  rw [initClang, Proc.exec_onPart, hs, ← World.clangProc, World.clangInit, Proc.result]
  rcases w.clangProc.exec .new with ⟨fault | envCreated, clangEnv⟩
  · rfl
  · rfl

/-- However `cling_env.init` ends, the environment is filled, and its interpreter is created. -/
theorem exec_initCling (w : World) {s : MainState} (hs : s.clingEnv = .new) :
    (initCling w).exec s = match w.clingInit s.clangEnv.clingExtraArgs with
      | .error fault => (.error (.fault fault),
          s.putCling ((w.clingProc s.clangEnv.clingExtraArgs).exec .new).2)
      | .ok (envCreated, clingEnv) => (.ok envCreated, s.putCling clingEnv) := by
  rw [initCling, Proc.exec_get_bind, Proc.exec_onPart, hs, ← World.clingProc, World.clingInit,
    Proc.result]
  rcases (w.clingProc s.clangEnv.clingExtraArgs).exec .new with ⟨fault | envCreated, clingEnv⟩
  · rfl
  · rfl

theorem exec_require (p : MainProc Bool) (message : Str) (next : MainProc (Option ℤ))
    (s : MainState) :
    (require p message next).exec s = match p.exec s with
      | (.ok true, s') => next.exec s'
      | (.ok false, s') => (.ok (some exitFailure), s'.record [.log .error message])
      | (.error stop, s') => (.error stop, s') := by
  unfold require
  rw [Proc.exec_bind]
  rcases p.exec s with ⟨stop | ⟨_ | _⟩, s'⟩
  · rfl
  · rfl
  · rfl

/-! ## `initEnv` -/

/-- The action is quiet, or registers something with the plugins. -/
def Action.silent : Action → Bool
  | .triggered .main (.registerClingInterpreter _) => true
  | .triggered .main (.registerAnnotationMethods ..) => true
  | a => a.quiet

theorem Action.silent_of_quiet (a : Action) (h : a.quiet = true) : a.silent = true := by
  cases a with
  | triggered sender event => cases sender <;> cases event <;> simp_all [silent, quiet]
  | _ => simp_all [silent]

/-! ### What a trace tells -/

/-- What `g` reads off the actions of a run. -/
def MainState.tell {β : Type} (g : Action → Option β) (s : MainState) : List β :=
  s.trace.filterMap g

/-- The reader overlooks what `initEnv` and plugins do, and the destructors of `main`. -/
structure Overlooks {β : Type} (g : Action → Option β) : Prop where
  silent : ∀ a, a.silent = true → g a = none
  destroyed : ∀ o, g (.destroyed o) = none
  shutdown : g (.triggered .main .shutdown) = none

section Tell

variable {β : Type} {g : Action → Option β}

theorem tell_record (s : MainState) (l : List Action) :
    (s.record l).tell g = s.tell g ++ l.filterMap g := List.filterMap_append ..

theorem tell_of_traced {P : Action → Bool} (h : ∀ a, P a = true → g a = none)
    {s s' : MainState} (hs : Traced P s s') : s'.tell g = s.tell g := by
  obtain ⟨t, ht, hP⟩ := hs
  have hnone : t.filterMap g = [] := List.filterMap_eq_nil_iff.2 fun a ha => h a (hP a ha)
  unfold MainState.tell
  rw [ht, List.filterMap_append, hnone, List.append_nil]

theorem Overlooks.quiet (hg : Overlooks g) (a : Action) (h : a.quiet = true) : g a = none :=
  hg.silent a (a.silent_of_quiet h)

/-- Of an event, nothing is told but what the reader sees in the event itself. -/
theorem tell_deliveries (hg : Overlooks g) (w : World) (s : MainState) (event : Event) :
    (s.record (w.deliveries s event)).tell g =
      s.tell g ++ (g (.triggered .main event)).toList := by
  have hplugin : ((w.reactions (s.trace ++ [.triggered .main event]) event).map
      (Action.triggered .plugin)).filterMap g = [] := by
    rw [List.filterMap_eq_nil_iff]
    intro a ha
    obtain ⟨e, -, rfl⟩ := List.mem_map.1 ha
    exact hg.silent _ rfl
  rw [tell_record, World.deliveries, List.filterMap_cons, hplugin]
  cases g (.triggered .main event) <;> rfl

end Tell

/-- The last thing that `initEnv` does when all environments are created. -/
def registration : Action :=
  .triggered .main (.registerAnnotationMethods .annotationMethods .sourceTransformPipeline)

/-- The environments are as `initEnv` leaves them when it succeeds. -/
def World.Initialised (w : World) (s : MainState) : Prop := w.clangInit = .ok (true, s.clangEnv)

theorem World.Initialised.record {w : World} {s : MainState} (h : w.Initialised s)
    (l : List Action) : w.Initialised (s.record l) := h

/-- How a part of `initEnv` that began in `s` ended, given the outcome of its steps. -/
def InitEnds (w : World) (s : MainState) (outcome : Except Fault Bool)
    (ended : Except Stop (Option ℤ) × MainState) : Prop :=
  match outcome with
  | .error fault => ended.1 = .error (.fault fault)
  | .ok false => ∃ s', ended = (.ok (some exitFailure), s') ∧ Traced Action.quiet s s'
  | .ok true => ∃ s', ended = (.ok none, s') ∧ Traced Action.silent s s' ∧ s'.save = s.save ∧
      registration ∈ s'.trace ∧ w.Initialised s'

theorem InitEnds.of_quiet {w : World} {s s₁ : MainState} {outcome : Except Fault Bool}
    {ended : Except Stop (Option ℤ) × MainState} (htrace : Traced Action.quiet s s₁)
    (hsave : s₁.save = s.save) (h : InitEnds w s₁ outcome ended) : InitEnds w s outcome ended := by
  match outcome, h with
  | .error fault, h => exact h
  | .ok false, ⟨s', hended, hs'⟩ => exact ⟨s', hended, IsTrans.trans _ _ _ htrace hs'⟩
  | .ok true, ⟨s', hended, hs', hsave', hrest⟩ =>
    exact ⟨s', hended, IsTrans.trans _ _ _ (htrace.mono Action.silent_of_quiet) hs',
      hsave'.trans hsave, hrest⟩

theorem InitEnds.of_silent {w : World} {s s₁ : MainState}
    {ended : Except Stop (Option ℤ) × MainState} (htrace : Traced Action.silent s s₁)
    (hsave : s₁.save = s.save) : InitEnds w s₁ (.ok true) ended → InitEnds w s (.ok true) ended :=
  fun ⟨s', hended, hs', hsave', hrest⟩ =>
    ⟨s', hended, IsTrans.trans _ _ _ htrace hs', hsave'.trans hsave, hrest⟩

/-- One environment after the other; `s₀` is where the trace is looked at from. -/
theorem InitEnds.require {w : World} {s₀ s s₁ : MainState} {p : MainProc Bool}
    {r : Except Fault Bool} (hp : p.exec s = (r.mapError .fault, s₁))
    (htrace : Traced Action.quiet s₀ s₁) (hsave : s₁.save = s₀.save) {outcome : Except Fault Bool}
    {next : MainProc (Option ℤ)} (hnext : r = .ok true → InitEnds w s₁ outcome (next.exec s₁))
    (message : Str) :
    InitEnds w s₀ (do if !(← r) then return false else outcome)
      ((Flextool.require p message next).exec s) := by
  rw [exec_require, hp]
  match r with
  | .error fault => rfl
  | .ok false =>
    exact ⟨_, rfl, IsTrans.trans _ _ _ htrace
      ⟨_, rfl, fun a ha => by rw [List.mem_singleton.1 ha]; rfl⟩⟩
  | .ok true => exact (hnext rfl).of_quiet htrace hsave

theorem traced_created (s : MainState) (objects : List Object) :
    Traced Action.quiet s (s.record (objects.map .created)) :=
  ⟨_, rfl, fun a ha => by
    obtain ⟨o, -, rfl⟩ := List.mem_map.1 ha
    rfl⟩

/-- The registrations at the end of `initEnv`. -/
theorem exec_registerAnnotationMethods (w : World) {s : MainState}
    (hmethods : s.clangEnv.owns .annotationMethods = true)
    (hpipeline : s.clangEnv.owns .sourceTransformPipeline = true) :
    (registerAnnotationMethods w).exec s = (.ok (), s.record (w.deliveries s
      (.registerAnnotationMethods .annotationMethods .sourceTransformPipeline))) := by
  unfold registerAnnotationMethods
  rw [Proc.exec_get_bind, dcheck_of_true _ hmethods,
    dcheck_of_true _ hpipeline, exec_assertions_ok_bind, exec_assertions_ok_bind, exec_trigger]

theorem exec_registerClingInterpreter (w : World) {s : MainState}
    (h : s.clingEnv.clingInterpreter.isSome = true) :
    (registerClingInterpreter w).exec s =
      (.ok (), s.record (w.deliveries s (.registerClingInterpreter .clingInterpreter))) := by
  unfold registerClingInterpreter
  rw [Proc.exec_get_bind, dcheck_of_true _ h, exec_assertions_ok_bind,
    exec_trigger]

theorem traced_deliveries (w : World) (s : MainState) {event : Event}
    (h : (Action.triggered .main event).silent = true) :
    Traced Action.silent s (s.record (w.deliveries s event)) := by
  refine ⟨_, rfl, fun a ha => ?_⟩
  rcases List.mem_cons.1 ha with rfl | ha
  · exact h
  · obtain ⟨e, -, rfl⟩ := List.mem_map.1 ha
    rfl

/-- `initEnv` ends with the registration of the annotation methods. -/
theorem registerAnnotationMethods_ends (w : World) {s : MainState}
    (hinit : w.Initialised s) :
    InitEnds w s (.ok true)
      ((registerAnnotationMethods w >>= fun _ => (pure none : MainProc (Option ℤ))).exec s) := by
  obtain ⟨-, args, -, henv⟩ := (ScopedClangEnvironment.init_eq_ok_true_iff ..).1 hinit
  have hexec := exec_registerAnnotationMethods w (s := s) (by rw [henv]; rfl) (by rw [henv]; rfl)
  refine ⟨_, Proc.exec_bind_ok hexec _, traced_deliveries w s rfl, rfl, ?_, hinit⟩
  exact List.mem_append_right _ (List.mem_cons_self ..)

/-- With Cling, the interpreter is registered before. -/
theorem initCling_ends (w : World) {s : MainState} (hon : w.build.clingIsOn = true)
    (hcling : s.clingEnv = .new) (hinit : w.Initialised s) (message : Str) :
    InitEnds w s
      (do let (clingCreated, _) ← w.clingInit s.clangEnv.clingExtraArgs; return clingCreated)
      ((Flextool.require (initCling w) message do
          registerClingInterpreter w
          registerAnnotationMethods w
          return none).exec s) := by
  rw [exec_require, exec_initCling w hcling]
  cases hclingInit : w.clingInit s.clangEnv.clingExtraArgs with
  | error fault => rfl
  | ok r =>
    obtain ⟨clingCreated, clingEnv⟩ := r
    have hcreated : Traced Action.quiet s (s.putCling clingEnv) := traced_created _ _
    cases clingCreated with
    | false =>
      exact ⟨_, rfl, IsTrans.trans _ _ _ hcreated
        ⟨_, rfl, fun a ha => by rw [List.mem_singleton.1 ha]; rfl⟩⟩
    | true =>
      obtain ⟨defaults, -, -, henv⟩ :=
        (ScopedClingEnvironment.init_eq_ok_true_iff hon ..).1 hclingInit
      have hsome : (s.putCling clingEnv).clingEnv.clingInterpreter.isSome = true := by
        show clingEnv.clingInterpreter.isSome = true
        rw [henv]
        rfl
      have hinit₁ : w.Initialised (s.putCling clingEnv) := hinit
      refine InitEnds.of_quiet hcreated rfl ?_
      dsimp only
      generalize s.putCling clingEnv = s₁ at hinit₁ hsome ⊢
      rw [Proc.exec_bind_ok (exec_registerClingInterpreter w hsome)]
      have htraced : Traced Action.silent s₁
          (s₁.record (w.deliveries s₁ (.registerClingInterpreter .clingInterpreter))) :=
        traced_deliveries w s₁ rfl
      exact InitEnds.of_silent htraced rfl (registerAnnotationMethods_ends w (hinit₁.record _))

theorem exec_initBase (w : World) (s : MainState) : (initBase w).exec s =
    ((Except.ok (w.baseInit w.baseInitArgs) : Except Fault Bool).mapError .fault,
      s.record [.baseInit w.baseInitArgs]) := rfl

/-- The state when `base_env.init` has been called, if it is. -/
def World.afterBaseInit (w : World) (s : MainState) : MainState :=
  if ScopedCmdEnvironment.init w = .ok true then s.record [.baseInit w.baseInitArgs] else s

theorem afterBaseInit_save (w : World) (s : MainState) : (w.afterBaseInit s).save = s.save := by
  unfold World.afterBaseInit
  split <;> rfl

/-- `initEnv` ends as the outcomes of its steps say. -/
theorem exec_initEnv (w : World) {s : MainState} (hclang : s.clangEnv = .new)
    (hcling : s.clingEnv = .new) :
    InitEnds w (w.afterBaseInit s) w.initOutcome ((initEnv w).exec s) := by
  unfold World.afterBaseInit
  rw [World.initOutcome, initEnv, exec_require, exec_assertions]
  match ScopedCmdEnvironment.init w with
  | .error fault => rfl
  | .ok false => exact ⟨_, rfl, _, rfl, fun a ha => by rw [List.mem_singleton.1 ha]; rfl⟩
  | .ok true =>
  rw [if_pos rfl]
  refine InitEnds.require (exec_initBase w s) (Std.Refl.refl _) rfl (fun _ => ?_) _
  obtain ⟨s₂, hplugin, hs₂⟩ := exec_pluginInit w (s.record [.baseInit w.baseInitArgs])
  refine InitEnds.require hplugin hs₂.trace hs₂.save (fun _ => ?_) _
  obtain ⟨s₃, hcompile, hs₃⟩ := exec_checkCompileCommands w s₂
  rw [Proc.exec_bind_ok hcompile]
  apply InitEnds.of_quiet hs₃.trace hs₃.save
  have hclang₃ : s₃.clangEnv = .new := by rw [hs₃.clangEnv, hs₂.clangEnv]; exact hclang
  have hcling₃ : s₃.clingEnv = .new := by rw [hs₃.clingEnv, hs₂.clingEnv]; exact hcling
  rw [exec_require, exec_initClang w hclang₃]
  cases hinit : w.clangInit with
  | error fault => rfl
  | ok r =>
    obtain ⟨clangCreated, clangEnv⟩ := r
    have hcreated : Traced Action.quiet s₃ (s₃.putClang clangEnv) := traced_created _ _
    cases clangCreated with
    | false =>
      exact ⟨_, rfl, IsTrans.trans _ _ _ hcreated
        ⟨_, rfl, fun a ha => by rw [List.mem_singleton.1 ha]; rfl⟩⟩
    | true =>
      refine InitEnds.of_quiet hcreated rfl ?_
      have hinit' : w.Initialised (s₃.putClang clangEnv) := hinit
      cases hon : w.build.clingIsOn with
      | false => exact registerAnnotationMethods_ends w hinit'
      | true =>
        exact initCling_ends w hon
          (show (s₃.putClang clangEnv).clingEnv = .new from hcling₃) hinit' _

/-! ## The locals of `main` -/

/-- What the destructors destroy before plugins are told. -/
def MainState.destroyedFirst (s : MainState) : List Object :=
  .clingEnv :: s.clingEnv.members.reverse ++ .clangEnv :: s.clangEnv.members.reverse

/-- The state after the destructors of the locals. -/
def World.afterDestroy (w : World) (s : MainState) : MainState :=
  let s₁ := s.record (s.destroyedFirst.map .destroyed)
  (s₁.record (w.deliveries s₁ .shutdown)).record
    ([.mainEventsDispatcher, .pluginEnv, .baseEnv, .cmdEnv].map .destroyed)

theorem exec_destroyLocals (w : World) (s : MainState) :
    (destroyLocals w).exec s = (.ok (), w.afterDestroy s) := by
  unfold destroyLocals
  rw [Proc.exec_get_bind, Proc.exec_bind_ok (exec_destroyAll ..),
    Proc.exec_bind_ok (exec_destroyAll ..), record_record, ScopedPluginEnvironment.destroy,
    bind_assoc, exec_trigger_bind, Proc.exec_bind_ok (exec_destroyAll ..), exec_destroyAll,
    ← List.map_append, record_record]
  rfl

/-- Destroying the locals tells nothing. -/
theorem tell_afterDestroy {β : Type} {g : Action → Option β} (hg : Overlooks g) (w : World)
    (s : MainState) : (w.afterDestroy s).tell g = s.tell g := by
  have hnone : ∀ l : List Object, (l.map Action.destroyed).filterMap g = [] := by
    intro l
    rw [List.filterMap_eq_nil_iff]
    intro a ha
    obtain ⟨o, -, rfl⟩ := List.mem_map.1 ha
    exact hg.destroyed o
  unfold World.afterDestroy
  simp only [tell_record _ (List.map _ _), tell_deliveries hg, hg.shutdown, hnone,
    Option.toList_none, List.append_nil]

/-- No assertion about the executable's directory fails. -/
def World.Located (w : World) : Prop := w.host.dirExe = none → w.build.dcheckIsOn = false

theorem exec_createLocals {w : World} (h : w.Located) (s : MainState) :
    ∃ s', (createLocals w).exec s = (.ok (), s') ∧ QuietStep s s' := by
  have hcreated : ∀ objects : List Object, QuietStep s (s.record (objects.map .created)) :=
    fun objects => ⟨traced_created s objects, rfl, rfl, rfl⟩
  refine ⟨_, ?_, hcreated [.cmdEnv, .baseEnv, .mainEventsDispatcher, .pluginEnv, .clangEnv,
    .clingEnv]⟩
  cases hdir : w.host.dirExe with
  | none => simp [createLocals, hdir, notReached, h hdir]
  | some dirExe => simp [createLocals, hdir]

/-- The first step of `initEnv` meets the same assertion. -/
theorem located_of_initOutcome {w : World} {created : Bool} (h : w.initOutcome = .ok created) :
    w.Located := by
  intro hdir
  by_contra hb
  have hb : w.build.dcheckIsOn = true := by simpa using hb
  have hfault : ∃ fault, ScopedCmdEnvironment.init w = .error fault := by
    by_cases hargc : 0 < w.argc
    · exact ⟨.notReached, by simp [ScopedCmdEnvironment.init, dcheck, hargc, hdir, notReached, hb]⟩
    · exact ⟨.dcheck, by simp [ScopedCmdEnvironment.init, dcheck, hargc, hb]⟩
  obtain ⟨fault, hfault⟩ := hfault
  simp [World.initOutcome, hfault] at h

/-! ## `main` -/

/-- What `main` does once its environments are created. -/
def afterInit (w : World) : MainProc ℤ := do
  match ← handleCmdOptions w with
  | some exitCode =>
    destroyLocals w
    return exitCode
  | none =>
    runClangLibTooling w
    destroyLocals w
    return exitSuccess

/-- `argc > 1`, where that is asserted. -/
def World.HasArguments (w : World) : Prop := w.build.dcheckIsOn = true → 1 < w.argc

theorem exec_main_of_no_arguments {w : World} (h : ¬ w.HasArguments) (s : MainState) :
    (main w).exec s = (.error (.fault .dcheck), s) := by
  rw [World.HasArguments, Classical.not_imp] at h
  have hfail : dcheck w.build (1 < w.argc) = .error .dcheck := by simp [dcheck, h.1, h.2]
  unfold main
  rw [hfail, exec_assertions_error_bind]

/-- `main` up to `initEnv`. -/
theorem exec_main_eq {w : World} (hargs : w.HasArguments) (hlocated : w.Located)
    (files : FilePath → Option Str) :
    ∃ s₀, QuietStep (.start files) s₀ ∧
      InitEnds w (w.afterBaseInit s₀) w.initOutcome ((initEnv w).exec s₀) ∧
      (main w).exec (.start files) = (initEnv w >>= fun exit => match exit with
        | some exitCode => do
          act (.log .warning "exited during environment creation".toList)
          destroyLocals w
          return exitCode
        | none => afterInit w).exec s₀ := by
  obtain ⟨s₀, hlocals, hs₀⟩ := exec_createLocals hlocated (.start files)
  have hdcheck : dcheck w.build (1 < w.argc) = .ok () :=
    (dcheck_eq_ok_iff ..).2 fun hb => decide_eq_true (hargs hb)
  refine ⟨s₀, hs₀, exec_initEnv w hs₀.clangEnv hs₀.clingEnv, ?_⟩
  unfold main
  rw [hdcheck, exec_assertions_ok_bind, Proc.exec_bind_ok hlocals]
  rfl

/-- When an environment cannot be created, nothing is done that plugins or users could tell. -/
theorem exec_main_of_initFailed {w : World} (hargs : w.HasArguments)
    (h : w.initOutcome = .ok false) (files : FilePath → Option Str) :
    ∃ s₀ s₁, Traced Action.quiet (.start files) s₀ ∧
      Traced Action.quiet (w.afterBaseInit s₀) s₁ ∧
      (main w).exec (.start files) = (.ok exitFailure, w.afterDestroy s₁) := by
  obtain ⟨s₀, hs₀, hends, hmain⟩ := exec_main_eq hargs (located_of_initOutcome h) files
  rw [h] at hends
  obtain ⟨s₁, hinit, hs₁⟩ := hends
  refine ⟨s₀, s₁.record [.log .warning "exited during environment creation".toList], hs₀.trace,
    IsTrans.trans _ _ _ hs₁ ⟨_, rfl, fun a ha => by rw [List.mem_singleton.1 ha]; rfl⟩, ?_⟩
  rw [hmain, Proc.exec_bind_ok hinit]
  dsimp only
  rw [Proc.exec_bind_ok (exec_act ..), Proc.exec_bind_ok (exec_destroyLocals ..), Proc.exec_pure]

/-- When all are, the registration is done and the rest of `main` follows. -/
theorem exec_main_of_initialised {w : World} (hargs : w.HasArguments)
    (h : w.initOutcome = .ok true) (files : FilePath → Option Str) :
    ∃ s₀ s₁, Traced Action.quiet (.start files) s₀ ∧
      Traced Action.silent (w.afterBaseInit s₀) s₁ ∧ s₁.save = ⟨files, []⟩ ∧
      registration ∈ s₁.trace ∧ w.Initialised s₁ ∧
      (main w).exec (.start files) = (afterInit w).exec s₁ := by
  obtain ⟨s₀, hs₀, hends, hmain⟩ := exec_main_eq hargs (located_of_initOutcome h) files
  rw [h] at hends
  obtain ⟨s₁, hinit, hs₁, hsave, hregistered, hclang⟩ := hends
  refine ⟨s₀, s₁, hs₀.trace, hs₁, ?_, hregistered, hclang, hmain.trans (Proc.exec_bind_ok hinit _)⟩
  rw [hsave, afterBaseInit_save, hs₀.save]
  rfl

/-- Of the part of a run before the command line is handled, nothing is told but the call of
`base_env.init`, if it is reached. -/
theorem tell_of_started {β : Type} {g : Action → Option β} (hg : Overlooks g) {w : World}
    {files : FilePath → Option Str} {s₀ s₁ : MainState}
    (hs₀ : Traced Action.quiet (.start files) s₀)
    (hs₁ : Traced Action.silent (w.afterBaseInit s₀) s₁) :
    s₁.tell g = if ScopedCmdEnvironment.init w = .ok true
      then (g (.baseInit w.baseInitArgs)).toList else [] := by
  have hnone : s₀.tell g = [] := tell_of_traced hg.quiet hs₀
  rw [tell_of_traced hg.silent hs₁]
  unfold World.afterBaseInit
  split
  · rw [tell_record, hnone, List.nil_append, List.filterMap_cons, List.filterMap_nil]
    cases g (.baseInit w.baseInitArgs) <;> rfl
  · exact hnone

/-- When a step of `initEnv` fails an assertion, `main` does not return. -/
theorem exec_main_of_fault {w : World} {fault : Fault} (h : w.initOutcome = .error fault)
    (files : FilePath → Option Str) (code : ℤ) :
    ((main w).exec (.start files)).1 ≠ .ok code := by
  by_cases hargs : w.HasArguments
  · by_cases hlocated : w.Located
    · obtain ⟨s₀, -, hends, hmain⟩ := exec_main_eq hargs hlocated files
      rw [h] at hends
      rw [hmain, Proc.exec_bind_error (Prod.ext hends rfl)]
      simp
    · rw [World.Located, Classical.not_imp, Bool.not_eq_false] at hlocated
      have hdcheck : dcheck w.build (1 < w.argc) = .ok () :=
        (dcheck_eq_ok_iff ..).2 fun hb => decide_eq_true (hargs hb)
      unfold main
      rw [hdcheck, exec_assertions_ok_bind]
      simp [createLocals, hlocated.1, notReached, hlocated.2, Proc.exec_bind]
  · rw [exec_main_of_no_arguments hargs]
    simp

/-- A run of `main` that returns had its arguments, and every step of `initEnv` had an outcome. -/
theorem outcome_of_main_returns {w : World} {files : FilePath → Option Str} {code : ℤ}
    (h : ((main w).exec (.start files)).1 = .ok code) :
    w.HasArguments ∧ ∃ created, w.initOutcome = .ok created := by
  constructor
  · by_contra hargs
    rw [exec_main_of_no_arguments hargs] at h
    simp at h
  · cases hinit : w.initOutcome with
    | error fault => exact absurd h (exec_main_of_fault hinit files code)
    | ok created => exact ⟨created, rfl⟩

/-! ## Commands and runs -/

/-- LibTooling, and the actions of its sources, are all that running it adds. -/
def Action.tooling : Action → Bool
  | .saved .. | .toolReturned _ => true
  | _ => false

/-- Nothing but what LibTooling does was added, and the environments are as they were. -/
structure ToolStep (s s' : MainState) : Prop where
  trace : Traced Action.tooling s s'
  clangEnv : s'.clangEnv = s.clangEnv
  clingEnv : s'.clingEnv = s.clingEnv

instance : Std.Refl ToolStep := ⟨fun s => ⟨Std.Refl.refl s, rfl, rfl⟩⟩

instance : IsTrans MainState ToolStep :=
  ⟨fun _ _ _ h h' => ⟨IsTrans.trans _ _ _ h.trace h'.trace, h'.clangEnv.trans h.clangEnv,
    h'.clingEnv.trans h.clingEnv⟩⟩

theorem act_toolStep {action : Action} (h : action.tooling = true) : (act action).Moves ToolStep :=
  fun _ => ⟨⟨_, rfl, fun a ha => by rw [List.mem_singleton.1 ha]; exact h⟩, rfl, rfl⟩

theorem assertions_toolStep {α : Type} (r : Except Fault α) : (assertions r).Moves ToolStep :=
  Proc.Moves.ofExcept _

theorem processSource_toolStep (w : World) (run : SourceRun) :
    (processSource w run).Moves ToolStep := by
  unfold processSource
  split
  · refine Proc.Moves.bind (fun s => ⟨⟨[], by simp⟩, rfl, rfl⟩) fun _ =>
      Proc.Moves.bind (fun s => Std.Refl.refl s) fun s => act_toolStep rfl
  · exact Proc.Moves.pure _

/-- However LibTooling ends, it was run once, with these arguments. -/
theorem exec_clangTool_run (w : World) (args : List Str) (s : MainState) :
    ToolStep (s.record [.clangRun args]) ((ClangTool.run w args).exec s).2 := by
  unfold ClangTool.run
  rw [Proc.exec_bind_ok (exec_act ..)]
  refine Proc.Moves.bind (assertions_toolStep _) (fun _ =>
    Proc.Moves.bind (assertions_toolStep _) fun _ => ?_) _
  split
  · exact Proc.Moves.throw _
  · exact Proc.Moves.bind (assertions_toolStep _) fun _ =>
      Proc.Moves.bind (Proc.Moves.forM fun run _ => processSource_toolStep w run) fun _ =>
        act_toolStep rfl

theorem exec_runClangLibTooling {w : World} {s : MainState} (h : w.Initialised s) :
    (runClangLibTooling w).exec s = (ClangTool.run w s.clangEnv.argsStorage).exec s := by
  obtain ⟨-, args, hpopulate, henv⟩ := (ScopedClangEnvironment.init_eq_ok_true_iff ..).1 h
  have hargs : s.clangEnv.argsStorage ≠ [] := by
    rw [henv]
    exact List.append_ne_nil_of_left_ne_nil (argsStorage_ne_nil_of_populated hpopulate) _
  have hoptions : s.clangEnv.annotationMatchOptions = true := by rw [henv]; rfl
  unfold runClangLibTooling
  rw [Proc.exec_get_bind, dcheck_of_true _ (by simpa using hargs),
    dcheck_of_true _ hoptions, exec_assertions_ok_bind, exec_assertions_ok_bind]

theorem count_version_ne_zero (w : World) :
    w.count kVersion ≠ 0 ↔ w.commandLine.Given kVersion :=
  count_ne_zero_iff (registered_version w.baseSwitches) w.commandLine

theorem count_help_ne_zero (w : World) : w.count kHelp ≠ 0 ↔ w.commandLine.Given kHelp :=
  count_ne_zero_iff (registered_help w.baseSwitches) w.commandLine

/-- The event that both command handlers trigger. -/
def versionCommand : Event := .stringCommand (kStringCommandDelim ++ kVersion) [kVersion]

theorem exec_afterInit_version {w : World} {s : MainState}
    (hversion : w.commandLine.Given kVersion) :
    (afterInit w).exec s =
      (.ok exitSuccess, w.afterDestroy (s.record (w.deliveries s versionCommand))) := by
  have hcount := (count_version_ne_zero w).2 hversion
  have hhandle : (handleCmdOptions w).exec s =
      (.ok (some exitSuccess), s.record (w.deliveries s versionCommand)) := by
    unfold handleCmdOptions
    rw [if_pos hcount, handleVersionCmd,
      dcheck_of_true _ (decide_eq_true hcount), exec_assertions_ok_bind, exec_trigger_bind,
      Proc.exec_pure, versionCommand]
  unfold afterInit
  rw [Proc.exec_bind_ok hhandle]
  dsimp only
  rw [Proc.exec_bind_ok (exec_destroyLocals ..), Proc.exec_pure]

/-- Run LibTooling, then return from `main`. -/
def runAndReturn (w : World) : MainProc ℤ := do
  runClangLibTooling w
  destroyLocals w
  return exitSuccess

theorem exec_afterInit_help {w : World} {s : MainState}
    (hversion : ¬ w.commandLine.Given kVersion) (hhelp : w.commandLine.Given kHelp) :
    (afterInit w).exec s = (runAndReturn w).exec (s.record (w.deliveries s versionCommand)) := by
  have hcount := mt (count_version_ne_zero w).1 hversion
  have hcount' := (count_help_ne_zero w).2 hhelp
  unfold afterInit
  rw [handleCmdOptions, if_neg hcount, if_pos hcount', handleHelpCmd, bind_assoc,
    exec_trigger_bind, bind_assoc]
  rfl

theorem exec_afterInit_run {w : World} {s : MainState}
    (hversion : ¬ w.commandLine.Given kVersion) (hhelp : ¬ w.commandLine.Given kHelp) :
    (afterInit w).exec s = (runAndReturn w).exec s := by
  have hcount := mt (count_version_ne_zero w).1 hversion
  have hcount' := mt (count_help_ne_zero w).1 hhelp
  unfold afterInit
  rw [handleCmdOptions, if_neg hcount, if_neg hcount', pure_bind]
  rfl

theorem exec_runAndReturn {w : World} {s : MainState} (h : w.Initialised s) :
    ∃ s', ToolStep (s.record [.clangRun s.clangEnv.argsStorage]) s' ∧
      (((ClangTool.run w s.clangEnv.argsStorage).exec s = (.ok (), s') ∧
          (runAndReturn w).exec s = (.ok exitSuccess, w.afterDestroy s')) ∨
        ∃ stop, (runAndReturn w).exec s = (.error stop, s')) := by
  have hrun := exec_runClangLibTooling h
  have htraced := exec_clangTool_run w s.clangEnv.argsStorage s
  rcases hexec : (ClangTool.run w s.clangEnv.argsStorage).exec s with ⟨stop | ⟨⟩, s'⟩
  · rw [hexec] at htraced hrun
    exact ⟨s', htraced, Or.inr ⟨stop, Proc.exec_bind_error hrun _⟩⟩
  · rw [hexec] at htraced hrun
    refine ⟨s', htraced, Or.inl ⟨rfl, ?_⟩⟩
    unfold runAndReturn
    rw [Proc.exec_bind_ok hrun, Proc.exec_bind_ok (exec_destroyLocals ..),
      Proc.exec_pure]

/-- Once its environments are created, a run of `main` that returns destroys its locals, with the
environment for LibTooling as it was created and everything done so far on record. -/
theorem exec_afterInit_of_returns {w : World} {s : MainState} (h : w.Initialised s) {code : ℤ}
    (hreturns : ((afterInit w).exec s).1 = .ok code) :
    ∃ s', ((afterInit w).exec s).2 = w.afterDestroy s' ∧ s'.clangEnv = s.clangEnv ∧
      s.trace <+: s'.trace := by
  have hrun : ∀ s₁, w.Initialised s₁ → ((runAndReturn w).exec s₁).1 = .ok code →
      ∃ s', ((runAndReturn w).exec s₁).2 = w.afterDestroy s' ∧ s'.clangEnv = s₁.clangEnv ∧
        s₁.trace <+: s'.trace := by
    intro s₁ hs₁ hok
    obtain ⟨s', hstep, ⟨-, hends⟩ | ⟨stop, hends⟩⟩ := exec_runAndReturn hs₁
    · obtain ⟨t, ht, -⟩ := hstep.trace
      exact ⟨s', by rw [hends], hstep.clangEnv,
        ⟨[.clangRun s₁.clangEnv.argsStorage] ++ t, by rw [ht]; simp⟩⟩
    · rw [hends] at hok
      simp at hok
  by_cases hversion : w.commandLine.Given kVersion
  · rw [exec_afterInit_version hversion]
    exact ⟨_, rfl, rfl, List.prefix_append _ _⟩
  · by_cases hhelp : w.commandLine.Given kHelp
    · rw [exec_afterInit_help hversion hhelp] at hreturns ⊢
      obtain ⟨s', hs', hclang, htrace⟩ := hrun _ (h.record _) hreturns
      exact ⟨s', hs', hclang, (List.prefix_append _ _).trans htrace⟩
    · rw [exec_afterInit_run hversion hhelp] at hreturns ⊢
      exact hrun s h hreturns

end Flextool
