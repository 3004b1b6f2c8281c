import Flextool.Lib.Lifetime
import Flextool.Outcome

/-!
# Handles that plugins keep

`initEnv` hands plugins the annotation methods, the source pipeline and the interpreter.  They
belong to environments that are declared after, and so destroyed before, the one whose destructor
sends the last event.  Every run that hands them out and returns sends that event when they are gone
(`main_handles_outlive_iff`).
-/

namespace Flextool

/-- Handles are given by the events that `main` sends; every event may reach every plugin. -/
def handleReading : Lifetime.Reading Action Object where
  gives
    | .triggered .main event => event.handles
    | _ => []
  destroys
    | .destroyed o => [o]
    | _ => []
  delivers a := ∃ sender event, a = .triggered sender event

/-- The action hands nothing out. -/
def Action.givesNothing (a : Action) : Bool := (handleReading.gives a).isEmpty

theorem Action.givesNothing_of_quiet (a : Action) (h : a.quiet = true) : a.givesNothing = true := by
  cases a with
  | triggered sender event =>
    cases sender <;> cases event <;>
      simp_all [quiet, givesNothing, handleReading, Event.handles]
  | _ => rfl

theorem afterBaseInit_givesNothing (w : World) (s : MainState) :
    Traced Action.givesNothing s (w.afterBaseInit s) := by
  unfold World.afterBaseInit
  split
  · exact ⟨_, rfl, fun a ha => by rw [List.mem_singleton.1 ha]; rfl⟩
  · exact Std.Refl.refl s

theorem afterDestroy_givesNothing (w : World) (s : MainState) :
    Traced Action.givesNothing s (w.afterDestroy s) := by
  have hdestroyed : ∀ (s : MainState) (l : List Object),
      Traced Action.givesNothing s (s.record (l.map .destroyed)) := fun s l =>
    ⟨_, rfl, fun a ha => by
      obtain ⟨o, -, rfl⟩ := List.mem_map.1 ha
      rfl⟩
  have hshutdown : ∀ s : MainState,
      Traced Action.givesNothing s (s.record (w.deliveries s .shutdown)) := fun s =>
    ⟨_, rfl, fun a ha => by
      rcases List.mem_cons.1 ha with rfl | ha
      · rfl
      · obtain ⟨e, -, rfl⟩ := List.mem_map.1 ha
        rfl⟩
  exact IsTrans.trans _ _ _ (hdestroyed s _) (IsTrans.trans _ _ _ (hshutdown _) (hdestroyed _ _))

/-- A run in which an environment could not be created hands nothing out. -/
theorem no_gives_of_initFailed {w : World} (hargs : w.HasArguments)
    (h : w.initOutcome = .ok false) (files : FilePath → Option Str) :
    ∀ a ∈ ((main w).exec (.start files)).2.trace, handleReading.gives a = [] := by
  obtain ⟨s₀, s₁, hs₀, hs₁, hmain⟩ := exec_main_of_initFailed hargs h files
  have htraced : Traced Action.givesNothing (.start files) (w.afterDestroy s₁) :=
    IsTrans.trans _ _ _ (hs₀.mono Action.givesNothing_of_quiet) <|
      IsTrans.trans _ _ _ (afterBaseInit_givesNothing w s₀) <|
        IsTrans.trans _ _ _ (hs₁.mono Action.givesNothing_of_quiet) (afterDestroy_givesNothing w s₁)
  obtain ⟨t, ht, hnothing⟩ := htraced
  rw [hmain, ht]
  intro a ha
  exact List.isEmpty_iff.1 (hnothing a (by simpa [MainState.start] using ha))

/-- What is destroyed first holds the annotation methods, when they were created. -/
theorem annotationMethods_destroyedFirst {s : MainState}
    (h : s.clangEnv.owns .annotationMethods = true) :
    Object.annotationMethods ∈ s.destroyedFirst := by
  have hmember : Object.annotationMethods ∈ s.clangEnv.members :=
    List.mem_filter.2 ⟨List.mem_cons_self .., h⟩
  simp [MainState.destroyedFirst, hmember]

/-- After the registration, plugins are told to shut down when the handles are gone. -/
theorem not_outlive_of_registered {w : World} {s : MainState} (h : registration ∈ s.trace)
    (hmethods : s.clangEnv.owns .annotationMethods = true) :
    ¬ Lifetime.Outlive handleReading (w.afterDestroy s).trace := by
  have hgone : Action.destroyed .annotationMethods ∈
      s.trace ++ s.destroyedFirst.map .destroyed :=
    List.mem_append_right _ (List.mem_map_of_mem (annotationMethods_destroyedFirst hmethods))
  have hgiven : registration ∈ s.trace ++ s.destroyedFirst.map .destroyed :=
    List.mem_append_left _ h
  have hrun : ∃ after, (w.afterDestroy s).trace =
      (s.trace ++ s.destroyedFirst.map .destroyed) ++ .triggered .main .shutdown :: after := by
    simp only [World.afterDestroy, record_trace, World.deliveries, List.append_assoc,
      List.cons_append]
    exact ⟨_, rfl⟩
  obtain ⟨after, hrun⟩ := hrun
  exact Lifetime.not_outlive hrun ⟨_, _, rfl⟩ hgiven (List.mem_cons_self ..) hgone
    (List.mem_singleton_self _)

/-- In a run that returns, the handles outlive every event exactly when an environment was refused:
otherwise plugins are told to shut down when the objects are gone. -/
theorem main_handles_outlive_iff (w : World) (files : FilePath → Option Str) (code : ℤ)
    (h : ((main w).exec (.start files)).1 = .ok code) :
    Lifetime.Outlive handleReading ((main w).exec (.start files)).2.trace ↔ w.Refused := by
  obtain ⟨hargs, created, hinit⟩ := outcome_of_main_returns h
  rw [← refused_iff hargs]
  cases created with
  | false =>
    have hnothing := no_gives_of_initFailed hargs hinit files
    exact iff_of_true (Lifetime.outlive_of_no_gives hnothing) hinit
  | true =>
    obtain ⟨s₀, s₁, -, -, -, hregistered, hclang, hmain⟩ :=
      exec_main_of_initialised hargs hinit files
    rw [hmain] at h ⊢
    obtain ⟨s', hs', henv, htrace⟩ := exec_afterInit_of_returns hclang h
    obtain ⟨-, args, -, hstarted⟩ := (ScopedClangEnvironment.init_eq_ok_true_iff ..).1 hclang
    refine iff_of_false ?_ (by rw [hinit]; simp)
    rw [hs']
    exact not_outlive_of_registered (htrace.subset hregistered) (by rw [henv, hstarted]; rfl)

theorem main_handles_outlive_iff_version :
    let w := World.sample [⟨kVersion, []⟩, ⟨"extra-arg".toList, ["-DX".toList]⟩] []
    Lifetime.Outlive handleReading ((main w).exec (.start fun _ => none)).2.trace ↔ w.Refused :=
  main_handles_outlive_iff
    (World.sample [⟨kVersion, []⟩, ⟨"extra-arg".toList, ["-DX".toList]⟩] [])
    (fun _ => none) 0 (by decide +kernel)

/-- After the version, plugins are told to shut down with their handles gone. -/
theorem main_shutdown_after_handles :
    let w := World.sample [⟨kVersion, []⟩, ⟨"extra-arg".toList, ["-DX".toList]⟩] []
    let ended := (main w).exec (.start fun _ => none)
    ended.1 = .ok exitSuccess ∧ ¬ Lifetime.Outlive handleReading ended.2.trace := by
  intro w ended
  have hok : ended.1 = .ok exitSuccess := by decide +kernel
  have hshutdown : ended.2.trace[24]? = some (.triggered .main .shutdown) := by decide +kernel
  have hgiven : registration ∈ ended.2.trace.take 24 := by decide +kernel
  have hgone : Action.destroyed .annotationMethods ∈ ended.2.trace.take 24 := by decide +kernel
  clear_value ended
  exact ⟨hok, Lifetime.not_outlive_at hshutdown ⟨_, _, rfl⟩ hgiven (List.mem_cons_self ..) hgone
    (List.mem_singleton_self _)⟩

end Flextool
