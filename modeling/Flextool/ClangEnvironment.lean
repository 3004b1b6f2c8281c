import Flextool.ClangUtilProof
import Flextool.CmdEnvironment
import Flextool.Lib.Triple

/-!
# `clang_environment.cc`: what LibTooling is run with

`ScopedClangEnvironment.init` collects the arguments of LibTooling and creates the objects that the
handlers of the tool need.  It succeeds exactly when there is an output directory and
`populateClangArguments` succeeds (`init_eq_ok_true_iff`); however it ends, the objects were created
in order, up to some of them (`creating_init`).
-/

namespace Flextool

open Loops

def kClangHelpFlag : Str := "-help".toList

/-- The objects that `main` and its environments own. -/
inductive Object where
  | cmdEnv
  | baseEnv
  | pluginEnv
  | clangEnv
  | clingEnv
  | mainEventsDispatcher
  | annotationMethods
  | sourceTransformPipeline
  | annotationParser
  | anotationMatchHandler
  | clingInterpreter
  deriving DecidableEq, Repr

/-- Must store the data related to LibTooling. -/
structure ScopedClangEnvironment where
  argsStorage : List Str
  clingExtraArgs : List Str
  /-- the objects that its `std::unique_ptr`s own, in the order in which they were created -/
  created : List Object
  /-- whether there are `AnnotationMatchOptions`, whose references are counted -/
  annotationMatchOptions : Bool
  deriving DecidableEq, Repr

def ScopedClangEnvironment.new : ScopedClangEnvironment where
  argsStorage := []
  clingExtraArgs := []
  created := []
  annotationMatchOptions := false

/-- The `std::unique_ptr` for this object is not null. -/
def ScopedClangEnvironment.owns (env : ScopedClangEnvironment) (object : Object) : Bool :=
  decide (object ∈ env.created)

/-- The objects of the environment, in the order of their declaration. -/
def clangObjects : List Object :=
  [.annotationMethods, .sourceTransformPipeline, .annotationParser, .anotationMatchHandler]

/-- Those that were created, in the order of their declaration. -/
def ScopedClangEnvironment.members (env : ScopedClangEnvironment) : List Object :=
  clangObjects.filter env.owns

/-- The directory of the executable, as `AppCmdOptions` keeps it. -/
def Host.dirExePath (host : Host) : FilePath := host.dirExe.getD []

def makeUnique (object : Object) : Proc Fault ScopedClangEnvironment Unit :=
  Proc.update fun env => { env with created := env.created ++ [object] }

/-- `DCHECK` that there is an object. -/
def dcheckOwned (b : Build) (object : Object) : Proc Fault ScopedClangEnvironment Unit := do
  let env ← get
  Proc.ofExcept (dcheck b (env.owns object))

/-- The second half of `init`: what was created stays when an assertion fails later. -/
def ScopedClangEnvironment.createObjects (b : Build) (outDir : FilePath) :
    Proc Fault ScopedClangEnvironment Unit := do
  makeUnique .annotationMethods
  dcheckOwned b .annotationMethods
  makeUnique .annotationParser
  Proc.ofExcept (check (!outDir.isEmpty))
  dcheckOwned b .annotationParser
  dcheckOwned b .annotationMethods
  makeUnique .anotationMatchHandler
  -- the name of the attribute is a constant that is not empty
  dcheckOwned b .anotationMatchHandler
  Proc.update fun env => { env with annotationMatchOptions := true }
  makeUnique .sourceTransformPipeline

/-- Returns whether the environment was created. -/
def ScopedClangEnvironment.init (b : Build) (host : Host) (baseSwitches : BaseSwitches)
    (cmd : CommandLine) : Proc Fault ScopedClangEnvironment Bool := do
  let clangBuildPath := cmd.outDir host.dirExePath
  Proc.ofExcept (dcheck b (!clangBuildPath.isEmpty))
  let env ← get
  let (ok, args) ← Proc.ofExcept (populateClangArguments b host clangBuildPath
    ⟨env.argsStorage, env.clingExtraArgs⟩ (cmd.unregisteredOptions baseSwitches))
  Proc.update fun env =>
    { env with argsStorage := args.argsStorage, clingExtraArgs := args.clingExtraArgs }
  if !ok then
    return false
  else
    Proc.ofExcept (dcheck b (!args.argsStorage.isEmpty))
    -- help is forwarded to LibTooling as well
    Proc.update fun env =>
      if cmd.count baseSwitches kHelp ≠ 0 then
        { env with argsStorage := env.argsStorage ++ [kClangHelpFlag] }
      else env
    createObjects b (cmd.outDir host.dirExePath)
    return true

/-! ## How `init` ends -/

/-- The objects in the order in which `init` creates them. -/
def creationOrder : List Object :=
  [.annotationMethods, .annotationParser, .anotationMatchHandler, .sourceTransformPipeline]

/-- The environment after `init`, when it runs on these arguments. -/
def ScopedClangEnvironment.started (args : Arguments) (help : Bool) : ScopedClangEnvironment where
  argsStorage := args.argsStorage ++ if help then [kClangHelpFlag] else []
  clingExtraArgs := args.clingExtraArgs
  created := creationOrder
  annotationMatchOptions := true

theorem result_dcheckOwned_bind {α : Type} {env : ScopedClangEnvironment} {object : Object}
    (h : object ∈ env.created) (b : Build) (next : Unit → Proc Fault ScopedClangEnvironment α) :
    (dcheckOwned b object >>= next).result env = (next ()).result env := by
  have howns : env.owns object = true := decide_eq_true h
  rw [dcheckOwned, bind_assoc, Proc.result_get_bind, howns, dcheck_true, Proc.result_ofExcept_bind,
    ok_bind]

/-- Of what is asserted while the objects are created, only the output directory can be missing. -/
theorem ScopedClangEnvironment.result_createObjects_bind {α : Type} (b : Build)
    (outDir : FilePath) {env : ScopedClangEnvironment} (h : env.created = [])
    (next : Unit → Proc Fault ScopedClangEnvironment α) :
    (createObjects b outDir >>= next).result env = check (!outDir.isEmpty) >>= fun _ =>
      (next ()).result { env with created := creationOrder, annotationMatchOptions := true } := by
  obtain ⟨argsStorage, clingExtraArgs, created, annotationMatchOptions⟩ := env
  subst h
  simp [createObjects, makeUnique, result_dcheckOwned_bind, creationOrder]

/-- The arguments start with the name of the application. -/
theorem argsStorage_ne_nil_of_populated {b : Build} {host : Host} {path : FilePath}
    {args res : Arguments} {opts : List UnergisteredOption}
    (h : populateClangArguments b host path args opts = .ok (true, res)) :
    res.argsStorage ≠ [] := by
  obtain ⟨defaults, hadd, -, rfl⟩ := (populateClangArguments_eq_ok_iff ..).1 h
  obtain ⟨dirExe, -, -, -, rfl⟩ := (addDefaultClangArgs_eq_ok_true_iff ..).1 hadd
  exact List.append_ne_nil_of_left_ne_nil (pushDefaultClangArgs_ne_nil host path dirExe []) _

section Result

variable {b : Build} {host : Host} {baseSwitches : BaseSwitches} {cmd : CommandLine}

theorem ScopedClangEnvironment.result_init :
    (init b host baseSwitches cmd).result .new = (do
      let outDir := cmd.outDir host.dirExePath
      dcheck b (!outDir.isEmpty)
      let (ok, args) ← populateClangArguments b host outDir ⟨[], []⟩
        (cmd.unregisteredOptions baseSwitches)
      if !ok then
        return (false, ⟨args.argsStorage, args.clingExtraArgs, [], false⟩)
      else
        dcheck b (!args.argsStorage.isEmpty)
        check (!outDir.isEmpty)
        return (true, .started args (decide (cmd.Given kHelp)))) := by
  have hhelp := count_ne_zero_iff (registered_help baseSwitches) cmd
  simp only [init, hhelp, Proc.result_ofExcept_bind, Proc.result_get_bind,
    Proc.result_update_bind]
  refine congrArg _ (funext fun _ => congrArg _ (funext fun populated => ?_))
  obtain ⟨ok, args⟩ := populated
  cases ok with
  | false => rfl
  | true =>
    simp only [Bool.not_true, Bool.false_eq_true, if_false, Proc.result_ofExcept_bind,
      Proc.result_update_bind]
    refine congrArg _ (funext fun _ => ?_)
    by_cases hgiven : cmd.Given kHelp
    · rw [if_pos hgiven, result_createObjects_bind b _ rfl]
      simp [hgiven, started]
    · rw [if_neg hgiven, result_createObjects_bind b _ rfl]
      simp [hgiven, started]

/-- `init` succeeds exactly when there is an output directory and the arguments are populated. -/
theorem ScopedClangEnvironment.init_eq_ok_true_iff (env' : ScopedClangEnvironment) :
    (init b host baseSwitches cmd).result .new = .ok (true, env') ↔
      cmd.outDir host.dirExePath ≠ [] ∧ ∃ args,
        populateClangArguments b host (cmd.outDir host.dirExePath) ⟨[], []⟩
          (cmd.unregisteredOptions baseSwitches) = .ok (true, args) ∧
        env' = .started args (decide (cmd.Given kHelp)) := by
  simp only [result_init, bind_eq_ok_iff, pure_eq_ok]
  generalize cmd.outDir host.dirExePath = outDir
  generalize cmd.unregisteredOptions baseSwitches = opts
  constructor
  · rintro ⟨⟨⟩, -, ⟨ok, args⟩, hpopulate, hrest⟩
    cases ok with
    | false => simp at hrest
    | true =>
      simp only [Bool.not_true, Bool.false_eq_true, if_false, bind_eq_ok_iff] at hrest
      obtain ⟨⟨⟩, -, ⟨⟩, houtDir, henv⟩ := hrest
      rw [check_eq_ok_iff] at houtDir
      refine ⟨by simpa using houtDir, args, hpopulate, ?_⟩
      simpa [eq_comm] using henv
  · rintro ⟨houtDir, args, hpopulate, rfl⟩
    have hargs := argsStorage_ne_nil_of_populated hpopulate
    have hchecked : check (!outDir.isEmpty) = .ok () :=
      (check_eq_ok_iff _).2 (by simpa using houtDir)
    have hstorage : dcheck b (!args.argsStorage.isEmpty) = .ok () :=
      dcheck_of_true b (by simpa using hargs)
    refine ⟨(), dcheck_of_true b (by simpa using houtDir), (true, args), hpopulate, ?_⟩
    simp [hchecked, hstorage]

/-- When `init` returns false, `PathService` did not answer and no argument was collected. -/
theorem ScopedClangEnvironment.init_eq_ok_false {env' : ScopedClangEnvironment}
    (h : (init b host baseSwitches cmd).result .new = .ok (false, env')) :
    ¬ (host.dirExe.isSome ∧ host.fileExe.isSome) ∧ env'.argsStorage = [] := by
  simp only [result_init, bind_eq_ok_iff, pure_eq_ok] at h
  obtain ⟨-, -, ⟨ok, args⟩, hpopulate, hrest⟩ := h
  cases ok with
  | true => simp [bind_eq_ok_iff] at hrest
  | false =>
    obtain ⟨hservice, rfl⟩ := populateClangArguments_eq_ok_false hpopulate
    refine ⟨hservice, ?_⟩
    simp only [Bool.not_false, if_true, Except.ok.injEq, Prod.mk.injEq, true_and] at hrest
    rw [← hrest]

end Result

/-! ## What there is when `init` stops -/

/-- These objects were created, in this order. -/
def ScopedClangEnvironment.Created (objects : List Object) (env : ScopedClangEnvironment) : Prop :=
  env.created = objects

/-- The objects were created in order, up to some of them. -/
def ScopedClangEnvironment.Creating (env : ScopedClangEnvironment) : Prop :=
  env.created <+: creationOrder

section Created

open ScopedClangEnvironment (Created Creating)
open Proc (Triple)

variable {objects : List Object}

theorem triple_ofExcept_created {α : Type} (h : objects <+: creationOrder) (r : Except Fault α) :
    Triple (Created objects) (Proc.ofExcept r) (fun _ => Created objects) fun _ => Creating :=
  Triple.ofExcept (fun _ _ _ hs => hs) fun _ _ env hs => by rwa [Creating, hs]

theorem triple_makeUnique {object : Object} :
    Triple (Created objects) (makeUnique object) (fun _ => Created (objects ++ [object]))
      fun _ => Creating := by
  intro env hs
  show env.created ++ [object] = objects ++ [object]
  rw [hs]

theorem triple_update_created {f : ScopedClangEnvironment → ScopedClangEnvironment}
    (h : ∀ env, (f env).created = env.created) :
    Triple (Created objects) (Proc.update f : Proc Fault ScopedClangEnvironment Unit)
      (fun _ => Created objects) fun _ => Creating :=
  fun env hs => (h env).trans hs

theorem triple_dcheckOwned (h : objects <+: creationOrder) (b : Build) (object : Object) :
    Triple (Created objects) (dcheckOwned b object) (fun _ => Created objects)
      fun _ => Creating := by
  intro env hs
  rw [dcheckOwned, Proc.exec_get_bind]
  exact triple_ofExcept_created h _ env hs

theorem triple_createObjects (b : Build) (outDir : FilePath) :
    Triple (Created []) (ScopedClangEnvironment.createObjects b outDir) (fun _ => Creating)
      fun _ => Creating := by
  unfold ScopedClangEnvironment.createObjects
  have hfirst : [Object.annotationMethods] <+: creationOrder := by decide
  have hsecond : [Object.annotationMethods, .annotationParser] <+: creationOrder := by decide
  have hthird : [Object.annotationMethods, .annotationParser, .anotationMatchHandler] <+:
      creationOrder := by decide
  refine triple_makeUnique.bind fun _ => (triple_dcheckOwned hfirst b _).bind fun _ => ?_
  refine triple_makeUnique.bind fun _ => (triple_ofExcept_created hsecond _).bind fun _ => ?_
  refine (triple_dcheckOwned hsecond b _).bind fun _ => ?_
  refine (triple_dcheckOwned hsecond b _).bind fun _ => triple_makeUnique.bind fun _ => ?_
  refine (triple_dcheckOwned hthird b _).bind fun _ => ?_
  refine Triple.bind (triple_update_created ?_) fun _ => ?_
  · exact fun _ => rfl
  · exact triple_makeUnique.weaken fun _ env hs => by rw [Creating, hs]; exact List.prefix_refl _

/-- However `init` ends, it has created the objects in order, up to some of them. -/
theorem ScopedClangEnvironment.creating_init (b : Build) (host : Host)
    (baseSwitches : BaseSwitches) (cmd : CommandLine) :
    ((init b host baseSwitches cmd).exec .new).2.Creating := by
  have hnone : ([] : List Object) <+: creationOrder := List.nil_prefix
  have hinit : Triple (Created []) (init b host baseSwitches cmd) (fun _ => Creating)
      fun _ => Creating := by
    unfold init
    refine (triple_ofExcept_created hnone _).bind fun _ => ?_
    intro env hs
    rw [Proc.exec_get_bind]
    refine ((triple_ofExcept_created hnone _).bind ?_) env hs
    rintro ⟨ok, args⟩
    refine Triple.bind (triple_update_created ?_) fun _ => ?_
    · exact fun _ => rfl
    split
    · exact Triple.pure fun env hs => by rw [Creating, hs]; exact hnone
    · refine (triple_ofExcept_created hnone _).bind fun _ => ?_
      refine Triple.bind (triple_update_created ?_) fun _ => ?_
      · intro env
        split <;> rfl
      · exact (triple_createObjects b _).bind fun _ => Triple.pure fun _ hs => hs
  have hends := hinit .new rfl
  revert hends
  rcases (init b host baseSwitches cmd).exec .new with ⟨fault | created, env⟩
  · exact id
  · exact id

end Created

end Flextool
