import Flextool.Lib.Custody
import Flextool.Outputs

/-!
# How far a run of `main` is

Until its locals are destroyed, a run of `main` is described by its `Progress`: which of the locals
were constructed, which calls were made, what the two environments hold and what was saved.
`MainState.At` ties a state to it, and to what is alive (`Progress.owned`).
-/

namespace Flextool

open Proc (Triple)

/-! ## Calls and objects -/

/-- What `main` asks of others: that plugins handle an event, or that LibTooling runs. -/
inductive Call where
  | event (event : Event)
  | tool (args : List Str)
  deriving DecidableEq, Repr

def Action.call : Action → Option Call
  | .triggered .main event => some (.event event)
  | .clangRun args => some (.tool args)
  | _ => none

def MainState.calls (s : MainState) : List Call := s.tell Action.call

/-- Objects are lent to plugins by the events that `main` sends. -/
def custody : Custody.Reading Action Object where
  creates
    | .created o => {o}
    | _ => ∅
  destroys
    | .destroyed o => {o}
    | _ => ∅
  lends
    | .triggered .main event => {o | o ∈ event.handles}
    | _ => ∅

/-- The locals of `main`, in the order in which they are created. -/
def mainLocals : List Object :=
  [.cmdEnv, .baseEnv, .mainEventsDispatcher, .pluginEnv, .clangEnv, .clingEnv]

/-- How far a run is, before its locals are destroyed. -/
structure Progress where
  locals : List Object
  calls : List Call
  clangEnv : ScopedClangEnvironment
  clingEnv : ScopedClingEnvironment
  save : SaveState

/-- All that is alive. -/
def Progress.owned (p : Progress) : List Object :=
  p.locals ++ p.clangEnv.members ++ p.clingEnv.members

/-- The state is one of a run that is this far. -/
structure MainState.At (p : Progress) (s : MainState) : Prop where
  calls : s.calls = p.calls
  clangEnv : s.clangEnv = p.clangEnv
  clingEnv : s.clingEnv = p.clingEnv
  save : s.save = p.save
  held : Custody.Held custody s.trace {o | o ∈ p.owned}
  intact : ∀ o, Action.destroyed o ∉ s.trace

/-- Nothing is done yet. -/
def Progress.start (files : FilePath → Option Str) : Progress := ⟨[], [], .new, .new, ⟨files, []⟩⟩

theorem start_at (files : FilePath → Option Str) :
    (MainState.start files).At (.start files) where
  calls := rfl
  clangEnv := rfl
  clingEnv := rfl
  save := rfl
  held := by
    have hnone : {o | o ∈ (Progress.start files).owned} = (∅ : Set Object) := by
      ext o
      simp [Progress.owned, Progress.start, ScopedClangEnvironment.members,
        ScopedClangEnvironment.owns, ScopedClangEnvironment.new, ScopedClingEnvironment.members,
        ScopedClingEnvironment.new]
    rw [hnone]
    exact .start
  intact := fun o ho => List.not_mem_nil ho

/-! ### What may be alive -/

theorem ScopedClangEnvironment.members_sublist (env : ScopedClangEnvironment) :
    env.members.Sublist clangObjects := List.filter_sublist

theorem ScopedClingEnvironment.members_sublist (env : ScopedClingEnvironment) :
    env.members.Sublist [Object.clingInterpreter] := by
  unfold members
  split
  · exact List.Sublist.refl _
  · exact List.nil_sublist _

/-- The objects that were created are those of the environment, in another order. -/
theorem ScopedClangEnvironment.Creating.perm_members {env : ScopedClangEnvironment}
    (h : env.Creating) : env.created.Perm env.members := by
  have horder : creationOrder.Nodup := by decide
  have hobjects : clangObjects.Nodup := by decide
  have hperm : creationOrder.Perm clangObjects := by decide
  unfold members
  rw [List.perm_ext_iff_of_nodup (h.sublist.nodup horder) (hobjects.filter _)]
  intro object
  rw [List.mem_filter, owns, decide_eq_true_iff]
  exact ⟨fun ho => ⟨hperm.subset (h.subset ho), ho⟩, fun ho => ho.2⟩

/-- No object is owned twice. -/
theorem owned_nodup {p : Progress} (hlocals : p.locals = mainLocals) : p.owned.Nodup := by
  have hall : (mainLocals ++ clangObjects ++ [Object.clingInterpreter]).Nodup := by decide
  unfold Progress.owned
  rw [hlocals]
  exact ((List.Sublist.append (.append (.refl _) p.clangEnv.members_sublist)
    p.clingEnv.members_sublist).nodup hall)

/-! ## Actions and calls -/

/-- The action neither creates nor destroys anything, and is not a call. -/
def Action.inert : Action → Bool
  | .created _ | .destroyed _ | .triggered .main _ | .clangRun _ => false
  | _ => true

theorem Action.call_of_inert {a : Action} (h : a.inert = true) : a.call = none := by
  cases a with
  | triggered sender event => cases sender <;> simp_all [inert, call]
  | clangRun args => exact absurd h Bool.false_ne_true
  | _ => rfl

theorem Action.lends_of_inert {a : Action} (h : a.inert = true) (live : Set Object) :
    custody.Lends a live := by
  cases a with
  | triggered sender event =>
    cases sender with
    | main => exact absurd h Bool.false_ne_true
    | plugin => exact ⟨rfl, rfl, Set.empty_subset _⟩
  | created o => exact absurd h Bool.false_ne_true
  | destroyed o => exact absurd h Bool.false_ne_true
  | _ => exact ⟨rfl, rfl, Set.empty_subset _⟩

theorem inert_of_plugin {events : List Event} {a : Action}
    (h : a ∈ events.map (Action.triggered .plugin)) : a.inert = true := by
  obtain ⟨e, -, rfl⟩ := List.mem_map.1 h
  rfl

theorem calls_record_inert (s : MainState) {actions : List Action}
    (h : ∀ a ∈ actions, a.inert = true) : (s.record actions).calls = s.calls := by
  have hnone : actions.filterMap Action.call = [] :=
    List.filterMap_eq_nil_iff.2 fun a ha => Action.call_of_inert (h a ha)
  rw [MainState.calls, tell_record, hnone, List.append_nil]
  rfl

/-- An event of `main` is the one call that is made while it is delivered. -/
theorem calls_deliveries (w : World) (s : MainState) (event : Event) :
    (s.record (w.deliveries s event)).calls = s.calls ++ [.event event] := by
  rw [World.deliveries, ← List.singleton_append, ← record_record,
    calls_record_inert _ fun a => inert_of_plugin]
  exact tell_record s _

/-- It may lend what is alive. -/
theorem held_deliveries (w : World) {s : MainState} {live : Set Object} (event : Event)
    (h : Custody.Held custody s.trace live) (hhandles : ∀ o ∈ event.handles, o ∈ live) :
    Custody.Held custody (s.record (w.deliveries s event)).trace live := by
  refine h.lendAll fun a ha => ?_
  rcases List.mem_cons.1 ha with rfl | ha
  · exact ⟨rfl, rfl, hhandles⟩
  · exact Action.lends_of_inert (inert_of_plugin ha) _

theorem not_destroyed_of_deliveries {w : World} {s : MainState} {event : Event} {o : Object} :
    Action.destroyed o ∉ w.deliveries s event := by
  intro h
  rcases List.mem_cons.1 h with h | h
  · cases h
  · exact absurd (inert_of_plugin h) Bool.false_ne_true

theorem intact_record {s : MainState} (h : ∀ o, Action.destroyed o ∉ s.trace)
    {actions : List Action} (hnone : ∀ o, Action.destroyed o ∉ actions) (o : Object) :
    Action.destroyed o ∉ (s.record actions).trace :=
  fun ho => (List.mem_append.1 ho).elim (h o) (hnone o)

namespace MainState.At

variable {p : Progress} {s : MainState}

theorem record (h : s.At p) {actions : List Action} (hinert : ∀ a ∈ actions, a.inert = true) :
    (s.record actions).At p where
  calls := (calls_record_inert s hinert).trans h.calls
  clangEnv := h.clangEnv
  clingEnv := h.clingEnv
  save := h.save
  held := h.held.lendAll fun a ha => Action.lends_of_inert (hinert a ha) _
  intact := intact_record h.intact fun _ ho => absurd (hinert _ ho) Bool.false_ne_true

theorem deliver (h : s.At p) (w : World) {event : Event}
    (hhandles : ∀ o ∈ event.handles, o ∈ p.owned) :
    (s.record (w.deliveries s event)).At { p with calls := p.calls ++ [.event event] } where
  calls := by rw [calls_deliveries, h.calls]
  clangEnv := h.clangEnv
  clingEnv := h.clingEnv
  save := h.save
  held := held_deliveries w event h.held hhandles
  intact := intact_record h.intact fun _ => not_destroyed_of_deliveries

/-- LibTooling is called. -/
theorem callTool (h : s.At p) (args : List Str) :
    (s.record [.clangRun args]).At { p with calls := p.calls ++ [.tool args] } where
  calls := (tell_record s _).trans (congrArg (· ++ [Call.tool args]) h.calls)
  clangEnv := h.clangEnv
  clingEnv := h.clingEnv
  save := h.save
  held := h.held.lend ⟨rfl, rfl, Set.empty_subset _⟩
  intact := intact_record h.intact fun _ ho => absurd (List.mem_singleton.1 ho) (by simp)

/-- Objects are created: what is owned grows by them. -/
theorem create (h : s.At p) {p' : Progress} {objects : List Object}
    {clangEnv : ScopedClangEnvironment} {clingEnv : ScopedClingEnvironment}
    (hcalls : p'.calls = p.calls) (hsave : p'.save = p.save) (hclang : clangEnv = p'.clangEnv)
    (hcling : clingEnv = p'.clingEnv)
    (howned : p'.owned.Perm (p.owned ++ objects)) (hnodup : p'.owned.Nodup) :
    (({ s with clangEnv := clangEnv, clingEnv := clingEnv }).record
      (objects.map .created)).At p' where
  calls := by
    have hnone : (objects.map Action.created).filterMap Action.call = [] := by
      rw [List.filterMap_eq_nil_iff]
      intro a ha
      obtain ⟨o, -, rfl⟩ := List.mem_map.1 ha
      rfl
    rw [MainState.calls, tell_record, hnone, List.append_nil, hcalls]
    exact h.calls
  clangEnv := hclang
  clingEnv := hcling
  save := h.save.trans hsave.symm
  held := by
    obtain ⟨-, hobjects, hdisjoint⟩ := List.nodup_append.1 (howned.nodup_iff.1 hnodup)
    have howned' : {o | o ∈ p'.owned} = {o | o ∈ p.owned} ∪ {o | o ∈ objects} := by
      ext o
      exact howned.mem_iff.trans List.mem_append
    rw [howned']
    apply h.held.createAll (fun o => ⟨rfl, rfl, rfl⟩) hobjects
    exact fun o ho ho' => hdisjoint o ho' o ho rfl
  intact := by
    apply intact_record h.intact
    intro o ho
    obtain ⟨o', -, e⟩ := List.mem_map.1 ho
    cases e

end MainState.At

end Flextool
