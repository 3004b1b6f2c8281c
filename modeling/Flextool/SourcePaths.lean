import Flextool.Main

/-!
# `clang_tool.cc`: what is said about the sources

`logSourcePathList` looks at every source before LibTooling runs and warns about those that it
cannot use.  `Disk.logSourcePathList` is all of it; in a run of `main` only its assertion matters,
and what it warns of is `Disk.complaints`: a path that exists is named, and one that does not never
is (`logSourcePathList_warns`).
-/

namespace Flextool

/-- What `base` answers about files, beyond whether they exist. -/
structure Disk (host : Host) where
  /-- `base::DirectoryExists` -/
  directoryExists : FilePath → Bool
  /-- the size that `base::GetFileInfo` finds; `none` when it fails -/
  getFileInfo : FilePath → Option ℕ
  /-- the absolute path of what exists names it -/
  pathExists_realPath : ∀ path, host.pathExists path = true → host.pathExists (host.realPath path)

/-- `LOG(WARNING)` -/
def warn (message : Str) : Proc Fault (List Str) Unit := Proc.update fun log => log ++ [message]

variable {host : Host}

/-- The body of the loop over the sources. -/
def Disk.logSourcePath (b : Build) (disk : Disk host) (it : FilePath) :
    Proc Fault (List Str) Unit := do
  let absolutePath := host.makeAbsoluteFilePath it
  Proc.ofExcept (dcheck b (!absolutePath.isEmpty))
  let fileInfo := disk.getFileInfo absolutePath
  if !host.pathExists absolutePath then
    warn ("source file does not exist: ".toList ++
      if absolutePath.isEmpty then " (empty path)".toList else absolutePath)
  else if disk.directoryExists absolutePath then
    Proc.ofExcept (dcheck b (!absolutePath.isEmpty))
    warn ("source file must be NOT directory: ".toList ++ absolutePath)
  else
    match fileInfo with
    | none =>
      Proc.ofExcept (dcheck b (!absolutePath.isEmpty))
      warn ("unable to get source file information: ".toList ++ absolutePath)
    | some size =>
      if size = 0 then
        Proc.ofExcept (dcheck b (!absolutePath.isEmpty))
        warn ("source file is empty: ".toList ++ absolutePath)
      else
        return ()

def Disk.logSourcePathList (b : Build) (disk : Disk host) (sourcePathList : List FilePath) :
    Proc Fault (List Str) Unit := do
  if sourcePathList.length < 1 then
    warn "At least one input file expected.".toList
  sourcePathList.forM (disk.logSourcePath b)

/-! ## What it says -/

/-- The path exists. -/
def Disk.complaint (disk : Disk host) (absolutePath : FilePath) : Option Str :=
  if disk.directoryExists absolutePath then
    some ("source file must be NOT directory: ".toList ++ absolutePath)
  else
    match disk.getFileInfo absolutePath with
    | none => some ("unable to get source file information: ".toList ++ absolutePath)
    | some size =>
      if size = 0 then some ("source file is empty: ".toList ++ absolutePath) else none

/-- What is said about one source. -/
def Disk.complaints (disk : Disk host) (it : FilePath) : List Str :=
  if host.pathExists it then (disk.complaint (host.realPath it)).toList
  else ["source file does not exist:  (empty path)".toList]

/-- The sources that are looked at: a debug build stops at the first one that does not exist. -/
def lookedAt (b : Build) (host : Host) (sourcePathList : List FilePath) : List FilePath :=
  if b.dcheckIsOn then sourcePathList.takeWhile host.pathExists else sourcePathList

theorem Disk.realPath_ne_nil (disk : Disk host) {path : FilePath}
    (h : host.pathExists path = true) : host.realPath path ≠ [] := by
  intro hnil
  have hexists := disk.pathExists_realPath path h
  rw [hnil, host.pathExists_nil] at hexists
  exact absurd hexists Bool.false_ne_true

theorem exec_logSourcePath_of_exists (b : Build) (disk : Disk host) {it : FilePath}
    (h : host.pathExists it = true) (log : List Str) :
    (disk.logSourcePath b it).exec log = (.ok (), log ++ disk.complaints it) := by
  have habsolute : host.makeAbsoluteFilePath it = host.realPath it := if_pos h
  have hcheck : dcheck b (!(host.realPath it).isEmpty) = .ok () :=
    dcheck_of_true b (by simpa using disk.realPath_ne_nil h)
  unfold Disk.logSourcePath Disk.complaints Disk.complaint
  simp only [habsolute, hcheck, disk.pathExists_realPath it h, h, if_true, Bool.not_true,
    Bool.false_eq_true, if_false]
  rw [Proc.exec_bind_ok (Proc.exec_ofExcept ..)]
  split
  · rw [Proc.exec_bind_ok (Proc.exec_ofExcept ..)]
    rfl
  · cases disk.getFileInfo (host.realPath it) with
    | none =>
      dsimp only
      rw [Proc.exec_bind_ok (Proc.exec_ofExcept ..)]
      rfl
    | some size =>
      dsimp only
      split
      · rw [Proc.exec_bind_ok (Proc.exec_ofExcept ..)]
        rfl
      · rw [Proc.exec_pure, Option.toList_none, List.append_nil]

theorem exec_logSourcePath_of_not_exists (b : Build) (disk : Disk host) {it : FilePath}
    (h : ¬ host.pathExists it = true) (log : List Str) :
    (disk.logSourcePath b it).exec log =
      if b.dcheckIsOn then (.error .dcheck, log) else (.ok (), log ++ disk.complaints it) := by
  have habsolute : host.makeAbsoluteFilePath it = [] := if_neg h
  unfold Disk.logSourcePath Disk.complaints
  simp only [habsolute, host.pathExists_nil]
  cases hb : b.dcheckIsOn with
  | true =>
    have hcheck : dcheck b (!([] : FilePath).isEmpty) = .error .dcheck := by simp [dcheck, hb]
    rw [hcheck, Proc.exec_bind_error (Proc.exec_ofExcept ..), if_pos rfl]
  | false =>
    have hcheck : dcheck b (!([] : FilePath).isEmpty) = .ok () := by simp [dcheck, hb]
    rw [hcheck, Proc.exec_bind_ok (Proc.exec_ofExcept ..), if_neg h, if_neg Bool.false_ne_true]
    rfl

/-- The whole loop. -/
theorem exec_logSourcePaths (b : Build) (disk : Disk host) (sourcePathList : List FilePath)
    (log : List Str) :
    (sourcePathList.forM (disk.logSourcePath b)).exec log =
      (if b.dcheckIsOn = true ∧ ∃ it ∈ sourcePathList, ¬ host.pathExists it = true
        then .error .dcheck else .ok (),
      log ++ (lookedAt b host sourcePathList).flatMap disk.complaints) := by
  induction sourcePathList generalizing log with
  | nil => simp [lookedAt, List.forM_nil]
  | cons it rest ih =>
    rw [Proc.forM_cons]
    by_cases h : host.pathExists it = true
    · rw [Proc.exec_bind_ok (exec_logSourcePath_of_exists b disk h log), ih]
      cases hb : b.dcheckIsOn with
      | true => simp [lookedAt, hb, h]
      | false => simp [lookedAt, hb]
    · have hone := exec_logSourcePath_of_not_exists b disk h log
      cases hb : b.dcheckIsOn with
      | true =>
        rw [hb, if_pos rfl] at hone
        rw [Proc.exec_bind_error hone]
        simp [lookedAt, hb, h]
      | false =>
        rw [hb, if_neg Bool.false_ne_true] at hone
        rw [Proc.exec_bind_ok hone, ih]
        simp [lookedAt, hb]

theorem exec_logSourcePathList (b : Build) (disk : Disk host) (sourcePathList : List FilePath) :
    (disk.logSourcePathList b sourcePathList).exec [] =
      (if b.dcheckIsOn = true ∧ ∃ it ∈ sourcePathList, ¬ host.pathExists it = true
        then .error .dcheck else .ok (),
      (if sourcePathList = [] then ["At least one input file expected.".toList] else []) ++
        (lookedAt b host sourcePathList).flatMap disk.complaints) := by
  unfold Disk.logSourcePathList
  cases sourcePathList with
  | nil =>
    have hwarn : (warn "At least one input file expected.".toList).exec [] =
        (.ok (), ["At least one input file expected.".toList]) := rfl
    rw [if_pos (by simp), Proc.exec_bind_ok hwarn, exec_logSourcePaths, if_pos rfl]
  | cons it rest =>
    rw [if_neg (by simp), exec_logSourcePaths, if_neg (List.cons_ne_nil it rest)]

/-- The assertion about the sources, when what exists has an absolute path. -/
theorem logSourcePathList_eq (w : World) (disk : Disk w.host) (sources : List SourceRun) :
    logSourcePathList w sources =
      if w.build.dcheckIsOn = true ∧
          ∃ it ∈ sources.map SourceRun.path, ¬ w.host.pathExists it = true
        then .error .dcheck else .ok () := by
  unfold logSourcePathList
  induction sources with
  | nil => simp
  | cons run sources ih =>
    have hstep : dcheck w.build (!(w.host.makeAbsoluteFilePath run.path).isEmpty) =
        if w.build.dcheckIsOn = true ∧ ¬ w.host.pathExists run.path = true
          then .error .dcheck else .ok () := by
      by_cases h : w.host.pathExists run.path = true
      · have hne : w.host.makeAbsoluteFilePath run.path ≠ [] := by
          rw [Host.makeAbsoluteFilePath, if_pos h]
          exact disk.realPath_ne_nil h
        rw [dcheck_of_true _ (by simpa using hne), if_neg fun h' => h'.2 h]
      · rw [Host.makeAbsoluteFilePath, if_neg h]
        cases hb : w.build.dcheckIsOn <;> simp [dcheck, hb, h]
    show (dcheck _ _ >>= fun _ => _) = _
    rw [hstep]
    by_cases h : w.build.dcheckIsOn = true ∧ ¬ w.host.pathExists run.path = true
    · rw [if_pos h, if_pos ⟨h.1, run.path, by simp, h.2⟩]
      rfl
    · rw [if_neg h, Loops.ok_bind, ih]
      simp only [List.map_cons, List.exists_mem_cons_iff]
      congr 1
      rw [eq_iff_iff]
      tauto

/-- With its warnings, `logSourcePathList` ends as a run of `main` has it end.  Of the sources that
are looked at, those that exist are complained about by name, each at most once and in order; for
any other the same is said, which names none.  A debug build looks no further than that, and
stops. -/
theorem logSourcePathList_warns (w : World) (disk : Disk w.host) (sources : List SourceRun) :
    let paths := sources.map SourceRun.path
    let ended := (disk.logSourcePathList w.build paths).exec []
    ended.1 = logSourcePathList w sources ∧
      (ended.1 = .ok () ↔ (w.build.dcheckIsOn = true → ∀ it ∈ paths, w.host.pathExists it = true)) ∧
      ended.2 = (if paths = [] then ["At least one input file expected.".toList] else []) ++
        (lookedAt w.build w.host paths).flatMap disk.complaints := by
  intro paths ended
  have hended : ended = _ := exec_logSourcePathList w.build disk paths
  clear_value ended
  subst hended
  refine ⟨(logSourcePathList_eq w disk sources).symm, ?_, rfl⟩
  by_cases h : w.build.dcheckIsOn = true ∧ ∃ it ∈ paths, ¬ w.host.pathExists it = true
  · rw [if_pos h]
    obtain ⟨hb, it, hit, hnot⟩ := h
    exact iff_of_false (by simp) fun hall => hnot (hall hb it hit)
  · rw [if_neg h]
    refine iff_of_true rfl fun hb it hit => ?_
    by_contra hnot
    exact h ⟨hb, it, hit, hnot⟩

/-- The files of `Host.ofPaths`, none of them a directory, with these sizes. -/
def Disk.ofPaths (paths : List FilePath) (size : FilePath → ℕ) : Disk (Host.ofPaths paths) where
  directoryExists _ := false
  getFileInfo absolutePath := some (size absolutePath)
  pathExists_realPath _ h := h

theorem logSourcePathList_warns_three :
    let paths := ["/src/a.cc".toList, "/src/empty.cc".toList, "/src/missing.cc".toList]
    let sources := paths.map fun path => SourceRun.sample path true
    let w : World := { World.sample [] sources with
      build := ⟨true, false⟩, host := Host.ofPaths ["/src/a.cc".toList, "/src/empty.cc".toList] }
    let disk := Disk.ofPaths ["/src/a.cc".toList, "/src/empty.cc".toList] fun path =>
      if path = "/src/empty.cc".toList then 0 else 1
    let ended := (disk.logSourcePathList w.build paths).exec []
    ended.1 = logSourcePathList w sources ∧ ended.1 = .ok () ∧
      ended.2 = ["source file is empty: /src/empty.cc".toList,
        "source file does not exist:  (empty path)".toList] := by
  intro paths sources w disk ended
  have hended := logSourcePathList_warns w disk sources
  simp only [show sources.map SourceRun.path = paths from rfl] at hended
  obtain ⟨hsame, hreturns, hsays⟩ := hended
  refine ⟨hsame, hreturns.2 fun hb => absurd hb (by decide), hsays.trans ?_⟩
  decide

end Flextool
