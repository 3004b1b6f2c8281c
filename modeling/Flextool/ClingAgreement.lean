import Flextool.Forwarding
import Flextool.ClingEnvironment

/-!
# Clang and Cling on one command line

`populateClangArguments` hands the extra compiler flags of the command line to Clang and to Cling,
and `ScopedClingEnvironment.init` consumes the second list.  The two lists agree exactly when every
flag has a single dash in front (`populateClangArguments_cling_eq_iff`), and the consumer accepts
what the producer made exactly when some keyed option, and no positional argument, got through
(`clingInit_accepts_iff`).
-/

namespace Flextool

open Loops

/-! ## Extra compiler flags -/

def extraArgKey : Str := "extra-arg".toList

/-- The extra compiler flags that an option holds. -/
def UnergisteredOption.extraArgs (o : UnergisteredOption) : List Str :=
  if o.key = extraArgKey then o.values.filter fun v => !v.isEmpty else []

/-- The extra compiler flags of a command line. -/
def extraArgs (opts : List UnergisteredOption) : List Str :=
  opts.flatMap UnergisteredOption.extraArgs

/-- The flag is one dash and then something else. -/
def SingleDash (flag : Str) : Prop := ∃ c rest, flag = '-' :: c :: rest ∧ c ≠ '-'

theorem extraArgKey_head : extraArgKey ≠ [] ∧ extraArgKey.head? ≠ some '-' := by decide

theorem text_of_extraArg {o : UnergisteredOption} (h : o.key = extraArgKey) (v : Str) :
    o.text v = kExtraArgPrefix ++ v := by
  have hprefix : kExtraArgPrefix = extraArgKey ++ ['='] := kExtraArgPrefix_eq
  rw [o.text_of_key_ne_nil (h ▸ extraArgKey_head.1), h, hprefix, List.append_assoc,
    List.singleton_append]

/-- Clang sees every extra flag as it was given. -/
theorem clangOutputs_extraArg (host : Host) {o : UnergisteredOption} (h : o.key = extraArgKey) :
    clangOutputs host o = o.values.map fun v => '-' :: (kExtraArgPrefix ++ v) := by
  have hallowed : ∀ v, Allowed host (o.text v) = true := fun v => by
    rw [text_of_extraArg h]
    exact allowed_of_startsWith_extraArg host (startsWith_extraArg v)
  rw [clangOutputs_keyed host (h ▸ extraArgKey_head.1) (h ▸ extraArgKey_head.2),
    List.filter_eq_self.2 fun v _ => hallowed v]
  apply List.map_congr_left
  intro v _
  rw [← text_of_extraArg h, o.text_of_key_ne_nil (h ▸ extraArgKey_head.1)]

/-- Cling sees a flag as it was given when it has a single dash in front: the first character is
cut off and a dash is put back, unless there is one already. -/
theorem clingOutput_extraArg_eq_iff {v : Str} (hv : 2 ≤ v.length) :
    clingOutput extraArgKey (kExtraArgPrefix ++ v) = [v] ↔ SingleDash v := by
  match v with
  | a :: c :: rest =>
    have hdrop : (kExtraArgPrefix ++ a :: c :: rest).drop 11 = c :: rest := by
      have hall : kExtraArgPrefix.length ≤ 11 := by simp [kExtraArgPrefix_length]
      rw [List.drop_append, kExtraArgPrefix_length, List.drop_eq_nil_of_le hall]
      rfl
    have hget : (kExtraArgPrefix ++ a :: c :: rest)[11]? = some c := by
      rw [List.getElem?_append_right (by simp [kExtraArgPrefix_length]), kExtraArgPrefix_length]
      rfl
    have hkey : extraArgKey.isEmpty = false := rfl
    simp only [clingOutput, Pipelined, startsWith_extraArg, hdrop, hget, hkey]
    by_cases hc : c = '-'
    · simp [hc, SingleDash]
    · simp [hc, SingleDash, eq_comm]

theorem clingOutput_length_le (key text : Str) : (clingOutput key text).length ≤ 1 := by
  unfold clingOutput
  split <;> simp

theorem mem_clingOutputs {b : Build} (hb : b.clingIsOn = true) (o : UnergisteredOption)
    (arg : Str) : arg ∈ clingOutputs b o ↔
      ∃ v ∈ o.values, Pipelined (o.text v) ∧ arg ∈ clingOutput o.key (o.text v) := by
  have hpipelined : ∀ v, arg ∈ clingOutput o.key (o.text v) → Pipelined (o.text v) := fun v hv => by
    by_contra hp
    rw [clingOutput_of_not_pipelined hp] at hv
    exact List.not_mem_nil hv
  by_cases hd : o.key.head? = some '-'
  · obtain ⟨key, hkey⟩ : ∃ key, o.key = '-' :: key := List.head?_eq_some_iff.1 hd
    have htext : ∀ v, (o.text v).head? = some '-' := fun v => by
      rw [o.text_of_key_ne_nil (by simp [hkey]), hkey]
      rfl
    unfold clingOutputs
    rw [o.texts_of_dash hd]
    simp only [List.flatMap_nil, List.not_mem_nil, false_iff]
    rintro ⟨v, -, hp, -⟩
    exact hp.head_ne_dash (htext v)
  · unfold clingOutputs
    rw [o.texts_of_not_dash hd, List.flatMap_map, List.mem_flatMap]
    simp only [hb, if_true]
    exact exists_congr fun v => and_congr_right fun _ => ⟨fun h => ⟨hpipelined v h, h⟩, And.right⟩

theorem clingOutputs_eq_nil {b : Build} (hb : b.clingIsOn = true) {o : UnergisteredOption}
    (h : ∀ v ∈ o.values, startsWith (o.text v) kExtraArgPrefix = false) :
    clingOutputs b o = [] := by
  apply List.eq_nil_iff_forall_not_mem.2
  intro arg harg
  obtain ⟨v, hv, hp, -⟩ := (mem_clingOutputs hb o arg).1 harg
  rw [Pipelined, h v hv] at hp
  exact absurd hp.1 (by simp)

/-- The Cling arguments that an option with extra flags gives are no more than its flags, and are
its flags exactly when each has a single dash. -/
theorem clingOutputs_extraArg {b : Build} (hb : b.clingIsOn = true) {o : UnergisteredOption}
    (h : o.key = extraArgKey) (hsafe : ∀ text ∈ o.texts, TextSafe b text) :
    (clingOutputs b o).length ≤ o.extraArgs.length ∧
      (clingOutputs b o = o.extraArgs ↔ ∀ v ∈ o.extraArgs, SingleDash v) := by
  have htexts : o.texts = o.values.map o.text := o.texts_of_not_dash (h ▸ extraArgKey_head.2)
  have hlen : ∀ v ∈ o.values, 2 ≤ v.length := fun v hv => by
    have htext := hsafe (o.text v) (htexts ▸ List.mem_map_of_mem hv)
    rw [text_of_extraArg h] at htext
    have := htext.2.2 hb (startsWith_extraArg v)
    rw [List.length_append, kExtraArgPrefix_length] at this
    omega
  have hargs : o.extraArgs = o.values := by
    rw [UnergisteredOption.extraArgs, if_pos h, List.filter_eq_self]
    intro v hv
    have := hlen v hv
    cases v with
    | nil => simp at this
    | cons c v => rfl
  have houts : clingOutputs b o =
      o.values.flatMap fun v => clingOutput extraArgKey (kExtraArgPrefix ++ v) := by
    unfold clingOutputs
    rw [htexts, List.flatMap_map]
    simp only [hb, if_true, h, text_of_extraArg h]
  have hone : ∀ v ∈ o.values,
      (clingOutput extraArgKey (kExtraArgPrefix ++ v)).length ≤ [v].length := fun v _ =>
    clingOutput_length_le _ _
  have hvalues : (o.values.flatMap fun v => [v]) = o.values := List.flatMap_singleton' _
  rw [hargs, houts]
  constructor
  · simpa only [hvalues] using length_flatMap_le hone
  · rw [← forall₂_congr fun v hv => clingOutput_extraArg_eq_iff (hlen v hv),
      ← flatMap_eq_iff_of_length_le hone, hvalues]

/-- When `populateClangArguments` returns true and nothing else begins with `extra-arg=`, Cling gets
the extra flags of the command line exactly when each of them has a single dash. -/
theorem populateClangArguments_cling_eq_iff (b : Build) (host : Host) (path : FilePath)
    (args res : Arguments) (opts : List UnergisteredOption) (hb : b.clingIsOn = true)
    (h : populateClangArguments b host path args opts = .ok (true, res))
    (hother : ∀ o ∈ opts, o.key ≠ extraArgKey →
      ∀ v ∈ o.values, startsWith (o.text v) kExtraArgPrefix = false) :
    res.clingExtraArgs = args.clingExtraArgs ++ extraArgs opts ↔
      ∀ v ∈ extraArgs opts, SingleDash v := by
  obtain ⟨defaults, -, hsafe, rfl⟩ := (populateClangArguments_eq_ok_iff ..).1 h
  have hoption : ∀ o ∈ opts, (clingOutputs b o).length ≤ o.extraArgs.length ∧
      (clingOutputs b o = o.extraArgs ↔ ∀ v ∈ o.extraArgs, SingleDash v) := fun o ho => by
    by_cases hkey : o.key = extraArgKey
    · exact clingOutputs_extraArg hb hkey (hsafe o ho)
    · have hnil : o.extraArgs = [] := if_neg hkey
      rw [clingOutputs_eq_nil hb (hother o ho hkey), hnil]
      simp
  rw [Arguments.emit, List.append_right_inj, extraArgs,
    flatMap_eq_iff_of_length_le fun o ho => (hoption o ho).1]
  rw [forall₂_congr fun o ho => (hoption o ho).2]
  simp only [List.mem_flatMap, forall_exists_index, and_imp]
  exact ⟨fun hall v o ho hv => hall o ho v hv, fun hall o ho v hv => hall v o ho hv⟩

theorem populateClangArguments_cling_eq_iff_define :
    ["-DX".toList] = [] ++ extraArgs [⟨"extra-arg".toList, ["-DX".toList]⟩] ↔
      ∀ v ∈ extraArgs [⟨"extra-arg".toList, ["-DX".toList]⟩], SingleDash v :=
  populateClangArguments_cling_eq_iff ⟨true, true⟩ (Host.ofPaths []) [] ⟨[], []⟩
    ⟨pushDefaultClangArgs (Host.ofPaths []) [] "/opt".toList [] ++ ["-extra-arg=-DX".toList],
      ["-DX".toList]⟩ [⟨"extra-arg".toList, ["-DX".toList]⟩] rfl (by decide)
    (by decide)

/-- `--extra-arg=--std=c++17` is handed to Clang, and Cling never sees it. -/
theorem populateClangArguments_cling_loses_flag :
    ∃ res, populateClangArguments ⟨true, true⟩ (Host.ofPaths []) [] ⟨[], []⟩
        [⟨"extra-arg".toList, ["--std=c++17".toList]⟩] = .ok (true, res) ∧
      (∀ o ∈ [(⟨"extra-arg".toList, ["--std=c++17".toList]⟩ : UnergisteredOption)],
        o.key ≠ extraArgKey → ∀ v ∈ o.values, startsWith (o.text v) kExtraArgPrefix = false) ∧
      res.clingExtraArgs ≠ [] ++ extraArgs [⟨"extra-arg".toList, ["--std=c++17".toList]⟩] :=
  ⟨⟨pushDefaultClangArgs (Host.ofPaths []) [] "/opt".toList [] ++
      ["-extra-arg=--std=c++17".toList], []⟩, by decide, by decide,
    by decide⟩

/-! ## Starting the interpreter -/

theorem clingOutput_of_pipelined (key : Str) {text : Str} (h : Pipelined text) :
    clingOutput key text = [if key.isEmpty then text.drop 11 else '-' :: text.drop 11] := if_pos h

/-- An argument that got through has its dash exactly when the option has a key. -/
theorem dashed_of_mem_clingOutput {key text arg : Str} (h : arg ∈ clingOutput key text) :
    Dashed arg ↔ key ≠ [] := by
  have hp : Pipelined text := by
    by_contra hp
    rw [clingOutput_of_not_pipelined hp] at h
    exact List.not_mem_nil h
  rw [clingOutput_of_pipelined key hp, List.mem_singleton] at h
  subst h
  cases key with
  | nil => simpa [Dashed] using hp.2
  | cons c key => simp [Dashed]

/-- The extra arguments of a command line are some, and all dashed, exactly when the text of some
option with a key, and of none without, is passed on. -/
theorem clingOutputs_dashed_iff {b : Build} (hb : b.clingIsOn = true)
    (opts : List UnergisteredOption) :
    (opts.flatMap (clingOutputs b) ≠ [] ∧
      ∀ arg ∈ opts.flatMap (clingOutputs b), Dashed arg) ↔
      (∃ o ∈ opts, o.key ≠ [] ∧ ∃ v ∈ o.values, Pipelined (o.text v)) ∧
        ∀ o ∈ opts, o.key = [] → ∀ v ∈ o.values, ¬ Pipelined v := by
  have hmem : ∀ arg, arg ∈ opts.flatMap (clingOutputs b) ↔ ∃ o ∈ opts, ∃ v ∈ o.values,
      Pipelined (o.text v) ∧ arg ∈ clingOutput o.key (o.text v) := fun arg => by
    simp only [List.mem_flatMap, mem_clingOutputs hb]
  have hsome : ∀ o ∈ opts, ∀ v ∈ o.values, Pipelined (o.text v) →
      ∃ arg ∈ opts.flatMap (clingOutputs b), arg ∈ clingOutput o.key (o.text v) := by
    intro o ho v hv hp
    have hout := clingOutput_of_pipelined o.key hp
    exact ⟨_, (hmem _).2 ⟨o, ho, v, hv, hp, hout ▸ List.mem_singleton_self _⟩,
      hout ▸ List.mem_singleton_self _⟩
  constructor
  · rintro ⟨hne, hdashed⟩
    constructor
    · obtain ⟨arg, harg⟩ := List.exists_mem_of_ne_nil _ hne
      obtain ⟨o, ho, v, hv, hp, hout⟩ := (hmem arg).1 harg
      exact ⟨o, ho, (dashed_of_mem_clingOutput hout).1 (hdashed arg harg), v, hv, hp⟩
    · intro o ho hkey v hv hp
      rw [← o.text_of_key_nil hkey v] at hp
      obtain ⟨arg, harg, hout⟩ := hsome o ho v hv hp
      exact (dashed_of_mem_clingOutput hout).1 (hdashed arg harg) hkey
  · rintro ⟨⟨o, ho, -, v, hv, hp⟩, hkeyless⟩
    constructor
    · obtain ⟨arg, harg, -⟩ := hsome o ho v hv hp
      exact List.ne_nil_of_mem harg
    · intro arg harg
      obtain ⟨o, ho, v, hv, hp, hout⟩ := (hmem arg).1 harg
      apply (dashed_of_mem_clingOutput hout).2
      intro hkey
      exact hkeyless o ho hkey v hv (o.text_of_key_nil hkey v ▸ hp)

/-- In a build with Cling, everything that `ScopedClingEnvironment.init` asserts about the extra
arguments holds of what `populateClangArguments` collected exactly when the text of some option
with a key, and of none without, is passed on to Cling. -/
theorem clingInit_accepts_iff (b : Build) (host : Host) (path : FilePath) (res : Arguments)
    (opts : List UnergisteredOption) (hb : b.clingIsOn = true)
    (h : populateClangArguments b host path ⟨[], []⟩ opts = .ok (true, res)) :
    (res.clingExtraArgs ≠ [] ∧
      (∀ arg ∈ res.clingExtraArgs, startsWith arg kClingArgPrefix = true) ∧
      ∀ scriptFiles, (∀ file ∈ scriptFiles, file ≠ []) → ∃ defaults env,
        addDefaultClingArgs b host [] = .ok (true, defaults) ∧
        (ScopedClingEnvironment.init b host scriptFiles res.clingExtraArgs).result .new =
          .ok (true, env) ∧
        env.clingInterpreterArgs = defaults ++ res.clingExtraArgs) ↔
      (∃ o ∈ opts, o.key ≠ [] ∧ ∃ v ∈ o.values, Pipelined (o.text v)) ∧
        ∀ o ∈ opts, o.key = [] → ∀ v ∈ o.values, ¬ Pipelined v := by
  obtain ⟨clangDefaults, hclang, -, rfl⟩ := (populateClangArguments_eq_ok_iff ..).1 h
  obtain ⟨dirExe, hdir, -⟩ := (addDefaultClangArgs_eq_ok_true_iff ..).1 hclang
  have hdefaults : addDefaultClingArgs b host [] =
      .ok (true, pushDefaultClingArgs host dirExe []) :=
    (addDefaultClingArgs_eq_ok_true_iff ..).2 ⟨dirExe, hdir, rfl, rfl⟩
  rw [← clingOutputs_dashed_iff hb opts]
  simp only [Arguments.emit, List.nil_append]
  generalize opts.flatMap (clingOutputs b) = extra
  have hdash : ∀ arg, startsWith arg kClingArgPrefix = true ↔ Dashed arg := startsWith_dash
  simp only [hdash]
  constructor
  · rintro ⟨hne, hdashed, -⟩
    exact ⟨hne, hdashed⟩
  · rintro ⟨hne, hdashed⟩
    refine ⟨hne, hdashed, ?_⟩
    -- what is asserted of the vector is all that `init` needs to keep every element of it
    intro scriptFiles hscripts
    refine ⟨_, _, hdefaults, (ScopedClingEnvironment.init_eq_ok_true_iff hb ..).2
      ⟨_, hdefaults, fun _ => ⟨hne, hdashed, List.cons_ne_nil _ _, hscripts⟩, rfl⟩, ?_⟩
    have hall : (extra.filter fun arg => decide (Dashed arg)) = extra :=
      List.filter_eq_self.2 fun arg harg => decide_eq_true (hdashed arg harg)
    simp only [ScopedClingEnvironment.started, hall]

theorem clingInit_accepts_iff_define :
    (["-DX".toList] ≠ [] ∧ (∀ arg ∈ ["-DX".toList], startsWith arg kClingArgPrefix = true) ∧
      ∀ scriptFiles : List FilePath, (∀ file ∈ scriptFiles, file ≠ []) → ∃ defaults env,
        addDefaultClingArgs ⟨true, true⟩ (Host.ofPaths []) [] = .ok (true, defaults) ∧
        (ScopedClingEnvironment.init ⟨true, true⟩ (Host.ofPaths []) scriptFiles
          ["-DX".toList]).result .new = .ok (true, env) ∧
        env.clingInterpreterArgs = defaults ++ ["-DX".toList]) ↔
      (∃ o ∈ [(⟨"extra-arg".toList, ["-DX".toList]⟩ : UnergisteredOption)], o.key ≠ [] ∧
        ∃ v ∈ o.values, Pipelined (o.text v)) ∧
        ∀ o ∈ [(⟨"extra-arg".toList, ["-DX".toList]⟩ : UnergisteredOption)], o.key = [] →
          ∀ v ∈ o.values, ¬ Pipelined v :=
  clingInit_accepts_iff ⟨true, true⟩ (Host.ofPaths []) []
    ⟨pushDefaultClangArgs (Host.ofPaths []) [] "/opt".toList [] ++ ["-extra-arg=-DX".toList],
      ["-DX".toList]⟩ [⟨"extra-arg".toList, ["-DX".toList]⟩] rfl (by decide)

/-- Without any extra flag on the command line, `init` fails its `DCHECK` that there is one. -/
theorem clingInit_rejects_plain_command_line :
    ∃ res, populateClangArguments ⟨true, true⟩ (Host.ofPaths []) [] ⟨[], []⟩ [] = .ok (true, res) ∧
      res.clingExtraArgs = [] ∧
      (ScopedClingEnvironment.init ⟨true, true⟩ (Host.ofPaths []) []
        res.clingExtraArgs).result .new = .error .dcheck :=
  ⟨⟨pushDefaultClangArgs (Host.ofPaths []) [] "/opt".toList [], []⟩, by decide, rfl,
    by decide⟩

end Flextool
