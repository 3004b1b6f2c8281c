import Flextool.ClangUtilProof

/-!
# Forwarding options to LibTooling

The documented options of LibTooling are given a meaning (`meaning`), independent of how
`populateClangArguments` filters texts, and the two are compared.  They agree exactly on the command
lines all of whose options are `ForwardedExactly`: the filter drops every option without values,
matches the beginning of a text where whole words are meant, and tests whether the joined text
names a file.  So no `help`, `help-list` or `version` is ever forwarded as it is meant.
-/

namespace Flextool

open Loops

/-! ## The meaning of an option -/

/-- LibTooling options that take a value. -/
def valuedFlags : List Str := ["extra-arg".toList, "extra-arg-before".toList, "p".toList]

/-- LibTooling options without a value. -/
def valuelessFlags : List Str := ["help".toList, "help-list".toList, "version".toList]

/-- The key is one of the words, up to ASCII case. -/
def isFlag (words : List Str) (key : Str) : Bool :=
  words.any fun word => decide (word.map Char.toLower = key.map Char.toLower)

/-- What an option asks of LibTooling. -/
def meaning (host : Host) (o : UnergisteredOption) : List Str :=
  if isFlag valuedFlags o.key then
    (o.values.filter fun v => !v.isEmpty).map fun v => '-' :: (o.key ++ '=' :: v)
  else if isFlag valuelessFlags o.key then
    if o.values = [] then ['-' :: o.key] else []
  else if o.key = [] then
    o.values.filter fun v => decide (v.head? ≠ some '-') && host.pathExists v
  else []

/-- The option is one on which the text filter and the meaning agree. -/
structure UnergisteredOption.ForwardedExactly (host : Host) (o : UnergisteredOption) : Prop where
  /-- such an option is dropped without a value, and passed on with one -/
  valueless : isFlag valuelessFlags o.key = false
  /-- an empty value is passed on -/
  valued : isFlag valuedFlags o.key = true → [] ∉ o.values
  /-- a word that begins like an option is passed on as a source file -/
  positional : o.key = [] → ∀ v ∈ o.values, v.head? ≠ some '-' → NamesOption v = true →
    host.pathExists v = true
  /-- other options are passed on when their text begins like an option or names a file -/
  unknown : o.key ≠ [] → o.key.head? ≠ some '-' → isFlag valuedFlags o.key = false →
    ∀ v ∈ o.values, NamesOption (o.text v) = false ∧ host.pathExists (o.text v) = false

/-! ## Keys that are flags -/

theorem isFlag_iff (words : List Str) (key : Str) :
    isFlag words key = true ↔ ∃ word ∈ words, word.map Char.toLower = key.map Char.toLower := by
  simp [isFlag]

/-- A character that no word of the list holds, up to case, is not in a flag. -/
theorem not_mem_of_isFlag {words : List Str} {key : Str} {c : Char}
    (hc : ∀ word ∈ words, c.toLower ∉ word.map Char.toLower) (h : isFlag words key = true) :
    c ∉ key := by
  obtain ⟨word, hw, e⟩ := (isFlag_iff words key).1 h
  intro hk
  exact hc word hw (e ▸ List.mem_map_of_mem hk)

theorem head_of_isFlag {words : List Str} {key : Str}
    (hwords : ∀ word ∈ words, word ≠ [] ∧ (word.map Char.toLower).head? ≠ some '-')
    (h : isFlag words key = true) : key ≠ [] ∧ key.head? ≠ some '-' := by
  obtain ⟨word, hw, e⟩ := (isFlag_iff words key).1 h
  obtain ⟨hne, hd⟩ := hwords word hw
  constructor
  · rintro rfl
    exact hne (by simpa using e)
  · intro hk
    rw [e, List.head?_map, hk] at hd
    exact hd rfl

theorem valuedFlag_head {key : Str} (h : isFlag valuedFlags key = true) :
    key ≠ [] ∧ key.head? ≠ some '-' := head_of_isFlag (by decide) h

theorem valuelessFlag_head {key : Str} (h : isFlag valuelessFlags key = true) :
    key ≠ [] ∧ key.head? ≠ some '-' := head_of_isFlag (by decide) h

theorem valuelessFlag_not_valued {key : Str} (h : isFlag valuelessFlags key = true) :
    isFlag valuedFlags key = false := by
  obtain ⟨word, hw, e⟩ := (isFlag_iff _ _).1 h
  have apart : ∀ w ∈ valuelessFlags, isFlag valuedFlags w = false := by decide
  have same : isFlag valuedFlags key = isFlag valuedFlags word := by simp only [isFlag, e]
  rw [same, apart word hw]

/-- The joined text of a valued flag begins with one of the allowed forms. -/
theorem namesOption_of_valuedFlag {key : Str} (h : isFlag valuedFlags key = true) (v : Str) :
    NamesOption (key ++ '=' :: v) = true := by
  obtain ⟨word, hw, e⟩ := (isFlag_iff _ _).1 h
  have hform : ∀ w ∈ valuedFlags, w ++ ['='] ∈ allowedClangArguments := by decide
  have hsep : ∀ w ∈ valuedFlags, Char.toLower '=' ∉ w.map Char.toLower := by decide
  apply namesOption_of_startsWith (hform word hw)
  rw [startsWith_iff, Strings.begins_sep_join_iff (hsep word hw)]
  exact Or.inl e

/-- So does that of an option that should have no value. -/
theorem namesOption_of_valuelessFlag {key : Str} (h : isFlag valuelessFlags key = true)
    (rest : Str) : NamesOption (key ++ rest) = true := by
  obtain ⟨word, hw, e⟩ := (isFlag_iff _ _).1 h
  have hform : ∀ w ∈ valuelessFlags, w ∈ allowedClangArguments := by decide
  apply namesOption_of_startsWith (hform word hw)
  rw [startsWith_iff, Strings.Begins, List.map_append, e]
  exact List.prefix_append _ _

/-! ## One option -/

theorem clangOutputs_of_dash (host : Host) {o : UnergisteredOption}
    (h : o.key.head? = some '-') : clangOutputs host o = [] := by
  unfold clangOutputs
  rw [UnergisteredOption.texts_of_dash h, List.flatMap_nil]

theorem clangOutputs_keyed (host : Host) {o : UnergisteredOption} (hk : o.key ≠ [])
    (hd : o.key.head? ≠ some '-') :
    clangOutputs host o = (o.values.filter fun v => Allowed host (o.text v)).map
      fun v => '-' :: (o.key ++ '=' :: v) := by
  obtain ⟨c, key, hkey⟩ := List.exists_cons_of_ne_nil hk
  have hc : c ≠ '-' := by simpa [hkey] using hd
  unfold clangOutputs
  rw [UnergisteredOption.texts_of_not_dash hd, List.flatMap_map]
  simp only [clangOutput, o.text_of_key_ne_nil hk, hkey, List.cons_append, List.head?_cons,
    List.isEmpty_cons, ne_eq, Option.some.injEq, hc, not_false_eq_true, and_true,
    Bool.false_eq_true, if_false, flatMap_ite_singleton, Bool.decide_eq_true]

theorem clangOutputs_positional (host : Host) {o : UnergisteredOption} (hk : o.key = []) :
    clangOutputs host o =
      o.values.filter fun v => decide (Allowed host v = true ∧ v.head? ≠ some '-') := by
  unfold clangOutputs
  rw [UnergisteredOption.texts_of_not_dash (by simp [hk]), List.flatMap_map]
  simp only [clangOutput, o.text_of_key_nil hk, hk, List.isEmpty_nil, if_true,
    flatMap_ite_singleton, List.map_id']

section

variable (host : Host) {o : UnergisteredOption}

/-! ### A flag with a value -/

theorem forwardedExactly_iff_of_valued (h : isFlag valuedFlags o.key = true) :
    o.ForwardedExactly host ↔ [] ∉ o.values := by
  have hvalueless : isFlag valuelessFlags o.key = false := by
    by_contra hw
    have hnot := valuelessFlag_not_valued (by simpa using hw)
    exact absurd (hnot.symm.trans h) Bool.false_ne_true
  exact ⟨fun hexact => hexact.valued h, fun hnil => ⟨hvalueless, fun _ => hnil,
    fun hk => absurd hk (valuedFlag_head h).1, fun _ _ hv => absurd h (by simp [hv])⟩⟩

/-- The values are the same, but for the empty ones. -/
theorem meaning_of_valued (h : isFlag valuedFlags o.key = true) :
    (meaning host o).Sublist (clangOutputs host o) ∧
      (meaning host o = clangOutputs host o ↔ o.ForwardedExactly host) := by
  obtain ⟨hk, hd⟩ := valuedFlag_head h
  have hall : ∀ v, Allowed host (o.text v) = true := fun v => by
    rw [o.text_of_key_ne_nil hk]
    exact allowed_of_namesOption host (namesOption_of_valuedFlag h v)
  have hinj : Function.Injective fun v : Str => '-' :: (o.key ++ '=' :: v) := fun v w e => by
    simpa using e
  unfold meaning
  rw [if_pos h, clangOutputs_keyed host hk hd, forwardedExactly_iff_of_valued host h]
  refine ⟨(List.monotone_filter_right _ fun v _ => hall v).map _, ?_⟩
  rw [List.map_inj_right (fun _ _ e => hinj e),
    filter_eq_filter_iff_of_imp fun v _ _ => hall v]
  constructor
  · intro heq hnil
    exact absurd (heq [] hnil (hall [])) (by simp)
  · intro hnil v hv _
    have hne : v ≠ [] := fun e => hnil (e ▸ hv)
    simpa using hne

/-! ### A positional argument -/

theorem forwardedExactly_iff_of_positional (hk : o.key = []) :
    o.ForwardedExactly host ↔ ∀ v ∈ o.values, v.head? ≠ some '-' → NamesOption v = true →
      host.pathExists v = true := by
  have hvalueless : isFlag valuelessFlags o.key = false := by
    by_contra hw
    exact (valuelessFlag_head (by simpa using hw)).1 hk
  exact ⟨fun hexact => hexact.positional hk, fun hwords => ⟨hvalueless,
    fun hv => absurd hk (valuedFlag_head hv).1, fun _ => hwords, fun hne => absurd hk hne⟩⟩

/-- The paths that exist are passed on, and other words as well. -/
theorem meaning_of_positional (hk : o.key = []) :
    (meaning host o).Sublist (clangOutputs host o) ∧
      (meaning host o = clangOutputs host o ↔ o.ForwardedExactly host) := by
  have hvalued : ¬ isFlag valuedFlags o.key = true := fun h => (valuedFlag_head h).1 hk
  have hvalueless : ¬ isFlag valuelessFlags o.key = true := fun h => (valuelessFlag_head h).1 hk
  have himp : ∀ v : Str, (decide (v.head? ≠ some '-') && host.pathExists v) = true →
      decide (Allowed host v = true ∧ v.head? ≠ some '-') = true := fun v hv => by
    simp only [Bool.and_eq_true, decide_eq_true_eq] at hv ⊢
    exact ⟨by simp [Allowed, hv.2], hv.1⟩
  unfold meaning
  rw [if_neg hvalued, if_neg hvalueless, if_pos hk, clangOutputs_positional host hk,
    forwardedExactly_iff_of_positional host hk]
  refine ⟨List.monotone_filter_right _ himp, ?_⟩
  rw [filter_eq_filter_iff_of_imp fun v _ => himp v]
  constructor
  · intro heq v hv hd hn
    have hkept := heq v hv (by simp [Allowed, hn, hd])
    simp only [Bool.and_eq_true] at hkept
    exact hkept.2
  · intro hwords v hv ha
    simp only [decide_eq_true_eq, Allowed, Bool.or_eq_true] at ha
    simp only [Bool.and_eq_true, decide_eq_true_eq]
    exact ⟨ha.2, ha.1.elim (hwords v hv ha.2) id⟩

/-! ### Any other key -/

theorem meaning_of_unvalued (hk : o.key ≠ []) (hvalued : isFlag valuedFlags o.key = false)
    (hkept : isFlag valuelessFlags o.key = true → o.values ≠ []) : meaning host o = [] := by
  unfold meaning
  rw [if_neg (by simp [hvalued])]
  by_cases hw : isFlag valuelessFlags o.key = true
  · rw [if_pos hw, if_neg (hkept hw)]
  · rw [if_neg hw, if_neg hk]

/-- Nothing should be passed on, and everything is that looks like a flag. -/
theorem clangOutputs_eq_nil_iff (hk : o.key ≠ []) (hvalued : isFlag valuedFlags o.key = false)
    (hkept : isFlag valuelessFlags o.key = true → o.values ≠ []) :
    clangOutputs host o = [] ↔ o.ForwardedExactly host := by
  by_cases hd : o.key.head? = some '-'
  · rw [clangOutputs_of_dash host hd]
    have hvalueless : isFlag valuelessFlags o.key = false := by
      by_contra hw
      exact (valuelessFlag_head (by simpa using hw)).2 hd
    exact iff_of_true rfl ⟨hvalueless, fun hv => absurd hv (by simp [hvalued]),
      fun e => absurd e hk, fun _ hd' => absurd hd hd'⟩
  · rw [clangOutputs_keyed host hk hd, List.map_eq_nil_iff, List.filter_eq_nil_iff]
    constructor
    · intro h
      refine ⟨?_, fun hv => absurd hv (by simp [hvalued]), fun e => absurd e hk,
        fun _ _ _ v hv => by simpa [Allowed] using h v hv⟩
      -- a value of a flag that takes none would be passed on
      by_contra hw
      have hw : isFlag valuelessFlags o.key = true := by simpa using hw
      obtain ⟨v, hv⟩ := List.exists_mem_of_ne_nil _ (hkept hw)
      have hnames := namesOption_of_valuelessFlag hw ('=' :: v)
      rw [← o.text_of_key_ne_nil hk] at hnames
      exact h v hv (allowed_of_namesOption host hnames)
    · intro h v hv
      simpa [Allowed] using h.unknown hk hd hvalued v hv

/-! ### All of them -/

/-- For an option that is not dropped, nothing of its meaning is lost, and nothing is added exactly
when it is forwarded exactly. -/
theorem meaning_sublist_and_eq_iff (hkept : isFlag valuelessFlags o.key = true → o.values ≠ []) :
    (meaning host o).Sublist (clangOutputs host o) ∧
      (meaning host o = clangOutputs host o ↔ o.ForwardedExactly host) := by
  by_cases hvalued : isFlag valuedFlags o.key = true
  · exact meaning_of_valued host hvalued
  · have hvalued : isFlag valuedFlags o.key = false := by simpa using hvalued
    by_cases hk : o.key = []
    · exact meaning_of_positional host hk
    · rw [meaning_of_unvalued host hk hvalued hkept, eq_comm]
      exact ⟨List.nil_sublist _, clangOutputs_eq_nil_iff host hk hvalued hkept⟩

end

/-- A dropped flag is the output of no option: the outputs with a key hold a `=`, the others do not
begin with a dash. -/
theorem flag_not_mem_clangOutputs (host : Host) (o : UnergisteredOption) {flag : Str}
    (h : isFlag valuelessFlags flag = true) : '-' :: flag ∉ clangOutputs host o := by
  have hsep : '=' ∉ flag := not_mem_of_isFlag (by decide) h
  by_cases hk : o.key = []
  · rw [clangOutputs_positional host hk]
    simp
  · by_cases hd : o.key.head? = some '-'
    · rw [clangOutputs_of_dash host hd]
      simp
    · rw [clangOutputs_keyed host hk hd, List.mem_map]
      rintro ⟨v, -, e⟩
      simp only [List.cons.injEq, true_and] at e
      exact hsep (e ▸ by simp)

/-! ## The whole command line -/

/-- What the options of a command line give is their meaning exactly when each option is forwarded
exactly: an option that gives too much is never made up for by one that is dropped. -/
theorem flatMap_meaning_eq_iff (host : Host) (opts : List UnergisteredOption) :
    opts.flatMap (meaning host) = opts.flatMap (clangOutputs host) ↔
      ∀ o ∈ opts, o.ForwardedExactly host := by
  by_cases hkept : ∀ o ∈ opts, isFlag valuelessFlags o.key = true → o.values ≠ []
  · rw [flatMap_eq_iff_of_length_le fun o ho =>
      (meaning_sublist_and_eq_iff host (hkept o ho)).1.length_le]
    exact forall₂_congr fun o ho => (meaning_sublist_and_eq_iff host (hkept o ho)).2
  · refine iff_of_false (fun e => hkept fun o ho hflag hnil => ?_)
      fun h => hkept fun o ho hflag =>
        absurd ((h o ho).valueless.symm.trans hflag) Bool.false_ne_true
    have hmeaning : '-' :: o.key ∈ meaning host o := by
      unfold meaning
      rw [if_neg (by simp [valuelessFlag_not_valued hflag]), if_pos hflag, if_pos hnil]
      exact List.mem_singleton_self _
    have hmem : '-' :: o.key ∈ opts.flatMap (clangOutputs host) :=
      e ▸ List.mem_flatMap.2 ⟨o, ho, hmeaning⟩
    obtain ⟨o', -, ho'⟩ := List.mem_flatMap.1 hmem
    exact flag_not_mem_clangOutputs host o' hflag ho'

/-- When `populateClangArguments` returns true, the Clang arguments are the defaults and the meaning
of the command line exactly when every option is forwarded exactly. -/
theorem populateClangArguments_forwards_iff (b : Build) (host : Host) (path : FilePath)
    (args res : Arguments) (opts : List UnergisteredOption)
    (h : populateClangArguments b host path args opts = .ok (true, res)) :
    (∃ defaults, addDefaultClangArgs b host path args.argsStorage = .ok (true, defaults) ∧
        res.argsStorage = defaults ++ opts.flatMap (meaning host)) ↔
      ∀ o ∈ opts, o.ForwardedExactly host := by
  obtain ⟨defaults, hadd, -, rfl⟩ := (populateClangArguments_eq_ok_iff ..).1 h
  rw [← flatMap_meaning_eq_iff host opts, hadd]
  constructor
  · rintro ⟨defaults', e, hargs⟩
    cases e
    exact (List.append_cancel_left hargs).symm
  · intro e
    exact ⟨defaults, rfl, by rw [e]; rfl⟩

theorem populateClangArguments_forwards_iff_define :
    (∃ defaults, addDefaultClangArgs ⟨true, true⟩ (Host.ofPaths []) [] [] = .ok (true, defaults) ∧
        pushDefaultClangArgs (Host.ofPaths []) [] "/opt".toList [] ++ ["-extra-arg=-DX".toList] =
          defaults ++ [(⟨"extra-arg".toList, ["-DX".toList]⟩ : UnergisteredOption)].flatMap
            (meaning (Host.ofPaths []))) ↔
      ∀ o ∈ [(⟨"extra-arg".toList, ["-DX".toList]⟩ : UnergisteredOption)],
        o.ForwardedExactly (Host.ofPaths []) :=
  populateClangArguments_forwards_iff ⟨true, true⟩ (Host.ofPaths []) [] ⟨[], []⟩
    ⟨pushDefaultClangArgs (Host.ofPaths []) [] "/opt".toList [] ++ ["-extra-arg=-DX".toList],
      ["-DX".toList]⟩ _ (by decide)

/-- `--help-list` is dropped, although it is one of the options listed as built into LibTooling. -/
theorem populateClangArguments_drops_help_list :
    ∃ defaults res, populateClangArguments ⟨true, true⟩ (Host.ofPaths []) [] ⟨[], []⟩
        [⟨"help-list".toList, []⟩] = .ok (true, res) ∧
      addDefaultClangArgs ⟨true, true⟩ (Host.ofPaths []) [] [] = .ok (true, defaults) ∧
      res.argsStorage ≠ defaults ++ [(⟨"help-list".toList, []⟩ : UnergisteredOption)].flatMap
        (meaning (Host.ofPaths [])) :=
  ⟨pushDefaultClangArgs (Host.ofPaths []) [] "/opt".toList [],
    ⟨pushDefaultClangArgs (Host.ofPaths []) [] "/opt".toList [], []⟩, by decide,
    by decide, by decide⟩

/-! ## Assertions -/

/-- The values of the option keep clear of the boundaries at which an assertion trips: a positional
argument that is empty or a lone dash, and a text with fewer than two characters after
`extra-arg=`. -/
def UnergisteredOption.ClearOfBoundaries (o : UnergisteredOption) : Prop :=
  o.key.head? ≠ some '-' → ∀ v ∈ o.values,
    (o.key = [] → v ≠ [] ∧ v ≠ ['-']) ∧
    (startsWith (o.text v) kExtraArgPrefix = true → kExtraArgPrefix.length + 2 ≤ (o.text v).length)

theorem textSafe_text_iff (o : UnergisteredOption) (v : Str) :
    TextSafe ⟨true, true⟩ (o.text v) ↔ (o.key = [] → v ≠ [] ∧ v ≠ ['-']) ∧
      (startsWith (o.text v) kExtraArgPrefix = true →
        kExtraArgPrefix.length + 2 ≤ (o.text v).length) := by
  simp only [TextSafe, Bool.true_eq_false, imp_false, forall_const, kExtraArgPrefix_length,
    ← and_assoc]
  refine and_congr ?_ Iff.rfl
  by_cases hk : o.key = []
  · simp [o.text_of_key_nil hk, hk]
  · obtain ⟨c, key, hkey⟩ := List.exists_cons_of_ne_nil hk
    simp [o.text_of_key_ne_nil hk, hkey]

/-- With every assertion armed, `populateClangArguments` runs to its end and returns true exactly
when every option is clear of the boundaries, whatever files exist. -/
theorem populateClangArguments_runs_iff (host : Host) (path : FilePath) (cling : List Str)
    (opts : List UnergisteredOption) (hdir : host.dirExe.isSome) (hfile : host.fileExe.isSome) :
    (∃ res, populateClangArguments ⟨true, true⟩ host path ⟨[], cling⟩ opts = .ok (true, res)) ↔
      ∀ o ∈ opts, o.ClearOfBoundaries := by
  have htexts : (∀ o ∈ opts, ∀ text ∈ o.texts, TextSafe ⟨true, true⟩ text) ↔
      ∀ o ∈ opts, o.ClearOfBoundaries := by
    apply forall₂_congr
    intro o _
    by_cases hd : o.key.head? = some '-'
    · simp [UnergisteredOption.texts_of_dash hd, UnergisteredOption.ClearOfBoundaries, hd]
    · simp only [UnergisteredOption.texts_of_not_dash hd, List.forall_mem_map, textSafe_text_iff,
        UnergisteredOption.ClearOfBoundaries, ne_eq, hd, not_false_eq_true, forall_const]
  obtain ⟨dirExe, hdir⟩ := Option.isSome_iff_exists.1 hdir
  rw [← htexts]
  constructor
  · rintro ⟨res, h⟩
    obtain ⟨_, _, hsafe, _⟩ := (populateClangArguments_eq_ok_iff ..).1 h
    exact hsafe
  · intro hsafe
    have hadd := (addDefaultClangArgs_eq_ok_true_iff ⟨true, true⟩ host path [] _).2
      ⟨dirExe, hdir, hfile, rfl, rfl⟩
    exact ⟨_, (populateClangArguments_eq_ok_iff ..).2 ⟨_, hadd, hsafe, rfl⟩⟩

theorem populateClangArguments_runs_iff_define :
    (∃ res, populateClangArguments ⟨true, true⟩ (Host.ofPaths []) [] ⟨[], []⟩
        [⟨"extra-arg".toList, ["-DX".toList]⟩] = .ok (true, res)) ↔
      ∀ o ∈ [(⟨"extra-arg".toList, ["-DX".toList]⟩ : UnergisteredOption)], o.ClearOfBoundaries :=
  populateClangArguments_runs_iff (Host.ofPaths []) [] [] _ rfl rfl

/-- `--extra-arg=-` fails the `CHECK` that what is left empty was exactly `extra-arg=`. -/
theorem populateClangArguments_check_fails :
    populateClangArguments ⟨true, true⟩ (Host.ofPaths []) [] ⟨[], []⟩
      [⟨"extra-arg".toList, ["-".toList]⟩] = .error .check := by
  decide

end Flextool
