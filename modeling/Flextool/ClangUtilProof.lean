import Flextool.ClangUtil
import Flextool.Lib.Loops

/-!
# What the argument translation computes

For one value of an option, everything depends on its text `key=value` (or `value`, for a positional
argument): whether the translation trips an assertion (`TextSafe`), what it adds to the Clang
arguments (`clangOutput`) and what it adds to the Cling arguments (`clingOutput`).  The loops then
append these outputs in command-line order, see `populateClangArguments_eq_ok_iff`.
-/

namespace Flextool

open Loops

/-- The text that is looked at for one value of an option (`combined_for_clang`). -/
def UnergisteredOption.text (o : UnergisteredOption) (value : Str) : Str :=
  o.kvToSting value o.kvSeparator

theorem UnergisteredOption.text_of_key_nil {o : UnergisteredOption} (h : o.key = []) (v : Str) :
    o.text v = v := by
  simp [text, kvToSting, kvSeparator, h]

theorem UnergisteredOption.text_of_key_ne_nil {o : UnergisteredOption} (h : o.key ≠ []) (v : Str) :
    o.text v = o.key ++ '=' :: v := by
  simp [text, kvToSting, kvSeparator, h]

/-! ### Prefixes -/

theorem kExtraArgPrefix_eq : kExtraArgPrefix = "extra-arg".toList ++ ['='] := by decide

theorem kExtraArgPrefix_length : kExtraArgPrefix.length = 10 := by decide

theorem kClangArgPrefix_eq : kClangArgPrefix = ['-'] := rfl

theorem kClingArgPrefix_eq : kClingArgPrefix = ['-'] := rfl

theorem kInvalidParsedArgPrefix_eq : kInvalidParsedArgPrefix = ['-'] := rfl

theorem startsWith_dash (s : Str) : startsWith s ['-'] = true ↔ s.head? = some '-' := by
  rw [startsWith_iff, Strings.begins_singleton_iff]
  have fold : ∀ c : Char, c.toLower = Char.toLower '-' ↔ c = '-' := fun c =>
    toLower_eq_iff (by decide)
  simp only [fold]
  cases s <;> simp

theorem startsWith_extraArg (v : Str) :
    startsWith (kExtraArgPrefix ++ v) kExtraArgPrefix = true :=
  (startsWith_iff _ _).2 (Strings.begins_append _ _ _)

/-! ### `isAllowedClangArgument` -/

/-- The text begins with a LibTooling option. -/
def NamesOption (text : Str) : Bool :=
  allowedClangArguments.any fun allowedArg => startsWith text allowedArg

theorem namesOption_of_startsWith {text allowedArg : Str}
    (hmem : allowedArg ∈ allowedClangArguments) (h : startsWith text allowedArg = true) :
    NamesOption text = true := List.any_eq_true.2 ⟨allowedArg, hmem, h⟩

/-- A text that begins with an option does not begin with a dash. -/
theorem head_ne_dash_of_namesOption {text : Str} (h : NamesOption text = true) :
    text.head? ≠ some '-' := by
  have hapart : ∀ allowedArg ∈ allowedClangArguments, allowedArg ≠ [] ∧
      allowedArg.head?.map Char.toLower ≠ ['-'].head?.map Char.toLower := by decide
  obtain ⟨allowedArg, hmem, hbegins⟩ := List.any_eq_true.1 h
  obtain ⟨hne, hhead⟩ := hapart allowedArg hmem
  intro hdash
  have hbegins' := (startsWith_iff _ _).1 ((startsWith_dash text).2 hdash)
  exact hhead (((startsWith_iff _ _).1 hbegins).head?_eq hbegins' hne (by simp))

theorem namesOption_of_startsWith_extraArg {text : Str}
    (h : startsWith text kExtraArgPrefix = true) : NamesOption text = true :=
  namesOption_of_startsWith (by decide) h

theorem head_ne_dash_of_startsWith_extraArg {text : Str}
    (h : startsWith text kExtraArgPrefix = true) : text.head? ≠ some '-' :=
  head_ne_dash_of_namesOption (namesOption_of_startsWith_extraArg h)

/-- The answer of `isAllowedClangArgument`. -/
def Allowed (host : Host) (text : Str) : Bool := NamesOption text || host.pathExists text

theorem allowed_of_namesOption (host : Host) {text : Str} (h : NamesOption text = true) :
    Allowed host text = true := by
  unfold Allowed
  rw [h, Bool.true_or]

theorem allowed_of_startsWith_extraArg (host : Host) {text : Str}
    (h : startsWith text kExtraArgPrefix = true) : Allowed host text = true :=
  allowed_of_namesOption host (namesOption_of_startsWith_extraArg h)

theorem isAllowedClangArgument_eq (host : Host) {text : Str} (h : text ≠ ['-']) :
    isAllowedClangArgument host text = .ok (Allowed host text) := by
  have hsize : check (arraySize kClangArgPrefix ≠ 0) = .ok () := rfl
  have answer : (if (allowedClangArguments.any fun allowedArg => startsWith text allowedArg) = true
      then (.ok true : Except Fault Bool) else .ok (host.pathExists text)) =
      .ok (Allowed host text) := by
    rw [Allowed, NamesOption]
    split <;> simp only [*, Bool.true_or, Bool.false_or]
  simp only [isAllowedClangArgument, hsize, ok_bind, pure_eq_ok, answer]
  split
  · rename_i hd
    rw [kClangArgPrefix_eq, startsWith_dash] at hd
    have hlen : arraySize kClangArgPrefix ≤ text.length := by
      match text with
      | [_] => exact absurd (by simpa using hd) h
      | _ :: _ :: _ => simp [arraySize, kClangArgPrefix_eq]
    rw [removePrefix_of_le hlen, ok_bind]
  · rfl

/-- A lone dash is shorter than the prefix that is stripped from it. -/
theorem isAllowedClangArgument_dash (host : Host) :
    isAllowedClangArgument host ['-'] = .error .removePrefix := rfl

/-! ### `clangArgToClingArg` and `pipelineClangArgToCling` -/

theorem clangArgToClingArg_of_not_startsWith {arg : Str}
    (h : ¬ startsWith arg kExtraArgPrefix = true) : clangArgToClingArg arg = .ok none := by
  simp only [clangArgToClingArg, pure_eq_ok]
  split
  · rfl
  · simp [h]

theorem clangArgToClingArg_of_startsWith {arg : Str} (h : startsWith arg kExtraArgPrefix = true) :
    clangArgToClingArg arg = (removePrefix arg 11).map some := by
  have hsize : arraySize kExtraArgPrefix = 11 := by rw [arraySize, kExtraArgPrefix_length]
  have hd : ¬ startsWith arg kInvalidParsedArgPrefix = true := by
    rw [kInvalidParsedArgPrefix_eq, startsWith_dash]
    exact head_ne_dash_of_startsWith_extraArg h
  simp only [clangArgToClingArg, hd, h, hsize]
  cases removePrefix arg 11 <;> rfl

/-- The text is passed on to Cling: it begins with `extra-arg=`, and what is left once eleven
characters are gone does not begin with a dash. -/
def Pipelined (text : Str) : Prop :=
  startsWith text kExtraArgPrefix = true ∧ text[11]? ≠ some '-'

instance (text : Str) : Decidable (Pipelined text) :=
  inferInstanceAs (Decidable (_ ∧ _))

/-- What `pipelineClangArgToCling` appends for a text of an option with this key. -/
def clingOutput (key text : Str) : List Str :=
  if Pipelined text then [if key.isEmpty then text.drop 11 else '-' :: text.drop 11] else []

theorem clingOutput_of_not_pipelined {key text : Str} (h : ¬ Pipelined text) :
    clingOutput key text = [] := if_neg h

theorem pipelineClangArgToCling_of_not_startsWith {text : Str}
    (h : ¬ startsWith text kExtraArgPrefix = true) (o : UnergisteredOption) (cling : List Str) :
    pipelineClangArgToCling text o cling = .ok (false, cling) := by
  simp [pipelineClangArgToCling, clangArgToClingArg_of_not_startsWith h]

theorem pipelineClangArgToCling_of_startsWith {text : Str}
    (h : startsWith text kExtraArgPrefix = true) (hlen : 12 ≤ text.length) (o : UnergisteredOption)
    (cling : List Str) :
    ∃ done, pipelineClangArgToCling text o cling = .ok (done, cling ++ clingOutput o.key text) := by
  have hne : (text.drop 11).isEmpty = false := by
    simp only [List.isEmpty_eq_false_iff, ne_eq, List.drop_eq_nil_iff]
    omega
  have hhead : (text.drop 11).head? = text[11]? := by simp
  simp only [pipelineClangArgToCling, clangArgToClingArg_of_startsWith h,
    removePrefix_of_le (by omega : 11 ≤ text.length), map_ok, ok_bind, hne,
    kClingArgPrefix_eq, pure_eq_ok, clingOutput, Pipelined, h, true_and]
  by_cases hd : text[11]? = some '-'
  · have hs : startsWith (text.drop 11) ['-'] = true := (startsWith_dash _).2 (hhead.trans hd)
    exact ⟨false, by simp [hs, hd]⟩
  · have hs : ¬ startsWith (text.drop 11) ['-'] = true := by
      rwa [startsWith_dash, hhead]
    exact ⟨true, by simp [hs, hd]⟩

/-- With at most one character after `extra-arg=`, either the eleven characters are not there to
be removed, or nothing is left and the text is not `extra-arg=` as asserted. -/
theorem pipelineClangArgToCling_of_short {text : Str}
    (h : startsWith text kExtraArgPrefix = true) (hlen : text.length < 12) (o : UnergisteredOption)
    (cling : List Str) : ∃ fault, pipelineClangArgToCling text o cling = .error fault := by
  rcases Nat.lt_or_ge text.length 11 with hl | hl
  · exact ⟨.removePrefix, by
      simp [pipelineClangArgToCling, clangArgToClingArg_of_startsWith h, removePrefix_of_lt hl]⟩
  · have hempty : text.drop 11 = [] := List.drop_eq_nil_iff.2 (by omega)
    have hne : text ≠ kExtraArgPrefix := fun e => by
      have := congrArg List.length e
      rw [kExtraArgPrefix_length] at this
      omega
    exact ⟨.check, by
      simp [pipelineClangArgToCling, clangArgToClingArg_of_startsWith h, removePrefix_of_le hl,
        hempty, hne, check]⟩

/-! ## One value -/

/-- No assertion trips on this text. -/
def TextSafe (b : Build) (text : Str) : Prop :=
  (text = [] → b.dcheckIsOn = false) ∧ text ≠ ['-'] ∧
    (b.clingIsOn = true → startsWith text kExtraArgPrefix = true → 12 ≤ text.length)

/-- What is appended to the Clang arguments for a text of an option with this key. -/
def clangOutput (host : Host) (key text : Str) : List Str :=
  if Allowed host text = true ∧ text.head? ≠ some '-' then
    [if key.isEmpty then text else '-' :: text]
  else []

/-- Append to both vectors. -/
def Arguments.emit (args : Arguments) (clang cling : List Str) : Arguments :=
  ⟨args.argsStorage ++ clang, args.clingExtraArgs ++ cling⟩

theorem Arguments.emit_nil (args : Arguments) : args.emit [] [] = args := by
  simp [emit]

theorem Arguments.emit_emit (args : Arguments) (c₁ c₂ i₁ i₂ : List Str) :
    (args.emit c₁ i₁).emit c₂ i₂ = args.emit (c₁ ++ c₂) (i₁ ++ i₂) := by
  simp [emit]

theorem Arguments.foldl_emit {α : Type} (clang cling : α → List Str) (l : List α)
    (args : Arguments) :
    l.foldl (fun s a => s.emit (clang a) (cling a)) args =
      args.emit (l.flatMap clang) (l.flatMap cling) := by
  induction l generalizing args with
  | nil => exact args.emit_nil.symm
  | cons a l ih => rw [List.foldl_cons, ih, emit_emit, List.flatMap_cons, List.flatMap_cons]

theorem not_namesOption_nil : NamesOption [] = false := by decide

theorem not_allowed_nil (host : Host) : Allowed host [] = false := by
  simp [Allowed, not_namesOption_nil, host.pathExists_nil]

theorem clangOutput_nil (host : Host) (key : Str) : clangOutput host key [] = [] := by
  simp [clangOutput, not_allowed_nil]

theorem not_pipelined_nil : ¬ Pipelined [] := by decide

theorem Pipelined.allowed {text : Str} (h : Pipelined text) (host : Host) :
    Allowed host text = true := allowed_of_startsWith_extraArg host h.1

theorem Pipelined.head_ne_dash {text : Str} (h : Pipelined text) : text.head? ≠ some '-' :=
  head_ne_dash_of_startsWith_extraArg h.1

/-- A value whose text is safe appends its two outputs. -/
theorem forwardValue_ok (b : Build) (host : Host) (o : UnergisteredOption) (args : Arguments)
    {v : Str} (h : TextSafe b (o.text v)) :
    forwardValue b host o args v = .ok (args.emit (clangOutput host o.key (o.text v))
      (if b.clingIsOn then clingOutput o.key (o.text v) else [])) := by
  have htext : o.kvToSting v o.kvSeparator = o.text v := rfl
  simp only [forwardValue, htext]
  generalize o.text v = text at h
  obtain ⟨hnil, hdash, hlen⟩ := h
  by_cases hn : text = []
  · subst hn
    simp [notReached, hnil rfl, clangOutput_nil, clingOutput_of_not_pipelined not_pipelined_nil,
      Arguments.emit_nil]
  · have hne : text.isEmpty = false := by simpa using hn
    simp only [hne, isAllowedClangArgument_eq host hdash, ok_bind, pure_eq_ok,
      kClangArgPrefix_eq, startsWith_dash, clangOutput, Bool.false_eq_true, if_false,
      Bool.not_eq_true']
    by_cases hout : Allowed host text = true ∧ text.head? ≠ some '-'
    · rw [if_neg (by simp [hout.1]), if_neg hout.2, if_pos hout]
      by_cases hc : b.clingIsOn = true
      · by_cases hs : startsWith text kExtraArgPrefix = true
        · obtain ⟨done, hd⟩ :=
            pipelineClangArgToCling_of_startsWith hs (hlen hc hs) o args.clingExtraArgs
          simp [hc, hd, Arguments.emit]
        · rw [clingOutput_of_not_pipelined (fun hp => hs hp.1)]
          simp [hc, pipelineClangArgToCling_of_not_startsWith hs, Arguments.emit]
      · simp [hc, Arguments.emit]
    · have hp : ¬ Pipelined text := fun hp => hout ⟨hp.allowed host, hp.head_ne_dash⟩
      rw [if_neg hout, clingOutput_of_not_pipelined hp, ite_self, Arguments.emit_nil]
      by_cases ha : Allowed host text = true
      · have hd : text.head? = some '-' := by
          by_contra hd
          exact hout ⟨ha, hd⟩
        rw [if_neg (by simp [ha]), if_pos hd]
      · rw [if_pos (by simpa using ha)]

/-- A value whose text is not safe trips an assertion. -/
theorem forwardValue_error (b : Build) (host : Host) (o : UnergisteredOption) (args : Arguments)
    {v : Str} (h : ¬ TextSafe b (o.text v)) :
    ∃ fault, forwardValue b host o args v = .error fault := by
  have htext : o.kvToSting v o.kvSeparator = o.text v := rfl
  simp only [forwardValue, htext]
  generalize o.text v = text at h
  by_cases hn : text = []
  · subst hn
    have hb : b.dcheckIsOn = true := by
      by_contra hb
      refine h ⟨fun _ => by simpa using hb, by simp, fun _ hs => ?_⟩
      exact absurd hs (by decide)
    exact ⟨.notReached, by simp [notReached, hb]⟩
  · have hne : text.isEmpty = false := by simpa using hn
    simp only [hne, Bool.false_eq_true, if_false]
    by_cases hdash : text = ['-']
    · subst hdash
      exact ⟨.removePrefix, by rw [isAllowedClangArgument_dash, error_bind]⟩
    · obtain ⟨hc, hs, hlen⟩ : b.clingIsOn = true ∧ startsWith text kExtraArgPrefix = true ∧
          text.length < 12 := by
        by_contra hsafe
        refine h ⟨fun e => absurd e hn, hdash, fun hc hs => ?_⟩
        by_contra hlen
        exact hsafe ⟨hc, hs, by omega⟩
      have ha : Allowed host text = true := allowed_of_startsWith_extraArg host hs
      have hd : ¬ startsWith text kClangArgPrefix = true := by
        rw [kClangArgPrefix_eq, startsWith_dash]
        exact head_ne_dash_of_startsWith_extraArg hs
      obtain ⟨fault, hf⟩ := pipelineClangArgToCling_of_short hs hlen o args.clingExtraArgs
      exact ⟨fault, by simp [isAllowedClangArgument_eq host hdash, ha, hd, hc, hf]⟩

theorem forwardValue_guarded (b : Build) (host : Host) (o : UnergisteredOption) :
    Guarded (forwardValue b host o) (fun v => TextSafe b (o.text v)) fun args v =>
      args.emit (clangOutput host o.key (o.text v))
        (if b.clingIsOn then clingOutput o.key (o.text v) else []) where
  ok args _ h := forwardValue_ok b host o args h
  error args _ h := forwardValue_error b host o args h

/-! ## The whole command line -/

/-- The texts that are looked at for an option: none when the key starts with a dash. -/
def UnergisteredOption.texts (o : UnergisteredOption) : List Str :=
  if startsWith o.key kInvalidParsedArgPrefix then [] else o.values.map o.text

theorem UnergisteredOption.texts_of_dash {o : UnergisteredOption} (h : o.key.head? = some '-') :
    o.texts = [] := by
  unfold texts
  rw [kInvalidParsedArgPrefix_eq, if_pos ((startsWith_dash _).2 h)]

theorem UnergisteredOption.texts_of_not_dash {o : UnergisteredOption}
    (h : o.key.head? ≠ some '-') : o.texts = o.values.map o.text := by
  unfold texts
  rw [kInvalidParsedArgPrefix_eq, if_neg (mt (startsWith_dash _).1 h)]

def clangOutputs (host : Host) (o : UnergisteredOption) : List Str :=
  o.texts.flatMap (clangOutput host o.key)

def clingOutputs (b : Build) (o : UnergisteredOption) : List Str :=
  o.texts.flatMap fun text => if b.clingIsOn then clingOutput o.key text else []

theorem forwardOption_guarded (b : Build) (host : Host) :
    Guarded (forwardOption b host) (fun o => ∀ text ∈ o.texts, TextSafe b text) fun args o =>
      args.emit (clangOutputs host o) (clingOutputs b o) := by
  have loop := (Guarded.nested (forwardValue_guarded b host) UnergisteredOption.values).skipIf
    fun o => startsWith o.key kInvalidParsedArgPrefix = true
  constructor
  · intro args o h
    refine (loop.ok args o fun hs v hv => h _ ?_).trans (congrArg Except.ok ?_)
    · simpa [UnergisteredOption.texts, hs] using ⟨v, hv, rfl⟩
    · rw [Arguments.foldl_emit]
      by_cases hs : startsWith o.key kInvalidParsedArgPrefix = true
      · simp [hs, clangOutputs, clingOutputs, UnergisteredOption.texts, Arguments.emit_nil]
      · simp [hs, clangOutputs, clingOutputs, UnergisteredOption.texts, List.flatMap_map]
  · intro args o h
    refine loop.error args o fun hv => h ?_
    intro text ht
    by_cases hs : startsWith o.key kInvalidParsedArgPrefix = true
    · simp [UnergisteredOption.texts, hs] at ht
    · simp only [UnergisteredOption.texts, hs, if_false, List.mem_map, Bool.false_eq_true] at ht
      obtain ⟨v, hv', rfl⟩ := ht
      exact hv hs v hv'

theorem pushDefaultClangArgs_ne_nil (host : Host) (path dirExe : FilePath) (args : List Str) :
    pushDefaultClangArgs host path dirExe args ≠ [] :=
  List.append_ne_nil_of_right_ne_nil _ (List.cons_ne_nil _ _)

/-- The default arguments are added exactly when `PathService` answers and the vector is still
empty. -/
theorem addDefaultClangArgs_eq_ok_true_iff (b : Build) (host : Host) (path : FilePath)
    (args defaults : List Str) :
    addDefaultClangArgs b host path args = .ok (true, defaults) ↔
      ∃ dirExe, host.dirExe = some dirExe ∧ host.fileExe.isSome ∧ args = [] ∧
        defaults = pushDefaultClangArgs host path dirExe [] := by
  unfold addDefaultClangArgs
  cases hd : host.dirExe with
  | none => cases hb : b.dcheckIsOn <;> simp [notReached, hb]
  | some dirExe =>
    cases hf : host.fileExe with
    | none => cases hb : b.dcheckIsOn <;> simp [notReached, hb]
    | some fileExe =>
      cases args with
      | nil => simp [check_true, eq_comm]
      | cons a args => simp [check]

/-- Without an answer of `PathService` nothing is pushed. -/
theorem addDefaultClangArgs_eq_ok_false {b : Build} {host : Host} {path : FilePath}
    {args left : List Str} (h : addDefaultClangArgs b host path args = .ok (false, left)) :
    ¬ (host.dirExe.isSome ∧ host.fileExe.isSome) ∧ left = args := by
  unfold addDefaultClangArgs at h
  cases hd : host.dirExe with
  | none => cases hb : b.dcheckIsOn <;> simp_all [notReached]
  | some dirExe =>
    cases hf : host.fileExe with
    | none => cases hb : b.dcheckIsOn <;> simp_all [notReached]
    | some fileExe => cases args <;> simp [hd, hf, check] at h

/-- When the defaults are not added, the vectors are left as they were. -/
theorem populateClangArguments_eq_ok_false {b : Build} {host : Host} {path : FilePath}
    {args res : Arguments} {opts : List UnergisteredOption}
    (h : populateClangArguments b host path args opts = .ok (false, res)) :
    ¬ (host.dirExe.isSome ∧ host.fileExe.isSome) ∧ res = args := by
  unfold populateClangArguments at h
  obtain ⟨⟨addOk, left⟩, hadd, h⟩ := bind_eq_ok_iff.1 h
  obtain ⟨-, -, h⟩ := bind_eq_ok_iff.1 h
  cases addOk with
  | true => simp [bind_eq_ok_iff] at h
  | false =>
    obtain ⟨hservice, rfl⟩ := addDefaultClangArgs_eq_ok_false hadd
    simp only [Bool.not_false, if_true, pure_eq_ok, Except.ok.injEq, Prod.mk.injEq, true_and] at h
    exact ⟨hservice, h.symm⟩

/-- `populateClangArguments` succeeds exactly when the defaults are added and every text is safe,
and it then appends the outputs of the options in command-line order. -/
theorem populateClangArguments_eq_ok_iff (b : Build) (host : Host) (path : FilePath)
    (args res : Arguments) (opts : List UnergisteredOption) :
    populateClangArguments b host path args opts = .ok (true, res) ↔
      ∃ defaults, addDefaultClangArgs b host path args.argsStorage = .ok (true, defaults) ∧
        (∀ o ∈ opts, ∀ text ∈ o.texts, TextSafe b text) ∧
        res = (⟨defaults, args.clingExtraArgs⟩ : Arguments).emit
          (opts.flatMap (clangOutputs host)) (opts.flatMap (clingOutputs b)) := by
  unfold populateClangArguments
  cases hadd : addDefaultClangArgs b host path args.argsStorage with
  | error fault => simp
  | ok r =>
    obtain ⟨addOk, defaults⟩ := r
    cases addOk with
    | false =>
      cases hd : dcheck b (!defaults.isEmpty) <;> simp [hd]
    | true =>
      have hne : defaults ≠ [] := by
        obtain ⟨dirExe, -, -, -, rfl⟩ := (addDefaultClangArgs_eq_ok_true_iff ..).1 hadd
        exact pushDefaultClangArgs_ne_nil host path dirExe []
      have hd : dcheck b (!defaults.isEmpty) = .ok () := dcheck_of_true b (by simpa using hne)
      have loop := (forwardOption_guarded b host).foldlM.eq_ok_iff
        ⟨defaults, args.clingExtraArgs⟩ res opts
      rw [Arguments.foldl_emit] at loop
      simp only [ok_bind, hd, Bool.not_true, Bool.false_eq_true, if_false, Except.ok.injEq,
        Prod.mk.injEq, true_and, exists_eq_left', pure_eq_ok]
      cases hl : List.foldlM (forwardOption b host) ⟨defaults, args.clingExtraArgs⟩ opts with
      | error fault => simpa [hl, eq_comm] using loop
      | ok final => simpa [hl, eq_comm] using loop

end Flextool
