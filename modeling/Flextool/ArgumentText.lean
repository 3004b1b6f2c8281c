import Flextool.Forwarding

/-!
# One argument

`isAllowedClangArgument` recognises the texts of arguments, and `clangArgToClingArg` splits what
`populateClangArguments` joined.  The first is compared with the documented language: it differs on
texts with a dash, whose copy without the dash is never looked at, and on texts that go on after a
whole word (`isAllowedClangArgument_eq_iff`).  The second loses a character wherever there is a join
to undo (`clangArgToClingArg_undoes_join_iff`).
-/

namespace Flextool

/-! ## The documented language -/

/-- The text is one of the words, or one of the other options with its value, up to ASCII case. -/
def DocumentedOption (text : Str) : Bool :=
  isFlag valuelessFlags text || valuedFlags.any fun flag => startsWith text (flag ++ "=".toList)

/-- The text with at most one leading dash removed. -/
def withoutDash : Str → Str
  | '-' :: rest => rest
  | arg => arg

/-- The argument is a path that exists, or a documented option with or without its dash. -/
def Recognised (host : Host) (arg : Str) : Bool :=
  host.pathExists arg || DocumentedOption (withoutDash arg)

theorem allowedClangArguments_eq :
    allowedClangArguments = valuelessFlags ++ valuedFlags.map (· ++ "=".toList) := by decide

/-- The recogniser looks for the words as if they took a value as well. -/
theorem namesOption_eq (text : Str) :
    NamesOption text = ((valuelessFlags.any fun flag => startsWith text flag) ||
      valuedFlags.any fun flag => startsWith text (flag ++ "=".toList)) := by
  unfold NamesOption
  rw [allowedClangArguments_eq, List.any_append, List.any_map]
  rfl

theorem documentedOption_iff (text : Str) :
    DocumentedOption text = true ↔ isFlag valuelessFlags text = true ∨
      (valuedFlags.any fun flag => startsWith text (flag ++ "=".toList)) = true := by
  unfold DocumentedOption
  rw [Bool.or_eq_true]

theorem namesOption_of_word {flag text : Str} (hflag : flag ∈ valuelessFlags)
    (h : startsWith text flag = true) : NamesOption text = true := by
  have hform : ∀ flag ∈ valuelessFlags, flag ∈ allowedClangArguments := by decide
  exact namesOption_of_startsWith (hform flag hflag) h

theorem namesOption_of_documented {text : Str} (h : DocumentedOption text = true) :
    NamesOption text = true := by
  rcases (documentedOption_iff text).1 h with hflag | hvalued
  · obtain ⟨flag, hmem, e⟩ := (isFlag_iff _ _).1 hflag
    exact namesOption_of_word hmem ((startsWith_iff _ _).2 (Strings.begins_of_map_eq e))
  · rw [namesOption_eq, Bool.or_eq_true]
    exact Or.inr hvalued

/-- A text that begins with one of the words does not begin with another option. -/
theorem not_startsWith_of_word {flag valued text : Str} (hflag : flag ∈ valuelessFlags)
    (hvalued : valued ∈ valuedFlags) (h : startsWith text flag = true) :
    ¬ startsWith text (valued ++ "=".toList) = true := by
  have hapart : ∀ flag ∈ valuelessFlags, flag ≠ [] ∧ ∀ valued ∈ valuedFlags,
      valued ++ "=".toList ≠ [] ∧
        flag.head?.map Char.toLower ≠ (valued ++ "=".toList).head?.map Char.toLower := by decide
  obtain ⟨hne, hapart⟩ := hapart flag hflag
  obtain ⟨hne', hhead⟩ := hapart valued hvalued
  intro hboth
  exact hhead (((startsWith_iff _ _).1 h).head?_eq ((startsWith_iff _ _).1 hboth) hne hne')

/-! ## Recognising an argument -/

/-- What keeps the recogniser in step with the documentation. -/
structure RecognisedExactly (host : Host) (arg : Str) : Prop where
  /-- a lone dash is shorter than the prefix that is removed -/
  notDash : arg ≠ ['-']
  /-- the copy without the dash is not compared -/
  dashed : ∀ rest, arg = '-' :: rest → DocumentedOption rest = true → host.pathExists arg = true
  /-- what follows a word is not compared -/
  word : ∀ flag ∈ valuelessFlags, startsWith arg flag = true →
    isFlag valuelessFlags arg = true ∨ host.pathExists arg = true

theorem withoutDash_of_head {arg : Str} (h : arg.head? ≠ some '-') : withoutDash arg = arg := by
  unfold withoutDash
  split
  · exact absurd rfl h
  · rfl

/-- Of an argument that is not a lone dash, the recogniser says what is documented exactly when it
finds no option that is not documented, and misses none. -/
theorem allowed_eq_recognised_iff (host : Host) {arg : Str} (h : arg ≠ ['-']) :
    Allowed host arg = Recognised host arg ↔ RecognisedExactly host arg := by
  unfold Allowed Recognised
  by_cases hpath : host.pathExists arg = true
  · simp only [hpath, Bool.or_true, Bool.true_or, true_iff]
    exact ⟨h, fun _ _ _ => hpath, fun _ _ _ => Or.inr hpath⟩
  · have hpath' : host.pathExists arg = false := by simpa using hpath
    rw [hpath', Bool.or_false, Bool.false_or]
    by_cases hdash : arg.head? = some '-'
    · obtain ⟨rest, rfl⟩ := List.head?_eq_some_iff.1 hdash
      have hnames : NamesOption ('-' :: rest) = false := by
        by_contra hnames
        exact head_ne_dash_of_namesOption (by simpa using hnames) rfl
      rw [hnames]
      constructor
      · intro e
        refine ⟨h, fun rest' hrest hdocumented => ?_, fun flag hflag hword => ?_⟩
        · cases hrest
          exact absurd (e.trans hdocumented) Bool.false_ne_true
        · exact absurd rfl (head_ne_dash_of_namesOption (namesOption_of_word hflag hword))
      · intro hexact
        by_contra hne
        have hdocumented : DocumentedOption rest = true := by
          simpa [withoutDash] using Ne.symm hne
        exact hpath (hexact.dashed rest rfl hdocumented)
    · rw [withoutDash_of_head hdash]
      constructor
      · intro e
        refine ⟨h, fun rest hrest _ => absurd (by rw [hrest]; rfl) hdash,
          fun flag hflag hword => ?_⟩
        left
        have hnames : NamesOption arg = true := namesOption_of_word hflag hword
        rcases (documentedOption_iff arg).1 (e ▸ hnames) with hdocumented | hvalued
        · exact hdocumented
        · obtain ⟨valued, hmem, hbegins⟩ := List.any_eq_true.1 hvalued
          exact absurd hbegins (not_startsWith_of_word hflag hmem hword)
      · intro hexact
        apply Bool.eq_iff_iff.2
        refine ⟨fun hnames => ?_, namesOption_of_documented⟩
        rw [documentedOption_iff]
        rw [namesOption_eq, Bool.or_eq_true] at hnames
        rcases hnames with hword | hvalued
        · obtain ⟨flag, hflag, hword⟩ := List.any_eq_true.1 hword
          exact Or.inl ((hexact.word flag hflag hword).resolve_right hpath)
        · exact Or.inr hvalued

/-- On every string and every file system, `isAllowedClangArgument` returns, and returns whether the
argument is documented, exactly when the argument is not a lone dash, no documented option follows a
dash, and no word is followed by anything, unless the argument is a path that exists. -/
theorem isAllowedClangArgument_eq_iff (host : Host) (arg : Str) :
    isAllowedClangArgument host arg = .ok (Recognised host arg) ↔ RecognisedExactly host arg := by
  by_cases h : arg = ['-']
  · refine iff_of_false (fun e => ?_) fun hexact => hexact.notDash h
    rw [h, isAllowedClangArgument_dash] at e
    simp at e
  · rw [isAllowedClangArgument_eq host h, Except.ok.injEq]
    exact allowed_eq_recognised_iff host h

/-- `-extra-arg=-DX` is not recognised, although the form with the dash should be accepted. -/
theorem isAllowedClangArgument_rejects_dashed :
    isAllowedClangArgument (Host.ofPaths []) "-extra-arg=-DX".toList = .ok false ∧
      Recognised (Host.ofPaths []) "-extra-arg=-DX".toList = true := by
  decide

/-! ## Splitting a join -/

/-- What `clangArgToClingArg` should do with a text: nothing when no value follows `extra-arg=` in
it, and otherwise give the value that follows these ten characters. -/
structure UndoesJoin (arg : Str) : Prop where
  none_iff : clangArgToClingArg arg = .ok none ↔
    startsWith arg kInvalidParsedArgPrefix = true ∨ ¬ startsWith arg kExtraArgPrefix = true
  value : ¬ (startsWith arg kInvalidParsedArgPrefix = true ∨
      ¬ startsWith arg kExtraArgPrefix = true) →
    ∃ value, clangArgToClingArg arg = .ok (some value) ∧ arg.take 10 ++ value = arg

/-- Eleven characters are removed, or the text is too short for that. -/
theorem clangArgToClingArg_ne {arg value : Str} (h : startsWith arg kExtraArgPrefix = true)
    (hvalue : arg.take 10 ++ value = arg) : clangArgToClingArg arg ≠ .ok (some value) := by
  rw [clangArgToClingArg_of_startsWith h]
  rcases Nat.lt_or_ge arg.length 11 with hlen | hlen
  · rw [removePrefix_of_lt hlen]
    simp
  · rw [removePrefix_of_le hlen]
    intro e
    have hdrop : arg.drop 11 = value := Option.some.inj (Except.ok.inj e)
    have hlength := congrArg List.length hvalue
    rw [← hdrop, List.length_append, List.length_take, List.length_drop] at hlength
    omega

theorem undoesJoin_iff (arg : Str) : UndoesJoin arg ↔ ¬ startsWith arg kExtraArgPrefix = true := by
  constructor
  · intro hundoes h
    have hhead : ¬ startsWith arg kInvalidParsedArgPrefix = true := by
      rw [kInvalidParsedArgPrefix_eq, startsWith_dash]
      exact head_ne_dash_of_startsWith_extraArg h
    obtain ⟨value, hsplit, hvalue⟩ := hundoes.value fun hnone =>
      hnone.elim hhead fun hnot => hnot h
    exact clangArgToClingArg_ne h hvalue hsplit
  · intro h
    exact ⟨iff_of_true (clangArgToClingArg_of_not_startsWith h) (Or.inr h),
      fun hsome => absurd (Or.inr h) hsome⟩

/-- No value that was joined to `extra-arg` is given back, and a text is treated as it should be
exactly when it does not begin with `extra-arg=`. -/
theorem clangArgToClingArg_undoes_join_iff (value arg : Str) :
    clangArgToClingArg (kExtraArgPrefix ++ value) ≠ .ok (some value) ∧
      (UndoesJoin arg ↔ ¬ startsWith arg kExtraArgPrefix = true) := by
  refine ⟨?_, undoesJoin_iff arg⟩
  apply clangArgToClingArg_ne (startsWith_extraArg value)
  rw [List.take_left' kExtraArgPrefix_length]

/-- Of `extra-arg=-I/home/`, the value without its dash is returned. -/
theorem clangArgToClingArg_loses_dash :
    clangArgToClingArg (kExtraArgPrefix ++ "-I/home/".toList) = .ok (some "I/home/".toList) ∧
      "I/home/".toList ≠ "-I/home/".toList := by
  decide

end Flextool
