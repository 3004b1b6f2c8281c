import Flextool.Lib.Strings

/-!
# What the program uses of `base`

Strings are lists of characters, a `base::StringPiece` is the string it points to, and a
`base::FilePath` is its value.  A failed `CHECK`, `DCHECK` or `NOTREACHED` and a
`StringPiece::remove_prefix` past the end are the `Fault`s of a run; `DCHECK` and `NOTREACHED` only
act in a build that has them on.  What the machine answers (`PathService`, `PathExists`,
`MakeAbsoluteFilePath`) and `FilePath::Append` are the fields of `Host`.
-/

namespace Flextool

/-- `std::string` and `base::StringPiece`. -/
abbrev Str := List Char

/-- `base::FilePath`. -/
abbrev FilePath := Str

/-- How the build is configured: `CLING_IS_ON` and `DCHECK_IS_ON()`. -/
structure Build where
  clingIsOn : Bool
  dcheckIsOn : Bool
  deriving DecidableEq, Repr

/-- The ways a run can violate an assertion of its own code. -/
inductive Fault where
  /-- a failed `CHECK` -/
  | check
  /-- a failed `DCHECK` -/
  | dcheck
  /-- a reached `NOTREACHED()` -/
  | notReached
  /-- `StringPiece::remove_prefix(n)` on a piece shorter than `n` -/
  | removePrefix
  /-- writing to or closing an `llvm::raw_fd_ostream` whose open failed -/
  | streamAssert
  /-- destroying an `llvm::raw_fd_ostream` with an unchecked error -/
  | fatalError
  deriving DecidableEq, Repr

/-- `CHECK(condition)`. -/
def check (condition : Bool) : Except Fault Unit :=
  if condition then .ok () else .error .check

/-- `DCHECK(condition)`. -/
def dcheck (b : Build) (condition : Bool) : Except Fault Unit :=
  if b.dcheckIsOn && !condition then .error .dcheck else .ok ()

/-- `NOTREACHED()`. -/
def notReached (b : Build) : Except Fault Unit :=
  if b.dcheckIsOn then .error .notReached else .ok ()

theorem check_true : check true = .ok () := rfl

theorem check_eq_ok_iff (c : Bool) : check c = .ok () ↔ c = true := by
  cases c <;> simp [check]

theorem dcheck_of_true (b : Build) {c : Bool} (h : c = true) : dcheck b c = .ok () := by
  simp [dcheck, h]

@[simp] theorem dcheck_true (b : Build) : dcheck b true = .ok () := dcheck_of_true b rfl

theorem dcheck_eq_ok_iff (b : Build) (c : Bool) (u : Unit) :
    dcheck b c = .ok u ↔ (b.dcheckIsOn = true → c = true) := by
  cases hb : b.dcheckIsOn <;> cases c <;> simp [dcheck, hb]

/-! ## Strings -/

/-- `base::StartsWith(str, searchFor, base::CompareCase::INSENSITIVE_ASCII)`. -/
def startsWith (str searchFor : Str) : Bool := decide (Strings.Begins Char.toLower searchFor str)

/-- `base::size` of a `char` array: its characters and the terminating NUL. -/
def arraySize (s : Str) : ℕ := s.length + 1

/-- `StringPiece::remove_prefix(n)`, which requires `n <= size()`. -/
def removePrefix (piece : Str) (n : ℕ) : Except Fault Str :=
  if n ≤ piece.length then .ok (piece.drop n) else .error .removePrefix

theorem startsWith_iff (s p : Str) : startsWith s p = true ↔ Strings.Begins Char.toLower p s :=
  decide_eq_true_iff

theorem removePrefix_of_le {piece : Str} {n : ℕ} (h : n ≤ piece.length) :
    removePrefix piece n = .ok (piece.drop n) := if_pos h

theorem removePrefix_of_lt {piece : Str} {n : ℕ} (h : piece.length < n) :
    removePrefix piece n = .error .removePrefix := if_neg (by omega)

/-- Case folding changes nothing below the letters, and nothing else is folded there. -/
theorem toLower_eq_iff {c d : Char} (hd : d.val < 65) : c.toLower = d ↔ c = d := by
  unfold Char.toLower
  split
  · rename_i h
    constructor
    · intro e
      have := congrArg Char.val e
      grind
    · rintro rfl
      grind
  · rfl

/-! ## The machine -/

/-- What `base` answers about the machine the tool runs on, and the path operations of `base`. -/
structure Host where
  /-- `PathService::Get(base::DIR_EXE, ..)`; `none` when it fails -/
  dirExe : Option FilePath
  /-- `PathService::Get(base::FILE_EXE, ..)` -/
  fileExe : Option FilePath
  /-- `base::PathExists`, before the run -/
  pathExists : FilePath → Bool
  /-- the absolute path, links resolved, of a path that exists -/
  realPath : FilePath → FilePath
  /-- `FilePath::Append` -/
  append : FilePath → Str → FilePath
  /-- the empty path names no file -/
  pathExists_nil : pathExists [] = false
  /-- `Append` puts the directory, and a separator where one is missing, before the component -/
  append_eq : ∀ dir, ∃ pre, ∀ component, component ≠ [] → append dir component = pre ++ component

theorem Host.append_inj (host : Host) (dir : FilePath) {a b : Str} (ha : a ≠ []) (hb : b ≠ []) :
    host.append dir a = host.append dir b ↔ a = b := by
  obtain ⟨pre, h⟩ := host.append_eq dir
  rw [h a ha, h b hb, List.append_cancel_left_eq]

/-- A machine with the given paths, on which the tool is installed under `/opt`. -/
def Host.ofPaths (paths : List FilePath) : Host where
  dirExe := some "/opt".toList
  fileExe := some "/opt/flextool".toList
  pathExists p := decide (p ≠ [] ∧ p ∈ paths)
  realPath p := p
  append dir component := dir ++ '/' :: component
  pathExists_nil := by simp
  append_eq dir := ⟨dir ++ ['/'], fun _ _ => by simp⟩

end Flextool
