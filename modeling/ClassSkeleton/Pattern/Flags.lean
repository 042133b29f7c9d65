import ClassSkeleton.Text.Blank
import ClassSkeleton.Text.Fold

/-
  ClassSkeleton.Pattern.Flags — how the text of a pattern is to be read.

  `i` case, `m` lines, `s` dot, `U` laziness, `u` Unicode, `x` blanks and comments, `R` CRLF. With `x`
  blanks, and comments from `#` to the end of the line, may stand between most characters. Without `u`
  classes are of bytes, and may only have those that are characters by themselves.
-/

namespace ClassSkeleton.Pattern

open Text (CharSet)

structure Flags where
  ignoreCase : Bool
  multiLine : Bool
  dotAll : Bool
  unicode : Bool
  spaced : Bool
  crlf : Bool
  deriving DecidableEq, Repr

namespace Flags

def start : Flags := ⟨false, false, false, true, false, false⟩

def set (f : Flags) (c : Char) (value : Bool) : Option Flags :=
  match c with
  | 'i' => some { f with ignoreCase := value }
  | 'm' => some { f with multiLine := value }
  | 's' => some { f with dotAll := value }
  | 'U' => some f
  | 'u' => some { f with unicode := value }
  | 'x' => some { f with spaced := value }
  | 'R' => some { f with crlf := value }
  | _ => none

/-- The flags as written: each once, those after a single `-` switched off. -/
def read (f : Flags) (written : List Char) : Option Flags :=
  if written.getLast? = some '-' ∨ ¬ written.Nodup then none
  else
    let on := written.takeWhile (· != '-')
    let off := (written.dropWhile (· != '-')).drop 1
    (on.foldlM (fun (f : Flags) c => f.set c true) f).bind fun f => off.foldlM (fun (f : Flags) c => f.set c false) f

/-- The set closed under case, if case is to be ignored. -/
def fold (f : Flags) (s : CharSet) : CharSet :=
  if !f.ignoreCase then s else s.closeUnder (if f.unicode then Text.foldPairs else Text.asciiPairs)

/-- The set or its complement; the complement of a class of bytes has bytes that are no characters. -/
def negate? (f : Flags) (negated : Bool) (s : CharSet) : Option CharSet :=
  if !negated then some s else if f.unicode then some s.compl else none

end Flags

/-! ### Blanks and comments -/

mutual

/-- The text after blanks and comments, where they may stand. -/
def skipSpace (spaced : Bool) : List Char → List Char
  | [] => []
  | c :: rest =>
    if !spaced then c :: rest
    else if Text.isWhiteSpace c then skipSpace spaced rest
    else if c = '#' then skipComment spaced rest
    else c :: rest

def skipComment (spaced : Bool) : List Char → List Char
  | [] => []
  | c :: rest => if c = '\n' then skipSpace spaced rest else skipComment spaced rest

end

mutual

theorem length_skipSpace_le (spaced : Bool) (s : List Char) : (skipSpace spaced s).length ≤ s.length := by
  match s with
  | [] => simp [skipSpace]
  | c :: rest =>
    have h := length_skipSpace_le spaced rest
    have h' := length_skipComment_le spaced rest
    unfold skipSpace
    repeat' split
    all_goals simp only [List.length_cons]; omega

theorem length_skipComment_le (spaced : Bool) (s : List Char) : (skipComment spaced s).length ≤ s.length := by
  match s with
  | [] => simp [skipComment]
  | c :: rest =>
    have h := length_skipSpace_le spaced rest
    have h' := length_skipComment_le spaced rest
    unfold skipComment
    split <;> simp only [List.length_cons] <;> omega

end

theorem length_lt_of_skipSpace_eq {spaced : Bool} {s rest : List Char} {c : Char}
    (h : skipSpace spaced s = c :: rest) : rest.length < s.length := by
  have := length_skipSpace_le spaced s
  rw [h, List.length_cons] at this
  omega

/-- The next character, as it is looked for after the `-` of a range: past blanks and the `#` of a comment,
but not past what the comment says. -/
def peekSpace (spaced : Bool) (s : List Char) : Option Char :=
  if !spaced then s.head?
  else
    let s' := match s.dropWhile Text.isWhiteSpace with
      | '#' :: rest => rest.dropWhile Text.isWhiteSpace
      | rest => rest
    if s'.isEmpty then s.head? else s'.head?

end ClassSkeleton.Pattern
