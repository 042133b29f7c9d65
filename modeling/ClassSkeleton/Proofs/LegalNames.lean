import ClassSkeleton.Identifier

/-
  ClassSkeleton.Proofs.LegalNames — mended names are legal.

  An identifier has the shape of a word (`Shaped`: a first character that may start one, then characters that may
  follow) and is not reserved. A name that is none is mended: what may not occur becomes `_`, and what starts like a
  number, or is empty, gets a `_` in front. That gives a word (`shaped_mended`), since a character that may follow and
  is no number may start one. The word may be a reserved one only now, as the `_` that `-` becomes; then it gets a `_`
  behind, with which it is still a word and no reserved one (`reservedWords_bar`).

  So the policy always gives an identifier and changes nothing else than what is none (`rename_always_legal`). Which
  characters are letters and which are numbers is of no account: all is said of any `Alphabet`, the present one
  included, and asks only that what is neither does not occur.
-/

namespace ClassSkeleton

/-- Which characters are letters and which are numbers, in some edition of the character tables. A character may be
both, and is alphanumeric when it is either. -/
structure Alphabet where
  alphabetic : Char → Bool
  numeric : Char → Bool

namespace Alphabet

/-! ## The rules over any alphabet -/

variable (A : Alphabet)

def alphanumeric (c : Char) : Bool := A.alphabetic c || A.numeric c

def mayStart (c : Char) : Bool := A.alphabetic c || c == '_' || c == '$'

def mayFollow (c : Char) : Bool := A.alphanumeric c || c == '_' || c == '$'

def isLegal (name : String) : Bool :=
  match name.toList with
  | [] => false
  | c :: cs => A.mayStart c && cs.all A.mayFollow && !reservedWords.contains name

def mended (name : String) : List Char :=
  match name.toList.map fun c => if A.mayFollow c then c else '_' with
  | [] => ['_']
  | c :: cs => if A.numeric c then '_' :: c :: cs else c :: cs

def repair (name : String) : String :=
  let out := String.ofList (A.mended name)
  if reservedWords.contains out then out ++ "_" else out

def rename (name : String) : String := if A.isLegal name then name else A.repair name

/-- The tables in use. -/
def present : Alphabet := ⟨Text.isAlphabetic, Text.isNumeric⟩

theorem present_isLegal : present.isLegal = Identifier.isLegal := rfl

theorem present_rename : present.rename = IdentifierPolicy.rename.apply := rfl

variable {A}

/-! ## Words -/

/-- Begins and goes on like an identifier. -/
def Shaped (A : Alphabet) (cs : List Char) : Prop :=
  ∃ first rest, cs = first :: rest ∧ A.mayStart first = true ∧ ∀ c ∈ rest, A.mayFollow c = true

theorem isLegal_iff {name : String} : A.isLegal name = true ↔ A.Shaped name.toList ∧ name ∉ reservedWords := by
  unfold isLegal
  cases name.toList with
  | nil => simp [Shaped]
  | cons c cs => simp [Shaped, and_assoc]

theorem mayFollow_bar : A.mayFollow '_' = true := by simp [mayFollow]

theorem mayStart_bar : A.mayStart '_' = true := by simp [mayStart]

/-- What may follow but not start is a number. -/
theorem mayStart_of_mayFollow {c : Char} (h : A.mayFollow c = true) (hn : A.numeric c = false) :
    A.mayStart c = true := by
  simpa [mayFollow, alphanumeric, mayStart, hn] using h

theorem Shaped.bar {cs : List Char} (h : A.Shaped cs) : A.Shaped (cs ++ ['_']) := by
  obtain ⟨first, rest, rfl, hstart, hrest⟩ := h
  refine ⟨first, rest ++ ['_'], rfl, hstart, fun c hc => ?_⟩
  rcases List.mem_append.1 hc with hc | hc
  · exact hrest c hc
  · rw [List.mem_singleton.1 hc]
    exact mayFollow_bar

/-! ## Mended names -/

theorem mayFollow_of_mem_replaced {cs : List Char} {c : Char}
    (h : c ∈ cs.map fun c => if A.mayFollow c then c else '_') : A.mayFollow c = true := by
  obtain ⟨d, -, rfl⟩ := List.mem_map.1 h
  by_cases hd : A.mayFollow d = true
  · rwa [if_pos hd]
  · rw [if_neg hd]
    exact mayFollow_bar

theorem shaped_mended (name : String) : A.Shaped (A.mended name) := by
  unfold mended
  have hall : ∀ c ∈ name.toList.map fun c => if A.mayFollow c then c else '_', A.mayFollow c = true :=
    fun c => mayFollow_of_mem_replaced
  split
  · exact ⟨'_', [], rfl, mayStart_bar, by simp⟩
  · next c cs hreplaced =>
    rw [hreplaced] at hall
    by_cases hn : A.numeric c = true
    · rw [if_pos hn]
      exact ⟨'_', c :: cs, rfl, mayStart_bar, hall⟩
    · rw [if_neg hn]
      have hstart := mayStart_of_mayFollow (hall c List.mem_cons_self) (by simpa using hn)
      exact ⟨c, cs, rfl, hstart, fun d hd => hall d (List.mem_cons_of_mem _ hd)⟩

/-- No reserved word is one with a `_` behind. -/
theorem reservedWords_bar : ∀ w ∈ reservedWords, w ++ "_" ∉ reservedWords := by decide +kernel

theorem isLegal_repair (name : String) : A.isLegal (A.repair name) = true := by
  have hword := shaped_mended (A := A) name
  unfold repair
  by_cases hr : String.ofList (A.mended name) ∈ reservedWords
  · simp only [List.contains_eq_mem, hr, decide_true, if_true]
    refine isLegal_iff.2 ⟨?_, reservedWords_bar _ hr⟩
    rw [String.toList_append, String.toList_ofList]
    exact hword.bar
  · simp only [List.contains_eq_mem, hr, decide_false, Bool.false_eq_true, if_false]
    refine isLegal_iff.2 ⟨?_, hr⟩
    rwa [String.toList_ofList]

/-! ## The policy -/

theorem isLegal_rename (name : String) : A.isLegal (A.rename name) = true := by
  unfold rename
  split
  · next h => exact h
  · exact isLegal_repair name

theorem rename_of_isLegal {name : String} (h : A.isLegal name = true) : A.rename name = name := if_pos h

theorem rename_eq_iff {name : String} : A.rename name = name ↔ A.isLegal name = true := by
  constructor
  · intro h
    rw [← h]
    exact isLegal_rename name
  · exact rename_of_isLegal

end Alphabet

/-- The policy `rename` makes an identifier of any name, keeps exactly the names that are one, and so changes nothing
the second time, whatever characters count as letters and numbers. -/
theorem rename_always_legal (name : String) :
    (Identifier.isLegal (IdentifierPolicy.rename.apply name) = true ∧
      (IdentifierPolicy.rename.apply name = name ↔ Identifier.isLegal name = true) ∧
      IdentifierPolicy.rename.apply (IdentifierPolicy.rename.apply name) = IdentifierPolicy.rename.apply name) ∧
    ∀ A : Alphabet, A.isLegal (A.rename name) = true ∧ (A.rename name = name ↔ A.isLegal name = true) ∧
      A.rename (A.rename name) = A.rename name := by
  have hany : ∀ A : Alphabet, A.isLegal (A.rename name) = true ∧ (A.rename name = name ↔ A.isLegal name = true) ∧
      A.rename (A.rename name) = A.rename name :=
    fun A => ⟨A.isLegal_rename name, A.rename_eq_iff, A.rename_of_isLegal (A.isLegal_rename name)⟩
  refine ⟨?_, hany⟩
  rw [← Alphabet.present_isLegal, ← Alphabet.present_rename]
  exact hany .present

/-- A name that is a reserved word only once it is mended, and one that starts with a number beyond ASCII. -/
example : IdentifierPolicy.rename.apply "-" = "__" ∧ IdentifierPolicy.rename.apply "²-do" = "_²_do" := by decide +kernel

end ClassSkeleton
