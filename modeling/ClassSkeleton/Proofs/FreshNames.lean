import Mathlib.Data.Finset.Card
import Mathlib.Order.Bounds.Basic
import ClassSkeleton.Naming
import ClassSkeleton.Proofs.FiniteWalks

/-
  ClassSkeleton.Proofs.FreshNames — names that nobody has.

  The search for a free name tries numbered candidates in order, one more than there are taken names. They
  are all different, so one of them is free (`firstFree_not_mem`), and the search stops at the first that is;
  without the bound on its turns it would stop there as well (`firstFree_least`). A name with a number behind it
  is a legal identifier when the name is: digits may follow, and no reserved word ends in one
  (`isLegal_numbered`). Names of constants are numbered too, once or twice, so they are legal whatever is taken
  (`isLegal_constantName`).

  - `first_free_names_found`: any base name, any ordinal of a constant, any taken names.
-/

namespace ClassSkeleton

open Relation

namespace Naming

/-! ## The search -/

/-- The search stops at a free candidate with taken ones before it, or it has tried them all. -/
theorem firstFree_spec (taken : List String) (name : Nat → String) (left n : Nat) :
    ∃ i ≤ left, firstFree taken name left n = name (n + i) ∧ (∀ j < i, name (n + j) ∈ taken) ∧
      (i = left ∨ name (n + i) ∉ taken) := by
  induction left generalizing n with
  | zero => exact ⟨0, Nat.le_refl 0, rfl, fun j hj => absurd hj (Nat.not_lt_zero j), .inl rfl⟩
  | succ left ih =>
    unfold firstFree
    split
    · next ht =>
      obtain ⟨i, hi, heq, hbefore, hstop⟩ := ih (n + 1)
      have hshift (j : Nat) : n + 1 + j = n + (j + 1) := by omega
      simp only [hshift] at heq hbefore hstop
      refine ⟨i + 1, by omega, heq, fun j hj => ?_, hstop.imp_left fun h => by omega⟩
      cases j with
      | zero => simpa using ht
      | succ j => exact hbefore j (by omega)
    · next ht => exact ⟨0, by omega, rfl, fun j hj => absurd hj (Nat.not_lt_zero j), .inr (by simpa using ht)⟩

/-- Candidates in a row that are all taken are no more than there are taken names. -/
theorem run_le_card {taken : List String} {name : Nat → String} (hinj : Function.Injective name) {n i : Nat}
    (hrun : ∀ j < i, name (n + j) ∈ taken) : i ≤ taken.toFinset.card := by
  have hmaps : Set.MapsTo (fun j => name (n + j)) (Finset.range i) taken.toFinset := by
    intro j hj
    simpa using hrun j (by simpa using hj)
  have hne : Set.InjOn (fun j => name (n + j)) (Finset.range i) := by
    intro j _ k _ hjk
    have := hinj hjk
    omega
  simpa using Finset.card_le_card_of_injOn _ hmaps hne

/-- Among as many candidates as there are taken names and one more, one is free. -/
theorem firstFree_not_mem {taken : List String} {name : Nat → String} (hinj : Function.Injective name) (n : Nat) :
    firstFree taken name taken.length n ∉ taken := by
  intro h
  obtain ⟨i, hi, heq, hbefore, hstop⟩ := firstFree_spec taken name taken.length n
  rw [heq] at h
  rcases hstop with rfl | hfree
  · have hrun : ∀ j < taken.length + 1, name (n + j) ∈ taken := by
      intro j hj
      rcases Nat.lt_or_eq_of_le (Nat.le_of_lt_succ hj) with hj | rfl
      · exact hbefore j hj
      · exact h
    have hcard := run_le_card hinj hrun
    have hlength := taken.toFinset_card_le
    omega
  · exact hfree h

/-- A turn of the search: the candidate is taken, so the next one is looked at. -/
def Rejects (taken : List String) (name : Nat → String) (n m : Nat) : Prop := name n ∈ taken ∧ m = n + 1

theorem rejects_run {taken : List String} {name : Nat → String} {n i : Nat} (h : ∀ j < i, name (n + j) ∈ taken) :
    ReflTransGen (Rejects taken name) n (n + i) := by
  induction i with
  | zero => exact .refl
  | succ i ih =>
    have hfront := ih fun j hj => h j (Nat.lt_succ_of_lt hj)
    exact hfront.tail ⟨h i (Nat.lt_succ_self i), rfl⟩

/-- Without a bound on its turns the search ends too, at the first candidate that is free. -/
theorem firstFree_least (taken : List String) {name : Nat → String} (hinj : Function.Injective name) (n : Nat) :
    ∃ k, firstFree taken name taken.length n = name k ∧ Ends (Rejects taken name) n k ∧
      k ≤ n + taken.toFinset.card ∧ IsLeast {m | n ≤ m ∧ name m ∉ taken} k := by
  obtain ⟨i, -, heq, hbefore, -⟩ := firstFree_spec taken name taken.length n
  have hfree : name (n + i) ∉ taken := heq ▸ firstFree_not_mem hinj n
  have hends : Ends (Rejects taken name) n (n + i) := by
    refine .of_reaches ?_ (rejects_run hbefore) fun m hm => hfree hm.1
    rintro a b c ⟨-, rfl⟩ ⟨-, rfl⟩
    rfl
  refine ⟨n + i, heq, hends, Nat.add_le_add_left (run_le_card hinj hbefore) n, ⟨Nat.le_add_right n i, hfree⟩, ?_⟩
  rintro m ⟨hle, hm⟩
  by_contra hlt
  have hmem := hbefore (m - n) (by omega)
  rw [show n + (m - n) = m by omega] at hmem
  exact hm hmem

/-! ## Numbered names -/

/-- The name with a number behind it. -/
def numbered (base : String) (n : Nat) : String := base ++ "_" ++ toString n

theorem numbered_injective (base : String) : Function.Injective (numbered base) := by
  intro i j hij
  have hrepr : i.repr = j.repr := (String.append_right_inj _).1 hij
  -- The digits of a number are its decimal text.
  have hdigits : Nat.toDigits 10 i = Nat.toDigits 10 j := String.ofList_injective hrepr
  rw [← Nat.ofDigitChars_ten_toDigits (n := i), hdigits, Nat.ofDigitChars_ten_toDigits]

theorem numbered_ne (base : String) (n : Nat) : numbered base n ≠ base := by
  intro h
  have hlength := congrArg String.length h
  have hbar : ("_" : String).length = 1 := rfl
  simp only [numbered, String.length_append, hbar] at hlength
  omega

theorem freshName_not_mem (base : String) (taken : List String) : freshName base taken ∉ taken :=
  firstFree_not_mem (numbered_injective base) 1

/-- A fresh name has the least positive number that makes it new. -/
theorem freshName_least (base : String) (taken : List String) :
    ∃ k, freshName base taken = numbered base k ∧ IsLeast {k | 1 ≤ k ∧ numbered base k ∉ taken} k := by
  obtain ⟨k, hk, -, -, hleast⟩ := firstFree_least taken (numbered_injective base) 1
  exact ⟨k, hk, hleast⟩

/-- The candidates for a constant: the plain name first, then with numbers behind it. -/
def constantCandidate (ordinal : Nat) : Nat → String
  | 0 => "CONSTANT_" ++ toString ordinal
  | n + 1 => numbered ("CONSTANT_" ++ toString ordinal) (n + 1)

theorem constantName_eq (ordinal : Nat) (taken : List String) :
    constantName ordinal taken = firstFree taken (constantCandidate ordinal) taken.length 0 := by
  have hname : constantCandidate ordinal = fun n =>
      if n = 0 then "CONSTANT_" ++ toString ordinal else "CONSTANT_" ++ toString ordinal ++ "_" ++ toString n := by
    funext n
    cases n <;> rfl
  rw [hname]
  rfl

theorem constantCandidate_injective (ordinal : Nat) : Function.Injective (constantCandidate ordinal) := by
  intro i j hij
  cases i with
  | zero =>
    cases j with
    | zero => rfl
    | succ j => exact absurd hij.symm (numbered_ne _ _)
  | succ i =>
    cases j with
    | zero => exact absurd hij (numbered_ne _ _)
    | succ j => exact numbered_injective _ hij

theorem constantName_not_mem (ordinal : Nat) (taken : List String) : constantName ordinal taken ∉ taken := by
  rw [constantName_eq]
  exact firstFree_not_mem (constantCandidate_injective ordinal) 0

/-- Whatever names are taken: the search for a fresh name ends without any bound on its turns, when it has looked at
no more candidates than there are taken names and one more, all of them different, and the name has the least positive
number that makes it new. So does the search for the name of a constant, at the first of its candidates that is free. -/
theorem first_free_names_found (base : String) (ordinal : Nat) (taken : List String) :
    (Function.Injective (numbered base) ∧
      ∃ k, Ends (Rejects taken (numbered base)) 1 k ∧ k ≤ taken.toFinset.card + 1 ∧
        IsLeast {n | 1 ≤ n ∧ numbered base n ∉ taken} k ∧ freshName base taken = numbered base k) ∧
    (Function.Injective (constantCandidate ordinal) ∧
      ∃ k, Ends (Rejects taken (constantCandidate ordinal)) 0 k ∧ k ≤ taken.toFinset.card ∧
        IsLeast {n | constantCandidate ordinal n ∉ taken} k ∧ constantName ordinal taken = constantCandidate ordinal k) := by
  constructor
  · refine ⟨numbered_injective base, ?_⟩
    obtain ⟨k, hk, hends, hle, hleast⟩ := firstFree_least taken (numbered_injective base) 1
    exact ⟨k, hends, by omega, hleast, hk⟩
  · refine ⟨constantCandidate_injective ordinal, ?_⟩
    obtain ⟨k, hk, hends, hle, hleast⟩ := firstFree_least taken (constantCandidate_injective ordinal) 0
    refine ⟨k, hends, by omega, ?_, (constantName_eq ordinal taken).trans hk⟩
    simpa using hleast

/-! ## Legal names -/

theorem mayFollow_digit {c : Char} (h : c.isDigit = true) : Identifier.mayFollow c = true := by
  have hascii : c.toNat < 0x80 := Nat.lt_of_le_of_lt (Char.isDigit_iff_toNat.1 h).2 (by decide)
  simp [Identifier.mayFollow, Text.isAlphanumeric, Text.isNumeric, hascii, h]

theorem reservedWords_end : ∀ w ∈ reservedWords, w.toList.getLast?.any Char.isDigit = false := by decide +kernel

theorem isDigit_of_mem_toString {n : Nat} {c : Char} (h : c ∈ (toString n).toList) : c.isDigit = true := by
  rw [Nat.toString_eq_repr, Nat.toList_repr] at h
  exact Nat.isDigit_of_mem_toDigits (by decide) (by decide) h

theorem numbered_not_reserved (base : String) (n : Nat) : numbered base n ∉ reservedWords := by
  intro h
  have hne : (toString n).toList ≠ [] := by
    rw [Nat.toString_eq_repr, Nat.toList_repr]
    exact Nat.toDigits_ne_nil
  have hlast : (numbered base n).toList.getLast? = some ((toString n).toList.getLast hne) := by
    rw [numbered, String.toList_append, List.getLast?_append_of_ne_nil _ hne, List.getLast?_eq_some_getLast hne]
  have hend := reservedWords_end _ h
  rw [hlast, Option.any_some, isDigit_of_mem_toString (List.getLast_mem hne)] at hend
  cases hend

theorem isLegal_numbered {base : String} (h : Identifier.isLegal base = true) (n : Nat) :
    Identifier.isLegal (numbered base n) = true := by
  have hreserved := numbered_not_reserved base n
  have hdigits : (toString n).toList.all Identifier.mayFollow = true :=
    List.all_eq_true.2 fun c hc => mayFollow_digit (isDigit_of_mem_toString hc)
  have hbar : Identifier.mayFollow '_' = true := by decide
  unfold Identifier.isLegal at h ⊢
  rw [show (numbered base n).toList = base.toList ++ '_' :: (toString n).toList by simp [numbered]]
  cases hb : base.toList with
  | nil => simp [hb] at h
  | cons c cs =>
    simp only [hb, Bool.and_eq_true] at h
    simp only [List.cons_append, List.all_append, List.all_cons, Bool.and_eq_true, Bool.not_eq_true',
      List.contains_eq_mem, decide_eq_false_iff_not]
    exact ⟨⟨h.1.1, h.1.2, hbar, hdigits⟩, hreserved⟩

theorem isLegal_freshName {base : String} (h : Identifier.isLegal base = true) (taken : List String) :
    Identifier.isLegal (freshName base taken) = true := by
  obtain ⟨k, hk, -⟩ := freshName_least base taken
  rw [hk]
  exact isLegal_numbered h k

theorem isLegal_constantName (ordinal : Nat) (taken : List String) :
    Identifier.isLegal (constantName ordinal taken) = true := by
  have hplain : Identifier.isLegal ("CONSTANT_" ++ toString ordinal) = true := by
    have hbase : "CONSTANT_" ++ toString ordinal = numbered "CONSTANT" ordinal := rfl
    rw [hbase]
    exact isLegal_numbered (by decide) ordinal
  obtain ⟨i, -, heq, -, -⟩ := firstFree_spec taken (constantCandidate ordinal) taken.length 0
  rw [constantName_eq, heq]
  cases 0 + i with
  | zero => exact hplain
  | succ n => exact isLegal_numbered hplain _

end Naming

end ClassSkeleton
