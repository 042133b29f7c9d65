import ClassSkeleton.Pattern.Basic

/-
  ClassSkeleton.Pattern.Normal — patterns put together in a plain form.

  A sequence in a sequence and a choice in a choice are opened, what matches nothing but the empty text
  is repeated once at most, a choice between single characters or between sets is one set, and what all
  branches of a choice start with is taken out in front of it. The plain form matches what the pattern
  put together as it stands would; how large it is decides whether a pattern is taken at all.
-/

namespace ClassSkeleton.Pattern

open Text (CharSet)

/-! ### Lengths -/

def utf8Length (n : Nat) : Nat := if n < 0x80 then 1 else if n < 0x800 then 2 else if n < 0x10000 then 3 else 4

/-- The sum, the smaller or the greater one of two lengths, if both are known. -/
def both (f : Nat → Nat → Nat) : Option Nat → Option Nat → Option Nat
  | some a, some b => some (f a b)
  | _, _ => none

/-- The least number of bytes of a match; `none` if there is a part that never matches. -/
def minLength : Pattern → Option Nat
  | empty | edge _ => some 0
  | one set => set.bounds.head?.map utf8Length
  | group p => minLength p
  | seq p q => both (· + ·) (minLength p) (minLength q)
  | alt p q => both min (minLength p) (minLength q)
  | rep p least _ => (minLength p).map (· * least)

/-- The greatest number of bytes of a match; `none` if there is no bound or a part that never matches. -/
def maxLength : Pattern → Option Nat
  | empty | edge _ => some 0
  | one set => set.bounds.getLast?.map fun n => utf8Length (n - 1)
  | group p => maxLength p
  | seq p q => both (· + ·) (maxLength p) (maxLength q)
  | alt p q => both max (maxLength p) (maxLength q)
  | rep p _ bound => bound.bind fun most => (maxLength p).map (· * most)

/-! ### Sequences -/

/-- The parts of a sequence. -/
def parts : Pattern → List Pattern
  | empty => []
  | seq p q => p :: parts q
  | p => [p]

def sequence (ps : List Pattern) : Pattern := all (ps.flatMap parts)

/-- The character the pattern stands for, if it stands for just one. -/
def char? : Pattern → Option Char
  | one set => set.only?
  | _ => none

/-- The parts of a sequence, those characters that follow each other taken together. -/
def elements : List Pattern → List (List Pattern)
  | [] => []
  | p :: rest =>
    match elements rest with
    | (q :: qs) :: more => if p.char?.isSome && q.char?.isSome then (p :: q :: qs) :: more else [p] :: (q :: qs) :: more
    | more => [p] :: more

/-! ### Choices -/

/-- The branches of a choice. -/
def options : Pattern → List Pattern
  | alt p q => p :: options q
  | p => [p]

def set? : Pattern → Option CharSet
  | one set => some set
  | _ => none

/-- What both lists start with. -/
def commonStart {α : Type} [DecidableEq α] : List α → List α → List α
  | a :: as, b :: bs => if a = b then a :: commonStart as bs else []
  | _, _ => []

/-- What all branches start with, if each of them has two elements or more. -/
def sharedStart (branches : List (List (List Pattern))) : List (List Pattern) :=
  match branches with
  | [] => []
  | first :: rest =>
    if branches.all fun b => 2 ≤ b.length then rest.foldl commonStart first else []

/-- A choice between opened branches. Every round takes an element from each branch, so `fuel` of as many
as the shortest branch has is enough. -/
def choose : (fuel : Nat) → List Pattern → Pattern
  | 0, ps => any ps
  | fuel + 1, ps =>
    let ps := ps.flatMap options
    let sets := ps.filterMap set?
    if ps.length = 1 then any ps
    else if ps.all (fun p => p.char?.isSome) || (sets.length = ps.length && sets.all fun s => s.only?.isNone) then
      one (CharSet.unionAll sets)
    else
      let branches := ps.map fun p => elements (parts p)
      let start := sharedStart branches
      if start.isEmpty then any ps
      else
        let rest := branches.map fun b => all (b.drop start.length).flatten
        sequence (start.flatten ++ [choose fuel rest])

def choice (ps : List Pattern) : Pattern := choose ((ps.map fun p => p.parts.length).foldl max 0 + 1) ps

/-! ### Repetitions -/

def repeated (p : Pattern) (least : Nat) (bound : Option Nat) : Pattern :=
  let (least, bound) :=
    if p.maxLength = some 0 then (min least 1, some (min (bound.getD 1) 1)) else (least, bound)
  if least = 0 ∧ bound = some 0 then empty
  else if least = 1 ∧ bound = some 1 then p
  else rep p least bound

end ClassSkeleton.Pattern
