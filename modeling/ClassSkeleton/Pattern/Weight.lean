import ClassSkeleton.Pattern.Normal

/-
  ClassSkeleton.Pattern.Weight — how much a pattern may take.

  A pattern weighs as many bytes as the two machines for it, which read a text forward and backward byte
  by byte. A machine is made of states of 32 bytes; one that branches by the next byte takes 8 bytes more
  for each range of bytes, and one that goes several ways at once 4 bytes more for each way. Repetitions
  are written out. A pattern either machine of which weighs more than 10 MiB is refused.
-/

namespace ClassSkeleton.Pattern

open Text (CharSet)

inductive Direction where
  | forward
  | backward
  deriving DecidableEq, Repr

def stateWeight : Nat := 32

/-- A state that goes `n` ways at once. -/
def forkWeight (n : Nat) : Nat := stateWeight + 4 * n

/-- A state that branches by `n` ranges of bytes. -/
def branchWeight (n : Nat) : Nat := stateWeight + 8 * n

/-! ### Sets as byte sequences -/

/-- A way to write characters: a range for each of their bytes. -/
abbrev ByteRanges := List (Nat × Nat)

/-- The numbers from `lo` to `hi` as first digits and `k` digits to base 64, each row of ranges a block
that has all combinations. -/
def digitBlocks : (k lo hi : Nat) → List ByteRanges
  | 0, lo, hi => [[(lo, hi)]]
  | k + 1, lo, hi =>
    let unit := 64 ^ (k + 1)
    let a := lo / unit
    let b := hi / unit
    if a = b then (digitBlocks k (lo % unit) (hi % unit)).map ((a, a) :: ·)
    else
      let front := if lo % unit = 0 then [] else (digitBlocks k (lo % unit) (unit - 1)).map ((a, a) :: ·)
      let back := if hi % unit = unit - 1 then [] else (digitBlocks k 0 (hi % unit)).map ((b, b) :: ·)
      let first := if lo % unit = 0 then a else a + 1
      let last := if hi % unit = unit - 1 then b + 1 else b
      let middle := if first < last then [(first, last - 1) :: List.replicate (k + 1) (0, 63)] else []
      front ++ middle ++ back

/-- A range of code points, cut where they take one byte more; with each piece how many bytes follow the
first. -/
def cutRange (r : Nat × Nat) : List (Nat × Nat × Nat) :=
  [(0, 0, 0x80), (1, 0x80, 0x800), (2, 0x800, 0x10000), (3, 0x10000, 0x110000)].filterMap fun (k, from', limit) =>
    let lo := max r.1 from'
    let hi := min r.2 (limit - 1)
    if lo ≤ hi then some (k, lo, hi) else none

/-- The byte sequences of a set's characters, in ascending order. Only how many bytes there are and which
ranges agree counts, so digits stand for the bytes that follow the first. -/
def byteSequences (s : CharSet) : List ByteRanges :=
  s.ranges.flatMap fun r => (cutRange r).flatMap fun (k, lo, hi) =>
    (digitBlocks k lo hi).map fun row =>
      match row with
      | (a, b) :: rest => (a + 0x1000 * k, b + 0x1000 * k) :: rest
      | [] => []

/-- The sequences after a common first range, for each such range; equal ones are next to each other. -/
def tails : List ByteRanges → List ((Nat × Nat) × List ByteRanges)
  | [] => []
  | [] :: rest => tails rest
  | (r :: row) :: rest =>
    match tails rest with
    | (q, rows) :: more => if r = q then (r, row :: rows) :: more else (r, [row]) :: (q, rows) :: more
    | [] => [(r, [row])]

/-- What can be left to read after some bytes: the list itself and all lists of tails, up to four levels
down. -/
def leftovers : (depth : Nat) → List ByteRanges → List (List ByteRanges)
  | 0, rows => [rows]
  | depth + 1, rows =>
    let next := (((tails rows).map (·.2)).filter fun rows => rows.any fun r => !r.isEmpty).eraseDups
    rows :: next.flatMap (leftovers depth)

/-- Reading forward, places with the same left to read are one state. -/
def forwardSetWeight (rows : List ByteRanges) : Nat :=
  stateWeight + (((leftovers 3 rows).eraseDups).map fun rows => branchWeight (tails rows).length).foldl (· + ·) 0

/-- How many ranges the second sequence has after what it shares with the first. -/
def ownLength (previous row : ByteRanges) : Nat := row.length - (commonStart previous row).length

/-- Reading backward, sequences that start alike share states. -/
def backwardSetWeight (rows : List ByteRanges) : Nat :=
  let states := (([] :: rows).zip rows).map fun (previous, row) => ownLength previous row
  forkWeight rows.length + stateWeight + stateWeight * states.foldl (· + ·) 0

def setWeight (d : Direction) (s : CharSet) : Nat :=
  match s.only? with
  | some c => stateWeight * utf8Length c.toNat
  | none =>
    if s.isAscii then stateWeight + branchWeight s.ranges.length
    else
      match d with
      | .forward => forwardSetWeight (byteSequences s)
      | .backward => backwardSetWeight (byteSequences s)

/-! ### Choices between words -/

/-- The bytes of a pattern that is a plain word. -/
def word? (p : Pattern) : Option (List UInt8) :=
  if p.parts.isEmpty then none else (p.parts.mapM char?).map fun cs => cs.flatMap String.utf8EncodeChar

/-- The pieces between empty words. -/
def chunks : List (List UInt8) → List (List (List UInt8))
  | [] => [[]]
  | [] :: rest => [] :: chunks rest
  | w :: rest =>
    match chunks rest with
    | c :: more => (w :: c) :: more
    | [] => [[w]]

/-- The states that read one of the words byte by byte, but for the one they end in. -/
def treeWeight : (fuel : Nat) → List (List UInt8) → Nat
  | 0, _ => 0
  | fuel + 1, words =>
    if words.all (·.isEmpty) then 0
    else
      let (front, rest) := words.span (·.isEmpty)
      let stops := (if front.isEmpty then 0 else 1) + rest.countP (·.isEmpty)
      let filled := (chunks words).filter fun c => !c.isEmpty
      let inner := filled.map fun chunk =>
        let heads := (chunk.filterMap (·.head?)).eraseDups
        let children := heads.map fun b => treeWeight fuel ((chunk.filter fun w => w.head? == some b).map (·.tail))
        (if heads.length = 1 then stateWeight else branchWeight heads.length) + children.sum
      forkWeight (filled.length + stops) + inner.sum

def wordsWeight (d : Direction) (words : List (List UInt8)) : Nat :=
  let words := if d = .backward then words.map List.reverse else words
  stateWeight + treeWeight ((words.map List.length).foldl max 0 + 1) words

/-! ### Patterns -/

def repWeight (body : Nat) (mayBeEmpty : Bool) : (least : Nat) → (bound : Option Nat) → Nat
  | 0, none => if mayBeEmpty then body + 2 * forkWeight 2 + stateWeight else body + forkWeight 2
  | least + 1, none => (least + 1) * body + forkWeight 2
  | 0, some 1 => forkWeight 2 + body + stateWeight
  | least, some most =>
    let fixed := if least = 0 then stateWeight else least * body
    if least = most then fixed else fixed + stateWeight + (most - least) * (forkWeight 2 + body)

/-- The weight of a pattern; of a branch of a choice with the way to it. -/
def bodyWeight (d : Direction) : (inChoice : Bool) → Pattern → Nat
  | true, alt p q => bodyWeight d true p + bodyWeight d true q
  | false, alt p q =>
    match (p :: q.options).mapM word? with
    | some words => wordsWeight d words
    | none => 2 * stateWeight + bodyWeight d true p + bodyWeight d true q
  | inChoice, p =>
    let way := if inChoice then 4 else 0
    match p with
    | empty | edge _ | alt _ _ => stateWeight + way
    | one set => setWeight d set + way
    | group p => bodyWeight d false p + (if d = .forward then 2 * stateWeight else 0) + way
    | seq p q => bodyWeight d false p + bodyWeight d false q + way
    | rep p least bound =>
      repWeight (bodyWeight d false p) (minLength p = some 0 || minLength p = none) least bound + way

/-- Whether a match, read in the direction, can only begin at an end of the text, and whether it takes no
byte at all. -/
def tie (d : Direction) : Pattern → Bool × Bool
  | empty => (false, true)
  | one _ => (false, false)
  | edge e => (e = (if d = .forward then .textStart else .textEnd), true)
  | group p => tie d p
  | seq p q =>
    let a := tie d p
    let b := tie d q
    (if d = .forward then a.1 || (a.2 && b.1) else b.1 || (b.2 && a.1), a.2 && b.2)
  | alt p q =>
    let a := tie d p
    let b := tie d q
    (a.1 && b.1, a.2 && b.2)
  | rep p least bound =>
    let a := tie d p
    (0 < least && a.1, bound.isSome && a.2)

/-- The weight of the machine: what passes over bytes before a match, the pattern as a group if it is read
forward, and the last state. -/
def weight (d : Direction) (p : Pattern) : Nat :=
  (if (tie d p).1 then stateWeight else forkWeight 2 + stateWeight + branchWeight 1) +
    bodyWeight d false (group p) + stateWeight

def maxWeight : Nat := 10 * 1024 * 1024

def isLight (p : Pattern) : Bool := p.weight .forward ≤ maxWeight && p.weight .backward ≤ maxWeight

end ClassSkeleton.Pattern
