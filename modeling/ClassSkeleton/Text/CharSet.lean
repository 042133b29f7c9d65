/-
  ClassSkeleton.Text.CharSet — sets of characters.

  A set is an ascending list of code points: membership starts at the first, ends before the second,
  starts again at the third, and so on. Two sets are combined in one sweep over both lists; every
  operation on sets is such a sweep.
-/

namespace ClassSkeleton.Text

structure CharSet where
  bounds : List Nat
  deriving DecidableEq, Repr

def inBounds : List Nat → Nat → Bool
  | lo :: hi :: rest, n => if n < lo then false else if n < hi then true else inBounds rest n
  | [lo], n => lo ≤ n
  | [], _ => false

namespace CharSet

def has (s : CharSet) (n : Nat) : Bool := inBounds s.bounds n

def contains (s : CharSet) (c : Char) : Bool := s.has c.toNat

/-- Where `op` of two memberships changes, given what they are at the start. -/
def sweep (op : Bool → Bool → Bool) (inA inB : Bool) : List Nat → List Nat → List Nat
  | [], [] => []
  | a :: as, [] => change a (!inA) inB (sweep op (!inA) inB as [])
  | [], b :: bs => change b inA (!inB) (sweep op inA (!inB) [] bs)
  | a :: as, b :: bs =>
    if a < b then change a (!inA) inB (sweep op (!inA) inB as (b :: bs))
    else if b < a then change b inA (!inB) (sweep op inA (!inB) (a :: as) bs)
    else change a (!inA) (!inB) (sweep op (!inA) (!inB) as bs)
termination_by as bs => as.length + bs.length
where
  change (at' : Nat) (newA newB : Bool) (rest : List Nat) : List Nat :=
    if op inA inB = op newA newB then rest else at' :: rest

def union (s t : CharSet) : CharSet := ⟨sweep (· || ·) false false s.bounds t.bounds⟩

def inter (s t : CharSet) : CharSet := ⟨sweep (· && ·) false false s.bounds t.bounds⟩

def diff (s t : CharSet) : CharSet := ⟨sweep (fun a b => a && !b) false false s.bounds t.bounds⟩

def symmDiff (s t : CharSet) : CharSet := ⟨sweep (· != ·) false false s.bounds t.bounds⟩

def empty : CharSet := ⟨[]⟩

/-- Every code point but the surrogates, which are no characters. -/
def all : CharSet := ⟨[0, 0xd800, 0xe000, 0x110000]⟩

def compl (s : CharSet) : CharSet := all.diff s

def unionAll (sets : List CharSet) : CharSet := sets.foldl union empty

def single (c : Char) : CharSet := ⟨[c.toNat, c.toNat + 1]⟩

/-- The characters from `lo` to `hi`, both counted in. -/
def range (lo hi : Char) : CharSet := all.inter ⟨[lo.toNat, hi.toNat + 1]⟩

/-- From each first to each last code point every second one; the pairs are in ascending order. -/
def everySecond (pairs : List (Nat × Nat)) : CharSet :=
  ⟨pairs.flatMap fun (first, last) =>
    (List.range ((last - first) / 2 + 1)).flatMap fun i => [first + 2 * i, first + 2 * i + 1]⟩

/-- The bounds of the ascending code points. -/
def boundsOf : List Nat → List Nat
  | [] => []
  | n :: rest =>
    match boundsOf rest with
    | [] => [n, n + 1]
    | m :: more => if m = n then m :: more else if m = n + 1 then n :: more else n :: (n + 1) :: m :: more

def ofPoints (points : List Nat) : CharSet := ⟨boundsOf (points.mergeSort (· ≤ ·))⟩

/-- The unbroken ranges, both ends counted in. -/
def rangesOf : List Nat → List (Nat × Nat)
  | lo :: hi :: rest => (lo, hi - 1) :: rangesOf rest
  | _ => []

def ranges (s : CharSet) : List (Nat × Nat) := rangesOf s.bounds

def isAscii (s : CharSet) : Bool := s.bounds.all (· ≤ 0x80)

/-- The only member, if there is just one. -/
def only? (s : CharSet) : Option Char :=
  match s.bounds with
  | [lo, hi] => if hi = lo + 1 then some (Char.ofNat lo) else none
  | _ => none

/-- Sets by their names. -/
abbrev Table := List (List String × CharSet)

def Table.lookup (t : Table) (name : String) : Option CharSet := (t.find? fun e => e.1.contains name).map (·.2)

end CharSet

end ClassSkeleton.Text
