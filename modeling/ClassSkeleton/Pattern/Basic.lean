import ClassSkeleton.Text.Binary

/-
  ClassSkeleton.Pattern.Basic — patterns and where they match.

  A pattern is built from sets of characters and tests on the place between two, by sequence, choice,
  grouping and bounded or unbounded repetition. `ends` takes a set of places in a text, counted in
  characters from its start, to the places a match from one of them can end at. Places are kept in
  ascending order, and a repetition looks at no place twice; so a search costs a number of steps that
  depends on the sizes of pattern and text only. There is a match when some place is reached from some
  start.
-/

namespace ClassSkeleton

open Text (CharSet)

/-- How a place can lie to words. -/
inductive WordEdge where
  | boundary
  | noBoundary
  | start
  | finish
  /-- Behind something that is no character of a word. -/
  | startHalf
  /-- In front of something that is no character of a word. -/
  | finishHalf
  deriving DecidableEq, Repr

/-- Whether the edge lies between two neighbours, given which of them are characters of words. -/
def WordEdge.holds (kind : WordEdge) (before after : Bool) : Bool :=
  match kind with
  | .boundary => before != after
  | .noBoundary => before == after
  | .start => !before && after
  | .finish => before && !after
  | .startHalf => !before
  | .finishHalf => !after

/-- What is asked of a place: to be an end of the text, of a line, or of a word. Lines end with a line
feed or, with `crlf`, also with a carriage return, but not between the two. -/
inductive Edge where
  | textStart
  | textEnd
  | lineStart (crlf : Bool)
  | lineEnd (crlf : Bool)
  | word (chars : CharSet) (kind : WordEdge)
  deriving DecidableEq, Repr

namespace Edge

/-- Whether the edge lies between the two neighbours, of which the ends of the text lack one. -/
def holds (e : Edge) (before after : Option Char) : Bool :=
  match e with
  | textStart => before.isNone
  | textEnd => after.isNone
  | lineStart crlf =>
    before.isNone || before == some '\n' || (crlf && before == some '\r' && after != some '\n')
  | lineEnd crlf =>
    after.isNone || (if crlf then after == some '\r' || (after == some '\n' && before != some '\r') else after == some '\n')
  | word chars kind => kind.holds (before.any chars.contains) (after.any chars.contains)

end Edge

inductive Pattern where
  | empty
  /-- One character of the set. -/
  | one (set : CharSet)
  | edge (e : Edge)
  /-- A group that is kept apart from its surroundings; it matches what its body does. -/
  | group (body : Pattern)
  | seq (first second : Pattern)
  | alt (left right : Pattern)
  /-- At least `least` times and, if there is a bound, at most that often. -/
  | rep (body : Pattern) (least : Nat) (bound : Option Nat)
  deriving DecidableEq, Repr

namespace Pattern

/-- The places in either of two ascending lists. -/
def merge : List Nat → List Nat → List Nat
  | [], t => t
  | s, [] => s
  | a :: s, b :: t =>
    if a < b then a :: merge s (b :: t) else if b < a then b :: merge (a :: s) t else a :: merge s t
termination_by s t => s.length + t.length

/-- The places of the first of two ascending lists that are not in the second. -/
def without : List Nat → List Nat → List Nat
  | [], _ => []
  | s, [] => s
  | a :: s, b :: t =>
    if a < b then a :: without s (b :: t) else if b < a then without (a :: s) t else without s t
termination_by s t => s.length + t.length

/-- `f` applied `n` times; a round that changes nothing is the last. -/
def iterate (f : List Nat → List Nat) : Nat → List Nat → List Nat
  | 0, s => s
  | n + 1, s =>
    let next := f s
    if next = s then s else iterate f n next

/-- `seen` and what `f` leads to from `frontier` in at most `n` rounds. -/
def within (f : List Nat → List Nat) : (n : Nat) → (seen frontier : List Nat) → List Nat
  | 0, seen, _ => seen
  | n + 1, seen, frontier =>
    let fresh := without (f frontier) seen
    if fresh.isEmpty then seen else within f n (merge seen fresh) fresh

/-- What `f` leads to from `frontier` in one round or more, up to `n`; no round starts at a place where one
has `started`. -/
def onward (f : List Nat → List Nat) : (n : Nat) → (started frontier : List Nat) → List Nat
  | 0, _, _ => []
  | n + 1, started, frontier =>
    let image := f frontier
    let fresh := without image started
    if fresh.isEmpty then image else merge image (onward f n (merge started fresh) fresh)

def ends (text : Array Char) : Pattern → List Nat → List Nat
  | empty, s => s
  | one set, s => s.filterMap fun i => (text[i]?).bind fun c => if set.contains c then some (i + 1) else none
  | edge e, s => s.filter fun i => e.holds (if i = 0 then none else text[i - 1]?) text[i]?
  | group p, s => ends text p s
  | seq p q, s => ends text q (ends text p s)
  | alt p q, s => merge (ends text p s) (ends text q s)
  | rep p least (some most), s =>
    let start := iterate (fun t => ends text p t) least s
    within (fun t => ends text p t) (most - least) start start
  | rep p 0 none, s => merge s (onward (fun t => ends text p t) (text.size + 2) s s)
  | rep p (least + 1) none, s =>
    let start := iterate (fun t => ends text p t) least s
    onward (fun t => ends text p t) (text.size + 2) start start

/-- Whether the pattern matches somewhere in the text. -/
def search (p : Pattern) (text : String) : Bool :=
  let chars := text.toList.toArray
  !(ends chars p (List.range (chars.size + 1))).isEmpty

/-- Whether the pattern matches the text from its start to its end. -/
def matchesAll (p : Pattern) (text : List Char) : Bool := (ends text.toArray p [0]).contains text.length

def char (c : Char) : Pattern := one (CharSet.single c)

def all : List Pattern → Pattern
  | [] => empty
  | [p] => p
  | p :: rest => seq p (all rest)

def any : List Pattern → Pattern
  | [] => one CharSet.empty
  | [p] => p
  | p :: rest => alt p (any rest)

end Pattern

end ClassSkeleton
