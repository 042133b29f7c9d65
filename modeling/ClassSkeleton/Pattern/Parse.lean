import ClassSkeleton.Pattern.Class
import ClassSkeleton.Pattern.Weight
import ClassSkeleton.Text.Alphabet

/-
  ClassSkeleton.Pattern.Parse — how patterns are written.

  Literals, `.`, `^`, `$`, groups (plain, named, with flags), `|`, the repetitions `? * + {n} {n,}
  {n,m}` with a lazy mark, escapes and bracketed classes. There is no look-around and no
  back-reference. Groups, repetitions, sequences, choices and classes may be nested 250 deep, and the
  pattern may not be too heavy.

  The reader is a loop over the text with a stack of open groups; every step takes at least one
  character, so the length of the text bounds the number of steps.
-/

namespace ClassSkeleton.Pattern

open Text (CharSet)

/-- A part of a sequence: what it matches, how deep it is nested, and whether it may be repeated, which a
change of flags may not. -/
structure Piece where
  pattern : Pattern
  height : Nat
  repeatable : Bool

def maxHeight : Nat := 250

/-! ### Repetitions -/

/-- The digits at the start of the text, and what follows them. -/
def digitRun (spaced : Bool) (s : List Char) : List Char × List Char :=
  match h : skipSpace spaced s with
  | [] => ([], [])
  | c :: rest =>
    have := length_lt_of_skipSpace_eq h
    if c.isDigit then
      let (digits, rest) := digitRun spaced rest
      (c :: digits, rest)
    else ([], c :: rest)
termination_by s.length

/-- A decimal number with blanks around it. -/
def decimal (spaced : Bool) (s : List Char) : Option Nat × List Char :=
  let (digits, rest) := digitRun spaced (s.dropWhile Text.isWhiteSpace)
  let n := digits.foldl (fun n c => n * 10 + (c.toNat - 48)) 0
  (if digits.isEmpty ∨ n ≥ 0x100000000 then none else some n, skipSpace spaced (rest.dropWhile Text.isWhiteSpace))

/-- The bounds after `{`, up to and with the closing brace. -/
def countedBounds (spaced : Bool) (s : List Char) : Option (Nat × Option Nat × List Char) :=
  match decimal spaced (skipSpace spaced s) with
  | (none, _) => none
  | (some least, '}' :: rest) => some (least, some least, rest)
  | (some least, ',' :: rest) =>
    match skipSpace spaced rest with
    | '}' :: rest => some (least, none, rest)
    | rest =>
      match decimal spaced rest with
      | (some most, '}' :: rest) => if least ≤ most then some (least, some most, rest) else none
      | _ => none
  | _ => none

/-- A `?` that makes a repetition lazy; it does not change what matches. -/
def dropLazy : List Char → List Char
  | '?' :: rest => rest
  | s => s

/-! ### Groups -/

/-- A group that is open: whether it is kept apart, the flags to go back to, and what stood before it. -/
structure Frame where
  captures : Bool
  flags : Flags
  alternatives : List Piece
  pieces : List Piece

structure State where
  rest : List Char
  flags : Flags
  /-- The finished alternatives of the innermost group, last first. -/
  alternatives : List Piece
  /-- The sequence being read, last piece first. -/
  pieces : List Piece
  frames : List Frame
  names : List (List Char)

def greatestHeight (pieces : List Piece) : Nat := pieces.foldl (fun h p => max h p.height) 0

def joinPieces : List Piece → Piece
  | [] => ⟨empty, 0, true⟩
  | [p] => { p with repeatable := true }
  | ps => ⟨sequence (ps.reverse.map (·.pattern)), greatestHeight ps + 1, true⟩

def choosePieces : List Piece → Piece
  | [p] => p
  | ps => ⟨choice (ps.reverse.map (·.pattern)), greatestHeight ps + 1, true⟩

/-- The innermost group's contents. -/
def State.contents (s : State) : Piece := choosePieces (joinPieces s.pieces :: s.alternatives)

def mayNameStart (c : Char) : Bool := c == '_' || Text.isAlphabetic c

def mayNameFollow (c : Char) : Bool := c == '_' || c == '.' || c == '[' || c == ']' || Text.isAlphanumeric c

def isGroupName : List Char → Bool
  | [] => false
  | c :: cs => mayNameStart c && cs.all mayNameFollow

def State.enter (s : State) (captures : Bool) (inner : Flags) (rest : List Char) : State :=
  { s with rest := rest, flags := inner, alternatives := [], pieces := [],
           frames := ⟨captures, s.flags, s.alternatives, s.pieces⟩ :: s.frames }

def named (s : State) (rest : List Char) : Option State :=
  match rest.span (· != '>') with
  | (name, _ :: rest) =>
    if isGroupName name && !s.names.contains name then
      some { s.enter true s.flags rest with names := name :: s.names }
    else none
  | _ => none

/-- What follows an opening parenthesis. -/
def openGroup (s : State) (rest : List Char) : Option State :=
  match skipSpace s.flags.spaced rest with
  | '?' :: '=' :: _ | '?' :: '!' :: _ | '?' :: '<' :: '=' :: _ | '?' :: '<' :: '!' :: _ => none
  | '?' :: 'P' :: '<' :: rest => named s rest
  | '?' :: '<' :: rest => named s rest
  | '?' :: rest =>
    match rest.span fun c => c != ':' && c != ')' with
    | (_, []) => none
    | (written, c :: more) =>
      match s.flags.read written with
      | none => none
      | some inner =>
        if c = ':' then some (s.enter false inner more)
        else if written.isEmpty then none
        else some { s with rest := more, flags := inner, pieces := ⟨empty, 0, false⟩ :: s.pieces }
  | rest => some (s.enter true s.flags rest)

def closeGroup (s : State) (rest : List Char) : Option State :=
  match s.frames with
  | [] => none
  | frame :: frames =>
    let inner := s.contents
    let pattern := if frame.captures then group inner.pattern else inner.pattern
    some { s with rest := rest, flags := frame.flags, alternatives := frame.alternatives,
                  pieces := ⟨pattern, inner.height + 1, true⟩ :: frame.pieces, frames := frames }

/-! ### The reader -/

/-- A literal; without Unicode only the letters of ASCII have two cases. -/
def literal (f : Flags) (c : Char) : Pattern :=
  if f.unicode || c.toNat < 0x80 then one (f.fold (CharSet.single c)) else char c

def dot (f : Flags) : Option CharSet :=
  if !f.unicode then none
  else if f.dotAll then some CharSet.all
  else if f.crlf then some (CharSet.compl ⟨[0xa, 0xb, 0xd, 0xe]⟩)
  else some (CharSet.compl ⟨[0xa, 0xb]⟩)

def atomPattern (f : Flags) : Atom → Option Pattern
  | .char c => some (literal f c)
  | .byte => none
  | .set s => some (one s)
  | .edge e => some (edge e)

def State.push (s : State) (p : Pattern) (rest : List Char) : State :=
  { s with rest := rest, pieces := ⟨p, 0, true⟩ :: s.pieces }

/-- Repeats the last piece. -/
def State.repeatLast (s : State) (least : Nat) (bound : Option Nat) (rest : List Char) : Option State :=
  match s.pieces with
  | p :: ps =>
    if p.repeatable then
      some { s with rest := dropLazy rest, pieces := ⟨repeated p.pattern least bound, p.height + 1, true⟩ :: ps }
    else none
  | [] => none

/-- Reads one part, of which `c` is the first character. -/
def step (s : State) (c : Char) (rest : List Char) : Option State :=
  let f := s.flags
  match c with
  | '(' => openGroup s rest
  | ')' => closeGroup s rest
  | '|' => some { s with rest := rest, alternatives := joinPieces s.pieces :: s.alternatives, pieces := [] }
  | '[' => (bracketed f rest).map fun (x, rest) => { s with rest := rest, pieces := ⟨one x.set, x.height, true⟩ :: s.pieces }
  | '?' => s.repeatLast 0 (some 1) rest
  | '*' => s.repeatLast 0 none rest
  | '+' => s.repeatLast 1 none rest
  | '{' => (countedBounds f.spaced rest).bind fun (least, bound, rest) => s.repeatLast least bound (skipSpace f.spaced rest)
  | '\\' => (escape f rest).bind fun (a, rest) => (atomPattern f a).map fun p => s.push p rest
  | '.' => (dot f).map fun set => s.push (one set) rest
  | '^' => some (s.push (edge (if f.multiLine then .lineStart f.crlf else .textStart)) rest)
  | '$' => some (s.push (edge (if f.multiLine then .lineEnd f.crlf else .textEnd)) rest)
  | c => some (s.push (literal f c) rest)

def loop : (fuel : Nat) → State → Option State
  | 0, s => some s
  | fuel + 1, s =>
    match skipSpace s.flags.spaced s.rest with
    | [] => some { s with rest := [] }
    | c :: rest =>
      match step s c rest with
      | some s => loop fuel s
      | none => none

/-- The pattern a text writes, if it is one. -/
def parse? (text : String) : Option Pattern :=
  match loop (text.length + 1) ⟨text.toList, Flags.start, [], [], [], []⟩ with
  | some s =>
    let p := s.contents
    if s.rest.isEmpty && s.frames.isEmpty && p.height ≤ maxHeight && p.pattern.isLight then some p.pattern else none
  | none => none

end ClassSkeleton.Pattern
