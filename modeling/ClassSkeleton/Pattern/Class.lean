import ClassSkeleton.Pattern.Escape

/-
  ClassSkeleton.Pattern.Class — bracketed classes.

  Characters, ranges, escapes, named ASCII classes `[:name:]` and nested classes, joined, and between
  them the operators `&& -- ~~`, which bind to the left and less than joining. A class is nested as deep
  as the classes in it, and one level deeper for its brackets, for two items or more side by side, and for
  each operator.
-/

namespace ClassSkeleton.Pattern

open Text (CharSet)

/-- The classes written `[:name:]`. -/
def asciiClass? (name : String) : Option CharSet :=
  match name with
  | "alnum" => some ⟨[0x30, 0x3a, 0x41, 0x5b, 0x61, 0x7b]⟩
  | "alpha" => some ⟨[0x41, 0x5b, 0x61, 0x7b]⟩
  | "ascii" => some ⟨[0, 0x80]⟩
  | "blank" => some ⟨[0x9, 0xa, 0x20, 0x21]⟩
  | "cntrl" => some ⟨[0, 0x20, 0x7f, 0x80]⟩
  | "digit" => some asciiDigit
  | "graph" => some ⟨[0x21, 0x7f]⟩
  | "lower" => some ⟨[0x61, 0x7b]⟩
  | "print" => some ⟨[0x20, 0x7f]⟩
  | "punct" => some ⟨[0x21, 0x30, 0x3a, 0x41, 0x5b, 0x61, 0x7b, 0x7f]⟩
  | "space" => some asciiSpace
  | "upper" => some ⟨[0x41, 0x5b]⟩
  | "word" => some asciiWord
  | "xdigit" => some ⟨[0x30, 0x3a, 0x41, 0x47, 0x61, 0x67]⟩
  | _ => none

inductive SetOp where
  | intersection
  | difference
  | symmetric
  deriving DecidableEq, Repr

def SetOp.apply (op : SetOp) (a b : CharSet) : CharSet :=
  match op with
  | intersection => a.inter b
  | difference => a.diff b
  | symmetric => a.symmDiff b

/-- A class as it is being read: its characters and how deep it is nested. -/
structure Level where
  set : CharSet
  height : Nat

/-- An open bracket: whether it is negated, the operand and operator before the current items, and the
items so far. -/
structure Bracket where
  negated : Bool
  left : Option (Level × SetOp)
  items : CharSet
  count : Nat
  /-- How deep the items are nested. -/
  height : Nat

namespace Bracket

def add (b : Bracket) (x : Level) : Bracket :=
  { b with items := b.items.union x.set, count := b.count + 1, height := max b.height x.height }

/-- The class read so far, with a pending operator applied. -/
def current (f : Flags) (b : Bracket) : Level :=
  let items : Level := ⟨b.items, if 2 ≤ b.count then b.height + 1 else b.height⟩
  match b.left with
  | none => items
  | some (l, op) => ⟨op.apply (f.fold l.set) (f.fold items.set), max l.height items.height + 1⟩

/-- What has been read becomes the left operand of an operator. -/
def operate (f : Flags) (op : SetOp) (b : Bracket) : Bracket :=
  { b with left := some (b.current f, op), items := CharSet.empty, count := 0, height := 0 }

def close (f : Flags) (b : Bracket) : Option Level :=
  let x := b.current f
  (f.negate? b.negated (f.fold x.set)).map fun s => ⟨s, x.height + 1⟩

end Bracket

/-- How many `-` signs the text starts with, and what follows them. -/
def leadingDashes (spaced : Bool) (s : List Char) : Nat × List Char :=
  match h : skipSpace spaced s with
  | '-' :: rest =>
    have := length_lt_of_skipSpace_eq h
    let (n, rest) := leadingDashes spaced rest
    (n + 1, rest)
  | rest => (0, rest)
termination_by s.length

/-- An open bracket after its `[`: a `^` negates, `-` signs at the start are literal, and so is a `]`
that would leave the class empty. -/
def openBracket (f : Flags) (s : List Char) : Option (Bracket × List Char) :=
  let (negated, s) := match skipSpace f.spaced s with
    | '^' :: rest => (true, rest)
    | s => (false, s)
  let (dashes, s) := leadingDashes f.spaced s
  let b : Bracket := ⟨negated, none, if dashes = 0 then CharSet.empty else CharSet.single '-', dashes, 0⟩
  match s with
  | [] => none
  | ']' :: rest =>
    if dashes = 0 then
      let rest := skipSpace f.spaced rest
      if rest.isEmpty then none else some (b.add ⟨CharSet.single ']', 0⟩, rest)
    else some (b, s)
  | s => some (b, s)

/-- `[:name:]`, after its `[`: the class, if this is one, and whether its complement is meant. -/
def namedClass : List Char → Option (Bool × CharSet × List Char)
  | ':' :: s =>
    let (negated, s) := match s with
      | '^' :: rest => (true, rest)
      | s => (false, s)
    match s.span (· != ':') with
    | (name, ':' :: ']' :: rest) => (asciiClass? (String.ofList name)).map fun s => (negated, s, rest)
    | _ => none
  | _ => none

/-- One item of a class: a character or an escape. -/
def classAtom (f : Flags) : List Char → Option (Atom × List Char)
  | [] => none
  | '\\' :: rest => escape f rest
  | c :: rest => some (.char c, rest)

/-- A character of a class; without Unicode it is one byte. -/
def classChar (f : Flags) : Atom → Option Char
  | .char c => if !f.unicode && 0x80 ≤ c.toNat then none else some c
  | _ => none

def classItem (f : Flags) (a : Atom) : Option CharSet :=
  match a with
  | .set s => some s
  | a => (classChar f a).map CharSet.single

/-- A range or a single item. -/
def classRange (f : Flags) (s : List Char) : Option (CharSet × List Char) :=
  match classAtom f s with
  | none => none
  | some (first, rest) =>
    match skipSpace f.spaced rest with
    | [] => none
    | '-' :: more =>
      let next := peekSpace f.spaced more
      if next = some ']' ∨ next = some '-' then (classItem f first).map fun s => (s, '-' :: more)
      else
        match classAtom f (skipSpace f.spaced more) with
        | none => none
        | some (last, rest) =>
          match classChar f first, classChar f last with
          | some lo, some hi => if lo ≤ hi then some (CharSet.range lo hi, rest) else none
          | _, _ => none
    | rest => (classItem f first).map fun s => (s, rest)

def setOp? : Char → Option Char → Option SetOp
  | '&', some '&' => some .intersection
  | '-', some '-' => some .difference
  | '~', some '~' => some .symmetric
  | _, _ => none

/-- Reads a bracketed class to its end. The open brackets, innermost first, are never empty while
reading; `fuel` bounds the number of items. -/
def bracketLoop (f : Flags) : (fuel : Nat) → List Bracket → List Char → Option (Level × List Char)
  | 0, _, _ => none
  | fuel + 1, stack, s =>
    match stack, skipSpace f.spaced s with
    | [], _ => none
    | _ :: _, [] => none
    | b :: outer, c :: rest =>
      if c = '[' then
        match namedClass rest with
        | some (negated, s, rest) =>
          match f.negate? negated (f.fold s) with
          | none => none
          | some s => bracketLoop f fuel (b.add ⟨s, 0⟩ :: outer) rest
        | none =>
          match openBracket f rest with
          | none => none
          | some (inner, rest) => bracketLoop f fuel (inner :: b :: outer) rest
      else if c = ']' then
        match b.close f, outer with
        | none, _ => none
        | some x, [] => some (x, rest)
        | some x, o :: os => bracketLoop f fuel (o.add x :: os) rest
      else
        match setOp? c rest.head? with
        | some op => bracketLoop f fuel (b.operate f op :: outer) rest.tail
        | none =>
          match classRange f (c :: rest) with
          | none => none
          | some (s, rest) => bracketLoop f fuel (b.add ⟨s, 0⟩ :: outer) rest

/-- A class, after its `[`. -/
def bracketed (f : Flags) (s : List Char) : Option (Level × List Char) :=
  (openBracket f s).bind fun (b, rest) => bracketLoop f (s.length + 1) [b] rest

end ClassSkeleton.Pattern
