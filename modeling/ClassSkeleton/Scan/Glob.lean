import ClassSkeleton.Pattern.Basic
import ClassSkeleton.Text.Utf8

/-
  ClassSkeleton.Scan.Glob — patterns for paths.

  `?` is one byte and `*` any number of them, neither a separator; `[…]` is a class, negated by `!` or
  `^`; `{a,b}` is a choice; a backslash makes the next character plain. `**` as a whole name stands for
  any number of directories. A `[` without its `]` is plain, and so is every later one. A branch of a
  choice that is empty does not count, and a choice of such branches only is empty itself. A glob has to
  match the whole path, byte by byte.
-/

namespace ClassSkeleton.Scan

inductive GlobToken where
  | literal (c : Char)
  | any
  | star
  /-- `**/` at the start, `/**/` inside and `/**` at the end. -/
  | treeFront
  | treeInside
  | treeEnd
  | set (negated : Bool) (ranges : List (Char × Char))
  | choice (branches : List (List GlobToken))

/-- A choice that is open: what stands before it and its finished branches, all last first. -/
structure GlobFrame where
  outer : List GlobToken
  branches : List (List GlobToken)

structure GlobState where
  rest : List Char
  prev : Option Char
  /-- The tokens of the current branch, last first. -/
  tokens : List GlobToken
  frames : List GlobFrame
  /-- Whether a class may still be read. -/
  classes : Bool

def isSeparator (c : Option Char) : Bool := c == some '/'

/-- A `*`, of which the text after it is `rest`. -/
def readStar (s : GlobState) (rest : List Char) : GlobState :=
  let plain (rest : List Char) (prev : Char) (n : Nat) : GlobState :=
    { s with rest := rest, prev := some prev, tokens := List.replicate n .star ++ s.tokens }
  match rest with
  | '*' :: rest =>
    let next := rest.head?
    if s.tokens.isEmpty then
      if next.isNone || isSeparator next then
        { s with rest := rest.tail, prev := next, tokens := [.treeFront] }
      else plain rest '*' 2
    else if !isSeparator s.prev && (s.frames.isEmpty || (s.prev != some ',' && s.prev != some '{')) then plain rest '*' 2
    else
      let atEnd := next.isNone || (!s.frames.isEmpty && (next == some ',' || next == some '}'))
      if !atEnd && !isSeparator next then plain rest '*' 2
      else
        let (rest, prev) := if atEnd then (rest, some '*') else (rest.tail, next)
        match s.tokens with
        | .treeFront :: front => { s with rest := rest, prev := prev, tokens := .treeFront :: front }
        | .treeEnd :: front => { s with rest := rest, prev := prev, tokens := .treeEnd :: front }
        | _ :: front => { s with rest := rest, prev := prev, tokens := (if atEnd then .treeEnd else .treeInside) :: front }
        | [] => { s with rest := rest, prev := prev }
  | rest => plain rest '*' 1

/-- What reading a class comes to. -/
inductive SetReading where
  | closed (ranges : List (Char × Char)) (rest : List Char)
  | unclosed
  /-- A range whose ends are in the wrong order. -/
  | invalid

/-- The ranges of a class up to its closing bracket, last first; `open'` says that a `-` waits for its
upper end. -/
def readRanges : List Char → (first open' : Bool) → List (Char × Char) → SetReading
  | [], _, _, _ => .unclosed
  | c :: rest, first, open', ranges =>
    if c = ']' && !first then .closed (if open' then ('-', '-') :: ranges else ranges) rest
    else if c = '-' && !first && !open' then readRanges rest false true ranges
    else
      match open', ranges with
      | true, (lo, _) :: more => if c < lo then .invalid else readRanges rest false false ((lo, c) :: more)
      | _, _ => readRanges rest false false ((c, c) :: ranges)

/-- A `[`, of which the text after it is `rest`. -/
def readSet (s : GlobState) (rest : List Char) : Option GlobState :=
  let plain : GlobState := { s with rest := rest, prev := some '[', tokens := .literal '[' :: s.tokens, classes := false }
  if !s.classes then some plain
  else
    let (negated, body) := match rest with
      | '!' :: body | '^' :: body => (true, body)
      | body => (false, body)
    match readRanges body true false [] with
    | .closed ranges rest =>
      some { s with rest := rest, prev := some ']', tokens := .set negated ranges.reverse :: s.tokens }
    | .unclosed => some plain
    | .invalid => none

def GlobState.push (s : GlobState) (t : GlobToken) (c : Char) (rest : List Char) : GlobState :=
  { s with rest := rest, prev := some c, tokens := t :: s.tokens }

/-- Reads one token, of which `c` is the first character. -/
def globStep (s : GlobState) (c : Char) (rest : List Char) : Option GlobState :=
  match c with
  | '?' => some (s.push .any c rest)
  | '*' => some (readStar s rest)
  | '[' => readSet s rest
  | '{' => some { s with rest := rest, prev := some c, tokens := [], frames := ⟨s.tokens, []⟩ :: s.frames }
  | '}' =>
    match s.frames with
    | [] => none
    | f :: fs =>
      let choice := GlobToken.choice (s.tokens.reverse :: f.branches).reverse
      some { s with rest := rest, prev := some c, tokens := choice :: f.outer, frames := fs }
  | ',' =>
    match s.frames with
    | [] => some (s.push (.literal c) c rest)
    | f :: fs =>
      some { s with rest := rest, prev := some c, tokens := [], frames := ⟨f.outer, s.tokens.reverse :: f.branches⟩ :: fs }
  | '\\' =>
    match rest with
    | [] => none
    | d :: rest => some (s.push (.literal d) d rest)
  | c => some (s.push (.literal c) c rest)

def globLoop : (fuel : Nat) → GlobState → Option (List GlobToken)
  | 0, _ => none
  | fuel + 1, s =>
    match s.rest with
    | [] => if s.frames.isEmpty then some s.tokens.reverse else none
    | c :: rest =>
      match globStep s c rest with
      | some s => globLoop fuel s
      | none => none

/-- A byte as a character of its own, as paths are matched. -/
def byteChar (b : UInt8) : Char := Char.ofNat b.toNat

def byteChars (c : Char) : List Char := (String.utf8EncodeChar c).map byteChar

/-- The byte ranges a range of characters is written as. -/
def byteRanges (r : Char × Char) : List (Char × Char) :=
  if r.1 = r.2 then (byteChars r.1).map fun c => (c, c)
  else
    let lo := byteChars r.1
    let hi := byteChars r.2
    lo.dropLast.map (fun c => (c, c)) ++ [(lo.getLast?.getD r.1, hi.head?.getD r.2)] ++ hi.tail.map fun c => (c, c)

def anyByte : Pattern := .one Text.CharSet.all

def notSeparator : Pattern := .one (Text.CharSet.single '/').compl

def separator : Pattern := Pattern.char '/'

mutual

/-- The pattern of a token; a choice without branches that count has none. -/
def GlobToken.pattern? : GlobToken → Option Pattern
  | .literal c => some (Pattern.all ((byteChars c).map Pattern.char))
  | .any => some notSeparator
  | .star => some (.rep notSeparator 0 none)
  | .treeFront => some (.alt (.rep separator 0 (some 1)) (.seq (.rep anyByte 0 none) separator))
  | .treeInside => some (.seq separator (.alt .empty (.seq (.rep anyByte 0 none) separator)))
  | .treeEnd => some (.seq separator (.rep anyByte 0 none))
  | .set negated ranges =>
    let bytes := Text.CharSet.unionAll ((ranges.flatMap byteRanges).map fun r => Text.CharSet.range r.1 r.2)
    some (.one (if negated then bytes.compl else bytes))
  | .choice branches =>
    match branchPatterns branches with
    | [] => none
    | ps => some (Pattern.any ps)

def tokenPatterns : List GlobToken → List Pattern
  | [] => []
  | t :: rest => t.pattern?.toList ++ tokenPatterns rest

/-- The branches that are not empty. -/
def branchPatterns : List (List GlobToken) → List Pattern
  | [] => []
  | branch :: rest =>
    match tokenPatterns branch with
    | [] => branchPatterns rest
    | ps => Pattern.all ps :: branchPatterns rest

end

/-- The pattern of a glob, if it is well formed. -/
def glob? (text : List Char) : Option Pattern :=
  (globLoop (text.length + 1) ⟨text, none, [], [], true⟩).map fun tokens =>
    match tokens with
    | [.treeFront] => .rep anyByte 0 none
    | tokens => Pattern.all (tokenPatterns tokens)

/-- Whether a glob's pattern matches the whole of a path. -/
def globMatches (p : Pattern) (path : String) : Bool := p.matchesAll ((Text.utf8 path).map byteChar)

end ClassSkeleton.Scan
