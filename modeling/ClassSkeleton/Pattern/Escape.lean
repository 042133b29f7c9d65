import ClassSkeleton.Pattern.Basic
import ClassSkeleton.Pattern.Flags
import ClassSkeleton.Text.Property

/-
  ClassSkeleton.Pattern.Escape — what a backslash and the characters after it stand for.

  A sign by itself, a control character, a code in hexadecimal digits, the classes `\d \s \w` and their
  complements, a property `\p{…}`, or an edge. Where the flag `x` is on, blanks and comments may stand
  inside an escape, after its first character.
-/

namespace ClassSkeleton.Pattern

open Text (CharSet)

/-- What an escape, or a plain character, stands for. -/
inductive Atom where
  | char (c : Char)
  /-- A byte above 7F, which is no character. -/
  | byte
  | set (s : CharSet)
  | edge (e : Edge)

/-! ### Codes -/

def hexDigit? (c : Char) : Option Nat :=
  if c.isDigit then some (c.toNat - 48)
  else if 'a' ≤ c ∧ c ≤ 'f' then some (c.toNat - 87)
  else if 'A' ≤ c ∧ c ≤ 'F' then some (c.toNat - 55)
  else none

def hexNumber? : List Char → Option Nat
  | [] => none
  | ds => ds.foldlM (fun n c => (hexDigit? c).map fun d => n * 16 + d) 0

def charOfCode? (n : Nat) : Option Char := if n.isValidChar then some (Char.ofNat n) else none

/-- The characters up to the closing brace. -/
def untilBrace (spaced : Bool) (s : List Char) : Option (List Char × List Char) :=
  match h : skipSpace spaced s with
  | [] => none
  | c :: rest =>
    have := length_lt_of_skipSpace_eq h
    if c = '}' then some ([], rest) else (untilBrace spaced rest).map fun (inside, rest) => (c :: inside, rest)
termination_by s.length

/-- The next `n` characters. -/
def take (spaced : Bool) : (n : Nat) → List Char → Option (List Char × List Char)
  | 0, s => some ([], s)
  | n + 1, s =>
    match skipSpace spaced s with
    | [] => none
    | c :: rest => (take spaced n rest).map fun (taken, rest) => (c :: taken, rest)

/-- A code after `\x`, `\u` or `\U`: in braces, or as many digits as the letter asks for. Without Unicode two
digits after `\x` are a byte. -/
def hexEscape (f : Flags) (letter : Char) (s : List Char) : Option (Atom × List Char) :=
  match skipSpace f.spaced s with
  | '{' :: rest => do
    let (digits, rest) ← untilBrace f.spaced rest
    let c ← (hexNumber? digits).bind charOfCode?
    some (.char c, rest)
  | s => do
    let (digits, rest) ← take f.spaced (if letter = 'x' then 2 else if letter = 'u' then 4 else 8) s
    let c ← (hexNumber? digits).bind charOfCode?
    some (if letter = 'x' && !f.unicode && 0x80 ≤ c.toNat then .byte else .char c, rest)

/-! ### Classes -/

def asciiDigit : CharSet := ⟨[0x30, 0x3a]⟩

def asciiSpace : CharSet := ⟨[0x9, 0xe, 0x20, 0x21]⟩

def asciiWord : CharSet := ⟨[0x30, 0x3a, 0x41, 0x5b, 0x5f, 0x60, 0x61, 0x7b]⟩

def wordChars (f : Flags) : CharSet := if f.unicode then Text.Binary.word else asciiWord

/-- The classes `\d`, `\s` and `\w`, and in capitals their complements. -/
def shorthand? (f : Flags) (c : Char) : Option CharSet :=
  let set := match c.toLower with
    | 'd' => some (if f.unicode then Text.Category.nd else asciiDigit)
    | 's' => some (if f.unicode then Text.blanks else asciiSpace)
    | 'w' => some (wordChars f)
    | _ => none
  set.bind (f.negate? c.isUpper)

/-- The first place where the text `sep` stands, with what is before and after it. -/
def cutAt (sep : List Char) : List Char → Option (List Char × List Char)
  | [] => none
  | c :: rest =>
    if sep.isPrefixOf (c :: rest) then some ([], (c :: rest).drop sep.length)
    else (cutAt sep rest).map fun (a, b) => (c :: a, b)

/-- The property between the braces of `\p{…}`, and whether its complement is asked for. -/
def bracedProperty (inside : List Char) : Option (Bool × CharSet) :=
  match cutAt ['!', '='] inside with
  | some (name, value) => (Text.valuedProperty? name value).map fun s => (true, s)
  | none =>
    let s := match cutAt [':'] inside with
      | some (name, value) => Text.valuedProperty? name value
      | none =>
        match cutAt ['='] inside with
        | some (name, value) => Text.valuedProperty? name value
        | none => Text.property? inside
    s.map fun s => (false, s)

def propertyEscape (f : Flags) (negated : Bool) (s : List Char) : Option (Atom × List Char) :=
  if !f.unicode then none
  else
    let found : Option (Bool × CharSet × List Char) := match skipSpace f.spaced s with
      | [] => none
      | '{' :: rest => do
        let (inside, rest) ← untilBrace f.spaced rest
        let (complement, s) ← bracedProperty inside
        some (complement, s, rest)
      | c :: rest => if c = '\\' then none else (Text.property? [c]).map fun s => (false, s, rest)
    found.bind fun (complement, s, rest) =>
      (f.negate? (complement != negated) (f.fold s)).map fun s => (.set s, rest)

/-! ### Edges -/

def wordEdge? (name : String) : Option WordEdge :=
  match name with
  | "start" => some .start
  | "end" => some .finish
  | "start-half" => some .startHalf
  | "end-half" => some .finishHalf
  | _ => none

/-- `\b`, which braces after it can make one of the four special edges. -/
def boundaryEscape (f : Flags) (s : List Char) : Option (Atom × List Char) :=
  let edge (kind : WordEdge) : Atom := .edge (.word (wordChars f) kind)
  match s with
  | '{' :: rest =>
    match skipSpace f.spaced rest with
    | [] => none
    | c :: more =>
      if c.isAlpha || c == '-' then do
        let (name, rest) ← untilBrace f.spaced (c :: more)
        let kind ← wordEdge? (String.ofList name)
        some (edge kind, rest)
      else some (edge .boundary, s)
  | _ => some (edge .boundary, s)

def edge? (f : Flags) (c : Char) : Option Edge :=
  match c with
  | 'A' => some .textStart
  | 'z' => some .textEnd
  | 'B' => some (.word (wordChars f) .noBoundary)
  | '<' => some (.word (wordChars f) .start)
  | '>' => some (.word (wordChars f) .finish)
  | _ => none

/-! ### Escapes -/

def control? (c : Char) : Option Char :=
  match c with
  | 'a' => some '\x07'
  | 'f' => some '\x0c'
  | 't' => some '\t'
  | 'n' => some '\n'
  | 'r' => some '\r'
  | 'v' => some '\x0b'
  | _ => none

/-- What follows a backslash. -/
def escape (f : Flags) : List Char → Option (Atom × List Char)
  | [] => none
  | c :: rest =>
    if c = 'x' ∨ c = 'u' ∨ c = 'U' then hexEscape f c rest
    else if c = 'p' ∨ c = 'P' then propertyEscape f (c == 'P') rest
    else if "dswDSW".toList.contains c then (shorthand? f c).map fun s => (.set s, rest)
    else if c = 'b' then boundaryEscape f rest
    else
      match edge? f c with
      | some e => some (.edge e, rest)
      | none =>
        match control? c with
        | some d => some (.char d, rest)
        | none => if c.toNat < 0x80 && !c.isAlphanum then some (.char c, rest) else none

end ClassSkeleton.Pattern
