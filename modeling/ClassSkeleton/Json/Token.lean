import ClassSkeleton.Text.Cut

/-
  ClassSkeleton.Json.Token — the tokens of a JSON text.

  Punctuation, the three words, numbers and strings, with blanks between them: spaces, tabs, line feeds
  and carriage returns only. A string is cut out first, up to the first quote that no backslash takes,
  and then unescaped; a code unit of a pair counts only together with the other one.
-/

namespace ClassSkeleton.Json

inductive Token where
  | openBracket
  | closeBracket
  | openBrace
  | closeBrace
  | comma
  | colon
  | null
  | bool (b : Bool)
  | number (spelling : String)
  | string (text : String)
  deriving DecidableEq, Repr

def isBlank (c : Char) : Bool := c == ' ' || c == '\t' || c == '\n' || c == '\r'

def punctuation? : Char → Option Token
  | '[' => some .openBracket
  | ']' => some .closeBracket
  | '\x7b' => some .openBrace
  | '\x7d' => some .closeBrace
  | ',' => some .comma
  | ':' => some .colon
  | _ => none

/-! ### Words and numbers -/

/-- What follows one digit or more. -/
def afterDigits : List Char → Option (List Char)
  | c :: rest => if c.isDigit then some (rest.dropWhile Char.isDigit) else none
  | [] => none

/-- What follows the digits before the point: a lone zero, or digits that start with another one. -/
def afterWhole : List Char → Option (List Char)
  | '0' :: rest => some rest
  | s => afterDigits s

def afterFraction : List Char → Option (List Char)
  | '.' :: rest => afterDigits rest
  | s => some s

def afterExponent : List Char → Option (List Char)
  | c :: rest =>
    if c = 'e' ∨ c = 'E' then
      match rest with
      | '+' :: digits => afterDigits digits
      | '-' :: digits => afterDigits digits
      | digits => afterDigits digits
    else some (c :: rest)
  | [] => some []

def isNumber (s : List Char) : Bool :=
  let unsigned := match s with
    | '-' :: rest => rest
    | rest => rest
  (afterWhole unsigned |>.bind afterFraction |>.bind afterExponent) == some []

/-- The characters of words and numbers. -/
def isWordChar (c : Char) : Bool := c.isAlphanum || c == '+' || c == '-' || c == '.'

def word? (s : List Char) : Option Token :=
  if s = "null".toList then some .null
  else if s = "true".toList then some (.bool true)
  else if s = "false".toList then some (.bool false)
  else if isNumber s then some (.number (String.ofList s))
  else none

/-! ### Strings -/

/-- The text up to the closing quote, escapes as they are written, and what follows the quote. -/
def cutString : List Char → Option (List Char × List Char)
  | [] => none
  | '"' :: rest => some ([], rest)
  | '\\' :: c :: rest => (cutString rest).map fun (raw, after) => ('\\' :: c :: raw, after)
  | c :: rest => (cutString rest).map fun (raw, after) => (c :: raw, after)

theorem length_of_cutString {s raw after : List Char} (h : cutString s = some (raw, after)) :
    after.length < s.length := by
  fun_induction cutString s generalizing raw after with
  | case1 => simp at h
  | case2 rest => simp_all
  | case3 c rest ih =>
    obtain ⟨⟨r, a⟩, ha, heq⟩ := Option.map_eq_some_iff.1 h
    simp only [Prod.mk.injEq] at heq
    have := ih ha
    simp only [List.length_cons, ← heq.2]
    omega
  | case4 c rest _ _ ih =>
    obtain ⟨⟨r, a⟩, ha, heq⟩ := Option.map_eq_some_iff.1 h
    simp only [Prod.mk.injEq] at heq
    have := ih ha
    simp only [List.length_cons, ← heq.2]
    omega

def hexValue? (c : Char) : Option Nat :=
  if c.isDigit then some (c.toNat - '0'.toNat)
  else if 'a' ≤ c ∧ c ≤ 'f' then some (c.toNat - 'a'.toNat + 10)
  else if 'A' ≤ c ∧ c ≤ 'F' then some (c.toNat - 'A'.toNat + 10)
  else none

def hexQuad? (a b c d : Char) : Option Nat := do
  let a ← hexValue? a
  let b ← hexValue? b
  let c ← hexValue? c
  let d ← hexValue? d
  return ((a * 16 + b) * 16 + c) * 16 + d

def simpleEscape? : Char → Option Char
  | '"' => some '"'
  | '\\' => some '\\'
  | '/' => some '/'
  | 'b' => some '\x08'
  | 'f' => some '\x0c'
  | 'n' => some '\n'
  | 'r' => some '\r'
  | 't' => some '\t'
  | _ => none

/-- The code units of a string's text; a character that is not written as a unit is one by itself. -/
def units? : List Char → Option (List Nat)
  | [] => some []
  | '\\' :: 'u' :: a :: b :: c :: d :: rest => do
    let n ← hexQuad? a b c d
    let ns ← units? rest
    return n :: ns
  | '\\' :: c :: rest => do
    let e ← simpleEscape? c
    let ns ← units? rest
    return e.toNat :: ns
  | c :: rest =>
    if c.toNat < 0x20 ∨ c = '\\' then none else (units? rest).map (c.toNat :: ·)

def isHigh (n : Nat) : Bool := 0xD800 ≤ n && n < 0xDC00

def isLow (n : Nat) : Bool := 0xDC00 ≤ n && n < 0xE000

/-- The characters of code units; half of a pair has none. -/
def joinPairs? : List Nat → Option (List Char)
  | [] => some []
  | hi :: lo :: rest =>
    if isHigh hi then
      if isLow lo then (joinPairs? rest).map (Char.ofNat (0x10000 + (hi - 0xD800) * 0x400 + (lo - 0xDC00)) :: ·)
      else none
    else if isLow hi then none
    else (joinPairs? (lo :: rest)).map (Char.ofNat hi :: ·)
  | [n] => if isHigh n || isLow n then none else some [Char.ofNat n]

def unescape? (raw : List Char) : Option String := ((units? raw).bind joinPairs?).map String.ofList

/-! ### The whole text -/

/-- The tokens of a text; `none` when some part of it is no token. -/
def tokens? (s : List Char) : Option (List Token) :=
  match s with
  | [] => some []
  | c :: rest =>
    if isBlank c then tokens? rest
    else if c = '"' then
      match h : cutString rest with
      | none => none
      | some (raw, after) =>
        have := length_of_cutString h
        match unescape? raw, tokens? after with
        | some text, some ts => some (.string text :: ts)
        | _, _ => none
    else if isWordChar c then
      have := (List.dropWhile_suffix isWordChar (l := rest)).length_le
      match word? (c :: rest.takeWhile isWordChar), tokens? (rest.dropWhile isWordChar) with
      | some t, some ts => some (t :: ts)
      | _, _ => none
    else
      match punctuation? c, tokens? rest with
      | some t, some ts => some (t :: ts)
      | _, _ => none
termination_by s.length

end ClassSkeleton.Json
