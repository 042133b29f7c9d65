import ClassSkeleton.Scan.Glob
import ClassSkeleton.Text.Blank
import ClassSkeleton.Text.Cut

/-
  ClassSkeleton.Scan.Ignore — files that name what a scan leaves out.

  One glob a line; empty lines and those that start with `#` say nothing. `!` in front takes matching
  paths back in, `/` in front or inside ties the glob to the directory of the file, and `/` behind
  limits it to directories. Of the lines that match a path the last one decides. A malformed glob is
  passed over.
-/

namespace ClassSkeleton.Scan

structure IgnoreRule where
  pattern : Pattern
  takesIn : Bool
  onlyDirs : Bool

/-- The line without blanks at its end, unless a backslash keeps them. -/
def trimLine (line : List Char) : List Char :=
  if ['\\', ' '].isSuffixOf line then line else (line.reverse.dropWhile Text.isWhiteSpace).reverse

/-- The glob a rule stands for: without a separator it may match at any depth, and `/**` at its end is
for what is inside only. -/
def anchoredGlob (tied : Bool) (body : List Char) : List Char :=
  let front := "**/".toList
  let glob := if tied || body.contains '/' || front.isPrefixOf body || body == ['*', '*'] then body else front ++ body
  if "/**".toList.isSuffixOf glob then glob ++ "/*".toList else glob

def ignoreRule? (line : List Char) : Option IgnoreRule :=
  if line.head? = some '#' then none
  else
    let line := trimLine line
    if line.isEmpty then none
    else
      let (takesIn, tied, body) := match line with
        | '\\' :: '!' :: rest => (false, false, '!' :: rest)
        | '\\' :: '#' :: rest => (false, false, '#' :: rest)
        | '!' :: '/' :: rest => (true, true, rest)
        | '!' :: rest => (true, false, rest)
        | '/' :: rest => (false, true, rest)
        | rest => (false, false, rest)
      let (onlyDirs, body) := match body.reverse with
        | '/' :: '\\' :: back => (true, back.reverse)
        | '/' :: back => (true, back.reverse)
        | _ => (false, body)
      (glob? (anchoredGlob tied body)).map fun p => ⟨p, takesIn, onlyDirs⟩

/-- The lines, each ended by a line feed with or without a carriage return before it, and what
follows the last of them. -/
def splitLines : List UInt8 → List (List UInt8)
  | [] => [[]]
  | 0x0D :: 0x0A :: rest => [] :: splitLines rest
  | b :: rest =>
    if b = 0x0A then [] :: splitLines rest
    else
      match splitLines rest with
      | l :: more => (b :: l) :: more
      | [] => [[b]]

/-- The lines of a file up to the first that is no UTF-8. -/
def fileLines (bytes : List UInt8) : List (List Char) :=
  (((splitLines bytes).map Text.strict?).takeWhile Option.isSome).filterMap fun s => s.map String.toList

/-- The rules of a file; byte order marks at its start do not count. -/
def ignoreRules (bytes : List UInt8) : List IgnoreRule :=
  let lines := match fileLines bytes with
    | first :: rest => first.dropWhile (· == '\uFEFF') :: rest
    | [] => []
  lines.filterMap ignoreRule?

/-- What the rules say about a path: left out, taken in, or nothing. -/
def verdict (rules : List IgnoreRule) (path : String) (isDir : Bool) : Option Bool :=
  (rules.reverse.find? fun r => (!r.onlyDirs || isDir) && globMatches r.pattern path).map fun r => !r.takesIn

end ClassSkeleton.Scan
