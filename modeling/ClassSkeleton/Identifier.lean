import ClassSkeleton.Text.Alphabet

/-
  ClassSkeleton.Identifier — legal identifiers.

  An identifier starts with a letter, `_` or `$`, goes on with letters, numbers, `_` and
  `$`, and is no reserved word; `_` alone is reserved. The policy `rename` makes any name
  one: each character that may not occur becomes `_`, a name that is empty or starts with
  a number gets a `_` in front, and a reserved word one behind.
-/

namespace ClassSkeleton

def reservedWords : List String := [
  "abstract", "assert", "boolean", "break", "byte", "case", "catch", "char", "class", "const",
  "continue", "default", "do", "double", "else", "enum", "extends", "false", "final", "finally",
  "float", "for", "goto", "if", "implements", "import", "instanceof", "int", "interface", "long",
  "native", "new", "null", "package", "private", "protected", "public", "return", "short",
  "static", "strictfp", "super", "switch", "synchronized", "this", "throw", "throws",
  "transient", "true", "try", "void", "volatile", "while", "_"]

namespace Identifier

def mayStart (c : Char) : Bool := Text.isAlphabetic c || c == '_' || c == '$'

def mayFollow (c : Char) : Bool := Text.isAlphanumeric c || c == '_' || c == '$'

def isLegal (name : String) : Bool :=
  match name.toList with
  | [] => false
  | c :: cs => mayStart c && cs.all mayFollow && !reservedWords.contains name

/-- The name with `_` for every character that may not occur, and in front where a number
would start it. -/
def mended (name : String) : List Char :=
  match name.toList.map fun c => if mayFollow c then c else '_' with
  | [] => ['_']
  | c :: cs => if Text.isNumeric c then '_' :: c :: cs else c :: cs

def repair (name : String) : String :=
  let out := String.ofList (mended name)
  if reservedWords.contains out then out ++ "_" else out

end Identifier

/-- What to do with names that are no legal identifiers. -/
inductive IdentifierPolicy where
  | keep
  | rename
  deriving DecidableEq, Repr

def IdentifierPolicy.apply : IdentifierPolicy → String → String
  | keep, name => name
  | rename, name => if Identifier.isLegal name then name else Identifier.repair name

end ClassSkeleton
