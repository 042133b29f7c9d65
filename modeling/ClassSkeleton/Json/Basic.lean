import ClassSkeleton.Error

/-
  ClassSkeleton.Json.Basic — JSON values and their text.

  A number keeps its spelling, and the members of an object keep their order. The text has a member or
  an item a line, two blanks deeper for each level; nothing empty is broken over lines. In a string only
  quotes, backslashes and control characters are escaped.
-/

namespace ClassSkeleton

inductive JsonValue where
  | null
  | bool (b : Bool)
  | number (spelling : String)
  | string (text : String)
  | array (items : List JsonValue)
  | object (members : List (String × JsonValue))
  deriving Repr

namespace JsonValue

def ofNat (n : Nat) : JsonValue := .number (toString n)

def ofOption : Option String → JsonValue
  | some text => .string text
  | none => .null

/-- A character inside a string. -/
def escape (c : Char) : List Char :=
  match c with
  | '"' => ['\\', '"']
  | '\\' => ['\\', '\\']
  | '\x08' => ['\\', 'b']
  | '\t' => ['\\', 't']
  | '\n' => ['\\', 'n']
  | '\x0c' => ['\\', 'f']
  | '\r' => ['\\', 'r']
  | c => if c.toNat < 0x20 then ['\\', 'u'] ++ hexDigits 4 c.toNat else [c]

def quote (text : String) : String := "\"" ++ String.ofList (text.toList.flatMap escape) ++ "\""

/-- A new line, `level` levels deep. -/
def newLine (level : Nat) : String := "\n" ++ String.ofList (List.replicate (2 * level) ' ')

mutual

/-- The text of a value whose first line stands `level` levels deep. -/
def pretty (level : Nat) : JsonValue → String
  | null => "null"
  | bool b => if b then "true" else "false"
  | number spelling => spelling
  | string text => quote text
  | array [] => "[]"
  | array (v :: vs) => "[" ++ newLine (level + 1) ++ pretty (level + 1) v ++ prettyItems level vs ++ newLine level ++ "]"
  | object [] => "\x7b\x7d"
  | object ((k, v) :: rest) =>
    "\x7b" ++ newLine (level + 1) ++ quote k ++ ": " ++ pretty (level + 1) v ++ prettyMembers level rest ++
      newLine level ++ "\x7d"

/-- The items after the first. -/
def prettyItems (level : Nat) : List JsonValue → String
  | [] => ""
  | v :: vs => "," ++ newLine (level + 1) ++ pretty (level + 1) v ++ prettyItems level vs

/-- The members after the first. -/
def prettyMembers (level : Nat) : List (String × JsonValue) → String
  | [] => ""
  | (k, v) :: rest =>
    "," ++ newLine (level + 1) ++ quote k ++ ": " ++ pretty (level + 1) v ++ prettyMembers level rest

end

end JsonValue

end ClassSkeleton
