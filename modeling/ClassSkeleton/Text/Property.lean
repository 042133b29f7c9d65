import ClassSkeleton.Text.Age
import ClassSkeleton.Text.Break
import ClassSkeleton.Text.ScriptExtension

/-
  ClassSkeleton.Text.Property — sets of characters by the names of properties.

  A name is compared without case, blanks, `_` and `-`, and without an `is` in front. By itself it is a
  binary property, a general category or group of them, or a script. With a value it is the category, the
  script, the scripts a character is used with, the age, or a class of the three kinds of breaks.
-/

namespace ClassSkeleton.Text

/-- A property name as it is compared. -/
def plainName (name : List Char) : String :=
  let lowered := name.map Char.toLower
  let (hadIs, body) := match lowered with
    | 'i' :: 's' :: rest => (true, rest)
    | s => (false, s)
  let kept := body.filter fun c => c != ' ' && c != '_' && c != '-' && c.toNat < 0x80
  if hadIs && kept == ['c'] then "isc" else String.ofList kept

/-- The set a bare name stands for. -/
def property? (name : List Char) : Option CharSet :=
  let name := plainName name
  match Binary.table.lookup name with
  | some s => some s
  | none =>
    match Category.table.lookup name with
    | some s => some s
    | none => Script.table.lookup name

/-- The set `name = value` stands for. -/
def valuedProperty? (name value : List Char) : Option CharSet :=
  let value := plainName value
  match plainName name with
  | "gc" | "generalcategory" => Category.table.lookup value
  | "sc" | "script" => Script.table.lookup value
  | "scx" | "scriptextensions" => ScriptExtension.lookup value
  | "age" => Age.lookup value
  | "gcb" | "graphemeclusterbreak" => Break.graphemes.lookup value
  | "wb" | "wordbreak" => Break.words.lookup value
  | "sb" | "sentencebreak" => Break.sentences.lookup value
  | _ => none

end ClassSkeleton.Text
