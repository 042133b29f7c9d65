import ClassSkeleton.ClassFile.Cursor
import ClassSkeleton.Text.Utf8

/-
  ClassSkeleton.ClassFile.Pool — the constant pool.

  Index 0 is never usable, and neither is the index after a long or a double. Only texts and
  class references are kept; every other constant is read over by its size.
-/

namespace ClassSkeleton

inductive Constant where
  | unusable
  | utf8 (text : String)
  | classRef (name : Nat)
  | other
  deriving DecidableEq, Repr

structure Pool where
  entries : List Constant
  deriving DecidableEq, Repr

namespace Pool

/-- The size in bytes of a constant that is not kept, by its tag. -/
def plainSize : Nat → Option Nat
  | 3 | 4 => some 4
  | 5 | 6 => some 8
  | 8 | 16 | 19 | 20 => some 2
  | 9 | 10 | 11 | 12 | 17 | 18 => some 4
  | 15 => some 3
  | _ => none

/-- Whether a constant with this tag takes two indices. -/
def isWide (tag : Nat) : Bool := tag == 5 || tag == 6

/-- What follows the tag of the constant at `index`. -/
def constant (tag index : Nat) : Reader Constant :=
  if tag = 1 then do
    let length ← Reader.u2
    let bytes ← Reader.take length
    pure (.utf8 (Text.lossyModified bytes))
  else if tag = 7 then .classRef <$> Reader.u2
  else
    match plainSize tag with
    | some size => do
      let _ ← Reader.take size
      pure .other
    | none => Reader.fail (.unknownConstant tag index)

/-- Reads the constants of `left` indices, the first of which is `index`. -/
def constants (left index : Nat) : Reader (List Constant) :=
  match left with
  | 0 => pure []
  | n + 1 => do
    let tag ← Reader.u1
    let c ← constant tag index
    if isWide tag then
      match n with
      | 0 => pure [c, .unusable]
      | m + 1 => do
        let rest ← constants m (index + 2)
        pure (c :: .unusable :: rest)
    else
      let rest ← constants n (index + 1)
      pure (c :: rest)

def read : Reader Pool := do
  let count ← Reader.u2
  let entries ← constants (count - 1) 1
  pure ⟨.unusable :: entries⟩

def utf8 (p : Pool) (index : Nat) : Reader String :=
  match p.entries[index]? with
  | some (.utf8 text) => pure text
  | _ => Reader.fail (.badConstant index "Utf8")

def className (p : Pool) (index : Nat) : Reader TypeName :=
  match p.entries[index]? with
  | some (.classRef name) => TypeName.ofInternal <$> p.utf8 name
  | _ => Reader.fail (.badConstant index "Class")

/-- An index of 0 stands for nothing. -/
def optional {α : Type} (lookup : Nat → Reader α) (index : Nat) : Reader (Option α) :=
  if index = 0 then pure none else some <$> lookup index

end Pool

end ClassSkeleton
