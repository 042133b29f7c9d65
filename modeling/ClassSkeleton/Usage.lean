import ClassSkeleton.Model

/-
  ClassSkeleton.Usage — the types a class mentions, and how each is spelled.

  Every type the model mentions is in play with its outermost type, and so is the class's own
  outermost type. A type of the class's own outermost type is written short. If two outermost
  types in play share a simple name, the types inside them are written in full. Otherwise types
  without a package, of the class's own package and of `java.lang` are written short, and for all
  others the outermost type is imported. Imports are in ascending order.
-/

namespace ClassSkeleton

namespace TypeName

/-- Puts a type in its place in an ascending list without repetitions. -/
def insertInto (t : TypeName) : List TypeName → List TypeName
  | [] => [t]
  | u :: rest => if t = u then u :: rest else if t.le u then t :: u :: rest else u :: insertInto t rest

/-- The types of the list in ascending order, each once. -/
def ascending (ts : List TypeName) : List TypeName := ts.foldr insertInto []

/-- The simple name with dots between nested types. -/
def shortName (t : TypeName) : String := String.ofList (swapChar '$' '.' t.simpleChars)

end TypeName

structure Usage where
  imports : List TypeName
  spellings : Table TypeName String
  deriving DecidableEq, Repr

namespace Usage

def empty : Usage := ⟨[], []⟩

/-- The types a declaration itself mentions. -/
def mentioned (m : ClassModel) : List TypeName :=
  (m.superClass.toList ++ m.interfaces ++ m.fields.map (·.type) ++
    m.methods.flatMap fun x => x.returnType.toList ++ x.params).filterMap JavaType.referenced

mutual

/-- The types a model and the models inside it mention, themselves included. -/
def used : ClassModel → List TypeName
  | m@⟨_, _, _, _, _, _, _, _, _, _, _, _, _, inner⟩ => mentioned m ++ usedInner inner ++ [m.type]

def usedInner : List ClassModel → List TypeName
  | [] => []
  | m :: rest => used m ++ usedInner rest

end

/-- How `t` is written in the source of a class of outermost type `own` in `package`, with the
outermost types `tops` in play, and what it needs imported. -/
def spellingOf (own : TypeName) (package : Option String) (tops : List TypeName) (t : TypeName) :
    String × Option TypeName :=
  let top := t.outermost
  if top = own then (t.shortName, none)
  else if tops.any fun o => o.simpleName == top.simpleName && o != top then (t.javaName, none)
  else if top.package = none ∨ top.package = package ∨ top.package = some "java.lang" then (t.shortName, none)
  else (t.shortName, some top)

def collect (m : ClassModel) : Usage :=
  let used := TypeName.ascending (used m)
  let own := m.type.outermost
  let tops := own :: used.map TypeName.outermost
  let spelled := used.map fun t => (t, spellingOf own m.type.package tops t)
  ⟨TypeName.ascending (spelled.filterMap (·.2.2)), spelled.map fun e => (e.1, e.2.1)⟩

/-- How a type is written; one that was never collected is written in full. -/
def spell (u : Usage) (t : TypeName) : String := (u.spellings.get? t).getD t.javaName

def spellType (u : Usage) : JavaType → String
  | .primitive p => p.keyword
  | .object n => u.spell n
  | .array t => u.spellType t ++ "[]"

end Usage

end ClassSkeleton
