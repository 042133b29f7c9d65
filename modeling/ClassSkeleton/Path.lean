import ClassSkeleton.Text.Cut

/-
  ClassSkeleton.Path — paths as they are written.

  A path keeps its text; two paths are at the same place when their components agree,
  so a doubled separator, a trailing one and an inner `.` do not matter while a leading
  `.` does. Joining writes one separator unless the left side is empty or already ends
  with one, and an absolute right side replaces the left. Paths are ordered component by
  component.
-/

namespace ClassSkeleton

structure Path where
  text : String
  deriving DecidableEq, Repr

inductive Component where
  | root
  | here
  | up
  | name (text : String)
  deriving DecidableEq, Repr

namespace Path

def chars (p : Path) : List Char := p.text.toList

def ofChars (cs : List Char) : Path := ⟨String.ofList cs⟩

def isAbsolute (p : Path) : Bool := p.chars.head? == some '/'

/-- The component a segment stands for, away from the start of a relative path. -/
def inner (segment : List Char) : Option Component :=
  if segment = [] ∨ segment = ['.'] then none
  else if segment = ['.', '.'] then some .up
  else some (.name (String.ofList segment))

/-- Each segment with its component, if it is one. Only the first may be a `.`. -/
def marked (p : Path) : List (List Char × Option Component) :=
  match Text.splitAll '/' p.chars with
  | [] => []
  | first :: rest =>
    (first, if first = ['.'] then some .here else inner first) :: rest.map fun s => (s, inner s)

def components (p : Path) : List Component :=
  (if p.isAbsolute then [.root] else []) ++ p.marked.filterMap (·.2)

def sameAs (p q : Path) : Bool := p.components == q.components

/-- The text up to the last component, without the separators before it. -/
def parent (p : Path) : Option Path :=
  match p.marked.reverse.dropWhile (·.2.isNone) with
  | [] => none
  | _ :: front =>
    match front.dropWhile (·.2.isNone) with
    | [] => some (if p.isAbsolute then ⟨"/"⟩ else ⟨""⟩)
    | kept => some (ofChars (Text.joinAll '/' (kept.reverse.map (·.1))))

def fileName (p : Path) : Option String :=
  match p.components.getLast? with
  | some (.name n) => some n
  | _ => none

/-- What follows the last dot of the file name, unless that dot starts it. -/
def extension (p : Path) : Option String :=
  match p.fileName with
  | none => none
  | some n =>
    match Text.cutLast '.' n.toList with
    | some (before, after) => if before = [] then none else some (String.ofList after)
    | none => none

def join (p q : Path) : Path :=
  if q.isAbsolute then q
  else
    match p.chars.getLast? with
    | none => q
    | some c => if c = '/' then ⟨p.text ++ q.text⟩ else ⟨p.text ++ "/" ++ q.text⟩

end Path

namespace Component

def rank : Component → Nat
  | root => 0
  | here => 1
  | up => 2
  | name _ => 3

def le (a b : Component) : Bool :=
  match a, b with
  | name x, name y => x ≤ y
  | _, _ => a.rank ≤ b.rank

/-- The order of two component lists: the first difference decides. -/
def listLe : List Component → List Component → Bool
  | [], _ => true
  | _ :: _, [] => false
  | a :: as, b :: bs => if a = b then listLe as bs else a.le b

end Component

def Path.le (p q : Path) : Bool := Component.listLe p.components q.components

end ClassSkeleton
