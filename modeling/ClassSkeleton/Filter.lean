import ClassSkeleton.Pattern.Parse
import ClassSkeleton.TypeName

/-
  ClassSkeleton.Filter — which classes of an archive are wanted.

  A pattern is searched for in the raw name. Without one every class is wanted.
-/

namespace ClassSkeleton

structure NameFilter where
  wanted : Option (String × Pattern)

namespace NameFilter

def everything : NameFilter := ⟨none⟩

/-- The filter for a pattern; `none` when the pattern is malformed. -/
def ofPattern? : Option String → Option NameFilter
  | none => some everything
  | some text => (Pattern.parse? text).map fun p => ⟨some (text, p)⟩

def pattern (f : NameFilter) : Option String := f.wanted.map (·.1)

def accepts (f : NameFilter) (t : TypeName) : Bool :=
  match f.wanted with
  | none => true
  | some (_, p) => p.search t.raw

end NameFilter

end ClassSkeleton
