import ClassSkeleton.TypeName

/-
  ClassSkeleton.ClassRoot — what a path says about the classes there.

  The class root of `/out/a/b/C.class`, which holds a class of package `a.b`, is `/out`: the
  directory with the segments of the package taken off its end. A path whose directories do not
  end with the package has none. Archives are told by their extension.
-/

namespace ClassSkeleton

/-- `dir` without its last component, which has to be `part`. -/
def Path.dropLast? (dir : Path) (part : String) : Option Path :=
  if dir.fileName = some part then dir.parent else none

def classRootOf (path : Path) (package : Option String) : Option Path :=
  match path.parent with
  | none => none
  | some dir =>
    match package with
    | none => some dir
    | some p => (TypeName.packageParts p).reverse.foldlM Path.dropLast? dir

def archiveExtensions : List String := ["jar", "zip", "war", "ear"]

def Path.isArchive (p : Path) : Bool :=
  match p.extension with
  | some e => archiveExtensions.contains (String.ofList (e.toList.map Char.toLower))
  | none => false

end ClassSkeleton
