import ClassSkeleton.FileTree
import ClassSkeleton.Scan.Ignore

/-
  ClassSkeleton.Scan — the class files below a directory.

  Every regular file below the base with the extension `class`, in the order of paths, unless it or a
  directory on the way to it is left out by a `.ignore` file. For each of these the nearest such file
  that has something to say decides, in the directory it is in or any above, the base's own ancestors
  included. The base itself is never left out, and a base that is a class file is the one found.
-/

namespace ClassSkeleton

namespace FileTree

def rulesAt (t : FileTree) (dir : Place) : List Scan.IgnoreRule :=
  match t.node? (dir ++ [".ignore"]) with
  | some (.file bytes) => Scan.ignoreRules bytes
  | _ => []

/-- Asks the rules of `dir`, and of the directories above it, about what `below` leads to from `dir`.
`above` is `dir` backwards. -/
def ignoredFrom (t : FileTree) (isDir : Bool) : (above : List String) → (below : List String) → Bool
  | above, below =>
    match Scan.verdict (t.rulesAt above.reverse) ("/".intercalate below) isDir with
    | some out => out
    | none =>
      match above with
      | [] => false
      | name :: rest => ignoredFrom t isDir rest (name :: below)

/-- Whether a place is left out by itself. -/
def isIgnored (t : FileTree) (p : Place) : Bool :=
  match p.reverse with
  | [] => false
  | name :: above => t.ignoredFrom (t.node? p == some .dir) above [name]

/-- Whether a scan from `base` comes to the place `names` below it. -/
def isReached (t : FileTree) (base names : Place) : Bool :=
  (List.range names.length).all fun i => !t.isIgnored (base ++ names.take (i + 1))

def isClassFile (p : Path) : Bool := p.extension == some "class"

/-- The names from `base` down to the files below it. -/
def filesBelow (t : FileTree) (base : Place) : List Place :=
  t.nodes.filterMap fun (p, n) =>
    match n with
    | .file _ => if base.isPrefixOf p && base.length < p.length then some (p.drop base.length) else none
    | .dir => none

def scanClassFiles (t : FileTree) (base : Path) : List Path :=
  if base.text = "-" then []
  else
    match t.place base with
    | .error _ => []
    | .ok start =>
      match t.node? start with
      | some .dir =>
        let found := (t.filesBelow start).filter fun names =>
          (names.getLast?.map fun n => isClassFile ⟨n⟩).getD false && t.isReached start names
        (found.map fun names => names.foldl (fun (p : Path) n => p.join ⟨n⟩) base).mergeSort Path.le
      | some (.file _) => if isClassFile base then [base] else []
      | none => []

end FileTree

end ClassSkeleton
