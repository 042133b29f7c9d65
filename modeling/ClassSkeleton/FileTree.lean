import ClassSkeleton.Error
import ClassSkeleton.Table

/-
  ClassSkeleton.FileTree — the files a run reads and writes.

  A tree maps places, given by their names from the root down, to directories and files; the root
  `[]` is always a directory. A path is walked name by name from the working directory, or from the
  root if it is absolute: every place on the way has to be a directory, also before an empty name or
  a `.`, so a trailing separator asks for a directory. The errors are those a system reports, in the
  order the walk meets them.
-/

namespace ClassSkeleton

inductive Node where
  | file (bytes : List UInt8)
  | dir
  deriving DecidableEq, Repr

abbrev Place := List String

structure FileTree where
  nodes : Table Place Node
  cwd : Place
  deriving DecidableEq, Repr

namespace FileTree

def node? (t : FileTree) (p : Place) : Option Node := if p = [] then some .dir else t.nodes.get? p

def put (t : FileTree) (p : Place) (n : Node) : FileTree := { t with nodes := t.nodes.put p n }

/-- The most bytes a name and a path may have. -/
def maxName : Nat := 255

def maxPath : Nat := 4095

/-- The segments of a path, or why no system call takes it. -/
def segments (p : Path) : Except IoError (List String) :=
  if p.text.toList.contains '\x00' then .error .nulInName
  else if p.text.isEmpty then .error .notFound
  else if p.text.utf8ByteSize > maxPath then .error .nameTooLong
  else .ok ((Text.splitAll '/' p.chars).map String.ofList)

def start (t : FileTree) (p : Path) : Place := if p.isAbsolute then [] else t.cwd

/-- Walks down from a place. -/
def walk (t : FileTree) (from' : Place) : List String → Except IoError Place
  | [] => .ok from'
  | s :: rest =>
    if t.node? from' ≠ some .dir then .error .notDirectory
    else if s = "" ∨ s = "." then walk t from' rest
    else if s = ".." then walk t from'.dropLast rest
    else if s.utf8ByteSize > maxName then .error .nameTooLong
    else if (t.node? (from' ++ [s])).isNone then .error .notFound
    else walk t (from' ++ [s]) rest

/-- The place of an existing file or directory. -/
def place (t : FileTree) (p : Path) : Except IoError Place := do
  let names ← segments p
  t.walk (t.start p) names

def stat (t : FileTree) (p : Path) : Except IoError Node := do
  let found ← t.place p
  match t.node? found with
  | some n => .ok n
  | none => .error .notFound

def exists? (t : FileTree) (p : Path) : Bool := (t.stat p).toOption.isSome

def isDir (t : FileTree) (p : Path) : Bool := (t.stat p).toOption == some .dir

def isFile (t : FileTree) (p : Path) : Bool :=
  match t.stat p with
  | .ok (.file _) => true
  | _ => false

def read (t : FileTree) (p : Path) : Except IoError (List UInt8) :=
  match t.stat p with
  | .ok (.file bytes) => .ok bytes
  | .ok .dir => .error .isDirectory
  | .error e => .error e

/-- Where a path leads up to its last name, which need not exist, that name, and whether separators
follow it. A path that ends with `.`, `..` or the root has no last name. -/
def parentPlace (t : FileTree) (p : Path) : Except IoError (Place × Option String × Bool) := do
  let names ← segments p
  let back := names.reverse
  let trailing := back.takeWhile (· == "")
  match back.dropWhile (· == "") with
  | [] => .ok (t.start p, none, false)
  | last :: front =>
    let dir ← t.walk (t.start p) front.reverse
    if t.node? dir ≠ some .dir then .error .notDirectory
    else if last = "." ∨ last = ".." then .ok (dir, none, !trailing.isEmpty)
    else if last.utf8ByteSize > maxName then .error .nameTooLong
    else .ok (dir, some last, !trailing.isEmpty)

def makeDir (t : FileTree) (p : Path) : Except IoError FileTree := do
  match ← t.parentPlace p with
  | (_, none, _) => .error .alreadyExists
  | (dir, some name, _) =>
    if (t.node? (dir ++ [name])).isSome then .error .alreadyExists else .ok (t.put (dir ++ [name]) .dir)

/-- Makes a file empty, or a new empty file; yields its place. -/
def createFile (t : FileTree) (p : Path) : Except IoError (Place × FileTree) := do
  match ← t.parentPlace p with
  | (_, none, _) => .error .isDirectory
  | (_, some _, true) => .error .isDirectory
  | (dir, some name, false) =>
    let found := dir ++ [name]
    if t.node? found = some .dir then .error .isDirectory else .ok (found, t.put found (.file []))

def append (t : FileTree) (p : Place) (bytes : List UInt8) : FileTree :=
  match t.node? p with
  | some (.file old) => t.put p (.file (old ++ bytes))
  | _ => t

/-- A path, the path above it, and so on, as many as there are up to `count`. -/
def ancestors : (count : Nat) → Path → List Path
  | 0, _ => []
  | n + 1, p =>
    match p.parent with
    | some q => p :: ancestors n q
    | none => [p]

/-- Makes the first directory of the list, and those after it first where they are missing. What was
made stays made when a later one fails. -/
def makeDirsAlong (t : FileTree) : List Path → Except IoError Unit × FileTree
  | [] => (.ok (), t)
  | p :: above =>
    if p.text.isEmpty then (.ok (), t)
    else
      match t.makeDir p with
      | .ok t => (.ok (), t)
      | .error .notFound =>
        match makeDirsAlong t above with
        | (.error e, t) => (.error e, t)
        | (.ok (), t) =>
          match t.makeDir p with
          | .ok t => (.ok (), t)
          | .error e => if t.isDir p then (.ok (), t) else (.error e, t)
      | .error e => if t.isDir p then (.ok (), t) else (.error e, t)

/-- Makes a directory and all above it; one that exists already is fine. -/
def makeDirs (t : FileTree) (p : Path) : Except IoError Unit × FileTree :=
  t.makeDirsAlong (ancestors (p.components.length + 1) p)

/-- Makes the directories above a path, then the file itself. -/
def createWithParents (t : FileTree) (p : Path) : Except IoError Place × FileTree :=
  let made := match p.parent with
    | some dir => t.makeDirs dir
    | none => (.ok (), t)
  match made with
  | (.error e, t) => (.error e, t)
  | (.ok (), t) =>
    match t.createFile p with
    | .ok (found, t) => (.ok found, t)
    | .error e => (.error e, t)

/-- Removes whatever is at a place and below it. -/
def remove (t : FileTree) (p : Place) : FileTree := { t with nodes := t.nodes.filter fun e => !p.isPrefixOf e.1 }

/-- The names directly below a place, each with what is there. -/
def children (t : FileTree) (p : Place) : List (String × Node) :=
  t.nodes.filterMap fun (q, n) =>
    match q.getLast? with
    | some name => if q.dropLast = p then some (name, n) else none
    | none => none

end FileTree

end ClassSkeleton
