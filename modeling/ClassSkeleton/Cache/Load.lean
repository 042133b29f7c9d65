import ClassSkeleton.Cache.Basic
import ClassSkeleton.ClassFile.Parse

/-
  ClassSkeleton.Cache.Load — finding and loading classes.

  By path: the file's class, unless its type is cached; the class root the path belongs to is
  remembered. By identity: the cached unit, else the first class on the roots, in order, that is found
  under the type's name and declares the type; a root with another class there is passed over. An
  archive: every class entry, in order, the first entry of a type counting; an entry that does not
  parse is listed under the type its name stands for.
-/

namespace ClassSkeleton

def parseAt (origin : Path) (bytes : List UInt8) : Except LoadError ClassFile :=
  match ClassFile.parse bytes with
  | .ok c => .ok c
  | .error e => .error (.format origin e)

/-- What a root has under the name of a type. -/
def ClassRoot.find (files : FileTree) (entry : String) : ClassRoot → Except LoadError (Option (List UInt8 × Origin))
  | .directory dir =>
    let path := dir.join ⟨entry⟩
    if files.isFile path then
      match files.read path with
      | .ok bytes => .ok (some (bytes, .file path))
      | .error e => .error (.io path e)
    else .ok none
  | .archive a =>
    match a.read entry with
    | .ok (some bytes) => .ok (some (bytes, .archive a.path entry))
    | .ok none => .ok none
    | .error e => .error e

/-- The first class on the roots that declares the type. -/
def findOnRoots (files : FileTree) (t : TypeName) : List ClassRoot → Except LoadError (Option (ClassFile × Origin))
  | [] => .ok none
  | r :: rest =>
    match r.find files t.entryPath with
    | .error e => .error e
    | .ok none => findOnRoots files t rest
    | .ok (some (bytes, origin)) =>
      match parseAt origin.path bytes with
      | .error e => .error e
      | .ok c => if c.thisClass = t then .ok (some (c, origin)) else findOnRoots files t rest

namespace Cache

/-- Adds a directory or an archive that types are looked for in. -/
def addClasspath (files : FileTree) (path : Path) (c : Cache) : Except LoadError Unit × Cache :=
  if c.hasRootAt path then (.ok (), c)
  else if path.isArchive then
    match ClassArchive.load files path with
    | .ok a => (.ok (), c.addRoot (.archive a))
    | .error e => (.error e, c)
  else (.ok (), c.addRoot (.directory path))

/-- Remembers the class root a file belongs to, if its path shows one. -/
def noteRoot (path : Path) (package : Option String) (c : Cache) : Cache :=
  match classRootOf path package with
  | some root => if c.hasRootAt root then c else c.addRoot (.directory root)
  | none => c

/-- Loads the class file at a path; when its type is cached already, the cached unit is the answer. -/
def resolveByPath (files : FileTree) (path : Path) (c : Cache) : Except LoadError UnitId × Cache :=
  match files.read path with
  | .error e => (.error (.io path e), c)
  | .ok bytes =>
    match parseAt path bytes with
    | .error e => (.error e, c)
    | .ok classFile =>
      let c := noteRoot path classFile.thisClass.package c
      match c.get? classFile.thisClass with
      | some id => (.ok id, c)
      | none => (.ok c.units.length, c.insert (.ofClassFile classFile (.file path)))

/-- The unit of a type, loaded from the roots if it is not cached. -/
def resolveByIdentity (files : FileTree) (t : TypeName) (c : Cache) : Except LoadError UnitId × Cache :=
  match c.get? t with
  | some id => (.ok id, c)
  | none =>
    match findOnRoots files t c.roots with
    | .ok (some (classFile, origin)) => (.ok c.units.length, c.insert (.ofClassFile classFile origin))
    | .ok none => (.error (.cannotLoad t), c)
    | .error e => (.error e, c)

/-- The class entries of an archive with their bytes. -/
def readEntries (a : ClassArchive) : Except LoadError (List (String × List UInt8)) := do
  let names ← a.classEntries
  let read ← names.mapM fun name => (a.read name).map fun bytes => bytes.map fun b => (name, b)
  pure (read.filterMap id)

/-- The type an entry stands for: the one it declares, else the one its name says. -/
def entryType (entry : String × List UInt8) : TypeName :=
  match ClassFile.parse entry.2 with
  | .ok c => c.thisClass
  | .error _ => .ofEntry entry.1

/-- Adds the class of an entry, unless it does not parse or its type is cached. -/
def addEntry (archive : Path) (c : Cache) (entry : String × List UInt8) : Cache :=
  match ClassFile.parse entry.2 with
  | .ok classFile =>
    if (c.get? classFile.thisClass).isSome then c
    else c.insert (.ofClassFile classFile (.archive archive entry.1))
  | .error _ => c

/-- Each element of the list once, at its first place. -/
def firstOccurrences {α : Type} [DecidableEq α] (l : List α) : List α :=
  (l.foldl (fun acc a => if a ∈ acc then acc else a :: acc) []).reverse

/-- Loads every class of an archive; yields the types of its entries, each once. -/
def loadArchive (files : FileTree) (path : Path) (c : Cache) : Except LoadError (List TypeName) × Cache :=
  match ClassArchive.load files path with
  | .error e => (.error e, c)
  | .ok a =>
    match readEntries a with
    | .error e => (.error e, c)
    | .ok entries =>
      let c := entries.foldl (addEntry path) c
      (.ok (firstOccurrences (entries.map entryType)), if c.hasRootAt path then c else c.addRoot (.archive a))

end Cache

end ClassSkeleton
