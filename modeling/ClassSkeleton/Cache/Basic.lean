import ClassSkeleton.Archive
import ClassSkeleton.ClassRoot
import ClassSkeleton.Model

/-
  ClassSkeleton.Cache.Basic — the classes loaded so far.

  Units are kept in the order they were loaded and are referred to by their number; an index finds the
  unit of a type. Class roots, directories and archives, are where types are looked for. A unit is
  loaded, then analysed, dumped and perhaps released, when its bodies and its model are gone.

  A cache also says whether the program has crashed. A program that has makes no use of its cache; what
  the operations do with such a cache is of no account, but none of them takes the crash back.
-/

namespace ClassSkeleton

/-- The number of a unit, in load order. -/
abbrev UnitId := Nat

/-- Where a class was read from. -/
inductive Origin where
  | file (path : Path)
  | archive (archive : Path) (entry : String)
  deriving DecidableEq, Repr

def Origin.path : Origin → Path
  | file p => p
  | archive a e => a.join ⟨e⟩

inductive UnitState where
  | loaded
  | analysed
  | dumped
  | released
  deriving DecidableEq, Repr

structure ClassUnit where
  type : TypeName
  origin : Origin
  /-- Whether the class is nested, as its class file said when it was loaded. -/
  isInner : Bool
  state : UnitState
  classFile : ClassFile
  innerUnits : List UnitId
  model : Option ClassModel
  innerLoaded : Bool
  deriving Repr

namespace ClassUnit

def ofClassFile (c : ClassFile) (origin : Origin) : ClassUnit :=
  ⟨c.thisClass, origin, c.isInner, .loaded, c, [], none, false⟩

def isReleased (u : ClassUnit) : Bool := u.state == .released

/-- The unit without bodies and model. -/
def release (u : ClassUnit) : ClassUnit :=
  { u with classFile := u.classFile.releaseCode, model := none, state := .released }

end ClassUnit

inductive ClassRoot where
  | directory (path : Path)
  | archive (archive : ClassArchive)
  deriving DecidableEq, Repr

namespace ClassRoot

def path : ClassRoot → Path
  | directory p => p
  | archive a => a.path

def isAt (r : ClassRoot) (p : Path) : Bool := r.path.sameAs p

end ClassRoot

structure Cache where
  units : List ClassUnit
  index : Table TypeName UnitId
  roots : List ClassRoot
  crash : Option Crash
  deriving Repr

namespace Cache

def empty : Cache := ⟨[], [], [], none⟩

def get? (c : Cache) (t : TypeName) : Option UnitId := c.index.get? t

def unit? (c : Cache) (id : UnitId) : Option ClassUnit := c.units[id]?

def modify (c : Cache) (id : UnitId) (f : ClassUnit → ClassUnit) : Cache :=
  { c with units := c.units.modify id f }

/-- Every unit loaded so far, in load order. -/
def listLoaded (c : Cache) : List UnitId := List.range c.units.length

/-- Adds a unit and points the index at it. -/
def insert (c : Cache) (u : ClassUnit) : Cache :=
  { c with units := c.units ++ [u], index := c.index.put u.type c.units.length }

def hasRootAt (c : Cache) (p : Path) : Bool := c.roots.any fun r => r.isAt p

def addRoot (c : Cache) (r : ClassRoot) : Cache := { c with roots := c.roots ++ [r] }

/-- The cache with a crash noted. -/
def crashed (c : Cache) (cause : Crash) : Cache := { c with crash := some cause }

/-- The cache after a failure to load: some of these are crashes. -/
def failed (c : Cache) (e : LoadError) : Cache := { c with crash := e.crash?.or c.crash }

/-- The cache that an operation leaves, whether it failed or not. -/
def settled {α : Type} : Except LoadError α × Cache → Cache
  | (.ok _, c) => c
  | (.error e, c) => c.failed e

@[simp] theorem settled_ok {α : Type} (a : α) (c : Cache) : settled (.ok a, c) = c := rfl
@[simp] theorem settled_error {α : Type} (e : LoadError) (c : Cache) :
    settled ((.error e, c) : Except LoadError α × Cache) = c.failed e := rfl
@[simp] theorem crashed_crash (c : Cache) (cause : Crash) : (c.crashed cause).crash = some cause := rfl
@[simp] theorem failed_units (c : Cache) (e : LoadError) : (c.failed e).units = c.units := rfl
@[simp] theorem failed_roots (c : Cache) (e : LoadError) : (c.failed e).roots = c.roots := rfl
@[simp] theorem failed_crash (c : Cache) (e : LoadError) : (c.failed e).crash = e.crash?.or c.crash := rfl

end Cache

end ClassSkeleton
