import ClassSkeleton.Digest
import ClassSkeleton.Listing
import ClassSkeleton.Run.World

/-
  ClassSkeleton.Run.Unit — one class file.

  The class at a path is loaded, its nested classes with it, members are named, the model is built and
  written to a sink of its own. Whatever goes wrong is noted against the path and is the outcome; the
  sink is closed all the same.
-/

namespace ClassSkeleton

inductive UnitOutcome where
  /-- Written in full; the digest is that of the text. -/
  | dumped (type : TypeName) (digest : String)
  | skippedInner (type : TypeName)
  /-- Failed without harm to others; the note is in its output, if it has one. -/
  | recovered (type : TypeName) (kind : ErrorKind) (note : String)
  | failed (path : Path) (kind : ErrorKind) (message : String)
  deriving DecidableEq, Repr

namespace UnitOutcome

def isDumped : UnitOutcome → Bool
  | dumped .. => true
  | _ => false

def isRecovered : UnitOutcome → Bool
  | recovered .. => true
  | _ => false

def isSkippedInner : UnitOutcome → Bool
  | skippedInner _ => true
  | _ => false

def isFatal : UnitOutcome → Bool
  | failed _ .fatal _ => true
  | _ => false

end UnitOutcome

namespace World

variable {σ : Type}

def isInnerUnit (s : Session) (id : UnitId) : Bool := (s.cache.unit? id).any (·.isInner)

/-- The unit for a type: the cached one, or the one found by its path when its type cannot be loaded. -/
def preferIdentity (t : TypeName) (byPath : UnitId) : Attempt σ UnitId := fun w =>
  match onCache (Cache.resolveByIdentity · t) w with
  | (.error (.load e), w) => if e.isCannotLoad then (.ok byPath, w) else (.error (.load e), w)
  | r => r

def loadInner (id : UnitId) : Act σ Unit := do
  if ← asks (·.options.decompileInnerClasses) then
    modify fun w => { w with session := { w.session with cache := w.session.cache.loadInnerClasses w.around.files id } }

/-- Names the members of every class loaded so far, if that is asked for. -/
def nameLoaded : Act σ Unit := do
  if ← asks (·.options.renamesMembers) then changeSession fun s => s.resolveNames s.cache.listLoaded

/-- Builds the model of a unit, unless the program has crashed loading what is nested in it. -/
def analyse (t : TypeName) (id : UnitId) : Attempt σ ClassModel := fun w =>
  if w.crash.isSome then (.error (.analysis t .notAnalysed), w)
  else
    match w.session.analyse id with
    | (.error e, s) => (.error (.analysis t e), { w with session := s })
    | (.ok (), s) =>
      match s.model id with
      | .error e => (.error (.analysis t e), { w with session := s })
      | .ok m => (.ok m, { w with session := s })

/-- The methods to print, if only some are asked for. -/
def wantedMethods (m : ClassModel) : Attempt σ (Option (List MethodModel)) := do
  match ← up (asks (·.options.methodFilter)) with
  | none => return none
  | some name =>
    match m.methodsNamed name with
    | [] => throw (.noSuchMethod name)
    | found => return some found

/-- Prints pieces on the sink in hand and closes it; a failure of either is the type's. The digest of
what was printed is the result. -/
def writeAll (o : Outlet σ) (t : TypeName) (pieces : List String) : Attempt σ String := do
  match ← up (printAll o pieces) with
  | .error e => throw (.dump t e)
  | .ok () =>
    match ← up (release o) with
    | .error e => throw (.dump t e)
    | .ok () => return Digest.ofText (String.join pieces)

def dumpOne (o : Outlet σ) (path : Path) (skipIfInner : Bool) : Attempt σ UnitOutcome := do
  let byPath ← onCache (Cache.resolveByPath · path)
  match ← up (asks fun s => s.cache.unit? byPath) with
  | none => throw (.load (.io path .notFound))
  | some u =>
    let t := u.type
    if skipIfInner && u.isInner then return .skippedInner t
    up (log (.progressType t))
    let id ← preferIdentity t byPath
    up (loadInner id)
    up nameLoaded
    let m ← analyse t id
    let usage := Usage.collect m
    let methods ← wantedMethods m
    let policy ← up (asks (·.options.identifierPolicy))
    acquire o false t usage policy
    let pieces := match methods with
      | some ms => Listing.methods usage policy m ms
      | none => Listing.source usage policy m
    let digest ← writeAll o t pieces
    up (changeSession (·.markDumped id))
    return .dumped t digest

/-- The class file at a path. A failure is noted once the sink is closed; after a crash nothing is. -/
def decompileUnit (o : Outlet σ) (path : Path) (skipIfInner : Bool) : Act σ UnitOutcome := do
  let r ← (dumpOne o path skipIfInner).run
  let _ ← release o
  match r with
  | .ok outcome => return outcome
  | .error e =>
    unless ← hasCrashed do noteException path none e
    return .failed path e.kind e.describe

end World

end ClassSkeleton
