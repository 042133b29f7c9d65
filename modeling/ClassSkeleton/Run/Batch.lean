import ClassSkeleton.Run.Unit
import ClassSkeleton.Text.LowerCase

/-
  ClassSkeleton.Run.Batch — every class of an archive.

  The types of the archive that the filter accepts are the candidates. Each is written to a sink of its
  own; nested classes are left to the class they are nested in. A candidate that fails gets a note in
  its output and the batch goes on; only an archive that cannot be read, or a sink that is refused,
  ends it. The summary has a head of two lines, a line per group of candidates whose files differ in
  case only, and a last line with the counts or the failure.
-/

namespace ClassSkeleton

structure BatchReport where
  archive : Path
  /-- The number of types the filter accepted. -/
  candidates : Nat
  units : List UnitOutcome
  deriving DecidableEq, Repr

namespace BatchReport

def dumped (r : BatchReport) : Nat := r.units.countP (·.isDumped)

def recovered (r : BatchReport) : Nat := r.units.countP (·.isRecovered)

def skippedInner (r : BatchReport) : Nat := r.units.countP (·.isSkippedInner)

end BatchReport

def archiveContext : String := "Exception analysing jar"

/-! ### Files that differ in case only -/

/-- The path of a type's source in lower case. -/
def foldedPath (t : TypeName) : String := Text.lower t.sourcePath.text

/-- Adds a type to the group with its folded path; groups are in ascending order of it. -/
def addToGroups (t : TypeName) : List (String × List TypeName) → List (String × List TypeName)
  | [] => [(foldedPath t, [t])]
  | (key, group) :: rest =>
    if foldedPath t = key then (key, group ++ [t]) :: rest
    else if foldedPath t ≤ key then (foldedPath t, [t]) :: (key, group) :: rest
    else (key, group) :: addToGroups t rest

/-- The groups of two or more types whose files differ in case only. -/
def collisions (types : List TypeName) : List (List TypeName) :=
  ((types.foldl (fun groups t => addToGroups t groups) []).map (·.2)).filter fun g => g.length > 1

/-- The candidates that are cached and not nested. -/
def topLevel (s : Session) (candidates : List TypeName) : List TypeName :=
  candidates.filter fun t => (s.cache.get? t).any fun id => (s.cache.unit? id).any fun u => !u.isInner

def collisionNotice (group : List TypeName) : String :=
  "Case-insensitive name collision: " ++ ", ".intercalate (group.map (·.raw))

namespace World

variable {σ : Type}

/-- Writes a candidate to a sink of its own. -/
def dumpMemberInto (o : Outlet σ) (t : TypeName) : Attempt σ UnitOutcome := do
  let id ← onCache (Cache.resolveByIdentity · t)
  if ← up (asks (isInnerUnit · id)) then return .skippedInner t
  if !(← up (asks (·.options.silent))) then up (log (.progressType t))
  up (loadInner id)
  let m ← analyse t id
  let usage := Usage.collect m
  let policy ← up (asks (·.options.identifierPolicy))
  acquire o true t usage policy
  let digest ← writeAll o t (Listing.source usage policy m ++ ["\n", "\n"])
  up (changeSession (·.markDumped id))
  if ← up (asks (·.options.lowMemory)) then
    up (changeSession fun s => { s with cache := s.cache.releaseHeavyState id })
  return .dumped t digest

/-- The note of a failure in the output of its candidate, which is opened for it if it is not open and
the candidate was loaded. -/
def writeNote (o : Outlet σ) (t : TypeName) (note : String) : Attempt σ Unit := do
  let held := (← up get).held
  let loaded ← up (asks fun s => (s.cache.get? t).isSome)
  let policy ← up (asks (·.options.identifierPolicy))
  if held.isNone && loaded then acquire o true t Usage.empty policy
  let _ ← up (print o ("/* " ++ note ++ " */\n\n\n"))
  let _ ← up (release o)

/-- One candidate. Only a refused sink is a failure of the batch, and a crash its end. -/
def dumpMember (o : Outlet σ) (archive : Path) (t : TypeName) : Attempt σ UnitOutcome := do
  match ← up (dumpMemberInto o t).run with
  | .ok outcome => return outcome
  | .error e =>
    if e.isFatal || (← up hasCrashed) then throw e
    else
      up <| noteException archive (some ("Exception analysing " ++ t.raw ++ " in")) e
      writeNote o t e.describe
      return .recovered t e.kind e.describe

/-- The candidates one after another. -/
def dumpMembers (o : Outlet σ) (archive : Path) : List TypeName → Attempt σ (List UnitOutcome)
  | [] => return []
  | t :: ts => do
    let outcome ← dumpMember o archive t
    let rest ← dumpMembers o archive ts
    return outcome :: rest

def dumpCollection (o : Outlet σ) (archive : Path) : Attempt σ BatchReport := do
  up (notice o ("Summary for " ++ archive.text))
  up (notice o ("Decompiled with " ++ versionLine))
  up (log (.progressPath archive))
  let types ← onCache (Cache.loadArchive · archive)
  let session ← up (asks id)
  let candidates := types.filter session.options.archiveFilter.accepts
  up (notices o ((collisions (topLevel session candidates)).map collisionNotice))
  if session.options.renamesMembers then
    up (changeSession fun s => s.resolveNames (candidates.filterMap s.cache.get?))
  let units ← dumpMembers o archive candidates
  return ⟨archive, candidates.length, units⟩

def lastNotice (r : BatchReport) : String :=
  "Dumped " ++ toString r.dumped ++ " of " ++ toString r.candidates ++ " classes (" ++ toString r.recovered ++
    " recovered, " ++ toString r.skippedInner ++ " inner skipped)"

/-- The last line of the summary, which is closed then. -/
def sumUp (o : Outlet σ) (archive : Path) (r : Except DecompileError BatchReport) : Act σ Unit := do
  match r with
  | .ok report => notice o (lastNotice report)
  | .error e =>
    noteException archive (some archiveContext) e
    notice o (archiveContext ++ " " ++ e.describe)
  outside o.closeSummary
  log .summaryClosed

/-- What follows the candidates, however they ended. After a crash the summary stays as it is. -/
def closeBatch (o : Outlet σ) (archive : Path) (r : Except DecompileError BatchReport) : Act σ Unit := do
  let _ ← release o
  unless ← hasCrashed do sumUp o archive r

/-- Every class of an archive. A failure has been noted, and is in the summary unless that could not
be opened. -/
def decompileArchive (o : Outlet σ) (archive : Path) : Act σ (Except DecompileError BatchReport) := do
  match ← outside o.openSummary with
  | .error e =>
    log .summaryRefused
    noteException archive (some archiveContext) (.cannotCreateSink e)
    return .error (.cannotCreateSink e)
  | .ok () =>
    log .summaryOpened
    let r ← (dumpCollection o archive).run
    closeBatch o archive r
    return r

end World

end ClassSkeleton
