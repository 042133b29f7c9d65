import ClassSkeleton.Run.Batch
import ClassSkeleton.Scan

/-
  ClassSkeleton.Run.Paths — a list of inputs.

  An archive is a batch, a directory is every class file below it, and anything else is a class file.
  Nested classes are skipped below directories, and for single files when there is more than one input.
  A refused sink ends the run, and so does a crash: what was going on then is not in the report.
-/

namespace ClassSkeleton

structure RunReport where
  batches : List BatchReport
  units : List UnitOutcome
  exceptions : List ExceptionRecord
  /-- Whether a refused sink, or a crash, stopped the run before every path was handled. -/
  aborted : Bool
  deriving DecidableEq, Repr

def RunReport.empty : RunReport := ⟨[], [], [], false⟩

namespace World

variable {σ : Type}

/-- Class files one after another, up to the first fatal failure or a crash. -/
def runFiles (o : Outlet σ) (skipInner : Bool) : List Path → RunReport → Act σ RunReport
  | [], r => return r
  | p :: ps, r => do
    let outcome ← decompileUnit o p skipInner
    if ← hasCrashed then return { r with aborted := true }
    let r := { r with units := r.units ++ [outcome], aborted := outcome.isFatal }
    if outcome.isFatal then return r else runFiles o skipInner ps r

def runPath (o : Outlet σ) (skipLoneInner : Bool) (path : Path) (r : RunReport) : Act σ RunReport := do
  if path.isArchive then
    let result ← decompileArchive o path
    if ← hasCrashed then return { r with aborted := true }
    match result with
    | .ok batch => return { r with batches := r.batches ++ [batch] }
    | .error e => return { r with aborted := e.isFatal }
  else
    let files := (← get).around.files
    if files.isDir path then runFiles o true (files.scanClassFiles path) r
    else runFiles o skipLoneInner [path] r

def runAll (o : Outlet σ) (skipLoneInner : Bool) : List Path → RunReport → Act σ RunReport
  | [], r => return r
  | p :: ps, r => do
    let r ← runPath o skipLoneInner p r
    if r.aborted then return r else runAll o skipLoneInner ps r

/-- All inputs in order; the report has every failure the run's world noted. -/
def runPaths (o : Outlet σ) (paths : List Path) : Act σ RunReport := do
  let r ← runAll o (paths.length > 1) paths .empty
  return { r with exceptions := (← get).records }

end World

end ClassSkeleton
