import ClassSkeleton.Cache.Nest
import ClassSkeleton.Cache.Release
import ClassSkeleton.Options

/-
  ClassSkeleton.Session — the state of one invocation.

  The options, the classes loaded so far and the names given to their members. Models are built from
  the inside out: the model of a unit holds those of the units nested in it, so one released unit
  anywhere in the nest makes the whole model fail. Nothing stops the recursion where units are nested
  in each other in a circle: the program crashes.
-/

namespace ClassSkeleton

structure Session where
  options : Options
  cache : Cache
  naming : Naming

namespace Session

/-- Adds the roots of the extra class path in order. -/
def addRoots (files : FileTree) : List Path → Cache → Except LoadError Cache
  | [], c => .ok c
  | p :: ps, c =>
    match c.addClasspath files p with
    | (.ok (), c) => addRoots files ps c
    | (.error e, _) => .error e

def start (files : FileTree) (options : Options) : Except LoadError Session :=
  match addRoots files options.extraClasspath Cache.empty with
  | .ok cache => .ok ⟨options, cache, Naming.empty⟩
  | .error e => .error e

/-- Names the members of the given units' classes by the configured rules. -/
def resolveNames (s : Session) (ids : List UnitId) : Session :=
  let classes := ids.filterMap fun id => (s.cache.unit? id).map (·.classFile)
  { s with naming := s.naming.resolve classes s.options.namingRules }

/-- Why there is no model of a unit: its analysis failed, or has no end. -/
inductive Unbuilt where
  | failed (cause : AnalysisError)
  | endless
  deriving DecidableEq, Repr

/-- The model of a unit around the models of its nested units. -/
def modelAround (s : Session) (nested : UnitId → Except Unbuilt ClassModel) (id : UnitId) :
    Except Unbuilt ClassModel :=
  match s.cache.unit? id with
  | none => .error (.failed .notAnalysed)
  | some u =>
    if u.isReleased then .error (.failed .released)
    else
      match u.innerUnits.mapM nested with
      | .error e => .error e
      | .ok inner =>
        match ClassModel.build u.classFile s.naming inner with
        | .ok m => .ok m
        | .error e => .error (.failed (.descriptor e))

/-- The model of a unit, with nests followed `depth` levels down; one that goes on is taken to be endless. -/
def buildModel (s : Session) : (depth : Nat) → UnitId → Except Unbuilt ClassModel
  | 0, _ => .error .endless
  | depth + 1, id => s.modelAround (buildModel s depth) id

/-- Builds the model of a unit. A nest with more levels than there are units goes round in a circle, and
following it the program crashes; what is answered then is of no account. -/
def analyse (s : Session) (id : UnitId) : Except AnalysisError Unit × Session :=
  match s.buildModel (s.cache.units.length + 1) id with
  | .error (.failed e) => (.error e, s)
  | .error .endless => (.error .notAnalysed, { s with cache := s.cache.crashed .recursion })
  | .ok m => (.ok (), { s with cache := s.cache.modify id fun u => { u with model := some m, state := .analysed } })

def model (s : Session) (id : UnitId) : Except AnalysisError ClassModel :=
  match s.cache.unit? id with
  | none => .error .notAnalysed
  | some u =>
    if u.isReleased then .error .released
    else
      match u.model with
      | some m => .ok m
      | none => .error .notAnalysed

def markDumped (s : Session) (id : UnitId) : Session :=
  { s with cache := s.cache.modify id fun u => { u with state := .dumped } }

end Session

end ClassSkeleton
