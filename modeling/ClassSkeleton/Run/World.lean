import ClassSkeleton.Output.Outlet
import ClassSkeleton.Session

/-
  ClassSkeleton.Run.World — the state a run goes through, and what it did.

  The world holds the session, the files and the outlet's state, the sink in hand, the failures noted
  so far and a trace of everything said to the outlet and the reporters, oldest first. At most one sink
  is in hand: taking another closes the one before, and closing it empties the hand, so no sink is ever
  closed twice or printed on once it is closed.

  A run that crashes stops there and leaves the world as it was when it did. What its actions answer then
  is no answer of the program, which returns from none of them.
-/

namespace ClassSkeleton

/-- A failure as it is reported. -/
structure ExceptionRecord where
  path : Path
  context : Option String
  kind : ErrorKind
  message : String
  deriving DecidableEq, Repr

inductive Event where
  | progressPath (path : Path)
  | progressType (type : TypeName)
  | acquired (sink : Nat) (type : TypeName) (imports : List TypeName) (policy : IdentifierPolicy)
  | refused (type : TypeName)
  | printed (sink : Nat) (text : String) (failure : Option IoError)
  | closed (sink : Nat) (failure : Option IoError)
  | summaryOpened
  | summaryRefused
  | notice (text : String)
  | summaryClosed
  | exception (record : ExceptionRecord)
  deriving DecidableEq, Repr

namespace Event

/-- The text a sink has taken. -/
def accepted (trace : List Event) (sink : Nat) : String :=
  String.join (trace.filterMap fun
    | printed s text none => if s = sink then some text else none
    | _ => none)

/-- The type a sink was handed out for. -/
def sinkType? (trace : List Event) (sink : Nat) : Option TypeName :=
  trace.findSome? fun
    | acquired s t _ _ => if s = sink then some t else none
    | _ => none

end Event

structure World (σ : Type) where
  session : Session
  around : Surroundings σ
  /-- How many sinks were handed out. -/
  sinks : Nat
  /-- The sink in hand. -/
  held : Option Nat
  records : List ExceptionRecord
  trace : List Event

abbrev Act (σ : Type) := StateM (World σ)

/-- An action that may fail; what it did before stays done. -/
abbrev Attempt (σ : Type) := ExceptT DecompileError (Act σ)

namespace World

variable {σ : Type}

def start (session : Session) (files : FileTree) (state : σ) : World σ := ⟨session, ⟨files, state⟩, 0, none, [], []⟩

/-- Why the program crashed, if it has. -/
def crash (w : World σ) : Option Crash := w.session.cache.crash

def log (e : Event) : Act σ Unit := modify fun w => { w with trace := w.trace ++ [e] }

/-- An action that cannot fail, among those that can. -/
def up {α : Type} (act : Act σ α) : Attempt σ α := ExceptT.lift act

/-- Lets the outlet act. -/
def outside {α : Type} (act : OutletM σ α) : Act σ α :=
  modifyGet fun w => let (a, around) := act w.around; (a, { w with around := around })

/-- Reads the session. -/
def asks {α : Type} (f : Session → α) : Act σ α := do return f (← get).session

def changeSession (f : Session → Session) : Act σ Unit := modify fun w => { w with session := f w.session }

/-- Whether the program has crashed. -/
def hasCrashed : Act σ Bool := do return (← get).crash.isSome

/-- Runs a cache operation over the files as they are. -/
def onCache {α : Type} (op : FileTree → Cache → Except LoadError α × Cache) : Attempt σ α := fun w =>
  let r := op w.around.files w.session.cache
  (r.1.mapError .load, { w with session := { w.session with cache := .settled r } })

def failureOf : Except IoError Unit → Option IoError
  | .ok () => none
  | .error e => some e

/-- Closes the sink in hand, if there is one. -/
def release (o : Outlet σ) : Act σ (Except IoError Unit) := do
  match (← get).held with
  | none => return .ok ()
  | some n =>
    modify fun w => { w with held := none }
    let r ← outside (o.close n)
    log (.closed n (failureOf r))
    return r

/-- Takes a sink in hand; one that was there is closed first, whether or not that works. -/
def install (o : Outlet σ) (n : Nat) : Act σ Unit := do
  let _ ← release o
  modify fun w => { w with held := some n }

/-- Prints on the sink in hand; `none` when there is none. -/
def print (o : Outlet σ) (text : String) : Act σ (Option (Except IoError Unit)) := do
  match (← get).held with
  | none => return none
  | some n =>
    let r ← outside (o.print n text)
    log (.printed n text (failureOf r))
    return some r

/-- Prints pieces until one fails. -/
def printAll (o : Outlet σ) : List String → Act σ (Except IoError Unit)
  | [] => return .ok ()
  | text :: rest => do
    match ← print o text with
    | some (.error e) => return .error e
    | _ => printAll o rest

def notice (o : Outlet σ) (text : String) : Act σ Unit := do
  outside (o.notify text)
  log (.notice text)

/-- Writes notices one after another. -/
def notices (o : Outlet σ) : List String → Act σ Unit
  | [] => return ()
  | text :: rest => do
    notice o text
    notices o rest

/-- Acquires a sink for a type and takes it in hand. Notices of the outlet reach the summary when there
is one open. -/
def acquire (o : Outlet σ) (summary : Bool) (t : TypeName) (usage : Usage) (policy : IdentifierPolicy) :
    Attempt σ Unit := do
  let n := (← up get).sinks
  let (texts, r) ← up (outside (o.acquire n t usage policy))
  if summary then up (notices o texts)
  match r with
  | .error e =>
    up (log (.refused t))
    throw (.cannotCreateSink e)
  | .ok () =>
    up (log (.acquired n t usage.imports policy))
    up (modify fun w => { w with sinks := n + 1 })
    up (install o n)

def noteException (path : Path) (context : Option String) (e : DecompileError) : Act σ Unit := do
  let record : ExceptionRecord := ⟨path, context, e.kind, e.describe⟩
  modify fun w => { w with records := w.records ++ [record] }
  log (.exception record)

end World

end ClassSkeleton
