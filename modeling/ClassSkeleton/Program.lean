import ClassSkeleton.Options.Resolve
import ClassSkeleton.Output.Directory
import ClassSkeleton.Output.Stream
import ClassSkeleton.Run.Report

/-
  ClassSkeleton.Program — a whole invocation.

  From the arguments and the files to what is printed, the status and the files afterwards. Source goes
  to files below the output directory if one is given and is printed if not; progress and failures go to
  the error stream. Nothing is read or written before the options are settled. The status is one for a
  run that could not begin or was aborted; failures that were noted do not count. A crash has a status of
  its own and leaves no report; what the system says of it is not among the lines here.
-/

namespace ClassSkeleton

/-- Why a run could not begin. -/
inductive StartError where
  | config (e : ConfigError)
  | outputDir (path : Path)
  | extraClasspath
  deriving DecidableEq, Repr

def StartError.message : StartError → String
  | config e => e.message
  | outputDir p => "Failed to create output directory: " ++ p.text
  | extraClasspath => "Failed to open extra classpath"

/-- The status a crash ends with: that of a panic, or of an abort. -/
def Crash.status : Crash → Nat
  | capacity => 101
  | recursion => 134

/-- What an invocation leaves behind. -/
structure Finish where
  status : Nat
  stdout : String
  stderr : String
  files : FileTree
  /-- The classes that were loaded; none when the run did not begin. -/
  cache : Cache

namespace Program

def refuse (files : FileTree) (e : StartError) : Finish := ⟨1, "", "Error: " ++ e.message ++ "\n", files, .empty⟩

/-- The text of the report, if it is asked for. -/
def reportText (line : CommandLine) (r : RunReport) : String :=
  if line.has .json then r.toJson.pretty 0 ++ "\n" else ""

/-- The status of a run and the text of its report. -/
def ending (line : CommandLine) (r : RunReport) : Option Crash → Nat × String
  | some cause => (cause.status, "")
  | none => (if r.aborted then 1 else 0, reportText line r)

/-- Runs over an outlet; `printed` is what the outlet's state says was printed. -/
def runOver {σ : Type} (o : Outlet σ) (printed : σ → String) (line : CommandLine) (start : World σ) : Finish :=
  let (r, w) := World.runPaths o line.paths start
  let (status, report) := ending line r w.crash
  ⟨status, printed w.around.state ++ report, Event.lines w.trace, w.around.files, w.session.cache⟩

/-- The run with its options settled. -/
def runWith (files : FileTree) (line : CommandLine) (options : Options) : Finish :=
  let begin {σ : Type} (o : Outlet σ) (printed : σ → String) (state : σ) (files : FileTree) : Finish :=
    match Session.start files options with
    | .error _ => refuse files .extraClasspath
    | .ok session => runOver o printed line (.start session files state)
  match options.outputDir with
  | none => begin Stream.outlet id "" files
  | some dir =>
    match files.makeDirs dir with
    | (.error _, files) => refuse files (.outputDir dir)
    | (.ok (), files) => begin (Directory.outlet dir options.clobber) (fun _ => "") .start files

/-- An invocation with the given arguments; `configHome` is the directory for configuration. -/
def run (files : FileTree) (configHome : Option Path) (args : List String) : Except Stop Finish := do
  let line ← CommandLine.parse args
  match Options.resolve files configHome line with
  | .error e => return refuse files (.config e)
  | .ok options => return runWith files line options

end Program

end ClassSkeleton
