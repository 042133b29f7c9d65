import ClassSkeleton.Path
import ClassSkeleton.Table

/-
  ClassSkeleton.CommandLine — what was asked for on the command line.

  Arguments are paths, switches and settings. A switch is on or off, a setting has a value; either may
  be given once, but for the extra class path, which adds up. Arguments are read from left to right with
  one value or list of paths not yet stored: it is stored, and faulty values are found, when something
  else begins or the arguments end. An argument that no option goes by is found at once, so it is the
  fault that is reported even after a value that would have been refused. After `--` everything is a path.
-/

namespace ClassSkeleton

inductive Switch where
  | clobber
  | noInnerClasses
  | renameDuplicateMembers
  | renameEnumMembers
  | renameIllegalIdentifiers
  | lowMemory
  | silent
  | json
  | verbose
  deriving DecidableEq, Repr

inductive Setting where
  | outputDir
  | config
  | method
  | archiveFilter
  | extraClasspath
  deriving DecidableEq, Repr

namespace Setting

/-- Whether the value is a path, which may not be empty. -/
def isPath : Setting → Bool
  | method | archiveFilter => false
  | outputDir | config | extraClasspath => true

def isRepeatable : Setting → Bool
  | extraClasspath => true
  | _ => false

end Setting

/-- What an option name stands for. -/
inductive Choice where
  | switch (s : Switch)
  | setting (s : Setting)
  | help
  | version
  deriving DecidableEq, Repr

namespace Choice

def ofLong? : String → Option Choice
  | "output-dir" => some (.setting .outputDir)
  | "clobber" => some (.switch .clobber)
  | "config" => some (.setting .config)
  | "no-inner-classes" => some (.switch .noInnerClasses)
  | "rename-dup-members" => some (.switch .renameDuplicateMembers)
  | "rename-enum-members" => some (.switch .renameEnumMembers)
  | "rename-illegal-idents" => some (.switch .renameIllegalIdentifiers)
  | "method" => some (.setting .method)
  | "jar-filter" => some (.setting .archiveFilter)
  | "low-memory" => some (.switch .lowMemory)
  | "silent" => some (.switch .silent)
  | "extraclasspath" => some (.setting .extraClasspath)
  | "json" => some (.switch .json)
  | "verbose" => some (.switch .verbose)
  | "help" => some .help
  | "version" => some .version
  | _ => none

def ofShort? : Char → Option Choice
  | 'o' => some (.setting .outputDir)
  | 'v' => some (.switch .verbose)
  | 'h' => some .help
  | 'V' => some .version
  | _ => none

end Choice

structure CommandLine where
  switches : List Switch
  settings : Table Setting (List String)
  paths : List Path
  deriving DecidableEq, Repr

namespace CommandLine

def empty : CommandLine := ⟨[], [], []⟩

def has (l : CommandLine) (s : Switch) : Bool := l.switches.contains s

/-- Every value of a setting, in order. -/
def values (l : CommandLine) (s : Setting) : List String := (l.settings.get? s).getD []

def value? (l : CommandLine) (s : Setting) : Option String := (l.values s).head?

end CommandLine

inductive UsageError where
  | noPath
  /-- A value is missing, or is an empty path. -/
  | badValue
  | givenTwice
  /-- A value for something that takes none. -/
  | unwantedValue
  | unknownOption
  deriving DecidableEq, Repr

def UsageError.message : UsageError → String
  | noPath => "no path is given"
  | badValue => "an option or a path has no value"
  | givenTwice => "an option is given more than once"
  | unwantedValue => "an option that takes no value is given one"
  | unknownOption => "there is no such option"

/-- Why the arguments lead to no run. -/
inductive Stop where
  | help
  | version
  | misuse (e : UsageError)
  deriving DecidableEq, Repr

/-- Where a value that is not yet stored belongs. -/
inductive Slot where
  | paths
  | setting (s : Setting)
  deriving DecidableEq, Repr

/-- The state of reading the arguments. -/
structure Reading where
  line : CommandLine
  waiting : Option (Slot × List String)
  /-- Whether `--` was read. -/
  pathsOnly : Bool
  deriving DecidableEq, Repr

namespace Reading

def start : Reading := ⟨.empty, none, false⟩

def misuse {α : Type} (e : UsageError) : Except Stop α := .error (.misuse e)

/-- Stores the value of a setting. -/
def give (r : Reading) (s : Setting) (text : String) : Except Stop Reading :=
  let known := r.line.values s
  if !s.isRepeatable && !known.isEmpty then misuse .givenTwice
  else if s.isPath && text.isEmpty then misuse .badValue
  else .ok { r with line := { r.line with settings := r.line.settings.put s (known ++ [text]) } }

/-- Stores what is waiting. -/
def settle (r : Reading) : Except Stop Reading :=
  let r' := { r with waiting := none }
  match r.waiting with
  | none => .ok r'
  | some (.paths, texts) =>
    if texts.contains "" then misuse .badValue
    else .ok { r' with line := { r.line with paths := r.line.paths ++ texts.map Path.mk } }
  | some (.setting s, texts) =>
    match texts with
    | [] => misuse .badValue
    | text :: _ => r'.give s text

def addPath (r : Reading) (text : String) : Except Stop Reading :=
  match r.waiting with
  | some (.paths, texts) => .ok { r with waiting := some (.paths, texts ++ [text]) }
  | _ => do
    let r ← r.settle
    return { r with waiting := some (.paths, [text]) }

/-- Begins a setting whose value is the next argument. -/
def await (r : Reading) (s : Setting) : Except Stop Reading := do
  let r ← r.settle
  return { r with waiting := some (.setting s, []) }

/-- A setting with its value in the same argument. -/
def attach (r : Reading) (s : Setting) (text : String) : Except Stop Reading := do
  let r ← r.settle
  r.give s text

def flip (r : Reading) (s : Switch) : Except Stop Reading := do
  let r ← r.settle
  if r.line.has s then misuse .givenTwice
  else return { r with line := { r.line with switches := r.line.switches ++ [s] } }

/-- Ends the reading, unless what is waiting is refused. -/
def stop (r : Reading) (why : Stop) : Except Stop Reading := do
  let _ ← r.settle
  .error why

/-- An option by its long name. -/
def long (r : Reading) (name : String) (attached : Option String) : Except Stop Reading :=
  match Choice.ofLong? name, attached with
  | none, _ => misuse .unknownOption
  | some (.setting s), none => r.await s
  | some (.setting s), some text => r.attach s text
  | some _, some _ => misuse .unwantedValue
  | some (.switch s), none => r.flip s
  | some .help, none => r.stop .help
  | some .version, none => r.stop .version

/-- Options by their letters. The first that takes a value takes the rest, less a `=` it starts with. -/
def letters (r : Reading) : List Char → Except Stop Reading
  | [] => .ok r
  | c :: rest =>
    match Choice.ofShort? c with
    | none => misuse .unknownOption
    | some .help => r.stop .help
    | some .version => r.stop .version
    | some (.switch s) =>
      match r.flip s with
      | .ok r => letters r rest
      | .error e => .error e
    | some (.setting s) =>
      match rest with
      | [] => r.await s
      | '=' :: text => r.attach s (String.ofList text)
      | text => r.attach s (String.ofList text)

/-- An argument that is no option: a value that is waited for, or a path. -/
def plain (r : Reading) (text : String) : Except Stop Reading :=
  match r.waiting with
  | some (.setting s, []) => .ok { r with waiting := some (.setting s, [text]) }
  | _ => r.addPath text

def take (r : Reading) (arg : String) : Except Stop Reading :=
  if r.pathsOnly then r.addPath arg
  else
    match arg.toList with
    | ['-', '-'] => .ok { r with pathsOnly := true }
    | '-' :: '-' :: rest =>
      match Text.cutFirst '=' rest with
      | some (name, text) => r.long (String.ofList name) (some (String.ofList text))
      | none => r.long (String.ofList rest) none
    | '-' :: c :: rest => r.letters (c :: rest)
    | _ => r.plain arg

end Reading

/-- Reads the arguments. At least one path has to be given. -/
def CommandLine.parse (args : List String) : Except Stop CommandLine := do
  let r ← args.foldlM Reading.take Reading.start
  let r ← r.settle
  if r.line.paths.isEmpty then .error (.misuse .noPath) else return r.line

end ClassSkeleton
