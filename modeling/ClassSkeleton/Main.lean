import ClassSkeleton.Program

/-
  ClassSkeleton.Main — the command line.

  Files are taken in, the run is computed, and what it changed is written. Taken in are the files the
  arguments and the options name, and those listed on standard input, one a line, when that is no
  terminal: `find classes | javadump classes` is how a directory is given. A run that looked for files
  which are there but were not taken in is computed again with them, so it never overwrites or misses
  a file it could not know of.
-/

namespace ClassSkeleton.Main

def helpText : String :=
  "Usage: " ++ toolName ++ " [OPTIONS] <PATH>...\n\n" ++
  "  -o, --output-dir <DIR>    write source files and summary.txt here\n" ++
  "      --clobber             overwrite files that exist\n" ++
  "      --config <FILE>       read options from this file\n" ++
  "      --no-inner-classes    leave nested classes out\n" ++
  "      --rename-dup-members  rename members that share a name\n" ++
  "      --rename-enum-members rename enum constants that are illegal or repeated\n" ++
  "      --rename-illegal-idents  replace illegal identifiers\n" ++
  "      --method <NAME>       print only methods of this name\n" ++
  "      --jar-filter <REGEX>  dump only the matching classes of archives\n" ++
  "      --low-memory          drop method bodies once a class is written\n" ++
  "      --silent              no progress lines for the classes of archives\n" ++
  "      --extraclasspath <PATH>  look for classes here too\n" ++
  "      --json                print a report\n" ++
  "  -v, --verbose             say more\n" ++
  "  -h, --help                print this\n" ++
  "  -V, --version             print the version\n"

/-- The text of a place. -/
def absolute (p : Place) : String := "/" ++ "/".intercalate p

/-- Takes in what is at a path, if anything is. -/
def takeIn (files : FileTree) (path : Path) : IO FileTree := do
  if (FileTree.segments path).toOption.isNone then return files
  try
    let bytes ← IO.FS.readBinFile path.text
    match files.createWithParents path with
    | (.ok place, files) => return files.append place bytes.toList
    | (.error _, files) => return files
  catch
    | .noFileOrDirectory .. => return files
    | _ => return (files.makeDirs path).2

/-- The class files a run looked for in directories. -/
def lookups (c : Cache) : List Path :=
  c.roots.flatMap fun
    | .archive _ => []
    | .directory dir =>
      c.units.flatMap fun u =>
        (u.type :: u.classFile.nest.map (·.inner)).map fun t => dir.join ⟨t.entryPath⟩

/-- The paths that are not in the tree, each once. -/
def missing (files : FileTree) (paths : List Path) : List Path := (paths.filter fun p => !files.exists? p).eraseDups

/-- Computes the run, with more files taken in for as long as there are any it looked for. -/
partial def compute (configHome : Option Path) (args : List String) (files : FileTree) :
    IO (FileTree × Except Stop Finish) := do
  match Program.run files configHome args with
  | .error e => return (files, .error e)
  | .ok f =>
    let made := f.files.nodes.map fun (p, _) => Path.mk (absolute p)
    let more ← (missing files (made ++ lookups f.cache)).foldlM takeIn files
    if more.nodes.length > files.nodes.length then compute configHome args more
    else return (files, .ok f)

/-- Writes what is new or different. -/
def writeChanges (old new : FileTree) : IO Unit := do
  for (p, n) in new.nodes do
    if old.node? p ≠ some n then
      match n with
      | .dir => IO.FS.createDirAll (absolute p)
      | .file bytes => IO.FS.writeBinFile (absolute p) ⟨bytes.toArray⟩

def configHome : IO (Option Path) := do
  match ← IO.getEnv "XDG_CONFIG_HOME" with
  | some dir => if (Path.mk dir).isAbsolute then return some ⟨dir⟩ else fromHome
  | none => fromHome
where
  fromHome : IO (Option Path) := do
    match ← IO.getEnv "HOME" with
    | some "" | none => return none
    | some home => return some ((Path.mk home).join ⟨".config"⟩)

/-- The lines of standard input, unless it is a terminal. -/
def listing : IO (List String) := do
  let input ← IO.getStdin
  if ← input.isTty then return []
  return ((← input.readToEnd).splitOn "\n").filter fun l => !l.isEmpty

/-- The paths that the command line and its options name. -/
def namedPaths (configHome : Option Path) (line : CommandLine) (files : FileTree) : IO (List Path × FileTree) := do
  let config := match line.value? .config with
    | some path => [Path.mk path]
    | none => (configHome.map OptionsFile.usualPath).toList
  let files ← config.foldlM takeIn files
  match Options.resolve files configHome line with
  | .error _ => return ([], files)
  | .ok options => return (line.paths ++ options.extraClasspath ++ options.outputDir.toList, files)

def invoke (args : List String) : IO UInt32 := do
  match CommandLine.parse args with
  | .error .help => IO.print helpText; return 0
  | .error .version => IO.println versionLine; return 0
  | .error (.misuse e) => IO.eprintln ("error: " ++ e.message); return 2
  | .ok line =>
    let home ← configHome
    let cwd := (← IO.getEnv "PWD").getD "/"
    let empty : FileTree := ⟨[], ((cwd.splitOn "/").filter fun s => !s.isEmpty)⟩
    let (named, files) ← namedPaths home line (empty.makeDirs ⟨cwd⟩).2
    let files ← (named ++ (← listing).map Path.mk).foldlM takeIn files
    match ← compute home args files with
    | (_, .error _) => return 2
    | (files, .ok f) =>
      IO.print f.stdout
      IO.eprint f.stderr
      writeChanges files f.files
      return f.status.toUInt32

end ClassSkeleton.Main

def main (args : List String) : IO UInt32 := ClassSkeleton.Main.invoke args
