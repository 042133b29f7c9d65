import ClassSkeleton.CommandLine
import ClassSkeleton.FileTree
import ClassSkeleton.Options
import ClassSkeleton.Options.File
import ClassSkeleton.Text.Utf8
import ClassSkeleton.Version

/-
  ClassSkeleton.Options.Resolve — the options of a run.

  They come from the options file and the command line. The file is the one named on the command line,
  or else the usual one if it is there. A switch adds to what the file says, a setting replaces it, and
  the class path of the command line follows that of the file.
-/

namespace ClassSkeleton

inductive ConfigError where
  | unreadable (path : Path)
  | malformed (path : Path)
  | badPattern (pattern : String)
  | reportWithoutDirectory
  deriving DecidableEq, Repr

def ConfigError.message : ConfigError → String
  | unreadable p => "Failed to read options file: " ++ p.text
  | malformed p => "Failed to parse options file: " ++ p.text
  | badPattern s => "Invalid --jar-filter pattern: " ++ s
  | reportWithoutDirectory => "--json needs --output-dir so decompiled source does not mix with the report"

namespace OptionsFile

def load (files : FileTree) (path : Path) : Except ConfigError OptionsFile :=
  match (files.read path).toOption.bind Text.strict? with
  | none => .error (.unreadable path)
  | some text =>
    match parse? text with
    | some f => .ok f
    | none => .error (.malformed path)

/-- The usual place of the options file below the directory for configuration. -/
def usualPath (configHome : Path) : Path := (configHome.join ⟨toolName⟩).join ⟨"options.json"⟩

/-- The options file of a run; nothing when none is named and the usual one is not there. -/
def find (files : FileTree) (configHome : Option Path) (line : CommandLine) : Except ConfigError OptionsFile :=
  match line.value? .config with
  | some path => load files ⟨path⟩
  | none =>
    match configHome.map usualPath with
    | some path => if files.isFile path then load files path else .ok empty
    | none => .ok empty

end OptionsFile

namespace Options

/-- Puts the file and the command line together. -/
def merge (line : CommandLine) (file : OptionsFile) : Except ConfigError Options :=
  let pattern := line.value? .archiveFilter <|> file.text? .archiveFilter
  let outputDir := line.value? .outputDir <|> file.text? .outputDir
  let on (s : Switch) (k : OptionKey) : Bool := line.has s || (file.flag? k).getD false
  match NameFilter.ofPattern? pattern with
  | none => .error (.badPattern (pattern.getD ""))
  | some archiveFilter =>
    if line.has .json && outputDir.isNone then .error .reportWithoutDirectory
    else .ok {
      decompileInnerClasses := !line.has .noInnerClasses && (file.flag? .decompileInnerClasses).getD true
      renameDuplicateMembers := on .renameDuplicateMembers .renameDuplicateMembers
      renameEnumMembers := on .renameEnumMembers .renameEnumMembers
      renameIllegalIdentifiers := on .renameIllegalIdentifiers .renameIllegalIdentifiers
      methodFilter := line.value? .method <|> file.text? .methodFilter
      archiveFilter := archiveFilter
      lowMemory := on .lowMemory .lowMemory
      silent := on .silent .silent
      extraClasspath := (file.texts .extraClasspath ++ line.values .extraClasspath).map Path.mk
      outputDir := outputDir.map Path.mk
      clobber := on .clobber .clobber }

/-- The options for a command line. `configHome` is the directory for configuration, if there is one. -/
def resolve (files : FileTree) (configHome : Option Path) (line : CommandLine) : Except ConfigError Options := do
  let file ← OptionsFile.find files configHome line
  merge line file

end Options

end ClassSkeleton
