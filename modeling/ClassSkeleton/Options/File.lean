import ClassSkeleton.Json.Parse
import ClassSkeleton.Path
import ClassSkeleton.Table

/-
  ClassSkeleton.Options.File — defaults in a file.

  The file is a JSON object with known keys, each at most once, or an array with the values of the first
  keys in their order. A key may be left out. A value is of its key's sort or `null`, which is the same
  as leaving the key out; only the class path may not be `null`.
-/

namespace ClassSkeleton

inductive OptionKey where
  | decompileInnerClasses
  | renameDuplicateMembers
  | renameEnumMembers
  | renameIllegalIdentifiers
  | methodFilter
  | archiveFilter
  | lowMemory
  | silent
  | extraClasspath
  | outputDir
  | clobber
  deriving DecidableEq, Repr

namespace OptionKey

/-- The keys in their order. -/
def all : List OptionKey :=
  [decompileInnerClasses, renameDuplicateMembers, renameEnumMembers, renameIllegalIdentifiers, methodFilter,
    archiveFilter, lowMemory, silent, extraClasspath, outputDir, clobber]

def name : OptionKey → String
  | decompileInnerClasses => "decompile_inner_classes"
  | renameDuplicateMembers => "rename_duplicate_members"
  | renameEnumMembers => "rename_enum_members"
  | renameIllegalIdentifiers => "rename_illegal_identifiers"
  | methodFilter => "method_filter"
  | archiveFilter => "archive_filter"
  | lowMemory => "low_memory"
  | silent => "silent"
  | extraClasspath => "extra_classpath"
  | outputDir => "output_dir"
  | clobber => "clobber"

def ofName? (text : String) : Option OptionKey := all.find? fun k => k.name == text

end OptionKey

/-- A value of an option. -/
inductive OptionValue where
  | absent
  | bool (b : Bool)
  | text (s : String)
  | texts (l : List String)
  deriving DecidableEq, Repr

namespace OptionValue

def flag? : JsonValue → Option OptionValue
  | .null => some .absent
  | .bool b => some (.bool b)
  | _ => none

def text? : JsonValue → Option OptionValue
  | .null => some .absent
  | .string s => some (.text s)
  | _ => none

def string? : JsonValue → Option String
  | .string s => some s
  | _ => none

def texts? : JsonValue → Option OptionValue
  | .array items => (items.mapM string?).map .texts
  | _ => none

/-- The value of a key, if it is of the key's sort. -/
def ofJson? : OptionKey → JsonValue → Option OptionValue
  | .methodFilter | .archiveFilter | .outputDir => text?
  | .extraClasspath => texts?
  | .decompileInnerClasses | .renameDuplicateMembers | .renameEnumMembers | .renameIllegalIdentifiers | .lowMemory
  | .silent | .clobber => flag?

end OptionValue

/-- The values of an options file. -/
structure OptionsFile where
  entries : Table OptionKey OptionValue
  deriving DecidableEq, Repr

namespace OptionsFile

def empty : OptionsFile := ⟨[]⟩

def flag? (f : OptionsFile) (k : OptionKey) : Option Bool :=
  match f.entries.get? k with
  | some (.bool b) => some b
  | _ => none

def text? (f : OptionsFile) (k : OptionKey) : Option String :=
  match f.entries.get? k with
  | some (.text s) => some s
  | _ => none

def texts (f : OptionsFile) (k : OptionKey) : List String :=
  match f.entries.get? k with
  | some (.texts l) => l
  | _ => []

/-- Adds a key that is not there yet. -/
def add (f : OptionsFile) (k : OptionKey) (v : JsonValue) : Option OptionsFile :=
  if (f.entries.get? k).isSome then none else (OptionValue.ofJson? k v).map fun x => ⟨f.entries.put k x⟩

def addMember (f : OptionsFile) (member : String × JsonValue) : Option OptionsFile :=
  (OptionKey.ofName? member.1).bind fun k => f.add k member.2

def ofJson? : JsonValue → Option OptionsFile
  | .object members => members.foldlM addMember empty
  | .array items =>
    if items.length ≤ OptionKey.all.length then
      (OptionKey.all.zip items).foldlM (fun f (k, v) => f.add k v) empty
    else none
  | _ => none

def parse? (text : String) : Option OptionsFile := (JsonValue.parse? text).bind ofJson?

end OptionsFile

end ClassSkeleton
