import ClassSkeleton.Archive.Crc
import ClassSkeleton.Archive.Directory
import ClassSkeleton.Archive.Inflate
import ClassSkeleton.FileTree

/-
  ClassSkeleton.Archive — archives of class files.

  An archive is its path, its bytes and its table of contents. An entry can be opened when it is not
  encrypted, its local header is in place and its method is known; its data has to pass the checksum.
  A buffer for the data is made before it is read, as large as the table says the data is, and the
  program crashes when no buffer can be so large.
  Of several entries with one name, reading by name takes the last. The class entries are those that
  end with `.class`, outside `META-INF/`; listing them opens every entry.
-/

namespace ClassSkeleton

structure ClassArchive where
  path : Path
  image : Archive.Image
  entries : List Archive.Entry
  deriving DecidableEq, Repr

namespace ClassArchive

/-- A file is taken as an archive as a whole; a directory cannot be. -/
def load (files : FileTree) (path : Path) : Except LoadError ClassArchive :=
  match files.stat path with
  | .error e => .error (.io path e)
  | .ok .dir => .error (.io path .noDevice)
  | .ok (.file bytes) =>
    match Archive.readTable bytes.toArray with
    | .error e => .error (.archive path e)
    | .ok entries => .ok ⟨path, bytes.toArray, entries⟩

/-- Where the packed data of an entry starts. -/
def dataStart (a : ClassArchive) (e : Archive.Entry) : Except ArchiveError Nat :=
  if e.encrypted then .error (.unsupported "Password required to decrypt file")
  else do
    let signature ← Archive.littleEndian a.image e.header 4
    if signature ≠ Archive.localSignature then .error (.invalid "Invalid local file header")
    else
      let nameLength ← Archive.littleEndian a.image (e.header + 26) 2
      let extraLength ← Archive.littleEndian a.image (e.header + 28) 2
      match e.method with
      | .unknown _ => .error (.unsupported "Compression method not supported")
      | _ => .ok (e.header + 30 + nameLength + extraLength)

/-- The data of an entry whose packed bytes start at `start`. -/
def unpack (a : ClassArchive) (e : Archive.Entry) (start : Nat) : Except IoError (List UInt8) :=
  let packed := (a.image.extract start (start + e.packedSize)).toList
  let unpacked := match e.method with
    | .deflated => Archive.inflate packed
    | _ => .ok packed
  match unpacked with
  | .error .corrupt => .error .badDeflate
  | .error .incomplete => .error .cutDeflate
  | .ok bytes => if (Archive.crc32 bytes).toNat = e.crc then .ok bytes else .error .badChecksum

def isClassEntry (name : String) : Bool :=
  ".class".toList.isSuffixOf name.toList && !"META-INF/".toList.isPrefixOf name.toList

/-- The names of the class entries, in the order of the table. -/
def classEntries (a : ClassArchive) : Except LoadError (List String) :=
  match a.entries.mapM (fun e => (a.dataStart e).map fun _ => e.name) with
  | .error e => .error (.archive a.path e)
  | .ok names => .ok (names.filter isClassEntry)

def entry? (a : ClassArchive) (name : String) : Option Archive.Entry := a.entries.reverse.find? fun e => e.name == name

/-- As many bytes as a buffer can have. -/
def maxCapacity : Nat := 0x7FFFFFFFFFFFFFFF

/-- The data of the entry called `name`; `none` when there is no such entry. -/
def read (a : ClassArchive) (name : String) : Except LoadError (Option (List UInt8)) :=
  match a.entry? name with
  | none => .ok none
  | some e =>
    match a.dataStart e with
    | .error err => .error (.archive a.path err)
    | .ok start =>
      if maxCapacity < e.size then .error (.io (a.path.join ⟨name⟩) .capacity)
      else
        match a.unpack e start with
        | .error err => .error (.io (a.path.join ⟨name⟩) err)
        | .ok bytes => .ok (some bytes)

end ClassArchive

end ClassSkeleton
