import ClassSkeleton.Archive.CodePage
import ClassSkeleton.Error
import ClassSkeleton.Text.Utf8

/-
  ClassSkeleton.Archive.Directory — the table of contents of an archive.

  The end record is looked for backwards from the end of the file. It says how large the table is and
  where it starts; data before the archive shifts every offset by the same amount, found from the
  place of the end record. A 64-bit end record, announced by a locator in front of the plain one,
  takes precedence. Each row of the table describes one entry.
-/

namespace ClassSkeleton.Archive

abbrev Image := Array UInt8

/-- A number of `width` bytes at `pos`, lowest byte first. -/
def littleEndian (image : Image) (pos width : Nat) : Except ArchiveError Nat :=
  if pos + width ≤ image.size then
    .ok ((image.extract pos (pos + width)).foldr (fun b n => n * 256 + b.toNat) 0)
  else .error (.io .endOfInput)

/-- `count` bytes at `pos`. -/
def slice (image : Image) (pos count : Nat) : Except ArchiveError (List UInt8) :=
  if pos + count ≤ image.size then .ok (image.extract pos (pos + count)).toList else .error (.io .endOfInput)

structure EndRecord where
  pos : Nat
  disk : Nat
  tableDisk : Nat
  entriesHere : Nat
  entries : Nat
  tableSize : Nat
  tableOffset : Nat
  commentLength : Nat
  deriving DecidableEq, Repr

def endSignature : Nat := 0x06054b50

def end64Signature : Nat := 0x06064b50

def locatorSignature : Nat := 0x07064b50

def rowSignature : Nat := 0x02014b50

def localSignature : Nat := 0x04034b50

def has (image : Image) (signature pos : Nat) : Bool := (littleEndian image pos 4).toOption == some signature

/-- The last place among `pos`, `pos - 1`, … with an end record; `left` places are tried. -/
def findEnd (image : Image) : (left pos : Nat) → Option Nat
  | 0, _ => none
  | left + 1, pos => if has image endSignature pos then some pos else if pos = 0 then none else findEnd image left (pos - 1)

def readEnd (image : Image) : Except ArchiveError EndRecord :=
  if image.size < 22 then .error (.invalid "Invalid zip header")
  else
    match findEnd image 65536 (image.size - 22) with
    | none => .error (.invalid "Could not find central directory end")
    | some pos => do
      let disk ← littleEndian image (pos + 4) 2
      let tableDisk ← littleEndian image (pos + 6) 2
      let entriesHere ← littleEndian image (pos + 8) 2
      let entries ← littleEndian image (pos + 10) 2
      let tableSize ← littleEndian image (pos + 12) 4
      let tableOffset ← littleEndian image (pos + 16) 4
      let commentLength ← littleEndian image (pos + 20) 2
      let _ ← slice image (pos + 22) commentLength
      .ok ⟨pos, disk, tableDisk, entriesHere, entries, tableSize, tableOffset, commentLength⟩

/-- Whether a field of the record is full, so that its value is in the 64-bit one. -/
def EndRecord.isFull (e : EndRecord) : Bool :=
  [e.disk, e.tableDisk, e.entriesHere, e.entries].contains 0xFFFF || [e.tableSize, e.tableOffset].contains 0xFFFFFFFF

/-- Where the table is: the shift of all offsets, its start, and its number of rows. -/
structure TableSpan where
  shift : Nat
  start : Nat
  rows : Nat
  deriving DecidableEq, Repr

def multiDisk : ArchiveError := .unsupported "Support for multi-disk files is not implemented"

/-- The first place from `pos` up to `last` with a 64-bit end record; `left` places are tried. -/
def findEnd64 (image : Image) (last : Nat) : (left pos : Nat) → Except ArchiveError Nat
  | 0, _ => .error (.invalid "Could not find ZIP64 central directory end")
  | left + 1, pos =>
    if pos > last then .error (.invalid "Could not find ZIP64 central directory end")
    else do
      let signature ← littleEndian image pos 4
      if signature = end64Signature then .ok pos else findEnd64 image last left (pos + 1)

def span64 (image : Image) (e : EndRecord) (locator : Nat) : Except ArchiveError TableSpan := do
  let disk ← littleEndian image (locator + 4) 4
  let nominal ← littleEndian image (locator + 8) 8
  let _ ← littleEndian image (locator + 16) 4
  if !e.isFull && e.disk ≠ disk then .error multiDisk
  else if e.pos < 60 then .error (.invalid "File cannot contain ZIP64 central directory end")
  else
    let pos ← findEnd64 image (e.pos - 60) (image.size + 1) nominal
    let ownDisk ← littleEndian image (pos + 16) 4
    let tableDisk ← littleEndian image (pos + 20) 4
    let entries ← littleEndian image (pos + 32) 8
    let offset ← littleEndian image (pos + 48) 8
    if ownDisk ≠ tableDisk then .error multiDisk
    else if offset + (pos - nominal) ≥ 0x10000000000000000 then .error (.invalid "Invalid central directory size or offset")
    else .ok ⟨pos - nominal, offset + (pos - nominal), entries⟩

def findTable (image : Image) : Except ArchiveError TableSpan := do
  let e ← readEnd image
  if !e.isFull && e.disk ≠ e.tableDisk then .error multiDisk
  else
    let back := 42 + e.commentLength
    if back ≤ image.size && has image locatorSignature (image.size - back) then span64 image e (image.size - back)
    else if e.pos < e.tableSize + e.tableOffset then .error (.invalid "Invalid central directory size or offset")
    else
      let shift := e.pos - e.tableSize - e.tableOffset
      .ok ⟨shift, e.tableOffset + shift, e.entriesHere⟩

/-- How an entry's data is packed. -/
inductive Method where
  | stored
  | deflated
  | unknown (code : Nat)
  deriving DecidableEq, Repr

def Method.ofCode (n : Nat) : Method := if n = 0 then .stored else if n = 8 then .deflated else .unknown n

structure Entry where
  name : String
  encrypted : Bool
  method : Method
  crc : Nat
  packedSize : Nat
  /-- How many bytes the data has, as the table says. -/
  size : Nat
  /-- Where the entry's local header is. -/
  header : Nat
  deriving DecidableEq, Repr

/-- The sizes and the offset a row's extra fields may replace, and a method that AES data names. -/
structure RowExtra where
  size : Nat
  packedSize : Nat
  header : Nat
  method : Nat
  aes : Bool
  deriving DecidableEq, Repr

def full : Nat := 0xFFFFFFFF

def fieldNumber (bytes : List UInt8) : Nat := bytes.foldr (fun b n => n * 256 + b.toNat) 0

/-- Eight bytes in place of a value that is full. -/
def widen (value : Nat) (bytes : List UInt8) : Option (Nat × List UInt8 × Nat) :=
  if value ≠ full then some (value, bytes, 0)
  else if bytes.length < 8 then none
  else some (fieldNumber (bytes.take 8), bytes.drop 8, 8)

def aesExtra (length : Nat) (body : List UInt8) (x : RowExtra) : Except ArchiveError (Option RowExtra) :=
  if length ≠ 7 then .error (.unsupported "AES extra data field has an unsupported length")
  else if body.length < 7 then .ok none
  else if fieldNumber ((body.drop 2).take 2) ≠ 0x4541 then .error (.invalid "Invalid AES vendor")
  else if ¬[1, 2].contains (fieldNumber (body.take 2)) then .error (.invalid "Invalid AES vendor version")
  else if ¬[1, 2, 3].contains (fieldNumber ((body.drop 4).take 1)) then .error (.invalid "Invalid AES encryption strength")
  else .ok (some { x with method := fieldNumber ((body.drop 5).take 2), aes := true })

/-- Goes through the extra fields; one that is cut off ends the list. After the seven bytes of an AES
field as many again are passed over. -/
def extraFields : (fuel : Nat) → List UInt8 → RowExtra → Except ArchiveError RowExtra
  | 0, _, x => .ok x
  | fuel + 1, bytes, x =>
    if bytes.length < 4 then .ok x
    else
      let kind := fieldNumber (bytes.take 2)
      let length := fieldNumber ((bytes.drop 2).take 2)
      let body := bytes.drop 4
      if kind = 1 then
        match widen x.size body with
        | none => .ok x
        | some (size, rest, a) =>
          match widen x.packedSize rest with
          | none => .ok { x with size := size }
          | some (packedSize, rest, b) =>
            match widen x.header rest with
            | none => .ok { x with size := size, packedSize := packedSize }
            | some (header, rest, c) =>
              extraFields fuel (rest.drop (length - (a + b + c)))
                { x with size := size, packedSize := packedSize, header := header }
      else if kind = 0x9901 then do
        match ← aesExtra length body x with
        | none => .ok x
        | some y => extraFields fuel (body.drop 14) y
      else extraFields fuel (body.drop length) x

/-- One row of the table, and where the next one starts. -/
def readRow (image : Image) (shift pos : Nat) : Except ArchiveError (Entry × Nat) := do
  let signature ← littleEndian image pos 4
  if signature ≠ rowSignature then .error (.invalid "Invalid Central Directory header")
  else
    let flags ← littleEndian image (pos + 8) 2
    let method ← littleEndian image (pos + 10) 2
    let crc ← littleEndian image (pos + 16) 4
    let packedSize ← littleEndian image (pos + 20) 4
    let size ← littleEndian image (pos + 24) 4
    let nameLength ← littleEndian image (pos + 28) 2
    let extraLength ← littleEndian image (pos + 30) 2
    let commentLength ← littleEndian image (pos + 32) 2
    let header ← littleEndian image (pos + 42) 4
    let rawName ← slice image (pos + 46) nameLength
    let extra ← slice image (pos + 46 + nameLength) extraLength
    let _ ← slice image (pos + 46 + nameLength + extraLength) commentLength
    let name := if flags.testBit 11 then Text.lossy rawName else codePageText rawName
    let x ← extraFields (extra.length + 1) extra ⟨size, packedSize, header, method, false⟩
    if x.method = 99 && !x.aes then .error (.invalid "AES encryption without AES extra data field")
    else if x.header + shift ≥ 0x10000000000000000 then .error (.invalid "Archive header is too large")
    else
      .ok (⟨name, flags.testBit 0, Method.ofCode x.method, crc, x.packedSize, x.size, x.header + shift⟩,
        pos + 46 + nameLength + extraLength + commentLength)

def readRows (image : Image) (shift : Nat) : (rows pos : Nat) → Except ArchiveError (List Entry)
  | 0, _ => .ok []
  | rows + 1, pos =>
    match readRow image shift pos with
    | .error e => .error e
    | .ok (entry, next) =>
      match readRows image shift rows next with
      | .error e => .error e
      | .ok rest => .ok (entry :: rest)

/-- All entries, in the order of the table. -/
def readTable (image : Image) : Except ArchiveError (List Entry) := do
  let span ← findTable image
  readRows image span.shift span.rows span.start

end ClassSkeleton.Archive
