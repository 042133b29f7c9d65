import ClassSkeleton.Descriptor

/-
  ClassSkeleton.Error — what can go wrong, and how it is worded.

  Each layer has its own causes: the system, the class file, a descriptor, an archive, a
  load, the analysis of a class, a sink, and the work on one unit. A failure has a text and
  a chain of cause texts; `describe` renders them on one line, leaving out a cause that the
  line already ends with. Apart from all these there are crashes, which nothing handles: the
  program ends where it stands.
-/

namespace ClassSkeleton

/-- Why the program ends in the middle of its work, and returns to no one. -/
inductive Crash where
  /-- A buffer was asked for that has more bytes than a buffer can have. -/
  | capacity
  /-- A recursion that has no end used up the stack. -/
  | recursion
  deriving DecidableEq, Repr

/-- A failure of the system below, or of a sink. -/
inductive IoError where
  | notFound
  | alreadyExists
  | noDevice
  | notDirectory
  | isDirectory
  | nameTooLong
  | nulInName
  | endOfInput
  | badChecksum
  | badDeflate
  | cutDeflate
  | notUtf8
  /-- A buffer cannot have as many bytes as are to be read. No failure that is handled: the program crashes. -/
  | capacity
  | other (text : String)
  deriving DecidableEq, Repr

namespace IoError

def message : IoError → String
  | notFound => "No such file or directory (os error 2)"
  | alreadyExists => "File exists (os error 17)"
  | noDevice => "No such device (os error 19)"
  | notDirectory => "Not a directory (os error 20)"
  | isDirectory => "Is a directory (os error 21)"
  | nameTooLong => "File name too long (os error 36)"
  | nulInName => "file name contained an unexpected NUL byte"
  | endOfInput => "failed to fill whole buffer"
  | badChecksum => "Invalid checksum"
  | badDeflate => "corrupt deflate stream"
  | cutDeflate => "incomplete deflate stream"
  | notUtf8 => "stream did not contain valid UTF-8"
  | capacity => "capacity overflow"
  | other text => text

end IoError

/-- Why a byte string is no class file. `expected` says what the index should have named. -/
inductive ClassFormatError where
  | badMagic (magic : Nat)
  | truncated (offset : Nat)
  | unknownConstant (tag index : Nat)
  | badConstant (index : Nat) (expected : String)
  deriving DecidableEq, Repr

def hexDigit (n : Nat) : Char := if n < 10 then Char.ofNat (48 + n) else Char.ofNat (87 + n)

/-- The lowest `digits` hexadecimal digits of `n`. -/
def hexDigits : (digits : Nat) → (n : Nat) → List Char
  | 0, _ => []
  | d + 1, n => hexDigits d (n / 16) ++ [hexDigit (n % 16)]

def ClassFormatError.message : ClassFormatError → String
  | badMagic m => "not a class file (magic 0x" ++ String.ofList (hexDigits 8 m) ++ ")"
  | truncated o => "class file truncated at offset " ++ toString o
  | unknownConstant t i => "unknown constant pool tag " ++ toString t ++ " at index " ++ toString i
  | badConstant i e => "constant pool index " ++ toString i ++ " is not a " ++ e

def DescriptorError.message (e : DescriptorError) : String := "malformed descriptor '" ++ e.descriptor ++ "'"

/-- Why an archive cannot be read. -/
inductive ArchiveError where
  | io (cause : IoError)
  | invalid (reason : String)
  | unsupported (reason : String)
  | noSuchEntry
  deriving DecidableEq, Repr

namespace ArchiveError

def message : ArchiveError → String
  | io cause => cause.message
  | invalid reason => "invalid Zip archive: " ++ reason
  | unsupported reason => "unsupported Zip archive: " ++ reason
  | noSuchEntry => "specified file not found in archive"

def causes : ArchiveError → List String
  | io cause => [cause.message]
  | _ => []

end ArchiveError

inductive LoadError where
  | cannotLoad (type : TypeName)
  | io (path : Path) (cause : IoError)
  | format (origin : Path) (cause : ClassFormatError)
  | archive (path : Path) (cause : ArchiveError)
  deriving DecidableEq, Repr

namespace LoadError

def message : LoadError → String
  | cannotLoad t => "cannot load class " ++ t.raw
  | io p _ => "failed to read " ++ p.text
  | format o _ => "invalid class file " ++ o.text
  | archive p _ => "failed to read archive " ++ p.text

def causes : LoadError → List String
  | cannotLoad _ => []
  | io _ c => [c.message]
  | format _ c => [c.message]
  | archive _ c => c.message :: c.causes

def isCannotLoad : LoadError → Bool
  | cannotLoad _ => true
  | _ => false

/-- The crash a failure to load stands for, if it is none that the program goes on with. -/
def crash? : LoadError → Option Crash
  | io _ .capacity => some .capacity
  | _ => none

end LoadError

inductive AnalysisError where
  | descriptor (cause : DescriptorError)
  | released
  | notAnalysed
  deriving DecidableEq, Repr

def AnalysisError.message : AnalysisError → String
  | descriptor c => c.message
  | released => "class state was released after an earlier dump"
  | notAnalysed => "class has not been analysed"

/-- No sink could be opened for a type. -/
structure SinkError where
  type : TypeName
  cause : IoError
  deriving DecidableEq, Repr

def SinkError.message (e : SinkError) : String := "cannot create output for " ++ e.type.raw

/-- How far a failure travels: one unit, one request, or the rest of the run. -/
inductive ErrorKind where
  | recoverable
  | unsupportedRequest
  | fatal
  deriving DecidableEq, Repr

def ErrorKind.name : ErrorKind → String
  | recoverable => "recoverable"
  | unsupportedRequest => "unsupported_request"
  | fatal => "fatal"

inductive DecompileError where
  | load (cause : LoadError)
  | analysis (type : TypeName) (cause : AnalysisError)
  | dump (type : TypeName) (cause : IoError)
  | noSuchMethod (name : String)
  | cannotCreateSink (cause : SinkError)
  deriving DecidableEq, Repr

/-- A text with its chain of causes on one line; a cause the line ends with adds nothing. -/
def describeChain (text : String) (causes : List String) : String :=
  causes.foldl (fun out c => if c.toList.isSuffixOf out.toList then out else out ++ ": " ++ c) text

def LoadError.describe (e : LoadError) : String := describeChain e.message e.causes

namespace DecompileError

def message : DecompileError → String
  | load c => c.message
  | analysis t _ => "failed to analyse " ++ t.raw
  | dump t _ => "failed to write output for " ++ t.raw
  | noSuchMethod n => "No such method '" ++ n ++ "'."
  | cannotCreateSink c => c.message

def causes : DecompileError → List String
  | load c => c.causes
  | analysis _ c => [c.message]
  | dump _ c => [c.message]
  | noSuchMethod _ => []
  | cannotCreateSink c => [c.cause.message]

def describe (e : DecompileError) : String := describeChain e.message e.causes

def kind : DecompileError → ErrorKind
  | cannotCreateSink _ => .fatal
  | noSuchMethod _ => .unsupportedRequest
  | load _ | analysis .. | dump .. => .recoverable

def isFatal (e : DecompileError) : Bool := e.kind == .fatal

end DecompileError

end ClassSkeleton
