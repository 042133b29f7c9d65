import ClassSkeleton.ClassFile.Basic
import ClassSkeleton.ClassFile.Pool

/-
  ClassSkeleton.ClassFile.Parse — from bytes to a class file.

  The layout in order: magic, versions, constant pool, flags, this class, superclass (0 for
  none), interfaces, fields, methods, attributes. Of several attributes of one name the last
  counts. What follows the last attribute is not looked at.
-/

namespace ClassSkeleton

namespace ClassFile

def magic : Nat := 0xCAFEBABE

/-- An attribute: its name and its payload. -/
def rawAttribute (pool : Pool) : Reader (String × List UInt8) := do
  let name ← pool.utf8 (← Reader.u2)
  let length ← Reader.u4
  let body ← Reader.take length
  pure (name, body)

/-- The payload of the last attribute called `name`. -/
def lastNamed (name : String) (attributes : List (String × List UInt8)) : Option (List UInt8) :=
  (attributes.reverse.find? fun a => a.1 == name).map (·.2)

def member (pool : Pool) : Reader Member := do
  let access ← Reader.u2
  let name ← pool.utf8 (← Reader.u2)
  let descriptor ← pool.utf8 (← Reader.u2)
  let count ← Reader.u2
  let attributes ← Reader.times count (rawAttribute pool)
  pure ⟨access, name, descriptor, lastNamed "Code" attributes⟩

def members (pool : Pool) : Reader (List Member) := do
  let count ← Reader.u2
  Reader.times count (member pool)

def nestRow (pool : Pool) : Reader NestEntry := do
  let inner ← pool.className (← Reader.u2)
  let outerIndex ← Reader.u2
  let nameIndex ← Reader.u2
  let access ← Reader.u2
  let outer ← Pool.optional pool.className outerIndex
  let simpleName ← Pool.optional pool.utf8 nameIndex
  pure ⟨inner, outer, simpleName, access⟩

def nestTable (pool : Pool) : Reader (List NestEntry) := do
  let count ← Reader.u2
  Reader.times count (nestRow pool)

/-- A class attribute, as far as it is looked into. -/
inductive ClassAttribute where
  | nest (entries : List NestEntry)
  | source (file : String)
  | other
  deriving DecidableEq, Repr

def classAttribute (pool : Pool) : Reader ClassAttribute := do
  let (name, body) ← rawAttribute pool
  if name = "InnerClasses" then .nest <$> Reader.within body (nestTable pool)
  else if name = "SourceFile" then
    .source <$> Reader.within body (do pool.utf8 (← Reader.u2))
  else pure .other

/-- The table of the last `InnerClasses` attribute; empty without one. -/
def lastNest (attributes : List ClassAttribute) : List NestEntry :=
  (attributes.reverse.findSome? fun | .nest es => some es | _ => none).getD []

def lastSource (attributes : List ClassAttribute) : Option String :=
  attributes.reverse.findSome? fun | .source s => some s | _ => none

def reader : Reader ClassFile := do
  let found ← Reader.u4
  if found ≠ magic then Reader.fail (.badMagic found)
  else
    let minorVersion ← Reader.u2
    let majorVersion ← Reader.u2
    let pool ← Pool.read
    let access ← Reader.u2
    let thisClass ← pool.className (← Reader.u2)
    let superClass ← Pool.optional pool.className (← Reader.u2)
    let interfaceCount ← Reader.u2
    let interfaces ← Reader.times interfaceCount (do pool.className (← Reader.u2))
    let fields ← members pool
    let methods ← members pool
    let attributeCount ← Reader.u2
    let attributes ← Reader.times attributeCount (classAttribute pool)
    pure { minorVersion, majorVersion, access, thisClass, superClass, interfaces, fields, methods,
           nest := lastNest attributes, sourceFile := lastSource attributes }

/-- The class file, and where reading stopped. -/
def parseFrom (bytes : List UInt8) : Except ClassFormatError (ClassFile × Cursor) := reader ⟨bytes, 0⟩

def parse (bytes : List UInt8) : Except ClassFormatError ClassFile := (parseFrom bytes).map (·.1)

end ClassFile

end ClassSkeleton
