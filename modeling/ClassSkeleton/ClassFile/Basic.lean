import ClassSkeleton.TypeName

/-
  ClassSkeleton.ClassFile.Basic — what is kept of a class file.

  The declarations: versions, flags, names, members, the table of nested classes and the
  source file. Instructions are never decoded: a method's `Code` attribute stays a byte
  string, the heavy part that can be dropped once the class is written.
-/

namespace ClassSkeleton

namespace Access

def isPublic : Nat := 0x0001
def isPrivate : Nat := 0x0002
def isProtected : Nat := 0x0004
def isStatic : Nat := 0x0008
def isFinal : Nat := 0x0010
def isSynchronized : Nat := 0x0020
def isVolatile : Nat := 0x0040
def isBridge : Nat := 0x0040
def isTransient : Nat := 0x0080
def isVarargs : Nat := 0x0080
def isNative : Nat := 0x0100
def isInterface : Nat := 0x0200
def isAbstract : Nat := 0x0400
def isSynthetic : Nat := 0x1000
def isAnnotationType : Nat := 0x2000
def isEnum : Nat := 0x4000

/-- Whether the flag word `access` has a bit in common with `flag`. -/
def has (access flag : Nat) : Bool := access &&& flag != 0

end Access

/-- A field or a method. -/
structure Member where
  access : Nat
  name : String
  descriptor : String
  /-- The payload of the `Code` attribute. -/
  code : Option (List UInt8)
  deriving DecidableEq, Repr

namespace Member

def has (m : Member) (flag : Nat) : Bool := Access.has m.access flag

/-- The length of the bytecode, which bytes 4 to 7 of the `Code` payload hold. -/
def codeLength (m : Member) : Option Nat :=
  match m.code with
  | some (_ :: _ :: _ :: _ :: a :: b :: c :: d :: _) =>
    some (((a.toNat * 256 + b.toNat) * 256 + c.toNat) * 256 + d.toNat)
  | _ => none

end Member

/-- A row of the table of nested classes. -/
structure NestEntry where
  inner : TypeName
  outer : Option TypeName
  /-- `none` for anonymous classes. -/
  simpleName : Option String
  access : Nat
  deriving DecidableEq, Repr

structure ClassFile where
  minorVersion : Nat
  majorVersion : Nat
  access : Nat
  thisClass : TypeName
  superClass : Option TypeName
  interfaces : List TypeName
  fields : List Member
  methods : List Member
  nest : List NestEntry
  sourceFile : Option String
  deriving DecidableEq, Repr

namespace ClassFile

def has (c : ClassFile) (flag : Nat) : Bool := Access.has c.access flag

/-- The row that describes the class itself. -/
def nestEntry (c : ClassFile) : Option NestEntry := c.nest.find? fun e => e.inner == c.thisClass

/-- Whether the class is nested: its own table says so, never its name. -/
def isInner (c : ClassFile) : Bool := c.nestEntry.isSome

/-- Whether `e` is a row of a class directly inside `owner`. A row without an outer class, as
local and anonymous classes have, counts by its name: `owner$` and no further `$`. -/
def declaresInner (owner : TypeName) (e : NestEntry) : Bool :=
  e.inner != owner &&
    match e.outer with
    | some o => o == owner
    | none =>
      let front := owner.chars ++ ['$']
      front.isPrefixOf e.inner.chars && !(e.inner.chars.drop front.length).contains '$'

def declaredInner (c : ClassFile) : List NestEntry := c.nest.filter (declaresInner c.thisClass)

/-- The superclass, then the interfaces. -/
def supertypes (c : ClassFile) : List TypeName := c.superClass.toList ++ c.interfaces

/-- The class without its method bodies. -/
def releaseCode (c : ClassFile) : ClassFile :=
  { c with methods := c.methods.map fun m => { m with code := none } }

end ClassFile

end ClassSkeleton
