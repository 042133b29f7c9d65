import ClassSkeleton.Error
import ClassSkeleton.Naming

/-
  ClassSkeleton.Model — the declaration of a class, rebuilt.

  What the source of the class declared: kind, modifiers, name, supertypes, constants, fields,
  methods with the length of their bytecode, and the classes nested in it. Members the compiler
  made (synthetic, bridges, `values` and `valueOf` of an enum) are left out, and names come from
  the naming pass where it gave one. Building fails on the first shown member whose descriptor is
  malformed, fields before methods.
-/

namespace ClassSkeleton

inductive ClassKind where
  | plain
  | interface
  | enum
  | annotationType
  deriving DecidableEq, Repr

def ClassKind.keyword : ClassKind → String
  | plain => "class"
  | interface => "interface"
  | enum => "enum"
  | annotationType => "@interface"

inductive MethodKind where
  | constructor
  | staticInitializer
  | plain
  deriving DecidableEq, Repr

structure FieldModel where
  modifiers : List String
  type : JavaType
  name : String
  /-- The name in the class file, before any renaming. -/
  ownName : String
  deriving DecidableEq, Repr

structure MethodModel where
  kind : MethodKind
  modifiers : List String
  name : String
  /-- The name in the class file, before any renaming. -/
  ownName : String
  returnType : Option JavaType
  params : List JavaType
  varargs : Bool
  /-- `none` when the method has no body. -/
  codeLength : Option Nat
  deriving DecidableEq, Repr

structure ClassModel where
  type : TypeName
  kind : ClassKind
  modifiers : List String
  /-- The inner name of a nested class, else the simple name. -/
  declaredName : String
  anonymous : Bool
  sourceFile : Option String
  majorVersion : Nat
  minorVersion : Nat
  superClass : Option JavaType
  interfaces : List JavaType
  enumConstants : List String
  fields : List FieldModel
  methods : List MethodModel
  inner : List ClassModel
  deriving Repr

namespace Modifiers

def visibility (flags : Nat) : List String :=
  if Access.has flags Access.isPublic then ["public"]
  else if Access.has flags Access.isProtected then ["protected"]
  else if Access.has flags Access.isPrivate then ["private"]
  else []

/-- The words of the flags that are set, in the given order. -/
def words (flags : Nat) (table : List (Nat × String)) : List String :=
  (table.filter fun e => Access.has flags e.1).map (·.2)

def ofClass (flags : Nat) (kind : ClassKind) : List String :=
  visibility flags ++
    if kind = .plain then
      words flags [(Access.isStatic, "static"), (Access.isAbstract, "abstract"), (Access.isFinal, "final")]
    else []

def ofField (flags : Nat) : List String :=
  visibility flags ++ words flags [(Access.isStatic, "static"), (Access.isFinal, "final"),
    (Access.isVolatile, "volatile"), (Access.isTransient, "transient")]

def ofMethod (flags : Nat) : List String :=
  visibility flags ++ words flags [(Access.isStatic, "static"), (Access.isFinal, "final"),
    (Access.isSynchronized, "synchronized"), (Access.isNative, "native"), (Access.isAbstract, "abstract")]

end Modifiers

namespace ClassModel

def methodsNamed (m : ClassModel) (name : String) : List MethodModel :=
  m.methods.filter fun x => x.ownName == name

/-- The flags of the declaration. A nested class keeps `static`, `private` and `protected` only
in its row of the nest table. -/
def flagsOf (c : ClassFile) : Nat :=
  match c.nestEntry with
  | some e => e.access ||| (c.access &&& Access.isInterface)
  | none => c.access

def kindOf (flags : Nat) : ClassKind :=
  if Access.has flags Access.isAnnotationType then .annotationType
  else if Access.has flags Access.isInterface then .interface
  else if Access.has flags Access.isEnum then .enum
  else .plain

def isInterfaceKind (k : ClassKind) : Bool := k == .interface || k == .annotationType

/-- The superclass worth writing: not `Object`, not `Enum` for an enum, none for interfaces. -/
def shownSuper (kind : ClassKind) (superClass : Option TypeName) : Option JavaType :=
  match superClass with
  | none => none
  | some s =>
    if s.raw = "java.lang.Object" ∨ (kind = .enum ∧ s.raw = "java.lang.Enum") ∨ isInterfaceKind kind then none
    else some (.object s)

def shownInterfaces (kind : ClassKind) (interfaces : List TypeName) : List JavaType :=
  (interfaces.filter fun i => !(kind == .annotationType && i.raw == "java.lang.annotation.Annotation")).map .object

/-- A field the declaration shows. -/
def isShownField (f : Member) : Bool := !f.has Access.isSynthetic

def isConstant (kind : ClassKind) (f : Member) : Bool := kind == .enum && f.has Access.isEnum

def finalFieldName (naming : Naming) (type : TypeName) (f : Member) : String :=
  (naming.fieldName type f.name f.descriptor).getD f.name

def finalMethodName (naming : Naming) (type : TypeName) (m : Member) : String :=
  (naming.methodName type m.name m.descriptor).getD m.name

def buildField (naming : Naming) (type : TypeName) (f : Member) : Except DescriptorError FieldModel := do
  let t ← Descriptor.parseField f.descriptor
  pure ⟨Modifiers.ofField f.access, t, finalFieldName naming type f, f.name⟩

/-- The methods an enum has without declaring them. -/
def isEnumBoilerplate (m : Member) : Bool :=
  m.has Access.isStatic &&
    ((m.name == "values" && "()[".toList.isPrefixOf m.descriptor.toList) ||
      (m.name == "valueOf" && "(Ljava/lang/String;)".toList.isPrefixOf m.descriptor.toList))

def isShownMethod (kind : ClassKind) (m : Member) : Bool :=
  !m.has Access.isSynthetic && !m.has Access.isBridge && !(kind == .enum && isEnumBoilerplate m)

def methodKindOf (name : String) : MethodKind :=
  if name = "<init>" then .constructor else if name = "<clinit>" then .staticInitializer else .plain

/-- In an interface `abstract` goes without saying and a body makes a method `default`. -/
def methodModifiers (kind : ClassKind) (m : Member) : List String :=
  let all := Modifiers.ofMethod m.access
  if isInterfaceKind kind then
    all.filter (· != "abstract") ++
      if m.code.isSome && !m.has Access.isStatic && !m.has Access.isPrivate then ["default"] else []
  else all

def buildMethod (naming : Naming) (type : TypeName) (kind : ClassKind) (m : Member) :
    Except DescriptorError MethodModel := do
  let d ← Descriptor.parseMethod m.descriptor
  pure ⟨methodKindOf m.name, methodModifiers kind m, finalMethodName naming type m, m.name, d.ret, d.params,
    m.has Access.isVarargs, m.codeLength⟩

/-- The model of `c` around the models of the classes nested in it. -/
def build (c : ClassFile) (naming : Naming) (inner : List ClassModel) : Except DescriptorError ClassModel := do
  let flags := flagsOf c
  let kind := kindOf flags
  let shown := c.fields.filter isShownField
  let fields ← (shown.filter fun f => !isConstant kind f).mapM (buildField naming c.thisClass)
  let methods ← (c.methods.filter (isShownMethod kind)).mapM (buildMethod naming c.thisClass kind)
  pure {
    type := c.thisClass
    kind := kind
    modifiers := Modifiers.ofClass flags kind
    declaredName := (c.nestEntry.bind (·.simpleName)).getD c.thisClass.simpleName
    anonymous := c.nestEntry.any (·.simpleName.isNone)
    sourceFile := c.sourceFile
    majorVersion := c.majorVersion
    minorVersion := c.minorVersion
    superClass := shownSuper kind c.superClass
    interfaces := shownInterfaces kind c.interfaces
    enumConstants := (shown.filter (isConstant kind)).map (finalFieldName naming c.thisClass)
    fields := fields
    methods := methods
    inner := inner }

end ClassModel

end ClassSkeleton
