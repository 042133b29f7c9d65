import ClassSkeleton.Usage
import ClassSkeleton.Version

/-
  ClassSkeleton.Listing — a class model as source text.

  A listing is the list of pieces in the order they are printed, so that a sink which fails has
  taken exactly a front of it. Nested declarations are indented by four blanks a level; a body is
  shown by the length of its bytecode.
-/

namespace ClassSkeleton

namespace Listing

def indent : String := "    "

def pad (depth : Nat) : String := String.join (List.replicate depth indent)

/-- Each modifier with a blank behind it. -/
def modifierFront (modifiers : List String) : String := String.join (modifiers.map (· ++ " "))

def commaList (items : List String) : String := ", ".intercalate items

/-- What follows a method's signature. -/
def methodBody (depth : Nat) : Option Nat → String
  | some length =>
    " \x7b\n" ++ pad depth ++ indent ++ "/* " ++ toString length ++ " bytes of bytecode */\n" ++ pad depth ++ "\x7d\n"
  | none => ";\n"

/-- A parameter type; the last one of a varargs method is written with dots. -/
def parameterType (u : Usage) (dots : Bool) : JavaType → String
  | .array t => if dots then u.spellType t ++ "..." else u.spellType (.array t)
  | t => u.spellType t

def parameters (u : Usage) (m : MethodModel) : List String :=
  m.params.zipIdx.map fun (t, i) =>
    parameterType u (m.varargs && i + 1 == m.params.length) t ++ " arg" ++ toString i

/-- A method of a class declared as `owner`, in one piece. -/
def method (u : Usage) (policy : IdentifierPolicy) (owner : String) (depth : Nat) (m : MethodModel) : String :=
  let body := methodBody depth m.codeLength
  match m.kind with
  | .staticInitializer => pad depth ++ "static" ++ body
  | .constructor =>
    pad depth ++ modifierFront m.modifiers ++ policy.apply owner ++ "(" ++ commaList (parameters u m) ++ ")" ++ body
  | .plain =>
    let ret := match m.returnType with
      | some t => u.spellType t
      | none => "void"
    pad depth ++ modifierFront m.modifiers ++ ret ++ " " ++ policy.apply m.name ++ "(" ++
      commaList (parameters u m) ++ ")" ++ body

def header (u : Usage) (policy : IdentifierPolicy) (m : ClassModel) : String :=
  let supers := match m.superClass with
    | some s => " extends " ++ u.spellType s
    | none => ""
  let interfaces :=
    if m.interfaces.isEmpty then ""
    else (if ClassModel.isInterfaceKind m.kind then " extends " else " implements ") ++
      commaList (m.interfaces.map u.spellType)
  modifierFront m.modifiers ++ m.kind.keyword ++ " " ++ policy.apply m.declaredName ++ supers ++ interfaces

def field (u : Usage) (policy : IdentifierPolicy) (depth : Nat) (f : FieldModel) : String :=
  pad depth ++ indent ++ modifierFront f.modifiers ++ u.spellType f.type ++ " " ++ policy.apply f.name ++ ";\n"

/-- The constants of an enum, on a line each; an enum with no member at all has no such section. -/
def constantSection (policy : IdentifierPolicy) (depth : Nat) (m : ClassModel) : List String :=
  if m.kind = .enum ∧ ¬(m.enumConstants.isEmpty ∧ m.fields.isEmpty ∧ m.methods.isEmpty) then
    [pad depth ++ indent ++ (",\n" ++ pad depth ++ indent).intercalate (m.enumConstants.map policy.apply) ++ ";\n"]
  else []

def fieldSection (u : Usage) (policy : IdentifierPolicy) (depth : Nat) (m : ClassModel) : List String :=
  m.fields.map (field u policy depth)

/-- The sections that are not empty, with an empty line between each two. -/
def spaced : List (List String) → List String
  | [] => []
  | [s] => s
  | s :: rest => if s.isEmpty then spaced rest else
    match spaced rest with
    | [] => s
    | more => s ++ "\n" :: more

mutual

def declaration (u : Usage) (policy : IdentifierPolicy) (depth : Nat) : ClassModel → List String
  | m@⟨_, _, _, _, _, _, _, _, _, _, _, _, _, inner⟩ =>
    (if m.anonymous then [pad depth ++ "/* anonymous */\n"] else []) ++
      [pad depth ++ header u policy m ++ " \x7b\n"] ++
      spaced (constantSection policy depth m :: fieldSection u policy depth m ::
        m.methods.map (fun x => [method u policy m.declaredName (depth + 1) x]) ++
          declarations u policy (depth + 1) inner) ++
      [pad depth ++ "\x7d\n"]

def declarations (u : Usage) (policy : IdentifierPolicy) (depth : Nat) : List ClassModel → List (List String)
  | [] => []
  | m :: rest => declaration u policy depth m :: declarations u policy depth rest

end

/-- A whole source file: a comment, the package, the imports and the declaration. -/
def source (u : Usage) (policy : IdentifierPolicy) (m : ClassModel) : List String :=
  let version := toString m.majorVersion ++ "." ++ toString m.minorVersion
  let origin := match m.sourceFile with
    | some s => " * Compiled from " ++ s ++ " (class file version " ++ version ++ ").\n */\n"
    | none => " * Class file version " ++ version ++ ".\n */\n"
  let package := match m.type.package with
    | some p => ["package " ++ p ++ ";\n\n"]
    | none => []
  let imports := u.imports.map fun t => "import " ++ t.javaName ++ ";\n"
  ["/*\n * Decompiled with " ++ versionLine ++ ".\n", origin] ++ package ++ imports ++
    (if imports.isEmpty then [] else ["\n"]) ++ declaration u policy 0 m

/-- Single methods, one piece each. -/
def methods (u : Usage) (policy : IdentifierPolicy) (m : ClassModel) (ms : List MethodModel) : List String :=
  ms.map (method u policy m.declaredName 0)

end Listing

end ClassSkeleton
