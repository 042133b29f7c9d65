import ClassSkeleton.TypeName

/-
  ClassSkeleton.Descriptor — field and method descriptors.

  A field descriptor is a primitive's letter, `L` name `;` or `[` before a descriptor; a
  method descriptor is its parameters in parentheses, then `V` or a descriptor. Names are
  written with `/` and read as dotted type names. `Renders` is the grammar of types as a
  relation; the readers consume a front of the text and hand back the rest.
-/

namespace ClassSkeleton

inductive Primitive where
  | boolean
  | byte
  | char
  | short
  | int
  | long
  | float
  | double
  deriving DecidableEq, Repr

namespace Primitive

def keyword : Primitive → String
  | boolean => "boolean"
  | byte => "byte"
  | char => "char"
  | short => "short"
  | int => "int"
  | long => "long"
  | float => "float"
  | double => "double"

def code : Primitive → Char
  | boolean => 'Z'
  | byte => 'B'
  | char => 'C'
  | short => 'S'
  | int => 'I'
  | long => 'J'
  | float => 'F'
  | double => 'D'

def ofCode? (c : Char) : Option Primitive :=
  [boolean, byte, char, short, int, long, float, double].find? fun p => p.code == c

end Primitive

inductive JavaType where
  | primitive (p : Primitive)
  | object (name : TypeName)
  | array (component : JavaType)
  deriving DecidableEq, Repr

namespace JavaType

/-- The class or interface a type mentions, looking through arrays. -/
def referenced : JavaType → Option TypeName
  | primitive _ => none
  | object n => some n
  | array t => t.referenced

/-- The number of array dimensions. -/
def dims : JavaType → Nat
  | array t => t.dims + 1
  | _ => 0

end JavaType

structure MethodType where
  params : List JavaType
  /-- `none` for `void`. -/
  ret : Option JavaType
  deriving DecidableEq, Repr

/-- A text that is no descriptor. -/
structure DescriptorError where
  descriptor : String
  deriving DecidableEq, Repr

namespace Descriptor

/-- `Renders t s`: `s` is a way to write `t`. -/
inductive Renders : JavaType → List Char → Prop where
  | primitive (p : Primitive) : Renders (.primitive p) [p.code]
  | object (name : List Char) (ne : name ≠ []) (free : ';' ∉ name) :
      Renders (.object (TypeName.ofChars (swapChar '/' '.' name))) ('L' :: name ++ [';'])
  | array {t : JavaType} {s : List Char} (h : Renders t s) : Renders (.array t) ('[' :: s)

/-- Reads one type at the front. -/
def readType : List Char → Option (JavaType × List Char)
  | [] => none
  | c :: rest =>
    if c = 'L' then
      match Text.cutFirst ';' rest with
      | some ([], _) | none => none
      | some (name, rest) => some (.object (TypeName.ofChars (swapChar '/' '.' name)), rest)
    else if c = '[' then (readType rest).map fun (t, rest) => (.array t, rest)
    else (Primitive.ofCode? c).map fun p => (.primitive p, rest)

theorem readType_length {s rest : List Char} {t : JavaType} (h : readType s = some (t, rest)) :
    rest.length < s.length := by
  induction s generalizing t rest with
  | nil => simp [readType] at h
  | cons c cs ih =>
    simp only [readType] at h
    split at h
    · split at h
      · simp at h
      · simp at h
      · next heq =>
        simp only [Option.some.injEq, Prod.mk.injEq] at h
        have := (Text.cutFirst_eq_some heq).1
        simp [this, ← h.2]
        omega
    · split at h
      · simp only [Option.map_eq_some_iff, Prod.exists, Prod.mk.injEq] at h
        obtain ⟨t', r', h', _, rfl⟩ := h
        have := ih h'
        simp; omega
      · simp only [Option.map_eq_some_iff, Prod.mk.injEq] at h
        obtain ⟨_, _, _, rfl⟩ := h
        simp

/-- Reads types up to a closing parenthesis and drops it. -/
def readParams (s : List Char) : Option (List JavaType × List Char) :=
  if s.head? = some ')' then some ([], s.tail)
  else
    match _h : readType s with
    | none => none
    | some (t, rest) => (readParams rest).map fun (ts, rest) => (t :: ts, rest)
termination_by s.length
decreasing_by exact readType_length ‹_›

def readReturn : List Char → Option (Option JavaType)
  | ['V'] => some none
  | s =>
    match readType s with
    | some (t, []) => some (some t)
    | _ => none

def field? (s : List Char) : Option JavaType :=
  match readType s with
  | some (t, []) => some t
  | _ => none

def method? : List Char → Option MethodType
  | '(' :: rest =>
    match readParams rest with
    | some (params, rest) => (readReturn rest).map fun ret => ⟨params, ret⟩
    | none => none
  | _ => none

def parseField (d : String) : Except DescriptorError JavaType :=
  match field? d.toList with
  | some t => .ok t
  | none => .error ⟨d⟩

def parseMethod (d : String) : Except DescriptorError MethodType :=
  match method? d.toList with
  | some m => .ok m
  | none => .error ⟨d⟩

/-- The parameter part of a method descriptor, `(II)` in `(II)V`; all of a text without one. -/
def parameterPart (d : String) : String :=
  match Text.cutFirst ')' d.toList with
  | some (before, _) => String.ofList (before ++ [')'])
  | none => d

end Descriptor

end ClassSkeleton
