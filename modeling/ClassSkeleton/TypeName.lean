import ClassSkeleton.Path

/-
  ClassSkeleton.TypeName — names of classes and interfaces.

  A type is named by its dotted raw form, `a.b.Outer$Inner`: the package is what stands
  before the last dot, the simple name what stands after it, `$` signs included. The
  outermost type is judged by the first `$` of the simple name, unless it starts it.
-/

namespace ClassSkeleton

structure TypeName where
  raw : String
  deriving DecidableEq, Repr, Hashable, Inhabited

/-- `s` with every `a` made a `b`. -/
def swapChar (a b : Char) (s : List Char) : List Char := s.map fun c => if c = a then b else c

theorem swapChar_swapChar {a b : Char} {s : List Char} (h : b ∉ s) : swapChar b a (swapChar a b s) = s := by
  induction s with
  | nil => rfl
  | cons c cs ih =>
    simp only [List.mem_cons, not_or] at h
    have hcs := ih h.2
    simp only [swapChar, List.map_cons] at hcs ⊢
    rw [hcs]
    by_cases hc : c = a
    · simp [hc]
    · simp [hc, Ne.symm h.1]

theorem swapChar_of_not_mem {a b : Char} {s : List Char} (h : a ∉ s) : swapChar a b s = s := by
  refine (List.map_congr_left fun c hc => ?_).trans (List.map_id s)
  exact if_neg fun he : c = a => h (he ▸ hc)

theorem not_mem_swapChar {a b : Char} (h : a ≠ b) (s : List Char) : a ∉ swapChar a b s := by
  intro hm
  obtain ⟨c, -, hc⟩ := List.mem_map.1 hm
  by_cases hca : c = a
  · rw [if_pos hca] at hc
    exact h hc.symm
  · rw [if_neg hca] at hc
    exact hca hc

/-- Drops every `.class` at the end of a text given backwards. -/
def dropClassSuffix : List Char → List Char
  | 's' :: 's' :: 'a' :: 'l' :: 'c' :: '.' :: rest => dropClassSuffix rest
  | s => s

namespace TypeName

def chars (t : TypeName) : List Char := t.raw.toList

def ofChars (cs : List Char) : TypeName := ⟨String.ofList cs⟩

/-- From the slashed form `a/b/C`. -/
def ofInternal (s : String) : TypeName := ofChars (swapChar '/' '.' s.toList)

/-- From the name of an archive entry, `a/b/C.class`. -/
def ofEntry (s : String) : TypeName :=
  ofChars (swapChar '/' '.' (dropClassSuffix s.toList.reverse).reverse)

def package (t : TypeName) : Option String := (Text.cutLast '.' t.chars).map fun (p, _) => String.ofList p

def simpleChars (t : TypeName) : List Char :=
  match Text.cutLast '.' t.chars with
  | some (_, s) => s
  | none => t.chars

def simpleName (t : TypeName) : String := String.ofList t.simpleChars

def outermost (t : TypeName) : TypeName :=
  match Text.cutFirst '$' t.simpleChars with
  | some (c :: cs, _) =>
    match t.package with
    | some p => ⟨p ++ "." ++ String.ofList (c :: cs)⟩
    | none => ofChars (c :: cs)
  | _ => t

/-- The spelling in source: nested types are separated by dots too. -/
def javaName (t : TypeName) : String := String.ofList (swapChar '$' '.' t.chars)

/-- The archive entry, and the path below a class root, of the type's class file. -/
def entryPath (t : TypeName) : String := String.ofList (swapChar '.' '/' t.chars) ++ ".class"

/-- The segments of a package name. -/
def packageParts (p : String) : List String := (Text.splitAll '.' p.toList).map String.ofList

/-- The file the type's source is written to, below the output root. -/
def sourcePath (t : TypeName) : Path :=
  let dir : Path := match t.package with
    | some p => (packageParts p).foldl (fun (d : Path) part => d.join ⟨part⟩) ⟨""⟩
    | none => ⟨""⟩
  dir.join ⟨t.simpleName ++ ".java"⟩

def le (a b : TypeName) : Bool := a.raw ≤ b.raw

end TypeName

end ClassSkeleton
