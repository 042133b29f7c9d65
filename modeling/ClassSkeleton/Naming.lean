import ClassSkeleton.ClassFile.Basic
import ClassSkeleton.Descriptor
import ClassSkeleton.Identifier
import ClassSkeleton.Table

/-
  ClassSkeleton.Naming — new names for the members of a working set.

  Names are assigned class by class, supertypes first, so that an override finds the name its
  ancestor got. A method takes the name an ancestor has for its name and descriptor; else, if it
  repeats the name and the parameters of an earlier method and the rule for duplicates is on, it
  gets a fresh name. Constants of an enum whose name is illegal or repeated become `CONSTANT_k`,
  and then repeated field names get fresh ones. Names given before stay known for types outside
  the set; those of the set are worked out anew.

  The walks over supertypes end because a type of the set is expanded at most once.
-/

namespace ClassSkeleton

structure NamingRules where
  duplicateMembers : Bool
  enumMembers : Bool
  deriving DecidableEq, Repr

/-- New names of one class: fields by `name:descriptor`, methods by name and descriptor run together. -/
structure Renames where
  fields : Table String String
  methods : Table String String
  deriving DecidableEq, Repr

def Renames.isEmpty (r : Renames) : Bool := r.fields.isEmpty && r.methods.isEmpty

/-- The names given so far, by declaring type. -/
structure Naming where
  classes : Table TypeName Renames
  deriving DecidableEq, Repr

/-- A working set, in ascending order of its types, each with its class file. -/
abbrev WorkingSet := List (TypeName × ClassFile)

namespace WorkingSet

/-- Puts a class in its place; a later class of the same type replaces an earlier one. -/
def insert (c : ClassFile) : WorkingSet → WorkingSet
  | [] => [(c.thisClass, c)]
  | (t, d) :: rest =>
    if c.thisClass = t then (t, c) :: rest
    else if c.thisClass.le t then (c.thisClass, c) :: (t, d) :: rest
    else (t, d) :: insert c rest

def ofList (classes : List ClassFile) : WorkingSet := classes.foldl (fun set c => insert c set) []

def get? (set : WorkingSet) (t : TypeName) : Option ClassFile := Table.get? set t

/-- The types of the set that are not in `seen`. -/
def unseen (set : WorkingSet) (seen : List TypeName) : List TypeName :=
  (set.map (·.1)).filter fun t => !seen.contains t

theorem unseen_lt {set : WorkingSet} {seen : List TypeName} {t : TypeName} {c : ClassFile}
    (hc : set.get? t = some c) (hs : t ∉ seen) : (set.unseen (t :: seen)).length < (set.unseen seen).length := by
  have hmem : t ∈ set.map (·.1) := Table.mem_keys_of_get? hc
  have hsub : set.unseen (t :: seen) = (set.unseen seen).filter fun u => u != t := by
    simp only [unseen, List.filter_filter]
    apply List.filter_congr
    intro u _
    by_cases h : u = t <;> simp [h]
  have hin : t ∈ set.unseen seen := by simp only [unseen, List.mem_filter]; exact ⟨hmem, by simpa using hs⟩
  rw [hsub]
  exact List.length_filter_lt_length_iff_exists.2 ⟨t, hin, by simp⟩

/-- A step of the walk that lists supertypes first: look at a type, or list it. -/
inductive Visit where
  | enter (type : TypeName)
  | leave (type : TypeName)
  deriving DecidableEq, Repr

/-- Works off the pending steps. A type entered for the first time has its supertypes in the set
entered before it is listed. -/
def walk (set : WorkingSet) (pending : List Visit) (seen order : List TypeName) : List TypeName :=
  match pending with
  | [] => order
  | .leave t :: rest => walk set rest seen (order ++ [t])
  | .enter t :: rest =>
    if _hs : t ∈ seen then walk set rest seen order
    else
      match _hc : set.get? t with
      | none => walk set rest seen order
      | some c =>
        let parents := c.supertypes.filter fun s => (set.get? s).isSome
        walk set (parents.map .enter ++ .leave t :: rest) (t :: seen) order
termination_by ((set.unseen seen).length, pending.length)
decreasing_by
  · exact Prod.Lex.right _ (by simp)
  · exact Prod.Lex.right _ (by simp)
  · exact Prod.Lex.right _ (by simp)
  · exact Prod.Lex.left _ _ (unseen_lt ‹_› ‹_›)

/-- Every type of the set, each after its supertypes. -/
def order (set : WorkingSet) : List TypeName := walk set (set.map fun e => .enter e.1) [] []

end WorkingSet

namespace Naming

def empty : Naming := ⟨[]⟩

def fieldKey (name descriptor : String) : String := name ++ ":" ++ descriptor

def methodKey (name descriptor : String) : String := name ++ descriptor

def fieldName (n : Naming) (t : TypeName) (name descriptor : String) : Option String :=
  (n.classes.get? t).bind fun r => r.fields.get? (fieldKey name descriptor)

def methodName (n : Naming) (t : TypeName) (name descriptor : String) : Option String :=
  (n.classes.get? t).bind fun r => r.methods.get? (methodKey name descriptor)

def renamedMembers (n : Naming) : Nat :=
  (n.classes.map fun e => e.2.fields.length + e.2.methods.length).foldl (· + ·) 0

/-- Looks for a new name among the pending types and, through classes of the set, their
supertypes. The type added last is looked at first. -/
def searchAncestors (n : Naming) (set : WorkingSet) (name descriptor : String) (pending seen : List TypeName) :
    Option String :=
  match pending with
  | [] => none
  | t :: rest =>
    if _hs : t ∈ seen then searchAncestors n set name descriptor rest seen
    else
      match n.methodName t name descriptor with
      | some found => some found
      | none =>
        match _hc : set.get? t with
        | none => searchAncestors n set name descriptor rest seen
        | some c => searchAncestors n set name descriptor (c.supertypes.reverse ++ rest) (t :: seen)
termination_by ((set.unseen seen).length, pending.length)
decreasing_by
  · exact Prod.Lex.right _ (by simp)
  · exact Prod.Lex.right _ (by simp)
  · exact Prod.Lex.left _ _ (WorkingSet.unseen_lt ‹_› ‹_›)

/-- The new name an ancestor of `c` has for a method. -/
def inheritedName (n : Naming) (set : WorkingSet) (c : ClassFile) (name descriptor : String) : Option String :=
  searchAncestors n set name descriptor c.supertypes.reverse []

/-- The first of `name 1`, `name 2`, … that is not taken, among as many as there are taken names
and one more. -/
def firstFree (taken : List String) (name : Nat → String) : (left n : Nat) → String
  | 0, n => name n
  | left + 1, n => if taken.contains (name n) then firstFree taken name left (n + 1) else name n

/-- `base_n` for the least positive `n` that makes it new. -/
def freshName (base : String) (taken : List String) : String :=
  firstFree taken (fun n => base ++ "_" ++ toString n) taken.length 1

/-- `CONSTANT_k`, or with the least positive `_n` behind it that makes it new. -/
def constantName (ordinal : Nat) (taken : List String) : String :=
  let plain := "CONSTANT_" ++ toString ordinal
  firstFree taken (fun n => if n = 0 then plain else plain ++ "_" ++ toString n) taken.length 0

/-- What is known while the methods of a class are named, one after another. -/
structure MethodPass where
  taken : List String
  seen : List (String × String)
  renames : Table String String
  deriving DecidableEq, Repr

def isSpecial (name : String) : Bool := name.toList.head? == some '<'

def nameMethod (n : Naming) (set : WorkingSet) (rules : NamingRules) (c : ClassFile) (p : MethodPass) (m : Member) :
    MethodPass :=
  if isSpecial m.name then p
  else
    let key := methodKey m.name m.descriptor
    match n.inheritedName set c m.name m.descriptor with
    | some inherited => { p with taken := inherited :: p.taken, renames := p.renames.put key inherited }
    | none =>
      let signature := (m.name, Descriptor.parameterPart m.descriptor)
      if p.seen.contains signature then
        if rules.duplicateMembers then
          let fresh := freshName m.name p.taken
          { p with taken := fresh :: p.taken, renames := p.renames.put key fresh }
        else p
      else { p with seen := signature :: p.seen }

def methodRenames (n : Naming) (set : WorkingSet) (rules : NamingRules) (c : ClassFile) : Table String String :=
  (c.methods.foldl (nameMethod n set rules c) ⟨c.methods.map (·.name), [], []⟩).renames

/-- What is known while the fields of a class are named. -/
structure FieldPass where
  taken : List String
  seen : List String
  renames : Table String String
  deriving DecidableEq, Repr

/-- A constant with a legal name that no earlier one has keeps it. -/
def nameConstant (p : FieldPass) (constant : Member × Nat) : FieldPass :=
  let (f, ordinal) := constant
  if Identifier.isLegal f.name && !p.seen.contains f.name then { p with seen := f.name :: p.seen }
  else
    let fresh := constantName ordinal p.taken
    { p with taken := fresh :: p.taken, renames := p.renames.put (fieldKey f.name f.descriptor) fresh }

def nameField (p : FieldPass) (f : Member) : FieldPass :=
  let key := fieldKey f.name f.descriptor
  if (p.renames.get? key).isSome then p
  else if p.seen.contains f.name then
    let fresh := freshName f.name p.taken
    { p with taken := fresh :: p.taken, renames := p.renames.put key fresh }
  else { p with seen := f.name :: p.seen }

def enumConstants (c : ClassFile) : List Member := c.fields.filter (·.has Access.isEnum)

/-- The constants of an enum first, then repeated names among all fields not renamed so far. -/
def fieldRenames (rules : NamingRules) (c : ClassFile) : Table String String :=
  let start : FieldPass := ⟨c.fields.map (·.name), [], []⟩
  let constants :=
    if rules.enumMembers && c.has Access.isEnum then (enumConstants c).zipIdx.foldl nameConstant start else start
  if rules.duplicateMembers then (c.fields.foldl nameField { constants with seen := [] }).renames
  else constants.renames

def assign (n : Naming) (set : WorkingSet) (rules : NamingRules) (c : ClassFile) : Renames :=
  ⟨fieldRenames rules c, methodRenames n set rules c⟩

/-- Names one class of the set; a class without new names has no entry. -/
def nameClass (set : WorkingSet) (rules : NamingRules) (n : Naming) (t : TypeName) : Naming :=
  match set.get? t with
  | none => n
  | some c =>
    let renames := n.assign set rules c
    if renames.isEmpty then ⟨n.classes.erase t⟩ else ⟨n.classes.put t renames⟩

/-- Names every class of the list, supertypes before subtypes. -/
def resolve (n : Naming) (classes : List ClassFile) (rules : NamingRules) : Naming :=
  let set := WorkingSet.ofList classes
  set.order.foldl (nameClass set rules) n

end Naming

end ClassSkeleton
