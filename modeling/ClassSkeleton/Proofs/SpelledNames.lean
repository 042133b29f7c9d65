import ClassSkeleton.Proofs.TypeSpelling

/-
  ClassSkeleton.Proofs.SpelledNames — no name a printer asks for is missing.

  A usage has a spelling for each type it was collected from, and writes any other type in full. The printer here has
  only a table of spellings to go by and nothing to fall back on: it fails on the first name that is not there
  (`sourceFrom`, `methodFrom`). It goes through a class as a listing does, and where a listing takes a spelling from the
  usage it asks the table. So it asks for some names and no others, and with their spellings at hand it gives the
  listing (`Asks`), whatever the class and however deep it is nested (`asks_declarationFrom`).

  The names it asks for are those of supertypes, fields, and the return and parameter types of methods, arrays and the
  last parameters of varargs methods included, and the same of the classes inside (`asked`). The return type of a
  constructor and the signature of a static initializer are not printed. All of these names were collected
  (`uses_of_asked`). So the table of a class's usage is enough to print the class and each of its methods
  (`no_name_unspelled`).
-/

namespace ClassSkeleton

namespace Listing

/-! ## The printer without a fallback -/

/-- What can be printed with a table of spellings alone. -/
abbrev FromTable := ReaderT (TypeName → Option String) Option

def nameFrom (t : TypeName) : FromTable String := fun table => table t

def typeFrom : JavaType → FromTable String
  | .primitive p => pure p.keyword
  | .object n => nameFrom n
  | .array t => do return (← typeFrom t) ++ "[]"

def parameterTypeFrom (dots : Bool) : JavaType → FromTable String
  | .array t => if dots then do return (← typeFrom t) ++ "..." else typeFrom (.array t)
  | t => typeFrom t

def parametersFrom (m : MethodModel) : FromTable (List String) :=
  m.params.zipIdx.mapM fun (t, i) => do
    return (← parameterTypeFrom (m.varargs && i + 1 == m.params.length) t) ++ " arg" ++ toString i

def returnTypeFrom : Option JavaType → FromTable String
  | some t => typeFrom t
  | none => pure "void"

def methodFrom (policy : IdentifierPolicy) (owner : String) (depth : Nat) (m : MethodModel) : FromTable String :=
  let body := methodBody depth m.codeLength
  match m.kind with
  | .staticInitializer => pure (pad depth ++ "static" ++ body)
  | .constructor => do
    let params ← parametersFrom m
    return pad depth ++ modifierFront m.modifiers ++ policy.apply owner ++ "(" ++ commaList params ++ ")" ++ body
  | .plain => do
    let params ← parametersFrom m
    let ret ← returnTypeFrom m.returnType
    return pad depth ++ modifierFront m.modifiers ++ ret ++ " " ++ policy.apply m.name ++ "(" ++
      commaList params ++ ")" ++ body

def extendsFrom : Option JavaType → FromTable String
  | some s => do return " extends " ++ (← typeFrom s)
  | none => pure ""

def headerFrom (policy : IdentifierPolicy) (m : ClassModel) : FromTable String := do
  let supers ← extendsFrom m.superClass
  let names ← m.interfaces.mapM typeFrom
  let interfaces :=
    if m.interfaces.isEmpty then ""
    else (if ClassModel.isInterfaceKind m.kind then " extends " else " implements ") ++ commaList names
  return modifierFront m.modifiers ++ m.kind.keyword ++ " " ++ policy.apply m.declaredName ++ supers ++ interfaces

def fieldFrom (policy : IdentifierPolicy) (depth : Nat) (f : FieldModel) : FromTable String := do
  return pad depth ++ indent ++ modifierFront f.modifiers ++ (← typeFrom f.type) ++ " " ++ policy.apply f.name ++ ";\n"

mutual

def declarationFrom (policy : IdentifierPolicy) (depth : Nat) : ClassModel → FromTable (List String)
  | m@⟨_, _, _, _, _, _, _, _, _, _, _, _, _, inner⟩ => do
    let head ← headerFrom policy m
    let fields ← m.fields.mapM (fieldFrom policy depth)
    let methods ← m.methods.mapM (methodFrom policy m.declaredName (depth + 1))
    let nested ← declarationsFrom policy (depth + 1) inner
    return (if m.anonymous then [pad depth ++ "/* anonymous */\n"] else []) ++ [pad depth ++ head ++ " \x7b\n"] ++
      spaced (constantSection policy depth m :: fields :: methods.map (fun x => [x]) ++ nested) ++
      [pad depth ++ "\x7d\n"]

def declarationsFrom (policy : IdentifierPolicy) (depth : Nat) : List ClassModel → FromTable (List (List String))
  | [] => return []
  | m :: rest => do
    let first ← declarationFrom policy depth m
    let others ← declarationsFrom policy depth rest
    return first :: others

end

/-- A whole source file; what it imports comes with the table. -/
def sourceFrom (imports : List TypeName) (policy : IdentifierPolicy) (m : ClassModel) : FromTable (List String) := do
  let version := toString m.majorVersion ++ "." ++ toString m.minorVersion
  let origin := match m.sourceFile with
    | some s => " * Compiled from " ++ s ++ " (class file version " ++ version ++ ").\n */\n"
    | none => " * Class file version " ++ version ++ ".\n */\n"
  let package := match m.type.package with
    | some p => ["package " ++ p ++ ";\n\n"]
    | none => []
  let lines := imports.map fun t => "import " ++ t.javaName ++ ";\n"
  let pieces ← declarationFrom policy 0 m
  return ["/*\n * Decompiled with " ++ versionLine ++ ".\n", origin] ++ package ++ lines ++
    (if lines.isEmpty then [] else ["\n"]) ++ pieces

/-! ## Names that are asked for -/

/-- The printer asks for these names: it fails if one is missing, and with the spellings of a usage for all of them it
prints what is printed with that usage. -/
structure Asks {α : Type} (x : FromTable α) (names : List TypeName) (printed : Usage → α) : Prop where
  found : ∀ table u, (∀ t ∈ names, table t = some (u.spell t)) → x table = some (printed u)
  missing : ∀ table, (∃ t ∈ names, table t = none) → x table = none

namespace Asks

variable {α β : Type} {x : FromTable α} {names more : List TypeName} {printed : Usage → α}

theorem pure (a : α) : Asks (Pure.pure a) [] fun _ => a :=
  ⟨fun _ _ _ => rfl, fun _ ⟨_, h, _⟩ => by cases h⟩

theorem name (t : TypeName) : Asks (nameFrom t) [t] (·.spell t) :=
  ⟨fun _ _ h => h t List.mem_cons_self, fun _ ⟨_, h, hnone⟩ => List.mem_singleton.1 h ▸ hnone⟩

/-- One after the other; what the second asks for may not depend on what the first one printed. -/
theorem bind {f : α → FromTable β} {rest : α → Usage → β} (hx : Asks x names printed)
    (hf : ∀ a, Asks (f a) more (rest a)) : Asks (x >>= f) (names ++ more) fun u => rest (printed u) u := by
  have happly (table : TypeName → Option String) : (x >>= f) table = (x table).bind fun a => f a table := rfl
  refine ⟨fun table u h => ?_, fun table ⟨t, ht, hnone⟩ => ?_⟩
  · rw [happly, hx.found table u fun t ht => h t (List.mem_append_left _ ht), Option.bind_some]
    exact (hf _).found table u fun t ht => h t (List.mem_append_right _ ht)
  · rw [happly]
    rcases List.mem_append.1 ht with ht | ht
    · rw [hx.missing table ⟨t, ht, hnone⟩, Option.bind_none]
    · cases x table with
      | none => rfl
      | some a => exact (hf a).missing table ⟨t, ht, hnone⟩

theorem map (hx : Asks x names printed) (f : α → β) : Asks (do return f (← x)) names fun u => f (printed u) := by
  have h := hx.bind fun a => pure (f a)
  rwa [List.append_nil] at h

theorem mapM {f : β → FromTable α} {ask : β → List TypeName} {print : β → Usage → α}
    (h : ∀ b, Asks (f b) (ask b) (print b)) (l : List β) : Asks (l.mapM f) (l.flatMap ask) fun u => l.map (print · u) := by
  induction l with
  | nil => exact pure []
  | cons b l ih =>
    rw [List.mapM_cons]
    exact (h b).bind fun a => ih.map (a :: ·)

/-- It prints if and only if no name is missing. -/
theorem isSome_iff (hx : Asks x names printed) (table : TypeName → Option String) :
    (x table).isSome = true ↔ ∀ t ∈ names, (table t).isSome = true := by
  constructor
  · intro h t ht
    by_contra hnone
    rw [hx.missing table ⟨t, ht, Option.not_isSome_iff_eq_none.1 hnone⟩] at h
    cases h
  · intro h
    have hfound := hx.found table ⟨[], names.map fun t => (t, (table t).getD "")⟩ fun t ht => by
      obtain ⟨text, htext⟩ := Option.isSome_iff_exists.1 (h t ht)
      rw [Usage.spell, Table.get?_map_self _ ht, htext]
      rfl
    rw [hfound]
    rfl

end Asks

/-! ### Members -/

def namesIn (ts : List JavaType) : List TypeName := ts.flatMap fun t => t.referenced.toList

theorem mem_namesIn {ts : List JavaType} {t : TypeName} : t ∈ namesIn ts ↔ ∃ j ∈ ts, j.referenced = some t := by
  simp only [namesIn, List.mem_flatMap, Option.mem_toList]

theorem namesIn_singleton (t : JavaType) : namesIn [t] = t.referenced.toList := List.flatMap_singleton ..

theorem asks_typeFrom (t : JavaType) : Asks (typeFrom t) t.referenced.toList (·.spellType t) := by
  induction t with
  | primitive p => exact .pure _
  | object n => exact .name n
  | array t ih => exact ih.map (· ++ "[]")

theorem asks_parameterTypeFrom (dots : Bool) (t : JavaType) :
    Asks (parameterTypeFrom dots t) t.referenced.toList (parameterType · dots t) := by
  cases t with
  | primitive p => exact asks_typeFrom _
  | object n => exact asks_typeFrom _
  | array t =>
    cases dots with
    | false => exact asks_typeFrom _
    | true => exact (asks_typeFrom t).map (· ++ "...")

theorem asks_parametersFrom (m : MethodModel) : Asks (parametersFrom m) (namesIn m.params) (parameters · m) := by
  have h := Asks.mapM (fun e : JavaType × Nat =>
    (asks_parameterTypeFrom (m.varargs && e.2 + 1 == m.params.length) e.1).map (· ++ " arg" ++ toString e.2))
    m.params.zipIdx
  have hnames : (m.params.zipIdx.flatMap fun e => e.1.referenced.toList) = namesIn m.params := by
    rw [namesIn, ← List.zipIdx_map_fst 0 m.params, List.flatMap_map, List.zipIdx_map_fst]
  rwa [hnames] at h

theorem asks_returnTypeFrom (t : Option JavaType) :
    Asks (returnTypeFrom t) (namesIn t.toList) fun u => match t with
      | some t => u.spellType t
      | none => "void" := by
  cases t with
  | none => exact .pure _
  | some t =>
    rw [Option.toList_some, namesIn_singleton]
    exact asks_typeFrom t

/-- The names in what is printed of a method. -/
def askedByMethod (m : MethodModel) : List TypeName :=
  match m.kind with
  | .staticInitializer => []
  | .constructor => namesIn m.params
  | .plain => namesIn m.params ++ namesIn m.returnType.toList

theorem asks_methodFrom (policy : IdentifierPolicy) (owner : String) (depth : Nat) (m : MethodModel) :
    Asks (methodFrom policy owner depth m) (askedByMethod m) (method · policy owner depth m) := by
  unfold methodFrom askedByMethod method
  cases m.kind with
  | staticInitializer => exact .pure _
  | constructor => exact (asks_parametersFrom m).map _
  | plain => exact (asks_parametersFrom m).bind fun params => (asks_returnTypeFrom m.returnType).map _

/-! ### Declarations -/

def askedByHeader (m : ClassModel) : List TypeName := namesIn m.superClass.toList ++ namesIn m.interfaces

theorem asks_extendsFrom (t : Option JavaType) :
    Asks (extendsFrom t) (namesIn t.toList) fun u => match t with
      | some s => " extends " ++ u.spellType s
      | none => "" := by
  cases t with
  | none => exact .pure _
  | some t =>
    rw [Option.toList_some, namesIn_singleton]
    exact (asks_typeFrom t).map (" extends " ++ ·)

theorem asks_headerFrom (policy : IdentifierPolicy) (m : ClassModel) :
    Asks (headerFrom policy m) (askedByHeader m) (header · policy m) :=
  (asks_extendsFrom m.superClass).bind fun _ => (Asks.mapM asks_typeFrom m.interfaces).map _

theorem asks_fieldFrom (policy : IdentifierPolicy) (depth : Nat) (f : FieldModel) :
    Asks (fieldFrom policy depth f) f.type.referenced.toList (field · policy depth f) :=
  (asks_typeFrom f.type).map _

mutual

/-- The names in what is printed of a class. -/
def asked : ClassModel → List TypeName
  | m@⟨_, _, _, _, _, _, _, _, _, _, _, _, _, inner⟩ =>
    askedByHeader m ++ (namesIn (m.fields.map (·.type)) ++ (m.methods.flatMap askedByMethod ++ askedInside inner))

def askedInside : List ClassModel → List TypeName
  | [] => []
  | m :: rest => asked m ++ askedInside rest

end

theorem asks_fields (policy : IdentifierPolicy) (depth : Nat) (m : ClassModel) :
    Asks (m.fields.mapM (fieldFrom policy depth)) (namesIn (m.fields.map (·.type))) (fieldSection · policy depth m) := by
  have h := Asks.mapM (asks_fieldFrom policy depth) m.fields
  rwa [namesIn, List.flatMap_map]

/-- A declaration around what is nested in it. -/
theorem asks_around (policy : IdentifierPolicy) (depth : Nat) (m : ClassModel)
    (hinner : Asks (declarationsFrom policy (depth + 1) m.inner) (askedInside m.inner)
      (declarations · policy (depth + 1) m.inner)) :
    Asks (declarationFrom policy depth m) (asked m) (declaration · policy depth m) := by
  have h := (asks_headerFrom policy m).bind fun head => (asks_fields policy depth m).bind fun fields =>
    (Asks.mapM (asks_methodFrom policy m.declaredName (depth + 1)) m.methods).bind fun methods => hinner.map fun nested =>
      (if m.anonymous then [pad depth ++ "/* anonymous */\n"] else []) ++ [pad depth ++ head ++ " \x7b\n"] ++
        spaced (constantSection policy depth m :: fields :: methods.map (fun x => [x]) ++ nested) ++
        [pad depth ++ "\x7d\n"]
  cases m
  rw [declarationFrom, asked]
  simp only [List.map_map] at h
  simp only [declaration]
  exact h

mutual

theorem asks_declarationFrom (policy : IdentifierPolicy) (depth : Nat) :
    (m : ClassModel) → Asks (declarationFrom policy depth m) (asked m) (declaration · policy depth m)
  | ⟨_, _, _, _, _, _, _, _, _, _, _, _, _, inner⟩ =>
    asks_around policy depth _ (asks_declarationsFrom policy (depth + 1) inner)

theorem asks_declarationsFrom (policy : IdentifierPolicy) (depth : Nat) :
    (ms : List ClassModel) → Asks (declarationsFrom policy depth ms) (askedInside ms) (declarations · policy depth ms)
  | [] => .pure []
  | m :: rest => by
    rw [declarationsFrom, askedInside]
    simp only [declarations]
    exact (asks_declarationFrom policy depth m).bind fun first =>
      (asks_declarationsFrom policy depth rest).map (first :: ·)

end

/-- In front of the declaration a source has what its imports and the class decide. -/
theorem asks_sourceFrom (imports : List TypeName) (policy : IdentifierPolicy) (m : ClassModel) :
    ∃ front, (∀ u : Usage, u.imports = imports → source u policy m = front ++ declaration u policy 0 m) ∧
      Asks (sourceFrom imports policy m) (asked m) fun u => front ++ declaration u policy 0 m :=
  ⟨_, fun u hu => by subst hu; rfl, (asks_declarationFrom policy 0 m).map _⟩

/-! ## Names that were collected -/

variable {m : ClassModel} {t : TypeName}

theorem asked_eq (m : ClassModel) : asked m = askedByHeader m ++
    (namesIn (m.fields.map (·.type)) ++ (m.methods.flatMap askedByMethod ++ askedInside m.inner)) := by
  cases m
  rw [asked]

theorem mem_askedInside {models : List ClassModel} : t ∈ askedInside models ↔ ∃ k ∈ models, t ∈ asked k := by
  induction models with
  | nil => simp [askedInside]
  | cons k models ih => simp [askedInside, ih]

theorem refers_of_askedByMethod {x : MethodModel} (hx : x ∈ m.methods) (ht : t ∈ askedByMethod x) : m.Refers t := by
  unfold askedByMethod at ht
  split at ht
  · cases ht
  · obtain ⟨j, hj, hr⟩ := mem_namesIn.1 ht
    exact .param hx hj hr
  · rcases List.mem_append.1 ht with ht | ht
    · obtain ⟨j, hj, hr⟩ := mem_namesIn.1 ht
      exact .param hx hj hr
    · obtain ⟨j, hj, hr⟩ := mem_namesIn.1 ht
      exact .returned hx (Option.mem_toList.1 hj) hr

/-- Every position a name is printed at is one that types are collected from. -/
theorem uses_of_asked (ht : t ∈ asked m) : m.Uses t := by
  induction m using ClassModel.inner_induction with
  | step m ih =>
    rw [ClassModel.uses_iff]
    rw [asked_eq, askedByHeader] at ht
    simp only [List.mem_append] at ht
    rcases ht with (ht | ht) | ht | ht | ht
    · obtain ⟨j, hj, hr⟩ := mem_namesIn.1 ht
      exact .inl (.superClass (Option.mem_toList.1 hj) hr)
    · obtain ⟨j, hj, hr⟩ := mem_namesIn.1 ht
      exact .inl (.interface hj hr)
    · obtain ⟨j, hj, hr⟩ := mem_namesIn.1 ht
      obtain ⟨f, hf, rfl⟩ := List.mem_map.1 hj
      exact .inl (.field hf hr)
    · obtain ⟨x, hx, ht⟩ := List.mem_flatMap.1 ht
      exact .inl (refers_of_askedByMethod hx ht)
    · obtain ⟨k, hk, ht⟩ := mem_askedInside.1 ht
      exact .inr ⟨k, hk, ih k hk ht⟩

theorem asked_of_method {x : MethodModel} (hx : x ∈ m.methods) (ht : t ∈ askedByMethod x) : t ∈ asked m := by
  rw [asked_eq]
  exact List.mem_append_right _ (List.mem_append_right _ (List.mem_append_left _ (List.mem_flatMap.2 ⟨x, hx, ht⟩)))

theorem spellings_of_asked (ht : t ∈ asked m) :
    (Usage.collect m).spellings.get? t = some ((Usage.collect m).spell t) := by
  have hget := Usage.get?_spellings (uses_of_asked ht)
  rw [hget, Usage.spell, hget, Option.getD_some]

/-- Printing a class, or any of its methods, asks for no name that was not collected. With a table in the place of a
usage the class prints as it does with the usage, and it prints at all if and only if the table has every name it asks
for; the spellings collected from the class have them all, so its source and each of its methods come out the same
from these spellings alone. -/
theorem no_name_unspelled (policy : IdentifierPolicy) (m : ClassModel) :
    let u := Usage.collect m
    (∀ v : Usage, sourceFrom v.imports policy m (fun t => some (v.spell t)) = some (source v policy m)) ∧
    (∀ imports table, (sourceFrom imports policy m table).isSome = true ↔ ∀ t ∈ asked m, (table t).isSome = true) ∧
    (∀ t ∈ asked m, (u.spellings.get? t).isSome = true) ∧
    sourceFrom u.imports policy m u.spellings.get? = some (source u policy m) ∧
    ∀ x ∈ m.methods, Asks (methodFrom policy m.declaredName 0 x) (askedByMethod x) (method · policy m.declaredName 0 x) ∧
      (∀ t ∈ askedByMethod x, (u.spellings.get? t).isSome = true) ∧
      methodFrom policy m.declaredName 0 x u.spellings.get? = some (method u policy m.declaredName 0 x) := by
  have hhave {t : TypeName} (ht : t ∈ asked m) : ((Usage.collect m).spellings.get? t).isSome = true := by
    rw [spellings_of_asked ht, Option.isSome_some]
  refine ⟨fun v => ?_, fun imports table => ?_, fun t ht => hhave ht, ?_, fun x hx => ⟨?_, fun t ht => ?_, ?_⟩⟩
  · obtain ⟨front, hsource, hasks⟩ := asks_sourceFrom v.imports policy m
    rw [hsource v rfl]
    exact hasks.found _ v fun t _ => rfl
  · obtain ⟨_, -, hasks⟩ := asks_sourceFrom imports policy m
    exact hasks.isSome_iff table
  · obtain ⟨front, hsource, hasks⟩ := asks_sourceFrom (Usage.collect m).imports policy m
    rw [hsource _ rfl]
    exact hasks.found _ _ fun t ht => spellings_of_asked ht
  · exact asks_methodFrom policy m.declaredName 0 x
  · exact hhave (asked_of_method hx ht)
  · exact (asks_methodFrom policy m.declaredName 0 x).found _ _ fun t ht => spellings_of_asked (asked_of_method hx ht)

end Listing

end ClassSkeleton
