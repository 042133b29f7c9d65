import ClassSkeleton.Proofs.PrintedTexts
import ClassSkeleton.Proofs.ScriptedSinks

/-
  ClassSkeleton.Proofs.FailingWrites — a print that fails is the last one.

  The printer goes through a class and prints as it goes: the comment, the package, the imports, and of a declaration
  its header, its sections with empty lines between them, and at its end the brace, with the declarations nested in it
  among the sections (`printClass`, `printBody`). A print that fails ends it there, at whatever depth. It `Emits` a list
  of texts if it does what printing these one after another does; being put together is all that it takes
  (`emits_printBody`), so no print site of the printer goes unheard, and what it emits is the listing that a run
  prints.

  - `failing_write_stops`: over any outlet, the first print that fails decides the answer, nothing is printed behind
    it, and the outlet has taken the texts before it; if there is none, it has taken them all.
-/

namespace ClassSkeleton

/-- The outlet takes the texts one after another. -/
inductive Outlet.Takes {σ : Type} (o : Outlet σ) (sink : Nat) :
    Surroundings σ → List String → Surroundings σ → Prop where
  | nil (a : Surroundings σ) : Takes o sink a [] a
  | cons {a b c : Surroundings σ} {text : String} {rest : List String} (h : o.print sink text a = (.ok (), b))
      (hr : Takes o sink b rest c) : Takes o sink a (text :: rest) c

namespace World

variable {σ : Type} {o : Outlet σ}

/-! ## The printer -/

/-- Prints, and ends with the first print that fails. -/
abbrev Printer (σ : Type) := ExceptT IoError (Act σ)

/-- Prints on the sink in hand. -/
def put (o : Outlet σ) (text : String) : Printer σ Unit := fun w =>
  match print o text w with
  | (some r, v) => (r, v)
  | (none, v) => (.ok (), v)

def putEach (o : Outlet σ) : List String → Printer σ Unit
  | [] => pure ()
  | text :: rest => do
    put o text
    putEach o rest

def putIf (o : Outlet σ) (c : Bool) (text : String) : Printer σ Unit := if c then put o text else pure ()

/-- Sections one after another, with an empty line before each one that is not the first. -/
def printSections (o : Outlet σ) (before : Nat) : List (Printer σ Unit) → Printer σ Unit
  | [] => pure ()
  | body :: rest => do
    putIf o (0 < before) "\n"
    body
    printSections o (before + 1) rest

open Listing

/-- A method of a class declared as `owner`. -/
def printMethod (o : Outlet σ) (u : Usage) (policy : IdentifierPolicy) (owner : String) (depth : Nat)
    (x : MethodModel) : Printer σ Unit := put o (method u policy owner depth x)

mutual

/-- A declaration, with those nested in it as its last sections. -/
def printBody (o : Outlet σ) (u : Usage) (policy : IdentifierPolicy) (depth : Nat) : ClassModel → Printer σ Unit
  | m@⟨_, _, _, _, _, _, _, _, _, _, _, _, _, inner⟩ => do
    putIf o m.anonymous (pad depth ++ "/* anonymous */\n")
    put o (pad depth ++ header u policy m ++ " \x7b\n")
    printSections o 0 ((constantSection policy depth m).map (put o) ++
      (if m.fields.isEmpty then [] else [putEach o (m.fields.map (field u policy depth))]) ++
      m.methods.map (printMethod o u policy m.declaredName (depth + 1)) ++
      printInner o u policy (depth + 1) inner)
    put o (pad depth ++ "\x7d\n")

def printInner (o : Outlet σ) (u : Usage) (policy : IdentifierPolicy) (depth : Nat) :
    List ClassModel → List (Printer σ Unit)
  | [] => []
  | m :: rest => printBody o u policy depth m :: printInner o u policy depth rest

end

def printOrigin (o : Outlet σ) (version : String) : Option String → Printer σ Unit
  | some file => put o (" * Compiled from " ++ file ++ " (class file version " ++ version ++ ").\n */\n")
  | none => put o (" * Class file version " ++ version ++ ".\n */\n")

def printPackage (o : Outlet σ) : Option String → Printer σ Unit
  | some package => put o ("package " ++ package ++ ";\n\n")
  | none => pure ()

/-- A whole class. -/
def printClass (o : Outlet σ) (u : Usage) (policy : IdentifierPolicy) (m : ClassModel) : Printer σ Unit := do
  put o ("/*\n * Decompiled with " ++ versionLine ++ ".\n")
  printOrigin o (toString m.majorVersion ++ "." ++ toString m.minorVersion) m.sourceFile
  printPackage o m.type.package
  putEach o (u.imports.map fun t => "import " ++ t.javaName ++ ";\n")
  putIf o (!u.imports.isEmpty) "\n"
  printBody o u policy 0 m

/-! ## What it prints -/

/-- The printer does what printing the texts does. -/
def Emits (o : Outlet σ) (x : Printer σ Unit) (pieces : List String) : Prop := x = printAll o pieces

theorem printer_bind (x y : Printer σ Unit) (w : World σ) :
    (x >>= fun _ => y) w = match x w with
      | (.ok _, v) => y v
      | (.error e, v) => (.error e, v) := by
  show ExceptT.bind x (fun _ => y) w = _
  simp only [ExceptT.bind, ExceptT.mk, bind, StateT.bind]
  rcases x w with ⟨r, v⟩
  cases r <;> rfl

namespace Emits

theorem none (o : Outlet σ) : Emits o (pure ()) [] := rfl

theorem put (o : Outlet σ) (text : String) : Emits o (put o text) [text] := by
  funext w
  rw [World.put, printAll, act_bind]
  rcases print o text w with ⟨_ | _ | ⟨⟩, v⟩ <;> rfl

/-- One after the other; what fails in the first keeps the second from being printed. -/
theorem seq {x y : Printer σ Unit} {a b : List String} (hx : Emits o x a) (hy : Emits o y b) :
    Emits o (x >>= fun _ => y) (a ++ b) := by
  subst hx hy
  funext w
  rw [printer_bind]
  induction a generalizing w with
  | nil => rfl
  | cons text rest ih =>
    rw [List.cons_append, printAll, printAll, act_bind, act_bind]
    rcases print o text w with ⟨_ | _ | ⟨⟩, v⟩
    · exact ih v
    · rfl
    · exact ih v

theorem putEach (o : Outlet σ) (texts : List String) : Emits o (putEach o texts) texts := by
  induction texts with
  | nil => exact none o
  | cons text rest ih => exact (put o text).seq ih

theorem putIf (o : Outlet σ) (c : Bool) (text : String) : Emits o (putIf o c text) (if c then [text] else []) := by
  unfold World.putIf
  split
  · exact put o text
  · exact none o

end Emits

/-! ### Sections -/

theorem spaced_empty (rest : List (List String)) : spaced ([] :: rest) = spaced rest := by
  cases rest <;> rfl

theorem spaced_section (piece : String) (pieces : List String) (rest : List (List String)) :
    spaced ((piece :: pieces) :: rest) = piece :: pieces ++ match spaced rest with
      | [] => []
      | more => "\n" :: more := by
  cases rest with
  | nil => exact (List.append_nil _).symm
  | cons s rest =>
    rw [spaced, if_neg (by simp)]
    · rcases spaced (s :: rest) with _ | ⟨x, xs⟩
      · exact (List.append_nil _).symm
      · rfl
    · exact fun h => by cases h

/-- Printers of sections, all of which are not empty, and these sections with the empty ones among them. -/
inductive EmitsSections (o : Outlet σ) : List (Printer σ Unit) → List (List String) → Prop where
  | nil : EmitsSections o [] []
  | empty {bodies : List (Printer σ Unit)} {sections : List (List String)} (h : EmitsSections o bodies sections) :
      EmitsSections o bodies ([] :: sections)
  | body {x : Printer σ Unit} {piece : String} {pieces : List String} {bodies : List (Printer σ Unit)}
      {sections : List (List String)} (hx : Emits o x (piece :: pieces)) (h : EmitsSections o bodies sections) :
      EmitsSections o (x :: bodies) ((piece :: pieces) :: sections)

namespace EmitsSections

variable {bodies bodies' : List (Printer σ Unit)} {sections sections' : List (List String)}

theorem append (h : EmitsSections o bodies sections) (h' : EmitsSections o bodies' sections') :
    EmitsSections o (bodies ++ bodies') (sections ++ sections') := by
  induction h with
  | nil => exact h'
  | empty _ ih => exact .empty ih
  | body hx _ ih => exact .body hx ih

/-- The sections behind others, with an empty line before each. -/
theorem printed_behind (h : EmitsSections o bodies sections) (before : Nat) :
    Emits o (printSections o (before + 1) bodies) (match spaced sections with
      | [] => []
      | more => "\n" :: more) := by
  induction h generalizing before with
  | nil => exact .none o
  | empty _ ih =>
    rw [spaced_empty]
    exact ih before
  | body hx _ ih =>
    have hline := Emits.putIf o (decide (0 < before + 1)) "\n"
    rw [if_pos (by simp)] at hline
    have hall := hline.seq (hx.seq (ih (before + 1)))
    rw [spaced_section]
    exact hall

/-- What is printed of sections is how a listing sets them off. -/
theorem printed (h : EmitsSections o bodies sections) : Emits o (printSections o 0 bodies) (spaced sections) := by
  induction h with
  | nil => exact .none o
  | empty _ ih =>
    rw [spaced_empty]
    exact ih
  | body hx h _ =>
    have hall := (Emits.putIf o (decide (0 < 0)) "\n").seq (hx.seq (h.printed_behind 0))
    rw [spaced_section]
    exact hall

end EmitsSections

theorem emitsSections_methods (o : Outlet σ) (u : Usage) (policy : IdentifierPolicy) (owner : String) (depth : Nat)
    (methods : List MethodModel) :
    EmitsSections o (methods.map (printMethod o u policy owner depth))
      (methods.map fun x => [method u policy owner depth x]) := by
  induction methods with
  | nil => exact .nil
  | cons x rest ih => exact .body (.put o _) ih

/-- The constants have one piece, if they have a section. -/
theorem emitsSections_constants (o : Outlet σ) (policy : IdentifierPolicy) (depth : Nat) (m : ClassModel) :
    EmitsSections o ((constantSection policy depth m).map (put o)) [constantSection policy depth m] := by
  unfold constantSection
  split
  · exact .body (.put o _) .nil
  · exact .empty .nil

theorem emitsSections_fields (o : Outlet σ) (u : Usage) (policy : IdentifierPolicy) (depth : Nat) (m : ClassModel) :
    EmitsSections o (if m.fields.isEmpty then [] else [putEach o (m.fields.map (field u policy depth))])
      [fieldSection u policy depth m] := by
  unfold fieldSection
  cases m.fields with
  | nil => exact .empty .nil
  | cons f rest => exact .body (.putEach o _) .nil

/-! ### Declarations and classes -/

/-- Every declaration has a header. -/
theorem declaration_cons (u : Usage) (policy : IdentifierPolicy) (depth : Nat) (m : ClassModel) :
    ∃ piece pieces, declaration u policy depth m = piece :: pieces := by
  refine List.exists_cons_of_ne_nil fun h => ?_
  cases m
  rw [declaration] at h
  simp at h

/-- A declaration around what is nested in it. -/
theorem emits_around (o : Outlet σ) (u : Usage) (policy : IdentifierPolicy) (depth : Nat) (m : ClassModel)
    (hinner : EmitsSections o (printInner o u policy (depth + 1) m.inner) (declarations u policy (depth + 1) m.inner)) :
    Emits o (printBody o u policy depth m) (declaration u policy depth m) := by
  have hsections := (((emitsSections_constants o policy depth m).append
    (emitsSections_fields o u policy depth m)).append
    (emitsSections_methods o u policy m.declaredName (depth + 1) m.methods)).append hinner
  have hbody := (Emits.putIf o m.anonymous (pad depth ++ "/* anonymous */\n")).seq
    ((Emits.put o (pad depth ++ header u policy m ++ " \x7b\n")).seq
      (hsections.printed.seq (Emits.put o (pad depth ++ "\x7d\n"))))
  cases m
  rw [printBody, declaration]
  simpa only [List.append_assoc, List.cons_append, List.nil_append] using hbody

mutual

theorem emits_printBody (o : Outlet σ) (u : Usage) (policy : IdentifierPolicy) (depth : Nat) :
    (m : ClassModel) → Emits o (printBody o u policy depth m) (declaration u policy depth m)
  | ⟨_, _, _, _, _, _, _, _, _, _, _, _, _, inner⟩ =>
    emits_around o u policy depth _ (emitsSections_inner o u policy (depth + 1) inner)

theorem emitsSections_inner (o : Outlet σ) (u : Usage) (policy : IdentifierPolicy) (depth : Nat) :
    (ms : List ClassModel) → EmitsSections o (printInner o u policy depth ms) (declarations u policy depth ms)
  | [] => .nil
  | m :: rest => by
    have hm := emits_printBody o u policy depth m
    have hrest := emitsSections_inner o u policy depth rest
    obtain ⟨piece, pieces, hcons⟩ := declaration_cons u policy depth m
    rw [printInner, declarations, hcons]
    rw [hcons] at hm
    exact .body hm hrest

end

theorem emits_printOrigin (o : Outlet σ) (version : String) (file : Option String) :
    Emits o (printOrigin o version file) [match file with
      | some s => " * Compiled from " ++ s ++ " (class file version " ++ version ++ ").\n */\n"
      | none => " * Class file version " ++ version ++ ".\n */\n"] := by
  cases file <;> exact .put o _

theorem emits_printPackage (o : Outlet σ) (package : Option String) :
    Emits o (printPackage o package) (match package with
      | some p => ["package " ++ p ++ ";\n\n"]
      | none => []) := by
  cases package with
  | none => exact .none o
  | some p => exact .put o _

/-- The printer of a class prints its listing. -/
theorem emits_printClass (o : Outlet σ) (u : Usage) (policy : IdentifierPolicy) (m : ClassModel) :
    Emits o (printClass o u policy m) (source u policy m) := by
  have hclass := (Emits.put o ("/*\n * Decompiled with " ++ versionLine ++ ".\n")).seq
    ((emits_printOrigin o (toString m.majorVersion ++ "." ++ toString m.minorVersion) m.sourceFile).seq
      ((emits_printPackage o m.type.package).seq
        ((Emits.putEach o (u.imports.map fun t => "import " ++ t.javaName ++ ";\n")).seq
          ((Emits.putIf o (!u.imports.isEmpty) "\n").seq (emits_printBody o u policy 0 m)))))
  have himports : (if (u.imports.map fun t => "import " ++ t.javaName ++ ";\n").isEmpty = true then [] else ["\n"]) =
      if (!u.imports.isEmpty) = true then ["\n"] else [] := by
    cases u.imports <;> rfl
  have hassoc (x y : String) (a b c d : List String) :
      [x] ++ ([y] ++ (a ++ (b ++ (c ++ d)))) = [x, y] ++ a ++ b ++ c ++ d := by
    simp only [List.append_assoc, List.cons_append, List.nil_append]
  refine hclass.trans (congrArg (printAll o) ?_)
  unfold source
  dsimp only
  rw [himports]
  exact hassoc ..

/-! ## The first print that fails -/

/-- Texts that are taken are in the trace, one after another, and printing goes on behind them. -/
theorem printAll_taken {w : World σ} {sink : Nat} {front : List String} {a b : Surroundings σ}
    (hheld : w.held = some sink) (ha : w.around = a) (h : o.Takes sink a front b) (back : List String) :
    printAll o (front ++ back) w =
      printAll o back { w with around := b, trace := w.trace ++ front.map (.printed sink · none) } := by
  induction h generalizing w with
  | nil a =>
    subst ha
    rw [List.map_nil, List.append_nil, List.nil_append]
  | @cons a b c text rest hp hr ih =>
    subst ha
    rw [List.cons_append, printAll, act_bind, print_some o text hheld, hp]
    have hrest := ih (w := { w with around := b, trace := w.trace ++ [.printed sink text none] }) hheld rfl
    rw [List.append_assoc, List.singleton_append] at hrest
    exact hrest

/-- The texts are all taken, or one of them is the first that is not. -/
theorem takes_or_fails (o : Outlet σ) (sink : Nat) (a : Surroundings σ) (chunks : List String) :
    (∃ b, o.Takes sink a chunks b) ∨ ∃ front text back b e c, chunks = front ++ text :: back ∧
      o.Takes sink a front b ∧ o.print sink text b = (.error e, c) := by
  induction chunks generalizing a with
  | nil => exact .inl ⟨a, .nil a⟩
  | cons text rest ih =>
    rcases hp : o.print sink text a with ⟨_ | ⟨⟩, b⟩
    · exact .inr ⟨[], text, rest, a, _, b, rfl, .nil a, hp⟩
    · rcases ih b with ⟨c, hc⟩ | ⟨front, text', back, c, e, d, rfl, hc, he⟩
      · exact .inl ⟨c, .cons hp hc⟩
      · exact .inr ⟨text :: front, text', back, c, e, d, rfl, .cons hp hc, he⟩

/-- Printing that gives the chunks to outlets that never fail, and otherwise ends with the first print that fails. -/
structure PrintsInOrder (x : {σ : Type} → Outlet σ → Act σ (Except IoError Unit)) (chunks : List String) : Prop where
  /-- An outlet that never fails is given the chunks, in order, and nothing else. -/
  faultless : ∀ {σ : Type} (o : Outlet σ) (w : World σ) (sink : Nat), w.held = some sink →
    (∀ text a, (o.print sink text a).1 = .ok ()) →
    (x o w).1 = .ok () ∧ (x o w).2.trace = w.trace ++ chunks.map (.printed sink · none)
  /-- The first print that fails is the last one, its error is the answer, and the sink took the chunks before it. -/
  failed : ∀ {σ : Type} (o : Outlet σ) (w : World σ) (sink : Nat) (front back : List String) (text : String)
    (a b : Surroundings σ) (e : IoError), w.held = some sink → chunks = front ++ text :: back →
    o.Takes sink w.around front a → o.print sink text a = (.error e, b) →
    x o w = (.error e, { w with
      around := b, trace := w.trace ++ front.map (.printed sink · none) ++ [.printed sink text (some e)] }) ∧
    Event.accepted (x o w).2.trace sink = Event.accepted w.trace sink ++ String.join front
  /-- Without a failure the sink took all chunks. -/
  whole : ∀ {σ : Type} (o : Outlet σ) (w : World σ) (sink : Nat) (a : Surroundings σ), w.held = some sink →
    o.Takes sink w.around chunks a →
    x o w = (.ok (), { w with around := a, trace := w.trace ++ chunks.map (.printed sink · none) }) ∧
    Event.accepted (x o w).2.trace sink = Event.accepted w.trace sink ++ String.join chunks
  /-- It is one or the other. -/
  decided : ∀ {σ : Type} (o : Outlet σ) (w : World σ) (sink : Nat), (∃ a, o.Takes sink w.around chunks a) ∨
    ∃ front text back a e b, chunks = front ++ text :: back ∧ o.Takes sink w.around front a ∧
      o.print sink text a = (.error e, b)

theorem printsInOrder {x : {σ : Type} → Outlet σ → Act σ (Except IoError Unit)} {chunks : List String}
    (hx : ∀ {σ : Type} (o : Outlet σ), x o = printAll o chunks) : PrintsInOrder x chunks := by
  have hwhole {σ : Type} (o : Outlet σ) (w : World σ) (sink : Nat) (a : Surroundings σ) (hheld : w.held = some sink)
      (h : o.Takes sink w.around chunks a) : printAll o chunks w =
        (.ok (), { w with around := a, trace := w.trace ++ chunks.map (.printed sink · none) }) := by
    have hp := printAll_taken hheld rfl h []
    rwa [List.append_nil] at hp
  refine ⟨fun o w sink hheld hok => ?_, fun o w sink front back text a b e hheld hchunks hfront he => ?_,
    fun o w sink a hheld h => ?_, fun o w sink => takes_or_fails o sink w.around chunks⟩ <;> rw [hx]
  · rcases takes_or_fails o sink w.around chunks with ⟨a, ha⟩ | ⟨front, text, back, b, e, c, -, -, he⟩
    · rw [hwhole o w sink a hheld ha]
      exact ⟨rfl, rfl⟩
    · have := hok text b
      rw [he] at this
      cases this
  · have hrun : printAll o chunks w = (.error e, { w with
        around := b, trace := w.trace ++ front.map (.printed sink · none) ++ [.printed sink text (some e)] }) := by
      rw [hchunks, printAll_taken hheld rfl hfront, printAll, act_bind, print_some o text (by exact hheld), he]
      rfl
    refine ⟨hrun, ?_⟩
    rw [hrun, Event.accepted_append, Event.accepted_printed]
    exact String.append_empty
  · rw [hwhole o w sink a hheld h]
    exact ⟨rfl, Event.accepted_printed ..⟩

/-- For every class, nested to any depth, and whatever the spelling of types and names: the printer of the class, and
that of a single method, print in order and stop at the first print that fails. Their chunks are the pieces of the
listing, and what a run does is print these. -/
theorem failing_write_stops (u : Usage) (policy : IdentifierPolicy) (m : ClassModel) :
    PrintsInOrder (fun o => printClass o u policy m) (source u policy m) ∧
    (∀ x, PrintsInOrder (fun o => printMethod o u policy m.declaredName 0 x) [method u policy m.declaredName 0 x]) ∧
    ∀ {σ : Type} (o : Outlet σ), printClass o u policy m = printAll o (source u policy m) ∧
      ∀ x, printMethod o u policy m.declaredName 0 x = printAll o (methods u policy m [x]) := by
  have hclass {σ : Type} (o : Outlet σ) : printClass o u policy m = printAll o (source u policy m) :=
    emits_printClass o u policy m
  have hmethod {σ : Type} (o : Outlet σ) (x : MethodModel) : printMethod o u policy m.declaredName 0 x =
      printAll o (methods u policy m [x]) := Emits.put o _
  exact ⟨printsInOrder hclass, fun x => printsInOrder fun o => hmethod o x, fun o => ⟨hclass o, hmethod o⟩⟩

/-- An outlet that takes so many texts and no more. -/
def room (n : Nat) : Outlet Nat where
  acquire _ _ _ _ := pure ([], .ok ())
  print _ _ := modifyGet fun a =>
    (if a.state < n then .ok () else .error (.other "disk full"), { a with state := a.state + 1 })
  close _ := pure (.ok ())
  openSummary := pure (.ok ())
  notify _ := pure ()
  closeSummary := pure ()

/-- A class with the given ones inside. -/
def shell (name : String) (inner : List ClassModel) : ClassModel :=
  ⟨⟨name⟩, .plain, [], name, false, none, 52, 0, none, [], [], [], [], inner⟩

/-- The header of the innermost class does not fit, and nothing is printed after it. -/
example : ((printClass (room 4) Usage.empty .keep (shell "A" [shell "B" [shell "C" []]])
    { start ⟨Options.default, .empty, .empty⟩ ⟨[], []⟩ 0 with held := some 0 }).2.trace.drop 3) =
    [.printed 0 "    class B \x7b\n" none, .printed 0 "        class C \x7b\n" (some (.other "disk full"))] := by
  decide +kernel

end World

end ClassSkeleton
