import ClassSkeleton.Proofs.NestModels
import ClassSkeleton.Listing

/-
  ClassSkeleton.Proofs.MethodBodies — what is printed of a method.

  The text of a method is its signature and what follows it, which the length of its bytecode decides
  (`method_eq`). The length is that of the method in the class file, and there is one exactly when the
  `Code` payload has the eight bytes that reach up to it (`codeLength_eq_none`). So in the listing of a model
  that shows a unit, every method of the nest that the declarations show has its text, made from the payload
  of a class file that was not released (`Shows.listed`), and no text of a method comes from anywhere else
  (`Shows.source_of_method`).
-/

namespace ClassSkeleton

/-- Bytes 4 to 7 are there when eight bytes are. -/
theorem Member.codeLength_eq_none (f : Member) : f.codeLength = none ↔ ∀ code, f.code = some code → code.length < 8 := by
  unfold codeLength
  split
  · next code hc =>
    refine ⟨fun h => (by cases h), fun h => ?_⟩
    have := h _ hc
    simp only [List.length_cons] at this
    omega
  · next hshort =>
    refine ⟨fun _ code hc => ?_, fun _ => rfl⟩
    -- a list of eight or more would have matched
    match code, hc with
    | [], _ | [_], _ | [_, _], _ | [_, _, _], _ | [_, _, _, _], _ | [_, _, _, _, _], _ | [_, _, _, _, _, _], _
    | [_, _, _, _, _, _, _], _ => simp
    | c₀ :: c₁ :: c₂ :: c₃ :: a :: b :: c :: d :: rest, hc => exact absurd hc (hshort _ _ _ _ a b c d rest)

namespace ClassModel

variable {c : ClassFile} {naming : Naming} {inner : List ClassModel} {m : ClassModel}

/-- The methods the declaration of a class shows. -/
def shownMethods (c : ClassFile) : List Member := c.methods.filter (isShownMethod (kindOf (flagsOf c)))

/-- The model of one of them. -/
def methodOf (c : ClassFile) (naming : Naming) (f : Member) : Except DescriptorError MethodModel :=
  buildMethod naming c.thisClass (kindOf (flagsOf c)) f

/-- A model has a method for every one the class shows, and no other. -/
theorem build_methods (h : build c naming inner = .ok m) :
    (∀ x ∈ m.methods, ∃ f ∈ shownMethods c, methodOf c naming f = .ok x) ∧
      ∀ f ∈ shownMethods c, ∃ x ∈ m.methods, methodOf c naming f = .ok x := by
  simp only [build, bind, Except.bind] at h
  split at h
  · cases h
  split at h
  · cases h
  next methods hm =>
  cases h
  exact mapM_ok_mem hm

theorem methodOf_codeLength {f : Member} {x : MethodModel} (h : methodOf c naming f = .ok x) :
    x.codeLength = f.codeLength := by
  simp only [methodOf, buildMethod, bind, Except.bind] at h
  split at h
  · cases h
  cases h
  rfl

end ClassModel

namespace Listing

/-! ## Texts of methods -/

/-- The text of a method up to its body. -/
def signature (u : Usage) (policy : IdentifierPolicy) (owner : String) (depth : Nat) (m : MethodModel) : String :=
  match m.kind with
  | .staticInitializer => pad depth ++ "static"
  | .constructor =>
    pad depth ++ modifierFront m.modifiers ++ policy.apply owner ++ "(" ++ commaList (parameters u m) ++ ")"
  | .plain =>
    pad depth ++ modifierFront m.modifiers ++ (match m.returnType with | some t => u.spellType t | none => "void") ++
      " " ++ policy.apply m.name ++ "(" ++ commaList (parameters u m) ++ ")"

theorem method_eq (u : Usage) (policy : IdentifierPolicy) (owner : String) (depth : Nat) (m : MethodModel) :
    method u policy owner depth m = signature u policy owner depth m ++ methodBody depth m.codeLength := by
  unfold method signature
  cases m.kind <;> rfl

/-- The text ends with a body. -/
def HasBody (text : String) : Prop := ∃ front depth length, text = front ++ methodBody depth (some length)

theorem hasBody_method {c : ClassFile} {naming : Naming} {f : Member} {x : MethodModel} {code : List UInt8}
    (h : ClassModel.methodOf c naming f = .ok x) (hc : f.code = some code) (hl : 8 ≤ code.length) (u : Usage)
    (policy : IdentifierPolicy) (owner : String) (depth : Nat) : HasBody (method u policy owner depth x) := by
  rw [method_eq, ClassModel.methodOf_codeLength h]
  rcases hlen : f.codeLength with _ | length
  · have := f.codeLength_eq_none.1 hlen code hc
    omega
  · exact ⟨_, depth, length, rfl⟩

/-! ## Where they stand -/

theorem mem_spaced {sections : List (List String)} {part : List String} {piece : String} (hs : part ∈ sections)
    (hp : piece ∈ part) : piece ∈ spaced sections := by
  fun_induction spaced sections with
  | case1 => cases hs
  | case2 s =>
    rw [List.mem_singleton.1 hs] at hp
    exact hp
  | case3 s rest _ hempty ih =>
    rcases List.mem_cons.1 hs with rfl | hs
    · rw [List.isEmpty_iff.1 hempty] at hp
      cases hp
    · exact ih hs
  | case4 s rest _ hempty hnone ih =>
    rcases List.mem_cons.1 hs with rfl | hs
    · exact hp
    · have := ih hs
      rw [hnone] at this
      cases this
  | case5 s rest _ hempty hne ih =>
    rcases List.mem_cons.1 hs with rfl | hs
    · exact List.mem_append_left _ hp
    · exact List.mem_append_right _ (List.mem_cons_of_mem _ (ih hs))

/-- The sections of a declaration, without the head and the last line. -/
theorem mem_declaration {u : Usage} {policy : IdentifierPolicy} {depth : Nat} {m : ClassModel} {part : List String}
    {piece : String} (hp : piece ∈ part)
    (h : (∃ x ∈ m.methods, part = [method u policy m.declaredName (depth + 1) x]) ∨
      part ∈ declarations u policy (depth + 1) m.inner) : piece ∈ declaration u policy depth m := by
  have hmem : part ∈ constantSection policy depth m :: fieldSection u policy depth m ::
      m.methods.map (fun x => [method u policy m.declaredName (depth + 1) x]) ++
        declarations u policy (depth + 1) m.inner := by
    rcases h with ⟨x, hx, rfl⟩ | h
    · exact List.mem_append_left _ (List.mem_cons_of_mem _ (List.mem_cons_of_mem _ (List.mem_map_of_mem hx)))
    · exact List.mem_append_right _ h
  have hs := mem_spaced hmem hp
  cases m
  rw [declaration]
  exact List.mem_append_left _ (List.mem_append_right _ hs)

theorem mem_declarations {u : Usage} {policy : IdentifierPolicy} {depth : Nat} {m : ClassModel}
    {models : List ClassModel} (h : m ∈ models) : declaration u policy depth m ∈ declarations u policy depth models := by
  induction models with
  | nil => cases h
  | cons k models ih =>
    rw [declarations]
    rcases List.mem_cons.1 h with rfl | h
    · exact List.mem_cons_self
    · exact List.mem_cons_of_mem _ (ih h)

theorem within_declaration {u : Usage} {policy : IdentifierPolicy} {levels : Nat} {k m : ClassModel} {piece : String}
    (h : k.Within levels m) : ∀ depth, piece ∈ declaration u policy (depth + levels) k →
      piece ∈ declaration u policy depth m := by
  induction h with
  | self m => exact fun depth hp => hp
  | @inner levels k m' m hm _ ih =>
    intro depth hp
    have hdepth : depth + (levels + 1) = depth + 1 + levels := by omega
    rw [hdepth] at hp
    exact mem_declaration (ih (depth + 1) hp) (.inr (mem_declarations hm))

/-- The methods of a declaration that stands inside a model are in its listing, indented by where it stands. -/
theorem method_mem_source {u : Usage} {policy : IdentifierPolicy} {levels : Nat} {k m : ClassModel}
    (h : k.Within levels m) {x : MethodModel} (hx : x ∈ k.methods) :
    method u policy k.declaredName (levels + 1) x ∈ source u policy m := by
  have hown : method u policy k.declaredName (0 + levels + 1) x ∈ declaration u policy (0 + levels) k :=
    mem_declaration List.mem_cons_self (.inl ⟨x, hx, rfl⟩)
  rw [Nat.zero_add] at hown
  exact List.mem_append_right _ (within_declaration h 0 (by rw [Nat.zero_add]; exact hown))

end Listing

namespace Session

variable {s : Session} {id : UnitId} {m : ClassModel}

/-- A method inside a model is one of a class file of the nest, which is not released. -/
theorem Shows.source_of_method (h : s.Shows id m) {levels : Nat} {k : ClassModel} (hw : k.Within levels m)
    {x : MethodModel} (hx : x ∈ k.methods) :
    ∃ j u f, s.cache.InNest id j ∧ s.cache.unit? j = some u ∧ u.isReleased = false ∧
      f ∈ ClassModel.shownMethods u.classFile ∧ ClassModel.methodOf u.classFile s.naming f = .ok x := by
  obtain ⟨j, hj, hk⟩ := h.within hw
  cases hk with
  | unit hu hr hi hb =>
    obtain ⟨f, hf, hfx⟩ := (ClassModel.build_methods hb).1 x hx
    exact ⟨j, _, f, hj, hu, hr, hf, hfx⟩

/-- Every shown method of every class file of the nest has its text in the listing. -/
theorem Shows.listed (h : s.Shows id m) {j : UnitId} (hj : s.cache.InNest id j) {u : ClassUnit}
    (hu : s.cache.unit? j = some u) {f : Member} (hf : f ∈ ClassModel.shownMethods u.classFile) (usage : Usage)
    (policy : IdentifierPolicy) :
    ∃ (levels : Nat) (k : ClassModel) (x : MethodModel), k.Within levels m ∧ x ∈ k.methods ∧
      ClassModel.methodOf u.classFile s.naming f = .ok x ∧
      Listing.method usage policy k.declaredName (levels + 1) x ∈ Listing.source usage policy m := by
  obtain ⟨levels, k, hw, hk⟩ := h.nest hj
  cases hk with
  | unit hu' hr hi hb =>
    rw [hu] at hu'
    cases hu'
    obtain ⟨x, hx, hfx⟩ := (ClassModel.build_methods hb).2 f hf
    exact ⟨levels, k, x, hw, hx, hfx, Listing.method_mem_source hw hx⟩

end Session

end ClassSkeleton
