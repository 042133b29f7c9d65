import Mathlib.Logic.Relation
import ClassSkeleton.Proofs.NamingPurity

/-
  ClassSkeleton.Proofs.AncestorNames — the name a method takes from its ancestors.

  The ancestors of a class are its supertypes, their supertypes as far as those are in the set, and so on
  (`WorkingSet.Ancestor`). The search for a new name looks at all of them: what it finds is the name some
  ancestor has (`inheritedName_some`), and it finds nothing only if no ancestor has one
  (`inheritedName_eq_none`). It reads the name and the descriptor run together, so methods that spell
  alike in this way inherit alike (`inheritedName_key`).

  After a set is named from scratch, only its own classes have names. Ancestors with a name are then
  classes of the set, and a class inherits when one of its ancestors in the list was given a name
  (`inherits_iff`).
-/

namespace ClassSkeleton

open Relation

namespace WorkingSet

/-- The class of `a` in the set names `b`, which may be in the set or not, as its supertype. -/
def Mentions (set : WorkingSet) (a b : TypeName) : Prop := ∃ c, set.get? a = some c ∧ b ∈ c.supertypes

/-- `t` is above the class, along supertypes of classes of the set. -/
def Ancestor (set : WorkingSet) (c : ClassFile) (t : TypeName) : Prop :=
  ∃ s ∈ c.supertypes, ReflTransGen set.Mentions s t

end WorkingSet

namespace Naming

variable {n : Naming} {set : WorkingSet} {rules : NamingRules} {c : ClassFile} {name descriptor r : String}

/-! ## The search -/

theorem searchAncestors_some {pending seen : List TypeName}
    (h : n.searchAncestors set name descriptor pending seen = some r) :
    ∃ s ∈ pending, ∃ t, ReflTransGen set.Mentions s t ∧ n.methodName t name descriptor = some r := by
  fun_induction searchAncestors n set name descriptor pending seen with
  | case1 seen => cases h
  | case2 seen t rest hs ih =>
    obtain ⟨s, hm, rest⟩ := ih h
    exact ⟨s, List.mem_cons_of_mem _ hm, rest⟩
  | case3 seen t rest hs found hf =>
    cases h
    exact ⟨t, List.mem_cons_self .., t, .refl, hf⟩
  | case4 seen t rest hs hf hc ih =>
    obtain ⟨s, hm, rest⟩ := ih h
    exact ⟨s, List.mem_cons_of_mem _ hm, rest⟩
  | case5 seen t rest hs hf c hc ih =>
    obtain ⟨s, hm, u, hsu, hu⟩ := ih h
    rcases List.mem_append.1 hm with hm | hm
    · exact ⟨t, List.mem_cons_self .., u, .head ⟨c, hc, List.mem_reverse.1 hm⟩ hsu, hu⟩
    · exact ⟨s, List.mem_cons_of_mem _ hm, u, hsu, hu⟩

/-- What the search has cleared so far, `cleared`, leads to cleared or pending types only. When it ends
without a name, everything it ever looked at is cleared, and nothing leads out of that. -/
theorem searchAncestors_none {pending seen : List TypeName}
    (h : n.searchAncestors set name descriptor pending seen = none) (cleared : TypeName → Prop)
    (hseen : ∀ t ∈ seen, cleared t)
    (hclear : ∀ t, cleared t → n.methodName t name descriptor = none ∧
      ∀ s, set.Mentions t s → cleared s ∨ s ∈ pending) :
    ∃ all : TypeName → Prop, (∀ t, cleared t → all t) ∧ (∀ t ∈ pending, all t) ∧
      ∀ t, all t → n.methodName t name descriptor = none ∧ ∀ s, set.Mentions t s → all s := by
  fun_induction searchAncestors n set name descriptor pending seen generalizing cleared with
  | case1 seen => exact ⟨cleared, fun _ ht => ht, by simp, fun t ht => by simpa using hclear t ht⟩
  | case2 seen t rest hs ih =>
    have hnext (u : TypeName) (hu : cleared u) : n.methodName u name descriptor = none ∧
        ∀ s, set.Mentions u s → cleared s ∨ s ∈ rest := by
      refine ⟨(hclear u hu).1, fun s hm => ?_⟩
      rcases (hclear u hu).2 s hm with hc | hp
      · exact .inl hc
      · rcases List.mem_cons.1 hp with rfl | hp
        · exact .inl (hseen _ hs)
        · exact .inr hp
    obtain ⟨all, hsub, hrest, hall⟩ := ih h cleared hseen hnext
    refine ⟨all, hsub, fun u hu => ?_, hall⟩
    rcases List.mem_cons.1 hu with rfl | hu
    · exact hsub _ (hseen _ hs)
    · exact hrest u hu
  | case3 seen t rest hs found hf => cases h
  | case4 seen t rest hs hf hc ih =>
    -- A type outside the set leads nowhere.
    have hnext (u : TypeName) (hu : cleared u ∨ u = t) : n.methodName u name descriptor = none ∧
        ∀ s, set.Mentions u s → (cleared s ∨ s = t) ∨ s ∈ rest := by
      rcases hu with hu | rfl
      · refine ⟨(hclear u hu).1, fun s hm => ?_⟩
        rcases (hclear u hu).2 s hm with hs | hs
        · exact .inl (.inl hs)
        · exact (List.mem_cons.1 hs).imp .inr id
      · refine ⟨hf, fun s hm => ?_⟩
        obtain ⟨c, hg, -⟩ := hm
        rw [hc] at hg
        cases hg
    obtain ⟨all, hsub, hrest, hall⟩ := ih h _ (fun u hu => .inl (hseen u hu)) hnext
    refine ⟨all, fun u hu => hsub u (.inl hu), fun u hu => ?_, hall⟩
    rcases List.mem_cons.1 hu with rfl | hu
    · exact hsub _ (.inr rfl)
    · exact hrest u hu
  | case5 seen t rest hs hf c hc ih =>
    have hnext (u : TypeName) (hu : cleared u ∨ u = t) : n.methodName u name descriptor = none ∧
        ∀ s, set.Mentions u s → (cleared s ∨ s = t) ∨ s ∈ c.supertypes.reverse ++ rest := by
      rcases hu with hu | rfl
      · refine ⟨(hclear u hu).1, fun s hm => ?_⟩
        rcases (hclear u hu).2 s hm with hs | hs
        · exact .inl (.inl hs)
        · exact (List.mem_cons.1 hs).imp .inr (List.mem_append_right _)
      · refine ⟨hf, fun s hm => .inr (List.mem_append_left _ ?_)⟩
        obtain ⟨d, hg, hm⟩ := hm
        rw [hc] at hg
        cases hg
        exact List.mem_reverse.2 hm
    obtain ⟨all, hsub, hrest, hall⟩ := ih h _ (fun u hu => (List.mem_cons.1 hu).symm.imp (hseen u) id) hnext
    refine ⟨all, fun u hu => hsub u (.inl hu), fun u hu => ?_, hall⟩
    rcases List.mem_cons.1 hu with rfl | hu
    · exact hsub _ (.inr rfl)
    · exact hrest u (List.mem_append_right _ hu)

/-- An inherited name is the name of some ancestor. -/
theorem inheritedName_some (h : n.inheritedName set c name descriptor = some r) :
    ∃ t, set.Ancestor c t ∧ n.methodName t name descriptor = some r := by
  obtain ⟨s, hs, t, hst, ht⟩ := searchAncestors_some h
  exact ⟨t, ⟨s, List.mem_reverse.1 hs, hst⟩, ht⟩

/-- Nothing is inherited exactly when no ancestor has a name. -/
theorem inheritedName_eq_none : n.inheritedName set c name descriptor = none ↔
    ∀ t, set.Ancestor c t → n.methodName t name descriptor = none := by
  constructor
  · rintro h t ⟨s, hs, hst⟩
    obtain ⟨all, -, hp, hall⟩ := searchAncestors_none h (fun _ => False) (by simp) (by simp)
    have ht : all t := by
      induction hst with
      | refl => exact hp s (List.mem_reverse.2 hs)
      | tail _ hab ih => exact (hall _ ih).2 _ hab
    exact (hall t ht).1
  · intro h
    rcases hi : n.inheritedName set c name descriptor with _ | r
    · rfl
    · obtain ⟨t, ha, ht⟩ := inheritedName_some hi
      rw [h t ha] at ht
      cases ht

theorem methodName_key {name' descriptor' : String} (h : methodKey name descriptor = methodKey name' descriptor')
    (t : TypeName) : n.methodName t name descriptor = n.methodName t name' descriptor' := by
  simp only [methodName, h]

theorem inheritedName_key {name' descriptor' : String} (h : methodKey name descriptor = methodKey name' descriptor') :
    n.inheritedName set c name descriptor = n.inheritedName set c name' descriptor' := by
  have hs (pending seen : List TypeName) : n.searchAncestors set name descriptor pending seen =
      n.searchAncestors set name' descriptor' pending seen := by
    fun_induction searchAncestors n set name descriptor pending seen with
    | case1 seen => rw [searchAncestors]
    | case2 seen t rest hs ih => rw [searchAncestors_cons, if_pos hs, ih]
    | case3 seen t rest hs found hf => rw [searchAncestors_cons, if_neg hs, ← methodName_key h, hf]
    | case4 seen t rest hs hf hc ih => rw [searchAncestors_cons, if_neg hs, ← methodName_key h, hf, hc]; exact ih
    | case5 seen t rest hs hf c hc ih => rw [searchAncestors_cons, if_neg hs, ← methodName_key h, hf, hc]; exact ih
  exact hs _ _

/-! ## After naming a list of classes -/

/-- In a settled naming the names of a class are those its pass over the methods gave. -/
theorem Settled.methodName {t : TypeName} (h : Settled set rules n) (hc : set.get? t = some c)
    (name descriptor : String) :
    n.methodName t name descriptor = (n.methodRenames set rules c).get? (methodKey name descriptor) := by
  rw [Naming.methodName, h t c hc, Renames.entry]
  split
  · next he =>
    have hm : n.methodRenames set rules c = [] := by
      simp only [Renames.isEmpty, Bool.and_eq_true, List.isEmpty_iff] at he
      exact he.2
    rw [hm]
    rfl
  · rfl

/-- The names of a list of classes, worked out from scratch. -/
abbrev ofClasses (classes : List ClassFile) (rules : NamingRules) : Naming := empty.resolve classes rules

section Resolve

variable {classes : List ClassFile} (hd : (classes.map (·.thisClass)).Nodup)

include hd

/-- Of the types above a class of the list, those with a class in the list are its ancestors there. -/
theorem ancestor_ofList (hc : c ∈ classes) {a : ClassFile} (ha : a ∈ classes) :
    (WorkingSet.ofList classes).Ancestor c a.thisClass ↔ TransGen (Supertype classes) c.thisClass a.thisClass := by
  have hin (d : ClassFile) (hm : d ∈ classes) : (WorkingSet.ofList classes).get? d.thisClass = some d :=
    (WorkingSet.get?_ofList hd).2 ⟨hm, rfl⟩
  constructor
  · rintro ⟨s, hs, hsa⟩
    -- Every type on the way to a class of the list is one itself.
    induction hsa using ReflTransGen.head_induction_on generalizing c with
    | refl => exact .single ⟨c, hc, a, ha, rfl, rfl, hs⟩
    | head hab _ ih =>
      obtain ⟨d, hg, hm⟩ := hab
      obtain ⟨hdm, rfl⟩ := (WorkingSet.get?_ofList hd).1 hg
      exact .head ⟨c, hc, d, hdm, rfl, rfl, hs⟩ (ih hdm hm)
  · intro h
    obtain ⟨t, ⟨d, hdm, e, hem, hdt, het, hs⟩, hta⟩ := TransGen.head'_iff.1 h
    have hdc : d = c := Option.some.inj ((hin d hdm).symm.trans (hdt ▸ hin c hc))
    subst hdc
    have hle : ∀ x y, Supertype classes x y → (WorkingSet.ofList classes).Mentions x y := by
      rintro x y ⟨d', hd', -, -, rfl, -, hm⟩
      exact ⟨d', hin d' hd', hm⟩
    exact ⟨t, hs, ReflTransGen.mono hle _ _ hta⟩

variable (ha : Acyclic classes)

include ha

/-- A type that is not in the list has no new names when the list was named from scratch. -/
theorem methodName_outside {t : TypeName} (ht : ∀ d ∈ classes, d.thisClass ≠ t) :
    (ofClasses classes rules).methodName t name descriptor = none := by
  rw [methodName, resolve_other hd ha rules empty ht]
  rfl

/-- A class inherits a name for a method when an ancestor in the list was given one. -/
theorem inherits_iff (hc : c ∈ classes) :
    (∃ r, (ofClasses classes rules).inheritedName (.ofList classes) c name descriptor = some r) ↔
      ∃ t r, TransGen (Supertype classes) c.thisClass t ∧
        (ofClasses classes rules).methodName t name descriptor = some r := by
  rw [← Option.ne_none_iff_exists', ne_eq, inheritedName_eq_none]
  constructor
  · intro h
    obtain ⟨t, hn⟩ := Classical.not_forall.1 h
    obtain ⟨hab, hne⟩ := Classical.not_imp.1 hn
    obtain ⟨r, hr⟩ := Option.ne_none_iff_exists'.1 hne
    by_cases ht : ∃ a ∈ classes, a.thisClass = t
    · obtain ⟨a, hm, rfl⟩ := ht
      exact ⟨a.thisClass, r, (ancestor_ofList hd hc hm).1 hab, hr⟩
    · exact (hne (methodName_outside hd ha fun d hm he => ht ⟨d, hm, he⟩)).elim
  · rintro ⟨t, r, hct, hr⟩ h
    obtain ⟨_, _, -, -, a, hm, -, rfl, -⟩ := TransGen.tail'_iff.1 hct
    rw [h _ ((ancestor_ofList hd hc hm).2 hct)] at hr
    cases hr

/-- What a class inherits is the name one of its ancestors in the list was given. -/
theorem inherited_from (hc : c ∈ classes)
    (h : (ofClasses classes rules).inheritedName (.ofList classes) c name descriptor = some r) :
    ∃ t, TransGen (Supertype classes) c.thisClass t ∧
      (ofClasses classes rules).methodName t name descriptor = some r := by
  obtain ⟨t, hab, ht⟩ := inheritedName_some h
  by_cases hin : ∃ a ∈ classes, a.thisClass = t
  · obtain ⟨a, hm, rfl⟩ := hin
    exact ⟨a.thisClass, (ancestor_ofList hd hc hm).1 hab, ht⟩
  · rw [methodName_outside hd ha fun d hm he => hin ⟨d, hm, he⟩] at ht
    cases ht

end Resolve

end Naming

end ClassSkeleton
