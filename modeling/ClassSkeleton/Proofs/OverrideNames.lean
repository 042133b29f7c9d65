import ClassSkeleton.Model
import ClassSkeleton.Proofs.MethodPass

/-
  ClassSkeleton.Proofs.OverrideNames — final names of overriding and of overloaded methods.

  Every class of a list is named from scratch, with repeated signatures renamed. A method of a class that
  has a new name in some ancestor takes one of the ancestors' names (`methodName_of_inherits`); any other
  method keeps its own name, unless it repeats the signature of an earlier one (`methodName_of_own`).

  So an override has the name of what it overrides as long as the ancestors agree on a new name, or none
  has one and the override repeats nothing (`overrides_agree`). Ancestors that disagree, and repeated
  signatures whose original kept its name in the ancestor, drive the two apart (`overrides_disagree`).
  And two methods of a class clash only through inherited names, which are not checked against the names
  around them (`clash_of_inherited`, `methods_clash`).
-/

namespace ClassSkeleton

namespace Naming

open Relation ClassModel

/-- Some ancestor of the class in the list has a new name for the method. -/
def Inherits (n : Naming) (classes : List ClassFile) (c : ClassFile) (m : Member) : Prop :=
  ∃ t r, TransGen (Supertype classes) c.thisClass t ∧ n.methodName t m.name m.descriptor = some r

/-! ## Classes in outline -/

/-- A class with public methods, given by name and descriptor. -/
def sketch (type : String) (supertypes : List String) (methods : List (String × String)) : ClassFile :=
  ⟨0, 52, 0x21, ⟨type⟩, supertypes.head?.map .mk, supertypes.tail.map .mk, [],
    methods.map fun m => ⟨Access.isPublic, m.1, m.2, none⟩, [], none⟩

theorem acyclic_of_check {classes : List ClassFile} (rank : TypeName → Nat)
    (h : ∀ c ∈ classes, ∀ d ∈ classes, d.thisClass ∈ c.supertypes → rank d.thisClass < rank c.thisClass) :
    Acyclic classes := by
  refine acyclic_of_rank rank fun a b hab => ?_
  obtain ⟨c, hc, d, hd, rfl, rfl, hm⟩ := hab
  exact h c hc d hd hm

/-- Every type but `Sub` comes first. -/
def subLast (t : TypeName) : Nat := if t = ⟨"Sub"⟩ then 1 else 0

/-- The subclass overrides a renamed method and declares one that has the new name already. -/
def occupiedName : List ClassFile :=
  [sketch "Base" [] [("m", "()I"), ("m", "()J")], sketch "Sub" ["Base"] [("m", "()J"), ("m_1", "()I")]]

theorem occupiedName_names :
    ofClasses occupiedName ⟨true, false⟩ =
      ⟨[(⟨"Base"⟩, ⟨[], [("m()J", "m_1")]⟩), (⟨"Sub"⟩, ⟨[], [("m()J", "m_1")]⟩)]⟩ := by
  simp only [occupiedName, sketch, List.head?_nil, List.head?_cons, List.tail_nil, List.tail_cons, List.map_nil,
    List.map_cons]
  cbv

theorem occupiedName_acyclic : Acyclic occupiedName := acyclic_of_check subLast (by decide)

theorem occupiedName_extends : Supertype occupiedName ⟨"Sub"⟩ ⟨"Base"⟩ :=
  ⟨sketch "Sub" ["Base"] [("m", "()J"), ("m_1", "()I")], by decide, sketch "Base" [] [("m", "()I"), ("m", "()J")],
    by decide, rfl, rfl, by decide⟩

/-! ## Overrides -/

section Resolve

variable {classes : List ClassFile} (hd : (classes.map (·.thisClass)).Nodup) (ha : Acyclic classes)
  {rules : NamingRules} (hr : rules.duplicateMembers = true) {c : ClassFile} (hc : c ∈ classes) {m : Member}

include hd ha

/-- The new names of a class are those its pass filed. -/
theorem methodName_pass (hc : c ∈ classes) (m : Member) :
    (ofClasses classes rules).methodName c.thisClass m.name m.descriptor =
      ((ofClasses classes rules).passOver (.ofList classes) rules c c.methods).renames.get? (keyOf m) :=
  (resolve_settled hd ha rules empty).methodName ((WorkingSet.get?_ofList hd).2 ⟨hc, rfl⟩) m.name m.descriptor

theorem inheritedName_of_not_inherits (hc : c ∈ classes) (hn : ¬ (ofClasses classes rules).Inherits classes c m) :
    (ofClasses classes rules).inheritedName (.ofList classes) c m.name m.descriptor = none := by
  rcases hi : (ofClasses classes rules).inheritedName (.ofList classes) c m.name m.descriptor with _ | r
  · rfl
  · exact (hn ((inherits_iff hd ha hc).1 ⟨r, hi⟩)).elim

include hr hc

/-- A method with a new name in some ancestor has the new name of one of them. -/
theorem methodName_of_inherits (hm : m ∈ c.methods) (hs : isSpecial m.name = false)
    (h : (ofClasses classes rules).Inherits classes c m) :
    ∃ t r, TransGen (Supertype classes) c.thisClass t ∧
      (ofClasses classes rules).methodName t m.name m.descriptor = some r ∧
      (ofClasses classes rules).methodName c.thisClass m.name m.descriptor = some r := by
  obtain ⟨r, hi⟩ := (inherits_iff hd ha hc).2 h
  obtain ⟨t, hct, ht⟩ := inherited_from hd ha hc hi
  refine ⟨t, r, hct, ht, ?_⟩
  rw [methodName_pass hd ha hc]
  exact (passed hr c.methods).inherited m hm hs r hi

/-- A method with no new name in any ancestor is renamed exactly when it, or a method with the same key,
repeats a signature; and then no method of the class had that name. -/
theorem methodName_of_own (h : ¬ (ofClasses classes rules).Inherits classes c m) :
    ((ofClasses classes rules).methodName c.thisClass m.name m.descriptor = none ↔
      ¬ ∃ e, keyOf e = keyOf m ∧ (ofClasses classes rules).Repeated (.ofList classes) c c.methods e) ∧
    ∀ v, (ofClasses classes rules).methodName c.thisClass m.name m.descriptor = some v →
      ∀ d ∈ c.methods, d.name ≠ v := by
  have hp : (ofClasses classes rules).Passed (.ofList classes) c c.methods _ := passed hr c.methods
  have hi := inheritedName_of_not_inherits hd ha hc h
  rw [methodName_pass hd ha hc]
  refine ⟨⟨fun hn => ?_, fun hn => ?_⟩, fun v hv => (hp.fresh m v hi hv).1⟩
  · rintro ⟨e, hk, he⟩
    have := hp.repeated e he
    rw [hk, hn] at this
    cases this
  · rcases hv : (passOver _ _ rules c c.methods).renames.get? (keyOf m) with _ | v
    · rfl
    · exact (hn (hp.fresh m v hi hv).2).elim

variable (rules) in
/-- A method of a class, and the name an ancestor `a` has for it. If ancestors of the class have new names for
the method, it takes one of these. So when `a` has a new name that no other ancestor contradicts, both have
it. When no ancestor has a new name, the method has its own name in `a`, and the class agrees unless a
signature is repeated there. -/
theorem overrides_agree {a : TypeName} (hca : TransGen (Supertype classes) c.thisClass a)
    (hm : m ∈ c.methods) (hs : isSpecial m.name = false) :
    ((ofClasses classes rules).Inherits classes c m → ∃ t, TransGen (Supertype classes) c.thisClass t ∧
      (ofClasses classes rules).methodName t m.name m.descriptor =
        some (finalMethodName (ofClasses classes rules) c.thisClass m)) ∧
    (∀ r, (ofClasses classes rules).methodName a m.name m.descriptor = some r →
      (∀ t s, TransGen (Supertype classes) c.thisClass t →
        (ofClasses classes rules).methodName t m.name m.descriptor = some s → s = r) →
      finalMethodName (ofClasses classes rules) c.thisClass m =
        finalMethodName (ofClasses classes rules) a m) ∧
    (¬ (ofClasses classes rules).Inherits classes c m →
      finalMethodName (ofClasses classes rules) a m = m.name ∧
      (finalMethodName (ofClasses classes rules) c.thisClass m =
          finalMethodName (ofClasses classes rules) a m ↔
        ¬ ∃ e, keyOf e = keyOf m ∧ (ofClasses classes rules).Repeated (.ofList classes) c c.methods e)) := by
  refine ⟨fun hi => ?_, fun r hra hall => ?_, fun hn => ?_⟩
  · obtain ⟨t, r, hct, ht, hcr⟩ := methodName_of_inherits hd ha hr hc hm hs hi
    refine ⟨t, hct, ?_⟩
    rw [finalMethodName, hcr, Option.getD_some, ht]
  · obtain ⟨t, s, hct, ht, hcs⟩ := methodName_of_inherits hd ha hr hc hm hs ⟨_, r, hca, hra⟩
    rw [hall t s hct ht] at hcs
    rw [finalMethodName, finalMethodName, hcs, hra]
  · have hra : (ofClasses classes rules).methodName a m.name m.descriptor = none :=
      Option.eq_none_iff_forall_ne_some.2 fun r hr => hn ⟨_, r, hca, hr⟩
    obtain ⟨hnone, hfresh⟩ := methodName_of_own hd ha hr hc hn
    rw [finalMethodName, finalMethodName, hra, Option.getD_none, ← hnone]
    refine ⟨rfl, fun he => ?_, fun he => by rw [he, Option.getD_none]⟩
    rcases hv : (ofClasses classes rules).methodName c.thisClass m.name m.descriptor with _ | v
    · rfl
    · rw [hv, Option.getD_some] at he
      exact (hfresh v hv m hm he.symm).elim

end Resolve

/-- The subclass takes over the new name of the method it overrides. -/
theorem overrides_agree_of_renamed :
    (ofClasses occupiedName ⟨true, false⟩).methodName ⟨"Base"⟩ "m" "()J" = some "m_1" ∧
      finalMethodName (ofClasses occupiedName ⟨true, false⟩) ⟨"Sub"⟩ ⟨Access.isPublic, "m", "()J", none⟩ =
        finalMethodName (ofClasses occupiedName ⟨true, false⟩) ⟨"Base"⟩ ⟨Access.isPublic, "m", "()J", none⟩ := by
  have hbase : (ofClasses occupiedName ⟨true, false⟩).methodName ⟨"Base"⟩ "m" "()J" = some "m_1" := by
    rw [occupiedName_names]
    decide
  refine ⟨hbase, ?_⟩
  have h := overrides_agree (c := sketch "Sub" ["Base"] [("m", "()J"), ("m_1", "()I")]) (a := ⟨"Base"⟩)
    (m := ⟨Access.isPublic, "m", "()J", none⟩) (by decide) occupiedName_acyclic ⟨true, false⟩ rfl (by decide)
    (.single occupiedName_extends) (by decide) (by decide)
  refine h.2.1 "m_1" hbase fun t s _ hs => ?_
  rw [occupiedName_names] at hs
  by_cases hb : (⟨"Base"⟩ : TypeName) = t
  · subst hb; cases hs; rfl
  · by_cases ht : (⟨"Sub"⟩ : TypeName) = t
    · subst ht; cases hs; rfl
    · simp [methodName, Table.get?, hb, ht] at hs

/-- Neither private nor static nor special. -/
def isOverridable (m : Member) : Bool := !m.has Access.isPrivate && !m.has Access.isStatic && !isSpecial m.name

/-- Every override has the final name of what it overrides. -/
def OverridesAgree (classes : List ClassFile) (rules : NamingRules) : Prop :=
  ∀ c ∈ classes, ∀ a ∈ classes, TransGen (Supertype classes) c.thisClass a.thisClass →
    ∀ m ∈ c.methods, ∀ m' ∈ a.methods, m'.name = m.name → m'.descriptor = m.descriptor →
      isOverridable m = true → isOverridable m' = true →
      finalMethodName (ofClasses classes rules) c.thisClass m = finalMethodName (ofClasses classes rules) a.thisClass m'

/-- The subclass repeats a signature, and renames the method that its superclass did not have to rename. -/
def repeatingOverride : List ClassFile :=
  [sketch "Base" [] [("m", "()I")], sketch "Sub" ["Base"] [("m", "()J"), ("m", "()I")]]

/-- The superclass and the interface have different new names for one method. -/
def partedOverride : List ClassFile :=
  [sketch "Left" [] [("m", "()I"), ("m", "()J")], sketch "Right" [] [("m", "()I"), ("m", "()V"), ("m", "()J")],
    sketch "Sub" ["Left", "Right"] [("m", "()J")]]

/-- Both ways in which an override gets another name than what it overrides. -/
theorem overrides_disagree :
    ((repeatingOverride.map (·.thisClass)).Nodup ∧ Acyclic repeatingOverride ∧
      ¬ OverridesAgree repeatingOverride ⟨true, false⟩) ∧
    ((partedOverride.map (·.thisClass)).Nodup ∧ Acyclic partedOverride ∧
      ¬ OverridesAgree partedOverride ⟨true, false⟩) := by
  refine ⟨⟨by decide, acyclic_of_check subLast (by decide), fun h => ?_⟩,
    ⟨by decide, acyclic_of_check subLast (by decide), fun h => ?_⟩⟩
  · have hn : ofClasses repeatingOverride ⟨true, false⟩ = ⟨[(⟨"Sub"⟩, ⟨[], [("m()I", "m_1")]⟩)]⟩ := by
      simp only [repeatingOverride, sketch, List.head?_nil, List.head?_cons, List.tail_nil, List.tail_cons, List.map_nil,
        List.map_cons]
      cbv
    have hagree := h (sketch "Sub" ["Base"] [("m", "()J"), ("m", "()I")]) (by decide)
      (sketch "Base" [] [("m", "()I")]) (by decide) (.single ⟨_, by decide, _, by decide, rfl, rfl, by decide⟩)
      ⟨Access.isPublic, "m", "()I", none⟩ (by decide) ⟨Access.isPublic, "m", "()I", none⟩ (by decide) rfl rfl
      (by decide) (by decide)
    rw [hn] at hagree
    exact absurd hagree (by decide)
  · have hn : ofClasses partedOverride ⟨true, false⟩ = ⟨[(⟨"Left"⟩, ⟨[], [("m()J", "m_1")]⟩),
        (⟨"Right"⟩, ⟨[], [("m()V", "m_1"), ("m()J", "m_2")]⟩), (⟨"Sub"⟩, ⟨[], [("m()J", "m_2")]⟩)]⟩ := by
      simp only [partedOverride, sketch, List.head?_nil, List.head?_cons, List.tail_nil, List.tail_cons, List.map_nil,
        List.map_cons]
      cbv
    have hagree := h (sketch "Sub" ["Left", "Right"] [("m", "()J")]) (by decide)
      (sketch "Left" [] [("m", "()I"), ("m", "()J")]) (by decide)
      (.single ⟨_, by decide, _, by decide, rfl, rfl, by decide⟩)
      ⟨Access.isPublic, "m", "()J", none⟩ (by decide) ⟨Access.isPublic, "m", "()J", none⟩ (by decide) rfl rfl
      (by decide) (by decide)
    rw [hn] at hagree
    exact absurd hagree (by decide)

/-! ## Clashes -/

section Resolve

variable {classes : List ClassFile} (hd : (classes.map (·.thisClass)).Nodup) (ha : Acyclic classes)
  {rules : NamingRules} (hr : rules.duplicateMembers = true) {c : ClassFile} (hc : c ∈ classes) {m : Member}

include hd ha hr hc

variable (rules) in
omit hr in
/-- What is filed for a method is in place as soon as no method with its key is left. -/
theorem methodName_front {front back : List Member} (hms : c.methods = front ++ back)
    (hk : ∀ e ∈ back, keyOf e ≠ keyOf m) : (ofClasses classes rules).methodName c.thisClass m.name m.descriptor =
      ((ofClasses classes rules).passOver (.ofList classes) rules c front).renames.get? (keyOf m) := by
  rw [methodName_pass hd ha hc, hms]
  exact get?_passOver_append front back hk

/-- A method that inherits nothing, when it is its turn: it gets a name that is not taken, or it keeps its own
because nobody before has its signature. -/
theorem own_turn (hk : (c.methods.map keyOf).Nodup) {front back : List Member} (hms : c.methods = front ++ m :: back)
    (ho : (ofClasses classes rules).Own (.ofList classes) c m) :
    (∃ v, (ofClasses classes rules).methodName c.thisClass m.name m.descriptor = some v ∧
      v ∉ ((ofClasses classes rules).passOver (.ofList classes) rules c front).taken) ∨
    ((ofClasses classes rules).methodName c.thisClass m.name m.descriptor = none ∧
      ∀ e ∈ front, (ofClasses classes rules).Own (.ofList classes) c e → signature e ≠ signature m) := by
  rw [hms, List.map_append, List.map_cons] at hk
  obtain ⟨-, hback, hapart⟩ := List.nodup_append.1 hk
  have hp : (ofClasses classes rules).Passed (.ofList classes) c front
      ((ofClasses classes rules).passOver (.ofList classes) rules c front) := passed hr front
  have hms : c.methods = (front ++ [m]) ++ back := by simp [hms]
  have hlater : ∀ e ∈ back, keyOf e ≠ keyOf m :=
    fun e he hke => (List.nodup_cons.1 hback).1 (hke ▸ List.mem_map_of_mem (f := keyOf) he)
  have hearlier : ((ofClasses classes rules).passOver (.ofList classes) rules c front).renames.get? (keyOf m) = none :=
    hp.untouched _ fun e he _ => hapart _ (List.mem_map_of_mem (f := keyOf) he) _ (List.mem_cons_self ..)
  rw [methodName_front hd ha rules hc hms hlater, passOver_snoc]
  rcases nameMethod_cases _ (.ofList classes) rules c hr (passOver _ (.ofList classes) rules c front) m with
    ⟨hs, -⟩ | ⟨r, -, hi, -⟩ | ⟨-, -, he⟩ | ⟨-, hm, he⟩
  · rw [ho.1] at hs; cases hs
  · rw [ho.2] at hi; cases hi
  · exact .inl ⟨_, by rw [he, Table.get?_put, if_pos rfl], freshName_not_mem _ _⟩
  · refine .inr ⟨by rw [he]; exact hearlier, fun e he ho hse => hm ((hp.seen _).2 ⟨e, he, ho, hse⟩)⟩

variable (rules) in
/-- Of two methods of a class, the one before the other, that end up with the same name and take the same
parameters, the later one has its name from an ancestor; or the earlier one has, and the later one keeps its
own. The methods of the class are told apart by their keys. -/
theorem clash_of_inherited (hk : (c.methods.map keyOf).Nodup) {front middle back : List Member} {m₁ m₂ : Member}
    (hms : c.methods = front ++ m₁ :: middle ++ m₂ :: back) (h₁ : isSpecial m₁.name = false)
    (h₂ : isSpecial m₂.name = false)
    (hname : finalMethodName (ofClasses classes rules) c.thisClass m₁ =
      finalMethodName (ofClasses classes rules) c.thisClass m₂)
    (hparams : Descriptor.parameterPart m₁.descriptor = Descriptor.parameterPart m₂.descriptor) :
    (ofClasses classes rules).Inherits classes c m₂ ∨
      ((ofClasses classes rules).Inherits classes c m₁ ∧
        (ofClasses classes rules).methodName c.thisClass m₂.name m₂.descriptor = none) := by
  by_cases hn₂ : (ofClasses classes rules).Inherits classes c m₂
  · exact .inl hn₂
  have ho₂ : (ofClasses classes rules).Own (.ofList classes) c m₂ := ⟨h₂, inheritedName_of_not_inherits hd ha hc hn₂⟩
  have hp : (ofClasses classes rules).Passed (.ofList classes) c (front ++ m₁ :: middle)
      ((ofClasses classes rules).passOver (.ofList classes) rules c (front ++ m₁ :: middle)) := passed hr _
  have hm₁ : m₁ ∈ c.methods := by simp [hms]
  have hm₂ : m₂ ∈ c.methods := by simp [hms]
  unfold finalMethodName at hname
  rcases own_turn hd ha hr hc hk hms ho₂ with ⟨v, hv, hfree⟩ | ⟨hnone, hnew⟩
  · -- A fresh name differs from every name the methods before have by then.
    have hk₁ : ∀ e ∈ m₂ :: back, keyOf e ≠ keyOf m₁ := by
      rw [hms, List.map_append] at hk
      intro e he hke
      exact (List.nodup_append.1 hk).2.2 (keyOf m₁) (by simp) _ (List.mem_map_of_mem he) hke.symm
    have hfront := methodName_front (m := m₁) hd ha rules hc hms hk₁
    rw [hv, Option.getD_some] at hname
    rcases hv₁ : (ofClasses classes rules).methodName c.thisClass m₁.name m₁.descriptor with _ | v₁
    · rw [hv₁, Option.getD_none] at hname
      exact (hfree (hname ▸ hp.names m₁ hm₁)).elim
    · rw [hv₁, Option.getD_some] at hname
      exact (hfree (hname ▸ hp.taken _ v₁ (hfront.symm.trans hv₁))).elim
  · refine .inr ⟨?_, hnone⟩
    by_contra hn₁
    have ho₁ : (ofClasses classes rules).Own (.ofList classes) c m₁ := ⟨h₁, inheritedName_of_not_inherits hd ha hc hn₁⟩
    rw [hnone, Option.getD_none] at hname
    rcases hv₁ : (ofClasses classes rules).methodName c.thisClass m₁.name m₁.descriptor with _ | v₁
    · -- Both keep their names, so the later one repeats the signature of the earlier one.
      rw [hv₁, Option.getD_none] at hname
      refine hnew m₁ (by simp) ho₁ ?_
      rw [signature, signature, hname, hparams]
    · rw [hv₁, Option.getD_some] at hname
      exact (methodName_of_own hd ha hr hc hn₁).2 v₁ hv₁ m₂ hm₂ hname.symm

end Resolve

/-- An inherited name meets a method that had it already. -/
theorem clash_of_inherited_occupied :
    let n := ofClasses occupiedName ⟨true, false⟩
    let sub := sketch "Sub" ["Base"] [("m", "()J"), ("m_1", "()I")]
    finalMethodName n ⟨"Sub"⟩ ⟨Access.isPublic, "m", "()J", none⟩ =
        finalMethodName n ⟨"Sub"⟩ ⟨Access.isPublic, "m_1", "()I", none⟩ ∧
      (n.Inherits occupiedName sub ⟨Access.isPublic, "m_1", "()I", none⟩ ∨
        (n.Inherits occupiedName sub ⟨Access.isPublic, "m", "()J", none⟩ ∧ n.methodName ⟨"Sub"⟩ "m_1" "()I" = none)) := by
  intro n sub
  have hname : finalMethodName n ⟨"Sub"⟩ ⟨Access.isPublic, "m", "()J", none⟩ =
      finalMethodName n ⟨"Sub"⟩ ⟨Access.isPublic, "m_1", "()I", none⟩ := by
    show finalMethodName (ofClasses occupiedName ⟨true, false⟩) _ _ = finalMethodName (ofClasses occupiedName _) _ _
    rw [occupiedName_names]
    decide
  refine ⟨hname, ?_⟩
  exact clash_of_inherited (c := sub) (by decide) occupiedName_acyclic ⟨true, false⟩ rfl (by decide) (by decide)
    (show sub.methods = [] ++ _ :: [] ++ _ :: [] from rfl) (by decide) (by decide) hname (by decide)

/-- No two methods of the class end up with the same name and the same parameters. -/
def MethodsApart (n : Naming) (c : ClassFile) : Prop :=
  ∀ m₁ ∈ c.methods, ∀ m₂ ∈ c.methods, m₁ ≠ m₂ → isSpecial m₁.name = false → isSpecial m₂.name = false →
    ¬ (finalMethodName n c.thisClass m₁ = finalMethodName n c.thisClass m₂ ∧
      Descriptor.parameterPart m₁.descriptor = Descriptor.parameterPart m₂.descriptor)

/-- Of classes without circles, one whose methods are told apart by name and descriptor has a clash all the same. -/
def Clashes (classes : List ClassFile) (c : ClassFile) : Prop :=
  (classes.map (·.thisClass)).Nodup ∧ Acyclic classes ∧ c ∈ classes ∧
    (c.methods.map fun m => (m.name, m.descriptor)).Nodup ∧ ¬ MethodsApart (ofClasses classes ⟨true, false⟩) c

/-- The subclass gives a method a fresh name before another one inherits that name. -/
def overtakenName : List ClassFile :=
  [sketch "Base" [] [("m", "()I"), ("m", "()J")], sketch "Sub" ["Base"] [("m", "()I"), ("m", "()V"), ("m", "()J")]]

/-- Two methods whose names and descriptors run together alike. -/
def sharedKey : List ClassFile := [sketch "X" [] [("a)", ")I"), ("a)", ")V"), ("a", "))V")]]

/-- An inherited name clashes with a name that was kept and with a fresh one that came before it; and
methods with one key share a new name. -/
theorem methods_clash :
    Clashes occupiedName (sketch "Sub" ["Base"] [("m", "()J"), ("m_1", "()I")]) ∧
    Clashes overtakenName (sketch "Sub" ["Base"] [("m", "()I"), ("m", "()V"), ("m", "()J")]) ∧
    Clashes sharedKey (sketch "X" [] [("a)", ")I"), ("a)", ")V"), ("a", "))V")]) := by
  refine ⟨⟨by decide, occupiedName_acyclic, by decide, by decide, fun h => ?_⟩,
    ⟨by decide, acyclic_of_check subLast (by decide), by decide, by decide, fun h => ?_⟩,
    ⟨by decide, acyclic_of_check subLast (by decide), by decide, by decide, fun h => ?_⟩⟩
  · refine h ⟨Access.isPublic, "m", "()J", none⟩ (by decide) ⟨Access.isPublic, "m_1", "()I", none⟩ (by decide)
      (by decide) (by decide) (by decide) ?_
    rw [occupiedName_names]
    decide
  · have hn : ofClasses overtakenName ⟨true, false⟩ = ⟨[(⟨"Base"⟩, ⟨[], [("m()J", "m_1")]⟩),
        (⟨"Sub"⟩, ⟨[], [("m()V", "m_1"), ("m()J", "m_1")]⟩)]⟩ := by
      simp only [overtakenName, sketch, List.head?_nil, List.head?_cons, List.tail_nil, List.tail_cons, List.map_nil,
        List.map_cons]
      cbv
    refine h ⟨Access.isPublic, "m", "()V", none⟩ (by decide) ⟨Access.isPublic, "m", "()J", none⟩ (by decide)
      (by decide) (by decide) (by decide) ?_
    rw [hn]
    decide
  · have hn : ofClasses sharedKey ⟨true, false⟩ = ⟨[(⟨"X"⟩, ⟨[], [("a))V", "a)_1")]⟩)]⟩ := by
      simp only [sharedKey, sketch, List.head?_nil, List.tail_nil, List.map_nil, List.map_cons]
      cbv
    refine h ⟨Access.isPublic, "a)", ")V", none⟩ (by decide) ⟨Access.isPublic, "a", "))V", none⟩ (by decide)
      (by decide) (by decide) (by decide) ?_
    rw [hn]
    decide

end Naming

end ClassSkeleton
