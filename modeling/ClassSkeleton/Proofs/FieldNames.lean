import ClassSkeleton.Model
import ClassSkeleton.Proofs.NamingPurity
import ClassSkeleton.Proofs.FieldPass

/-
  ClassSkeleton.Proofs.FieldNames — final names of fields and of enum constants.

  The fields of a class are named from the class alone. So it has these names after any list of classes it
  is in was named, whatever was known before and whether or not supertypes go round in circles
  (`fieldName_resolve`).

  With repeated names renamed, a class whose fields are told apart by name and descriptor ends up with a
  name for each field, and no field is renamed without need: one keeps its name unless the rule for enums
  renames it or an earlier field that rule leaves alone has the name (`fields_told_apart`).

  With the rule for enums, the constants of an enum end up with legal names (`constants_legal_apart`), and
  with different ones as long as name and descriptor tell them apart. They do not when a constant is there
  twice, and not when a colon in a name hides where the descriptor begins: then the one new name is filed for
  both (`constants_meet`).
-/

namespace ClassSkeleton

namespace Naming

open Identifier ClassModel

/-! ## After naming a list of classes -/

section Resolve

variable {n : Naming} {set : WorkingSet} {rules : NamingRules} {c : ClassFile} {t : TypeName}

theorem nameClass_fieldName (hc : set.get? t = some c) (name descriptor : String) :
    (nameClass set rules n t).fieldName t name descriptor = (fieldRenames rules c).get? (fieldKey name descriptor) := by
  rw [fieldName, nameClass_self hc, Renames.entry]
  split
  · next he =>
    simp only [assign, Renames.isEmpty, Bool.and_eq_true, List.isEmpty_iff] at he
    rw [he.1]
    rfl
  · rfl

/-- The last time a class is named decides. -/
theorem foldl_fieldName (hc : set.get? t = some c) {order : List TypeName} (ht : t ∈ order) (name descriptor : String) :
    (order.foldl (nameClass set rules) n).fieldName t name descriptor =
      (fieldRenames rules c).get? (fieldKey name descriptor) := by
  induction order using List.reverseRecOn with
  | nil => cases ht
  | append_singleton order s ih =>
    rw [List.foldl_append, List.foldl_cons, List.foldl_nil]
    by_cases hs : t = s
    · subst hs
      exact nameClass_fieldName hc name descriptor
    · have ht : t ∈ order := by simpa [hs] using ht
      rw [← ih ht, fieldName, fieldName, nameClass_other hs]

theorem fieldName_resolve {classes : List ClassFile} (hd : (classes.map (·.thisClass)).Nodup) (hc : c ∈ classes)
    (name descriptor : String) : (n.resolve classes rules).fieldName c.thisClass name descriptor =
      (fieldRenames rules c).get? (fieldKey name descriptor) := by
  have hget : (WorkingSet.ofList classes).get? c.thisClass = some c := (WorkingSet.get?_ofList hd).2 ⟨hc, rfl⟩
  exact foldl_fieldName hget (WorkingSet.mem_order hget) name descriptor

variable (n rules) in
theorem finalFieldName_resolve {classes : List ClassFile} (hd : (classes.map (·.thisClass)).Nodup) (hc : c ∈ classes)
    (f : Member) : finalFieldName (n.resolve classes rules) c.thisClass f =
      ((lastPass rules c).renames.get? (fieldKeyOf f)).getD f.name := by
  rw [finalFieldName, fieldName_resolve hd hc, fieldRenames_eq]
  rfl

end Resolve

/-! ## Fields -/

/-- Where keys are told apart, a field is left alone exactly when the rule for enums leaves it alone and renames
every earlier field of its name. -/
theorem lastPass_get?_apart {rules : NamingRules} {c : ClassFile} (hr : rules.duplicateMembers = true)
    (hk : (c.fields.map fieldKeyOf).Nodup) {front back : List Member} {f : Member}
    (hf : c.fields = front ++ f :: back) : (lastPass rules c).renames.get? (fieldKeyOf f) = none ↔
      ¬ RenamedConstant rules c front f ∧
        ∀ before g after, front = before ++ g :: after → g.name = f.name → RenamedConstant rules c before g := by
  have hearlier {before after : List Member} {g : Member} (hg : front = before ++ g :: after) :
      (constantPass rules c).renames.get? (fieldKeyOf g) = none ↔ ¬ RenamedConstant rules c before g :=
    constants_get?_apart hk (show c.fields = before ++ g :: (after ++ f :: back) by simp [hf, hg])
  rw [lastPass, if_pos hr, repeats_get? hk hf, constants_get?_apart hk hf, and_congr_right_iff]
  intro _
  constructor
  · intro h before g after hg hname
    by_contra hn
    exact h g (by simp [hg]) ((hearlier hg).2 hn) hname
  · intro h g hg hnone hname
    obtain ⟨before, after, hsplit⟩ := List.append_of_mem hg
    exact (hearlier hsplit).1 hnone (h before g after hsplit hname)

/-- A class in outline: an enum with constants, given by name and descriptor, and ordinary fields behind them. -/
def enumSketch (type : String) (constants fields : List (String × String)) : ClassFile :=
  ⟨0, 52, Access.isPublic ||| Access.isEnum, ⟨type⟩, some ⟨"java.lang.Enum"⟩, [],
    (constants.map fun f => ⟨Access.isPublic ||| Access.isEnum, f.1, f.2, none⟩) ++
      fields.map fun f => ⟨Access.isPublic, f.1, f.2, none⟩, [], [], none⟩

section Fields

variable {classes : List ClassFile} (hd : (classes.map (·.thisClass)).Nodup) (n : Naming) {rules : NamingRules}
  {c : ClassFile} (hc : c ∈ classes)

include hd hc

/-- Where repeated names are renamed and the keys of the fields are told apart, no two fields of a class have
one name in the end. A field has its own exactly when the rule for enums does not rename it and no earlier
field that this rule leaves alone has the name. -/
theorem fields_told_apart (hr : rules.duplicateMembers = true) (hk : (c.fields.map fieldKeyOf).Nodup) :
    (c.fields.map (finalFieldName (n.resolve classes rules) c.thisClass)).Nodup ∧
    ∀ front f back, c.fields = front ++ f :: back →
      (finalFieldName (n.resolve classes rules) c.thisClass f = f.name ↔
        ¬ RenamedConstant rules c front f ∧
          ∀ before g after, front = before ++ g :: after → g.name = f.name → RenamedConstant rules c before g) := by
  have hspread := lastPass_spread rules c
  simp only [funext (finalFieldName_resolve n rules hd hc)]
  constructor
  · refine nodup_map_iff.2 fun {f g} hfg he => ?_
    obtain ⟨front, back, hg, hf⟩ := exists_place hfg
    obtain ⟨before, after, rfl⟩ := List.append_of_mem hf
    obtain ⟨hfn, hgn, hname⟩ := hspread.meet (by simp [hg]) (by simp [hg]) (nodup_map_iff.1 hk hfg) he
    -- Of two fields that keep one name, the rule for enums would have renamed the first.
    have hfirst := ((lastPass_get?_apart hr hk hg).1 hgn).2 before f after rfl hname
    have hf : c.fields = before ++ f :: (after ++ g :: back) := by simp [hg]
    exact ((lastPass_get?_apart hr hk hf).1 hfn).1 hfirst
  · intro front f back hf
    rw [hspread.final_eq_iff (by simp [hf]), lastPass_get?_apart hr hk hf]

end Fields

/-- An illegal constant, a constant with the name its ordinal stands for, and ordinary fields that repeat a
constant and each other. -/
def crowdedEnum : ClassFile :=
  enumSketch "E" [("if", "LE;"), ("CONSTANT_0", "LE;"), ("a", "LE;")] [("a", "I"), ("a", "J"), ("a_1", "I")]

/-- The illegal constant and the repeated fields get new names, the others keep theirs. -/
theorem fields_told_apart_of_crowded :
    crowdedEnum.fields.map (finalFieldName (resolve empty [crowdedEnum] ⟨true, true⟩) crowdedEnum.thisClass) =
        ["CONSTANT_0_1", "CONSTANT_0", "a", "a_2", "a_3", "a_1"] ∧
      (crowdedEnum.fields.map
        (finalFieldName (resolve empty [crowdedEnum] ⟨true, true⟩) crowdedEnum.thisClass)).Nodup := by
  constructor
  · rw [funext (finalFieldName_resolve empty ⟨true, true⟩ (by decide) (List.mem_singleton_self crowdedEnum))]
    decide +kernel
  · exact (fields_told_apart (by decide) empty (by simp) rfl (by decide)).1

/-! ## Constants -/

theorem colon_not_mem_of_isLegal {name : String} (h : isLegal name = true) : ':' ∉ name.toList := by
  have hstart : mayStart ':' = false := by decide
  have hfollow : mayFollow ':' = false := by decide
  unfold isLegal at h
  cases hn : name.toList with
  | nil => simp
  | cons c cs =>
    simp only [hn, Bool.and_eq_true, List.all_eq_true] at h
    rw [List.mem_cons, not_or]
    refine ⟨fun he => ?_, fun hm => ?_⟩
    · rw [← he, hstart] at h
      cases h.1.1
    · have := h.1.2 _ hm
      rw [hfollow] at this
      cases this

/-- Legal names are read off the key. -/
theorem name_eq_of_isLegal {f g : Member} (hk : fieldKeyOf f = fieldKeyOf g) (hf : isLegal f.name = true)
    (hg : isLegal g.name = true) : f.name = g.name := by
  have hlist : f.name.toList ++ ':' :: f.descriptor.toList = g.name.toList ++ ':' :: g.descriptor.toList := by
    simpa [fieldKeyOf, fieldKey] using congrArg String.toList hk
  have hcut := Text.cutFirst_append (b := f.descriptor.toList) (colon_not_mem_of_isLegal hf)
  rw [hlist, Text.cutFirst_append (colon_not_mem_of_isLegal hg)] at hcut
  simp only [Option.some.injEq, Prod.mk.injEq] at hcut
  exact (String.toList_inj.1 hcut.1).symm

section Constants

variable {rules : NamingRules} (hr : rules.enumMembers = true) {c : ClassFile} (he : c.has Access.isEnum = true)

include hr he

/-- A constant for which nothing is filed is not displaced. -/
theorem not_displaced {before after : List Member} {f : Member} (hf : c.fields = before ++ f :: after)
    (hn : (constantPass rules c).renames.get? (fieldKeyOf f) = none) : ¬ Displaced before f := by
  intro hd
  have hsome := (constantPass_get? rules c (fieldKeyOf f)).2 ⟨before, f, after, hf, ⟨hr, he, hd⟩, rfl⟩
  rw [hn] at hsome
  cases hsome

theorem isLegal_of_kept {f : Member} (hf : f ∈ enumConstants c)
    (hn : (constantPass rules c).renames.get? (fieldKeyOf f) = none) : isLegal f.name = true := by
  obtain ⟨hm, hen⟩ := List.mem_filter.1 hf
  obtain ⟨before, after, hsplit⟩ := List.append_of_mem hm
  by_contra hl
  exact not_displaced hr he hsplit hn ⟨hen, .inl (by simpa using hl)⟩

/-- Constants with one key share their final name. -/
theorem final_eq_of_key {f g : Member} (hf : f ∈ enumConstants c) (hg : g ∈ enumConstants c)
    (hk : fieldKeyOf f = fieldKeyOf g) : ((lastPass rules c).renames.get? (fieldKeyOf f)).getD f.name =
      ((lastPass rules c).renames.get? (fieldKeyOf g)).getD g.name := by
  rw [← hk]
  rcases hv : (lastPass rules c).renames.get? (fieldKeyOf f) with _ | v
  · have hn := constantPass_eq_none hv
    exact name_eq_of_isLegal hk (isLegal_of_kept hr he hf hn) (isLegal_of_kept hr he hg (hk ▸ hn))
  · rfl

/-- Constants with different keys have different final names: of two that keep one legal name, the later one
would be displaced. -/
theorem final_ne_of_key {f g : Member} (hfg : [f, g].Sublist (enumConstants c)) (hk : fieldKeyOf f ≠ fieldKeyOf g) :
    ((lastPass rules c).renames.get? (fieldKeyOf f)).getD f.name ≠
      ((lastPass rules c).renames.get? (fieldKeyOf g)).getD g.name := by
  intro heq
  have hf : f ∈ enumConstants c := hfg.subset (by simp)
  have hg : g ∈ enumConstants c := hfg.subset (by simp)
  obtain ⟨hfm, hfe⟩ := List.mem_filter.1 hf
  obtain ⟨hgm, hge⟩ := List.mem_filter.1 hg
  obtain ⟨hfn, hgn, hname⟩ := (lastPass_spread rules c).meet hfm hgm hk heq
  have hlegal := isLegal_of_kept hr he hf (constantPass_eq_none hfn)
  obtain ⟨before, after, hsplit, hfb⟩ := exists_place (hfg.trans List.filter_sublist)
  exact not_displaced hr he hsplit (constantPass_eq_none hgn) ⟨hge, .inr ⟨f, hfb, hfe, hlegal, hname⟩⟩

theorem final_legal {f : Member} (hf : f ∈ enumConstants c)
    (hk : ∀ g ∈ c.fields, fieldKeyOf g = fieldKeyOf f → g.name = f.name) :
    isLegal (((lastPass rules c).renames.get? (fieldKeyOf f)).getD f.name) = true := by
  rcases hv : (lastPass rules c).renames.get? (fieldKeyOf f) with _ | v
  · exact isLegal_of_kept hr he hf (constantPass_eq_none hv)
  · rcases lastPass_added hv with hold | ⟨hn, g, hg, hgk, taken, rfl⟩
    · exact constantPass_legal hold
    · rw [Option.getD_some, hk g hg hgk]
      exact isLegal_freshName (isLegal_of_kept hr he hf hn) taken

/-- With the rule for enums, the constants of an enum have different names in the end exactly when their keys
are different, and legal names as long as no field of another name has the key of a constant. -/
theorem constants_legal_apart {classes : List ClassFile} (hd : (classes.map (·.thisClass)).Nodup) (n : Naming)
    (hc : c ∈ classes) :
    (((enumConstants c).map (finalFieldName (n.resolve classes rules) c.thisClass)).Nodup ↔
      ((enumConstants c).map fieldKeyOf).Nodup) ∧
    ((∀ f ∈ enumConstants c, ∀ g ∈ c.fields, fieldKeyOf g = fieldKeyOf f → g.name = f.name) →
      ∀ f ∈ enumConstants c, isLegal (finalFieldName (n.resolve classes rules) c.thisClass f) = true) := by
  simp only [funext (finalFieldName_resolve n rules hd hc)]
  refine ⟨⟨fun h => ?_, fun h => ?_⟩, fun hk f hf => final_legal hr he hf (hk f hf)⟩
  · refine nodup_map_iff.2 fun {f g} hfg hkey => nodup_map_iff.1 h hfg ?_
    exact final_eq_of_key hr he (hfg.subset (by simp)) (hfg.subset (by simp)) hkey
  · exact nodup_map_iff.2 fun {f g} hfg => final_ne_of_key hr he hfg (nodup_map_iff.1 h hfg)

end Constants

/-- The constants of the crowded enum are told apart, and end up with legal names. -/
theorem constants_legal_apart_of_crowded :
    ((enumConstants crowdedEnum).map fieldKeyOf).Nodup ∧
      ((enumConstants crowdedEnum).map
        (finalFieldName (resolve empty [crowdedEnum] ⟨true, true⟩) crowdedEnum.thisClass)).Nodup ∧
      ∀ f ∈ enumConstants crowdedEnum,
        isLegal (finalFieldName (resolve empty [crowdedEnum] ⟨true, true⟩) crowdedEnum.thisClass f) = true := by
  have hr : (⟨true, true⟩ : NamingRules).enumMembers = true := rfl
  have he : crowdedEnum.has Access.isEnum = true := by decide
  have hd : ([crowdedEnum].map (·.thisClass)).Nodup := by decide
  have h := constants_legal_apart hr he hd empty (by simp)
  have hkeys : ((enumConstants crowdedEnum).map fieldKeyOf).Nodup := by decide
  exact ⟨hkeys, h.1.2 hkeys, h.2 (by decide)⟩

/-- The constants of the class end up with legal names, each with its own. -/
def ConstantsFit (n : Naming) (c : ClassFile) : Prop :=
  (∀ f ∈ enumConstants c, isLegal (finalFieldName n c.thisClass f) = true) ∧
    ((enumConstants c).map (finalFieldName n c.thisClass)).Nodup

/-- A constant that is there twice. -/
def twinEnum : ClassFile := enumSketch "E" [("A", "LE;"), ("A", "LE;")] []

/-- Two constants that differ in name and descriptor and have one key. -/
def colonEnum : ClassFile := enumSketch "E" [("a", "Lx:Ly;"), ("a:Lx", "Ly;")] []

/-- A constant with the key of an ordinary field, which repeats the name of another field. -/
def borrowedEnum : ClassFile := enumSketch "E" [("a", "Lx:Ly;")] [("a:Lx", "I"), ("a:Lx", "Ly;")]

theorem constantsFit_alone (rules : NamingRules) (c : ClassFile) :
    ConstantsFit (resolve empty [c] rules) c ↔
      (∀ f ∈ enumConstants c, isLegal (((lastPass rules c).renames.get? (fieldKeyOf f)).getD f.name) = true) ∧
      ((enumConstants c).map fun f => ((lastPass rules c).renames.get? (fieldKeyOf f)).getD f.name).Nodup := by
  rw [ConstantsFit, funext (finalFieldName_resolve empty rules (by simp) (List.mem_singleton_self c))]

/-- A new name is for every field with its key: for both of two constants, and for a legal constant beside a field
that is not. -/
theorem constants_meet :
    (twinEnum.has Access.isEnum = true ∧ ¬ ConstantsFit (resolve empty [twinEnum] ⟨false, true⟩) twinEnum) ∧
    (colonEnum.has Access.isEnum = true ∧ (colonEnum.fields.map fun f => (f.name, f.descriptor)).Nodup ∧
      ¬ ConstantsFit (resolve empty [colonEnum] ⟨false, true⟩) colonEnum) ∧
    (borrowedEnum.has Access.isEnum = true ∧ (borrowedEnum.fields.map fun f => (f.name, f.descriptor)).Nodup ∧
      ¬ ConstantsFit (resolve empty [borrowedEnum] ⟨true, true⟩) borrowedEnum) := by
  simp only [constantsFit_alone]
  decide +kernel

end Naming

end ClassSkeleton
