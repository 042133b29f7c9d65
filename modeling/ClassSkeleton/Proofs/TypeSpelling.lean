import Mathlib.Data.String.Basic
import ClassSkeleton.Proofs.NameParts
import ClassSkeleton.Proofs.NestModels

/-
  ClassSkeleton.Proofs.TypeSpelling — imports, and how types are spelled.

  A class uses the types its declaration refers to and those of the classes in it, at any depth (`ClassModel.Uses`); their
  outermost types are in play. An outermost type is contested when another one in play has its simple name. The four
  ways a used type can be spelled are told apart by that (`spelled_cases`): types of the class's own outermost type are short,
  other types of a contested one in full, and of the rest those of the class's package, of `java.lang` or of no package
  are short, while the outermost types of the others are imported.

  So what is imported, and what is short though it has a package, can be read in one way only (`imports_unambiguous`).

  Two types that are both written short are spelled differently. One that is written in full can meet another one, and
  does exactly when the spellings come out the same once nested types are separated by dots (`spelled_alike_iff`): a type
  nested in a class and one in a package of like name, or a type without a package, which has no more to its full name, and
  one of the class's own. Classes that use such types are `namesake`, `likeNamed` and `likeImported`.
-/

namespace ClassSkeleton

/-! ## What a class uses -/

namespace ClassModel

/-- What holds of a model as soon as it holds of the models in it holds of every model. -/
theorem inner_induction {P : ClassModel → Prop} (step : ∀ m : ClassModel, (∀ k ∈ m.inner, P k) → P m) (m : ClassModel) :
    P m := by
  refine ClassModel.rec (motive_1 := P) (motive_2 := fun models => ∀ k ∈ models, P k) ?_ ?_ ?_ m
  · exact fun _ _ _ _ _ _ _ _ _ _ _ _ _ _ inner => step _ inner
  · exact fun k hk => by cases hk
  · intro m models hm hmodels k hk
    rcases List.mem_cons.1 hk with rfl | hk
    · exact hm
    · exact hmodels k hk

/-- The declaration itself refers to the type: it is its own, or a supertype, field or method has it. -/
inductive Refers (m : ClassModel) : TypeName → Prop where
  | self : Refers m m.type
  | superClass {j : JavaType} {t : TypeName} (h : m.superClass = some j) (r : j.referenced = some t) : Refers m t
  | interface {j : JavaType} {t : TypeName} (h : j ∈ m.interfaces) (r : j.referenced = some t) : Refers m t
  | field {f : FieldModel} {t : TypeName} (h : f ∈ m.fields) (r : f.type.referenced = some t) : Refers m t
  | returned {x : MethodModel} {j : JavaType} {t : TypeName} (h : x ∈ m.methods) (hj : x.returnType = some j)
      (r : j.referenced = some t) : Refers m t
  | param {x : MethodModel} {j : JavaType} {t : TypeName} (h : x ∈ m.methods) (hj : j ∈ x.params)
      (r : j.referenced = some t) : Refers m t

/-- The class, or one inside it, refers to the type. -/
def Uses (m : ClassModel) (t : TypeName) : Prop := ∃ depth k, Within depth k m ∧ k.Refers t

variable {m : ClassModel} {t : TypeName}

theorem uses_self (m : ClassModel) : m.Uses m.type := ⟨0, m, .self m, .self⟩

theorem refers_iff : m.Refers t ↔ t ∈ Usage.mentioned m ∨ t = m.type := by
  simp only [Usage.mentioned, List.mem_filterMap, List.mem_append, List.mem_map, List.mem_flatMap, Option.mem_toList]
  constructor
  · intro h
    cases h with
    | self => exact .inr rfl
    | superClass h r => exact .inl ⟨_, .inl (.inl (.inl h)), r⟩
    | interface h r => exact .inl ⟨_, .inl (.inl (.inr h)), r⟩
    | field h r => exact .inl ⟨_, .inl (.inr ⟨_, h, rfl⟩), r⟩
    | returned h hj r => exact .inl ⟨_, .inr ⟨_, h, .inl hj⟩, r⟩
    | param h hj r => exact .inl ⟨_, .inr ⟨_, h, .inr hj⟩, r⟩
  · rintro (⟨j, ((h | h) | ⟨f, h, rfl⟩) | ⟨x, h, hj | hj⟩, r⟩ | rfl)
    · exact .superClass h r
    · exact .interface h r
    · exact .field h r
    · exact .returned h hj r
    · exact .param h hj r
    · exact .self

theorem uses_iff : m.Uses t ↔ m.Refers t ∨ ∃ k ∈ m.inner, k.Uses t := by
  constructor
  · rintro ⟨_, k, h, hk⟩
    cases h with
    | self => exact .inl hk
    | inner hm h => exact .inr ⟨_, hm, _, k, h, hk⟩
  · rintro (h | ⟨k, hk, depth, k', hw, h⟩)
    · exact ⟨0, m, .self m, h⟩
    · exact ⟨depth + 1, k', .inner hk hw, h⟩

end ClassModel

/-! ## Ascending lists -/

namespace TypeName

variable {s t : TypeName} {l : List TypeName}

@[simp] theorem mem_insertInto : s ∈ insertInto t l ↔ s = t ∨ s ∈ l := by
  induction l with
  | nil => simp [insertInto]
  | cons u rest ih =>
    simp only [insertInto]
    split
    · next he => simp [he]
    · split
      · simp
      · simp [ih, or_left_comm]

@[simp] theorem mem_ascending : s ∈ ascending l ↔ s ∈ l := by
  induction l with
  | nil => simp [ascending]
  | cons u rest ih => simpa [ascending] using or_congr_right ih

theorem insertInto_pairwise (h : l.Pairwise fun s t => s.raw < t.raw) :
    (insertInto t l).Pairwise fun s t => s.raw < t.raw := by
  induction l with
  | nil => simp [insertInto]
  | cons u rest ih =>
    obtain ⟨hu, hrest⟩ := List.pairwise_cons.1 h
    simp only [insertInto]
    split
    · exact h
    · next hne =>
      have hraw : t.raw ≠ u.raw := fun he => hne (by cases t; cases u; exact congrArg _ he)
      split
      · next hle =>
        have hlt : t.raw < u.raw := lt_of_le_of_ne (by simpa [le] using hle) hraw
        refine List.pairwise_cons.2 ⟨fun s hs => ?_, h⟩
        rcases List.mem_cons.1 hs with rfl | hs
        · exact hlt
        · exact hlt.trans (hu s hs)
      · next hle =>
        have hlt : u.raw < t.raw := by simpa [le] using hle
        refine List.pairwise_cons.2 ⟨fun s hs => ?_, ih hrest⟩
        rcases mem_insertInto.1 hs with rfl | hs
        · exact hlt
        · exact hu s hs

theorem ascending_nodup (l : List TypeName) : (ascending l).Nodup := by
  have h : (ascending l).Pairwise fun s t => s.raw < t.raw := by
    induction l with
    | nil => exact .nil
    | cons u rest ih => exact insertInto_pairwise ih
  refine List.nodup_iff_pairwise_ne.2 (h.imp fun {s t} hlt he => ?_)
  rw [he] at hlt
  exact lt_irrefl _ hlt

end TypeName

namespace Usage

variable {m : ClassModel} {s t o : TypeName}

theorem mem_usedInner {models : List ClassModel} : t ∈ usedInner models ↔ ∃ k ∈ models, t ∈ used k := by
  induction models with
  | nil => simp [usedInner]
  | cons k models ih => simp [usedInner, ih]

theorem mem_used : t ∈ used m ↔ m.Uses t := by
  induction m using ClassModel.inner_induction with
  | step m ih =>
    have heq : used m = mentioned m ++ usedInner m.inner ++ [m.type] := by
      cases m
      rw [used]
    have hinner : (∃ k ∈ m.inner, t ∈ used k) ↔ ∃ k ∈ m.inner, k.Uses t :=
      exists_congr fun k => and_congr_right fun hk => ih k hk
    rw [heq, List.mem_append, List.mem_append, List.mem_singleton, mem_usedInner, hinner, ClassModel.uses_iff,
      ClassModel.refers_iff, or_right_comm]

/-! ## Types in play -/

/-- The outermost types of the types that are used. -/
def InPlay (m : ClassModel) (o : TypeName) : Prop := ∃ t, m.Uses t ∧ t.outermost = o

/-- Another type in play has the simple name. -/
def Contested (m : ClassModel) (o : TypeName) : Prop := ∃ p, InPlay m p ∧ p.simpleName = o.simpleName ∧ p ≠ o

/-- The type is inside a contested one that is not the class's own. -/
def InFull (m : ClassModel) (t : TypeName) : Prop := t.outermost ≠ m.type.outermost ∧ Contested m t.outermost

/-- What an outermost type in play has to be to get imported. -/
structure Importable (m : ClassModel) (o : TypeName) : Prop where
  inPlay : InPlay m o
  foreign : o ≠ m.type.outermost
  packaged : o.package ≠ none
  notLang : o.package ≠ some "java.lang"
  elsewhere : o.package ≠ m.type.package
  alone : ∀ p, InPlay m p → p.simpleName = o.simpleName → p = o

theorem inPlay_own (m : ClassModel) : InPlay m m.type.outermost := ⟨_, m.uses_self, rfl⟩

theorem not_contested : ¬ Contested m o ↔ ∀ p, InPlay m p → p.simpleName = o.simpleName → p = o := by
  simp only [Contested, not_exists, not_and, not_not]

/-- The outermost types the spelling of a class goes by. -/
def tops (m : ClassModel) : List TypeName := m.type.outermost :: (TypeName.ascending (used m)).map TypeName.outermost

theorem mem_tops : o ∈ tops m ↔ InPlay m o := by
  simp only [tops, List.mem_cons, List.mem_map, TypeName.mem_ascending, mem_used]
  refine ⟨?_, .inr⟩
  rintro (rfl | h)
  · exact inPlay_own m
  · exact h

theorem tops_any : ((tops m).any fun p => p.simpleName == o.simpleName && p != o) = true ↔ Contested m o := by
  simp only [List.any_eq_true, mem_tops, Bool.and_eq_true, beq_iff_eq, bne_iff_ne, Contested]

/-! ## Spellings -/

/-- How a type is written, and what it needs imported. -/
def spelled (m : ClassModel) (t : TypeName) : String × Option TypeName :=
  spellingOf m.type.outermost m.type.package (tops m) t

theorem spelled_cases (ht : m.Uses t) :
    (t.outermost = m.type.outermost ∧ spelled m t = (t.shortName, none)) ∨
    (InFull m t ∧ spelled m t = (t.javaName, none)) ∨
    (¬ Contested m t.outermost ∧ ¬ Importable m t.outermost ∧ spelled m t = (t.shortName, none)) ∨
    (¬ Contested m t.outermost ∧ Importable m t.outermost ∧ spelled m t = (t.shortName, some t.outermost)) := by
  unfold spelled spellingOf
  dsimp only
  split
  · next hown => exact .inl ⟨hown, rfl⟩
  next hown =>
  split
  · next hc => exact .inr (.inl ⟨⟨hown, tops_any.1 hc⟩, rfl⟩)
  next hc =>
  rw [tops_any] at hc
  split
  · next hhome => exact .inr (.inr (.inl ⟨hc, fun hi => hhome.elim hi.packaged (Or.elim · hi.elsewhere hi.notLang), rfl⟩))
  · next hhome =>
    simp only [not_or] at hhome
    exact .inr (.inr (.inr ⟨hc, ⟨⟨t, ht, rfl⟩, hown, hhome.1, hhome.2.2, hhome.2.1, not_contested.1 hc⟩, rfl⟩))

theorem get?_spellings (ht : m.Uses t) : (collect m).spellings.get? t = some (spelled m t).1 := by
  have hm : t ∈ TypeName.ascending (used m) := TypeName.mem_ascending.2 (mem_used.2 ht)
  have hmap : (collect m).spellings = (TypeName.ascending (used m)).map fun t => (t, (spelled m t).1) := by
    simp [collect, spelled, tops]
  rw [hmap, Table.get?_map_self _ hm]

theorem spell_of_uses (ht : m.Uses t) : (collect m).spell t = (spelled m t).1 := by
  rw [spell, get?_spellings ht, Option.getD_some]

theorem mem_imports : o ∈ (collect m).imports ↔ ∃ t, m.Uses t ∧ (spelled m t).2 = some o := by
  simp only [collect, TypeName.mem_ascending, List.mem_filterMap, List.mem_map, mem_used]
  constructor
  · rintro ⟨_, ⟨t, ht, rfl⟩, ho⟩
    exact ⟨t, ht, ho⟩
  · rintro ⟨t, ht, ho⟩
    exact ⟨_, ⟨t, ht, rfl⟩, ho⟩

theorem imports_iff : o ∈ (collect m).imports ↔ Importable m o := by
  rw [mem_imports]
  constructor
  · rintro ⟨t, ht, ho⟩
    rcases spelled_cases ht with ⟨-, h⟩ | ⟨-, h⟩ | ⟨-, -, h⟩ | ⟨-, hi, h⟩ <;> rw [h] at ho <;> cases ho
    exact hi
  · intro hi
    obtain ⟨t, ht, rfl⟩ := hi.inPlay
    refine ⟨t, ht, ?_⟩
    rcases spelled_cases ht with ⟨hown, -⟩ | ⟨⟨-, hc⟩, -⟩ | ⟨-, hn, -⟩ | ⟨-, -, h⟩
    · exact absurd hown hi.foreign
    · exact absurd hc (not_contested.2 hi.alone)
    · exact absurd hi hn
    · rw [h]

theorem spell_inFull (ht : m.Uses t) (h : InFull m t) : (collect m).spell t = t.javaName := by
  rw [spell_of_uses ht]
  rcases spelled_cases ht with ⟨hown, -⟩ | ⟨-, hs⟩ | ⟨hc, -⟩ | ⟨hc, -⟩
  · exact absurd hown h.1
  · rw [hs]
  · exact absurd h.2 hc
  · exact absurd h.2 hc

theorem spell_short (ht : m.Uses t) (h : ¬ InFull m t) : (collect m).spell t = t.shortName := by
  rw [spell_of_uses ht]
  rcases spelled_cases ht with ⟨-, hs⟩ | ⟨hf, -⟩ | ⟨-, -, hs⟩ | ⟨-, -, hs⟩
  · rw [hs]
  · exact absurd hf h
  · rw [hs]
  · rw [hs]

theorem spell_cases (ht : m.Uses t) : (collect m).spell t = t.javaName ∨ (collect m).spell t = t.shortName := by
  by_cases hf : InFull m t
  · exact .inl (spell_inFull ht hf)
  · exact .inr (spell_short ht hf)

/-- The imports are the importable types. Their simple names differ from each other and from that of the class's own
outermost type. A type is written in full or short, and one that has a package but is short is inside the only type in play
with the simple name of its outermost type, or it is one of the class's own. -/
theorem imports_unambiguous (m : ClassModel) :
    (∀ o, o ∈ (collect m).imports ↔ Importable m o) ∧
    ((collect m).imports.Pairwise fun o p => o.simpleName ≠ p.simpleName) ∧
    (∀ o ∈ (collect m).imports, o.simpleName ≠ m.type.outermost.simpleName) ∧
    ∀ t, m.Uses t →
      ((collect m).spell t = t.javaName ∨ (collect m).spell t = t.shortName) ∧
      (t.package ≠ none → (collect m).spell t = t.shortName →
        (∀ o, InPlay m o → o.simpleName = t.outermost.simpleName → o = t.outermost) ∨
          t.outermost = m.type.outermost) := by
  refine ⟨fun o => imports_iff, ?_, fun o ho he => ?_, fun t ht => ⟨spell_cases ht, fun hp hs => ?_⟩⟩
  · have hdiff : (collect m).imports.Pairwise (· ≠ ·) := TypeName.ascending_nodup _
    refine hdiff.imp_of_mem fun {o p} ho hp hne he => hne ?_
    exact (imports_iff.1 hp).alone o (imports_iff.1 ho).inPlay he
  · have hi := imports_iff.1 ho
    exact hi.foreign (hi.alone _ (inPlay_own m) he.symm).symm
  · by_cases hown : t.outermost = m.type.outermost
    · exact .inr hown
    · refine .inl (not_contested.1 fun hc => hp (TypeName.javaName_eq_shortName.1 ?_))
      rw [← hs, spell_inFull ht ⟨hown, hc⟩]

/-! ## Types that are spelled alike -/

/-- Of two types with one simple name, one that is short is inside the class's own outermost type. -/
theorem own_of_short (ht : m.Uses t) (hne : s ≠ t) (hn : s.simpleChars = t.simpleChars) (h : ¬ InFull m s) :
    s.outermost = m.type.outermost := by
  by_contra hown
  refine h ⟨hown, t.outermost, ⟨t, ht, rfl⟩, (TypeName.simpleName_outermost_congr hn).symm, fun he => hne ?_⟩
  exact TypeName.eq_of_parts (by rw [← s.package_outermost, ← t.package_outermost, he]) hn

theorem shortName_ne (hs : m.Uses s) (ht : m.Uses t) (hne : s ≠ t) (hfs : ¬ InFull m s) (hft : ¬ InFull m t) :
    s.shortName ≠ t.shortName := by
  intro he
  have hn := TypeName.shortName_inj.1 he
  have hso := own_of_short ht hne hn hfs
  have hto := own_of_short hs hne.symm hn.symm hft
  exact hne (TypeName.eq_of_parts (by rw [← s.package_outermost, ← t.package_outermost, hso, hto]) hn)

/-- `t` is written in full, and `s` is written in the same way. -/
structure Meets (m : ClassModel) (s t : TypeName) : Prop where
  full : InFull m t
  alike : InFull m s ∧ s.javaName = t.javaName ∨ ¬ InFull m s ∧ s.shortName = t.javaName

theorem spell_eq_iff_meets (hs : m.Uses s) (ht : m.Uses t) (hf : InFull m t) :
    (collect m).spell s = (collect m).spell t ↔ Meets m s t := by
  rw [spell_inFull ht hf]
  by_cases hfs : InFull m s
  · rw [spell_inFull hs hfs]
    exact ⟨fun h => ⟨hf, .inl ⟨hfs, h⟩⟩, fun h => h.alike.elim And.right fun h => absurd hfs h.1⟩
  · rw [spell_short hs hfs]
    exact ⟨fun h => ⟨hf, .inr ⟨hfs, h⟩⟩, fun h => h.alike.elim (fun h => absurd h.1 hfs) And.right⟩

/-- `s` is inside the class's own outermost type and in a package; `t` has the same simple name and no package. -/
structure Hides (m : ClassModel) (s t : TypeName) : Prop where
  own : s.outermost = m.type.outermost
  packaged : s.package ≠ none
  unpackaged : t.package = none
  simple : s.simpleName = t.simpleName

/-- The full spelling of a type without a package is its simple name, so it meets its namesake in the class. -/
theorem hides_iff (hs : m.Uses s) (ht : m.Uses t) (hne : s ≠ t) (hp : t.package = none) :
    Hides m s t ↔ InFull m t ∧ ¬ InFull m s ∧ s.shortName = t.javaName := by
  rw [TypeName.javaName_of_unpackaged hp, TypeName.shortName_inj]
  constructor
  · intro h
    have hn := TypeName.simpleName_inj.1 h.simple
    have hdiff : t.outermost ≠ s.outermost := fun he =>
      h.packaged (by rw [← s.package_outermost, ← he, t.package_outermost, hp])
    exact ⟨⟨h.own ▸ hdiff, s.outermost, ⟨s, hs, rfl⟩, TypeName.simpleName_outermost_congr hn, hdiff.symm⟩,
      fun hf => hf.1 h.own, hn⟩
  · rintro ⟨-, hf, hn⟩
    exact ⟨own_of_short ht hne hn hf, fun hps => hne (TypeName.eq_of_parts (hps.trans hp.symm) hn), hp,
      TypeName.simpleName_inj.2 hn⟩

/-- A short spelling has a dot only where the simple name has a `$`. -/
theorem unpackaged_of_shortName (hd : '$' ∉ s.simpleChars) (h : s.shortName = t.javaName) : t.package = none := by
  rw [TypeName.shortName, TypeName.javaName, String.ofList_inj, ← TypeName.dotted, ← TypeName.dotted,
    TypeName.dotted_of_dollarless hd] at h
  refine TypeName.package_eq_none.2 fun hm => s.dot_not_mem_simpleChars ?_
  rw [h]
  exact List.mem_map.2 ⟨'.', hm, rfl⟩

theorem meets_iff_hides (hs : m.Uses s) (ht : m.Uses t) (hne : s ≠ t) (hds : '$' ∉ s.chars) (hdt : '$' ∉ t.chars) :
    Meets m s t ↔ Hides m s t := by
  constructor
  · rintro ⟨hft, ⟨-, h⟩ | ⟨hfs, h⟩⟩
    · rw [TypeName.javaName_of_dollarless hds, TypeName.javaName_of_dollarless hdt] at h
      exact absurd (TypeName.eq_of_chars (congrArg String.toList h)) hne
    · have hd : '$' ∉ s.simpleChars := fun hm => hds (s.simpleChars_subset hm)
      exact (hides_iff hs ht hne (unpackaged_of_shortName hd h)).2 ⟨hft, hfs, h⟩
  · intro h
    obtain ⟨hft, hfs⟩ := (hides_iff hs ht hne h.unpackaged).1 h
    exact ⟨hft, .inr hfs⟩

/-- Two types are spelled alike exactly when the full spelling of one is how the other is written, in full or short. If
neither is nested, that is when one is the class's own outermost type and hides the other, which has no package. -/
theorem spelled_alike_iff (hs : m.Uses s) (ht : m.Uses t) (hne : s ≠ t) :
    ((collect m).spell s = (collect m).spell t ↔ Meets m s t ∨ Meets m t s) ∧
    ('$' ∉ s.chars → '$' ∉ t.chars →
      ((collect m).spell s = (collect m).spell t ↔ Hides m s t ∨ Hides m t s)) := by
  have halike : (collect m).spell s = (collect m).spell t ↔ Meets m s t ∨ Meets m t s := by
    constructor
    · intro h
      by_cases hft : InFull m t
      · exact .inl ((spell_eq_iff_meets hs ht hft).1 h)
      by_cases hfs : InFull m s
      · exact .inr ((spell_eq_iff_meets ht hs hfs).1 h.symm)
      rw [spell_short hs hfs, spell_short ht hft] at h
      exact absurd h (shortName_ne hs ht hne hfs hft)
    · rintro (h | h)
      · exact (spell_eq_iff_meets hs ht h.full).2 h
      · exact ((spell_eq_iff_meets ht hs h.full).2 h).symm
  refine ⟨halike, fun hds hdt => ?_⟩
  rw [halike, meets_iff_hides hs ht hne hds hdt, meets_iff_hides ht hs hne.symm hdt hds]

/-- A class with fields of the given types, all named in slashed form. -/
def fieldHolder (type : String) (fields : List String) : ClassModel :=
  ⟨.ofInternal type, .plain, [], type, false, none, 52, 0, none, [], [],
    fields.map fun name => ⟨[], .object (.ofInternal name), "f", "f"⟩, [], []⟩

/-- A class has the simple name of a type without a package. -/
def namesake : ClassModel := fieldHolder "org/example/List" ["List"]

/-- A nested type and one in a package named like its class, with two others that contest their simple names. -/
def likeNamed : ClassModel := fieldHolder "q/C" ["p/A$B", "p/A/B", "x/A", "y/B"]

/-- A nested type that is imported, and one in a package named like its class. -/
def likeImported : ClassModel := fieldHolder "x/B" ["p/A$B", "A/B"]

/-- Applied to a class that hides a type it uses. -/
theorem spelled_alike_iff_of_namesake :
    namesake.Uses ⟨"org.example.List"⟩ ∧ namesake.Uses ⟨"List"⟩ ∧
      (Hides namesake ⟨"org.example.List"⟩ ⟨"List"⟩ ∨ Hides namesake ⟨"List"⟩ ⟨"org.example.List"⟩) := by
  have hs : namesake.Uses ⟨"org.example.List"⟩ := mem_used.1 (by decide +kernel)
  have ht : namesake.Uses ⟨"List"⟩ := mem_used.1 (by decide +kernel)
  have halike : (collect namesake).spell ⟨"org.example.List"⟩ = (collect namesake).spell ⟨"List"⟩ := by decide +kernel
  exact ⟨hs, ht, ((spelled_alike_iff hs ht (by decide)).2 (by decide) (by decide)).1 halike⟩

/-- No two types the class uses have one spelling. -/
def SpelledApart (m : ClassModel) : Prop :=
  ∀ s t, m.Uses s → m.Uses t → s ≠ t → (collect m).spell s ≠ (collect m).spell t

/-- A type without a package meets the class; a nested type meets a type of a package, both in full or short and in full. -/
theorem not_spelledApart : ¬ SpelledApart namesake ∧ ¬ SpelledApart likeNamed ∧ ¬ SpelledApart likeImported := by
  have meet {m : ClassModel} {s t : TypeName} (hs : s ∈ used m) (ht : t ∈ used m) (hne : s ≠ t)
      (he : (collect m).spell s = (collect m).spell t) : ¬ SpelledApart m :=
    fun h => h s t (mem_used.1 hs) (mem_used.1 ht) hne he
  refine ⟨?_, ?_, ?_⟩
  · exact @meet _ ⟨"org.example.List"⟩ ⟨"List"⟩ (by decide +kernel) (by decide +kernel) (by decide) (by decide +kernel)
  · exact @meet _ ⟨"p.A$B"⟩ ⟨"p.A.B"⟩ (by decide +kernel) (by decide +kernel) (by decide) (by decide +kernel)
  · exact @meet _ ⟨"p.A$B"⟩ ⟨"A.B"⟩ (by decide +kernel) (by decide +kernel) (by decide) (by decide +kernel)

end Usage

end ClassSkeleton
