import Mathlib.Data.List.Induction
import ClassSkeleton.Proofs.FreshNames
import ClassSkeleton.Proofs.MemberPlaces

/-
  ClassSkeleton.Proofs.FieldPass — how the fields of one class get their names.

  Two passes go through the fields. The first one is for enums: a constant that is not legal, or has the
  name of a legal one before it, is displaced (`Displaced`) and becomes `CONSTANT_k`. The second one looks
  at the fields the first has not renamed; of those with one name the first keeps it, the others get fresh
  ones. Both take names from nobody: a new name is no field's, and no two keys have the same (`Spread`), so
  final names under different keys meet only where two fields kept one name (`Spread.meet`).

  New names are filed under the name and the descriptor with a colon between them. Fields with one key share
  what is filed, and the second pass goes by that key as well. Where the keys are told apart, each field is
  renamed for its own sake: the first pass renames exactly the displaced constants (`constants_get?_apart`),
  the second the repeated names among the others (`repeats_get?`).
-/

namespace ClassSkeleton

namespace Naming

open Identifier

/-- The key a field's new name is filed under. -/
def fieldKeyOf (f : Member) : String := fieldKey f.name f.descriptor

/-! ## Names that are nobody else's -/

/-- No new name is the name of a field, and no two keys have the same. -/
structure Spread (c : ClassFile) (p : FieldPass) : Prop where
  names : ∀ f ∈ c.fields, f.name ∈ p.taken
  taken : ∀ k v, p.renames.get? k = some v → v ∈ p.taken
  unlike : ∀ k v, p.renames.get? k = some v → ∀ f ∈ c.fields, f.name ≠ v
  apart : ∀ k k' v, p.renames.get? k = some v → p.renames.get? k' = some v → k = k'

section Spread

variable {c : ClassFile} {p : FieldPass}

theorem Spread.start (c : ClassFile) : Spread c ⟨c.fields.map (·.name), [], []⟩ := by
  refine ⟨fun f hf => List.mem_map_of_mem hf, ?_, ?_, ?_⟩
  all_goals
    intro k
    simp [Table.get?]

theorem Spread.note (h : Spread c p) (seen : List String) : Spread c { p with seen := seen } :=
  ⟨h.names, h.taken, h.unlike, h.apart⟩

/-- A name that is not taken is filed. -/
theorem Spread.put (h : Spread c p) (key : String) {v : String} (hv : v ∉ p.taken) :
    Spread c { p with taken := v :: p.taken, renames := p.renames.put key v } := by
  have hget (k u : String) : (p.renames.put key v).get? k = some u ↔
      (key = k ∧ v = u) ∨ (key ≠ k ∧ p.renames.get? k = some u) := by
    rw [Table.get?_put]
    by_cases hk : key = k <;> simp [hk]
  have hold (k : String) : p.renames.get? k ≠ some v := fun hk => hv (h.taken k v hk)
  refine ⟨fun f hf => List.mem_cons_of_mem _ (h.names f hf), fun k u hu => ?_, fun k u hu f hf => ?_,
    fun k k' u hu hu' => ?_⟩
  · rcases (hget k u).1 hu with ⟨-, rfl⟩ | ⟨-, hu⟩
    · exact List.mem_cons_self
    · exact List.mem_cons_of_mem _ (h.taken k u hu)
  · rcases (hget k u).1 hu with ⟨-, rfl⟩ | ⟨-, hu⟩
    · exact fun he => hv (he ▸ h.names f hf)
    · exact h.unlike k u hu f hf
  · rcases (hget k u).1 hu with ⟨hk, hvu⟩ | ⟨-, hu⟩ <;> rcases (hget k' u).1 hu' with ⟨hk', hvu'⟩ | ⟨-, hu'⟩
    · exact hk.symm.trans hk'
    · exact absurd (hvu ▸ hu') (hold k')
    · exact absurd (hvu' ▸ hu) (hold k)
    · exact h.apart k k' u hu hu'

/-- Fields with different keys have different names in the end, unless both keep one name. -/
theorem Spread.meet (h : Spread c p) {f g : Member} (hf : f ∈ c.fields) (hg : g ∈ c.fields)
    (hk : fieldKeyOf f ≠ fieldKeyOf g)
    (he : (p.renames.get? (fieldKeyOf f)).getD f.name = (p.renames.get? (fieldKeyOf g)).getD g.name) :
    p.renames.get? (fieldKeyOf f) = none ∧ p.renames.get? (fieldKeyOf g) = none ∧ f.name = g.name := by
  rcases hv : p.renames.get? (fieldKeyOf f) with _ | v <;> rcases hu : p.renames.get? (fieldKeyOf g) with _ | u
  all_goals rw [hv, hu] at he
  · exact ⟨rfl, rfl, he⟩
  · exact absurd he (h.unlike _ u hu f hf)
  · exact absurd he.symm (h.unlike _ v hv g hg)
  · cases (show v = u from he)
    exact absurd (h.apart _ _ v hv hu) hk

/-- A field has its own name in the end exactly when nothing is filed for it. -/
theorem Spread.final_eq_iff (h : Spread c p) {f : Member} (hf : f ∈ c.fields) :
    (p.renames.get? (fieldKeyOf f)).getD f.name = f.name ↔ p.renames.get? (fieldKeyOf f) = none := by
  rcases hv : p.renames.get? (fieldKeyOf f) with _ | v
  · simp
  · simpa using (h.unlike _ v hv f hf).symm

end Spread

/-! ## Constants -/

/-- The constant has no legal name, or one that a constant before it has. -/
def Displaced (before : List Member) (f : Member) : Prop :=
  f.has Access.isEnum = true ∧ (isLegal f.name = false ∨
    ∃ g ∈ before, g.has Access.isEnum = true ∧ isLegal g.name = true ∧ g.name = f.name)

section Constants

variable {c : ClassFile} {front : List Member} {p : FieldPass} {f : Member}

theorem nameConstant_keep (hl : isLegal f.name = true) (hs : f.name ∉ p.seen) (ordinal : Nat) :
    nameConstant p (f, ordinal) = { p with seen := f.name :: p.seen } := by
  simp [nameConstant, hl, hs]

theorem nameConstant_rename (h : isLegal f.name = false ∨ f.name ∈ p.seen) (ordinal : Nat) :
    nameConstant p (f, ordinal) = { p with
      taken := constantName ordinal p.taken :: p.taken
      renames := p.renames.put (fieldKeyOf f) (constantName ordinal p.taken) } := by
  rcases h with h | h <;> simp [nameConstant, h, fieldKeyOf]

variable (c front) in
/-- The first pass, over the constants among a front of the fields. -/
def constantsOver : FieldPass :=
  (front.filter (·.has Access.isEnum)).zipIdx.foldl nameConstant ⟨c.fields.map (·.name), [], []⟩

theorem constantsOver_constant (hf : f.has Access.isEnum = true) :
    constantsOver c (front ++ [f]) =
      nameConstant (constantsOver c front) (f, (front.filter (·.has Access.isEnum)).length) := by
  simp [constantsOver, List.filter_append, hf, List.zipIdx_append]

theorem constantsOver_other (hf : f.has Access.isEnum = false) :
    constantsOver c (front ++ [f]) = constantsOver c front := by
  simp [constantsOver, List.filter_append, hf]

/-- What is known when the constants among a front of the fields are named. -/
structure ConstantsNamed (c : ClassFile) (front : List Member) (p : FieldPass) : Prop extends Spread c p where
  seen : ∀ s, s ∈ p.seen ↔ ∃ g ∈ front, g.has Access.isEnum = true ∧ isLegal g.name = true ∧ g.name = s
  renamed : ∀ k, (p.renames.get? k).isSome = true ↔
    Placed (fun before f => Displaced before f ∧ fieldKeyOf f = k) front
  legal : ∀ k v, p.renames.get? k = some v → isLegal v = true

theorem ConstantsNamed.displaced (h : ConstantsNamed c front p) (hf : f.has Access.isEnum = true) :
    Displaced front f ↔ isLegal f.name = false ∨ f.name ∈ p.seen := by
  rw [h.seen]
  exact and_iff_right hf

theorem ConstantsNamed.other (h : ConstantsNamed c front p) (hf : f.has Access.isEnum = false) :
    ConstantsNamed c (front ++ [f]) p := by
  refine ⟨h.toSpread, fun s => ?_, fun k => ?_, h.legal⟩
  · rw [h.seen]
    simp [or_and_right, exists_or, hf]
  · rw [h.renamed, placed_snoc]
    refine (or_iff_left ?_).symm
    rintro ⟨⟨he, -⟩, -⟩
    rw [hf] at he
    cases he

theorem ConstantsNamed.keep (h : ConstantsNamed c front p) (hf : f.has Access.isEnum = true)
    (hd : ¬ Displaced front f) : ConstantsNamed c (front ++ [f]) { p with seen := f.name :: p.seen } := by
  have hl : isLegal f.name = true := by simpa using fun hl => hd ⟨hf, .inl hl⟩
  refine ⟨h.toSpread.note _, fun s => ?_, fun k => ?_, h.legal⟩
  · simp only [List.mem_cons, h.seen, List.mem_append, List.not_mem_nil, or_false, or_and_right, exists_or,
      exists_eq_left, hf, hl, true_and]
    rw [or_comm, eq_comm (a := s)]
  · rw [placed_snoc, ← h.renamed]
    exact (or_iff_left fun hk => hd hk.1).symm

theorem ConstantsNamed.rename (h : ConstantsNamed c front p) (hd : Displaced front f) (ordinal : Nat) : ConstantsNamed c (front ++ [f]) { p with
      taken := constantName ordinal p.taken :: p.taken
      renames := p.renames.put (fieldKeyOf f) (constantName ordinal p.taken) } := by
  refine ⟨h.toSpread.put _ (constantName_not_mem ordinal p.taken), fun s => ?_, fun k => ?_, fun k v hv => ?_⟩
  · rw [h.seen]
    constructor
    · rintro ⟨g, hg, hs⟩
      exact ⟨g, List.mem_append_left _ hg, hs⟩
    · rintro ⟨g, hg, hs⟩
      rcases List.mem_append.1 hg with hg | hg
      · exact ⟨g, hg, hs⟩
      · -- A legal name of the constant itself was there before.
        rw [List.mem_singleton.1 hg] at hs
        rcases hd.2 with hl | ⟨e, he, hes⟩
        · rw [hl] at hs
          cases hs.2.1
        · exact ⟨e, he, hes.1, hes.2.1, hes.2.2.trans hs.2.2⟩
  · rw [placed_snoc, ← h.renamed, Table.get?_put]
    by_cases hk : fieldKeyOf f = k
    · simp [hk, hd]
    · simp [hk]
  · rw [Table.get?_put] at hv
    split at hv
    · cases hv
      exact isLegal_constantName ordinal p.taken
    · exact h.legal k v hv

variable (c) in
theorem constants_named (front : List Member) : ConstantsNamed c front (constantsOver c front) := by
  induction front using List.reverseRecOn with
  | nil =>
    refine ⟨.start c, by simp [constantsOver], fun k => ?_, by simp [constantsOver, Table.get?]⟩
    simp [constantsOver, Table.get?, not_placed_nil]
  | append_singleton front f ih =>
    cases hf : f.has Access.isEnum with
    | false =>
      rw [constantsOver_other hf]
      exact ih.other hf
    | true =>
      rw [constantsOver_constant hf]
      by_cases hd : Displaced front f
      · rw [nameConstant_rename ((ih.displaced hf).1 hd)]
        exact ih.rename hd _
      · have hn := mt (ih.displaced hf).2 hd
        rw [not_or] at hn
        rw [nameConstant_keep (by simpa using hn.1) hn.2]
        exact ih.keep hf hd

end Constants

/-! ## Repeated names -/

section Repeats

variable {c : ClassFile} {start p : FieldPass} {front : List Member} {f : Member}

/-- The ways one field goes in the second pass. -/
theorem nameField_cases (p : FieldPass) (f : Member) :
    ((p.renames.get? (fieldKeyOf f)).isSome = true ∧ nameField p f = p) ∨
    (p.renames.get? (fieldKeyOf f) = none ∧ f.name ∈ p.seen ∧ nameField p f = { p with
      taken := freshName f.name p.taken :: p.taken
      renames := p.renames.put (fieldKeyOf f) (freshName f.name p.taken) }) ∨
    (p.renames.get? (fieldKeyOf f) = none ∧ f.name ∉ p.seen ∧ nameField p f = { p with seen := f.name :: p.seen }) := by
  rcases hg : p.renames.get? (fieldKeyOf f) with _ | v
  · by_cases hs : f.name ∈ p.seen
    · refine .inr (.inl ⟨rfl, hs, ?_⟩)
      simp only [fieldKeyOf] at hg
      simp [nameField, hg, hs, fieldKeyOf]
    · refine .inr (.inr ⟨rfl, hs, ?_⟩)
      simp only [fieldKeyOf] at hg
      simp [nameField, hg, hs]
  · refine .inl ⟨rfl, ?_⟩
    simp only [fieldKeyOf] at hg
    simp [nameField, hg]

variable (start front) in
/-- The second pass, over a front of the fields. -/
def repeatsOver : FieldPass := front.foldl nameField { start with seen := [] }

theorem repeatsOver_snoc (front : List Member) (f : Member) :
    repeatsOver start (front ++ [f]) = nameField (repeatsOver start front) f := by simp [repeatsOver]

/-- What is known of the second pass: it keeps what the first one filed, and what it adds under a key is a
fresh name for a field with that key. -/
structure RepeatsNamed (c : ClassFile) (start : FieldPass) (front : List Member) (p : FieldPass) : Prop
    extends Spread c p where
  kept : ∀ k v, start.renames.get? k = some v → p.renames.get? k = some v
  added : ∀ k v, p.renames.get? k = some v → start.renames.get? k = some v ∨
    (start.renames.get? k = none ∧ ∃ f ∈ front, fieldKeyOf f = k ∧ ∃ taken, v = freshName f.name taken)

theorem RepeatsNamed.later (h : RepeatsNamed c start front p) (f : Member) (seen : List String) :
    RepeatsNamed c start (front ++ [f]) { p with seen := seen } := by
  refine ⟨h.toSpread.note seen, h.kept, fun k v hv => (h.added k v hv).imp_right ?_⟩
  rintro ⟨hn, g, hg, hk⟩
  exact ⟨hn, g, List.mem_append_left _ hg, hk⟩

theorem RepeatsNamed.rename (h : RepeatsNamed c start front p) (hn : p.renames.get? (fieldKeyOf f) = none) :
    RepeatsNamed c start (front ++ [f]) { p with
      taken := freshName f.name p.taken :: p.taken
      renames := p.renames.put (fieldKeyOf f) (freshName f.name p.taken) } := by
  have hstart : start.renames.get? (fieldKeyOf f) = none :=
    Option.eq_none_iff_forall_ne_some.2 fun v hv => by simp [h.kept _ v hv] at hn
  refine ⟨h.toSpread.put _ (freshName_not_mem _ _), fun k v hv => ?_, fun k v hv => ?_⟩
  · have hk : fieldKeyOf f ≠ k := by
      rintro rfl
      rw [hstart] at hv
      cases hv
    rw [Table.get?_put, if_neg hk]
    exact h.kept k v hv
  · rw [Table.get?_put] at hv
    split at hv
    · next hk =>
      cases hv
      exact .inr ⟨hk ▸ hstart, f, by simp, hk, p.taken, rfl⟩
    · exact (h.later f p.seen).added k v hv

theorem repeats_named (hs : Spread c start) (front : List Member) :
    RepeatsNamed c start front (repeatsOver start front) := by
  induction front using List.reverseRecOn with
  | nil => exact ⟨hs.note [], fun k v hv => hv, fun k v hv => .inl hv⟩
  | append_singleton front f ih =>
    rw [repeatsOver_snoc]
    rcases nameField_cases (repeatsOver start front) f with ⟨-, he⟩ | ⟨hn, -, he⟩ | ⟨-, -, he⟩
    · rw [he]
      exact ih.later f _
    · rw [he]
      exact ih.rename hn
    · rw [he]
      exact ih.later f _

variable (start) in
/-- A field with a key of its own leaves the other keys alone. -/
theorem get?_repeatsOver_append (front back : List Member) {k : String} (hk : ∀ e ∈ back, fieldKeyOf e ≠ k) :
    (repeatsOver start (front ++ back)).renames.get? k = (repeatsOver start front).renames.get? k := by
  induction back using List.reverseRecOn with
  | nil => simp
  | append_singleton back f ih =>
    have hf : fieldKeyOf f ≠ k := hk f (by simp)
    rw [← ih fun e he => hk e (List.mem_append_left _ he), ← List.append_assoc, repeatsOver_snoc]
    generalize repeatsOver start (front ++ back) = p
    rcases nameField_cases p f with ⟨-, he⟩ | ⟨-, -, he⟩ | ⟨-, -, he⟩
    all_goals simp [he, hf]

variable (start) in
/-- With a key that none before it has, a field comes as the first pass left it. -/
theorem get?_repeatsOver_front (front : List Member) {k : String} (hk : ∀ e ∈ front, fieldKeyOf e ≠ k) :
    (repeatsOver start front).renames.get? k = start.renames.get? k := by
  simpa [repeatsOver] using get?_repeatsOver_append start [] front hk

variable (start) in
/-- Where keys are told apart, the names seen are those of the fields that the first pass left alone. -/
theorem mem_seen_repeatsOver (hk : (front.map fieldKeyOf).Nodup) (s : String) :
    s ∈ (repeatsOver start front).seen ↔ ∃ g ∈ front, start.renames.get? (fieldKeyOf g) = none ∧ g.name = s := by
  induction front using List.reverseRecOn with
  | nil => simp [repeatsOver]
  | append_singleton front f ih =>
    obtain ⟨hfront, hown, -⟩ := keys_apart hk rfl
    have ih := ih hfront
    have hstart := get?_repeatsOver_front start front hown
    rw [repeatsOver_snoc]
    simp only [List.mem_append, List.mem_singleton, or_and_right, exists_or, exists_eq_left]
    rcases nameField_cases (repeatsOver start front) f with ⟨hn, he⟩ | ⟨hn, hs, he⟩ | ⟨hn, hs, he⟩
    all_goals rw [hstart] at hn
    · rw [he, ih]
      refine (or_iff_left ?_).symm
      rintro ⟨hnone, -⟩
      rw [hnone] at hn
      cases hn
    · rw [he, ih]
      refine (or_iff_left_of_imp ?_).symm
      rintro ⟨-, rfl⟩
      exact ih.1 hs
    · simp only [he, List.mem_cons, ih, hn, true_and]
      rw [or_comm, eq_comm (a := s)]

/-- Where keys are told apart, a field has no new name after both passes exactly when the first pass left it
alone and no field of its name before it. -/
theorem repeats_get? {back : List Member} (hk : (c.fields.map fieldKeyOf).Nodup)
    (hf : c.fields = front ++ f :: back) : (repeatsOver start c.fields).renames.get? (fieldKeyOf f) = none ↔
      start.renames.get? (fieldKeyOf f) = none ∧
        ∀ g ∈ front, start.renames.get? (fieldKeyOf g) = none → g.name ≠ f.name := by
  obtain ⟨hfront, hbefore, hafter⟩ := keys_apart hk hf
  have hseen := mem_seen_repeatsOver start hfront f.name
  have hstart := get?_repeatsOver_front start front hbefore
  rw [hf, show front ++ f :: back = (front ++ [f]) ++ back by simp, get?_repeatsOver_append _ _ _ hafter,
    repeatsOver_snoc]
  rcases nameField_cases (repeatsOver start front) f with ⟨hn, he⟩ | ⟨hn, hs, he⟩ | ⟨hn, hs, he⟩
  · rw [he, hstart]
    rw [hstart] at hn
    refine ⟨fun hnone => ?_, fun h => h.1⟩
    rw [hnone] at hn
    cases hn
  · obtain ⟨g, hg, hgn, hname⟩ := hseen.1 hs
    rw [he, Table.get?_put, if_pos rfl]
    exact ⟨fun h => absurd h (by simp), fun h => absurd hname (h.2 g hg hgn)⟩
  · rw [he]
    refine ⟨fun _ => ⟨hstart ▸ hn, fun g hg hgn hname => ?_⟩, fun _ => hn⟩
    exact hs (hseen.2 ⟨g, hg, hgn, hname⟩)

end Repeats

/-! ## Both passes -/

section Both

variable (rules : NamingRules) (c : ClassFile)

/-- The constant is renamed by the rule for enums. -/
def RenamedConstant (before : List Member) (f : Member) : Prop :=
  rules.enumMembers = true ∧ c.has Access.isEnum = true ∧ Displaced before f

/-- After the rule for enums. -/
def constantPass : FieldPass :=
  if rules.enumMembers && c.has Access.isEnum then constantsOver c c.fields else ⟨c.fields.map (·.name), [], []⟩

/-- After both rules. -/
def lastPass : FieldPass :=
  if rules.duplicateMembers then repeatsOver (constantPass rules c) c.fields else constantPass rules c

theorem fieldRenames_eq : fieldRenames rules c = (lastPass rules c).renames := by
  unfold lastPass
  cases hr : rules.duplicateMembers <;> simp [fieldRenames, hr, constantPass, constantsOver, repeatsOver, enumConstants]

theorem constantPass_spread : Spread c (constantPass rules c) := by
  unfold constantPass
  split
  · exact (constants_named c c.fields).toSpread
  · exact .start c

theorem constantPass_get? (k : String) : ((constantPass rules c).renames.get? k).isSome = true ↔
    Placed (fun before f => RenamedConstant rules c before f ∧ fieldKeyOf f = k) c.fields := by
  unfold constantPass
  split
  · next h =>
    rw [Bool.and_eq_true] at h
    simp only [RenamedConstant, h.1, h.2, true_and]
    exact (constants_named c c.fields).renamed k
  · next h =>
    rw [Bool.and_eq_true, not_and] at h
    simp only [Table.get?, Option.isSome_none, Bool.false_eq_true, false_iff]
    rintro ⟨before, f, after, -, ⟨hr, hc, -⟩, -⟩
    exact h hr hc

variable {rules c}

theorem constantPass_legal {k v : String} (h : (constantPass rules c).renames.get? k = some v) : isLegal v = true := by
  unfold constantPass at h
  split at h
  · exact (constants_named c c.fields).legal k v h
  · cases h

/-- Where keys are told apart, the first pass renames exactly the displaced constants. -/
theorem constants_get?_apart (hk : (c.fields.map fieldKeyOf).Nodup) {front back : List Member} {f : Member}
    (hf : c.fields = front ++ f :: back) :
    (constantPass rules c).renames.get? (fieldKeyOf f) = none ↔ ¬ RenamedConstant rules c front f := by
  rw [← Option.not_isSome_iff_eq_none, constantPass_get?, not_iff_not]
  constructor
  · rintro ⟨before, g, after, hg, hr, he⟩
    obtain ⟨rfl, rfl⟩ := place_unique hk hf hg he
    exact hr
  · exact fun hr => ⟨front, f, back, hf, hr, rfl⟩

variable (rules c) in
theorem lastPass_spread : Spread c (lastPass rules c) := by
  unfold lastPass
  split
  · exact (repeats_named (constantPass_spread rules c) c.fields).toSpread
  · exact constantPass_spread rules c

/-- What the first pass filed stays. -/
theorem lastPass_kept {k v : String} (h : (constantPass rules c).renames.get? k = some v) :
    (lastPass rules c).renames.get? k = some v := by
  unfold lastPass
  split
  · exact (repeats_named (constantPass_spread rules c) c.fields).kept k v h
  · exact h

theorem constantPass_eq_none {k : String} (h : (lastPass rules c).renames.get? k = none) :
    (constantPass rules c).renames.get? k = none := by
  refine Option.eq_none_iff_forall_ne_some.2 fun v hv => ?_
  rw [lastPass_kept hv] at h
  cases h

/-- A new name is one the first pass filed, or a fresh name for a field with that key. -/
theorem lastPass_added {k v : String} (h : (lastPass rules c).renames.get? k = some v) :
    (constantPass rules c).renames.get? k = some v ∨ ((constantPass rules c).renames.get? k = none ∧
      ∃ f ∈ c.fields, fieldKeyOf f = k ∧ ∃ taken, v = freshName f.name taken) := by
  unfold lastPass at h
  split at h
  · exact (repeats_named (constantPass_spread rules c) c.fields).added k v h
  · exact .inl h

end Both

end Naming

end ClassSkeleton
