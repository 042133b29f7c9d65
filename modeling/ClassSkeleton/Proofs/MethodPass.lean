import Mathlib.Data.List.Induction
import ClassSkeleton.Proofs.AncestorNames
import ClassSkeleton.Proofs.FreshNames
import ClassSkeleton.Proofs.MemberPlaces

/-
  ClassSkeleton.Proofs.MethodPass — how the methods of one class get their names.

  The pass goes through the methods in order. A method that inherits a name takes it, whatever else is
  taken. One that does not is compared with the earlier ones that do not inherit either: if it repeats
  the name and the parameters of one, it gets a fresh name, and otherwise it keeps its own. `Passed` says
  what is known after a front of the methods. A fresh name is new (`freshName_not_mem`): no method of the
  class has it, and no method before took it.

  New names are filed under the name and the descriptor run together, so the statements are about that
  key; two methods with one key share what is filed.
-/

namespace ClassSkeleton

namespace Naming

/-! ## One pass -/

/-- The key a method's new name is filed under. -/
def keyOf (m : Member) : String := methodKey m.name m.descriptor

/-- The name and the parameters of a method. -/
def signature (m : Member) : String × String := (m.name, Descriptor.parameterPart m.descriptor)

section Pass

variable (n : Naming) (set : WorkingSet) (rules : NamingRules) (c : ClassFile)

/-- The method is named, and not by an ancestor. -/
def Own (m : Member) : Prop := isSpecial m.name = false ∧ n.inheritedName set c m.name m.descriptor = none

/-- The method, at some place in the list, repeats the signature of an earlier one; both are named here. -/
def Repeated (methods : List Member) (m : Member) : Prop :=
  ∃ before after, methods = before ++ m :: after ∧ n.Own set c m ∧ ∃ e ∈ before, n.Own set c e ∧ signature e = signature m

theorem repeated_iff {methods : List Member} {m : Member} : n.Repeated set c methods m ↔
    Placed (fun before f => f = m ∧ n.Own set c m ∧ ∃ e ∈ before, n.Own set c e ∧ signature e = signature m) methods := by
  constructor
  · rintro ⟨before, after, hsplit, hr⟩
    exact ⟨before, m, after, hsplit, rfl, hr⟩
  · rintro ⟨before, _, after, hsplit, rfl, hr⟩
    exact ⟨before, after, hsplit, hr⟩

theorem repeated_snoc {front : List Member} {m e : Member} : n.Repeated set c (front ++ [m]) e ↔
    n.Repeated set c front e ∨ (e = m ∧ n.Own set c m ∧ ∃ d ∈ front, n.Own set c d ∧ signature d = signature m) := by
  rw [repeated_iff, repeated_iff, placed_snoc]
  refine or_congr_right ⟨?_, ?_⟩
  · rintro ⟨rfl, hr⟩
    exact ⟨rfl, hr⟩
  · rintro ⟨rfl, hr⟩
    exact ⟨rfl, hr⟩

/-- The pass over a front of the methods. -/
def passOver (front : List Member) : MethodPass :=
  front.foldl (nameMethod n set rules c) ⟨c.methods.map (·.name), [], []⟩

theorem passOver_snoc (front : List Member) (m : Member) :
    n.passOver set rules c (front ++ [m]) = nameMethod n set rules c (n.passOver set rules c front) m := by
  simp [passOver]

/-- The ways one method goes. -/
theorem nameMethod_ways (p : MethodPass) (m : Member) :
    (isSpecial m.name = true ∧ nameMethod n set rules c p m = p) ∨
    (∃ r, isSpecial m.name = false ∧ n.inheritedName set c m.name m.descriptor = some r ∧
      nameMethod n set rules c p m = ⟨r :: p.taken, p.seen, p.renames.put (keyOf m) r⟩) ∨
    (n.Own set c m ∧ signature m ∈ p.seen ∧ rules.duplicateMembers = true ∧ nameMethod n set rules c p m =
      ⟨freshName m.name p.taken :: p.taken, p.seen, p.renames.put (keyOf m) (freshName m.name p.taken)⟩) ∨
    (n.Own set c m ∧ signature m ∈ p.seen ∧ rules.duplicateMembers = false ∧ nameMethod n set rules c p m = p) ∨
    (n.Own set c m ∧ signature m ∉ p.seen ∧
      nameMethod n set rules c p m = ⟨p.taken, signature m :: p.seen, p.renames⟩) := by
  cases hs : isSpecial m.name with
  | true => exact .inl ⟨rfl, by simp [nameMethod, hs]⟩
  | false =>
    rcases hi : n.inheritedName set c m.name m.descriptor with _ | r
    · by_cases hm : signature m ∈ p.seen
      · simp only [signature] at hm
        cases hr : rules.duplicateMembers with
        | true => exact .inr (.inr (.inl ⟨⟨hs, hi⟩, hm, rfl, by simp [nameMethod, hs, hi, hm, hr, keyOf]⟩))
        | false => exact .inr (.inr (.inr (.inl ⟨⟨hs, hi⟩, hm, rfl, by simp [nameMethod, hs, hi, hm, hr]⟩)))
      · refine .inr (.inr (.inr (.inr ⟨⟨hs, hi⟩, hm, ?_⟩)))
        simp only [signature] at hm
        simp [nameMethod, hs, hi, hm, signature]
    · exact .inr (.inl ⟨r, rfl, rfl, by simp [nameMethod, hs, hi, keyOf]⟩)

/-- The ways one method goes when repeated signatures are to be renamed. -/
theorem nameMethod_cases (hr : rules.duplicateMembers = true) (p : MethodPass) (m : Member) :
    (isSpecial m.name = true ∧ nameMethod n set rules c p m = p) ∨
    (∃ r, isSpecial m.name = false ∧ n.inheritedName set c m.name m.descriptor = some r ∧
      nameMethod n set rules c p m = ⟨r :: p.taken, p.seen, p.renames.put (keyOf m) r⟩) ∨
    (n.Own set c m ∧ signature m ∈ p.seen ∧ nameMethod n set rules c p m =
      ⟨freshName m.name p.taken :: p.taken, p.seen, p.renames.put (keyOf m) (freshName m.name p.taken)⟩) ∨
    (n.Own set c m ∧ signature m ∉ p.seen ∧
      nameMethod n set rules c p m = ⟨p.taken, signature m :: p.seen, p.renames⟩) := by
  rcases nameMethod_ways n set rules c p m with h | h | ⟨ho, hm, -, he⟩ | ⟨-, -, hn, -⟩ | h
  · exact .inl h
  · exact .inr (.inl h)
  · exact .inr (.inr (.inl ⟨ho, hm, he⟩))
  · rw [hr] at hn
    cases hn
  · exact .inr (.inr (.inr h))

/-- What is known when a front of the methods was gone through. -/
structure Passed (front : List Member) (p : MethodPass) : Prop where
  seen : ∀ s, s ∈ p.seen ↔ ∃ e ∈ front, n.Own set c e ∧ signature e = s
  /-- No fresh name is the name of a method. -/
  names : ∀ m ∈ c.methods, m.name ∈ p.taken
  taken : ∀ k v, p.renames.get? k = some v → v ∈ p.taken
  untouched : ∀ k, (∀ e ∈ front, isSpecial e.name = false → keyOf e ≠ k) → p.renames.get? k = none
  inherited : ∀ e ∈ front, isSpecial e.name = false → ∀ r, n.inheritedName set c e.name e.descriptor = some r →
    p.renames.get? (keyOf e) = some r
  repeated : ∀ e, n.Repeated set c front e → (p.renames.get? (keyOf e)).isSome = true
  fresh : ∀ m v, n.inheritedName set c m.name m.descriptor = none → p.renames.get? (keyOf m) = some v →
    (∀ d ∈ c.methods, d.name ≠ v) ∧ ∃ e, keyOf e = keyOf m ∧ n.Repeated set c front e

variable {n set rules c}

theorem Passed.start : n.Passed set c [] ⟨c.methods.map (·.name), [], []⟩ := by
  refine ⟨by simp, fun m hm => List.mem_map_of_mem hm, by simp [Table.get?], by simp [Table.get?], by simp, ?_,
    by simp [Table.get?]⟩
  rintro e ⟨before, after, h, -⟩
  simp at h

/-- A method that is not named here is no repetition. -/
theorem repeated_snoc_other {front : List Member} {m e : Member} (hm : ¬ n.Own set c m) :
    n.Repeated set c (front ++ [m]) e ↔ n.Repeated set c front e := by
  rw [repeated_snoc]
  exact or_iff_left fun h => hm h.2.1

/-- A name is taken when it is filed. -/
theorem Passed.taken_put {front : List Member} {p : MethodPass} (h : n.Passed set c front p) {key r k v : String}
    (hv : (p.renames.put key r).get? k = some v) : v ∈ r :: p.taken := by
  rw [Table.get?_put] at hv
  split at hv
  · cases hv
    exact List.mem_cons_self
  · exact List.mem_cons_of_mem _ (h.taken k v hv)

/-- Filing a name under the key of a method leaves the keys alone that no method has. -/
theorem Passed.untouched_put {front : List Member} {p : MethodPass} (h : n.Passed set c front p) {m : Member}
    (hs : isSpecial m.name = false) {r k : String}
    (hk : ∀ e ∈ front ++ [m], isSpecial e.name = false → keyOf e ≠ k) : (p.renames.put (keyOf m) r).get? k = none := by
  rw [Table.get?_put, if_neg (hk m (by simp) hs)]
  exact h.untouched k fun e he => hk e (List.mem_append_left _ he)

theorem Passed.special {front : List Member} {p : MethodPass} {m : Member} (h : n.Passed set c front p)
    (hs : isSpecial m.name = true) : n.Passed set c (front ++ [m]) p := by
  have hown : ¬ n.Own set c m := fun ho => by rw [ho.1] at hs; cases hs
  refine ⟨fun s => ?_, h.names, h.taken, fun k hk => ?_, fun e he hn => ?_, fun e he => ?_, fun d v hd hv => ?_⟩
  · rw [h.seen]
    simp [or_and_right, exists_or, hown]
  · exact h.untouched k fun e he => hk e (List.mem_append_left _ he)
  · rcases List.mem_append.1 he with he | he
    · exact h.inherited e he hn
    · rw [List.mem_singleton.1 he, hs] at hn
      cases hn
  · exact h.repeated e ((repeated_snoc_other hown).1 he)
  · simpa only [repeated_snoc_other hown] using h.fresh d v hd hv

theorem Passed.inherit {front : List Member} {p : MethodPass} {m : Member} {r : String} (h : n.Passed set c front p)
    (hi : n.inheritedName set c m.name m.descriptor = some r) (hs : isSpecial m.name = false) :
    n.Passed set c (front ++ [m]) ⟨r :: p.taken, p.seen, p.renames.put (keyOf m) r⟩ := by
  have hown : ¬ n.Own set c m := fun ho => by rw [ho.2] at hi; cases hi
  refine ⟨fun s => ?_, fun d hd => List.mem_cons_of_mem _ (h.names d hd), fun k v hv => h.taken_put hv,
    fun k hk => h.untouched_put hs hk, fun e he hn t ht => ?_, fun e he => ?_, fun d v hd hv => ?_⟩
  · rw [h.seen]
    simp [or_and_right, exists_or, hown]
  · rw [Table.get?_put]
    split
    · next hk =>
      have hsame : n.inheritedName set c m.name m.descriptor = n.inheritedName set c e.name e.descriptor :=
        inheritedName_key hk
      rw [← hi, hsame, ht]
    · next hk =>
      rcases List.mem_append.1 he with he | he
      · exact h.inherited e he hn t ht
      · exact (hk (by rw [List.mem_singleton.1 he])).elim
  · rw [Table.get?_put]
    split
    · rfl
    · exact h.repeated e ((repeated_snoc_other hown).1 he)
  · rw [Table.get?_put] at hv
    split at hv
    · next hk =>
      have hsame : n.inheritedName set c m.name m.descriptor = n.inheritedName set c d.name d.descriptor :=
        inheritedName_key hk
      rw [← hsame, hi] at hd
      cases hd
    · simpa only [repeated_snoc_other hown] using h.fresh d v hd hv

theorem Passed.rename {front : List Member} {p : MethodPass} {m : Member} (h : n.Passed set c front p)
    (ho : n.Own set c m) (hm : signature m ∈ p.seen) :
    n.Passed set c (front ++ [m])
      ⟨freshName m.name p.taken :: p.taken, p.seen, p.renames.put (keyOf m) (freshName m.name p.taken)⟩ := by
  have hnew := freshName_not_mem m.name p.taken
  have hearlier := (h.seen _).1 hm
  have hrep : n.Repeated set c (front ++ [m]) m := (repeated_snoc ..).2 (.inr ⟨rfl, ho, hearlier⟩)
  refine ⟨fun s => ?_, fun d hd => List.mem_cons_of_mem _ (h.names d hd), fun k v hv => h.taken_put hv,
    fun k hk => h.untouched_put ho.1 hk, fun e he hn t ht => ?_, fun e he => ?_, fun d v hd hv => ?_⟩
  · rw [h.seen]
    constructor
    · rintro ⟨e, he, hs⟩
      exact ⟨e, List.mem_append_left _ he, hs⟩
    · rintro ⟨e, he, hs⟩
      rcases List.mem_append.1 he with he | he
      · exact ⟨e, he, hs⟩
      · rw [List.mem_singleton.1 he] at hs
        exact hs.2 ▸ hearlier
  · have hk : keyOf m ≠ keyOf e := fun hk => by
      have hsame : n.inheritedName set c m.name m.descriptor = n.inheritedName set c e.name e.descriptor :=
        inheritedName_key hk
      rw [← hsame, ho.2] at ht
      cases ht
    rw [Table.get?_put, if_neg hk]
    rcases List.mem_append.1 he with he | he
    · exact h.inherited e he hn t ht
    · exact (hk (by rw [List.mem_singleton.1 he])).elim
  · rw [Table.get?_put]
    split
    · rfl
    · next hk =>
      rcases (repeated_snoc ..).1 he with he | ⟨rfl, -⟩
      · exact h.repeated e he
      · exact (hk rfl).elim
  · rw [Table.get?_put] at hv
    split at hv
    · next hk =>
      cases hv
      exact ⟨fun e he hn => hnew (hn ▸ h.names e he), m, hk, hrep⟩
    · obtain ⟨hn, e, hk, he⟩ := h.fresh d v hd hv
      exact ⟨hn, e, hk, (repeated_snoc ..).2 (.inl he)⟩

theorem Passed.keep {front : List Member} {p : MethodPass} {m : Member} (h : n.Passed set c front p)
    (ho : n.Own set c m) (hm : signature m ∉ p.seen) :
    n.Passed set c (front ++ [m]) ⟨p.taken, signature m :: p.seen, p.renames⟩ := by
  have hrep (e : Member) : n.Repeated set c (front ++ [m]) e ↔ n.Repeated set c front e := by
    rw [repeated_snoc]
    exact or_iff_left fun hd => hm ((h.seen _).2 hd.2.2)
  refine ⟨fun s => ?_, h.names, h.taken, fun k hk => ?_, fun e he hn t ht => ?_, fun e he => ?_, fun d v hd hv => ?_⟩
  · simp only [List.mem_cons, h.seen, List.mem_append, List.not_mem_nil, or_false]
    constructor
    · rintro (rfl | ⟨e, he, hs⟩)
      · exact ⟨m, .inr rfl, ho, rfl⟩
      · exact ⟨e, .inl he, hs⟩
    · rintro ⟨e, he | rfl, hs⟩
      · exact .inr ⟨e, he, hs⟩
      · exact .inl hs.2.symm
  · exact h.untouched k fun e he => hk e (List.mem_append_left _ he)
  · rcases List.mem_append.1 he with he | he
    · exact h.inherited e he hn t ht
    · rw [List.mem_singleton.1 he, ho.2] at ht
      cases ht
  · exact h.repeated e ((hrep e).1 he)
  · simpa only [hrep] using h.fresh d v hd hv

/-- One more method. -/
theorem Passed.step (hr : rules.duplicateMembers = true) {front : List Member} {p : MethodPass}
    (h : n.Passed set c front p) (m : Member) : n.Passed set c (front ++ [m]) (nameMethod n set rules c p m) := by
  rcases nameMethod_cases n set rules c hr p m with ⟨hs, he⟩ | ⟨r, hs, hi, he⟩ | ⟨ho, hm, he⟩ | ⟨ho, hm, he⟩
  · rw [he]; exact h.special hs
  · rw [he]; exact h.inherit hi hs
  · rw [he]; exact h.rename ho hm
  · rw [he]; exact h.keep ho hm

theorem passed (hr : rules.duplicateMembers = true) (front : List Member) :
    n.Passed set c front (n.passOver set rules c front) := by
  induction front using List.reverseRecOn with
  | nil => exact .start
  | append_singleton front m ih =>
    rw [passOver_snoc]
    exact ih.step hr m

/-- What is filed under a key is not touched by methods with other keys. -/
theorem get?_passOver_append (front back : List Member) {k : String}
    (hk : ∀ e ∈ back, keyOf e ≠ k) : (n.passOver set rules c (front ++ back)).renames.get? k =
      (n.passOver set rules c front).renames.get? k := by
  induction back using List.reverseRecOn with
  | nil => simp
  | append_singleton back m ih =>
    have hm : keyOf m ≠ k := hk m (by simp)
    rw [← ih fun e he => hk e (List.mem_append_left _ he), ← List.append_assoc, passOver_snoc]
    generalize n.passOver set rules c (front ++ back) = p
    rcases nameMethod_ways n set rules c p m with ⟨-, he⟩ | ⟨r, -, -, he⟩ | ⟨-, -, -, he⟩ | ⟨-, -, -, he⟩ | ⟨-, -, he⟩
    all_goals simp [he, hm]

end Pass

end Naming

end ClassSkeleton
