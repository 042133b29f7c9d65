import ClassSkeleton.Proofs.OverrideNames

/-
  ClassSkeleton.Proofs.SupertypeVisits — the order in which classes are named.

  The types of the classes are visited supertypes first, whatever circles their supertypes make, and the order is the
  one outcome of this visit. It has the type of every class once; without circles, all ancestors of a class that are
  in the set stand before it.

  - `supertypes_visited_first`: all sets of classes of pairwise different types.
  - `supertypes_visited_first_of_diamond`: two ways up to one type; and two types above each other.
-/

namespace ClassSkeleton

namespace Naming

open Relation WorkingSet

/-- For classes of pairwise different types, whatever circles their supertypes make: visiting the types of the set,
supertypes first, has one outcome, which is the order in which the classes are named; this order has every type of the
set once and no other type; and without circles, all ancestors of a class in the set stand before it. -/
theorem supertypes_visited_first {classes : List ClassFile} (hd : (classes.map (·.thisClass)).Nodup) :
    (∃ seen, ∀ seen' order', Visits (ofList classes) ((ofList classes).map (·.1)) [] [] seen' order' ↔
      seen' = seen ∧ order' = (ofList classes).order) ∧
    (ofList classes).order.Perm (classes.map (·.thisClass)) ∧
    (Acyclic classes → ∀ a b, TransGen (Supertype classes) a b →
      ∃ before after, (ofList classes).order = before ++ a :: after ∧ b ∈ before) := by
  obtain ⟨hnodup, hmem⟩ := order_exact (ofList classes)
  have hin (t : TypeName) : t ∈ (ofList classes).order ↔ t ∈ classes.map (·.thisClass) := by
    rw [hmem, Option.isSome_iff_exists]
    simp only [get?_ofList hd, List.mem_map]
  refine ⟨?_, (List.perm_ext_iff_of_nodup hnodup hd).2 hin, fun hacyclic a b hab => ?_⟩
  · obtain ⟨seen, hv⟩ := order_visits (ofList classes)
    refine ⟨seen, fun seen' order' => ⟨fun h => h.unique hv, ?_⟩⟩
    rintro ⟨rfl, rfl⟩
    exact hv
  · have ha : a ∈ (ofList classes).order := by
      obtain ⟨_, ⟨c, hc, _, _, rfl, _, _⟩, _⟩ := TransGen.head'_iff.1 hab
      exact (hin _).2 (List.mem_map_of_mem hc)
    obtain ⟨before, after, horder⟩ := List.append_of_mem ha
    refine ⟨before, after, horder, ?_⟩
    rw [← extends_ofList hd] at hab
    exact (order_listed (acyclic_ofList hd hacyclic)).ancestors_before hab ⟨after, by simp [horder]⟩

/-- Two ways up from `D` to `A`, whose own supertype is not in the set. -/
def diamond : List ClassFile :=
  [sketch "D" ["B", "C"] [], sketch "C" ["A"] [], sketch "B" ["A"] [], sketch "A" ["java.lang.Object"] []]

/-- Two classes above each other. -/
def circle : List ClassFile := [sketch "X" ["Y"] [], sketch "Y" ["X"] []]

theorem supertypes_visited_first_of_diamond :
    (ofList diamond).order.Perm [⟨"D"⟩, ⟨"C"⟩, ⟨"B"⟩, ⟨"A"⟩] ∧
    (∃ before after, (ofList diamond).order = before ++ ⟨"D"⟩ :: after ∧ ⟨"A"⟩ ∈ before) ∧
    (ofList circle).order.Perm [⟨"X"⟩, ⟨"Y"⟩] := by
  have hrank : ∀ c ∈ diamond, ∀ d ∈ diamond, d.thisClass ∈ c.supertypes →
      (if d.thisClass = ⟨"A"⟩ then 0 else if d.thisClass = ⟨"D"⟩ then 2 else 1) <
        if c.thisClass = ⟨"A"⟩ then 0 else if c.thisClass = ⟨"D"⟩ then 2 else 1 := by decide
  have hdb : Supertype diamond ⟨"D"⟩ ⟨"B"⟩ := ⟨_, .head _, sketch "B" ["A"] [], by decide, rfl, rfl, by decide⟩
  have hba : Supertype diamond ⟨"B"⟩ ⟨"A"⟩ :=
    ⟨sketch "B" ["A"] [], by decide, sketch "A" ["java.lang.Object"] [], by decide, rfl, rfl, by decide⟩
  have hd : (diamond.map (·.thisClass)).Nodup := by decide
  have hc : (circle.map (·.thisClass)).Nodup := by decide
  obtain ⟨-, hperm, hbefore⟩ := supertypes_visited_first hd
  obtain ⟨-, hcircle, -⟩ := supertypes_visited_first hc
  have hacyclic : Acyclic diamond :=
    acyclic_of_check (fun t => if t = ⟨"A"⟩ then 0 else if t = ⟨"D"⟩ then 2 else 1) hrank
  exact ⟨hperm, hbefore hacyclic ⟨"D"⟩ ⟨"A"⟩ (.tail (.single hdb) hba), hcircle⟩

end Naming

end ClassSkeleton
