import ClassSkeleton.Proofs.AncestorNames
import ClassSkeleton.Proofs.FiniteWalks

/-
  ClassSkeleton.Proofs.AncestorSearch — the search for an inherited name ends.

  The search looks at the pending types, the one added last first. A type without a new name is passed over, and its
  supertypes become pending when it is in the set and was not seen before; the search stops at a type with a new name,
  or when nothing is pending. Each turn is a step of `Passes`, and the search is the only way to go on.

  - `inherited_names_complete`: what it stops with, for any names, any set, with circles or with gaps, and any method.
-/

namespace ClassSkeleton.Naming

open Relation

variable {n : Naming} {set : WorkingSet} {name descriptor : String}

/-- A turn of the search that finds no name, from the pending types and those seen. -/
inductive Passes (n : Naming) (set : WorkingSet) (name descriptor : String) :
    List TypeName × List TypeName → List TypeName × List TypeName → Prop where
  | again {t : TypeName} {rest seen : List TypeName} (hs : t ∈ seen) :
      Passes n set name descriptor (t :: rest, seen) (rest, seen)
  | outside {t : TypeName} {rest seen : List TypeName} (hs : t ∉ seen) (hn : n.methodName t name descriptor = none)
      (hc : set.get? t = none) : Passes n set name descriptor (t :: rest, seen) (rest, seen)
  | climbs {t : TypeName} {rest seen : List TypeName} {c : ClassFile} (hs : t ∉ seen)
      (hn : n.methodName t name descriptor = none) (hc : set.get? t = some c) :
      Passes n set name descriptor (t :: rest, seen) (c.supertypes.reverse ++ rest, t :: seen)

theorem passes_unique (n : Naming) (set : WorkingSet) (name descriptor : String) :
    Relator.RightUnique (Passes n set name descriptor) := by
  intro here next next' h h'
  cases h with
  | again hs =>
    cases h' with
    | again => rfl
    | outside => rfl
    | climbs hs' => exact absurd hs hs'
  | outside hs _ hc =>
    cases h' with
    | again => rfl
    | outside => rfl
    | climbs _ _ hc' => simp [hc] at hc'
  | climbs hs _ hc =>
    cases h' with
    | again hs' => exact absurd hs' hs
    | outside _ _ hc' => simp [hc] at hc'
    | climbs _ _ hc' =>
      cases hc.symm.trans hc'
      rfl

/-- The search has nothing pending any more, or it stands at a type that was not seen and has a new name. -/
inductive Stops (n : Naming) (name descriptor : String) : List TypeName × List TypeName → Option String → Prop where
  | nowhere {seen : List TypeName} : Stops n name descriptor ([], seen) none
  | found {t : TypeName} {rest seen : List TypeName} {r : String} (hs : t ∉ seen)
      (hr : n.methodName t name descriptor = some r) : Stops n name descriptor (t :: rest, seen) (some r)

theorem Stops.final {last next : List TypeName × List TypeName} {r : Option String}
    (h : Stops n name descriptor last r) : ¬ Passes n set name descriptor last next := by
  intro hp
  cases h with
  | nowhere => cases hp
  | found hs hr =>
    cases hp with
    | again hs' => exact hs hs'
    | outside _ hn => simp [hr] at hn
    | climbs _ hn => simp [hr] at hn

/-- Turn after turn the search comes to where it stops with the name that is worked out. -/
theorem searchAncestors_passes (n : Naming) (set : WorkingSet) (name descriptor : String)
    (pending seen : List TypeName) :
    ∃ last, ReflTransGen (Passes n set name descriptor) (pending, seen) last ∧
      Stops n name descriptor last (n.searchAncestors set name descriptor pending seen) := by
  fun_induction searchAncestors n set name descriptor pending seen with
  | case1 seen => exact ⟨_, .refl, .nowhere⟩
  | case2 seen t rest hs ih =>
    obtain ⟨last, hwalk, hstop⟩ := ih
    exact ⟨last, hwalk.head (.again hs), hstop⟩
  | case3 seen t rest hs found hf => exact ⟨_, .refl, .found hs hf⟩
  | case4 seen t rest hs hn hc ih =>
    obtain ⟨last, hwalk, hstop⟩ := ih
    exact ⟨last, hwalk.head (.outside hs hn hc), hstop⟩
  | case5 seen t rest hs hn c hc ih =>
    obtain ⟨last, hwalk, hstop⟩ := ih
    exact ⟨last, hwalk.head (.climbs hs hn hc), hstop⟩

/-- Whatever names were given before, whatever is in the set and however its classes are above each other: the search
for the name a method inherits cannot go on for ever, and stops with the name that is worked out. A name it finds is
the one recorded for the name and the descriptor at a type above the class, along supertypes of classes of the set; and
it finds none only if no type above the class has one. -/
theorem inherited_names_complete (n : Naming) (set : WorkingSet) (c : ClassFile) (name descriptor : String) :
    (∃ last, Ends (Passes n set name descriptor) (c.supertypes.reverse, []) last ∧
      Stops n name descriptor last (n.inheritedName set c name descriptor)) ∧
    (∀ r, n.inheritedName set c name descriptor = some r →
      ∃ t, set.Ancestor c t ∧ n.methodName t name descriptor = some r) ∧
    (n.inheritedName set c name descriptor = none →
      ∀ t, set.Ancestor c t → n.methodName t name descriptor = none) := by
  refine ⟨?_, fun r hr => inheritedName_some hr, fun hn => inheritedName_eq_none.1 hn⟩
  obtain ⟨last, hwalk, hstop⟩ := searchAncestors_passes n set name descriptor c.supertypes.reverse []
  exact ⟨last, .of_reaches (passes_unique n set name descriptor) hwalk fun _ => hstop.final, hstop⟩

end ClassSkeleton.Naming
