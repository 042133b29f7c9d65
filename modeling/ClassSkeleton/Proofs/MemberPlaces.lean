import Mathlib.Data.List.Basic
import Mathlib.Data.List.Nodup

/-
  ClassSkeleton.Proofs.MemberPlaces — members of a list and what stands before them.

  The passes over the members of a class go by what came before, so what they know of a front of the members
  is about places: a member together with those before it (`Placed`). Keys that are told apart mark places
  (`place_unique`), and set a member off from those before and behind it (`keys_apart`).
-/

namespace ClassSkeleton

variable {α β : Type} {members front back : List α} {f g m : α}

/-- Some member of the list, together with those before it, is as `P` says. -/
def Placed (P : List α → α → Prop) (members : List α) : Prop :=
  ∃ before f after, members = before ++ f :: after ∧ P before f

theorem not_placed_nil (P : List α → α → Prop) : ¬ Placed P [] := by
  rintro ⟨before, f, after, h, -⟩
  simp at h

theorem placed_snoc {P : List α → α → Prop} : Placed P (front ++ [m]) ↔ Placed P front ∨ P front m := by
  constructor
  · rintro ⟨before, f, after, hsplit, hp⟩
    rcases List.eq_nil_or_concat after with rfl | ⟨after, x, rfl⟩
    · obtain ⟨rfl, he⟩ := List.append_inj' hsplit rfl
      cases he
      exact .inr hp
    · have hsplit : front ++ [m] = (before ++ f :: after) ++ [x] := by simpa using hsplit
      obtain ⟨rfl, -⟩ := List.append_inj' hsplit rfl
      exact .inl ⟨before, f, after, rfl, hp⟩
  · rintro (⟨before, f, after, rfl, hp⟩ | hp)
    · exact ⟨before, f, after ++ [m], by simp, hp⟩
    · exact ⟨front, m, [], rfl, hp⟩

/-- The later of two members, with the earlier one before it. -/
theorem exists_place (h : [f, g].Sublist members) : ∃ before after, members = before ++ g :: after ∧ f ∈ before := by
  obtain ⟨l, r, rfl, hf, hg⟩ := List.cons_sublist_iff.1 h
  obtain ⟨before, after, rfl⟩ := List.append_of_mem (List.singleton_sublist.1 hg)
  exact ⟨l ++ before, after, by simp, List.mem_append_left _ hf⟩

theorem nodup_map_iff {φ : α → β} : (members.map φ).Nodup ↔ ∀ {f g : α}, [f, g].Sublist members → φ f ≠ φ g := by
  rw [List.nodup_iff_pairwise_ne, List.pairwise_map, List.pairwise_iff_forall_sublist]

/-- No member before or behind has the key of the one between them. -/
theorem keys_apart {key : α → β} (hk : (members.map key).Nodup) (hm : members = front ++ m :: back) :
    (front.map key).Nodup ∧ (∀ e ∈ front, key e ≠ key m) ∧ ∀ e ∈ back, key e ≠ key m := by
  rw [hm, List.map_append, List.map_cons] at hk
  obtain ⟨hfront, hback, hapart⟩ := List.nodup_append.1 hk
  refine ⟨hfront, fun e he => hapart _ (List.mem_map_of_mem he) _ List.mem_cons_self, fun e he hke => ?_⟩
  exact (List.nodup_cons.1 hback).1 (hke ▸ List.mem_map_of_mem he)

/-- Keys that are told apart mark the place of a member. -/
theorem place_unique {key : α → β} {before after : List α} (hk : (members.map key).Nodup)
    (hf : members = front ++ f :: back) (hg : members = before ++ g :: after) (he : key g = key f) :
    before = front ∧ g = f := by
  obtain ⟨-, hbefore, hbehind⟩ := keys_apart hk hf
  have hkeys : front.map key ++ key f :: back.map key = before.map key ++ key g :: after.map key := by
    simpa using congrArg (List.map key) (hf.symm.trans hg)
  have hfront : key g ∉ front.map key := by
    rw [he, List.mem_map]
    rintro ⟨e, hm, hke⟩
    exact hbefore e hm hke
  have hback : key g ∉ back.map key := by
    rw [he, List.mem_map]
    rintro ⟨e, hm, hke⟩
    exact hbehind e hm hke
  have hlength := congrArg List.length ((List.append_cons_inj_of_notMem hfront hback).1 hkeys).1
  obtain ⟨rfl, hc⟩ := List.append_inj (hf.symm.trans hg) (by simpa using hlength)
  cases hc
  exact ⟨rfl, rfl⟩

end ClassSkeleton
