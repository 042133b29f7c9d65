import Mathlib.Data.List.Basic
import Mathlib.Data.List.Induction
import ClassSkeleton.Cache.Load

/-
  ClassSkeleton.Proofs.FirstPlaces — the elements of a list at their first places.

  `FirstSeen l r` says that `r` has the elements of `l`, in the order in which they are first seen. So `r` has each of
  them once (`FirstSeen.nodup`), and no other list will do. It is kept as `l` grows at its end: by nothing when the element was
  seen before, by the element itself when it is new. What the cache lists for an archive is such a list
  (`firstOccurrences_firstSeen`).
-/

namespace ClassSkeleton.Cache

variable {α : Type} [DecidableEq α] {l r : List α} {a : α}

structure FirstSeen (l r : List α) : Prop where
  mem : ∀ a, a ∈ r ↔ a ∈ l
  order : r.Pairwise fun a b => l.idxOf a < l.idxOf b

namespace FirstSeen

theorem nil : FirstSeen ([] : List α) [] := ⟨fun _ => .rfl, .nil⟩

theorem nodup (h : FirstSeen l r) : r.Nodup := by
  refine List.nodup_iff_pairwise_ne.2 (h.order.imp fun {a b} hlt he => ?_)
  rw [he] at hlt
  exact Nat.lt_irrefl _ hlt

/-- More at the end does not move the first places. -/
theorem order_append (h : FirstSeen l r) (more : List α) :
    r.Pairwise fun a b => (l ++ more).idxOf a < (l ++ more).idxOf b := by
  refine h.order.imp_of_mem fun {a b} ha hb hlt => ?_
  rwa [List.idxOf_append_of_mem ((h.mem a).1 ha), List.idxOf_append_of_mem ((h.mem b).1 hb)]

theorem again (h : FirstSeen l r) (ha : a ∈ l) : FirstSeen (l ++ [a]) r := by
  refine ⟨fun b => ?_, h.order_append [a]⟩
  rw [h.mem, List.mem_append, List.mem_singleton]
  exact ⟨.inl, fun hb => hb.elim id fun he => he ▸ ha⟩

theorem first (h : FirstSeen l r) (ha : a ∉ l) : FirstSeen (l ++ [a]) (r ++ [a]) := by
  refine ⟨fun b => by simp only [List.mem_append, h.mem], ?_⟩
  refine List.pairwise_append.2 ⟨h.order_append [a], List.pairwise_singleton _ _, fun b hb c hc => ?_⟩
  have hbl := (h.mem b).1 hb
  rw [List.mem_singleton.1 hc, List.idxOf_append_of_mem hbl, List.idxOf_append_of_notMem ha]
  exact Nat.lt_add_right _ (List.idxOf_lt_length_of_mem hbl)

end FirstSeen

theorem mem_firstOccurrences : a ∈ firstOccurrences l ↔ a ∈ l := by
  have go (acc : List α) : a ∈ l.foldl (fun acc a => if a ∈ acc then acc else a :: acc) acc ↔ a ∈ l ∨ a ∈ acc := by
    induction l generalizing acc with
    | nil => simp
    | cons b l ih =>
      rw [List.foldl_cons, ih, List.mem_cons]
      split
      · next hb => exact ⟨fun h => h.imp .inr id, fun h => h.elim (Or.elim · (fun he => .inr (he ▸ hb)) .inl) .inr⟩
      · rw [List.mem_cons, or_left_comm, or_assoc]
  simpa [firstOccurrences] using go []

theorem firstOccurrences_snoc (l : List α) (a : α) :
    firstOccurrences (l ++ [a]) = if a ∈ l then firstOccurrences l else firstOccurrences l ++ [a] := by
  have hmem := mem_firstOccurrences (l := l) (a := a)
  simp only [firstOccurrences, List.mem_reverse] at hmem
  simp only [firstOccurrences, List.foldl_append, List.foldl_cons, List.foldl_nil, hmem]
  split
  · rfl
  · rw [List.reverse_cons]

theorem firstOccurrences_firstSeen (l : List α) : FirstSeen l (firstOccurrences l) := by
  induction l using List.reverseRecOn with
  | nil => exact .nil
  | append_singleton l a ih =>
    rw [firstOccurrences_snoc]
    split
    · next ha => exact ih.again ha
    · next ha => exact ih.first ha

end ClassSkeleton.Cache
