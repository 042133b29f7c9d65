/-
  ClassSkeleton.Text.Cut — cutting a text at a character.

  `cutFirst` and `cutLast` cut at the first and the last occurrence and drop it;
  `splitAll` cuts at every occurrence, so it yields one piece more than there are
  occurrences. `joinAll` is the way back.
-/

namespace ClassSkeleton.Text

def cutFirst (c : Char) : List Char → Option (List Char × List Char)
  | [] => none
  | x :: xs => if x = c then some ([], xs) else (cutFirst c xs).map fun (a, b) => (x :: a, b)

def cutLast (c : Char) : List Char → Option (List Char × List Char)
  | [] => none
  | x :: xs =>
    match cutLast c xs with
    | some (a, b) => some (x :: a, b)
    | none => if x = c then some ([], xs) else none

def splitAll (c : Char) : List Char → List (List Char)
  | [] => [[]]
  | x :: xs =>
    if x = c then [] :: splitAll c xs
    else
      match splitAll c xs with
      | [] => [[x]]
      | p :: ps => (x :: p) :: ps

/-- The pieces with `c` between each two of them. -/
def joinAll (c : Char) : List (List Char) → List Char
  | [] => []
  | [p] => p
  | p :: q :: ps => p ++ c :: joinAll c (q :: ps)

theorem cutFirst_eq_some {c : Char} {s a b : List Char} (h : cutFirst c s = some (a, b)) :
    s = a ++ c :: b ∧ c ∉ a := by
  induction s generalizing a b with
  | nil => simp [cutFirst] at h
  | cons x xs ih =>
    by_cases hx : x = c
    · simp only [cutFirst, hx, if_true, Option.some.injEq, Prod.mk.injEq] at h
      simp [← h.1, ← h.2, hx]
    · simp only [cutFirst, hx, if_false, Option.map_eq_some_iff] at h
      obtain ⟨⟨a', b'⟩, h', heq⟩ := h
      simp only [Prod.mk.injEq] at heq
      obtain ⟨rfl, rfl⟩ := heq
      obtain ⟨hs, hn⟩ := ih h'
      exact ⟨by simp [hs], by simp [Ne.symm hx, hn]⟩

theorem cutFirst_append {c : Char} {a b : List Char} (h : c ∉ a) : cutFirst c (a ++ c :: b) = some (a, b) := by
  induction a with
  | nil => simp [cutFirst]
  | cons x xs ih =>
    simp only [List.mem_cons, not_or] at h
    simp [cutFirst, Ne.symm h.1, ih h.2]

theorem cutLast_eq_none {c : Char} {s : List Char} : cutLast c s = none ↔ c ∉ s := by
  induction s with
  | nil => simp [cutLast]
  | cons x xs ih =>
    simp only [cutLast, List.mem_cons, not_or, ← ih]
    cases cutLast c xs with
    | none => simp [eq_comm]
    | some p => simp

theorem cutLast_eq_some {c : Char} {s a b : List Char} (h : cutLast c s = some (a, b)) :
    s = a ++ c :: b ∧ c ∉ b := by
  induction s generalizing a b with
  | nil => simp [cutLast] at h
  | cons x xs ih =>
    simp only [cutLast] at h
    split at h
    · next a' b' hcut =>
      simp only [Option.some.injEq, Prod.mk.injEq] at h
      obtain ⟨rfl, rfl⟩ := h
      obtain ⟨hs, hn⟩ := ih hcut
      exact ⟨by simp [hs], hn⟩
    · next hcut =>
      split at h
      · next hx =>
        simp only [Option.some.injEq, Prod.mk.injEq] at h
        obtain ⟨rfl, rfl⟩ := h
        exact ⟨by simp [hx], cutLast_eq_none.1 hcut⟩
      · simp at h

theorem cutLast_append {c : Char} {a b : List Char} (h : c ∉ b) : cutLast c (a ++ c :: b) = some (a, b) := by
  induction a with
  | nil => simp [cutLast, cutLast_eq_none.2 h]
  | cons x xs ih => simp [cutLast, ih]

theorem splitAll_ne_nil (c : Char) (s : List Char) : splitAll c s ≠ [] := by
  cases s with
  | nil => simp [splitAll]
  | cons x xs =>
    simp only [splitAll]
    split
    · simp
    · split <;> simp

theorem joinAll_splitAll (c : Char) (s : List Char) : joinAll c (splitAll c s) = s := by
  induction s with
  | nil => rfl
  | cons x xs ih =>
    cases h : splitAll c xs with
    | nil => exact absurd h (splitAll_ne_nil c xs)
    | cons p ps =>
      rw [h] at ih
      by_cases hx : x = c
      · simp [splitAll, hx, h, joinAll, ih]
      · cases ps with
        | nil => simpa [splitAll, hx, h, joinAll] using ih
        | cons q qs => simpa [splitAll, hx, h, joinAll] using ih

theorem splitAll_append (c : Char) (a b : List Char) : splitAll c (a ++ c :: b) = splitAll c a ++ splitAll c b := by
  induction a with
  | nil => simp [splitAll]
  | cons x a ih =>
    by_cases hx : x = c
    · simp [splitAll, hx, ih]
    · rw [List.cons_append, splitAll, if_neg hx, ih, splitAll, if_neg hx]
      cases h : splitAll c a with
      | nil => exact absurd h (splitAll_ne_nil c a)
      | cons p ps => rfl

theorem splitAll_of_not_mem {c : Char} {s : List Char} (h : c ∉ s) : splitAll c s = [s] := by
  induction s with
  | nil => rfl
  | cons x s ih =>
    simp only [List.mem_cons, not_or] at h
    rw [splitAll, if_neg (Ne.symm h.1), ih h.2]

/-- What is added without the separator stays with the last piece. -/
theorem getLast?_splitAll_append {c : Char} {b : List Char} (h : c ∉ b) (a : List Char) :
    ∃ front, (splitAll c (a ++ b)).getLast? = some (front ++ b) := by
  induction a with
  | nil => exact ⟨[], by rw [List.nil_append, splitAll_of_not_mem h]; rfl⟩
  | cons x a ih =>
    obtain ⟨front, hf⟩ := ih
    rw [List.cons_append, splitAll]
    cases hs : splitAll c (a ++ b) with
    | nil => exact absurd hs (splitAll_ne_nil c _)
    | cons p ps =>
      rw [hs] at hf
      split
      · exact ⟨front, by rw [List.getLast?_cons_cons, hf]⟩
      · cases ps with
        | nil =>
          cases hf
          exact ⟨x :: front, rfl⟩
        | cons q qs => exact ⟨front, by rw [List.getLast?_cons_cons] at hf ⊢; exact hf⟩

/-- The pieces have the other characters of the text and no separator. -/
theorem mem_splitAll {c : Char} {s piece : List Char} (h : piece ∈ splitAll c s) : c ∉ piece ∧ ∀ x ∈ piece, x ∈ s := by
  induction s generalizing piece with
  | nil =>
    rw [splitAll, List.mem_singleton] at h
    subst h
    exact ⟨List.not_mem_nil, fun x hx => by cases hx⟩
  | cons y s ih =>
    have later (hp : piece ∈ splitAll c s) : c ∉ piece ∧ ∀ x ∈ piece, x ∈ y :: s :=
      ⟨(ih hp).1, fun x hx => List.mem_cons_of_mem _ ((ih hp).2 x hx)⟩
    rw [splitAll] at h
    split at h
    · rcases List.mem_cons.1 h with rfl | h
      · exact ⟨List.not_mem_nil, fun x hx => by cases hx⟩
      · exact later h
    · next hy =>
      cases hs : splitAll c s with
      | nil => exact absurd hs (splitAll_ne_nil c s)
      | cons p ps =>
        rw [hs] at h
        rcases List.mem_cons.1 h with rfl | h
        · obtain ⟨hc, hmem⟩ := ih (show p ∈ splitAll c s by simp [hs])
          refine ⟨by simp [hc, Ne.symm hy], fun x hx => ?_⟩
          rcases List.mem_cons.1 hx with rfl | hx
          · exact List.mem_cons_self
          · exact List.mem_cons_of_mem _ (hmem x hx)
        · exact later (by simp [hs, h])

theorem splitAll_joinAll {c : Char} {pieces : List (List Char)} (hne : pieces ≠ []) (h : ∀ p ∈ pieces, c ∉ p) :
    splitAll c (joinAll c pieces) = pieces := by
  induction pieces with
  | nil => exact absurd rfl hne
  | cons p ps ih =>
    have hp := splitAll_of_not_mem (h p List.mem_cons_self)
    cases ps with
    | nil => exact hp
    | cons q qs =>
      rw [joinAll, splitAll_append, hp, ih (by simp) fun r hr => h r (List.mem_cons_of_mem _ hr)]
      rfl

theorem joinAll_prefix (c : Char) {front pieces : List (List Char)} (h : front <+: pieces) :
    joinAll c front <+: joinAll c pieces := by
  induction front generalizing pieces with
  | nil => exact List.nil_prefix
  | cons p ps ih =>
    obtain ⟨rest, rfl⟩ := h
    cases ps with
    | nil =>
      cases rest with
      | nil => exact List.prefix_rfl
      | cons r rs => exact List.prefix_append p _
    | cons q qs =>
      have hback := ih (List.prefix_append (q :: qs) rest)
      simpa [joinAll, List.prefix_append_right_inj] using hback

end ClassSkeleton.Text
