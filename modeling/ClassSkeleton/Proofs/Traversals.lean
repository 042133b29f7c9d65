/-
  ClassSkeleton.Proofs.Traversals — lists whose items are worked off until one fails.

  Working off a list in `Except` yields one result for each item, in order, or the error of the first item that has one;
  what stands behind that item does not matter.
-/

namespace ClassSkeleton

variable {α β ε : Type} {f : α → Except ε β} {l : List α}

theorem mapM_congr_of_mem {g : α → Except ε β} (h : ∀ a ∈ l, f a = g a) :
    l.mapM f = l.mapM g := by
  induction l with
  | nil => rfl
  | cons a l ih =>
    rw [List.mapM_cons, List.mapM_cons, h a List.mem_cons_self, ih fun b hb => h b (List.mem_cons_of_mem _ hb)]

/-- If no item fails, the results are those of the items. -/
theorem mapM_of_ok {g : α → β} (h : ∀ a ∈ l, f a = .ok (g a)) : l.mapM f = .ok (l.map g) :=
  (mapM_congr_of_mem h).trans (List.mapM_pure ..)

/-- The first item that fails decides. -/
theorem mapM_of_error {a : α} {front back : List α} {e : ε} (hf : ∀ b ∈ front, ∃ r, f b = .ok r) (ha : f a = .error e) :
    (front ++ a :: back).mapM f = .error e := by
  induction front with
  | nil =>
    rw [List.nil_append, List.mapM_cons, ha]
    rfl
  | cons b front ih =>
    obtain ⟨r, hr⟩ := hf b List.mem_cons_self
    rw [List.cons_append, List.mapM_cons, hr, ih fun c hc => hf c (List.mem_cons_of_mem _ hc)]
    rfl

theorem mapM_cons_ok {a : α} {r : List β} (h : (a :: l).mapM f = .ok r) :
    ∃ b rest, f a = .ok b ∧ l.mapM f = .ok rest ∧ r = b :: rest := by
  rw [List.mapM_cons] at h
  cases ha : f a with
  | error e => rw [ha] at h; cases h
  | ok b =>
    cases hl : l.mapM f with
    | error e => rw [ha, hl] at h; cases h
    | ok rest =>
      rw [ha, hl] at h
      cases h
      exact ⟨b, rest, rfl, rfl, rfl⟩

/-- The results come from the items, and every item has one. -/
theorem mapM_ok_mem {r : List β} (h : l.mapM f = .ok r) :
    (∀ b ∈ r, ∃ a ∈ l, f a = .ok b) ∧ ∀ a ∈ l, ∃ b ∈ r, f a = .ok b := by
  induction l generalizing r with
  | nil =>
    cases h
    exact ⟨fun b hb => (by cases hb), fun a ha => (by cases ha)⟩
  | cons a l ih =>
    obtain ⟨x, rest, ha, hl, rfl⟩ := mapM_cons_ok h
    obtain ⟨hback, hforth⟩ := ih hl
    refine ⟨fun b hb => ?_, fun a' ha' => ?_⟩
    · rcases List.mem_cons.1 hb with rfl | hb
      · exact ⟨a, List.mem_cons_self, ha⟩
      · obtain ⟨a', hm, ha'⟩ := hback b hb
        exact ⟨a', List.mem_cons_of_mem _ hm, ha'⟩
    · rcases List.mem_cons.1 ha' with rfl | hm
      · exact ⟨x, List.mem_cons_self, ha⟩
      · obtain ⟨b, hb, hfb⟩ := hforth a' hm
        exact ⟨b, List.mem_cons_of_mem _ hb, hfb⟩

theorem mapM_cases (f : α → Except ε β) (l : List α) :
    (∃ r, l.mapM f = .ok r) ∨
      ∃ front a back r e, l = front ++ a :: back ∧ front.mapM f = .ok r ∧ f a = .error e ∧ l.mapM f = .error e := by
  induction l with
  | nil => exact .inl ⟨[], rfl⟩
  | cons a l ih =>
    simp only [List.mapM_cons]
    cases ha : f a with
    | error e => exact .inr ⟨[], a, l, [], e, rfl, rfl, ha, rfl⟩
    | ok b =>
      rcases ih with ⟨r, hr⟩ | ⟨front, a', back, r, e, hl, hf, ha', he⟩
      · exact .inl ⟨b :: r, by rw [hr]; rfl⟩
      · refine .inr ⟨a :: front, a', back, b :: r, e, by rw [hl]; rfl, ?_, ha', by rw [he]; rfl⟩
        rw [List.mapM_cons, ha, hf]
        rfl

/-- An error is that of an item behind items that do not fail. -/
theorem mapM_error_iff {e : ε} :
    l.mapM f = .error e ↔
      ∃ front a back, l = front ++ a :: back ∧ (∀ b ∈ front, ∃ r, f b = .ok r) ∧ f a = .error e := by
  constructor
  · intro h
    rcases mapM_cases f l with ⟨r, hr⟩ | ⟨front, a, back, r, e', hl, hr, ha, he⟩
    · rw [h] at hr
      cases hr
    · rw [h] at he
      cases he
      refine ⟨front, a, back, hl, fun b hb => ?_, ha⟩
      obtain ⟨x, -, hx⟩ := (mapM_ok_mem hr).2 b hb
      exact ⟨x, hx⟩
  · rintro ⟨front, a, back, rfl, hf, ha⟩
    exact mapM_of_error hf ha

/-- No item that is picked fails. -/
theorem mapM_filter_ok_iff {p : α → Bool} :
    (∃ r, (l.filter p).mapM f = .ok r) ↔ ∀ a ∈ l, p a = true → ∃ b, f a = .ok b := by
  constructor
  · rintro ⟨r, hr⟩ a ha hp
    obtain ⟨b, -, hb⟩ := (mapM_ok_mem hr).2 a (List.mem_filter.2 ⟨ha, hp⟩)
    exact ⟨b, hb⟩
  · intro h
    rcases mapM_cases f (l.filter p) with hr | ⟨front, a, back, r, e, hl, -, he, -⟩
    · exact hr
    · obtain ⟨ha, hp⟩ := List.mem_filter.1 (show a ∈ l.filter p by rw [hl]; simp)
      obtain ⟨b, hb⟩ := h a ha hp
      rw [he] at hb
      cases hb

/-- An error is that of the first item that is picked and fails. -/
theorem mapM_filter_error_iff {p : α → Bool} {e : ε} :
    (l.filter p).mapM f = .error e ↔
      ∃ front a back, l = front ++ a :: back ∧ (∀ b ∈ front, p b = true → ∃ r, f b = .ok r) ∧ p a = true ∧
        f a = .error e := by
  constructor
  · intro h
    obtain ⟨front, a, back, hl, hf, ha⟩ := mapM_error_iff.1 h
    obtain ⟨l₁, l₂, rfl, rfl, hback⟩ := List.filter_eq_append_iff.1 hl
    obtain ⟨skipped, l₃, rfl, hs, hp, -⟩ := List.filter_eq_cons_iff.1 hback
    refine ⟨l₁ ++ skipped, a, l₃, (List.append_assoc ..).symm, fun b hb hpb => ?_, hp, ha⟩
    rcases List.mem_append.1 hb with hb | hb
    · exact hf b (List.mem_filter.2 ⟨hb, hpb⟩)
    · exact absurd hpb (hs b hb)
  · rintro ⟨front, a, back, rfl, hf, hp, ha⟩
    rw [List.filter_append, List.filter_cons_of_pos hp]
    refine mapM_of_error (fun b hb => ?_) ha
    obtain ⟨hb, hpb⟩ := List.mem_filter.1 hb
    exact hf b hb hpb

end ClassSkeleton
