import Mathlib.Data.List.Nodup
import Mathlib.Logic.Relation
import Mathlib.Tactic.Tauto
import ClassSkeleton.Naming

/-
  ClassSkeleton.Proofs.SupertypeOrder — supertypes are listed first.

  The order in which the classes of a set are worked on is what visiting its types leaves (`order_visits`). To visit a
  type that was not seen is to visit its supertypes in the set and then to list it; to visit one that was seen is to
  pass over it. `Visits` states this rule for a list of types, with the types seen and the list so far before and
  after. It knows nothing of pending steps, and a visit that went on for ever would have no derivation. A visit has one
  outcome (`Visits.unique`); it adds what it sees to the list, once, and nothing else (`Visits.adds`). So the order has
  every type of the set once (`order_exact`).

  `Extends set a b` says that the class of `a` in the set names `b`, which is in the set too, as its supertype. Without
  circles in this relation, every type of the set stands after all its supertypes in the set (`order_listed`). What
  carries the proof is where a type that was seen can be: it is listed, or what is visited now is among its ancestors.
  So a type that is visited again while it waits to be listed would be an ancestor of its own.
-/

namespace ClassSkeleton

theorem Table.isSome_get? {κ ν : Type} [DecidableEq κ] {t : Table κ ν} {k : κ} (h : k ∈ t.map (·.1)) :
    (t.get? k).isSome = true := by
  induction t with
  | nil => cases h
  | cons e rest ih =>
    simp only [Table.get?]
    split
    · rfl
    · next hne => exact ih ((List.mem_cons.1 h).resolve_left (Ne.symm hne))

namespace WorkingSet

open Relation

/-- `b` is a supertype of `a`, both in the set. -/
def Extends (set : WorkingSet) (a b : TypeName) : Prop :=
  ∃ c, set.get? a = some c ∧ b ∈ c.supertypes ∧ (set.get? b).isSome = true

def Acyclic (set : WorkingSet) : Prop := ∀ t, ¬ TransGen (Extends set) t t

/-- A list of the types of a set, each once and after its supertypes in the set. -/
structure Listed (set : WorkingSet) (order : List TypeName) : Prop where
  complete : ∀ t, (set.get? t).isSome = true → t ∈ order
  sound : ∀ t ∈ order, (set.get? t).isSome = true
  nodup : order.Nodup
  supertypesFirst : ∀ before t, before ++ [t] <+: order → ∀ s, Extends set t s → s ∈ before

/-! ## Visits -/

/-- The supertypes of a class that are in the set. -/
def parents (set : WorkingSet) (c : ClassFile) : List TypeName := c.supertypes.filter fun s => (set.get? s).isSome

/-- Types are visited one after another, from the types seen and listed before to those seen and listed afterwards. -/
inductive Visits (set : WorkingSet) : (types seen order seen' order' : List TypeName) → Prop where
  | done {seen order : List TypeName} : Visits set [] seen order seen order
  | again {t : TypeName} {rest seen order seen' order' : List TypeName} (hs : t ∈ seen)
      (hrest : Visits set rest seen order seen' order') : Visits set (t :: rest) seen order seen' order'
  | listed {t : TypeName} {c : ClassFile} {rest seen order above listed seen' order' : List TypeName} (hs : t ∉ seen)
      (hc : set.get? t = some c) (hup : Visits set (set.parents c) (t :: seen) order above listed)
      (hrest : Visits set rest above (listed ++ [t]) seen' order') : Visits set (t :: rest) seen order seen' order'

/-- What visiting the types adds to the list: `new`. -/
structure Adds (set : WorkingSet) (types seen order seen' order' new : List TypeName) : Prop where
  extended : order' = order ++ new
  nodup : new.Nodup
  covers : ∀ t, t ∈ seen' ↔ t ∈ seen ∨ t ∈ new
  fresh : ∀ t ∈ new, t ∉ seen
  inSet : ∀ t ∈ new, (set.get? t).isSome = true
  visited : ∀ t ∈ types, t ∈ seen'

variable {set : WorkingSet} {t : TypeName} {c : ClassFile} {types rest seen order seen' order' : List TypeName}

theorem Visits.unique {seen'' order'' : List TypeName} (h : Visits set types seen order seen' order')
    (h' : Visits set types seen order seen'' order'') : seen' = seen'' ∧ order' = order'' := by
  induction h generalizing seen'' order'' with
  | done =>
    cases h'
    exact ⟨rfl, rfl⟩
  | again hs _ ih =>
    cases h' with
    | again _ hrest => exact ih hrest
    | listed hn => exact absurd hs hn
  | listed hs hc _ _ ihup ih =>
    cases h' with
    | again hs' => exact absurd hs' hs
    | listed _ hc' hup hrest =>
      cases hc.symm.trans hc'
      obtain ⟨rfl, rfl⟩ := ihup hup
      exact ih hrest

/-- A type that is listed adds what is above it, itself and what follows. -/
theorem Adds.listed {above listed up new : List TypeName} (hs : t ∉ seen) (hc : set.get? t = some c)
    (hup : Adds set (set.parents c) (t :: seen) order above listed up)
    (h : Adds set rest above (listed ++ [t]) seen' order' new) :
    Adds set (t :: rest) seen order seen' order' (up ++ t :: new) := by
  have hseen (s : TypeName) : s ∈ seen' ↔ ((s = t ∨ s ∈ seen) ∨ s ∈ up) ∨ s ∈ new := by
    rw [h.covers, hup.covers, List.mem_cons]
  have hmem (s : TypeName) : s ∈ up ++ t :: new ↔ s ∈ up ∨ s = t ∨ s ∈ new := by
    rw [List.mem_append, List.mem_cons]
  have hup' (s : TypeName) (hm : s ∈ up) : s ≠ t ∧ s ∉ seen := by simpa using hup.fresh s hm
  have hnew (s : TypeName) (hm : s ∈ new) : (s ≠ t ∧ s ∉ seen) ∧ s ∉ up := by
    simpa [hup.covers] using h.fresh s hm
  refine ⟨?_, ?_, fun s => ?_, fun s hm => ?_, fun s hm => ?_, fun s hm => ?_⟩
  · rw [h.extended, hup.extended]
    simp
  · refine List.nodup_append.2 ⟨hup.nodup, List.nodup_cons.2 ⟨fun hm => (hnew t hm).1.1 rfl, h.nodup⟩, ?_⟩
    rintro a ha b hb rfl
    rcases List.mem_cons.1 hb with rfl | hb
    · exact (hup' a ha).1 rfl
    · exact (hnew a hb).2 ha
  · rw [hseen, hmem]
    tauto
  · rcases (hmem s).1 hm with hm | rfl | hm
    · exact (hup' s hm).2
    · exact hs
    · exact (hnew s hm).1.2
  · rcases (hmem s).1 hm with hm | rfl | hm
    · exact hup.inSet s hm
    · rw [hc]
      rfl
    · exact h.inSet s hm
  · rcases List.mem_cons.1 hm with rfl | hm
    · exact (hseen s).2 (.inl (.inl (.inl rfl)))
    · exact h.visited s hm

theorem Visits.adds (h : Visits set types seen order seen' order') : ∃ new, Adds set types seen order seen' order' new := by
  induction h with
  | done => exact ⟨[], by simp, .nil, by simp, by simp, by simp, by simp⟩
  | again hs _ ih =>
    obtain ⟨new, h⟩ := ih
    refine ⟨new, h.extended, h.nodup, h.covers, h.fresh, h.inSet, fun s hm => ?_⟩
    rcases List.mem_cons.1 hm with rfl | hm
    · exact (h.covers s).2 (.inl hs)
    · exact h.visited s hm
  | listed hs hc _ _ ihup ih =>
    obtain ⟨up, hup⟩ := ihup
    obtain ⟨new, h⟩ := ih
    exact ⟨_, hup.listed hs hc h⟩

/-! ## The walk comes to what is visited -/

theorem walk_leave (set : WorkingSet) (t : TypeName) (pending : List Visit) (seen order : List TypeName) :
    walk set (.leave t :: pending) seen order = walk set pending seen (order ++ [t]) := by
  rw [walk]

theorem walk_again (hs : t ∈ seen) (set : WorkingSet) (pending : List Visit) (order : List TypeName) :
    walk set (.enter t :: pending) seen order = walk set pending seen order := by
  rw [walk, dif_pos hs]

theorem walk_enter (hs : t ∉ seen) (hc : set.get? t = some c) (pending : List Visit) (order : List TypeName) :
    walk set (.enter t :: pending) seen order =
      walk set ((set.parents c).map .enter ++ .leave t :: pending) (t :: seen) order := by
  rw [walk, dif_neg hs]
  split
  · next hn => simp [hn] at hc
  · next d hd =>
    cases hd.symm.trans hc
    rfl

theorem unseen_le (set : WorkingSet) (h : seen ⊆ seen') : (set.unseen seen').length ≤ (set.unseen seen).length := by
  refine (List.monotone_filter_right _ fun t ht => ?_).length_le
  simp only [Bool.not_eq_true', List.contains_eq_mem, decide_eq_false_iff_not] at ht ⊢
  exact fun hs => ht (h hs)

/-- Types of the set can be visited, and the walk that has them pending comes to what the visit leaves. -/
theorem exists_visits (bound : Nat) (types seen order : List TypeName) (hleft : (set.unseen seen).length < bound)
    (hin : ∀ t ∈ types, (set.get? t).isSome = true) :
    ∃ seen' order', Visits set types seen order seen' order' ∧
      ∀ pending, walk set (types.map .enter ++ pending) seen order = walk set pending seen' order' := by
  -- Behind a type that was not seen, its supertypes and the rest of the list have less left to be seen.
  induction bound generalizing types seen order with
  | zero => exact absurd hleft (Nat.not_lt_zero _)
  | succ bound ihbound =>
    induction types with
    | nil => exact ⟨seen, order, .done, fun _ => rfl⟩
    | cons t rest ih =>
      have hrest : ∀ s ∈ rest, (set.get? s).isSome = true := fun s hm => hin s (List.mem_cons_of_mem _ hm)
      by_cases hs : t ∈ seen
      · obtain ⟨seen', order', hv, hw⟩ := ih hrest
        exact ⟨seen', order', .again hs hv, fun pending => (walk_again hs set _ order).trans (hw pending)⟩
      · obtain ⟨c, hc⟩ := Option.isSome_iff_exists.1 (hin t List.mem_cons_self)
        have hlt := unseen_lt hc hs
        obtain ⟨above, listed, hup, hwup⟩ := ihbound (set.parents c) (t :: seen) order (by omega)
          fun s hm => (List.mem_filter.1 hm).2
        obtain ⟨new, hadds⟩ := hup.adds
        have hkept : t :: seen ⊆ above := fun s hm => (hadds.covers s).2 (.inl hm)
        have hle := unseen_le set hkept
        obtain ⟨seen', order', hv, hw⟩ := ihbound rest above (listed ++ [t]) (by omega) hrest
        refine ⟨seen', order', .listed hs hc hup hv, fun pending => ?_⟩
        calc walk set (.enter t :: (rest.map .enter ++ pending)) seen order
            = walk set ((set.parents c).map .enter ++ .leave t :: (rest.map .enter ++ pending)) (t :: seen) order :=
              walk_enter hs hc _ order
          _ = walk set (.leave t :: (rest.map .enter ++ pending)) above listed := hwup _
          _ = walk set (rest.map .enter ++ pending) above (listed ++ [t]) := walk_leave ..
          _ = walk set pending seen' order' := hw pending

/-- The order of a set is the list that visiting its types leaves. -/
theorem order_visits (set : WorkingSet) : ∃ seen, Visits set (set.map (·.1)) [] [] seen set.order := by
  obtain ⟨seen, order, hv, hw⟩ := exists_visits _ (set.map (·.1)) [] [] (Nat.lt_succ_self _)
    fun t ht => Table.isSome_get? ht
  have hwalk : set.order = walk set [] seen order := by
    simpa [WorkingSet.order, List.map_map, Function.comp_def] using hw []
  have hend : walk set [] seen order = order := by rw [walk]
  rw [hwalk, hend]
  exact ⟨seen, hv⟩

/-- It has every type of the set once, and no other. -/
theorem order_exact (set : WorkingSet) : set.order.Nodup ∧ ∀ t, t ∈ set.order ↔ (set.get? t).isSome = true := by
  obtain ⟨seen, hv⟩ := order_visits set
  obtain ⟨new, h⟩ := hv.adds
  have hnew : set.order = new := h.extended
  rw [hnew]
  refine ⟨h.nodup, fun t => ⟨h.inSet t, fun ht => ?_⟩⟩
  obtain ⟨c, hc⟩ := Option.isSome_iff_exists.1 ht
  have hseen := (h.covers t).1 (h.visited t (Table.mem_keys_of_get? hc))
  simpa using hseen

theorem mem_order (h : set.get? t = some c) : t ∈ set.order := ((order_exact set).2 t).2 (by rw [h]; rfl)

/-! ## Without circles -/

/-- A type may follow its supertypes. -/
theorem supertypesFirst_concat (hfirst : ∀ before u, before ++ [u] <+: order → ∀ s, Extends set u s → s ∈ before)
    (hparents : ∀ s, Extends set t s → s ∈ order) :
    ∀ before u, before ++ [u] <+: order ++ [t] → ∀ s, Extends set u s → s ∈ before := by
  intro before u hp s hx
  rcases List.prefix_concat_iff.1 hp with hp | hp
  · obtain ⟨rfl, hu⟩ := List.append_inj' hp rfl
    cases hu
    exact hparents s hx
  · exact hfirst before u hp s hx

/-- Without circles, what is visited is listed in the end, and a list with supertypes first stays one. A type that was
seen is listed already, or all that is to be visited is among its ancestors. -/
theorem Visits.supertypesFirst (ha : Acyclic set) (h : Visits set types seen order seen' order')
    (hwait : ∀ s ∈ seen, s ∈ order ∨ ∀ t ∈ types, TransGen (Extends set) s t)
    (hfirst : ∀ before t, before ++ [t] <+: order → ∀ s, Extends set t s → s ∈ before) :
    (∀ t ∈ types, t ∈ order') ∧
      ∀ before t, before ++ [t] <+: order' → ∀ s, Extends set t s → s ∈ before := by
  induction h with
  | done => exact ⟨by simp, hfirst⟩
  | @again t rest seen order seen' order' hs hrest ih =>
    obtain ⟨hall, hend⟩ := ih (fun s hm => (hwait s hm).imp_right fun h u hu => h u (List.mem_cons_of_mem _ hu)) hfirst
    refine ⟨fun u hu => ?_, hend⟩
    rcases List.mem_cons.1 hu with rfl | hu
    · rcases hwait u hs with ho | hup
      · obtain ⟨new, hadds⟩ := hrest.adds
        rw [hadds.extended]
        exact List.mem_append_left _ ho
      · exact absurd (hup u List.mem_cons_self) (ha u)
    · exact hall u hu
  | @listed t c rest seen order above listed seen' order' hs hc hup hrest ihup ih =>
    obtain ⟨up, hadds⟩ := hup.adds
    have hparent (p : TypeName) : p ∈ set.parents c ↔ Extends set t p := by
      simp [parents, Extends, hc]
    have hwaitUp : ∀ s ∈ t :: seen, s ∈ order ∨ ∀ p ∈ set.parents c, TransGen (Extends set) s p := by
      intro s hm
      rcases List.mem_cons.1 hm with rfl | hm
      · exact .inr fun p hp => .single ((hparent p).1 hp)
      · exact (hwait s hm).imp_right fun h p hp => (h t List.mem_cons_self).tail ((hparent p).1 hp)
    -- Everything above the type is listed once its supertypes have been visited, so the type may follow.
    obtain ⟨hparents, hlisted⟩ := ihup hwaitUp hfirst
    have hnext := supertypesFirst_concat hlisted fun s hx => hparents s ((hparent s).2 hx)
    have hwaitRest : ∀ s ∈ above, s ∈ listed ++ [t] ∨ ∀ u ∈ rest, TransGen (Extends set) s u := by
      intro s hm
      rw [hadds.covers, List.mem_cons, or_assoc] at hm
      rw [hadds.extended]
      rcases hm with rfl | hm | hm
      · exact .inl (by simp)
      · rcases hwait s hm with ho | hs
        · exact .inl (by simp [ho])
        · exact .inr fun u hu => hs u (List.mem_cons_of_mem _ hu)
      · exact .inl (by simp [hm])
    obtain ⟨hall, hend⟩ := ih hwaitRest hnext
    refine ⟨fun u hu => ?_, hend⟩
    rcases List.mem_cons.1 hu with rfl | hu
    · obtain ⟨new, hrestAdds⟩ := hrest.adds
      rw [hrestAdds.extended]
      simp
    · exact hall u hu

/-- Without circles the order has every type of the set once, after its supertypes in the set. -/
theorem order_listed (ha : Acyclic set) : Listed set set.order := by
  obtain ⟨seen, hv⟩ := order_visits set
  obtain ⟨hnodup, hmem⟩ := order_exact set
  exact ⟨fun t ht => (hmem t).2 ht, fun t ht => (hmem t).1 ht, hnodup, (hv.supertypesFirst ha (by simp) (by simp)).2⟩

/-- In a list with supertypes first, all ancestors of a type stand before it. -/
theorem Listed.ancestors_before (h : Listed set order) {a b : TypeName} (hab : TransGen (Extends set) a b)
    {before : List TypeName} (ha : before ++ [a] <+: order) : b ∈ before := by
  induction hab with
  | single hx => exact h.supertypesFirst before a ha _ hx
  | tail _ hx ih =>
    obtain ⟨front, back, rfl⟩ := List.append_of_mem ih
    refine List.mem_append_left _ (h.supertypesFirst front _ ?_ _ hx)
    exact List.IsPrefix.trans ⟨back ++ [a], by simp⟩ ha

end WorkingSet

end ClassSkeleton
