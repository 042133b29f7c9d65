import ClassSkeleton.Proofs.SupertypeOrder

/-
  ClassSkeleton.Proofs.NamingPurity — naming is a function of the working set.

  The names of a class are worked out from its own members and from the names of its ancestors. A naming
  is settled for a set when the entry of every class in it is what is worked out from the naming itself.
  Going through the classes with supertypes first settles the naming, whatever it held for them before
  (`foldl_settled`); it leaves other types alone (`foldl_other`). And there is only one settled naming for
  what it holds outside the set (`settled_unique`), so neither earlier names nor the order in which the
  classes are given make a difference.
-/

namespace ClassSkeleton

namespace Table

variable {κ ν : Type} [DecidableEq κ] {t : Table κ ν} {k : κ} {v : ν}

theorem put_of_get? (h : get? t k = some v) : put t k v = t := by
  induction t with
  | nil => cases h
  | cons e rest ih =>
    simp only [get?] at h
    simp only [put]
    split
    · next hk => simp only [hk, if_true, Option.some.injEq] at h; rw [← hk, ← h]
    · next hk => simp only [hk, if_false] at h; rw [ih h]

theorem erase_of_get? (h : get? t k = none) : erase t k = t := by
  induction t with
  | nil => rfl
  | cons e rest ih =>
    simp only [get?] at h
    simp only [erase]
    split
    · next hk => simp [hk] at h
    · next hk => simp only [hk, if_false] at h; rw [ih h]

end Table

/-! ## The set of a list -/

namespace WorkingSet

theorem get?_insert (c : ClassFile) (set : WorkingSet) (t : TypeName) :
    (insert c set).get? t = if c.thisClass = t then some c else set.get? t := by
  induction set with
  | nil => rfl
  | cons e rest ih =>
    obtain ⟨s, d⟩ := e
    simp only [insert]
    split
    · next h => simp only [get?, Table.get?, h]; split <;> rfl
    · next h =>
      split
      · rfl
      · simp only [get?, Table.get?] at ih ⊢
        rw [ih]
        grind

theorem get?_foldl {classes : List ClassFile} (hd : (classes.map (·.thisClass)).Nodup) (set : WorkingSet) {t : TypeName}
    {c : ClassFile} : (classes.foldl (fun set c => insert c set) set).get? t = some c ↔
      (c ∈ classes ∧ c.thisClass = t) ∨ ((∀ d ∈ classes, d.thisClass ≠ t) ∧ set.get? t = some c) := by
  induction classes generalizing set with
  | nil => simp
  | cons e rest ih =>
    obtain ⟨he, hd⟩ := List.nodup_cons.1 hd
    have hne : ∀ d ∈ rest, d.thisClass ≠ e.thisClass := fun d hm h => he (List.mem_map.2 ⟨d, hm, h⟩)
    rw [List.foldl_cons, ih hd, get?_insert]
    by_cases ht : e.thisClass = t
    · subst ht
      grind
    · grind

/-- Of classes with distinct types the set finds each under its type. -/
theorem get?_ofList {classes : List ClassFile} (hd : (classes.map (·.thisClass)).Nodup) {t : TypeName} {c : ClassFile} :
    (ofList classes).get? t = some c ↔ c ∈ classes ∧ c.thisClass = t := by
  rw [ofList, get?_foldl hd]
  simp [get?, Table.get?]

theorem get?_ofList_none {classes : List ClassFile} (hd : (classes.map (·.thisClass)).Nodup) {t : TypeName} :
    (ofList classes).get? t = none ↔ ∀ c ∈ classes, c.thisClass ≠ t := by
  rw [Option.eq_none_iff_forall_ne_some]
  simp only [ne_eq, get?_ofList hd, not_and]

theorem get?_ofList_perm {l₁ l₂ : List ClassFile} (hp : l₁.Perm l₂) (hd : (l₁.map (·.thisClass)).Nodup) :
    (ofList l₁).get? = (ofList l₂).get? := by
  have hd₂ : (l₂.map (·.thisClass)).Nodup := (hp.map _).nodup_iff.1 hd
  funext t
  refine Option.ext fun c => ?_
  rw [get?_ofList hd, get?_ofList hd₂, hp.mem_iff]

end WorkingSet

/-! ## What the names of a class depend on -/

/-- The entry of a class with these new names, if it has any. -/
def Renames.entry (r : Renames) : Option Renames := if r.isEmpty then none else some r

namespace Naming

variable {n n' : Naming} {set set' : WorkingSet} {rules : NamingRules} {c : ClassFile} {t : TypeName}
  {order : List TypeName}

theorem searchAncestors_cons (n : Naming) (set : WorkingSet) (name descriptor : String) (t : TypeName)
    (rest seen : List TypeName) : n.searchAncestors set name descriptor (t :: rest) seen =
      if t ∈ seen then n.searchAncestors set name descriptor rest seen
      else
        match n.methodName t name descriptor with
        | some found => some found
        | none =>
          match set.get? t with
          | none => n.searchAncestors set name descriptor rest seen
          | some c => n.searchAncestors set name descriptor (c.supertypes.reverse ++ rest) (t :: seen) := by
  rw [searchAncestors]
  by_cases hs : t ∈ seen
  · rw [dif_pos hs, if_pos hs]
  · rw [dif_neg hs, if_neg hs]
    rcases n.methodName t name descriptor with _ | found
    · dsimp only
      split <;> simp_all
    · rfl

section Congruence

variable {P : TypeName → Prop} (hset : set.get? = set'.get?) (hn : ∀ t, P t → n.classes.get? t = n'.classes.get? t)
  (hup : ∀ t c, P t → set.get? t = some c → ∀ s ∈ c.supertypes, P s)

include hset hn hup

/-- The search stays among the types that supertypes lead to. -/
theorem searchAncestors_congr (name descriptor : String) (pending seen : List TypeName) (hp : ∀ t ∈ pending, P t) :
    n.searchAncestors set name descriptor pending seen = n'.searchAncestors set' name descriptor pending seen := by
  have hname (t : TypeName) (ht : P t) : n'.methodName t name descriptor = n.methodName t name descriptor := by
    rw [methodName, methodName, hn t ht]
  fun_induction searchAncestors n set name descriptor pending seen with
  | case1 seen => rw [searchAncestors]
  | case2 seen t rest hs ih =>
    rw [searchAncestors_cons, if_pos hs, ih fun s hs => hp s (List.mem_cons_of_mem _ hs)]
  | case3 seen t rest hs found hf =>
    rw [searchAncestors_cons, if_neg hs, hname t (hp t (List.mem_cons_self ..)), hf]
  | case4 seen t rest hs hf hc ih =>
    rw [searchAncestors_cons, if_neg hs, hname t (hp t (List.mem_cons_self ..)), hf, ← hset, hc]
    exact ih fun s hs => hp s (List.mem_cons_of_mem _ hs)
  | case5 seen t rest hs hf c hc ih =>
    rw [searchAncestors_cons, if_neg hs, hname t (hp t (List.mem_cons_self ..)), hf, ← hset, hc]
    refine ih fun s hs => ?_
    rcases List.mem_append.1 hs with hs | hs
    · exact hup t c (hp t (List.mem_cons_self ..)) hc s (List.mem_reverse.1 hs)
    · exact hp s (List.mem_cons_of_mem _ hs)

theorem assign_congr (hc : ∀ s ∈ c.supertypes, P s) : n.assign set rules c = n'.assign set' rules c := by
  have hi (name descriptor : String) :
      n.inheritedName set c name descriptor = n'.inheritedName set' c name descriptor :=
    searchAncestors_congr hset hn hup name descriptor _ _ fun s hs => hc s (List.mem_reverse.1 hs)
  have hm : nameMethod n set rules c = nameMethod n' set' rules c := by
    funext p m
    simp only [nameMethod, hi]
  simp only [assign, methodRenames, hm]

end Congruence

/-! ## Settled namings -/

/-- The entry of each class of the set is what is worked out from the naming as it is. -/
def Settled (set : WorkingSet) (rules : NamingRules) (n : Naming) : Prop :=
  ∀ t c, set.get? t = some c → n.classes.get? t = (n.assign set rules c).entry

theorem nameClass_self (hc : set.get? t = some c) :
    (nameClass set rules n t).classes.get? t = (n.assign set rules c).entry := by
  simp only [nameClass, hc, Renames.entry]
  split <;> simp

theorem nameClass_other {s : TypeName} (hs : s ≠ t) : (nameClass set rules n t).classes.get? s = n.classes.get? s := by
  unfold nameClass
  split
  · rfl
  · dsimp only
    split <;> simp [Ne.symm hs]

theorem foldl_other (order : List TypeName) (n : Naming) (ht : t ∉ order) :
    (order.foldl (nameClass set rules) n).classes.get? t = n.classes.get? t := by
  induction order generalizing n with
  | nil => rfl
  | cons s rest ih =>
    rw [List.foldl_cons, ih _ fun hm => ht (List.mem_cons_of_mem _ hm)]
    exact nameClass_other fun h => ht (h ▸ List.mem_cons_self ..)

/-- Supertypes of what was listed before, and of the type listed next, were listed before or are not in the set. -/
theorem listed_before {before after : List TypeName} (h : set.Listed (before ++ t :: after)) {a : TypeName}
    (ha : a ∈ before ∨ a = t) (hc : set.get? a = some c) {s : TypeName} (hs : s ∈ c.supertypes) :
    s ∈ before ∨ set.get? s = none := by
  rcases hg : set.get? s with _ | d
  · exact .inr rfl
  have hx : set.Extends a s := ⟨c, hc, hs, by simp [hg]⟩
  rcases ha with ha | rfl
  · obtain ⟨front, back, rfl⟩ := List.append_of_mem ha
    exact .inl (List.mem_append_left _ (h.supertypesFirst front a ⟨back ++ t :: after, by simp⟩ s hx))
  · exact .inl (h.supertypesFirst before a ⟨after, by simp⟩ s hx)

/-- The names of a class are worked out from what was listed before it and from types outside the set. -/
theorem assign_before {before after : List TypeName} (h : set.Listed (before ++ t :: after)) (hc : set.get? t = some c)
    (hset : set.get? = set'.get?) (hn : ∀ s, s ∈ before ∨ set.get? s = none → n.classes.get? s = n'.classes.get? s) :
    n.assign set rules c = n'.assign set' rules c := by
  refine assign_congr hset hn (fun a d ha hd s hs => ?_) fun s hs => listed_before h (.inr rfl) hc hs
  rcases ha with ha | ha
  · exact listed_before h (.inl ha) hd hs
  · rw [ha] at hd
    cases hd

/-- Going through the classes with supertypes first settles the naming: what a class is named from is in
place when it is its turn, and does not change afterwards. -/
theorem foldl_settled (h : set.Listed order) (n : Naming) :
    Settled set rules (order.foldl (nameClass set rules) n) := by
  intro t c hc
  obtain ⟨before, after, rfl⟩ := List.append_of_mem (h.complete t (by simp [hc]))
  obtain ⟨hnb, hna, hdisj⟩ := List.nodup_append.1 h.nodup
  have hta : t ∉ after := (List.nodup_cons.1 hna).1
  rw [List.foldl_append, List.foldl_cons, foldl_other after _ hta, nameClass_self hc]
  congr 1
  refine assign_before h hc rfl fun s hs => ?_
  have hst : s ≠ t ∧ s ∉ after := by
    rcases hs with hs | hs
    · exact ⟨fun he => hdisj s hs t (List.mem_cons_self ..) he,
        fun hm => hdisj s hs s (List.mem_cons_of_mem _ hm) rfl⟩
    · have hno : s ∉ before ++ t :: after := fun hm => by simpa [hs] using h.sound s hm
      simp only [List.mem_append, List.mem_cons, not_or] at hno
      exact hno.2
  rw [foldl_other after _ hst.2, nameClass_other hst.1]

/-- Settled namings that agree outside the set agree on it, one class after another. -/
theorem settled_unique (h : set.Listed order) (hset : set.get? = set'.get?) (hs : Settled set rules n)
    (hs' : Settled set' rules n') (hout : ∀ t, set.get? t = none → n.classes.get? t = n'.classes.get? t)
    (before after : List TypeName) (ho : order = before ++ after)
    (hb : ∀ t ∈ before, n.classes.get? t = n'.classes.get? t) : ∀ t ∈ order, n.classes.get? t = n'.classes.get? t := by
  induction after generalizing before with
  | nil => simpa [ho] using hb
  | cons t after ih =>
    subst ho
    refine ih (before ++ [t]) (by simp) fun s hm => ?_
    rcases List.mem_append.1 hm with hm | hm
    · exact hb s hm
    · rw [List.mem_singleton.1 hm]
      obtain ⟨c, hc⟩ := Option.isSome_iff_exists.1 (h.sound t (by simp))
      rw [hs t c hc, hs' t c (hset ▸ hc)]
      congr 1
      exact assign_before h hc hset fun s hs => hs.elim (hb s) (hout s)

/-- Naming a class again changes nothing once the naming is settled. -/
theorem nameClass_settled (hs : Settled set rules n) (t : TypeName) : nameClass set rules n t = n := by
  unfold nameClass
  split
  · rfl
  · next c hc =>
    have he := hs t c hc
    unfold Renames.entry at he
    dsimp only
    split
    · next hr => rw [if_pos hr] at he; rw [Table.erase_of_get? he]
    · next hr => rw [if_neg hr] at he; rw [Table.put_of_get? he]

theorem foldl_of_settled (hs : Settled set rules n) (order : List TypeName) :
    order.foldl (nameClass set rules) n = n := by
  induction order with
  | nil => rfl
  | cons t rest ih => rw [List.foldl_cons, nameClass_settled hs, ih]

theorem Settled.congr (hset : set.get? = set'.get?) (hs : Settled set rules n) : Settled set' rules n := by
  intro t c hc
  have ha : n.assign set rules c = n.assign set' rules c :=
    assign_congr (P := fun _ => True) hset (fun _ _ => rfl) (fun _ _ _ _ _ _ => trivial) fun _ _ => trivial
  rw [hs t c (hset ▸ hc), ha]

/-! ## Naming a list of classes -/

/-- A class of the list names another one, `b`, as its supertype. -/
def Supertype (classes : List ClassFile) (a b : TypeName) : Prop :=
  ∃ c ∈ classes, ∃ d ∈ classes, c.thisClass = a ∧ d.thisClass = b ∧ b ∈ c.supertypes

/-- No class of the list is among its own ancestors in the list. -/
def Acyclic (classes : List ClassFile) : Prop := ∀ t, ¬ Relation.TransGen (Supertype classes) t t

/-- Supertypes of lower rank rule out circles. -/
theorem acyclic_of_rank {classes : List ClassFile} (rank : TypeName → Nat)
    (h : ∀ a b, Supertype classes a b → rank b < rank a) : Acyclic classes := by
  intro t ht
  have hlt : ∀ a b, Relation.TransGen (Supertype classes) a b → rank b < rank a := by
    intro a b hab
    induction hab with
    | single hab => exact h _ _ hab
    | tail _ hbc ih => exact Nat.lt_trans (h _ _ hbc) ih
  exact Nat.lt_irrefl _ (hlt t t ht)

theorem extends_ofList {classes : List ClassFile} (hd : (classes.map (·.thisClass)).Nodup) :
    (WorkingSet.ofList classes).Extends = Supertype classes := by
  funext a b
  simp only [WorkingSet.Extends, Supertype, Option.isSome_iff_exists, WorkingSet.get?_ofList hd, eq_iff_iff]
  grind

theorem acyclic_ofList {classes : List ClassFile} (hd : (classes.map (·.thisClass)).Nodup) (ha : Acyclic classes) :
    (WorkingSet.ofList classes).Acyclic := by
  intro t
  rw [extends_ofList hd]
  exact ha t

theorem resolve_settled {classes : List ClassFile} (hd : (classes.map (·.thisClass)).Nodup) (ha : Acyclic classes)
    (rules : NamingRules) (n : Naming) : Settled (.ofList classes) rules (n.resolve classes rules) :=
  foldl_settled (WorkingSet.order_listed (acyclic_ofList hd ha)) n

theorem resolve_other {classes : List ClassFile} (hd : (classes.map (·.thisClass)).Nodup) (ha : Acyclic classes)
    (rules : NamingRules) (n : Naming) (ht : ∀ c ∈ classes, c.thisClass ≠ t) :
    (n.resolve classes rules).classes.get? t = n.classes.get? t := by
  have hl := WorkingSet.order_listed (acyclic_ofList hd ha)
  refine foldl_other _ n fun hm => ?_
  have hs := hl.sound t hm
  rw [(WorkingSet.get?_ofList_none hd).2 ht] at hs
  cases hs

/-- The new names of a set of classes are a function of the set and of the names outside it: neither what
was known of its classes before nor the order they are listed in matters. Other types keep their entries,
and naming the set once more changes nothing. -/
theorem resolve_pure (rules : NamingRules) {l₁ l₂ : List ClassFile} (hp : l₁.Perm l₂)
    (hd : (l₁.map (·.thisClass)).Nodup) (ha : Acyclic l₁) {n₁ n₂ : Naming}
    (hout : ∀ t, (∀ c ∈ l₁, c.thisClass ≠ t) → n₁.classes.get? t = n₂.classes.get? t) :
    (∀ c ∈ l₁, (n₁.resolve l₁ rules).classes.get? c.thisClass = (n₂.resolve l₂ rules).classes.get? c.thisClass) ∧
    (∀ t, (∀ c ∈ l₁, c.thisClass ≠ t) → (n₁.resolve l₁ rules).classes.get? t = n₁.classes.get? t ∧
      (n₂.resolve l₂ rules).classes.get? t = n₂.classes.get? t) ∧
    (n₁.resolve l₁ rules).resolve l₂ rules = n₁.resolve l₁ rules := by
  have hset := WorkingSet.get?_ofList_perm hp hd
  have hd₂ : (l₂.map (·.thisClass)).Nodup := (hp.map _).nodup_iff.1 hd
  have hsup : Supertype l₁ = Supertype l₂ := by
    funext a b
    simp only [Supertype, hp.mem_iff]
  have ha₂ : Acyclic l₂ := by
    intro t
    rw [← hsup]
    exact ha t
  have hs₁ := resolve_settled hd ha rules n₁
  have hs₂ := resolve_settled hd₂ ha₂ rules n₂
  have hkeep : ∀ t, (∀ c ∈ l₁, c.thisClass ≠ t) → (n₁.resolve l₁ rules).classes.get? t = n₁.classes.get? t ∧
      (n₂.resolve l₂ rules).classes.get? t = n₂.classes.get? t := fun t ht =>
    ⟨resolve_other hd ha rules n₁ ht, resolve_other hd₂ ha₂ rules n₂ fun c hc => ht c (hp.mem_iff.2 hc)⟩
  refine ⟨fun c hc => ?_, hkeep, foldl_of_settled (hs₁.congr hset) _⟩
  have hl := WorkingSet.order_listed (acyclic_ofList hd ha)
  refine settled_unique hl hset hs₁ hs₂ (fun t ht => ?_) [] _ rfl (by simp) c.thisClass (hl.complete _ ?_)
  · have ht := (WorkingSet.get?_ofList_none hd).1 ht
    rw [(hkeep t ht).1, (hkeep t ht).2, hout t ht]
  · rw [(WorkingSet.get?_ofList hd).2 ⟨hc, rfl⟩]
    rfl

/-- A class with two methods of one name and the same parameters. -/
def pairClass : ClassFile :=
  ⟨0, 52, 0x21, ⟨"Base"⟩, none, [], [], [⟨1, "m", "()V", none⟩, ⟨1, "m", "()I", none⟩], [], none⟩

/-- A class that overrides the second of them. -/
def overridingClass : ClassFile := ⟨0, 52, 0x21, ⟨"Sub"⟩, some ⟨"Base"⟩, [], [], [⟨1, "m", "()I", none⟩], [], none⟩

/-- A name that is left over from before, and the override listed first, make no difference. -/
theorem resolve_pure_of_stale_name :
    (resolve ⟨[(⟨"Sub"⟩, ⟨[], [("m()I", "stale")]⟩)]⟩ [overridingClass, pairClass] ⟨true, false⟩).classes.get? ⟨"Sub"⟩ =
      (resolve empty [pairClass, overridingClass] ⟨true, false⟩).classes.get? ⟨"Sub"⟩ := by
  have ha : Acyclic [overridingClass, pairClass] := by
    refine acyclic_of_rank (fun t => if t = ⟨"Sub"⟩ then 1 else 0) fun a b hab => ?_
    obtain ⟨c, hc, d, hd, rfl, rfl, hm⟩ := hab
    simp only [List.mem_cons, List.not_mem_nil, or_false] at hc hd
    rcases hc with rfl | rfl <;> rcases hd with rfl | rfl <;> revert hm <;> decide
  refine (resolve_pure ⟨true, false⟩ (List.Perm.swap ..) (by decide) ha fun t ht => ?_).1 overridingClass (by simp)
  have hs : (⟨"Sub"⟩ : TypeName) ≠ t := ht overridingClass (by simp)
  simp [Table.get?, empty, hs]

end Naming

end ClassSkeleton
