import ClassSkeleton.Proofs.OverrideNames

/-
  ClassSkeleton.Proofs.RenamedMethods — which methods are renamed, and to what.

  A list of classes is named from any names known before, with any rules. Of a class whose methods are told
  apart by their keys, every method has its turn with a key of its own, so what it is given then is what it
  has in the end (`get?_turn`), and the names taken by then are those the methods have from the start and
  those the earlier ones were given (`Turned`).

  `MethodNames` says what follows for the methods of the class. One with a new name above, in a class of the
  list or in a type outside it that is known from before, takes such a name. Of the others, one that repeats
  the name and the parameters of an earlier one gets the least number that makes its name free, if repeated
  members are to be renamed at all. All others are left alone, and so are constructors and initialisers.
  Naming a list without circles makes it so (`methods_named`).
-/

namespace ClassSkeleton

namespace Naming

/-! ## One turn after another -/

section Turn

variable (n : Naming) (set : WorkingSet) (rules : NamingRules) (c : ClassFile)

/-- What is known when a front of the methods, told apart by their keys, had its turn. -/
structure Turned (front : List Member) (p : MethodPass) : Prop where
  seen : ∀ s, s ∈ p.seen ↔ ∃ e ∈ front, n.Own set c e ∧ signature e = s
  taken : ∀ s, s ∈ p.taken ↔ (∃ d ∈ c.methods, d.name = s) ∨ ∃ e ∈ front, p.renames.get? (keyOf e) = some s
  untouched : ∀ k, (∀ e ∈ front, isSpecial e.name = false → keyOf e ≠ k) → p.renames.get? k = none

variable {n set rules c} {front : List Member} {p : MethodPass} {m : Member}

theorem Turned.start : n.Turned set c [] ⟨c.methods.map (·.name), [], []⟩ :=
  ⟨by simp, by simp, by simp [Table.get?]⟩

theorem Turned.not_filed (h : n.Turned set c front p) (hk : ∀ e ∈ front, keyOf e ≠ keyOf m) :
    p.renames.get? (keyOf m) = none :=
  h.untouched _ fun e he _ => hk e he

/-- A method that does not count as seen, or only repeats what is, leaves the seen signatures as they are. -/
theorem Turned.seen_snoc (h : n.Turned set c front p) (hm : n.Own set c m → signature m ∈ p.seen) (s : String × String) :
    s ∈ p.seen ↔ ∃ e ∈ front ++ [m], n.Own set c e ∧ signature e = s := by
  rw [h.seen]
  constructor
  · rintro ⟨e, he, hs⟩
    exact ⟨e, List.mem_append_left _ he, hs⟩
  · rintro ⟨e, he, ho, hs⟩
    rcases List.mem_append.1 he with he | he
    · exact ⟨e, he, ho, hs⟩
    · rw [List.mem_singleton.1 he] at ho hs
      rw [← hs, ← h.seen]
      exact hm ho

/-- Nothing is filed for the method. -/
theorem Turned.unfiled (h : n.Turned set c front p) (hk : ∀ e ∈ front, keyOf e ≠ keyOf m) {seen : List (String × String)}
    (hseen : ∀ s, s ∈ seen ↔ ∃ e ∈ front ++ [m], n.Own set c e ∧ signature e = s) :
    n.Turned set c (front ++ [m]) ⟨p.taken, seen, p.renames⟩ := by
  refine ⟨hseen, fun s => ?_, fun k hne => h.untouched k fun e he => hne e (List.mem_append_left _ he)⟩
  rw [h.taken]
  simp [or_and_right, exists_or, h.not_filed hk]

/-- A name is filed for the method. -/
theorem Turned.filed (h : n.Turned set c front p) (hk : ∀ e ∈ front, keyOf e ≠ keyOf m) (hs : isSpecial m.name = false)
    (hm : n.Own set c m → signature m ∈ p.seen) (r : String) :
    n.Turned set c (front ++ [m]) ⟨r :: p.taken, p.seen, p.renames.put (keyOf m) r⟩ := by
  refine ⟨h.seen_snoc hm, fun s => ?_, fun k hne => ?_⟩
  · have hfront : (∃ e ∈ front, (p.renames.put (keyOf m) r).get? (keyOf e) = some s) ↔
        ∃ e ∈ front, p.renames.get? (keyOf e) = some s := by
      refine exists_congr fun e => and_congr_right fun he => ?_
      rw [Table.get?_put, if_neg (hk e he).symm]
    simp only [List.mem_cons, h.taken, List.mem_append, List.not_mem_nil, or_false, or_and_right, exists_or,
      exists_eq_left, hfront]
    rw [Table.get?_put, if_pos rfl, Option.some.injEq, eq_comm (a := s), or_comm, or_assoc]
  · rw [Table.get?_put, if_neg (hne m (by simp) hs)]
    exact h.untouched k fun e he => hne e (List.mem_append_left _ he)

theorem Turned.step (h : n.Turned set c front p) (hk : ∀ e ∈ front, keyOf e ≠ keyOf m) :
    n.Turned set c (front ++ [m]) (nameMethod n set rules c p m) := by
  rcases nameMethod_ways n set rules c p m with
    ⟨hs, he⟩ | ⟨r, hs, hi, he⟩ | ⟨ho, hm, -, he⟩ | ⟨ho, hm, -, he⟩ | ⟨ho, hm, he⟩
  · rw [he]
    exact h.unfiled hk (h.seen_snoc fun ho => by rw [ho.1] at hs; cases hs)
  · rw [he]
    exact h.filed hk hs (fun ho => by rw [ho.2] at hi; cases hi) r
  · rw [he]
    exact h.filed hk ho.1 (fun _ => hm) _
  · rw [he]
    exact h.unfiled hk (h.seen_snoc fun _ => hm)
  · rw [he]
    refine h.unfiled hk fun s => ?_
    simp only [List.mem_cons, h.seen, List.mem_append, List.not_mem_nil, or_false, or_and_right, exists_or,
      exists_eq_left, ho, true_and]
    rw [or_comm, eq_comm (a := s)]

theorem turned (hk : (front.map keyOf).Nodup) : n.Turned set c front (n.passOver set rules c front) := by
  induction front using List.reverseRecOn with
  | nil => exact .start
  | append_singleton front m ih =>
    obtain ⟨hfront, hbefore, -⟩ := keys_apart hk rfl
    rw [passOver_snoc]
    exact (ih hfront).step hbefore

/-! ## The names of one class -/

variable {back : List Member} (hk : (c.methods.map keyOf).Nodup) (hm : c.methods = front ++ m :: back)

include hk hm

/-- What a method is given at its turn is what it has in the end. -/
theorem get?_turn : (n.methodRenames set rules c).get? (keyOf m) =
    (nameMethod n set rules c (n.passOver set rules c front) m).renames.get? (keyOf m) := by
  rw [← passOver_snoc, ← get?_passOver_append (front ++ [m]) back (keys_apart hk hm).2.2]
  rw [List.append_assoc, List.singleton_append, ← hm]
  rfl

/-- So is what the earlier ones were given. -/
theorem get?_earlier {e : Member} (he : e ∈ front) : (n.methodRenames set rules c).get? (keyOf e) =
    (n.passOver set rules c front).renames.get? (keyOf e) := by
  have hback : ∀ d ∈ m :: back, keyOf d ≠ keyOf e := by
    rw [hm, List.map_append] at hk
    exact fun d hd hde => (List.nodup_append.1 hk).2.2 _ (List.mem_map_of_mem he) _ (List.mem_map_of_mem hd) hde.symm
  rw [← get?_passOver_append front (m :: back) hback, ← hm]
  rfl

theorem get?_inherited (hs : isSpecial m.name = false) {r : String}
    (hi : n.inheritedName set c m.name m.descriptor = some r) :
    (n.methodRenames set rules c).get? (keyOf m) = some r := by
  rw [get?_turn hk hm]
  rcases nameMethod_ways n set rules c (n.passOver set rules c front) m with
    ⟨hs', -⟩ | ⟨r', -, hi', he⟩ | ⟨ho, -⟩ | ⟨ho, -⟩ | ⟨ho, -⟩
  · rw [hs] at hs'
    cases hs'
  · rw [hi] at hi'
    cases hi'
    rw [he, Table.get?_put, if_pos rfl]
  all_goals
    rw [ho.2] at hi
    cases hi

/-- The name is nobody's from the start, and no earlier method was given it. -/
theorem taken_iff (s : String) : s ∉ (n.passOver set rules c front).taken ↔
    (∀ d ∈ c.methods, d.name ≠ s) ∧ ∀ e ∈ front, (n.methodRenames set rules c).get? (keyOf e) ≠ some s := by
  rw [(turned (keys_apart hk hm).1).taken, not_or]
  simp only [not_exists, not_and]
  refine and_congr_right fun _ => forall_congr' fun e => imp_congr_right fun he => ?_
  rw [get?_earlier hk hm he]

theorem get?_repeated (ho : n.Own set c m) (hr : rules.duplicateMembers = true)
    (he : ∃ e ∈ front, n.Own set c e ∧ signature e = signature m) :
    ∃ k, (n.methodRenames set rules c).get? (keyOf m) = some (numbered m.name k) ∧
      IsLeast {k | 1 ≤ k ∧ (∀ d ∈ c.methods, d.name ≠ numbered m.name k) ∧
        ∀ e ∈ front, (n.methodRenames set rules c).get? (keyOf e) ≠ some (numbered m.name k)} k := by
  have ht : n.Turned set c front (n.passOver set rules c front) := turned (keys_apart hk hm).1
  have hseen := (ht.seen (signature m)).2 he
  obtain ⟨k, hfresh, hleast⟩ := freshName_least m.name (n.passOver set rules c front).taken
  simp only [taken_iff hk hm] at hleast
  refine ⟨k, ?_, hleast⟩
  rw [get?_turn hk hm]
  rcases nameMethod_ways n set rules c (n.passOver set rules c front) m with
    ⟨hs, -⟩ | ⟨r, -, hi, -⟩ | ⟨-, -, -, hw⟩ | ⟨-, -, hn, -⟩ | ⟨-, hn, -⟩
  · rw [ho.1] at hs
    cases hs
  · rw [ho.2] at hi
    cases hi
  · rw [hw, Table.get?_put, if_pos rfl, hfresh]
  · rw [hr] at hn
    cases hn
  · exact absurd hseen hn

theorem get?_left_alone (hs : isSpecial m.name = true ∨ (n.Own set c m ∧ ¬ (rules.duplicateMembers = true ∧
    ∃ e ∈ front, n.Own set c e ∧ signature e = signature m))) :
    (n.methodRenames set rules c).get? (keyOf m) = none := by
  have ht : n.Turned set c front (n.passOver set rules c front) := turned (keys_apart hk hm).1
  have hnone := ht.not_filed (keys_apart hk hm).2.1
  rw [get?_turn hk hm]
  rcases nameMethod_ways n set rules c (n.passOver set rules c front) m with
    ⟨-, hw⟩ | ⟨r, hs', hi, -⟩ | ⟨ho, hseen, hr, -⟩ | ⟨-, -, -, hw⟩ | ⟨-, -, hw⟩
  · rw [hw]
    exact hnone
  · rcases hs with hs | ⟨ho, -⟩
    · rw [hs] at hs'
      cases hs'
    · rw [ho.2] at hi
      cases hi
  · rcases hs with hs | ⟨-, hn⟩
    · rw [ho.1] at hs
      cases hs
    · exact absurd ⟨hr, (ht.seen _).1 hseen⟩ hn
  · rw [hw]
    exact hnone
  · rw [hw]
    exact hnone

end Turn

/-! ## A class of a list -/

section Resolve

variable (n : Naming) (classes : List ClassFile) (rules : NamingRules) (c : ClassFile)

/-- Some type above the class has the new name `r` for the method. -/
def NamedAbove (m : Member) (r : String) : Prop :=
  ∃ t, (WorkingSet.ofList classes).Ancestor c t ∧ n.methodName t m.name m.descriptor = some r

/-- An earlier method that takes no name from above has the name and the parameters of the method. -/
def RepeatsEarlier (front : List Member) (m : Member) : Prop :=
  ∃ e ∈ front, isSpecial e.name = false ∧ (¬ ∃ r, n.NamedAbove classes c e r) ∧ e.name = m.name ∧
    Descriptor.parameterPart e.descriptor = Descriptor.parameterPart m.descriptor

/-- No method of the class has the name, and no earlier one was given it. -/
def IsFree (front : List Member) (s : String) : Prop :=
  (∀ d ∈ c.methods, d.name ≠ s) ∧ ∀ e ∈ front, n.methodName c.thisClass e.name e.descriptor ≠ some s

/-- The new names of the methods of a class: who gets one, and which. -/
structure MethodNames : Prop where
  /-- Constructors and initialisers are left alone. -/
  special : ∀ m ∈ c.methods, isSpecial m.name = true → n.methodName c.thisClass m.name m.descriptor = none
  /-- A name from above, and the one they agree on above. -/
  inherited : ∀ m ∈ c.methods, isSpecial m.name = false → (∃ r, n.NamedAbove classes c m r) →
    ∃ r, n.NamedAbove classes c m r ∧ n.methodName c.thisClass m.name m.descriptor = some r
  agreed : ∀ m ∈ c.methods, isSpecial m.name = false → ∀ r, n.NamedAbove classes c m r →
    (∀ s, n.NamedAbove classes c m s → s = r) → n.methodName c.thisClass m.name m.descriptor = some r
  /-- A number behind the name, the least that makes it free. -/
  repeated : ∀ front m back, c.methods = front ++ m :: back → isSpecial m.name = false →
    (¬ ∃ r, n.NamedAbove classes c m r) → rules.duplicateMembers = true → n.RepeatsEarlier classes c front m →
    ∃ k, n.methodName c.thisClass m.name m.descriptor = some (numbered m.name k) ∧
      IsLeast {k | 1 ≤ k ∧ n.IsFree c front (numbered m.name k)} k
  kept : ∀ front m back, c.methods = front ++ m :: back → isSpecial m.name = false →
    (¬ ∃ r, n.NamedAbove classes c m r) → ¬ (rules.duplicateMembers = true ∧ n.RepeatsEarlier classes c front m) →
    n.methodName c.thisClass m.name m.descriptor = none

variable {n classes rules c}

theorem inheritedName_eq_none_iff {m : Member} :
    n.inheritedName (.ofList classes) c m.name m.descriptor = none ↔ ¬ ∃ r, n.NamedAbove classes c m r := by
  rw [inheritedName_eq_none]
  simp only [NamedAbove, not_exists, not_and, Option.eq_none_iff_forall_ne_some, ne_eq]
  exact ⟨fun h r t ht => h t ht r, fun h t ht r => h r t ht⟩

theorem own_iff {m : Member} : n.Own (.ofList classes) c m ↔
    isSpecial m.name = false ∧ ¬ ∃ r, n.NamedAbove classes c m r := by
  rw [Own, inheritedName_eq_none_iff]

theorem repeatsEarlier_iff {front : List Member} {m : Member} : n.RepeatsEarlier classes c front m ↔
    ∃ e ∈ front, n.Own (.ofList classes) c e ∧ signature e = signature m := by
  simp only [RepeatsEarlier, own_iff, signature, Prod.mk.injEq, and_assoc]

/-- In a settled naming, where the names of a class are worked out from those above it. -/
theorem Settled.methodNames (hs : Settled (.ofList classes) rules n) (hd : (classes.map (·.thisClass)).Nodup)
    (hc : c ∈ classes) (hk : (c.methods.map keyOf).Nodup) : MethodNames n classes rules c := by
  have hname (m : Member) : n.methodName c.thisClass m.name m.descriptor =
      (n.methodRenames (.ofList classes) rules c).get? (keyOf m) :=
    hs.methodName ((WorkingSet.get?_ofList hd).2 ⟨hc, rfl⟩) m.name m.descriptor
  have hinherits {m : Member} (hm : m ∈ c.methods) (hsp : isSpecial m.name = false)
      (hr : ∃ r, n.NamedAbove classes c m r) :
      ∃ r, n.NamedAbove classes c m r ∧ n.methodName c.thisClass m.name m.descriptor = some r := by
    obtain ⟨front, back, hsplit⟩ := List.append_of_mem hm
    obtain ⟨r, hi⟩ := Option.ne_none_iff_exists'.1 (mt inheritedName_eq_none_iff.1 (not_not.2 hr))
    exact ⟨r, inheritedName_some hi, by rw [hname, get?_inherited hk hsplit hsp hi]⟩
  refine ⟨fun m hm hsp => ?_, fun m hm hsp hr => hinherits hm hsp hr, fun m hm hsp r hr hall => ?_,
    fun front m back hsplit hsp hn hr he => ?_, fun front m back hsplit hsp hn he => ?_⟩
  · obtain ⟨front, back, hsplit⟩ := List.append_of_mem hm
    rw [hname, get?_left_alone hk hsplit (.inl hsp)]
  · obtain ⟨s, habove, hgiven⟩ := hinherits hm hsp ⟨r, hr⟩
    rw [hgiven, hall s habove]
  · simp only [IsFree, hname]
    exact get?_repeated hk hsplit (own_iff.2 ⟨hsp, hn⟩) hr (repeatsEarlier_iff.1 he)
  · rw [repeatsEarlier_iff] at he
    rw [hname, get?_left_alone hk hsplit (.inr ⟨own_iff.2 ⟨hsp, hn⟩, he⟩)]

/-- Naming a list of classes without circles, from any names and with any rules, makes the names of the methods
such in each class whose methods are told apart by their keys. -/
theorem methods_named (hd : (classes.map (·.thisClass)).Nodup) (ha : Acyclic classes) (n : Naming)
    (rules : NamingRules) (hc : c ∈ classes) (hk : (c.methods.map keyOf).Nodup) :
    MethodNames (n.resolve classes rules) classes rules c :=
  (resolve_settled hd ha rules n).methodNames hd hc hk

end Resolve

/-- A subclass with a renamed method above it in the list, one above it outside the list, and one of its own that
repeats a signature while the first number for it is gone. -/
def mixedSub : ClassFile :=
  sketch "Sub" ["Base", "Lib"]
    [("<init>", "()V"), ("m", "()J"), ("k", "()V"), ("f", "()I"), ("f_1", "()V"), ("f", "()J")]

def mixedClasses : List ClassFile := [mixedSub, sketch "Base" [] [("m", "()I"), ("m", "()J")]]

/-- What is known of a type outside the list. -/
def libraryNames : Naming := ⟨[(⟨"Lib"⟩, ⟨[], [("k()V", "keep")]⟩)]⟩

/-- Names from the list, from outside it and a fresh one, side by side. -/
theorem methods_named_of_mixed :
    (libraryNames.resolve mixedClasses ⟨true, false⟩).classes.get? ⟨"Sub"⟩ =
        some ⟨[], [("m()J", "m_1"), ("k()V", "keep"), ("f()J", "f_2")]⟩ ∧
      MethodNames (libraryNames.resolve mixedClasses ⟨true, false⟩) mixedClasses ⟨true, false⟩ mixedSub := by
  refine ⟨?_, ?_⟩
  · simp only [mixedClasses, mixedSub, sketch, List.head?_nil, List.head?_cons, List.tail_nil, List.tail_cons,
      List.map_nil, List.map_cons]
    cbv
  · exact methods_named (by decide) (acyclic_of_check subLast (by decide)) libraryNames ⟨true, false⟩ (by decide)
      (by decide)

end Naming

end ClassSkeleton
