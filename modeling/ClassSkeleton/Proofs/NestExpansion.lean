import ClassSkeleton.Proofs.RunInvariants

/-
  ClassSkeleton.Proofs.NestExpansion — nests are expanded once and for all.

  A unit is expanded when its nested units are noted. In every session the units nested in an expanded unit are
  expanded as well (`Cache.Expanded`): the walk that expands a unit goes on until none of those found on the way is
  left, other operations add units that are not expanded, and releasing leaves nests alone.

  So what is done after a nest was expanded does not change it. `Cache.Stays` says what lasts: a unit keeps its class
  file, whether it is nested and whether it is released, and once it is expanded it keeps its nested units; where no
  nests are asked for, it keeps them in any case. Loading, expanding and marking let a cache stay; only releasing does
  not.
-/

namespace ClassSkeleton

namespace Cache

variable {files : FileTree} {c d e : Cache}

/-! ## Caches that grow -/

/-- What is there stays as it is, and what is new is not expanded. -/
structure Grows (c d : Cache) : Prop where
  kept : ∀ id u, c.unit? id = some u → d.unit? id = some u
  fresh : ∀ id u, d.unit? id = some u → c.unit? id = some u ∨ u.innerLoaded = false
  index : ∀ t id, c.get? t = some id → d.get? t = some id

namespace Grows

theorem refl (c : Cache) : c.Grows c := ⟨fun _ _ h => h, fun _ _ h => .inl h, fun _ _ h => h⟩

theorem trans (h : c.Grows d) (h' : d.Grows e) : c.Grows e := by
  refine ⟨fun id u hu => h'.kept id u (h.kept id u hu), fun id u hu => ?_, fun t id ht => h'.index t id (h.index t id ht)⟩
  rcases h'.fresh id u hu with hu | hu
  · exact h.fresh id u hu
  · exact .inr hu

theorem insert {classFile : ClassFile} (hn : c.get? classFile.thisClass = none) (origin : Origin) :
    c.Grows (c.insert (.ofClassFile classFile origin)) := by
  refine ⟨fun id u hu => unit?_insert_old hu _, fun id u hu => ?_, fun t id ht => ?_⟩
  · rw [unit?_insert] at hu
    split at hu
    · cases hu
      exact .inr rfl
    · exact .inl hu
  · rw [get?_insert, if_neg, ht]
    rintro rfl
    exact absurd (hn.symm.trans ht) (by simp)

theorem addRoot (c : Cache) (r : ClassRoot) : c.Grows (c.addRoot r) :=
  ⟨fun _ _ h => h, fun _ _ h => .inl h, fun _ _ h => h⟩

theorem failed (c : Cache) (e : LoadError) : c.Grows (c.failed e) :=
  ⟨fun _ _ h => h, fun _ _ h => .inl h, fun _ _ h => h⟩

theorem noteRoot (path : Path) (package : Option String) (c : Cache) : c.Grows (noteRoot path package c) := by
  unfold Cache.noteRoot
  split
  · split
    · exact .refl c
    · exact .addRoot c _
  · exact .refl c

theorem addClasspath (files : FileTree) (path : Path) (c : Cache) : c.Grows (c.addClasspath files path).2 := by
  unfold Cache.addClasspath
  split
  · exact .refl c
  · split
    · split
      · exact .addRoot c _
      · exact .refl c
    · exact .addRoot c _

theorem resolveByPath (files : FileTree) (path : Path) (c : Cache) : c.Grows (resolveByPath files path c).2 := by
  unfold Cache.resolveByPath
  split
  · exact .refl c
  · split
    · exact .refl c
    · next classFile _ =>
      have hr := Grows.noteRoot path classFile.thisClass.package c
      dsimp only
      split
      · exact hr
      · next hn => exact hr.trans (.insert hn _)

theorem resolveByIdentity (files : FileTree) (t : TypeName) (c : Cache) : c.Grows (resolveByIdentity files t c).2 := by
  unfold Cache.resolveByIdentity
  split
  · exact .refl c
  · next hn =>
    split
    · next hf =>
      obtain ⟨rfl, -⟩ := mem_providedTypes_of_find hf fun r hr => hr
      exact .insert hn _
    · exact .refl c
    · exact .refl c

theorem resolveAll (files : FileTree) (self : UnitId) (ts : List TypeName) (c : Cache) :
    c.Grows (resolveAll files self ts c).2 := by
  induction ts generalizing c with
  | nil => exact .refl c
  | cons t ts ih =>
    have ht := Grows.resolveByIdentity files t c
    rcases hr : Cache.resolveByIdentity files t c with ⟨r, d⟩
    rw [hr] at ht
    cases r with
    | ok id =>
      simp only [Cache.resolveAll, hr]
      exact ht.trans (ih d)
    | error e =>
      simp only [Cache.resolveAll, hr]
      exact (ht.trans (.failed d e)).trans (ih _)

theorem addEntry (path : Path) (c : Cache) (entry : String × List UInt8) : c.Grows (addEntry path c entry) := by
  unfold Cache.addEntry
  split
  · split
    · exact .refl c
    · next hn => exact .insert (by simpa using hn) _
  · exact .refl c

theorem addEntries (path : Path) (entries : List (String × List UInt8)) (c : Cache) :
    c.Grows (entries.foldl (Cache.addEntry path) c) := by
  induction entries generalizing c with
  | nil => exact .refl c
  | cons e entries ih => exact (addEntry path c e).trans (ih _)

theorem loadArchive (files : FileTree) (path : Path) (c : Cache) : c.Grows (loadArchive files path c).2 := by
  unfold Cache.loadArchive
  split
  · exact .refl c
  · split
    · exact .refl c
    · next entries _ =>
      have he := addEntries path entries c
      dsimp only
      split
      · exact he
      · exact he.trans (.addRoot _ _)

end Grows

/-! ## Nests that are expanded -/

/-- Units nested in an expanded unit are expanded. -/
def Expanded (c : Cache) : Prop :=
  ∀ id u, c.unit? id = some u → u.innerLoaded = true → ∀ j ∈ u.innerUnits, ∃ v, c.unit? j = some v ∧ v.innerLoaded = true

/-- Units nested in an expanded unit are expanded or still pending. -/
def ExpandedBut (pending : List UnitId) (c : Cache) : Prop :=
  ∀ id u, c.unit? id = some u → u.innerLoaded = true → ∀ j ∈ u.innerUnits,
    ∃ v, c.unit? j = some v ∧ (v.innerLoaded = true ∨ j ∈ pending)

theorem empty_expanded : empty.Expanded := fun id u hu => by cases hu

theorem Grows.expanded (h : c.Grows d) (hc : c.Expanded) : d.Expanded := by
  intro id u hu hl j hj
  rcases h.fresh id u hu with hu | hf
  · obtain ⟨v, hv, hvl⟩ := hc id u hu hl j hj
    exact ⟨v, h.kept j v hv, hvl⟩
  · rw [hf] at hl
    cases hl

/-- Units that change in place keep what they know of their nests. -/
theorem Expanded.update (hc : c.Expanded) (hlen : d.units.length = c.units.length)
    (h : ∀ id v, d.unit? id = some v → ∃ u, c.unit? id = some u ∧ v.innerUnits = u.innerUnits ∧
      v.innerLoaded = u.innerLoaded) : d.Expanded := by
  intro id v hv hl j hj
  obtain ⟨u, hu, hin, hload⟩ := h id v hv
  obtain ⟨x, hx, hxl⟩ := hc id u hu (by rw [← hload]; exact hl) j (by rw [← hin]; exact hj)
  obtain ⟨y, hy⟩ := unit?_of_lt (c := d) (by rw [hlen]; exact unit?_lt hx)
  obtain ⟨x', hx', -, hyl⟩ := h j y hy
  rw [hx] at hx'
  cases hx'
  exact ⟨y, hy, hyl.trans hxl⟩

theorem unit?_modify (c : Cache) (id : UnitId) (f : ClassUnit → ClassUnit) (j : UnitId) :
    (c.modify id f).unit? j = (c.unit? j).map fun u => if id = j then f u else u := List.getElem?_modify ..

theorem Expanded.modify (hc : c.Expanded) {id : UnitId} {f : ClassUnit → ClassUnit}
    (hf : ∀ u, (f u).innerUnits = u.innerUnits ∧ (f u).innerLoaded = u.innerLoaded) : (c.modify id f).Expanded := by
  refine hc.update (List.length_modify ..) fun j v hv => ?_
  rw [unit?_modify] at hv
  obtain ⟨u, hu, rfl⟩ := Option.map_eq_some_iff.1 hv
  refine ⟨u, hu, ?_⟩
  split
  · exact hf u
  · exact ⟨rfl, rfl⟩

theorem Expanded.releaseHeavyState (hc : c.Expanded) (id : UnitId) : (c.releaseHeavyState id).Expanded := by
  obtain ⟨hlen, hget⟩ := releasePending_get [id] [] c.units
  refine hc.update hlen fun j v hv => ?_
  obtain ⟨u, hu, rfl | rfl⟩ := hget j v hv
  · exact ⟨v, hu, rfl, rfl⟩
  · exact ⟨u, hu, rfl, rfl⟩

/-- The walk leaves nothing pending. -/
theorem expanded_loadPending (hs : c.Sound) (hf : c.Faithful FileTree.Any) {pending : List UnitId}
    (hc : ExpandedBut pending c) : (loadPending files pending c).Expanded := by
  fun_induction Cache.loadPending files pending c with
  | case1 c =>
    intro id u hu hl j hj
    obtain ⟨v, hv, hvl | hj⟩ := hc id u hu hl j hj
    · exact ⟨v, hv, hvl⟩
    · cases hj
  | case2 c id rest hu ih =>
    refine ih hs hf fun i x hx hl j hj => ?_
    obtain ⟨v, hv, hvl⟩ := hc i x hx hl j hj
    have hne : j ≠ id := by
      rintro rfl
      rw [hu] at hv
      cases hv
    exact ⟨v, hv, hvl.imp_right fun hm => (List.mem_cons.1 hm).resolve_left hne⟩
  | case3 c id rest u hu hl ih =>
    refine ih hs hf fun i x hx hxl j hj => ?_
    obtain ⟨v, hv, hvl | hm⟩ := hc i x hx hxl j hj
    · exact ⟨v, hv, .inl hvl⟩
    rcases List.mem_cons.1 hm with rfl | hm
    · rw [hu] at hv
      cases hv
      exact ⟨u, hu, .inl hl⟩
    · exact ⟨v, hv, .inr hm⟩
  | case4 c id rest u hu hl resolved ih =>
    obtain ⟨hr, hlt⟩ := Advances.resolveAll hs hf files.any id (u.classFile.declaredInner.map (·.inner))
    have hset : Advances FileTree.Any resolved.2 (resolved.2.setInner id resolved.1) :=
      .modify hr.sound hr.faithful fun v _ => ⟨⟨rfl, rfl, rfl, .inl ⟨rfl, rfl⟩⟩, fun j hj => .inr (hlt j hj)⟩
    have hg := Grows.resolveAll files id (u.classFile.declaredInner.map (·.inner)) c
    refine ih hset.sound hset.faithful fun i x hx hxl j hj => ?_
    have hat (k : UnitId) : (resolved.2.setInner id resolved.1).unit? k = (resolved.2.unit? k).map fun v =>
        if id = k then { v with innerUnits := resolved.1, innerLoaded := true } else v := unit?_modify ..
    rw [hat] at hx
    obtain ⟨y, hy, rfl⟩ := Option.map_eq_some_iff.1 hx
    by_cases hi : id = i
    · -- the unit itself: what was found for it is pending now
      rw [if_pos hi] at hj
      obtain ⟨v, hv⟩ := unit?_of_lt (hlt j hj)
      refine ⟨_, by rw [hat, hv]; rfl, .inr (List.mem_append_left _ hj)⟩
    · rw [if_neg hi] at hj hxl
      rcases hg.fresh i y hy with hold | hnew
      · obtain ⟨v, hv, hvl⟩ := hc i y hold hxl j hj
        refine ⟨_, by rw [hat, hg.kept j v hv]; rfl, ?_⟩
        dsimp only
        split
        · exact .inl rfl
        · next hij =>
          exact hvl.imp_right fun hm => List.mem_append_right _ ((List.mem_cons.1 hm).resolve_left (Ne.symm hij))
      · rw [hnew] at hxl
        cases hxl

theorem Expanded.loadInnerClasses (hc : c.Expanded) (hs : c.Sound) (hf : c.Faithful FileTree.Any) (files : FileTree)
    (id : UnitId) : (c.loadInnerClasses files id).Expanded :=
  expanded_loadPending hs hf fun i u hu hl j hj => by
    obtain ⟨v, hv, hvl⟩ := hc i u hu hl j hj
    exact ⟨v, hv, .inl hvl⟩

end Cache

/-! ## What lasts -/

/-- The unit is as it was for those who read it later. If nests are asked for, its nested units are final once it is
expanded, else they are final at once. -/
structure ClassUnit.Stays (nesting : Bool) (u v : ClassUnit) : Prop where
  isInner : v.isInner = u.isInner
  isReleased : v.isReleased = u.isReleased
  classFile : v.classFile = u.classFile
  nest : (nesting = true → u.innerLoaded = true) → v.innerUnits = u.innerUnits ∧ (nesting = true → v.innerLoaded = true)

theorem ClassUnit.Stays.refl (nesting : Bool) (u : ClassUnit) : u.Stays nesting u := ⟨rfl, rfl, rfl, fun h => ⟨rfl, h⟩⟩

theorem ClassUnit.Stays.trans {nesting : Bool} {u v w : ClassUnit} (h : u.Stays nesting v) (h' : v.Stays nesting w) :
    u.Stays nesting w := by
  refine ⟨h'.isInner.trans h.isInner, h'.isReleased.trans h.isReleased, h'.classFile.trans h.classFile, fun hu => ?_⟩
  obtain ⟨hin, hv⟩ := h.nest hu
  obtain ⟨hin', hw⟩ := h'.nest hv
  exact ⟨hin'.trans hin, hw⟩

namespace Cache

variable {nesting : Bool} {files : FileTree} {c d e : Cache}

structure Stays (nesting : Bool) (c d : Cache) : Prop where
  units : ∀ id u, c.unit? id = some u → ∃ v, d.unit? id = some v ∧ u.Stays nesting v
  index : ∀ t id, c.get? t = some id → d.get? t = some id

theorem Stays.refl (nesting : Bool) (c : Cache) : c.Stays nesting c := ⟨fun _ u hu => ⟨u, hu, .refl nesting u⟩, fun _ _ h => h⟩

theorem Stays.trans (h : c.Stays nesting d) (h' : d.Stays nesting e) : c.Stays nesting e := by
  refine ⟨fun id u hu => ?_, fun t id ht => h'.index t id (h.index t id ht)⟩
  obtain ⟨v, hv, huv⟩ := h.units id u hu
  obtain ⟨w, hw, hvw⟩ := h'.units id v hv
  exact ⟨w, hw, huv.trans hvw⟩

theorem Stays.length_le (h : c.Stays nesting d) : c.units.length ≤ d.units.length := by
  refine Nat.le_of_not_lt fun hlt => ?_
  obtain ⟨u, hu⟩ := unit?_of_lt hlt
  obtain ⟨v, hv, -⟩ := h.units _ u hu
  exact Nat.lt_irrefl _ (unit?_lt hv)

theorem Grows.stays (h : c.Grows d) (nesting : Bool) : c.Stays nesting d :=
  ⟨fun id u hu => ⟨u, h.kept id u hu, .refl nesting u⟩, h.index⟩

theorem Stays.modify (c : Cache) {id : UnitId} {f : ClassUnit → ClassUnit}
    (hf : ∀ u, c.unit? id = some u → u.Stays nesting (f u)) : c.Stays nesting (c.modify id f) := by
  refine ⟨fun j u hu => ⟨_, by rw [unit?_modify, hu]; rfl, ?_⟩, fun _ _ h => h⟩
  split
  · next hi =>
    subst hi
    exact hf u hu
  · exact .refl nesting u

/-- The walk notes nested units of units that were not expanded, and of no others. -/
theorem Stays.loadPending (files : FileTree) (pending : List UnitId) (c : Cache) :
    c.Stays true (loadPending files pending c) := by
  fun_induction Cache.loadPending files pending c with
  | case1 c => exact .refl true c
  | case2 c id rest hu ih => exact ih
  | case3 c id rest u hu hl ih => exact ih
  | case4 c id rest u hu hl resolved ih =>
    have hg := Grows.resolveAll files id (u.classFile.declaredInner.map (·.inner)) c
    have hset : resolved.2.Stays true (resolved.2.setInner id resolved.1) := by
      refine .modify resolved.2 fun v hv => ⟨rfl, rfl, rfl, fun hx => ?_⟩
      have hsame : some u = some v := (hg.kept id u hu).symm.trans hv
      cases hsame
      exact absurd (hx rfl) hl
    exact ((hg.stays true).trans hset).trans ih

/-- The units that the walk starts with are expanded at its end. -/
theorem loadPending_innerLoaded {pending : List UnitId} {j : UnitId} {v : ClassUnit} (hj : j ∈ pending)
    (hlt : j < c.units.length) (hv : (loadPending files pending c).unit? j = some v) : v.innerLoaded = true := by
  -- once expanded, a unit stays so
  have lasts {c : Cache} {pending : List UnitId} {u : ClassUnit} (hu : c.unit? j = some u) (hl : u.innerLoaded = true)
      (hv : (Cache.loadPending files pending c).unit? j = some v) : v.innerLoaded = true := by
    obtain ⟨w, hw, huw⟩ := (Stays.loadPending files pending c).units j u hu
    rw [hv] at hw
    cases hw
    exact (huw.nest fun _ => hl).2 rfl
  fun_induction Cache.loadPending files pending c with
  | case1 c => cases hj
  | case2 c id rest hu ih =>
    have hne : j ≠ id := by
      rintro rfl
      obtain ⟨u, hu'⟩ := unit?_of_lt hlt
      rw [hu] at hu'
      cases hu'
    exact ih ((List.mem_cons.1 hj).resolve_left hne) hlt hv
  | case3 c id rest u hu hl ih =>
    rcases List.mem_cons.1 hj with rfl | hj
    · exact lasts hu hl hv
    · exact ih hj hlt hv
  | case4 c id rest u hu hl resolved ih =>
    obtain ⟨x, hx⟩ := unit?_of_lt hlt
    have hg := (Grows.resolveAll files id (u.classFile.declaredInner.map (·.inner)) c).kept j x hx
    have hat : (resolved.2.setInner id resolved.1).unit? j = some
        (if id = j then { x with innerUnits := resolved.1, innerLoaded := true } else x) := by
      rw [setInner, unit?_modify, hg]
      rfl
    rcases List.mem_cons.1 hj with rfl | hj
    · exact lasts hat (by rw [if_pos rfl]) hv
    · exact ih (List.mem_append_right _ hj) (unit?_lt hat) hv

end Cache

/-! ## Sessions -/

namespace Session

variable {s s' : Session}

theorem Step.expanded (h : Step FileTree.Any s s') (hs : s.Good) (hc : s.cache.Expanded) : s'.cache.Expanded := by
  cases h with
  | cache hfiles op =>
    cases op with
    | addClasspath path => exact (Cache.Grows.addClasspath ..).expanded hc
    | resolveByPath path => exact (Cache.Grows.resolveByPath ..).expanded hc
    | resolveByIdentity t => exact (Cache.Grows.resolveByIdentity ..).expanded hc
    | loadArchive path => exact (Cache.Grows.loadArchive ..).expanded hc
    | loadInnerClasses id => exact hc.loadInnerClasses hs.sound hs.faithful _ id
    | releaseHeavyState id => exact hc.releaseHeavyState id
  | failed e => exact (Cache.Grows.failed s.cache e).expanded hc
  | name ids => exact hc
  | analyse id =>
    unfold Session.analyse
    split
    · exact hc
    · exact hc
    · exact hc.modify fun u => ⟨rfl, rfl⟩
  | dumped hm => exact hc.modify fun u => ⟨rfl, rfl⟩

theorem Reaches.expanded (h : Reaches FileTree.Any s s') (hs : s.Good) (hc : s.cache.Expanded) : s'.cache.Expanded := by
  induction h with
  | refl => exact hc
  | tail hreach hstep ih => exact hstep.expanded (hs.reaches hreach) ih

theorem start_expanded {files : FileTree} {options : Options} (h : Session.start files options = .ok s) :
    s.cache.Expanded := by
  have roots (paths : List Path) {c d : Cache} (h : addRoots files paths c = .ok d) : c.Grows d := by
    induction paths generalizing c with
    | nil =>
      cases h
      exact .refl _
    | cons p ps ih =>
      have hp := Cache.Grows.addClasspath files p c
      simp only [addRoots] at h
      split at h
      · next c' hc =>
        rw [hc] at hp
        exact hp.trans (ih h)
      · cases h
  simp only [start] at h
  split at h
  · next c hc =>
    cases h
    exact (roots _ hc).expanded Cache.empty_expanded
  · cases h

end Session

end ClassSkeleton
