import ClassSkeleton.Proofs.FiniteWalks
import ClassSkeleton.Proofs.NamedClasses
import ClassSkeleton.Proofs.NestExpansion

/-
  ClassSkeleton.Proofs.NestLoading — loading a nest ends and is complete.

  The walk that loads a nest keeps a list of units that wait for it. A `Move` takes the first of them: a unit that is
  expanded is passed over, any other is expanded, and what was found for it waits in front. Every move either passes
  over a unit or leaves less to be loaded or expanded, so there is no walk without end (`moves_wellFounded`), whatever
  the tables say; and there is only one way to go (`moves_onward`).

  A type that was looked for in vain stays out of the cache for as long as only nests are loaded, since a class gets in
  by being found under its own type. What was found stays as well (`Loads`). So every answer the walk got is the one
  that the cache would give at its end, and what a unit expanded on the way was given can be read off there
  (`loadPending_found`). Of the units that were there before, the walk changes what those not yet expanded know of
  their nests, and nothing else (`ClassUnit.Expands`).

  - `nest_loading_complete`: in the cache of every session, for every unit, over any files.
  - `nest_loading_of_circle`: two classes whose tables name each other.
-/

namespace ClassSkeleton

open Relation

namespace Cache

variable {files : FileTree} {c d e : Cache} {id : UnitId} {pending : List UnitId}

/-! ## The moves of the walk -/

/-- One move of the walk, from the units that wait and the cache so far. -/
inductive Move (files : FileTree) : List UnitId × Cache → List UnitId × Cache → Prop where
  | absent {id : UnitId} {rest : List UnitId} {c : Cache} (hu : c.unit? id = none) :
      Move files (id :: rest, c) (rest, c)
  | passed {id : UnitId} {rest : List UnitId} {c : Cache} {u : ClassUnit} (hu : c.unit? id = some u)
      (hl : u.innerLoaded = true) : Move files (id :: rest, c) (rest, c)
  | expanded {id : UnitId} {rest found : List UnitId} {c d : Cache} {u : ClassUnit} (hu : c.unit? id = some u)
      (hl : ¬ u.innerLoaded = true)
      (hr : resolveAll files id (u.classFile.declaredInner.map (·.inner)) c = (found, d)) :
      Move files (id :: rest, c) (found ++ rest, d.setInner id found)

/-- What is left to do: units to load or expand first, then units that wait. -/
theorem Move.left_lt {walk next : List UnitId × Cache} (h : Move files walk next) :
    Prod.Lex (· < ·) (· < ·) (next.2.workLeft files, next.1.length) (walk.2.workLeft files, walk.1.length) := by
  cases h with
  | absent hu => exact Prod.Lex.right _ (Nat.lt_succ_self _)
  | passed hu hl => exact Prod.Lex.right _ (Nat.lt_succ_self _)
  | @expanded id rest found c d u hu hl hr =>
    have hg := grownFrom_resolveAll files id (u.classFile.declaredInner.map (·.inner)) c
    rw [hr] at hg
    exact Prod.Lex.left _ _ (workLeft_setInner_lt hu (by simpa using hl) hg)

/-- No walk goes on for ever. -/
theorem moves_wellFounded (files : FileTree) : WellFounded fun next walk => Move files walk next :=
  Subrelation.wf (fun h => Move.left_lt h)
    (InvImage.wf (fun walk : List UnitId × Cache => (walk.2.workLeft files, walk.1.length))
      (Prod.lex ⟨_, Nat.lt_wfRel.wf⟩ ⟨_, Nat.lt_wfRel.wf⟩).wf)

theorem Move.unique {walk next next' : List UnitId × Cache} (h : Move files walk next) (h' : Move files walk next') :
    next = next' := by
  cases h with
  | absent hu =>
    cases h' with
    | absent => rfl
    | passed hu' => exact absurd (hu.symm.trans hu') (by simp)
    | expanded hu' => exact absurd (hu.symm.trans hu') (by simp)
  | passed hu hl =>
    cases h' with
    | absent => rfl
    | passed => rfl
    | expanded hu' hl' =>
      cases Option.some.inj (hu.symm.trans hu')
      exact absurd hl hl'
  | expanded hu hl hr =>
    cases h' with
    | absent hu' => exact absurd (hu'.symm.trans hu) (by simp)
    | passed hu' hl' =>
      cases Option.some.inj (hu.symm.trans hu')
      exact absurd hl' hl
    | expanded hu' hl' hr' =>
      cases Option.some.inj (hu.symm.trans hu')
      cases hr.symm.trans hr'
      rfl

/-- The walk ends with nothing waiting, in the cache that is worked out. -/
theorem moves_loadPending (files : FileTree) (pending : List UnitId) (c : Cache) :
    ReflTransGen (Move files) (pending, c) ([], loadPending files pending c) := by
  fun_induction Cache.loadPending files pending c with
  | case1 c => exact .refl
  | case2 c id rest hu ih => exact .head (.absent hu) ih
  | case3 c id rest u hu hl ih => exact .head (.passed hu hl) ih
  | case4 c id rest u hu hl resolved ih => exact .head (.expanded hu hl rfl) ih

/-- Wherever the walk has come to, it goes on to that end. -/
theorem moves_onward {walk : List UnitId × Cache} (h : ReflTransGen (Move files) (pending, c) walk) :
    ReflTransGen (Move files) walk ([], loadPending files pending c) := by
  have hone : Relator.RightUnique (Move files) := fun _ _ _ h h' => h.unique h'
  exact (Ends.of_reaches hone (moves_loadPending files pending c) fun _ hmove => by cases hmove).onward walk h

/-! ## What is found, and what is not -/

/-- Types were looked for: those that were there still are, and those that were not and cannot be found are not. -/
structure Loads (files : FileTree) (c d : Cache) : Prop where
  roots : d.roots = c.roots
  index : ∀ t id, c.get? t = some id → d.get? t = some id
  missing : ∀ t, c.get? t = none → (∀ x, findOnRoots files t c.roots ≠ .ok (some x)) → d.get? t = none

namespace Loads

theorem refl (files : FileTree) (c : Cache) : Loads files c c := ⟨rfl, fun _ _ h => h, fun _ h _ => h⟩

theorem trans (h : Loads files c d) (h' : Loads files d e) : Loads files c e := by
  refine ⟨h'.roots.trans h.roots, fun t id ht => h'.index t id (h.index t id ht), fun t ht hm => ?_⟩
  exact h'.missing t (h.missing t ht hm) (by rwa [h.roots])

theorem resolveByIdentity (files : FileTree) (t : TypeName) (c : Cache) :
    Loads files c (resolveByIdentity files t c).2 := by
  refine ⟨(grownFrom_resolveByIdentity files t c).roots, (Grows.resolveByIdentity files t c).index, fun s hs hm => ?_⟩
  unfold Cache.resolveByIdentity
  split
  · exact hs
  · split
    · next classFile origin hf =>
      -- the new unit is of the type that was looked for, which is another one
      obtain ⟨rfl, -⟩ := mem_providedTypes_of_find hf fun r hr => hr
      rw [get?_insert, if_neg, hs]
      rintro rfl
      exact hm _ hf
    · exact hs
    · exact hs

theorem failed (files : FileTree) (c : Cache) (err : LoadError) : Loads files c (c.failed err) :=
  ⟨rfl, fun _ _ h => h, fun _ h _ => h⟩

theorem resolveAll (files : FileTree) (self : UnitId) (ts : List TypeName) (c : Cache) :
    Loads files c (resolveAll files self ts c).2 := by
  induction ts generalizing c with
  | nil => exact .refl files c
  | cons t ts ih =>
    have ht := Loads.resolveByIdentity files t c
    rcases hr : Cache.resolveByIdentity files t c with ⟨r, d⟩
    rw [hr] at ht
    cases r with
    | ok id =>
      simp only [Cache.resolveAll, hr]
      exact ht.trans (ih d)
    | error err =>
      simp only [Cache.resolveAll, hr]
      exact ht.trans ((failed files d err).trans (ih _))

theorem setInner (files : FileTree) (c : Cache) (id : UnitId) (found : List UnitId) :
    Loads files c (c.setInner id found) := ⟨rfl, fun _ _ h => h, fun _ h _ => h⟩

theorem loadPending (files : FileTree) (pending : List UnitId) (c : Cache) :
    Loads files c (loadPending files pending c) := by
  fun_induction Cache.loadPending files pending c with
  | case1 c => exact .refl files c
  | case2 c id rest hu ih => exact ih
  | case3 c id rest u hu hl ih => exact ih
  | case4 c id rest u hu hl resolved ih =>
    exact ((Loads.resolveAll files id _ c).trans (.setInner files _ id _)).trans ih

/-- A type that is found is the one the index has from then on, and one that is not is not there later either. -/
theorem answer (files : FileTree) (t : TypeName) (c : Cache) :
    (∃ id, (Cache.resolveByIdentity files t c).1 = .ok id ∧
      ∀ d, Loads files (Cache.resolveByIdentity files t c).2 d → d.get? t = some id) ∨
    ∃ err, (Cache.resolveByIdentity files t c).1 = .error err ∧
      ∀ d, Loads files (Cache.resolveByIdentity files t c).2 d → d.get? t = none := by
  unfold Cache.resolveByIdentity
  split
  · next id hid => exact .inl ⟨id, rfl, fun d hd => hd.index t id hid⟩
  · next hn =>
    split
    · next classFile origin hf =>
      obtain ⟨rfl, -⟩ := mem_providedTypes_of_find hf fun r hr => hr
      exact .inl ⟨_, rfl, fun d hd => hd.index _ _ (get?_insert_self ..)⟩
    · next hf => exact .inr ⟨_, rfl, fun d hd => hd.missing t hn fun x hx => by rw [hf] at hx; cases hx⟩
    · next hf => exact .inr ⟨_, rfl, fun d hd => hd.missing t hn fun x hx => by rw [hf] at hx; cases hx⟩

/-- What was found can be read off any later cache: the units of the types that are there, in order. -/
theorem found {self : UnitId} {ts : List TypeName} (h : Loads files (Cache.resolveAll files self ts c).2 e)
    (hself : ∀ t ∈ ts, e.get? t ≠ some self) : (Cache.resolveAll files self ts c).1 = ts.filterMap e.get? := by
  induction ts generalizing c with
  | nil => rfl
  | cons t ts ih =>
    have htail := fun t' ht' => hself t' (List.mem_cons_of_mem _ ht')
    have hanswer := answer files t c
    rcases hr : Cache.resolveByIdentity files t c with ⟨r, d⟩
    rw [hr] at hanswer
    cases r with
    | ok id =>
      have hlater := Loads.resolveAll files self ts d
      simp only [Cache.resolveAll, hr] at h ⊢
      rcases hanswer with ⟨id', hid, hget⟩ | ⟨err, herr, -⟩
      · cases hid
        have ht := hget e (hlater.trans h)
        have hne : id ≠ self := by
          rintro rfl
          exact hself t List.mem_cons_self ht
        rw [if_neg hne, ih h htail, List.filterMap_cons_some ht]
      · cases herr
    | error err =>
      have hlater := (failed files d err).trans (Loads.resolveAll files self ts _)
      simp only [Cache.resolveAll, hr] at h ⊢
      rcases hanswer with ⟨id', hid, -⟩ | ⟨err', -, hget⟩
      · cases hid
      · rw [ih h htail, List.filterMap_cons_none (hget e (hlater.trans h))]

end Loads

/-- A class does not declare itself, so the unit is not among those of the types it declares. -/
theorem Sound.get?_declared (hs : c.Sound) {u : ClassUnit} (hu : c.unit? id = some u) {t : TypeName}
    (ht : t ∈ u.classFile.declaredInner.map (·.inner)) : c.get? t ≠ some id := by
  intro hid
  obtain ⟨v, hv, htype⟩ := (hs.index t id).1 hid
  cases Option.some.inj (hu.symm.trans hv)
  obtain ⟨entry, hentry, rfl⟩ := List.mem_map.1 ht
  have hinner : entry.inner ≠ u.classFile.thisClass := by
    have hdeclares := (List.mem_filter.1 hentry).2
    rw [ClassFile.declaresInner, Bool.and_eq_true, bne_iff_ne] at hdeclares
    exact hdeclares.1
  exact hinner (htype.symm.trans (hs.declared id u hu).1)

end Cache

/-! ## What becomes of a unit -/

/-- Of a unit nothing changes, or what it knows of its nest, if it was not expanded. -/
structure ClassUnit.Expands (u v : ClassUnit) : Prop where
  rest : v = { u with innerUnits := v.innerUnits, innerLoaded := v.innerLoaded }
  final : u.innerLoaded = true → v = u

theorem ClassUnit.Expands.refl (u : ClassUnit) : u.Expands u := ⟨rfl, fun _ => rfl⟩

theorem ClassUnit.Expands.trans {u v w : ClassUnit} (h : u.Expands v) (h' : v.Expands w) : u.Expands w := by
  refine ⟨?_, fun hu => ?_⟩
  · have hw := h'.rest
    rw [h.rest] at hw
    exact hw
  · have hv := h.final hu
    rw [hv] at h'
    exact h'.final hu

namespace Cache

variable {files : FileTree} {c d e : Cache} {id j : UnitId} {pending : List UnitId} {u v : ClassUnit}

theorem unit?_setInner (c : Cache) (id : UnitId) (found : List UnitId) (j : UnitId) :
    (c.setInner id found).unit? j =
      (c.unit? j).map fun u => if id = j then { u with innerUnits := found, innerLoaded := true } else u :=
  unit?_modify ..

/-- The cache after a unit was expanded. -/
theorem Advances.expand (hs : c.Sound) (hf : c.Faithful FileTree.Any) (files : FileTree) (id : UnitId)
    (ts : List TypeName) :
    Advances FileTree.Any c ((Cache.resolveAll files id ts c).2.setInner id (Cache.resolveAll files id ts c).1) := by
  obtain ⟨hr, hlt⟩ := Advances.resolveAll hs hf files.any id ts
  exact hr.trans (.modify hr.sound hr.faithful fun v _ =>
    ⟨⟨rfl, rfl, rfl, .inl ⟨rfl, rfl⟩⟩, fun j hj => .inr (hlt j hj)⟩)

theorem unit?_expand (hu : c.unit? j = some u) (files : FileTree) (id : UnitId) (ts : List TypeName) :
    ((resolveAll files id ts c).2.setInner id (resolveAll files id ts c).1).unit? j =
      some (if id = j then { u with innerUnits := (resolveAll files id ts c).1, innerLoaded := true } else u) := by
  rw [unit?_setInner, (Grows.resolveAll files id ts c).kept j u hu, Option.map_some]

/-- The walk leaves every unit where it is, and changes no more than what it knows of its nest. -/
theorem loadPending_kept (files : FileTree) (pending : List UnitId) (c : Cache) :
    ∀ j u, c.unit? j = some u → ∃ v, (loadPending files pending c).unit? j = some v ∧ u.Expands v := by
  fun_induction Cache.loadPending files pending c with
  | case1 c => exact fun j u hu => ⟨u, hu, .refl u⟩
  | case2 c id rest _ ih => exact ih
  | case3 c id rest x _ _ ih => exact ih
  | case4 c id rest x hx hl resolved ih =>
    intro j u hu
    obtain ⟨v, hv, hwv⟩ := ih j _ (unit?_expand hu files id _)
    refine ⟨v, hv, .trans ?_ hwv⟩
    split
    · next hid =>
      subst hid
      cases Option.some.inj (hx.symm.trans hu)
      exact ⟨rfl, fun h => absurd h hl⟩
    · exact .refl u

/-- A unit that the walk expanded has the units of the types its class declares that are there in the end. -/
theorem loadPending_found (hs : c.Sound) (hf : c.Faithful FileTree.Any)
    (hv : (loadPending files pending c).unit? j = some v) (hl : v.innerLoaded = true)
    (hnew : ∀ u, c.unit? j = some u → u.innerLoaded = false) :
    v.innerUnits = (v.classFile.declaredInner.map (·.inner)).filterMap (loadPending files pending c).get? := by
  fun_induction Cache.loadPending files pending c with
  | case1 c =>
    rw [hnew v hv] at hl
    cases hl
  | case2 c id rest _ ih => exact ih hs hf hv hnew
  | case3 c id rest x _ _ ih => exact ih hs hf hv hnew
  | case4 c id rest x hx hxl resolved ih =>
    have hadv := Advances.expand hs hf files id (x.classFile.declaredInner.map (·.inner))
    by_cases hid : id = j
    · -- expanded by this move: the rest of the walk leaves what was found
      subst hid
      have hset := unit?_expand hx files id (x.classFile.declaredInner.map (·.inner))
      rw [if_pos rfl] at hset
      obtain ⟨v', hv', hfinal⟩ := loadPending_kept files (resolved.1 ++ rest) _ _ _ hset
      cases Option.some.inj (hv.symm.trans hv')
      cases hfinal.final rfl
      have hlater : Loads files resolved.2 _ :=
        (Loads.setInner files resolved.2 id resolved.1).trans (.loadPending files (resolved.1 ++ rest) _)
      have hend := Advances.loadPending hadv.sound hadv.faithful files.any (resolved.1 ++ rest)
      exact hlater.found fun t ht => hend.sound.get?_declared hv ht
    · refine ih hadv.sound hadv.faithful hv fun u hu => ?_
      rw [unit?_setInner] at hu
      obtain ⟨y, hy, rfl⟩ := Option.map_eq_some_iff.1 hu
      rw [if_neg hid]
      rcases (Grows.resolveAll files id (x.classFile.declaredInner.map (·.inner)) c).fresh j y hy with hold | hfresh
      · exact hnew y hold
      · exact hfresh

/-! ## Sessions -/

/-- What loading the nest of a unit makes of the cache `c`. -/
structure NestLoaded (c : Cache) (id : UnitId) (d : Cache) : Prop where
  /-- All of the nest is expanded. -/
  complete : id < c.units.length → ∀ j, d.InNest id j → ∃ v, d.unit? j = some v ∧ v.innerLoaded = true
  /-- A unit of the nest that was not expanded before has the units of the types its class declares, in the order
  of its table, as far as the types are cached now. -/
  found : id < c.units.length → ∀ j v, d.InNest id j → d.unit? j = some v →
    (∀ u, c.unit? j = some u → u.innerLoaded = false) →
    v.innerUnits = (v.classFile.declaredInner.map (·.inner)).filterMap d.get?
  /-- A unit that was there differs at most in its nested units, and in these only if it was not expanded. -/
  kept : ∀ j u, c.unit? j = some u → ∃ v, d.unit? j = some v ∧ u.Expands v
  /-- The cached types are those of the units. -/
  index : ∀ t j, d.get? t = some j ↔ ∃ v, d.unit? j = some v ∧ v.type = t

/-- All of the nest of an expanded unit is expanded. -/
theorem Expanded.inNest (hc : c.Expanded) (hu : c.unit? id = some u) (hl : u.innerLoaded = true) (h : c.InNest id j) :
    ∃ v, c.unit? j = some v ∧ v.innerLoaded = true := by
  induction h with
  | refl => exact ⟨u, hu, hl⟩
  | tail _ hnested ih =>
    obtain ⟨v, hv, hvl⟩ := ih
    obtain ⟨w, hw, hj⟩ := hnested
    cases Option.some.inj (hv.symm.trans hw)
    exact hc _ v hv hvl _ hj

theorem nestLoaded_loadInnerClasses (hs : c.Sound) (hf : c.Faithful FileTree.Any) (hc : c.Expanded) (files : FileTree)
    (id : UnitId) : NestLoaded c id (c.loadInnerClasses files id) := by
  have hexpanded := hc.loadInnerClasses hs hf files id
  have hend := Advances.loadInnerClasses hs hf files.any id
  have hcomplete : id < c.units.length → ∀ j, (c.loadInnerClasses files id).InNest id j →
      ∃ v, (c.loadInnerClasses files id).unit? j = some v ∧ v.innerLoaded = true := by
    intro hlt j hj
    obtain ⟨v, hv⟩ := unit?_of_lt (Nat.lt_of_lt_of_le hlt hend.evolves.length_le)
    exact hexpanded.inNest hv (loadPending_innerLoaded (List.mem_singleton_self id) hlt hv) hj
  refine ⟨hcomplete, fun hlt j v hj hv hnew => ?_, loadPending_kept files [id] c, hend.sound.index⟩
  obtain ⟨w, hw, hl⟩ := hcomplete hlt j hj
  cases Option.some.inj (hv.symm.trans hw)
  exact loadPending_found hs hf hv hl hnew

end Cache

namespace Session

open Cache

/-- In the cache of every session, over any files and for every unit: the walk that loads the nest of the unit cannot
go on for ever, and wherever it has come to, it goes on to the cache that is worked out. There the whole nest is
expanded; a unit of it that was not before has, in the order of its table, the units of those types its class
declares that are cached; and units that were there are as they were, but for the nested units of those that were not
expanded. -/
theorem nest_loading_complete {start : FileTree} {options : Options} {first s : Session}
    (hstart : Session.start start options = .ok first) (hreach : first.Reaches FileTree.Any s) (files : FileTree)
    (id : UnitId) :
    WellFounded (fun next walk => Move files walk next) ∧
    (∀ walk, ReflTransGen (Move files) ([id], s.cache) walk →
      ReflTransGen (Move files) walk ([], s.cache.loadInnerClasses files id)) ∧
    NestLoaded s.cache id (s.cache.loadInnerClasses files id) := by
  have hgood := (start_isGood hstart).reaches hreach
  have hexpanded := hreach.expanded (start_isGood hstart) (start_expanded hstart)
  exact ⟨moves_wellFounded files, fun walk => moves_onward,
    nestLoaded_loadInnerClasses hgood.sound hgood.faithful hexpanded files id⟩

end Session

/-! ## Two classes that declare each other -/

namespace Twins

/-- A class with a name of one letter, whose table has the other class as one inside it. -/
def classFile (self other : UInt8) : List UInt8 :=
  [202, 254, 186, 190, 0, 0, 0, 52, 0, 6, 1, 0, 1, self, 7, 0, 1, 1, 0, 1, other, 7, 0, 3, 1, 0, 12, 73, 110, 110, 101,
   114, 67, 108, 97, 115, 115, 101, 115, 0, 33, 0, 2, 0, 0, 0, 0, 0, 0, 0, 0, 0, 1, 0, 5, 0, 0, 0, 10, 0, 1, 0, 4, 0,
   2, 0, 0, 0, 8]

def files : FileTree :=
  ⟨[(["lib"], .dir), (["lib", "A.class"], .file (classFile 65 66)), (["lib", "B.class"], .file (classFile 66 65))], []⟩

def options : Options := { Options.default with extraClasspath := [⟨"lib"⟩] }

/-- The session at its start. -/
def first : Session := ⟨options, ⟨[], [], [.directory ⟨"lib"⟩], none⟩, Naming.empty⟩

/-- The session once `A` was looked for. -/
def session : Session := { first with cache := first.cache.perform files (.resolveByIdentity ⟨"A"⟩) }

end Twins

namespace Session

open Cache

set_option maxRecDepth 4000 in
/-- The walk from `A` loads `B` and ends, with each of them nested in the other. -/
theorem nest_loading_of_circle :
    Session.start Twins.files Twins.options = .ok Twins.first ∧ Twins.first.Reaches FileTree.Any Twins.session ∧
    NestLoaded Twins.session.cache 0 (Twins.session.cache.loadInnerClasses Twins.files 0) ∧
    (Twins.session.cache.loadInnerClasses Twins.files 0).units.map (fun u => (u.type, u.innerUnits)) =
      [(⟨"A"⟩, [1]), (⟨"B"⟩, [0])] := by
  have hstart : Session.start Twins.files Twins.options = .ok Twins.first := rfl
  have hreach : Twins.first.Reaches FileTree.Any Twins.session :=
    (Step.cache Twins.files.any (.resolveByIdentity ⟨"A"⟩)).reaches
  have hwalk : (Twins.session.cache.loadPendingWithin Twins.files 4 [0]).map
      (fun c => c.units.map fun u => (u.type, u.innerUnits)) = some [(⟨"A"⟩, [1]), (⟨"B"⟩, [0])] := by decide +kernel
  obtain ⟨c, hc, hunits⟩ := Option.map_eq_some_iff.1 hwalk
  refine ⟨hstart, hreach, (nest_loading_complete hstart hreach Twins.files 0).2.2, ?_⟩
  rw [loadInnerClasses, loadPending_of_within hc, hunits]

end Session

end ClassSkeleton
