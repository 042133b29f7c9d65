import ClassSkeleton.Proofs.NestExpansion

/-
  ClassSkeleton.Proofs.LastingModels — the same model every time.

  Analysis follows nests somewhat further down than there are units, and more units may have been loaded when a unit
  is analysed again. That makes no difference to an analysis that came to an end: its answer is the same at every
  greater depth (`buildModel_le`). One that did not has crashed the program, and nothing is analysed after that.

  Below the depth a model depends on the units of the nest and the names (`buildModel_congr`). So a candidate that is
  prepared again, once its nest was expanded and with the names it had, is prepared as it was, and the program goes on
  as it did (`prepare_again`).
-/

namespace ClassSkeleton

namespace Session

variable {s r : Session} {depth : Nat} {id : UnitId}

/-! ## Depth -/

/-- The analysis came to an end. -/
def isDefinite : Except Unbuilt ClassModel → Bool
  | .error .endless => false
  | _ => true

theorem indefinite_eq {x : Except Unbuilt ClassModel} (h : ¬ isDefinite x = true) : x = .error .endless := by
  rcases x with (e | _) | m
  · exact absurd rfl h
  · rfl
  · exact absurd rfl h

theorem mapM_definite {f g : UnitId → Except Unbuilt ClassModel} (h : ∀ j, isDefinite (f j) = true → g j = f j)
    {ids : List UnitId} (hf : ids.mapM f ≠ .error .endless) : ids.mapM g = ids.mapM f := by
  induction ids with
  | nil => rfl
  | cons j ids ih =>
    rw [List.mapM_cons] at hf
    have hj : g j = f j := by
      refine h j ?_
      by_contra hn
      rw [indefinite_eq hn] at hf
      exact hf rfl
    rw [List.mapM_cons, List.mapM_cons, hj]
    cases hfj : f j with
    | error e => rfl
    | ok m =>
      have hrest : ids.mapM f ≠ .error .endless := by
        intro he
        rw [hfj, he] at hf
        exact hf rfl
      rw [ih hrest]

theorem modelAround_definite {f g : UnitId → Except Unbuilt ClassModel}
    (h : ∀ j, isDefinite (f j) = true → g j = f j) (hd : isDefinite (s.modelAround f id) = true) :
    s.modelAround g id = s.modelAround f id := by
  unfold modelAround at hd ⊢
  cases hu : s.cache.unit? id with
  | none => rfl
  | some u =>
    rw [hu] at hd
    dsimp only at hd ⊢
    split
    · rfl
    · next hr =>
      rw [if_neg hr] at hd
      rw [mapM_definite h]
      intro he
      rw [he] at hd
      cases hd

theorem buildModel_succ (h : isDefinite (s.buildModel depth id) = true) :
    s.buildModel (depth + 1) id = s.buildModel depth id := by
  induction depth generalizing id with
  | zero => cases h
  | succ depth ih => exact modelAround_definite (fun j => ih) h

theorem buildModel_le {d e : Nat} (hde : d ≤ e) (h : isDefinite (s.buildModel d id) = true) :
    s.buildModel e id = s.buildModel d id := by
  induction hde with
  | refl => rfl
  | step _ ih => rw [buildModel_succ (by rw [ih]; exact h), ih]

/-! ## Nests -/

/-- A model depends on the names and on the units of the nest. -/
theorem buildModel_congr (hn : r.naming = s.naming)
    (h : ∀ j, s.cache.InNest id j → ∃ u v, s.cache.unit? j = some u ∧ r.cache.unit? j = some v ∧
      v.isReleased = u.isReleased ∧ v.classFile = u.classFile ∧ v.innerUnits = u.innerUnits) (depth : Nat) :
    r.buildModel depth id = s.buildModel depth id := by
  induction depth generalizing id with
  | zero => rfl
  | succ depth ih =>
    obtain ⟨u, v, hu, hv, hreleased, hfile, hinner⟩ := h id .refl
    have hmap : u.innerUnits.mapM (r.buildModel depth) = u.innerUnits.mapM (s.buildModel depth) :=
      mapM_congr_of_mem fun j hj => ih fun k hk => h k (.head ⟨u, hu, hj⟩ hk)
    simp only [buildModel, modelAround, hu, hv, hreleased, hfile, hinner, hn, hmap]

/-- What building comes to while the program is running. -/
theorem build_running (hc : s.cache.crash = none) (id : UnitId) :
    s.build id =
      match s.buildModel (s.cache.units.length + 1) id with
      | .error (.failed e) => (.error e, s)
      | .error .endless => (.error .notAnalysed, { s with cache := s.cache.crashed .recursion })
      | .ok m =>
        (.ok m, { s with cache := s.cache.modify id fun u => { u with model := some m, state := .analysed } }) := by
  rw [build, hc, if_neg (by simp), analyse]
  rcases hb : s.buildModel (s.cache.units.length + 1) id with (e | _) | m
  · rfl
  · rfl
  · obtain ⟨u, hu, -⟩ := (buildModel_ok hb).unreleased
    simp only [model, Cache.unit?_modify, hu]
    rfl

/-- A unit that is built again as it was, from a nest that is as it was. -/
theorem build_again (hs : s.cache.crash = none) (hr : r.cache.crash = none)
    (hdone : (s.build id).2.cache.crash = none) (hlen : s.cache.units.length ≤ r.cache.units.length)
    (hsame : ∀ depth, r.buildModel depth id = s.buildModel depth id) :
    (r.build id).1 = (s.build id).1 ∧ (r.build id).2.cache.crash = none := by
  have hdefinite : isDefinite (s.buildModel (s.cache.units.length + 1) id) = true := by
    by_contra hn
    rw [build_running hs, indefinite_eq hn] at hdone
    cases hdone
  rw [build_running hs, build_running hr, hsame, buildModel_le (Nat.succ_le_succ hlen) hdefinite]
  generalize s.buildModel (s.cache.units.length + 1) id = x at hdefinite
  rcases x with (e | _) | m
  · exact ⟨rfl, hr⟩
  · cases hdefinite
  · exact ⟨rfl, hr⟩

/-! ## Preparations -/

theorem build_stays (s : Session) (id : UnitId) (nesting : Bool) : s.cache.Stays nesting (s.build id).2.cache := by
  have hrefl : s.cache.Stays nesting s.cache := .refl nesting _
  cases hc : s.cache.crash with
  | some cause =>
    rw [build, hc]
    exact hrefl
  | none =>
    rw [build_running hc]
    rcases hb : s.buildModel (s.cache.units.length + 1) id with (e | _) | m
    · exact hrefl
    · exact ⟨hrefl.units, hrefl.index⟩
    · obtain ⟨u, hu, hr⟩ := (buildModel_ok hb).unreleased
      refine .modify s.cache fun v hv => ⟨rfl, ?_, rfl, fun h => ⟨rfl, h⟩⟩
      rw [hu] at hv
      cases hv
      exact hr.symm

theorem loadInner_stays (s : Session) (files : FileTree) (id : UnitId) :
    s.cache.Stays s.options.decompileInnerClasses (s.loadInner files id).cache := by
  unfold loadInner
  split
  · next hn =>
    rw [hn]
    exact .loadPending files [id] s.cache
  · exact .refl _ _

theorem prepare_cached {t : TypeName} (ht : s.cache.get? t = some id) (files : FileTree) :
    s.prepare files t =
      if World.isInnerUnit s id then (.nested, s)
      else
        match (s.loadInner files id).build id with
        | (.error e, s') => (.unbuilt e, s')
        | (.ok m, s') => (.built id m, s') := by
  unfold prepare
  rewrite [Cache.resolveByIdentity_of_get? ht]
  rfl

theorem prepare_stays {t : TypeName} (ht : s.cache.get? t = some id) (files : FileTree) :
    s.cache.Stays s.options.decompileInnerClasses (s.prepare files t).2.cache := by
  have hload := loadInner_stays s files id
  have hbuild := build_stays (s.loadInner files id) id s.options.decompileInnerClasses
  rw [prepare_cached ht]
  split
  · exact .refl _ _
  · rcases hb : (s.loadInner files id).build id with ⟨x, s'⟩
    rw [hb] at hbuild
    cases x <;> exact hload.trans hbuild

/-- Once it was expanded, the whole nest of a unit is final. -/
theorem loadInner_final (hs : s.Good) (hc : s.cache.Expanded) (hid : id < s.cache.units.length) (files : FileTree)
    {j : UnitId} (hj : (s.loadInner files id).cache.InNest id j) :
    ∃ u, (s.loadInner files id).cache.unit? j = some u ∧
      (s.options.decompileInnerClasses = true → u.innerLoaded = true) := by
  have hreach := loadInner_reaches files.any s id
  have hgood := hs.reaches hreach
  have hexpanded := hreach.expanded hs hc
  induction hj with
  | refl =>
    obtain ⟨u, hu⟩ := Cache.unit?_of_lt (Nat.lt_of_lt_of_le hid (loadInner_stays s files id).length_le)
    refine ⟨u, hu, fun hn => ?_⟩
    rw [loadInner, if_pos hn] at hu
    exact Cache.loadPending_innerLoaded (List.mem_singleton_self id) hid hu
  | @tail i j _ hn ih =>
    obtain ⟨u, hu, hl⟩ := ih
    obtain ⟨u', hu', hmem⟩ := hn
    rw [hu] at hu'
    cases hu'
    obtain ⟨v, hv⟩ := Cache.unit?_of_lt (hgood.sound.nested i u hu j hmem)
    refine ⟨v, hv, fun hn => ?_⟩
    obtain ⟨w, hw, hwl⟩ := hexpanded i u hu (hl hn) j hmem
    rw [hv] at hw
    cases hw
    exact hwl

/-- A program that is running after a candidate was prepared was running when its model was built. -/
theorem loadInner_alive {files : FileTree} (h : ((s.loadInner files id).build id).2.cache.crash = none) :
    (s.loadInner files id).cache.crash = none := by
  rcases build_crash (s.loadInner files id) id with hb | ⟨hb, -⟩ <;> rw [hb] at h
  · exact h
  · cases h

/-- A candidate that is prepared again, with the names and the units it left, is prepared as it was, and without a
crash if it was. -/
theorem prepare_again {files files' : FileTree} {t : TypeName} (hs : s.Good) (hc : s.cache.Expanded)
    (ht : s.cache.get? t = some id)
    (hstay : (s.prepare files t).2.cache.Stays s.options.decompileInnerClasses r.cache) (hn : r.naming = s.naming)
    (ho : r.options = s.options) (hdone : (s.prepare files t).2.cache.crash = none) (hr : r.cache.crash = none) :
    (r.prepare files' t).1 = (s.prepare files t).1 ∧ (r.prepare files' t).2.cache.crash = none := by
  have hall := (prepare_stays ht files).trans hstay
  obtain ⟨u, hu, -⟩ := (hs.sound.index t id).1 ht
  obtain ⟨v, hv, huv⟩ := hall.units id u hu
  have hinner : World.isInnerUnit r id = World.isInnerUnit s id := by
    simp only [World.isInnerUnit, hu, hv, Option.any_some, huv.isInner]
  rw [prepare_cached ht] at hstay hdone ⊢
  rw [prepare_cached (hall.index t id ht), hinner]
  split
  · exact ⟨rfl, hr⟩
  · next hi =>
    rw [if_neg hi] at hstay hdone
    have hlater : (s.loadInner files id).cache.Stays s.options.decompileInnerClasses r.cache ∧
        ((s.loadInner files id).build id).2.cache.crash = none := by
      have hbuilt := build_stays (s.loadInner files id) id s.options.decompileInnerClasses
      rcases hb : (s.loadInner files id).build id with ⟨x, s'⟩
      rw [hb] at hstay hbuilt hdone
      cases x <;> exact ⟨hbuilt.trans hstay, hdone⟩
    obtain ⟨hlater, hdone⟩ := hlater
    -- the nest of the unit is expanded already
    have hagain : r.loadInner files' id = r := by
      unfold loadInner
      split
      · next hnest =>
        rw [ho] at hnest
        obtain ⟨x, hx, hl⟩ := loadInner_final hs hc (Cache.unit?_lt hu) files .refl
        obtain ⟨y, hy, hxy⟩ := hlater.units id x hx
        have hyl := (hxy.nest hl).2 hnest
        rw [Cache.loadInnerClasses, Cache.loadPending_expanded hy hyl, Cache.loadPending]
      · rfl
    have hnaming : r.naming = (s.loadInner files id).naming := by
      rw [hn]
      unfold loadInner
      split <;> rfl
    have hsame : (r.build id).1 = ((s.loadInner files id).build id).1 ∧ (r.build id).2.cache.crash = none := by
      refine build_again (loadInner_alive hdone) hr hdone hlater.length_le (buildModel_congr hnaming fun j hj => ?_)
      obtain ⟨x, hx, hl⟩ := loadInner_final hs hc (Cache.unit?_lt hu) files hj
      obtain ⟨y, hy, hxy⟩ := hlater.units j x hx
      exact ⟨x, y, hx, hy, hxy.isReleased, hxy.classFile, (hxy.nest hl).1⟩
    rw [hagain]
    rcases hb : (s.loadInner files id).build id with ⟨x, s'⟩
    rcases hb' : r.build id with ⟨x', r'⟩
    rw [hb, hb'] at hsame
    obtain ⟨heq, hend⟩ := hsame
    cases heq
    cases x <;> exact ⟨rfl, hend⟩

end Session

end ClassSkeleton
