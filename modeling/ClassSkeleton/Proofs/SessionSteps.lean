import ClassSkeleton.Proofs.NestModels

/-
  ClassSkeleton.Proofs.SessionSteps — the steps a session takes.

  A session changes in five ways: an operation on its cache, the note of one that failed, naming, the analysis
  of a unit, and the mark of a unit whose model is at hand. The sessions that one `Reaches` by such steps have sound caches, faithful to
  the files, and in each of them the units of the one before are as they were or released
  (`Reaches.advances`): analysis and marks set the state of a unit, but neither gets to one that is released.

  Preparing a candidate or a class file and finishing a candidate are sequences of steps. A model that comes
  out of a preparation is that of the type's unit in a session on the way, where it shows the unit
  (`Portrays`).
-/

namespace ClassSkeleton

open Relation

namespace Session

/-- One change of a session, over files among those seen. -/
inductive Step (seen : FileTree → Prop) (s : Session) : Session → Prop where
  | cache {files : FileTree} (hf : seen files) (op : Cache.Op) : Step seen s { s with cache := s.cache.perform files op }
  | failed (e : LoadError) : Step seen s { s with cache := s.cache.failed e }
  | name (ids : List UnitId) : Step seen s (s.resolveNames ids)
  | analyse (id : UnitId) : Step seen s (s.analyse id).2
  | dumped {id : UnitId} {m : ClassModel} (h : s.model id = .ok m) : Step seen s (s.markDumped id)

def Reaches (seen : FileTree → Prop) : Session → Session → Prop := ReflTransGen (Step seen)

variable {seen : FileTree → Prop} {files : FileTree} {s s' s'' : Session} {id : UnitId} {m : ClassModel}

theorem Reaches.refl (s : Session) : Reaches seen s s := ReflTransGen.refl

theorem Reaches.trans (h : Reaches seen s s') (h' : Reaches seen s' s'') : Reaches seen s s'' := ReflTransGen.trans h h'

theorem Step.reaches (h : Step seen s s') : Reaches seen s s' := ReflTransGen.single h

/-! ## What a step keeps -/

/-- A new state, other than released, for a unit that is not released. -/
theorem advances_state (hs : s.cache.Sound) (hf : s.cache.Faithful seen) {g : ClassUnit → ClassUnit}
    (hu : ∀ u, s.cache.unit? id = some u → u.isReleased = false)
    (hg : ∀ u, (g u).type = u.type ∧ (g u).origin = u.origin ∧ (g u).isInner = u.isInner ∧
      (g u).isReleased = false ∧ (g u).classFile = u.classFile ∧ (g u).innerUnits = u.innerUnits) :
    s.cache.Advances seen (s.cache.modify id g) := by
  refine .modify hs hf fun u h => ?_
  obtain ⟨ht, ho, hi, hr, hc, hn⟩ := hg u
  refine ⟨⟨ht, ho, hi, .inl ⟨by rw [hr, hu u h], hc⟩⟩, fun j hj => .inl ?_⟩
  rw [hn] at hj
  exact hj

theorem model_unreleased (h : s.model id = .ok m) {u : ClassUnit} (hu : s.cache.unit? id = some u) :
    u.isReleased = false := by
  simp only [model, hu] at h
  split at h
  · cases h
  · next hr => simpa using hr

theorem Step.advances (hs : s.cache.Sound) (hf : s.cache.Faithful seen) (h : Step seen s s') :
    s.cache.Advances seen s'.cache ∧ s'.options = s.options := by
  cases h with
  | cache hfiles op => exact ⟨.perform hs hf hfiles op, rfl⟩
  | failed e => exact ⟨.failed hs hf e, rfl⟩
  | name ids => exact ⟨.refl hs hf, rfl⟩
  | analyse id =>
    unfold Session.analyse
    split
    · exact ⟨.refl hs hf, rfl⟩
    · exact ⟨.crash hs hf _, rfl⟩
    · next m hm =>
      -- a model was built, so the unit was not released before its state is set
      obtain ⟨v, hv, hr⟩ := (buildModel_ok hm).unreleased
      refine ⟨advances_state hs hf (fun u hu => ?_) fun u => ⟨rfl, rfl, rfl, rfl, rfl, rfl⟩, rfl⟩
      rw [hv] at hu
      cases hu
      exact hr
  | dumped h =>
    exact ⟨advances_state hs hf (fun u hu => model_unreleased h hu) fun u => ⟨rfl, rfl, rfl, rfl, rfl, rfl⟩, rfl⟩

theorem Reaches.advances (h : Reaches seen s s') (hs : s.cache.Sound) (hf : s.cache.Faithful seen) :
    s.cache.Advances seen s'.cache ∧ s'.options = s.options := by
  induction h with
  | refl => exact ⟨.refl hs hf, rfl⟩
  | tail _ hstep ih =>
    obtain ⟨ha, ho⟩ := ih
    obtain ⟨ha', ho'⟩ := hstep.advances ha.sound ha.faithful
    exact ⟨ha.trans ha', ho'.trans ho⟩

theorem addRoots_advances (hseen : seen files) (paths : List Path) {c d : Cache} (hs : c.Sound) (hf : c.Faithful seen)
    (h : addRoots files paths c = .ok d) : c.Advances seen d := by
  induction paths generalizing c with
  | nil =>
    cases h
    exact .refl hs hf
  | cons p ps ih =>
    have hp := Cache.Advances.addClasspath hs hf hseen p
    simp only [addRoots] at h
    split at h
    · next c' hc =>
      rw [hc] at hp
      exact hp.trans (ih hp.sound hp.faithful h)
    · cases h

/-- A session starts with a good cache. -/
theorem start_good {options : Options} (hseen : seen files) (h : Session.start files options = .ok s) :
    s.cache.Sound ∧ s.cache.Faithful seen := by
  simp only [start] at h
  split at h
  · next c hc =>
    cases h
    have ha := addRoots_advances hseen _ Cache.empty_sound (Cache.empty_faithful seen) hc
    exact ⟨ha.sound, ha.faithful⟩
  · cases h

/-! ## Sequences of steps -/

/-- An operation on the cache and the note of its failure, if it failed. -/
theorem settled_reaches {α : Type} {r : Except LoadError α × Cache} (h : Reaches seen s { s with cache := r.2 }) :
    Reaches seen s { s with cache := .settled r } := by
  rcases r with ⟨e | a, c⟩
  · exact h.trans (Step.failed e).reaches
  · exact h

theorem loadInner_reaches (hseen : seen files) (s : Session) (id : UnitId) : Reaches seen s (s.loadInner files id) := by
  unfold loadInner
  split
  · exact (Step.cache hseen (.loadInnerClasses id)).reaches
  · exact .refl s

theorem nameLoaded_reaches (s : Session) : Reaches seen s s.nameLoaded := by
  unfold nameLoaded
  split
  · exact (Step.name _).reaches
  · exact .refl s

theorem nameBatch_reaches (s : Session) (candidates : List TypeName) : Reaches seen s (s.nameBatch candidates) := by
  unfold nameBatch
  split
  · exact (Step.name _).reaches
  · exact .refl s

theorem build_snd (s : Session) (id : UnitId) :
    (s.build id).2 = if s.cache.crash.isSome then s else (s.analyse id).2 := by
  unfold build
  split
  · rfl
  · rcases s.analyse id with ⟨r, s₁⟩
    cases r <;> rfl

theorem build_reaches (s : Session) (id : UnitId) : Reaches seen s (s.build id).2 := by
  rw [build_snd]
  split
  · exact .refl s
  · exact (Step.analyse id).reaches

/-- The model that is looked up after an analysis is the one it built. -/
theorem build_ok (h : s.build id = (.ok m, s')) : s.Shows id m ∧ s'.model id = .ok m := by
  simp only [build, analyse] at h
  split at h
  · cases h
  split at h
  · cases h
  · next s₁ ha =>
    split at ha
    · cases ha
    · cases ha
    · next built hb =>
      cases ha
      obtain ⟨u, hu, -⟩ := (buildModel_ok hb).unreleased
      simp only [Prod.mk.injEq] at h
      obtain ⟨hm, rfl⟩ := h
      have hlook : { s with cache := s.cache.modify id fun u => { u with model := some built, state := .analysed }
          : Session }.model id = .ok built := by
        have hu' : s.cache.units[id]? = some u := hu
        simp only [model, Cache.unit?, Cache.modify, List.getElem?_modify, hu']
        rfl
      rw [hlook] at hm
      cases hm
      exact ⟨buildModel_ok hb, hlook⟩

theorem finishMember_reaches (hseen : seen files) (h : s.model id = .ok m) : Reaches seen s (s.finishMember id) := by
  have hmark : Reaches seen s (s.markDumped id) := (Step.dumped h).reaches
  unfold finishMember
  dsimp only
  split
  · exact hmark.trans (Step.cache hseen (.releaseHeavyState id)).reaches
  · exact hmark

/-! ## Preparations -/

/-- The model is that of the type's unit in a session on the way from one to the other. -/
def Portrays (seen : FileTree → Prop) (s : Session) (t : TypeName) (m : ClassModel) (s' : Session) : Prop :=
  ∃ between id, Reaches seen s between ∧ Reaches seen between s' ∧ between.cache.get? t = some id ∧ between.Shows id m

theorem Portrays.later {t : TypeName} (h : Portrays seen s t m s') (h' : Reaches seen s' s'') :
    Portrays seen s t m s'' := by
  obtain ⟨between, id, hb, ha, ht, hm⟩ := h
  exact ⟨between, id, hb, ha.trans h', ht, hm⟩

theorem Portrays.earlier {t : TypeName} (h : Reaches seen s s') (h' : Portrays seen s' t m s'') :
    Portrays seen s t m s'' := by
  obtain ⟨between, id, hb, ha, ht, hm⟩ := h'
  exact ⟨between, id, h.trans hb, ha, ht, hm⟩

/-- A candidate is prepared by steps; a model that comes of it portrays the type, and is at hand then. -/
theorem prepare_steps (hseen : seen files) (hs : s.cache.Sound) (hf : s.cache.Faithful seen) {t : TypeName}
    {p : Preparation} (h : s.prepare files t = (p, s')) :
    Reaches seen s s' ∧ ∀ id m, p = .built id m → Portrays seen s t m s' ∧ s'.model id = .ok m := by
  have hop : Reaches seen s { s with cache := .settled (Cache.resolveByIdentity files t s.cache) } :=
    settled_reaches (Step.cache hseen (.resolveByIdentity t)).reaches
  obtain ⟨ha, hid⟩ := Cache.Advances.resolveByIdentity files hs hf hseen t
  simp only [prepare] at h
  rcases hc : Cache.resolveByIdentity files t s.cache with ⟨r, c⟩
  rw [hc] at h hop ha hid
  cases r with
  | error e =>
    cases h
    exact ⟨hop, fun _ _ hp => by cases hp⟩
  | ok found =>
    dsimp only at h
    split at h
    · cases h
      exact ⟨hop, fun _ _ hp => by cases hp⟩
    · have hl := loadInner_reaches hseen { s with cache := c } found
      have hi := (hl.advances ha.sound ha.faithful).1.evolves.index t found (hid found rfl)
      have hb : Reaches seen _ _ := build_reaches ({ s with cache := c : Session }.loadInner files found) found
      rcases hx : Session.build _ found with ⟨r, s₁⟩
      rw [hx] at h hb
      cases r with
      | error e =>
        cases h
        exact ⟨(hop.trans hl).trans hb, fun _ _ hp => by cases hp⟩
      | ok built =>
        cases h
        obtain ⟨hshow, hmodel⟩ := build_ok hx
        refine ⟨(hop.trans hl).trans hb, fun id m hp => ?_⟩
        cases hp
        exact ⟨⟨_, _, hop.trans hl, hb, hi, hshow⟩, hmodel⟩

/-- So is a class file; of its model the methods that are asked for are taken. -/
theorem prepareUnit_steps (hseen : seen files) (hs : s.cache.Sound) (hf : s.cache.Faithful seen) {path : Path}
    {skipIfInner : Bool} {p : UnitPreparation} (h : s.prepareUnit files path skipIfInner = (p, s')) :
    Reaches seen s s' ∧ ∀ t id m methods, p = .built t id m methods →
      Portrays seen s t m s' ∧ s'.model id = .ok m ∧ s'.wantedMethods m = .ok methods := by
  have hop : Reaches seen s { s with cache := .settled (Cache.resolveByPath files path s.cache) } :=
    settled_reaches (Step.cache hseen (.resolveByPath path)).reaches
  obtain ⟨ha, hid⟩ := Cache.Advances.resolveByPath files hs hf hseen path
  simp only [prepareUnit] at h
  rcases hc : Cache.resolveByPath files path s.cache with ⟨r, c⟩
  rw [hc] at h hop ha hid
  cases r with
  | error e =>
    cases h
    exact ⟨hop, fun _ _ _ _ hp => by cases hp⟩
  | ok byPath =>
    obtain ⟨u, hu, ht⟩ := hid byPath rfl
    dsimp only at h hu ht
    rw [hu] at h
    dsimp only at h
    split at h
    · cases h
      exact ⟨hop, fun _ _ _ _ hp => by cases hp⟩
    -- the class was just found by its path, so its type is found at once
    have hagain : { s with cache := c : Session }.identify files u.type byPath = (.ok byPath, { s with cache := c }) := by
      simp only [identify, Cache.resolveByIdentity_of_get? ht]
    rw [hagain] at h
    dsimp only at h
    have hl := (loadInner_reaches hseen { s with cache := c } byPath).trans (nameLoaded_reaches _)
    have hi := (hl.advances ha.sound ha.faithful).1.evolves.index u.type byPath ht
    have hb : Reaches seen _ _ := build_reaches ({ s with cache := c : Session }.loadInner files byPath).nameLoaded byPath
    rcases hy : Session.build _ byPath with ⟨r, s₂⟩
    rw [hy] at h hb
    cases r with
    | error e =>
      cases h
      exact ⟨(hop.trans hl).trans hb, fun _ _ _ _ hp => by cases hp⟩
    | ok built =>
      dsimp only at h
      split at h
      · cases h
        exact ⟨(hop.trans hl).trans hb, fun _ _ _ _ hp => by cases hp⟩
      · next found hw =>
        cases h
        obtain ⟨hshow, hmodel⟩ := build_ok hy
        refine ⟨(hop.trans hl).trans hb, fun t id m methods hp => ?_⟩
        cases hp
        exact ⟨⟨_, _, hop.trans hl, hb, hi, hshow⟩, hmodel, hw⟩

end Session

end ClassSkeleton
