import ClassSkeleton.Proofs.Phases

/-
  ClassSkeleton.Proofs.SessionLikeness — what the work on a candidate depends on.

  Loading reads the archive and, below directories, the files under the names of types; two trees that
  agree on these are `SameClasses`, and nothing that is prepared from them differs. Of the state of a unit
  only one thing matters later, whether it was released. `blur` forgets the rest, so the sessions after a
  unit was analysed and after it was dumped are blurred to the same. Preparing a candidate in a session
  and in the blurred one comes to the same preparation, and to sessions that are blurred to the same
  (`prepare_blur`): it makes no difference to a candidate how far those before it came.
-/

namespace ClassSkeleton

/-! ## The files -/

/-- Trees that loading cannot tell apart. -/
structure FileTree.SameClasses (archive : Path) (f g : FileTree) : Prop where
  archive : f.stat archive = g.stat archive
  /-- The class file of a type, if there is one, is the same below every directory. -/
  classes : ∀ (dir : Path) (t : TypeName),
    (f.read (dir.join ⟨t.entryPath⟩)).toOption = (g.read (dir.join ⟨t.entryPath⟩)).toOption

namespace FileTree.SameClasses

variable {archive : Path} {f g k : FileTree}

theorem refl (archive : Path) (f : FileTree) : SameClasses archive f f := ⟨rfl, fun _ _ => rfl⟩

theorem symm (h : SameClasses archive f g) : SameClasses archive g f :=
  ⟨h.archive.symm, fun dir t => (h.classes dir t).symm⟩

theorem trans (h : SameClasses archive f g) (h' : SameClasses archive g k) : SameClasses archive f k :=
  ⟨h.archive.trans h'.archive, fun dir t => (h.classes dir t).trans (h'.classes dir t)⟩

end FileTree.SameClasses

/-- A directory that has no file under the name has nothing there; it never fails. -/
theorem ClassRoot.find_directory (files : FileTree) (entry : String) (dir : Path) :
    (ClassRoot.directory dir).find files entry =
      .ok ((files.read (dir.join ⟨entry⟩)).toOption.map fun bytes => (bytes, .file (dir.join ⟨entry⟩))) := by
  unfold ClassRoot.find FileTree.isFile FileTree.read
  dsimp only
  rcases files.stat (dir.join ⟨entry⟩) with e | (bytes | _) <;> rfl

namespace Cache

/-! The three ways a pending unit goes. -/

theorem loadPending_absent {c : Cache} {id : UnitId} (hu : c.unit? id = none) (files : FileTree) (rest : List UnitId) :
    loadPending files (id :: rest) c = loadPending files rest c := by
  rw [loadPending.eq_def]
  dsimp only
  split
  · rfl
  · next h => rw [hu] at h; cases h

theorem loadPending_expanded {c : Cache} {id : UnitId} {u : ClassUnit} (hu : c.unit? id = some u)
    (hl : u.innerLoaded = true) (files : FileTree) (rest : List UnitId) :
    loadPending files (id :: rest) c = loadPending files rest c := by
  rw [loadPending.eq_def]
  dsimp only
  split
  · rfl
  · next h => rw [hu] at h; cases h; rw [dif_pos hl]

theorem loadPending_expand {c : Cache} {id : UnitId} {u : ClassUnit} (hu : c.unit? id = some u)
    (hl : ¬ u.innerLoaded = true) (files : FileTree) (rest : List UnitId) :
    loadPending files (id :: rest) c =
      let resolved := resolveAll files id (u.classFile.declaredInner.map (·.inner)) c
      loadPending files (resolved.1 ++ rest) (resolved.2.setInner id resolved.1) := by
  rw [loadPending.eq_def]
  dsimp only
  split
  · next h => rw [hu] at h; cases h
  · next h => rw [hu] at h; cases h; rw [dif_neg hl]

end Cache

section Congruence

variable {archive : Path} {f g : FileTree} (h : f.SameClasses archive g)

include h

theorem findOnRoots_congr (t : TypeName) (roots : List ClassRoot) : findOnRoots f t roots = findOnRoots g t roots := by
  induction roots with
  | nil => rfl
  | cons r rest ih =>
    have hr : r.find f t.entryPath = r.find g t.entryPath := by
      cases r with
      | directory dir => rw [ClassRoot.find_directory, ClassRoot.find_directory, h.classes]
      | archive a => rfl
    simp only [findOnRoots, hr, ih]

namespace Cache

theorem resolveByIdentity_congr (t : TypeName) (c : Cache) : resolveByIdentity f t c = resolveByIdentity g t c := by
  simp only [resolveByIdentity, findOnRoots_congr h]

theorem resolveAll_congr (self : UnitId) (ts : List TypeName) (c : Cache) :
    resolveAll f self ts c = resolveAll g self ts c := by
  induction ts generalizing c with
  | nil => rfl
  | cons t ts ih => simp only [resolveAll, resolveByIdentity_congr h, ih]

theorem loadPending_congr (pending : List UnitId) (c : Cache) : loadPending f pending c = loadPending g pending c := by
  fun_induction loadPending f pending c with
  | case1 c => rw [loadPending]
  | case2 c id rest hu ih => rw [ih, loadPending_absent hu]
  | case3 c id rest u hu hl ih => rw [ih, loadPending_expanded hu hl]
  | case4 c id rest u hu hl resolved ih => rw [ih, loadPending_expand hu hl, ← resolveAll_congr h]

theorem loadArchive_congr (c : Cache) : loadArchive f archive c = loadArchive g archive c := by
  simp only [loadArchive, ClassArchive.load, h.archive]

end Cache

theorem Session.prepare_congr (s : Session) (t : TypeName) : s.prepare f t = s.prepare g t := by
  simp only [prepare, Cache.resolveByIdentity_congr h, loadInner, Cache.loadInnerClasses, Cache.loadPending_congr h]

end Congruence

/-! ## The state of units -/

namespace ClassUnit

/-- The unit as if it was only loaded, unless it was released. -/
def blur (u : ClassUnit) : ClassUnit := { u with state := if u.isReleased then .released else .loaded }

@[simp] theorem blur_isReleased (u : ClassUnit) : u.blur.isReleased = u.isReleased := by
  unfold blur isReleased
  cases u.state <;> rfl

@[simp] theorem blur_blur (u : ClassUnit) : u.blur.blur = u.blur := by
  have h := u.blur_isReleased
  rw [blur, h]
  rfl

@[simp] theorem blur_ofClassFile (c : ClassFile) (origin : Origin) :
    (ofClassFile c origin).blur = ofClassFile c origin := rfl

end ClassUnit

namespace Cache

def blur (c : Cache) : Cache := { c with units := c.units.map ClassUnit.blur }

@[simp] theorem blur_roots (c : Cache) : c.blur.roots = c.roots := rfl
@[simp] theorem blur_get? (c : Cache) (t : TypeName) : c.blur.get? t = c.get? t := rfl
@[simp] theorem blur_crash (c : Cache) : c.blur.crash = c.crash := rfl
@[simp] theorem blur_failed (c : Cache) (e : LoadError) : c.blur.failed e = (c.failed e).blur := rfl
@[simp] theorem blur_length (c : Cache) : c.blur.units.length = c.units.length := List.length_map ..
@[simp] theorem blur_unit? (c : Cache) (id : UnitId) : c.blur.unit? id = (c.unit? id).map ClassUnit.blur :=
  List.getElem?_map ..

@[simp] theorem blur_blur (c : Cache) : c.blur.blur = c.blur := by
  simp only [blur, List.map_map]
  congr 1
  exact List.map_congr_left fun u _ => u.blur_blur

theorem blur_insert (c : Cache) (u : ClassUnit) : (c.insert u).blur = c.blur.insert u.blur := by
  simp [blur, insert, ClassUnit.blur]

theorem blur_modify (c : Cache) (id : UnitId) {f g : ClassUnit → ClassUnit} (h : ∀ u, (f u).blur = g u.blur) :
    (c.modify id f).blur = c.blur.modify id g := by
  simp only [blur, modify]
  congr 1
  refine List.ext_getElem? fun i => ?_
  simp only [List.getElem?_map, List.getElem?_modify]
  by_cases hi : id = i <;> rcases c.units[i]? with _ | u <;> simp [hi, h]

/-- A change that is blurred away. -/
theorem blur_modify_self (c : Cache) (id : UnitId) {f : ClassUnit → ClassUnit}
    (h : ∀ u, c.unit? id = some u → (f u).blur = u.blur) : (c.modify id f).blur = c.blur := by
  simp only [blur, modify]
  congr 1
  refine List.ext_getElem? fun i => ?_
  simp only [List.getElem?_map, List.getElem?_modify]
  by_cases hi : id = i
  · subst hi
    rcases hu : c.units[id]? with _ | u
    · simp
    · simp [h u hu]
  · simp [hi]

theorem resolveByIdentity_blur (files : FileTree) (t : TypeName) (c : Cache) :
    resolveByIdentity files t c.blur = ((resolveByIdentity files t c).1, (resolveByIdentity files t c).2.blur) := by
  simp only [resolveByIdentity, blur_get?, blur_roots, blur_length]
  rcases c.get? t with _ | id
  · rcases findOnRoots files t c.roots with e | (_ | ⟨d, origin⟩)
    · rfl
    · rfl
    · simp only [blur_insert, ClassUnit.blur_ofClassFile]
  · rfl

theorem resolveAll_blur (files : FileTree) (self : UnitId) (ts : List TypeName) (c : Cache) :
    resolveAll files self ts c.blur = ((resolveAll files self ts c).1, (resolveAll files self ts c).2.blur) := by
  induction ts generalizing c with
  | nil => rfl
  | cons t ts ih =>
    simp only [resolveAll, resolveByIdentity_blur]
    rcases resolveByIdentity files t c with ⟨r, d⟩
    cases r <;> simp only [blur_failed, ih]

theorem blur_setInner (c : Cache) (id : UnitId) (found : List UnitId) :
    (c.setInner id found).blur = c.blur.setInner id found := blur_modify c id fun _ => rfl

theorem loadPending_blur (files : FileTree) (pending : List UnitId) (c : Cache) :
    loadPending files pending c.blur = (loadPending files pending c).blur := by
  fun_induction loadPending files pending c with
  | case1 c => rw [loadPending]
  | case2 c id rest hu ih => rw [← ih, loadPending_absent (by rw [blur_unit?, hu]; rfl)]
  | case3 c id rest u hu hl ih => rw [← ih, loadPending_expanded (u := u.blur) (by rw [blur_unit?, hu]; rfl) hl]
  | case4 c id rest u hu hl resolved ih =>
    have hb : c.blur.unit? id = some u.blur := by rw [blur_unit?, hu]; rfl
    rw [loadPending_expand hb hl, resolveAll_blur]
    dsimp only
    rw [← blur_setInner]
    exact ih

end Cache

namespace Session

def blur (s : Session) : Session := { s with cache := s.cache.blur }

@[simp] theorem blur_blur (s : Session) : s.blur.blur = s.blur := by simp [blur]

theorem buildModel_blur (s : Session) (depth : Nat) (id : UnitId) :
    s.blur.buildModel depth id = s.buildModel depth id := by
  induction depth generalizing id with
  | zero => rfl
  | succ depth ih =>
    have hn : s.blur.buildModel depth = s.buildModel depth := funext ih
    have hu : s.blur.cache.unit? id = (s.cache.unit? id).map ClassUnit.blur := s.cache.blur_unit? id
    simp only [buildModel, modelAround, hn, hu]
    rcases s.cache.unit? id with _ | u
    · rfl
    · simp only [Option.map_some, ClassUnit.blur_isReleased]
      rfl

theorem model_blur (s : Session) (id : UnitId) : s.blur.model id = s.model id := by
  simp only [model, blur, Cache.blur_unit?]
  rcases s.cache.unit? id with _ | u
  · rfl
  · simp only [Option.map_some, ClassUnit.blur_isReleased]
    rfl

theorem analyse_blur (s : Session) (id : UnitId) :
    (s.blur.analyse id).1 = (s.analyse id).1 ∧ (s.blur.analyse id).2.blur = (s.analyse id).2.blur := by
  have hb : s.blur.buildModel (s.blur.cache.units.length + 1) id = s.buildModel (s.cache.units.length + 1) id := by
    rw [buildModel_blur]
    exact congrArg (fun n => s.buildModel (n + 1) id) s.cache.blur_length
  simp only [analyse, hb]
  rcases s.buildModel (s.cache.units.length + 1) id with (e | _) | m
  · exact ⟨rfl, s.blur_blur⟩
  · exact ⟨rfl, blur_blur { s with cache := s.cache.crashed .recursion }⟩
  · refine ⟨rfl, ?_⟩
    have hm (c : Cache) := c.blur_modify id (f := fun u => { u with model := some m, state := .analysed })
      (g := fun u => { u with model := some m, state := .loaded }) fun _ => rfl
    simp only [blur, hm, Cache.blur_blur]

theorem build_blur (s : Session) (id : UnitId) :
    (s.blur.build id).1 = (s.build id).1 ∧ (s.blur.build id).2.blur = (s.build id).2.blur := by
  obtain ⟨hr, hs⟩ := s.analyse_blur id
  have hcrash : s.blur.cache.crash = s.cache.crash := rfl
  simp only [build, hcrash]
  split
  · exact ⟨rfl, s.blur_blur⟩
  rcases ha : s.analyse id with ⟨r, s₁⟩
  rcases hb : s.blur.analyse id with ⟨r', s₂⟩
  rw [ha, hb] at hr hs
  cases hr
  cases r with
  | error e => exact ⟨rfl, hs⟩
  | ok a =>
    have hm : s₂.model id = s₁.model id := by rw [← model_blur, hs, model_blur]
    exact ⟨hm, hs⟩

theorem loadInner_blur (s : Session) (files : FileTree) (id : UnitId) :
    s.blur.loadInner files id = (s.loadInner files id).blur := by
  have ho : s.blur.options = s.options := rfl
  simp only [loadInner, ho]
  split
  · simp only [blur, Cache.loadInnerClasses, Cache.loadPending_blur]
  · rfl

theorem isInnerUnit_blur (s : Session) (id : UnitId) : World.isInnerUnit s.blur id = World.isInnerUnit s id := by
  simp only [World.isInnerUnit, blur, Cache.blur_unit?]
  rcases s.cache.unit? id with _ | u <;> rfl

/-- How far the units loaded before have come makes no difference to a candidate. -/
theorem prepare_blur (s : Session) (files : FileTree) (t : TypeName) :
    (s.blur.prepare files t).1 = (s.prepare files t).1 ∧
      (s.blur.prepare files t).2.blur = (s.prepare files t).2.blur := by
  simp only [prepare]
  have hc : Cache.resolveByIdentity files t s.blur.cache = _ := Cache.resolveByIdentity_blur files t s.cache
  rw [hc]
  rcases Cache.resolveByIdentity files t s.cache with ⟨r, c⟩
  cases r with
  | error e => exact ⟨rfl, blur_blur { s with cache := c.failed e }⟩
  | ok id =>
    dsimp only
    have hb : { s.blur with cache := c.blur } = { s with cache := c : Session }.blur := rfl
    rw [hb, isInnerUnit_blur, loadInner_blur]
    split
    · exact ⟨rfl, blur_blur _⟩
    · obtain ⟨hr, hs⟩ := ({ s with cache := c : Session }.loadInner files id).build_blur id
      generalize ({ s with cache := c : Session }.loadInner files id) = s₀ at *
      rcases hx : s₀.blur.build id with ⟨r₁, s₁⟩
      rcases hy : s₀.build id with ⟨r₂, s₂⟩
      rw [hx, hy] at hr hs
      cases hr
      cases r₁ <;> exact ⟨rfl, hs⟩

/-- Sessions blurred to the same prepare a candidate alike. -/
theorem prepare_alike {s₁ s₂ : Session} (h : s₁.blur = s₂.blur) (files : FileTree) (t : TypeName) :
    (s₁.prepare files t).1 = (s₂.prepare files t).1 ∧ (s₁.prepare files t).2.blur = (s₂.prepare files t).2.blur := by
  have h₁ := s₁.prepare_blur files t
  have h₂ := s₂.prepare_blur files t
  rw [h] at h₁
  exact ⟨h₁.1.symm.trans h₂.1, h₁.2.symm.trans h₂.2⟩

theorem build_options (s : Session) (id : UnitId) : (s.build id).2.options = s.options := by
  simp only [build, analyse]
  split
  · rfl
  · rcases s.buildModel (s.cache.units.length + 1) id with (e | _) | m <;> rfl

theorem prepare_options (s : Session) (files : FileTree) (t : TypeName) :
    (s.prepare files t).2.options = s.options := by
  simp only [prepare]
  rcases Cache.resolveByIdentity files t s.cache with ⟨r, c⟩
  cases r with
  | error e => rfl
  | ok id =>
    dsimp only
    split
    · rfl
    · have hl : ({ s with cache := c : Session }.loadInner files id).options = s.options := by
        unfold loadInner
        split <;> rfl
      have hb := build_options ({ s with cache := c : Session }.loadInner files id) id
      rcases hx : Session.build _ id with ⟨r, s'⟩
      rw [hx] at hb
      cases r <;> exact hb.trans hl

/-- A unit whose model was built is not released. -/
theorem build_unreleased {s s' : Session} {id : UnitId} {m : ClassModel} (h : s.build id = (.ok m, s')) {u : ClassUnit}
    (hu : s'.cache.unit? id = some u) : u.isReleased = false := by
  simp only [build] at h
  split at h
  · cases h
  rcases ha : s.analyse id with ⟨r, s₁⟩
  rw [ha] at h
  cases r with
  | error e => cases h
  | ok a =>
    simp only [Prod.mk.injEq] at h
    obtain ⟨hm, rfl⟩ := h
    simp only [model, hu] at hm
    split at hm
    · cases hm
    · next hr => simpa using hr

theorem prepare_unreleased {s s' : Session} {files : FileTree} {t : TypeName} {id : UnitId} {m : ClassModel}
    (h : s.prepare files t = (.built id m, s')) {u : ClassUnit} (hu : s'.cache.unit? id = some u) :
    u.isReleased = false := by
  simp only [prepare] at h
  rcases hc : Cache.resolveByIdentity files t s.cache with ⟨r, c⟩
  rw [hc] at h
  cases r with
  | error e => cases h
  | ok id' =>
    dsimp only at h
    split at h
    · cases h
    · rcases hb : Session.build _ id' with ⟨r, s₁⟩
      rw [hb] at h
      cases r with
      | error e => cases h
      | ok m' => cases h; exact build_unreleased hb hu

/-- With memory to spare, what comes after writing a candidate is blurred away. -/
theorem finishMember_blur {s : Session} {id : UnitId} (hl : s.options.lowMemory = false)
    (hu : ∀ u, s.cache.unit? id = some u → u.isReleased = false) : (s.finishMember id).blur = s.blur := by
  have hd : (s.cache.modify id fun u => { u with state := .dumped }).blur = s.cache.blur := by
    refine s.cache.blur_modify_self id fun u h => ?_
    simp only [ClassUnit.blur, hu u h]
    rfl
  have hf : s.finishMember id = s.markDumped id := by
    unfold finishMember
    rw [if_neg]
    exact fun h => by simp [markDumped, hl] at h
  rw [hf]
  simp only [blur, markDumped, hd]

end Session

end ClassSkeleton
