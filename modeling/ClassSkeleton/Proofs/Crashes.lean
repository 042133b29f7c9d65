import ClassSkeleton.Proofs.NestModels

/-
  ClassSkeleton.Proofs.Crashes — what a crash comes of.

  The program crashes in two ways. It makes a buffer for an entry of an archive that is larger than any buffer
  (`ClassArchive.Oversized`), or it builds a model and gets round in a circle of units nested in each other. So
  a crash says something about the cache (`Crash.ComesOf`). Loading leaves a crash as it is, unless it meets such
  an entry on the roots (`Cache.loadPending_crash`); the work on a candidate that began with a running program and
  ended with a crash met one of the two (`Session.prepare_crashed`).
-/

namespace ClassSkeleton

open Relation

/-- An entry has more bytes than a buffer can have, by what the table says. -/
def ClassArchive.Oversized (a : ClassArchive) : Prop := ∃ e ∈ a.entries, maxCapacity < e.size

/-- An archive with such an entry is among the roots. -/
def Cache.Overloaded (c : Cache) : Prop := ∃ a, .archive a ∈ c.roots ∧ a.Oversized

/-- What the program crashed of. -/
def Crash.ComesOf (c : Cache) : Crash → Prop
  | capacity => c.Overloaded
  | recursion => ¬ c.NestsAcyclic

/-! ## Files and archives -/

theorem FileTree.walk_ne_capacity (t : FileTree) (names : List String) (from' : Place) :
    t.walk from' names ≠ .error .capacity := by
  induction names generalizing from' with
  | nil => exact nofun
  | cons s rest ih =>
    unfold walk
    repeat' split
    all_goals first | exact ih _ | simp

theorem FileTree.segments_ne_capacity (p : Path) : segments p ≠ .error .capacity := by
  unfold segments
  repeat' split
  all_goals simp

theorem FileTree.stat_ne_capacity (t : FileTree) (p : Path) : t.stat p ≠ .error .capacity := by
  simp only [stat, place, bind, Except.bind]
  intro h
  split at h
  · next e hw =>
    cases h
    split at hw
    · next hs => cases hw; exact segments_ne_capacity p hs
    · exact t.walk_ne_capacity _ _ hw
  · split at h <;> cases h

namespace LoadError

theorem crash?_eq_some {e : LoadError} {cause : Crash} :
    e.crash? = some cause ↔ cause = .capacity ∧ ∃ path, e = .io path .capacity := by
  cases e with
  | io path io => cases io <;> cases cause <;> simp [crash?]
  | _ => cases cause <;> simp [crash?]

end LoadError

namespace ClassArchive

theorem unpack_ne_capacity (a : ClassArchive) (e : Archive.Entry) (start : Nat) : a.unpack e start ≠ .error .capacity := by
  unfold unpack
  dsimp only
  split
  · exact nofun
  · exact nofun
  · split <;> exact nofun

theorem read_crash {a : ClassArchive} {name : String} {path : Path} (h : a.read name = .error (.io path .capacity)) :
    a.Oversized := by
  unfold read at h
  split at h
  · cases h
  next e he =>
  split at h
  · cases h
  split at h
  · next hlarge => exact ⟨e, List.mem_reverse.1 (List.mem_of_find?_eq_some he), hlarge⟩
  split at h
  · next err hu =>
    cases h
    exact absurd hu (a.unpack_ne_capacity e _)
  · cases h

end ClassArchive

theorem findOnRoots_crash {files : FileTree} {t : TypeName} {roots : List ClassRoot} {path : Path}
    (h : findOnRoots files t roots = .error (.io path .capacity)) : ∃ a, .archive a ∈ roots ∧ a.Oversized := by
  induction roots with
  | nil => cases h
  | cons r rest ih =>
    have later (h : findOnRoots files t rest = .error (.io path .capacity)) :
        ∃ a, .archive a ∈ r :: rest ∧ a.Oversized := by
      obtain ⟨a, ha, hsize⟩ := ih h
      exact ⟨a, List.mem_cons_of_mem r ha, hsize⟩
    simp only [findOnRoots] at h
    split at h
    · next e hf =>
      cases h
      cases r with
      | directory dir => rw [ClassRoot.find_directory] at hf; cases hf
      | archive a =>
        simp only [ClassRoot.find] at hf
        split at hf
        · cases hf
        · cases hf
        · next hr => cases hf; exact ⟨a, List.mem_cons_self, a.read_crash hr⟩
    · exact later h
    · split at h
      · next hp => cases h; simp only [parseAt] at hp; split at hp <;> cases hp
      · split at h
        · cases h
        · exact later h

namespace Cache

variable {files : FileTree} {c d : Cache}

/-! ## Loading -/

@[simp] theorem crash_insert (c : Cache) (u : ClassUnit) : (c.insert u).crash = c.crash := rfl

theorem resolveByIdentity_crash (files : FileTree) (t : TypeName) (c : Cache) :
    (resolveByIdentity files t c).2.crash = c.crash := by
  unfold resolveByIdentity
  repeat' split
  all_goals rfl

theorem resolveByIdentity_failed {t : TypeName} {e : LoadError} {cause : Crash}
    (h : resolveByIdentity files t c = (.error e, d)) (hc : e.crash? = some cause) :
    cause = .capacity ∧ c.Overloaded := by
  obtain ⟨rfl, path, rfl⟩ := LoadError.crash?_eq_some.1 hc
  unfold resolveByIdentity at h
  split at h
  · cases h
  · split at h <;> cases h
    next hf => exact ⟨rfl, findOnRoots_crash hf⟩

theorem resolveAll_crash (files : FileTree) (self : UnitId) (ts : List TypeName) (c : Cache) :
    (resolveAll files self ts c).2.crash = c.crash ∨
      (resolveAll files self ts c).2.crash = some .capacity ∧ c.Overloaded := by
  induction ts generalizing c with
  | nil => exact .inl rfl
  | cons t ts ih =>
    have hcrash := resolveByIdentity_crash files t c
    have hroots := (grownFrom_resolveByIdentity files t c).roots
    rcases hr : resolveByIdentity files t c with ⟨r, d⟩
    rw [hr] at hcrash hroots
    dsimp only at hcrash hroots
    have along {x : Cache} (hx : x.roots = d.roots) (h : x.Overloaded) : c.Overloaded := by
      obtain ⟨a, ha, hsize⟩ := h
      exact ⟨a, by rwa [← hroots, ← hx], hsize⟩
    cases r with
    | ok id =>
      simp only [resolveAll, hr]
      rw [← hcrash]
      exact (ih d).imp_right fun h => ⟨h.1, along rfl h.2⟩
    | error e =>
      simp only [resolveAll, hr]
      rcases ih (d.failed e) with h | h
      · rw [h, failed_crash]
        cases he : e.crash? with
        | none => exact .inl hcrash
        | some cause =>
          obtain ⟨rfl, hover⟩ := resolveByIdentity_failed hr he
          exact .inr ⟨rfl, hover⟩
      · exact .inr ⟨h.1, along rfl h.2⟩

theorem loadPending_roots (files : FileTree) (pending : List UnitId) (c : Cache) :
    (loadPending files pending c).roots = c.roots := by
  fun_induction Cache.loadPending files pending c with
  | case1 c => rfl
  | case2 c id rest hu ih => exact ih
  | case3 c id rest u hu hl ih => exact ih
  | case4 c id rest u hu hl resolved ih => exact ih.trans (grownFrom_resolveAll files id _ c).roots

/-- Loading nested classes crashes on an entry of the roots that is too large, if at all. -/
theorem loadPending_crash (files : FileTree) (pending : List UnitId) (c : Cache) :
    (loadPending files pending c).crash = c.crash ∨
      (loadPending files pending c).crash = some .capacity ∧ c.Overloaded := by
  fun_induction Cache.loadPending files pending c with
  | case1 c => exact .inl rfl
  | case2 c id rest hu ih => exact ih
  | case3 c id rest u hu hl ih => exact ih
  | case4 c id rest u hu hl resolved ih =>
    have hall := resolveAll_crash files id (u.classFile.declaredInner.map (·.inner)) c
    have hroots := (grownFrom_resolveAll files id (u.classFile.declaredInner.map (·.inner)) c).roots
    have hset : (resolved.2.setInner id resolved.1).crash = resolved.2.crash := rfl
    rcases ih with h | ⟨h, a, ha, hsize⟩
    · rw [h, hset]
      exact hall
    · exact .inr ⟨h, a, hroots ▸ ha, hsize⟩

theorem readEntries_crash {a : ClassArchive} {path : Path} (h : readEntries a = .error (.io path .capacity)) :
    a.Oversized := by
  simp only [readEntries, bind, Except.bind] at h
  split at h
  · next e hl =>
    cases h
    unfold ClassArchive.classEntries at hl
    split at hl <;> cases hl
  next names _ =>
  split at h
  · next e hm =>
    cases h
    rcases mapM_cases (fun name => (a.read name).map fun bytes => bytes.map fun b => (name, b)) names with
      ⟨r, hr⟩ | ⟨front, name, back, r, e, -, -, hn, he⟩
    · rw [hm] at hr
      cases hr
    · rw [hm] at he
      cases he
      cases hread : a.read name with
      | ok bytes => rw [hread] at hn; cases hn
      | error e => rw [hread] at hn; cases hn; exact a.read_crash hread
  · cases h

theorem loadArchive_crash (files : FileTree) (path : Path) (c : Cache) : (loadArchive files path c).2.crash = c.crash := by
  have hentries (entries : List (String × List UInt8)) (c : Cache) :
      (entries.foldl (addEntry path) c).crash = c.crash := by
    induction entries generalizing c with
    | nil => rfl
    | cons e entries ih =>
      rw [List.foldl_cons, ih]
      unfold addEntry
      repeat' split
      all_goals rfl
  unfold loadArchive
  repeat' split
  all_goals first | rfl | skip
  dsimp only
  split <;> exact hentries _ c

/-- An archive that crashes the program has an entry that is too large. -/
theorem loadArchive_failed {path : Path} {e : LoadError} {cause : Crash} (h : loadArchive files path c = (.error e, d))
    (hc : e.crash? = some cause) : cause = .capacity ∧ ∃ a, ClassArchive.load files path = .ok a ∧ a.Oversized := by
  obtain ⟨rfl, p, rfl⟩ := LoadError.crash?_eq_some.1 hc
  unfold loadArchive at h
  split at h
  · next hl =>
    cases h
    unfold ClassArchive.load at hl
    split at hl
    · next hs => cases hl; exact absurd hs (files.stat_ne_capacity path)
    · cases hl
    · split at hl <;> cases hl
  next a ha =>
  split at h
  · next hr => cases h; exact ⟨rfl, a, ha, readEntries_crash hr⟩
  · cases h

end Cache

/-! ## The work on a candidate -/

namespace Session

variable {s s' : Session} {files : FileTree}

theorem loadInner_crash (s : Session) (files : FileTree) (id : UnitId) :
    (s.loadInner files id).cache.crash = s.cache.crash ∨
      (s.loadInner files id).cache.crash = some .capacity ∧ (s.loadInner files id).cache.Overloaded := by
  unfold loadInner
  split
  · rcases Cache.loadPending_crash files [id] s.cache with h | ⟨h, a, ha, hsize⟩
    · exact .inl h
    · exact .inr ⟨h, a, (Cache.loadPending_roots files [id] s.cache).symm ▸ ha, hsize⟩
  · exact .inl rfl

/-- Building a model crashes in a circle, if at all. -/
theorem build_crash (s : Session) (id : UnitId) :
    (s.build id).2.cache.crash = s.cache.crash ∨
      (s.build id).2.cache.crash = some .recursion ∧ ¬ (s.build id).2.cache.NestsAcyclic := by
  unfold build
  split
  · exact .inl rfl
  unfold analyse
  rcases hb : s.buildModel (s.cache.units.length + 1) id with (e | _) | m
  · exact .inl rfl
  · obtain ⟨j, -, hj⟩ := buildModel_endless hb
    exact .inr ⟨rfl, fun ha => ha j hj⟩
  · exact .inl rfl

theorem build_roots (s : Session) (id : UnitId) : (s.build id).2.cache.roots = s.cache.roots := by
  unfold build
  split
  · rfl
  unfold analyse
  rcases s.buildModel (s.cache.units.length + 1) id with (e | _) | m <;> rfl

/-- A crash in the work on a candidate comes of what is in the cache. -/
theorem prepare_crash (s : Session) (files : FileTree) (t : TypeName) :
    (s.prepare files t).2.cache.crash = s.cache.crash ∨
      ∃ cause, (s.prepare files t).2.cache.crash = some cause ∧ cause.ComesOf (s.prepare files t).2.cache := by
  have hc := Cache.resolveByIdentity_crash files t s.cache
  have hroots := (Cache.grownFrom_resolveByIdentity files t s.cache).roots
  simp only [prepare]
  rcases hr : Cache.resolveByIdentity files t s.cache with ⟨r, c⟩
  rw [hr] at hc hroots
  cases r with
  | error e =>
    dsimp only [Cache.failed]
    cases he : e.crash? with
    | none => exact .inl hc
    | some cause =>
      obtain ⟨rfl, a, ha, hsize⟩ := Cache.resolveByIdentity_failed hr he
      exact .inr ⟨.capacity, rfl, a, hroots ▸ ha, hsize⟩
  | ok id =>
    dsimp only
    split
    · exact .inl hc
    have hload := loadInner_crash { s with cache := c } files id
    have hbuild := build_crash ({ s with cache := c : Session }.loadInner files id) id
    have hkept := build_roots ({ s with cache := c : Session }.loadInner files id) id
    rcases hb : Session.build _ id with ⟨r, s'⟩
    rw [hb] at hbuild hkept
    have hall : s'.cache.crash = s.cache.crash ∨ ∃ cause, s'.cache.crash = some cause ∧ cause.ComesOf s'.cache := by
      rcases hbuild with h | h
      · rcases hload with h' | ⟨h', a, ha, hsize⟩
        · exact .inl ((h.trans h').trans hc)
        · exact .inr ⟨.capacity, h.trans h', a, hkept ▸ ha, hsize⟩
      · exact .inr ⟨.recursion, h⟩
    cases r <;> exact hall

theorem prepare_nested_crash {t : TypeName} (h : s.prepare files t = (.nested, s')) :
    s'.cache.crash = s.cache.crash := by
  have hc := Cache.resolveByIdentity_crash files t s.cache
  simp only [prepare] at h
  rcases hr : Cache.resolveByIdentity files t s.cache with ⟨r, c⟩
  rw [hr] at h hc
  cases r with
  | error e => cases h
  | ok id =>
    dsimp only at h
    split at h
    · cases h; exact hc
    · rcases hb : Session.build _ id with ⟨r, s₁⟩
      rw [hb] at h
      cases r <;> cases h

end Session

end ClassSkeleton
