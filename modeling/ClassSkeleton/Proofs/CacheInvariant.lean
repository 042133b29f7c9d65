import ClassSkeleton.Proofs.SessionLikeness
import ClassSkeleton.Proofs.Traversals

/-
  ClassSkeleton.Proofs.CacheInvariant — what holds of every cache.

  A cache is `Sound` when its index and its units agree in both directions, the units say of themselves what
  their class files say, the nested units are units of the cache and no two roots are at one place. It is
  `Faithful` to the files seen so far when every unit has the class file that was parsed from bytes its
  origin held, without the bodies if the unit was released. Four things happen to a cache: a unit is added
  for a type that has none, a root is added at a new place, a unit learns of its nested units, and a unit is
  released. Each keeps both and leaves what was there in place (`Advances`); loading by path, by type and by
  archive, expanding nests and releasing are made of these.

  So whatever is done to an empty cache, over files that may change from one step to the next, the cache is
  sound, units and types stay as they are, and a class found by its path is the unit of its type.
-/

namespace ClassSkeleton

/-! ## Units -/

/-- The origin held the bytes at a time when the files were among those seen. An archive among the roots
is read as it was when it was opened. -/
def Origin.Held (seen : FileTree → Prop) (bytes : List UInt8) : Origin → Prop
  | .file path => ∃ files, seen files ∧ files.read path = .ok bytes
  | .archive path entry => ∃ files a, seen files ∧ ClassArchive.load files path = .ok a ∧ a.read entry = .ok (some bytes)

theorem ClassArchive.load_path {files : FileTree} {path : Path} {a : ClassArchive}
    (h : ClassArchive.load files path = .ok a) : a.path = path := by
  simp only [ClassArchive.load] at h
  split at h
  · cases h
  · cases h
  · split at h <;> cases h
    rfl

theorem ClassFile.releaseCode_releaseCode (c : ClassFile) : c.releaseCode.releaseCode = c.releaseCode := by
  simp [ClassFile.releaseCode, Function.comp_def]

namespace ClassUnit

/-- The class file was parsed from bytes the origin held; the unit has it unchanged, or without bodies if
it was released. -/
structure AsRead (seen : FileTree → Prop) (u : ClassUnit) (c : ClassFile) : Prop where
  parsed : ∃ bytes, u.origin.Held seen bytes ∧ ClassFile.parse bytes = .ok c
  kept : u.classFile = if u.isReleased then c.releaseCode else c

/-- `v` is what became of `u`: the class file as it was, or released. -/
structure Evolves (u v : ClassUnit) : Prop where
  type : v.type = u.type
  origin : v.origin = u.origin
  isInner : v.isInner = u.isInner
  change : (v.isReleased = u.isReleased ∧ v.classFile = u.classFile) ∨
    (v.isReleased = true ∧ v.classFile = u.classFile.releaseCode)

namespace Evolves

variable {u v w : ClassUnit}

theorem refl (u : ClassUnit) : u.Evolves u := ⟨rfl, rfl, rfl, .inl ⟨rfl, rfl⟩⟩

theorem trans (h : u.Evolves v) (h' : v.Evolves w) : u.Evolves w := by
  refine ⟨h'.type.trans h.type, h'.origin.trans h.origin, h'.isInner.trans h.isInner, ?_⟩
  rcases h'.change with ⟨hr', hc'⟩ | ⟨hr', hc'⟩
  · rw [hr', hc']
    exact h.change
  · right
    refine ⟨hr', ?_⟩
    rcases h.change with ⟨-, hc⟩ | ⟨-, hc⟩
    · rw [hc', hc]
    · rw [hc', hc, ClassFile.releaseCode_releaseCode]

theorem released (h : u.Evolves v) (hu : u.isReleased = true) : v.isReleased = true := by
  rcases h.change with ⟨hr, -⟩ | ⟨hr, -⟩
  · rw [hr, hu]
  · exact hr

/-- What is not released now never was, and nothing was taken from its class file. -/
theorem intact (h : u.Evolves v) (hv : v.isReleased = false) : u.isReleased = false ∧ v.classFile = u.classFile := by
  rcases h.change with ⟨hr, hc⟩ | ⟨hr, -⟩
  · exact ⟨hr.symm.trans hv, hc⟩
  · rw [hv] at hr
    cases hr

theorem release (u : ClassUnit) : u.Evolves u.release := ⟨rfl, rfl, rfl, .inr ⟨rfl, rfl⟩⟩

theorem thisClass (h : u.Evolves v) : v.classFile.thisClass = u.classFile.thisClass := by
  rcases h.change with ⟨-, hc⟩ | ⟨-, hc⟩
  · rw [hc]
  · rw [hc]
    rfl

/-- The table of nested classes is no body, so releasing leaves it alone. -/
theorem classFile_isInner (h : u.Evolves v) : v.classFile.isInner = u.classFile.isInner := by
  rcases h.change with ⟨-, hc⟩ | ⟨-, hc⟩
  · rw [hc]
  · rw [hc]
    rfl

theorem asRead {seen : FileTree → Prop} {c : ClassFile} (h : u.Evolves v) (hu : u.AsRead seen c) : v.AsRead seen c := by
  refine ⟨by rw [h.origin]; exact hu.parsed, ?_⟩
  rcases h.change with ⟨hr, hc⟩ | ⟨hr, hc⟩
  · rw [hc, hr]
    exact hu.kept
  · rw [hc, hu.kept, hr, if_pos rfl]
    split
    · exact c.releaseCode_releaseCode
    · rfl

end Evolves

end ClassUnit

namespace Cache

/-! ## The invariant -/

structure Sound (c : Cache) : Prop where
  /-- The index has the number of a unit under its type, and nothing else. -/
  index : ∀ t id, c.get? t = some id ↔ ∃ u, c.unit? id = some u ∧ u.type = t
  declared : ∀ id u, c.unit? id = some u → u.type = u.classFile.thisClass ∧ u.isInner = u.classFile.isInner
  nested : ∀ id u, c.unit? id = some u → ∀ j ∈ u.innerUnits, j < c.units.length
  roots : c.roots.Pairwise fun r s => r.path.sameAs s.path = false

structure Faithful (seen : FileTree → Prop) (c : Cache) : Prop where
  units : ∀ id u, c.unit? id = some u → ∃ d, u.AsRead seen d
  archives : ∀ a, .archive a ∈ c.roots → ∃ files, seen files ∧ ClassArchive.load files a.path = .ok a

/-- `d` is what became of `c`: all units in their places, all types with their units, all roots in front. -/
structure Evolves (c d : Cache) : Prop where
  units : ∀ id u, c.unit? id = some u → ∃ v, d.unit? id = some v ∧ u.Evolves v
  index : ∀ t id, c.get? t = some id → d.get? t = some id
  roots : c.roots <+: d.roots

theorem Evolves.refl (c : Cache) : c.Evolves c :=
  ⟨fun _ u h => ⟨u, h, .refl u⟩, fun _ _ h => h, List.prefix_rfl⟩

theorem Evolves.trans {c d e : Cache} (h : c.Evolves d) (h' : d.Evolves e) : c.Evolves e := by
  refine ⟨fun id u hu => ?_, fun t id ht => h'.index t id (h.index t id ht), h.roots.trans h'.roots⟩
  obtain ⟨v, hv, huv⟩ := h.units id u hu
  obtain ⟨w, hw, hvw⟩ := h'.units id v hv
  exact ⟨w, hw, huv.trans hvw⟩

theorem unit?_lt {c : Cache} {id : UnitId} {u : ClassUnit} (h : c.unit? id = some u) : id < c.units.length :=
  (List.getElem?_eq_some_iff.1 h).1

theorem unit?_of_lt {c : Cache} {id : UnitId} (h : id < c.units.length) : ∃ u, c.unit? id = some u :=
  ⟨c.units[id], List.getElem?_eq_getElem h⟩

theorem Evolves.length_le {c d : Cache} (h : c.Evolves d) : c.units.length ≤ d.units.length := by
  refine Nat.le_of_not_lt fun hlt => ?_
  obtain ⟨u, hu⟩ := unit?_of_lt hlt
  obtain ⟨v, hv, -⟩ := h.units _ u hu
  exact Nat.lt_irrefl _ (unit?_lt hv)

namespace Sound

variable {c : Cache}

theorem lt_of_get? (h : c.Sound) {t : TypeName} {id : UnitId} (ht : c.get? t = some id) : id < c.units.length := by
  obtain ⟨u, hu, -⟩ := (h.index t id).1 ht
  exact unit?_lt hu

/-- A type has one unit. -/
theorem unique (h : c.Sound) {i j : UnitId} {u v : ClassUnit} (hu : c.unit? i = some u) (hv : c.unit? j = some v)
    (ht : u.type = v.type) : i = j := by
  have hi := (h.index v.type i).2 ⟨u, hu, ht⟩
  have hj := (h.index v.type j).2 ⟨v, hv, rfl⟩
  rw [hi] at hj
  exact Option.some.inj hj

end Sound

theorem empty_sound : empty.Sound :=
  ⟨by simp [empty, get?, unit?, Table.get?], by simp [empty, unit?], by simp [empty, unit?], List.Pairwise.nil⟩

theorem empty_faithful (seen : FileTree → Prop) : empty.Faithful seen :=
  ⟨by simp [empty, unit?], by simp [empty]⟩

/-- A good cache that came from `c`. -/
structure Advances (seen : FileTree → Prop) (c d : Cache) : Prop where
  sound : d.Sound
  faithful : d.Faithful seen
  evolves : c.Evolves d

section Steps

variable {seen : FileTree → Prop} {files : FileTree} {c d e : Cache}

theorem Advances.refl (hs : c.Sound) (hf : c.Faithful seen) : Advances seen c c := ⟨hs, hf, .refl c⟩

theorem Advances.trans (h : Advances seen c d) (h' : Advances seen d e) : Advances seen c e :=
  ⟨h'.sound, h'.faithful, h.evolves.trans h'.evolves⟩

/-- Whether the program has crashed says nothing about the classes. -/
theorem Advances.crash (hs : c.Sound) (hf : c.Faithful seen) (cause : Option Crash) :
    Advances seen c { c with crash := cause } :=
  ⟨⟨hs.index, hs.declared, hs.nested, hs.roots⟩, ⟨hf.units, hf.archives⟩, ⟨fun _ u hu => ⟨u, hu, .refl u⟩,
    fun _ _ h => h, List.prefix_rfl⟩⟩

theorem Advances.failed (hs : c.Sound) (hf : c.Faithful seen) (e : LoadError) : Advances seen c (c.failed e) :=
  .crash hs hf _

/-! ### A new unit -/

theorem unit?_insert (c : Cache) (u : ClassUnit) (id : Nat) :
    (c.insert u).unit? id = if id = c.units.length then some u else c.unit? id := by
  simp only [unit?, insert, List.getElem?_append]
  by_cases hlt : id < c.units.length
  · have hne : id ≠ c.units.length := by omega
    simp [hlt, hne]
  · by_cases he : id = c.units.length
    · simp [he]
    · have hsub : id - c.units.length ≠ 0 := by omega
      simp [hlt, he, hsub]

theorem get?_insert (c : Cache) (u : ClassUnit) (t : TypeName) :
    (c.insert u).get? t = if u.type = t then some c.units.length else c.get? t :=
  Table.get?_put ..

theorem get?_insert_self (c : Cache) (classFile : ClassFile) (origin : Origin) :
    (c.insert (.ofClassFile classFile origin)).get? classFile.thisClass = some c.units.length := by
  rw [get?_insert]
  exact if_pos rfl

theorem unit?_insert_old {c : Cache} {id : UnitId} {v : ClassUnit} (h : c.unit? id = some v) (u : ClassUnit) :
    (c.insert u).unit? id = some v := by
  rw [unit?_insert, if_neg (Nat.ne_of_lt (unit?_lt h)), h]

theorem unit?_insert_cases {u v : ClassUnit} {id : UnitId} (h : (c.insert u).unit? id = some v) :
    (id = c.units.length ∧ v = u) ∨ c.unit? id = some v := by
  rw [unit?_insert] at h
  split at h
  · next he => exact .inl ⟨he, (Option.some.inj h).symm⟩
  · exact .inr h

/-- A class whose type has no unit yet. -/
theorem Sound.insert (hs : c.Sound) {classFile : ClassFile} (hn : c.get? classFile.thisClass = none) (origin : Origin) :
    (c.insert (.ofClassFile classFile origin)).Sound := by
  refine ⟨?_, ?_, ?_, hs.roots⟩
  · intro t id
    rw [get?_insert]
    constructor
    · intro h
      split at h
      · next ht =>
        cases h
        exact ⟨_, by rw [unit?_insert, if_pos rfl], ht⟩
      · obtain ⟨u, hu, ht⟩ := (hs.index t id).1 h
        exact ⟨u, unit?_insert_old hu _, ht⟩
    · rintro ⟨u, hu, rfl⟩
      rcases unit?_insert_cases hu with ⟨rfl, rfl⟩ | hu
      · rw [if_pos rfl]
      · -- an old unit cannot have the new type, which had no unit
        have hg := (hs.index u.type id).2 ⟨u, hu, rfl⟩
        rw [if_neg, hg]
        intro ht
        rw [← ht] at hg
        exact absurd (hn.symm.trans hg) (by simp)
  · intro id u hu
    rcases unit?_insert_cases hu with ⟨-, rfl⟩ | hu
    · exact ⟨rfl, rfl⟩
    · exact hs.declared id u hu
  · intro id u hu j hj
    have hlen : (c.insert (.ofClassFile classFile origin)).units.length = c.units.length + 1 := by simp [Cache.insert]
    rcases unit?_insert_cases hu with ⟨-, rfl⟩ | hu
    · cases hj
    · rw [hlen]
      exact Nat.lt_succ_of_lt (hs.nested id u hu j hj)

theorem Advances.insert (hs : c.Sound) (hf : c.Faithful seen) {classFile : ClassFile} {origin : Origin}
    {bytes : List UInt8} (hn : c.get? classFile.thisClass = none) (hb : origin.Held seen bytes)
    (hp : ClassFile.parse bytes = .ok classFile) : Advances seen c (c.insert (.ofClassFile classFile origin)) := by
  refine ⟨hs.insert hn origin, ⟨?_, hf.archives⟩, ⟨?_, ?_, List.prefix_rfl⟩⟩
  · intro id u hu
    rcases unit?_insert_cases hu with ⟨-, rfl⟩ | hu
    · exact ⟨classFile, ⟨bytes, hb, hp⟩, rfl⟩
    · exact hf.units id u hu
  · exact fun id u hu => ⟨u, unit?_insert_old hu _, .refl u⟩
  · intro t id ht
    rw [get?_insert, if_neg, ht]
    intro he
    rw [← he] at ht
    exact absurd (hn.symm.trans ht) (by simp)

/-! ### A new root -/

theorem Sound.addRoot (hs : c.Sound) {r : ClassRoot} (hn : c.hasRootAt r.path = false) : (c.addRoot r).Sound := by
  refine ⟨hs.index, hs.declared, hs.nested, ?_⟩
  refine List.pairwise_append.2 ⟨hs.roots, List.pairwise_singleton _ _, fun s hm r' hr' => ?_⟩
  rw [List.mem_singleton.1 hr']
  have := List.any_eq_false.1 hn s hm
  simpa [ClassRoot.isAt] using this

theorem Advances.addRoot (hs : c.Sound) (hf : c.Faithful seen) {r : ClassRoot} (hn : c.hasRootAt r.path = false)
    (ha : ∀ a, r = .archive a → ∃ files, seen files ∧ ClassArchive.load files a.path = .ok a) :
    Advances seen c (c.addRoot r) := by
  refine ⟨hs.addRoot hn, ⟨hf.units, fun a hm => ?_⟩,
    ⟨fun id u hu => ⟨u, hu, .refl u⟩, fun _ _ h => h, List.prefix_append _ _⟩⟩
  rcases List.mem_append.1 hm with hm | hm
  · exact hf.archives a hm
  · exact ha a (List.mem_singleton.1 hm).symm

/-! ### Units that change in place -/

/-- Units that evolve where they are, with no nested units from outside the cache. -/
theorem Advances.update (hs : c.Sound) (hf : c.Faithful seen) {units : List ClassUnit}
    (hl : units.length = c.units.length)
    (h : ∀ id v, units[id]? = some v → ∃ u, c.unit? id = some u ∧ u.Evolves v ∧ ∀ j ∈ v.innerUnits,
      j ∈ u.innerUnits ∨ j < c.units.length) : Advances seen c { c with units := units } := by
  have forward : ∀ id u, c.unit? id = some u → ∃ v, units[id]? = some v ∧ u.Evolves v := by
    intro id u hu
    have hlt : id < units.length := by rw [hl]; exact unit?_lt hu
    obtain ⟨u', hu', he, -⟩ := h id _ (List.getElem?_eq_getElem hlt)
    rw [hu] at hu'
    cases hu'
    exact ⟨_, List.getElem?_eq_getElem hlt, he⟩
  refine ⟨⟨?_, ?_, ?_, hs.roots⟩, ⟨?_, hf.archives⟩, ⟨forward, fun _ _ h => h, List.prefix_rfl⟩⟩
  · intro t id
    show c.get? t = some id ↔ _
    rw [hs.index]
    constructor
    · rintro ⟨u, hu, rfl⟩
      obtain ⟨v, hv, he⟩ := forward id u hu
      exact ⟨v, hv, he.type⟩
    · rintro ⟨v, hv, rfl⟩
      obtain ⟨u, hu, he, -⟩ := h id v hv
      exact ⟨u, hu, he.type.symm⟩
  · intro id v hv
    obtain ⟨u, hu, he, -⟩ := h id v hv
    obtain ⟨ht, hi⟩ := hs.declared id u hu
    exact ⟨by rw [he.type, he.thisClass, ht], by rw [he.isInner, he.classFile_isInner, hi]⟩
  · intro id v hv j hj
    show j < units.length
    rw [hl]
    obtain ⟨u, hu, -, hin⟩ := h id v hv
    rcases hin j hj with hj | hj
    · exact hs.nested id u hu j hj
    · exact hj
  · intro id v hv
    obtain ⟨u, hu, he, -⟩ := h id v hv
    obtain ⟨d, hd⟩ := hf.units id u hu
    exact ⟨d, he.asRead hd⟩

theorem Advances.modify (hs : c.Sound) (hf : c.Faithful seen) {id : UnitId} {f : ClassUnit → ClassUnit}
    (h : ∀ u, c.unit? id = some u → u.Evolves (f u) ∧ ∀ j ∈ (f u).innerUnits, j ∈ u.innerUnits ∨ j < c.units.length) :
    Advances seen c (c.modify id f) := by
  refine .update hs hf (by rw [List.length_modify]) fun i v hv => ?_
  rw [List.getElem?_modify] at hv
  obtain ⟨u, hu, rfl⟩ := Option.map_eq_some_iff.1 hv
  refine ⟨u, hu, ?_⟩
  by_cases hi : id = i
  · subst hi
    simpa using h u hu
  · simp only [hi, if_false]
    exact ⟨.refl u, fun j hj => .inl hj⟩

/-! ## Loading -/

/-- A class found on the roots declares the type and was parsed from what a root had. -/
theorem findOnRoots_held (hseen : seen files) {t : TypeName} {classFile : ClassFile} {origin : Origin}
    {roots : List ClassRoot}
    (ha : ∀ a, .archive a ∈ roots → ∃ files, seen files ∧ ClassArchive.load files a.path = .ok a)
    (h : findOnRoots files t roots = .ok (some (classFile, origin))) :
    classFile.thisClass = t ∧ ∃ bytes, origin.Held seen bytes ∧ ClassFile.parse bytes = .ok classFile := by
  induction roots with
  | nil => cases h
  | cons r rest ih =>
    have tail := ih fun a hm => ha a (List.mem_cons_of_mem _ hm)
    simp only [findOnRoots] at h
    split at h
    · cases h
    · exact tail h
    · next bytes found hr =>
      have held : found.Held seen bytes := by
        cases r with
        | directory dir =>
          rw [ClassRoot.find_directory] at hr
          simp only [Except.ok.injEq, Option.map_eq_some_iff, Prod.mk.injEq] at hr
          obtain ⟨b, hb, rfl, rfl⟩ := hr
          refine ⟨files, hseen, ?_⟩
          cases hread : files.read (dir.join ⟨t.entryPath⟩) with
          | error e => rw [hread] at hb; cases hb
          | ok b' => rw [hread] at hb; cases hb; rfl
        | archive a =>
          obtain ⟨files', hseen', hl⟩ := ha a List.mem_cons_self
          simp only [ClassRoot.find] at hr
          split at hr
          · next hread =>
            cases hr
            exact ⟨files', a, hseen', hl, hread⟩
          · cases hr
          · cases hr
      split at h
      · cases h
      · next d hd =>
        split at h
        · next ht =>
          simp only [parseAt] at hd
          split at hd
          · next hp =>
            cases hd
            cases h
            exact ⟨ht, bytes, held, hp⟩
          · cases hd
        · exact tail h

theorem Advances.noteRoot (hs : c.Sound) (hf : c.Faithful seen) (path : Path) (package : Option String) :
    Advances seen c (noteRoot path package c) := by
  unfold Cache.noteRoot
  split
  · next root _ =>
    split
    · exact .refl hs hf
    · next hr => exact .addRoot hs hf (by simpa [ClassRoot.path] using hr) fun a h => by cases h
  · exact .refl hs hf

theorem Advances.addClasspath (hs : c.Sound) (hf : c.Faithful seen) (hseen : seen files) (path : Path) :
    Advances seen c (c.addClasspath files path).2 := by
  unfold Cache.addClasspath
  split
  · exact .refl hs hf
  next hr =>
  have hr : c.hasRootAt path = false := by simpa using hr
  split
  · split
    · next a ha =>
      have hp := ClassArchive.load_path ha
      refine .addRoot hs hf (by simpa only [ClassRoot.path, hp] using hr) fun b hb => ?_
      cases hb
      exact ⟨files, hseen, by rw [hp]; exact ha⟩
    · exact .refl hs hf
  · exact .addRoot hs hf hr fun a h => by cases h

variable (files) in
/-- After loading by path the unit that was found is the one of its type. -/
theorem Advances.resolveByPath (hs : c.Sound) (hf : c.Faithful seen) (hseen : seen files) (path : Path) :
    Advances seen c (resolveByPath files path c).2 ∧ ∀ id, (resolveByPath files path c).1 = .ok id →
      ∃ u, (resolveByPath files path c).2.unit? id = some u ∧ (resolveByPath files path c).2.get? u.type = some id := by
  have found : ∀ {d : Cache} (t : TypeName) (id : UnitId), d.Sound → d.get? t = some id →
      ∃ u, d.unit? id = some u ∧ d.get? u.type = some id := by
    intro d t id hd ht
    obtain ⟨u, hu, rfl⟩ := (hd.index t id).1 ht
    exact ⟨u, hu, ht⟩
  unfold Cache.resolveByPath
  split
  · exact ⟨.refl hs hf, fun id h => by cases h⟩
  next bytes hb =>
  split
  · exact ⟨.refl hs hf, fun id h => by cases h⟩
  next classFile hc =>
  have hp : ClassFile.parse bytes = .ok classFile := by
    simp only [parseAt] at hc
    split at hc <;> cases hc
    assumption
  have hr := Advances.noteRoot hs hf path classFile.thisClass.package
  dsimp only
  generalize Cache.noteRoot path classFile.thisClass.package c = d at hr
  split
  · next id hid =>
    refine ⟨hr, fun id' h => ?_⟩
    cases h
    exact found _ id hr.sound hid
  · next hn =>
    have held : (Origin.file path).Held seen bytes := ⟨files, hseen, hb⟩
    have hi := Advances.insert hr.sound hr.faithful hn held hp
    refine ⟨hr.trans hi, fun id h => ?_⟩
    cases h
    exact found classFile.thisClass _ hi.sound (get?_insert_self ..)

variable (files) in
/-- A unit found for a type is the one the index has for it. -/
theorem Advances.resolveByIdentity (hs : c.Sound) (hf : c.Faithful seen) (hseen : seen files) (t : TypeName) :
    Advances seen c (resolveByIdentity files t c).2 ∧ ∀ id, (resolveByIdentity files t c).1 = .ok id →
      (resolveByIdentity files t c).2.get? t = some id := by
  unfold Cache.resolveByIdentity
  split
  · next id hid =>
    refine ⟨.refl hs hf, fun id' h => ?_⟩
    cases h
    exact hid
  next hn =>
  split
  · next classFile origin hfind =>
    obtain ⟨ht, bytes, hb, hp⟩ := findOnRoots_held hseen hf.archives hfind
    subst ht
    refine ⟨.insert hs hf hn hb hp, fun id h => ?_⟩
    cases h
    exact get?_insert_self ..
  · exact ⟨.refl hs hf, fun id h => by cases h⟩
  · exact ⟨.refl hs hf, fun id h => by cases h⟩

/-- The type of a unit of a sound cache is found at once, whatever the files are. -/
theorem resolveByIdentity_of_get? {t : TypeName} {id : UnitId} (h : c.get? t = some id) (files : FileTree) :
    Cache.resolveByIdentity files t c = (.ok id, c) := by
  simp only [Cache.resolveByIdentity, h]

theorem Advances.resolveAll (hs : c.Sound) (hf : c.Faithful seen) (hseen : seen files) (self : UnitId)
    (ts : List TypeName) :
    Advances seen c (resolveAll files self ts c).2 ∧
      ∀ id ∈ (resolveAll files self ts c).1, id < (resolveAll files self ts c).2.units.length := by
  induction ts generalizing c with
  | nil => exact ⟨.refl hs hf, fun id h => by cases h⟩
  | cons t ts ih =>
    obtain ⟨ht, hid⟩ := Advances.resolveByIdentity files hs hf hseen t
    rcases hr : Cache.resolveByIdentity files t c with ⟨r, d⟩
    rw [hr] at ht hid
    cases r with
    | error e =>
      have hfailed := ht.trans (.failed ht.sound ht.faithful e)
      obtain ⟨hrest, hlt⟩ := ih hfailed.sound hfailed.faithful
      simp only [Cache.resolveAll, hr]
      exact ⟨hfailed.trans hrest, hlt⟩
    | ok id =>
      obtain ⟨hrest, hlt⟩ := ih ht.sound ht.faithful
      simp only [Cache.resolveAll, hr]
      refine ⟨ht.trans hrest, fun j hj => ?_⟩
      split at hj
      · exact hlt j hj
      · rcases List.mem_cons.1 hj with rfl | hj
        · exact hrest.sound.lt_of_get? (hrest.evolves.index t _ (hid _ rfl))
        · exact hlt j hj

/-- Expanding a nest only ever resolves types and notes what was found. -/
theorem Advances.loadPending (hs : c.Sound) (hf : c.Faithful seen) (hseen : seen files) (pending : List UnitId) :
    Advances seen c (loadPending files pending c) := by
  fun_induction Cache.loadPending files pending c with
  | case1 c => exact .refl hs hf
  | case2 c id rest hu ih => exact ih hs hf
  | case3 c id rest u hu hl ih => exact ih hs hf
  | case4 c id rest u hu hl resolved ih =>
    obtain ⟨hr, hlt⟩ := Advances.resolveAll hs hf hseen id (u.classFile.declaredInner.map (·.inner))
    have hset : Advances seen resolved.2 (resolved.2.setInner id resolved.1) :=
      .modify hr.sound hr.faithful fun v _ => ⟨⟨rfl, rfl, rfl, .inl ⟨rfl, rfl⟩⟩, fun j hj => .inr (hlt j hj)⟩
    exact (hr.trans hset).trans (ih hset.sound hset.faithful)

theorem Advances.loadInnerClasses (hs : c.Sound) (hf : c.Faithful seen) (hseen : seen files) (id : UnitId) :
    Advances seen c (c.loadInnerClasses files id) := .loadPending hs hf hseen [id]

/-! ### Archives -/

/-- What is listed for an entry is what the archive reads under its name. -/
theorem readEntries_read {a : ClassArchive} {entries : List (String × List UInt8)} (h : readEntries a = .ok entries) :
    ∀ e ∈ entries, a.read e.1 = .ok (some e.2) := by
  simp only [readEntries, bind, Except.bind] at h
  split at h
  · cases h
  next names _ =>
  split at h
  · cases h
  next read hr =>
  cases h
  intro e he
  obtain ⟨o, ho, rfl⟩ := List.mem_filterMap.1 he
  obtain ⟨name, -, hn⟩ := (mapM_ok_mem hr).1 _ ho
  cases hread : a.read name with
  | error err => rw [hread] at hn; cases hn
  | ok bytes =>
    rw [hread] at hn
    simp only [Except.map, Except.ok.injEq, Option.map_eq_some_iff] at hn
    obtain ⟨b, rfl, rfl⟩ := hn
    exact hread

theorem Advances.addEntry (hs : c.Sound) (hf : c.Faithful seen) {path : Path} {entry : String × List UInt8}
    (hb : (Origin.archive path entry.1).Held seen entry.2) : Advances seen c (addEntry path c entry) := by
  unfold Cache.addEntry
  split
  · next classFile hp =>
    split
    · exact .refl hs hf
    · next hn => exact .insert hs hf (by simpa using hn) hb hp
  · exact .refl hs hf

theorem Advances.addEntries (hs : c.Sound) (hf : c.Faithful seen) {path : Path} {entries : List (String × List UInt8)}
    (hb : ∀ e ∈ entries, (Origin.archive path e.1).Held seen e.2) :
    Advances seen c (entries.foldl (Cache.addEntry path) c) := by
  induction entries generalizing c with
  | nil => exact .refl hs hf
  | cons e entries ih =>
    have he := Advances.addEntry hs hf (hb e List.mem_cons_self)
    exact he.trans (ih he.sound he.faithful fun e' hm => hb e' (List.mem_cons_of_mem _ hm))

theorem Advances.loadArchive (hs : c.Sound) (hf : c.Faithful seen) (hseen : seen files) (path : Path) :
    Advances seen c (loadArchive files path c).2 := by
  unfold Cache.loadArchive
  split
  · exact .refl hs hf
  next a ha =>
  split
  · exact .refl hs hf
  next entries hr =>
  have held : ∀ e ∈ entries, (Origin.archive path e.1).Held seen e.2 :=
    fun e hm => ⟨files, a, hseen, ha, readEntries_read hr e hm⟩
  have he := Advances.addEntries hs hf held
  dsimp only
  split
  · exact he
  · next hroot =>
    have hp := ClassArchive.load_path ha
    refine he.trans (.addRoot he.sound he.faithful (by simpa [ClassRoot.path, hp] using hroot) fun b hb => ?_)
    cases hb
    exact ⟨files, hseen, by rw [hp]; exact ha⟩

/-! ## Releasing -/

/-- Of a unit nothing changes, or it is released. -/
theorem releasePending_get (pending visited : List UnitId) (units : List ClassUnit) :
    (releasePending pending visited units).length = units.length ∧
      ∀ (id : Nat) (v : ClassUnit), (releasePending pending visited units)[id]? = some v →
        ∃ u : ClassUnit, units[id]? = some u ∧ (v = u ∨ v = u.release) := by
  fun_induction releasePending pending visited units with
  | case1 visited units => exact ⟨rfl, fun id v h => ⟨v, h, .inl rfl⟩⟩
  | case2 visited units id rest hv ih => exact ih
  | case3 visited units id rest hv hu ih => exact ih
  | case4 visited units id rest hv u hu ih =>
    obtain ⟨hl, hget⟩ := ih
    refine ⟨by rw [hl, List.length_modify], fun i v hv => ?_⟩
    obtain ⟨w, hw, hvw⟩ := hget i v hv
    rw [List.getElem?_modify] at hw
    obtain ⟨x, hx, rfl⟩ := Option.map_eq_some_iff.1 hw
    refine ⟨x, hx, ?_⟩
    by_cases hi : id = i
    · simp only [hi, if_true] at hvw
      have hr : x.release.release = x.release := by simp only [ClassUnit.release, ClassFile.releaseCode_releaseCode]
      rcases hvw with rfl | rfl
      · exact .inr rfl
      · exact .inr hr
    · simpa [hi] using hvw

theorem Advances.releaseHeavyState (hs : c.Sound) (hf : c.Faithful seen) (id : UnitId) :
    Advances seen c (c.releaseHeavyState id) := by
  obtain ⟨hl, hget⟩ := releasePending_get [id] [] c.units
  refine .update hs hf hl fun i v hv => ?_
  obtain ⟨u, hu, rfl | rfl⟩ := hget i v hv
  · exact ⟨v, hu, .refl v, fun j hj => .inl hj⟩
  · exact ⟨u, hu, .release u, fun j hj => .inl hj⟩

end Steps

/-! ## Every sequence of operations -/

/-- What can be done to a cache. -/
inductive Op where
  | addClasspath (path : Path)
  | resolveByPath (path : Path)
  | resolveByIdentity (type : TypeName)
  | loadArchive (path : Path)
  | loadInnerClasses (id : UnitId)
  | releaseHeavyState (id : UnitId)
  deriving DecidableEq, Repr

/-- The cache an operation leaves, whether or not it failed. -/
def perform (c : Cache) (files : FileTree) : Op → Cache
  | .addClasspath path => (c.addClasspath files path).2
  | .resolveByPath path => (resolveByPath files path c).2
  | .resolveByIdentity t => (resolveByIdentity files t c).2
  | .loadArchive path => (loadArchive files path c).2
  | .loadInnerClasses id => c.loadInnerClasses files id
  | .releaseHeavyState id => c.releaseHeavyState id

/-- Operations one after another, each over the files as they are then. -/
def performAll (c : Cache) (ops : List (FileTree × Op)) : Cache := ops.foldl (fun c op => c.perform op.1 op.2) c

theorem Advances.perform {seen : FileTree → Prop} {files : FileTree} {c : Cache} (hs : c.Sound) (hf : c.Faithful seen)
    (hseen : seen files) (op : Op) : Advances seen c (c.perform files op) := by
  cases op with
  | addClasspath path => exact .addClasspath hs hf hseen path
  | resolveByPath path => exact (Advances.resolveByPath files hs hf hseen path).1
  | resolveByIdentity t => exact (Advances.resolveByIdentity files hs hf hseen t).1
  | loadArchive path => exact .loadArchive hs hf hseen path
  | loadInnerClasses id => exact .loadInnerClasses hs hf hseen id
  | releaseHeavyState id => exact .releaseHeavyState hs hf id

theorem Advances.performAll {seen : FileTree → Prop} {c : Cache} (hs : c.Sound) (hf : c.Faithful seen)
    (ops : List (FileTree × Op)) (hseen : ∀ op ∈ ops, seen op.1) : Advances seen c (c.performAll ops) := by
  induction ops generalizing c with
  | nil => exact .refl hs hf
  | cons op ops ih =>
    have h := Advances.perform hs hf (hseen op List.mem_cons_self) op.2
    exact h.trans (ih h.sound h.faithful fun op' hm => hseen op' (List.mem_cons_of_mem _ hm))

/-- Whatever is done to an empty cache, over files that change as they like: the cache is sound and a type has
one unit; the units and the types that are there stay when more is done; a unit found for a type is of that
type; and a class loaded by its path is found again by its type, with nothing changed, so that a run never
falls back on the path. -/
theorem representation_kept (ops : List (FileTree × Op)) :
    (empty.performAll ops).Sound ∧
    (∀ i j u v, (empty.performAll ops).unit? i = some u → (empty.performAll ops).unit? j = some v →
      u.type = v.type → i = j) ∧
    (∀ more, (empty.performAll ops).Evolves (empty.performAll (ops ++ more)) ∧
      (empty.performAll ops).units.length ≤ (empty.performAll (ops ++ more)).units.length) ∧
    (∀ files t id c, resolveByIdentity files t (empty.performAll ops) = (.ok id, c) →
      ∃ u, c.unit? id = some u ∧ u.type = t) ∧
    (∀ files path id c, resolveByPath files path (empty.performAll ops) = (.ok id, c) →
      ∃ u, c.unit? id = some u ∧ ∀ files', resolveByIdentity files' u.type c = (.ok id, c)) ∧
    (∀ (σ : Type) (w v : World σ) (path : Path) (id : UnitId), w.session.cache = empty.performAll ops →
      World.onCache (resolveByPath · path) w = (.ok id, v) → ∃ u, v.session.cache.unit? id = some u ∧
        World.onCache (resolveByIdentity · u.type) v = (.ok id, v) ∧ World.preferIdentity u.type id v = (.ok id, v)) := by
  have all := fun (c : Cache) (hs : c.Sound) (hf : c.Faithful fun _ => True) (ops : List (FileTree × Op)) =>
    Advances.performAll hs hf ops fun _ _ => trivial
  obtain ⟨hs, hf, -⟩ := all empty empty_sound (empty_faithful _) ops
  have byPath : ∀ files path id c, resolveByPath files path (empty.performAll ops) = (.ok id, c) →
      ∃ u, c.unit? id = some u ∧ ∀ files', resolveByIdentity files' u.type c = (.ok id, c) := by
    intro files path id c h
    obtain ⟨-, hid⟩ := Advances.resolveByPath files hs hf trivial path
    rw [h] at hid
    obtain ⟨u, hu, ht⟩ := hid id rfl
    exact ⟨u, hu, resolveByIdentity_of_get? ht⟩
  refine ⟨hs, fun i j u v hu hv ht => hs.unique hu hv ht, ?_, ?_, byPath, ?_⟩
  · intro more
    have hm := (all _ hs hf more).evolves
    rw [performAll, performAll, List.foldl_append]
    exact ⟨hm, hm.length_le⟩
  · intro files t id c h
    obtain ⟨ha, hid⟩ := Advances.resolveByIdentity files hs hf trivial t
    rw [h] at ha hid
    exact (ha.sound.index t id).1 (hid id rfl)
  · intro σ w v path id hw h
    rcases hr : resolveByPath w.around.files path w.session.cache with ⟨r, c⟩
    rw [World.onCache_apply, hr] at h
    cases r with
    | error e => cases h
    | ok id' =>
      cases h
      rw [hw] at hr
      obtain ⟨u, hu, hi⟩ := byPath _ path id c hr
      have hagain : World.onCache (resolveByIdentity · u.type) (w.withSession { w.session with cache := c }) =
          (.ok id, w.withSession { w.session with cache := c }) := by
        rw [World.onCache_apply]
        simp only [World.withSession_around, World.withSession_session, hi]
        rfl
      refine ⟨u, hu, hagain, ?_⟩
      simp only [World.preferIdentity, settled_ok, hagain]

end Cache

end ClassSkeleton
