import ClassSkeleton.Proofs.CacheInvariant
import ClassSkeleton.Proofs.FirstPlaces
import ClassSkeleton.Proofs.Truncation

/-
  ClassSkeleton.Proofs.ArchiveListing — what loading an archive lists and caches.

  An archive `Gives` its class entries, in the order of its table, and the bytes under each name; loading it succeeds for
  archives that give theirs, and for no others (`loadArchive_ok_iff`). Two things are done with the entries, and they go by
  different rules. All are listed, an entry that does not parse under the type its name stands for, and a type once. Only
  the classes of those that parse are cached, and only if their type has no unit.

  The cache is followed entry by entry. What was added up to some entry (`Added`) are the first classes of the types that had
  no unit before, in the order of their entries; one more entry adds its class, or nothing (`Added.step`). So for the whole
  archive (`archive_classes_once`): a type with a unit keeps it, any other that is declared gets one for the first entry that
  declares it, and nothing else gets one, the types of broken entries included.
-/

namespace ClassSkeleton

/-! ## Reading the entries -/

/-- The archive has these class entries, in the order of its table, and these bytes under their names. -/
structure ClassArchive.Gives (a : ClassArchive) (names : List String) (content : String → List UInt8) : Prop where
  listed : a.classEntries = .ok names
  read : ∀ name ∈ names, a.read name = .ok (some (content name))

/-- An entry that is listed is there to be read. -/
theorem ClassArchive.read_of_listed {a : ClassArchive} {names : List String} (h : a.classEntries = .ok names)
    {name : String} (hn : name ∈ names) : a.read name ≠ .ok none := by
  unfold classEntries at h
  split at h
  · cases h
  next all hall =>
  cases h
  obtain ⟨e, he, hname⟩ := (mapM_ok_mem hall).1 name (List.mem_filter.1 hn).1
  have hfound : a.entry? name ≠ none := by
    cases hd : a.dataStart e with
    | error err =>
      rw [hd] at hname
      cases hname
    | ok start =>
      rw [hd] at hname
      cases hname
      exact fun hnone => List.find?_eq_none.1 hnone e (List.mem_reverse.2 he) (beq_self_eq_true _)
  unfold read
  split
  · next hnone => exact absurd hnone hfound
  · split
    · exact nofun
    · split
      · exact nofun
      · split <;> exact nofun

namespace Cache

theorem readEntries_eq {a : ClassArchive} {names : List String} {content : String → List UInt8}
    (h : a.Gives names content) : readEntries a = .ok (names.map fun name => (name, content name)) := by
  have hread : names.mapM (fun name => (a.read name).map fun bytes => bytes.map fun b => (name, b)) =
      .ok (names.map fun name => some (name, content name)) :=
    mapM_of_ok fun name hn => by rw [h.read name hn]; rfl
  simp only [readEntries, h.listed, bind, Except.bind, hread, pure, Except.pure]
  rw [List.filterMap_map]
  exact congrArg Except.ok (congrFun List.filterMap_eq_map names)

theorem gives_of_readEntries {a : ClassArchive} {entries : List (String × List UInt8)} (h : readEntries a = .ok entries) :
    ∃ names content, a.Gives names content := by
  simp only [readEntries, bind, Except.bind] at h
  split at h
  · cases h
  next names hnames =>
  split at h
  · cases h
  next read hread =>
  refine ⟨names, fun name => ((a.read name).toOption.getD none).getD [], hnames, fun name hn => ?_⟩
  obtain ⟨_, -, hb⟩ := (mapM_ok_mem hread).2 name hn
  cases hr : a.read name with
  | error e =>
    rw [hr] at hb
    cases hb
  | ok bytes =>
    cases bytes with
    | none => exact absurd hr (ClassArchive.read_of_listed hnames hn)
    | some bytes => rfl

/-- Loading succeeds for the archives that can be opened and give their entries. -/
theorem loadArchive_ok_iff {files : FileTree} {path : Path} {c : Cache} :
    (∃ types, (loadArchive files path c).1 = .ok types) ↔
      ∃ a names content, ClassArchive.load files path = .ok a ∧ a.Gives names content := by
  constructor
  · rintro ⟨types, h⟩
    unfold loadArchive at h
    split at h
    · cases h
    next a ha =>
    split at h
    · cases h
    next entries he =>
    obtain ⟨names, content, hg⟩ := gives_of_readEntries he
    exact ⟨a, names, content, ha, hg⟩
  · rintro ⟨a, names, content, ha, hg⟩
    exact ⟨firstOccurrences ((names.map fun name => (name, content name)).map entryType),
      by simp only [loadArchive, ha, readEntries_eq hg]⟩

/-! ## Adding the classes -/

/-- The classes of the entries that parse, each with the name of its entry. -/
def classesIn (entries : List (String × List UInt8)) : List (String × ClassFile) :=
  entries.filterMap fun e => (ClassFile.parse e.2).toOption.map fun c => (e.1, c)

/-- The unit an entry's class gets. -/
def unitFrom (archive : Path) (e : String × ClassFile) : ClassUnit := .ofClassFile e.2 (.archive archive e.1)

/-- The entry declares the type. -/
def declares (t : TypeName) (e : String × ClassFile) : Bool := e.2.thisClass == t

/-- Of the types the classes declare, those that have no unit, in the order of the entries. -/
def uncached (c : Cache) (classes : List (String × ClassFile)) : List TypeName :=
  (classes.map (·.2.thisClass)).filter fun t => (c.get? t).isNone

variable {archive : Path} {c d : Cache} {entries : List (String × List UInt8)} {classes new : List (String × ClassFile)}

theorem uncached_snoc (c : Cache) (classes : List (String × ClassFile)) (e : String × ClassFile) :
    c.uncached (classes ++ [e]) =
      c.uncached classes ++ if (c.get? e.2.thisClass).isNone then [e.2.thisClass] else [] := by
  rw [uncached, List.map_append, List.filter_append, List.map_singleton, List.filter_singleton, Bool.cond_eq_ite]
  rfl

theorem mem_uncached {t : TypeName} : t ∈ uncached c classes ↔ (∃ e ∈ classes, e.2.thisClass = t) ∧ c.get? t = none := by
  simp [uncached]

/-- `d` is `c` with units for the classes `new`: the first of each type that had no unit. -/
structure Added (archive : Path) (c : Cache) (classes new : List (String × ClassFile)) (d : Cache) : Prop where
  units : d.units = c.units ++ new.map (unitFrom archive)
  types : FirstSeen (c.uncached classes) (new.map (·.2.thisClass))
  first : ∀ e ∈ new, classes.find? (declares e.2.thisClass) = some e
  old : ∀ t id, c.get? t = some id → d.get? t = some id
  numbers : ∀ k e, new[k]? = some e → d.get? e.2.thisClass = some (c.units.length + k)
  others : ∀ t, c.get? t = none → t ∉ new.map (·.2.thisClass) → d.get? t = none

namespace Added

theorem start (archive : Path) (c : Cache) : Added archive c [] [] c :=
  ⟨by simp, .nil, by simp, fun _ _ h => h, by simp, fun _ h _ => h⟩

theorem mem_new (h : Added archive c classes new d) {e : String × ClassFile} (he : e ∈ classes)
    (hc : c.get? e.2.thisClass = none) : e.2.thisClass ∈ new.map (·.2.thisClass) :=
  (h.types.mem _).2 (mem_uncached.2 ⟨⟨e, he, rfl⟩, hc⟩)

theorem number (h : Added archive c classes new d) {t : TypeName} (ht : t ∈ new.map (·.2.thisClass)) :
    ∃ k e, new[k]? = some e ∧ e.2.thisClass = t ∧ d.get? t = some (c.units.length + k) := by
  obtain ⟨e, he, rfl⟩ := List.mem_map.1 ht
  obtain ⟨k, hk⟩ := List.mem_iff_getElem?.1 he
  exact ⟨k, e, hk, rfl, h.numbers k e hk⟩

/-- A type that a class declares has a unit. -/
theorem cached (h : Added archive c classes new d) {e : String × ClassFile} (he : e ∈ classes) :
    ∃ id, d.get? e.2.thisClass = some id := by
  cases hc : c.get? e.2.thisClass with
  | some id => exact ⟨id, h.old _ id hc⟩
  | none =>
    obtain ⟨k, -, -, -, hget⟩ := h.number (h.mem_new he hc)
    exact ⟨_, hget⟩

theorem first_append (h : Added archive c classes new d) (more : List (String × ClassFile)) :
    ∀ e ∈ new, (classes ++ more).find? (declares e.2.thisClass) = some e := fun e he => by
  rw [List.find?_append, h.first e he, Option.some_or]

/-- The class of one more entry, whose type is cached by now. -/
theorem skip (h : Added archive c classes new d) {e : String × ClassFile} {id : UnitId}
    (he : d.get? e.2.thisClass = some id) : Added archive c (classes ++ [e]) new d := by
  refine ⟨h.units, ?_, h.first_append [e], h.old, h.numbers, h.others⟩
  rw [uncached_snoc]
  split
  · next hc =>
    -- it had no unit before, so it got one on the way
    refine h.types.again ((h.types.mem _).1 (by_contra fun hn => ?_))
    rw [h.others _ (Option.isNone_iff_eq_none.1 hc) hn] at he
    cases he
  · rw [List.append_nil]
    exact h.types

/-- The class of one more entry, whose type has no unit. -/
theorem take (h : Added archive c classes new d) {e : String × ClassFile} (he : d.get? e.2.thisClass = none) :
    Added archive c (classes ++ [e]) (new ++ [e]) (d.insert (unitFrom archive e)) := by
  have hc : c.get? e.2.thisClass = none := by
    cases hc : c.get? e.2.thisClass with
    | none => rfl
    | some id => rw [h.old _ id hc] at he; cases he
  have hnew : e.2.thisClass ∉ new.map (·.2.thisClass) := fun hm => by
    obtain ⟨k, -, -, -, hk⟩ := h.number hm
    rw [hk] at he
    cases he
  have hnone : classes.find? (declares e.2.thisClass) = none :=
    List.find?_eq_none.2 fun f hf hdec => hnew ((beq_iff_eq.1 hdec) ▸ h.mem_new hf (by rw [beq_iff_eq.1 hdec, hc]))
  have hlength : d.units.length = c.units.length + new.length := by rw [h.units]; simp
  have hget (t : TypeName) : (d.insert (unitFrom archive e)).get? t =
      if e.2.thisClass = t then some (c.units.length + new.length) else d.get? t := by
    rw [get?_insert, hlength]
    rfl
  refine ⟨?_, ?_, ?_, ?_, ?_, ?_⟩
  · rw [insert, h.units, List.map_append, List.append_assoc]
    rfl
  · rw [uncached_snoc, hc, List.map_append]
    exact h.types.first fun hm => hnew ((h.types.mem _).2 hm)
  · intro f hf
    rcases List.mem_append.1 hf with hf | hf
    · exact h.first_append [e] f hf
    · rw [List.mem_singleton.1 hf, List.find?_append, hnone, Option.none_or]
      simp [declares]
  · intro t id ht
    rw [hget, if_neg, h.old t id ht]
    rintro rfl
    rw [hc] at ht
    cases ht
  · intro k f hk
    rw [List.getElem?_append] at hk
    split at hk
    · rw [hget, if_neg, h.numbers k f hk]
      intro hf
      exact hnew (hf ▸ List.mem_map_of_mem (List.mem_of_getElem? hk))
    · next hge =>
      obtain ⟨hlt, rfl⟩ := List.getElem?_eq_some_iff.1 hk
      have hk : k = new.length := by simp at hlt; omega
      rw [hget, List.getElem_singleton, if_pos rfl, hk]
  · intro t ht hn
    rw [List.map_append, List.mem_append, not_or] at hn
    rw [hget, if_neg, h.others t ht hn.1]
    exact fun he => hn.2 (by simp [he])

/-- One more entry of the archive. -/
theorem step (h : Added archive c (classesIn entries) new d) (e : String × List UInt8) :
    ∃ new', Added archive c (classesIn (entries ++ [e])) new' (addEntry archive d e) := by
  unfold addEntry
  cases hp : ClassFile.parse e.2 with
  | error err =>
    have hsame : classesIn (entries ++ [e]) = classesIn entries := by simp [classesIn, hp, Except.toOption]
    rw [hsame]
    exact ⟨new, h⟩
  | ok classFile =>
    have hmore : classesIn (entries ++ [e]) = classesIn entries ++ [(e.1, classFile)] := by
      simp [classesIn, hp, Except.toOption]
    rw [hmore]
    dsimp only
    split
    · next hsome =>
      obtain ⟨id, hid⟩ := Option.isSome_iff_exists.1 hsome
      exact ⟨new, h.skip (e := (e.1, classFile)) hid⟩
    · next hnone => exact ⟨_, h.take (e := (e.1, classFile)) (by simpa using hnone)⟩

end Added

theorem addEntries_added (archive : Path) (c : Cache) (entries : List (String × List UInt8)) :
    ∃ new, Added archive c (classesIn entries) new (entries.foldl (addEntry archive) c) := by
  induction entries using List.reverseRecOn with
  | nil => exact ⟨[], .start archive c⟩
  | append_singleton entries e ih =>
    obtain ⟨new, h⟩ := ih
    rw [List.foldl_append]
    exact h.step e

theorem addEntries_sound (archive : Path) (hs : c.Sound) (entries : List (String × List UInt8)) :
    (entries.foldl (addEntry archive) c).Sound := by
  induction entries generalizing c with
  | nil => exact hs
  | cons e entries ih =>
    refine ih ?_
    unfold addEntry
    split
    · split
      · exact hs
      · next hn => exact hs.insert (by simpa using hn) _
    · exact hs

/-! ## The whole archive -/

/-- The classes of an archive that was loaded. -/
structure LoadsOnce (archive : Path) (classes : List (String × ClassFile)) (c d : Cache) : Prop where
  cached : ∀ e ∈ classes, ∃ id, d.get? e.2.thisClass = some id
  kept : ∀ t id, c.get? t = some id → d.get? t = some id ∧ d.unit? id = c.unit? id
  /-- Without a unit before, a type has that of the first entry that declares it. -/
  first : ∀ t e, c.get? t = none → classes.find? (declares t) = some e →
    ∃ id, d.get? t = some id ∧ d.unit? id = some (unitFrom archive e)
  /-- The new units are behind the others, in the order of those entries. -/
  appended : ∃ new : List (String × ClassFile), d.units = c.units ++ new.map (unitFrom archive) ∧
    FirstSeen (c.uncached classes) (new.map (·.2.thisClass)) ∧
    ∀ e ∈ new, classes.find? (declares e.2.thisClass) = some e
  others : ∀ t, (∀ e ∈ classes, e.2.thisClass ≠ t) → d.get? t = c.get? t

theorem Added.loadsOnce (hs : c.Sound) (h : Added archive c classes new d) : LoadsOnce archive classes c d := by
  have hfirst : ∀ t e, c.get? t = none → classes.find? (declares t) = some e →
      ∃ id, d.get? t = some id ∧ d.unit? id = some (unitFrom archive e) := by
    intro t e ht he
    have hdeclares : declares t e = true := List.find?_some he
    have hdec : e.2.thisClass = t := beq_iff_eq.1 hdeclares
    obtain ⟨k, f, hk, hf, hget⟩ := h.number (hdec ▸ h.mem_new (List.mem_of_find?_eq_some he) (hdec ▸ ht))
    have hef : f = e := Option.some.inj ((h.first f (List.mem_of_getElem? hk)).symm.trans (hf ▸ he))
    refine ⟨_, hget, ?_⟩
    rw [unit?, h.units, List.getElem?_append_right (Nat.le_add_right _ _), Nat.add_sub_cancel_left, List.getElem?_map, hk,
      hef]
    rfl
  refine ⟨fun e he => h.cached he, fun t id ht => ⟨h.old t id ht, ?_⟩, hfirst, ⟨new, h.units, h.types, h.first⟩,
    fun t ht => ?_⟩
  · rw [unit?, h.units, List.getElem?_append_left (hs.lt_of_get? ht)]
    rfl
  · cases hc : c.get? t with
    | some id => exact h.old t id hc
    | none =>
      refine h.others t hc fun hm => ?_
      obtain ⟨⟨e, he, hdec⟩, -⟩ := mem_uncached.1 ((h.types.mem t).1 hm)
      exact ht e he hdec

/-- Loading an archive succeeds when it can be opened and gives its entries. It yields the types of the entries, each at its
first place; every type that a class in it declares has one unit then, the one it had or that of the first entry that
declares it, and no other type has got one. -/
theorem archive_classes_once (hs : c.Sound) (files : FileTree) (path : Path) :
    ((∃ types, (loadArchive files path c).1 = .ok types) ↔
      ∃ a names content, ClassArchive.load files path = .ok a ∧ a.Gives names content) ∧
    ∀ a names content, ClassArchive.load files path = .ok a → a.Gives names content →
      ∃ types, (loadArchive files path c).1 = .ok types ∧
        FirstSeen (names.map fun name => entryType (name, content name)) types ∧
        LoadsOnce path (classesIn (names.map fun name => (name, content name))) c (loadArchive files path c).2 ∧
        (loadArchive files path c).2.Sound := by
  refine ⟨loadArchive_ok_iff, fun a names content ha hg => ?_⟩
  have hsound := addEntries_sound path hs (names.map fun name => (name, content name))
  obtain ⟨new, hadded⟩ := addEntries_added path c (names.map fun name => (name, content name))
  have hloads := hadded.loadsOnce hs
  simp only [loadArchive, ha, readEntries_eq hg]
  refine ⟨_, rfl, ?_, ?_⟩
  · have hseen := firstOccurrences_firstSeen ((names.map fun name => (name, content name)).map entryType)
    rwa [List.map_map] at hseen ⊢
  · split
    · exact ⟨hloads, hsound⟩
    · next hroot =>
      refine ⟨⟨hloads.cached, hloads.kept, hloads.first, hloads.appended, hloads.others⟩, hsound.addRoot ?_⟩
      simpa [ClassRoot.path, ClassArchive.load_path ha] using hroot

/-- Nothing is stored as `B.class`, and the class `B` as `x/B.class`; `A.class` is in order. -/
def shaded : List UInt8 :=
  [80, 75, 3, 4, 20, 0, 0, 0, 0, 0, 0, 0, 0, 0, 0, 0, 0, 0, 0, 0, 0, 0, 0, 0, 0, 0, 7, 0, 0, 0, 66, 46, 99, 108, 97,
   115, 115, 80, 75, 3, 4, 20, 0, 0, 0, 0, 0, 0, 0, 0, 0, 3, 223, 72, 184, 31, 0, 0, 0, 31, 0, 0, 0, 9, 0, 0, 0, 120,
   47, 66, 46, 99, 108, 97, 115, 115, 202, 254, 186, 190, 0, 0, 0, 52, 0, 3, 1, 0, 1, 66, 7, 0, 1, 0, 33, 0, 2, 0, 0,
   0, 0, 0, 0, 0, 0, 0, 0, 80, 75, 3, 4, 20, 0, 0, 0, 0, 0, 0, 0, 0, 0, 97, 2, 206, 82, 31, 0, 0, 0, 31, 0, 0, 0, 7,
   0, 0, 0, 65, 46, 99, 108, 97, 115, 115, 202, 254, 186, 190, 0, 0, 0, 52, 0, 3, 1, 0, 1, 65, 7, 0, 1, 0, 33, 0, 2,
   0, 0, 0, 0, 0, 0, 0, 0, 0, 0, 80, 75, 1, 2, 20, 0, 20, 0, 0, 0, 0, 0, 0, 0, 0, 0, 0, 0, 0, 0, 0, 0, 0, 0, 0, 0, 0,
   0, 7, 0, 0, 0, 0, 0, 0, 0, 0, 0, 0, 0, 0, 0, 0, 0, 0, 0, 66, 46, 99, 108, 97, 115, 115, 80, 75, 1, 2, 20, 0, 20,
   0, 0, 0, 0, 0, 0, 0, 0, 0, 3, 223, 72, 184, 31, 0, 0, 0, 31, 0, 0, 0, 9, 0, 0, 0, 0, 0, 0, 0, 0, 0, 0, 0, 0, 0,
   37, 0, 0, 0, 120, 47, 66, 46, 99, 108, 97, 115, 115, 80, 75, 1, 2, 20, 0, 20, 0, 0, 0, 0, 0, 0, 0, 0, 0, 97, 2,
   206, 82, 31, 0, 0, 0, 31, 0, 0, 0, 7, 0, 0, 0, 0, 0, 0, 0, 0, 0, 0, 0, 0, 0, 107, 0, 0, 0, 65, 46, 99, 108, 97,
   115, 115, 80, 75, 5, 6, 0, 0, 0, 0, 3, 0, 3, 0, 161, 0, 0, 0, 175, 0, 0, 0, 0, 0]

def shadedFiles : FileTree := ⟨[(["A.class"], .file ClassFile.bareClass), (["s.jar"], .file shaded)], []⟩

/-- The cache after `A` was loaded from a file of its own. -/
def shelf : Cache := (resolveByPath shadedFiles ⟨"A.class"⟩ .empty).2

theorem shelf_sound : shelf.Sound :=
  (Advances.resolveByPath shadedFiles empty_sound (empty_faithful fun _ => True) trivial ⟨"A.class"⟩).1.sound

set_option maxRecDepth 4000 in
/-- The archive lists `B` and `A`. The unit of `A` stays the one from the file, and `B` gets the one that parses. -/
theorem archive_classes_once_of_shaded :
    shelf.Sound ∧ ((loadArchive shadedFiles ⟨"s.jar"⟩ shelf).1 = .ok [⟨"B"⟩, ⟨"A"⟩] ∧
      (loadArchive shadedFiles ⟨"s.jar"⟩ shelf).2.units.map (fun u => (u.type, u.origin)) =
        [(⟨"A"⟩, .file ⟨"A.class"⟩), (⟨"B"⟩, .archive ⟨"s.jar"⟩ "x/B.class")]) ∧
      ∃ (names : List String) (content : String → List UInt8),
        FirstSeen (names.map fun name => entryType (name, content name)) [⟨"B"⟩, ⟨"A"⟩] ∧
        LoadsOnce ⟨"s.jar"⟩ (classesIn (names.map fun name => (name, content name))) shelf
          (loadArchive shadedFiles ⟨"s.jar"⟩ shelf).2 := by
  have hrun : (loadArchive shadedFiles ⟨"s.jar"⟩ shelf).1 = .ok [⟨"B"⟩, ⟨"A"⟩] ∧
      (loadArchive shadedFiles ⟨"s.jar"⟩ shelf).2.units.map (fun u => (u.type, u.origin)) =
        [(⟨"A"⟩, .file ⟨"A.class"⟩), (⟨"B"⟩, .archive ⟨"s.jar"⟩ "x/B.class")] := by decide +kernel
  obtain ⟨hgives, hloads⟩ := archive_classes_once shelf_sound shadedFiles ⟨"s.jar"⟩
  obtain ⟨a, names, content, ha, hg⟩ := hgives.1 ⟨_, hrun.1⟩
  obtain ⟨types, htypes, hseen, hl, -⟩ := hloads a names content ha hg
  obtain rfl : [⟨"B"⟩, ⟨"A"⟩] = types := Except.ok.inj (hrun.1.symm.trans htypes)
  exact ⟨shelf_sound, hrun, names, content, hseen, hl⟩

end Cache

end ClassSkeleton
