import ClassSkeleton.Proofs.ArchiveListing

/-
  ClassSkeleton.Proofs.FailedLoads — operations on the cache that fail.

  What can go wrong is listed once (`Cache.Fails`). An archive that is to be a root may not open. A file may not be read, or
  be no class. A type is found on no root, or the search breaks off at a root, behind others that have nothing or another class
  under the type's name. An archive that is to be loaded may not open, may not say what is in it, or has an entry that cannot
  be read, behind any number of others that can.

  An operation that is in the list fails with the error the list gives and returns the cache it was given (`Fails.fault`), and
  one that is not in the list does not fail (`fault?_iff`). So failures leave no trace (`failed_loads_atomic`): from any history
  the operations that failed can be left out, those that remain succeed, and the cache at the end is the same.
-/

namespace ClassSkeleton

/-! ## The search on the roots -/

namespace ClassRoot

/-- The search goes on behind the root: it has nothing under the name of the type, or a class that declares another type. -/
inductive Passed (files : FileTree) (t : TypeName) (r : ClassRoot) : Prop where
  | absent (h : r.find files t.entryPath = .ok none)
  | other {bytes : List UInt8} {origin : Origin} {d : ClassFile} (h : r.find files t.entryPath = .ok (some (bytes, origin)))
      (hp : parseAt origin.path bytes = .ok d) (ht : d.thisClass ≠ t)

/-- The search breaks off at the root: what it has under the name of the type cannot be read, or is no class. -/
inductive Breaks (files : FileTree) (t : TypeName) (e : LoadError) (r : ClassRoot) : Prop where
  | unread (h : r.find files t.entryPath = .error e)
  | unparsed {bytes : List UInt8} {origin : Origin} (h : r.find files t.entryPath = .ok (some (bytes, origin)))
      (hp : parseAt origin.path bytes = .error e)

end ClassRoot

variable {files : FileTree} {t : TypeName} {r : ClassRoot} {front roots : List ClassRoot} {e : LoadError}

theorem findOnRoots_of_passed (h : r.Passed files t) : findOnRoots files t (r :: roots) = findOnRoots files t roots := by
  cases h with
  | absent h => simp only [findOnRoots, h]
  | other h hp ht => simp only [findOnRoots, h, hp, if_neg ht]

theorem findOnRoots_of_breaks (h : r.Breaks files t e) : findOnRoots files t (r :: roots) = .error e := by
  cases h with
  | unread h => simp only [findOnRoots, h]
  | unparsed h hp => simp only [findOnRoots, h, hp]

theorem findOnRoots_behind (h : ∀ r ∈ front, r.Passed files t) :
    findOnRoots files t (front ++ roots) = findOnRoots files t roots := by
  induction front with
  | nil => rfl
  | cons r front ih =>
    rw [List.cons_append, findOnRoots_of_passed (h r List.mem_cons_self), ih fun q hq => h q (List.mem_cons_of_mem _ hq)]

theorem findOnRoots_none (h : ∀ r ∈ roots, r.Passed files t) : findOnRoots files t roots = .ok none := by
  rw [← List.append_nil roots, findOnRoots_behind h]
  rfl

theorem findOnRoots_error {back : List ClassRoot} (hf : ∀ r ∈ front, r.Passed files t) (h : r.Breaks files t e) :
    findOnRoots files t (front ++ r :: back) = .error e := by
  rw [findOnRoots_behind hf, findOnRoots_of_breaks h]

theorem findOnRoots_at (files : FileTree) (t : TypeName) (r : ClassRoot) (roots : List ClassRoot) :
    r.Passed files t ∨ (∃ e, r.Breaks files t e) ∨ ∃ found, findOnRoots files t (r :: roots) = .ok (some found) := by
  cases hf : r.find files t.entryPath with
  | error e => exact .inr (.inl ⟨e, .unread hf⟩)
  | ok found =>
    rcases found with _ | ⟨bytes, origin⟩
    · exact .inl (.absent hf)
    cases hp : parseAt origin.path bytes with
    | error e => exact .inr (.inl ⟨e, .unparsed hf hp⟩)
    | ok d =>
      by_cases ht : d.thisClass = t
      · exact .inr (.inr ⟨(d, origin), by simp only [findOnRoots, hf, hp, if_pos ht]⟩)
      · exact .inl (.other hf hp ht)

/-- What the search comes to is decided by the first root that it does not go on behind. -/
theorem findOnRoots_cases (files : FileTree) (t : TypeName) (roots : List ClassRoot) :
    (∃ found, findOnRoots files t roots = .ok (some found)) ∨ (∀ r ∈ roots, r.Passed files t) ∨
    ∃ front r back e, roots = front ++ r :: back ∧ (∀ q ∈ front, q.Passed files t) ∧ r.Breaks files t e := by
  classical
  cases hfind : roots.find? fun r => ¬ r.Passed files t with
  | none => exact .inr (.inl (by simpa using hfind))
  | some r =>
    obtain ⟨hr, front, back, rfl, hf⟩ := List.find?_eq_some_iff_append.1 hfind
    have hfront : ∀ q ∈ front, q.Passed files t := by simpa using hf
    rcases findOnRoots_at files t r back with hpassed | ⟨e, he⟩ | hfound
    · exact absurd hpassed (by simpa using hr)
    · exact .inr (.inr ⟨front, r, back, e, rfl, hfront, he⟩)
    · rw [findOnRoots_behind hfront]
      exact .inl hfound

/-! ## Reading an archive -/

/-- The archive cannot be read: not what is in it, or not one of its class entries, however many are read before. -/
inductive ClassArchive.Breaks (a : ClassArchive) (e : LoadError) : Prop where
  | unlisted (h : a.classEntries = .error e)
  | unread {front back : List String} {name : String} (hl : a.classEntries = .ok (front ++ name :: back))
      (hf : ∀ n ∈ front, ∃ bytes, a.read n = .ok bytes) (h : a.read name = .error e)

theorem ClassArchive.breaks_of_listed {a : ClassArchive} {names : List String} (hl : a.classEntries = .ok names) :
    a.Breaks e ↔ ∃ front name back, names = front ++ name :: back ∧ (∀ n ∈ front, ∃ bytes, a.read n = .ok bytes) ∧
      a.read name = .error e := by
  constructor
  · intro h
    cases h with
    | unlisted h =>
      rw [hl] at h
      cases h
    | unread h hf hname =>
      rw [hl] at h
      cases h
      exact ⟨_, _, _, rfl, hf, hname⟩
  · rintro ⟨front, name, back, rfl, hf, hname⟩
    exact .unread hl hf hname

theorem Cache.readEntries_error_iff {a : ClassArchive} : readEntries a = .error e ↔ a.Breaks e := by
  have herror (n : String) (e : LoadError) :
      ((a.read n).map fun bytes => bytes.map fun b => (n, b)) = .error e ↔ a.read n = .error e := by
    cases a.read n <;> simp [Except.map]
  have hok (n : String) :
      (∃ x, ((a.read n).map fun bytes => bytes.map fun b => (n, b)) = .ok x) ↔ ∃ bytes, a.read n = .ok bytes := by
    cases a.read n <;> simp [Except.map]
  cases hl : a.classEntries with
  | error e' =>
    have hsame : readEntries a = .error e' := by simp only [readEntries, hl, bind, Except.bind]
    rw [hsame, Except.error.injEq]
    constructor
    · rintro rfl
      exact .unlisted hl
    · rintro (h | ⟨h, -, -⟩) <;> rw [hl] at h <;> cases h
      rfl
  | ok names =>
    simp only [ClassArchive.breaks_of_listed hl, ← herror, ← hok, ← mapM_error_iff]
    simp only [readEntries, hl, bind, Except.bind]
    split
    · next he => simp [he]
    · next hread => simp [hread, pure, Except.pure]

namespace Cache

/-! ## What can go wrong -/

/-- The operation fails with the error. -/
inductive Fails (files : FileTree) (c : Cache) : Op → LoadError → Prop where
  | rootUnopened {path : Path} {e : LoadError} (hn : c.hasRootAt path = false) (ha : path.isArchive = true)
      (h : ClassArchive.load files path = .error e) : Fails files c (.addClasspath path) e
  | fileUnread {path : Path} {e : IoError} (h : files.read path = .error e) :
      Fails files c (.resolveByPath path) (.io path e)
  | fileUnparsed {path : Path} {bytes : List UInt8} {e : LoadError} (h : files.read path = .ok bytes)
      (hp : parseAt path bytes = .error e) : Fails files c (.resolveByPath path) e
  | unfound {t : TypeName} (hc : c.get? t = none) (h : ∀ r ∈ c.roots, r.Passed files t) :
      Fails files c (.resolveByIdentity t) (.cannotLoad t)
  | brokenRoot {t : TypeName} {front back : List ClassRoot} {r : ClassRoot} {e : LoadError} (hc : c.get? t = none)
      (hr : c.roots = front ++ r :: back) (hf : ∀ q ∈ front, q.Passed files t) (h : r.Breaks files t e) :
      Fails files c (.resolveByIdentity t) e
  | unopened {path : Path} {e : LoadError} (h : ClassArchive.load files path = .error e) :
      Fails files c (.loadArchive path) e
  | brokenArchive {path : Path} {a : ClassArchive} {e : LoadError} (ha : ClassArchive.load files path = .ok a)
      (h : a.Breaks e) : Fails files c (.loadArchive path) e

def failure {α : Type} : Except LoadError α → Option LoadError
  | .ok _ => none
  | .error e => some e

/-- The error of an operation that fails. -/
def fault? (c : Cache) (files : FileTree) : Op → Option LoadError
  | .addClasspath path => failure (c.addClasspath files path).1
  | .resolveByPath path => failure (resolveByPath files path c).1
  | .resolveByIdentity t => failure (resolveByIdentity files t c).1
  | .loadArchive path => failure (loadArchive files path c).1
  | .loadInnerClasses _ => none
  | .releaseHeavyState _ => none

variable {c : Cache} {op : Op}

theorem Fails.fault (h : Fails files c op e) : c.fault? files op = some e ∧ c.perform files op = c := by
  cases h with
  | rootUnopened hn ha h => simp [fault?, failure, perform, addClasspath, hn, ha, h]
  | fileUnread h => simp [fault?, failure, perform, resolveByPath, h]
  | fileUnparsed h hp => simp [fault?, failure, perform, resolveByPath, h, hp]
  | unfound hc h => simp [fault?, failure, perform, resolveByIdentity, hc, findOnRoots_none h]
  | brokenRoot hc hr hf h =>
    simp [fault?, failure, perform, resolveByIdentity, hc, hr, findOnRoots_error hf h]
  | unopened h => simp [fault?, failure, perform, loadArchive, h]
  | brokenArchive ha h => simp [fault?, failure, perform, loadArchive, ha, readEntries_error_iff.2 h]

/-- Every operation succeeds, or fails for a reason that is listed. -/
theorem fault?_cases (files : FileTree) (c : Cache) (op : Op) : c.fault? files op = none ∨ ∃ e, Fails files c op e := by
  cases op with
  | addClasspath path =>
    simp only [fault?, addClasspath]
    split
    · exact .inl rfl
    next hn =>
    split
    · next ha =>
      split
      · exact .inl rfl
      · next e he => exact .inr ⟨e, .rootUnopened (by simpa using hn) ha he⟩
    · exact .inl rfl
  | resolveByPath path =>
    simp only [fault?, resolveByPath]
    split
    · next e he => exact .inr ⟨_, .fileUnread he⟩
    next bytes hb =>
    split
    · next e he => exact .inr ⟨e, .fileUnparsed hb he⟩
    · split <;> exact .inl rfl
  | resolveByIdentity t =>
    simp only [fault?, resolveByIdentity]
    split
    · exact .inl rfl
    next hc =>
    rcases findOnRoots_cases files t c.roots with ⟨found, hfound⟩ | hall | ⟨front, r, back, e, hr, hf, he⟩
    · rw [hfound]
      exact .inl rfl
    · exact .inr ⟨_, .unfound hc hall⟩
    · exact .inr ⟨e, .brokenRoot hc hr hf he⟩
  | loadArchive path =>
    simp only [fault?, loadArchive]
    split
    · next e he => exact .inr ⟨e, .unopened he⟩
    next a ha =>
    split
    · next e he => exact .inr ⟨e, .brokenArchive ha (readEntries_error_iff.1 he)⟩
    · exact .inl rfl
  | loadInnerClasses id => exact .inl rfl
  | releaseHeavyState id => exact .inl rfl

theorem fault?_iff : c.fault? files op = some e ↔ Fails files c op e := by
  refine ⟨fun h => ?_, fun h => h.fault.1⟩
  rcases fault?_cases files c op with hnone | ⟨e', he'⟩
  · rw [h] at hnone
    cases hnone
  · have hsame := he'.fault.1
    rw [h] at hsame
    cases hsame
    exact he'

theorem perform_of_fault (op : Op) (h : c.fault? files op = some e) : c.perform files op = c := (fault?_iff.1 h).fault.2

/-! ## Histories -/

/-- Every operation of the history succeeds when its turn comes. -/
def Faultless (c : Cache) : List (FileTree × Op) → Prop
  | [] => True
  | op :: ops => c.fault? op.1 op.2 = none ∧ (c.perform op.1 op.2).Faultless ops

/-- What failed can be left out. -/
theorem faultless_history (c : Cache) (ops : List (FileTree × Op)) :
    ∃ kept, kept.Sublist ops ∧ c.Faultless kept ∧ c.performAll kept = c.performAll ops := by
  induction ops generalizing c with
  | nil => exact ⟨[], .slnil, trivial, rfl⟩
  | cons op ops ih =>
    obtain ⟨kept, hsub, hkept, hsame⟩ := ih (c.perform op.1 op.2)
    cases hf : c.fault? op.1 op.2 with
    | none => exact ⟨op :: kept, hsub.cons_cons op, ⟨hf, hkept⟩, hsame⟩
    | some e =>
      have hc : c.perform op.1 op.2 = c := perform_of_fault op.2 hf
      have hstep : c.performAll (op :: ops) = (c.perform op.1 op.2).performAll ops := rfl
      rw [hc] at hkept
      exact ⟨kept, hsub.cons op, hkept, by rw [hstep, ← hsame, hc]⟩

/-- An operation that fails leaves the cache as it was, and fails for a reason in the list; whatever has failed in a history,
what is left without it succeeds and leads to the same cache. -/
theorem failed_loads_atomic (files : FileTree) (c : Cache) :
    (∀ path e, (c.addClasspath files path).1 = .error e → (c.addClasspath files path).2 = c) ∧
    (∀ path e, (resolveByPath files path c).1 = .error e → (resolveByPath files path c).2 = c) ∧
    (∀ t e, (resolveByIdentity files t c).1 = .error e → (resolveByIdentity files t c).2 = c) ∧
    (∀ path e, (loadArchive files path c).1 = .error e → (loadArchive files path c).2 = c) ∧
    (∀ op e, c.fault? files op = some e ↔ Fails files c op e) ∧
    ∀ ops, ∃ kept, kept.Sublist ops ∧ c.Faultless kept ∧ c.performAll kept = c.performAll ops := by
  refine ⟨fun path e h => ?_, fun path e h => ?_, fun t e h => ?_, fun path e h => ?_, fun op e => fault?_iff,
    faultless_history c⟩
  · exact perform_of_fault (.addClasspath path) (congrArg failure h)
  · exact perform_of_fault (.resolveByPath path) (congrArg failure h)
  · exact perform_of_fault (.resolveByIdentity t) (congrArg failure h)
  · exact perform_of_fault (.loadArchive path) (congrArg failure h)

/-- The archive with a wrong checksum for `A.class`, its last entry. -/
def damagedFiles : FileTree := ⟨[(["A.class"], .file ClassFile.bareClass), (["s.jar"], .file (shaded.set 299 0))], []⟩

set_option maxRecDepth 4000 in
/-- The class `B` was read by then. It is not in the cache. -/
theorem failed_loads_atomic_of_damaged :
    (loadArchive damagedFiles ⟨"s.jar"⟩ shelf).1 = .error (.io ⟨"s.jar/A.class"⟩ .badChecksum) ∧
      (loadArchive damagedFiles ⟨"s.jar"⟩ shelf).2 = shelf := by
  have h : (loadArchive damagedFiles ⟨"s.jar"⟩ shelf).1 = .error (.io ⟨"s.jar/A.class"⟩ .badChecksum) := by
    decide +kernel
  exact ⟨h, (failed_loads_atomic damagedFiles shelf).2.2.2.1 _ _ h⟩

end Cache

end ClassSkeleton
