import ClassSkeleton.Cache.Load

/-
  ClassSkeleton.Cache.Nest — loading nested classes.

  A unit's nested classes are the classes its table declares, as far as they can be found; then theirs
  are loaded, and so on. A unit is expanded once, so tables that name each other in circles do no harm.

  The walk ends because what can still happen shrinks: every new unit is a class that some file or
  archive provides and that was not cached, and every expanded unit stays expanded (`workLeft`).
-/

namespace ClassSkeleton

/-- The types declared by the class files in a tree and by the entries of the archives among the roots. -/
def providedTypes (files : FileTree) (roots : List ClassRoot) : List TypeName :=
  (files.nodes.filterMap fun e =>
    match e.2 with
    | .file bytes => (ClassFile.parse bytes).toOption.map (·.thisClass)
    | .dir => none) ++
  roots.flatMap fun r =>
    match r with
    | .directory _ => []
    | .archive a => a.entries.filterMap fun e =>
      match a.read e.name with
      | .ok (some bytes) => (ClassFile.parse bytes).toOption.map (·.thisClass)
      | _ => none

theorem FileTree.mem_nodes_of_read {files : FileTree} {p : Path} {bytes : List UInt8}
    (h : files.read p = .ok bytes) : ∃ place, (place, Node.file bytes) ∈ files.nodes := by
  simp only [FileTree.read] at h
  split at h
  · next b hs =>
    simp only [Except.ok.injEq] at h
    subst h
    simp only [FileTree.stat, bind, Except.bind] at hs
    split at hs
    · simp at hs
    · next place _ =>
      split at hs
      · next n hn =>
        simp only [Except.ok.injEq] at hs
        subst hs
        simp only [FileTree.node?] at hn
        split at hn
        · simp at hn
        · exact ⟨place, Table.mem_of_get? hn⟩
      · simp at hs
  · simp at h
  · simp at h

theorem ClassArchive.mem_entries_of_read {a : ClassArchive} {name : String} {bytes : List UInt8}
    (h : a.read name = .ok (some bytes)) : ∃ e ∈ a.entries, e.name = name := by
  simp only [ClassArchive.read] at h
  split at h
  · simp at h
  · next e he =>
    simp only [ClassArchive.entry?] at he
    exact ⟨e, by simpa using List.mem_of_find?_eq_some he, by simpa using List.find?_some he⟩

theorem mem_providedTypes_of_find {files : FileTree} {t : TypeName} {roots all : List ClassRoot}
    {c : ClassFile} {o : Origin} (h : findOnRoots files t roots = .ok (some (c, o))) (sub : ∀ r ∈ roots, r ∈ all) :
    c.thisClass = t ∧ t ∈ providedTypes files all := by
  induction roots with
  | nil => simp [findOnRoots] at h
  | cons r rest ih =>
    have tail := fun h => ih h fun r hr => sub r (List.mem_cons_of_mem _ hr)
    simp only [findOnRoots] at h
    split at h
    · simp at h
    · exact tail h
    · next bytes origin hf =>
      split at h
      · simp at h
      · next d hd =>
        split at h
        · next ht =>
          simp only [Except.ok.injEq, Option.some.injEq, Prod.mk.injEq] at h
          obtain ⟨rfl, _⟩ := h
          refine ⟨ht, ?_⟩
          have hp : (ClassFile.parse bytes).toOption.map (·.thisClass) = some t := by
            simp only [parseAt] at hd
            split at hd
            · next hc =>
              simp only [Except.ok.injEq] at hd
              simp [hc, Except.toOption, hd, ht]
            · simp at hd
          simp only [providedTypes, List.mem_append]
          cases r with
          | directory dir =>
            left
            simp only [ClassRoot.find] at hf
            split at hf
            · split at hf
              · next b hb =>
                simp only [Except.ok.injEq, Option.some.injEq, Prod.mk.injEq] at hf
                obtain ⟨rfl, _⟩ := hf
                obtain ⟨place, hm⟩ := FileTree.mem_nodes_of_read hb
                exact List.mem_filterMap.2 ⟨_, hm, hp⟩
              · simp at hf
            · simp at hf
          | archive a =>
            right
            simp only [ClassRoot.find] at hf
            split at hf
            · next b hb =>
              simp only [Except.ok.injEq, Option.some.injEq, Prod.mk.injEq] at hf
              obtain ⟨rfl, _⟩ := hf
              obtain ⟨e, he, hn⟩ := ClassArchive.mem_entries_of_read hb
              refine List.mem_flatMap.2 ⟨.archive a, sub _ List.mem_cons_self, List.mem_filterMap.2 ⟨e, he, ?_⟩⟩
              simp only [hn, hb]
              exact hp
            · simp at hf
            · simp at hf
        · exact tail h

namespace Cache

/-- How many units can still be added, plus how many are not expanded yet. -/
def workLeft (files : FileTree) (c : Cache) : Nat :=
  ((providedTypes files c.roots).filter fun t => (c.get? t).isNone).length + c.units.countP fun u => !u.innerLoaded

/-- The units of the types that can be found, other than `self`, in order. A failure to load one is
passed over, unless it is a crash. -/
def resolveAll (files : FileTree) (self : UnitId) : List TypeName → Cache → List UnitId × Cache
  | [], c => ([], c)
  | t :: ts, c =>
    match resolveByIdentity files t c with
    | (.ok id, c) =>
      let (found, c) := resolveAll files self ts c
      (if id = self then found else id :: found, c)
    | (.error e, c) => resolveAll files self ts (c.failed e)

/-- A cache that another one grew from: its units are in front and the roots are the same. -/
structure GrownFrom (files : FileTree) (c d : Cache) : Prop where
  front : c.units <+: d.units
  roots : d.roots = c.roots
  work : d.workLeft files ≤ c.workLeft files

theorem GrownFrom.refl (files : FileTree) (c : Cache) : GrownFrom files c c :=
  ⟨List.prefix_rfl, rfl, Nat.le_refl _⟩

theorem GrownFrom.trans {files : FileTree} {c d e : Cache} (h : GrownFrom files c d) (h' : GrownFrom files d e) :
    GrownFrom files c e :=
  ⟨h.front.trans h'.front, h'.roots.trans h.roots, Nat.le_trans h'.work h.work⟩

theorem grownFrom_failed (files : FileTree) (c : Cache) (e : LoadError) : GrownFrom files c (c.failed e) :=
  ⟨List.prefix_rfl, rfl, Nat.le_refl _⟩

/-- A unit that the roots provide takes the place of the type it adds. -/
theorem grownFrom_insert {files : FileTree} {t : TypeName} {c : Cache} {d : ClassFile} {o : Origin}
    (hg : c.get? t = none) (hf : findOnRoots files t c.roots = .ok (some (d, o))) :
    GrownFrom files c (c.insert (.ofClassFile d o)) := by
  obtain ⟨ht, hm⟩ := mem_providedTypes_of_find hf fun r hr => hr
  refine ⟨List.prefix_append _ _, rfl, ?_⟩
  have hsub : ((providedTypes files c.roots).filter fun u => ((c.insert (.ofClassFile d o)).get? u).isNone) =
      ((providedTypes files c.roots).filter fun u => (c.get? u).isNone).filter fun u => u != t := by
    simp only [List.filter_filter]
    apply List.filter_congr
    intro u _
    simp only [get?, insert, ClassUnit.ofClassFile, Table.get?_put, ht]
    by_cases hu : t = u
    · simp [hu]
    · simp [hu, Ne.symm hu]
  have hlt : (((providedTypes files c.roots).filter fun u => (c.get? u).isNone).filter fun u => u != t).length <
      ((providedTypes files c.roots).filter fun u => (c.get? u).isNone).length :=
    List.length_filter_lt_length_iff_exists.2 ⟨t, by simp [hm, hg], by simp⟩
  have hc : (c.insert (.ofClassFile d o)).units.countP (fun u => !u.innerLoaded) =
      c.units.countP (fun u => !u.innerLoaded) + 1 := by
    simp [insert, ClassUnit.ofClassFile]
  simp only [workLeft, hc]
  have hroots : (c.insert (.ofClassFile d o)).roots = c.roots := rfl
  rw [hroots, hsub]
  omega

theorem grownFrom_resolveByIdentity (files : FileTree) (t : TypeName) (c : Cache) :
    GrownFrom files c (resolveByIdentity files t c).2 := by
  simp only [resolveByIdentity]
  split
  · exact .refl files c
  · next hg =>
    split
    · next hf => exact grownFrom_insert hg hf
    · exact .refl files c
    · exact .refl files c

theorem grownFrom_resolveAll (files : FileTree) (self : UnitId) (ts : List TypeName) (c : Cache) :
    GrownFrom files c (resolveAll files self ts c).2 := by
  induction ts generalizing c with
  | nil => exact .refl files c
  | cons t ts ih =>
    have h := grownFrom_resolveByIdentity files t c
    simp only [resolveAll]
    split
    · next hr => rw [hr] at h; exact h.trans (ih _)
    · next e d hr => rw [hr] at h; exact (h.trans (grownFrom_failed files d e)).trans (ih _)

/-- Notes the nested units of a unit. -/
def setInner (c : Cache) (id : UnitId) (found : List UnitId) : Cache :=
  c.modify id fun u => { u with innerUnits := found, innerLoaded := true }

theorem countP_modify_lt {l : List ClassUnit} {i : Nat} {u : ClassUnit} {f : ClassUnit → ClassUnit}
    (h : l[i]? = some u) (hu : u.innerLoaded = false) (hf : (f u).innerLoaded = true) :
    (l.modify i f).countP (fun u => !u.innerLoaded) < l.countP (fun u => !u.innerLoaded) := by
  induction l generalizing i with
  | nil => simp at h
  | cons a l ih =>
    cases i with
    | zero =>
      simp only [List.getElem?_cons_zero, Option.some.injEq] at h
      simp [h, hu, hf]
    | succ i =>
      simp only [List.getElem?_cons_succ] at h
      have := ih h
      simp only [List.modify_succ_cons, List.countP_cons]
      omega

theorem workLeft_setInner_lt {files : FileTree} {c d : Cache} {id : UnitId} {u : ClassUnit} {found : List UnitId}
    (hu : c.unit? id = some u) (hl : u.innerLoaded = false) (hd : GrownFrom files c d) :
    (d.setInner id found).workLeft files < c.workLeft files := by
  obtain ⟨more, hm⟩ := hd.front
  have hi : d.units[id]? = some u := by
    obtain ⟨hlt, _⟩ := List.getElem?_eq_some_iff.1 hu
    rw [← hm, List.getElem?_append_left hlt]
    exact hu
  have hcount := countP_modify_lt (f := fun u => { u with innerUnits := found, innerLoaded := true }) hi hl rfl
  have hwork := hd.work
  simp only [workLeft, setInner, modify, get?] at *
  omega

/-- Expands the pending units, and those found on the way before the ones that wait. -/
def loadPending (files : FileTree) (pending : List UnitId) (c : Cache) : Cache :=
  match pending with
  | [] => c
  | id :: rest =>
    match _hu : c.unit? id with
    | none => loadPending files rest c
    | some u =>
      if _hl : u.innerLoaded = true then loadPending files rest c
      else
        let resolved := resolveAll files id (u.classFile.declaredInner.map (·.inner)) c
        loadPending files (resolved.1 ++ rest) (resolved.2.setInner id resolved.1)
termination_by (c.workLeft files, pending.length)
decreasing_by
  · exact Prod.Lex.right _ (by simp)
  · exact Prod.Lex.right _ (by simp)
  · exact Prod.Lex.left _ _ (workLeft_setInner_lt ‹_› (by simpa using _hl) (grownFrom_resolveAll ..))

/-- Loads the classes nested in a unit, at every depth. -/
def loadInnerClasses (files : FileTree) (id : UnitId) (c : Cache) : Cache := loadPending files [id] c

end Cache

end ClassSkeleton
