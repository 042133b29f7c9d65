import ClassSkeleton.ClassRoot
import ClassSkeleton.Proofs.SourcePaths

/-
  ClassSkeleton.Proofs.ClassRoots — class roots and entry paths undo each other.

  The entry of a type is its name with a slash for each dot and `.class` behind. As the name of an archive entry it is
  read back as the type (`ofEntry_entryPath`): there is no dot left in front of the suffix, so only that is dropped, also
  when the type ends in `class` itself. As a path it has the segments of the package as directories, if none is empty, and
  the simple name with `.class` as its file (`components_entryPath`).

  The class root of a path is found from behind: each segment of the package has to be the last component of the
  directory that is left, and is taken off it. So there is one exactly if the parent's components end with the segments,
  and it has those in front (`classRootOf_iff`). For the entry of a type below a root that is the root; and whatever the
  path, a root that was found leads back to the path's own directory, for its package and for every class of that
  package (`class_roots_undo_entries`).
-/

namespace ClassSkeleton

/-! ## Entries of types -/

theorem splitAll_swapChar {a b : Char} {s : List Char} (h : b ∉ s) :
    Text.splitAll b (swapChar a b s) = Text.splitAll a s := by
  induction s with
  | nil => rfl
  | cons c cs ih =>
    simp only [List.mem_cons, not_or] at h
    have hcs := ih h.2
    simp only [swapChar, List.map_cons] at hcs ⊢
    by_cases hc : c = a
    · simp [Text.splitAll, hc, hcs]
    · simp [Text.splitAll, hc, Ne.symm h.1, hcs]

theorem dropClassSuffix_of_dotless {s : List Char} (h : '.' ∉ s) : dropClassSuffix s = s := by
  unfold dropClassSuffix
  split
  · simp at h
  · rfl

namespace TypeName

variable {t u : TypeName}

theorem ofEntry_entryPath (h : '/' ∉ t.chars) : ofEntry t.entryPath = t := by
  have hdotless : '.' ∉ (swapChar '.' '/' t.chars).reverse := by
    simpa using not_mem_swapChar (by decide) t.chars
  have hentry : t.entryPath.toList.reverse = 's' :: 's' :: 'a' :: 'l' :: 'c' :: '.' :: (swapChar '.' '/' t.chars).reverse := by
    simp [entryPath, String.toList_append]
  apply eq_of_chars
  rw [ofEntry, hentry, dropClassSuffix, dropClassSuffix_of_dotless hdotless, List.reverse_reverse, swapChar_swapChar h]
  simp [chars, ofChars]

theorem names_entryPath (h : '/' ∉ t.chars) :
    (⟨t.entryPath⟩ : Path).names = t.segments ++ [t.simpleName ++ ".class"] := by
  have hsimple : swapChar '.' '/' t.simpleChars = t.simpleChars := swapChar_of_not_mem t.dot_not_mem_simpleChars
  have hfile : '/' ∉ t.simpleChars ++ ".class".toList := by
    rw [List.mem_append, not_or]
    exact ⟨fun hm => h (t.simpleChars_subset hm), by decide⟩
  have hchars : (⟨t.entryPath⟩ : Path).chars = swapChar '.' '/' t.chars ++ ".class".toList := by
    simp [Path.chars, entryPath, String.toList_append]
  rw [Path.names, hchars]
  cases hp : t.package with
  | none =>
    rw [← simpleChars_of_unpackaged hp, hsimple, Text.splitAll_of_not_mem hfile]
    simp [segments, segmentsOf, hp, simpleName]
  | some p =>
    have hpackage : '/' ∉ p.toList := fun hm => h (by rw [chars_of_package hp]; simp [hm])
    have hswap : swapChar '.' '/' t.chars ++ ".class".toList =
        swapChar '.' '/' p.toList ++ '/' :: (t.simpleChars ++ ".class".toList) := by
      rw [chars_of_package hp]
      conv_rhs => rw [← hsimple]
      simp [swapChar]
    rw [hswap, Text.splitAll_append, splitAll_swapChar hpackage, Text.splitAll_of_not_mem hfile]
    simp [segments, segmentsOf, hp, packageParts, simpleName]

theorem components_entryPath (h : '/' ∉ t.chars) (hs : "" ∉ t.segments) :
    (⟨t.entryPath⟩ : Path).components = (t.segments ++ [t.simpleName ++ ".class"]).map .name := by
  rw [← names_entryPath h]
  apply Path.components_of_names
  intro n hn
  rw [names_entryPath h, List.mem_append, List.mem_singleton] at hn
  rcases hn with hn | rfl
  · exact ⟨fun he => hs (he ▸ hn), ne_dots_of_dotless (mem_segments hn).1⟩
  · exact ⟨append_ne_of_length _ (by decide), append_ne_of_length _ (by decide), append_ne_of_length _ (by decide)⟩

/-- Below a root the entry of a type is in the directories of its package. -/
theorem components_join_entryPath (h : '/' ∉ t.chars) (hs : "" ∉ t.segments) (root : Path) :
    (root.join ⟨t.entryPath⟩).components =
      root.components ++ t.segments.map .name ++ [.name (t.simpleName ++ ".class")] := by
  rw [Path.components_join_names (components_entryPath h hs)]
  simp

end TypeName

/-! ## Class roots -/

namespace Path

variable {dir d : Path} {part : String} {front : List Component}

theorem components_of_dropLast? (h : dir.dropLast? part = some d) : dir.components = d.components ++ [.name part] := by
  unfold dropLast? at h
  split at h
  · next hname =>
    obtain ⟨c, hc⟩ := components_of_parent h
    have hlast := fileName_eq_some.1 hname
    rw [hc, List.getLast?_concat] at hlast
    rw [hc, Option.some.inj hlast]
  · cases h

theorem dropLast?_of_components (h : dir.components = front ++ [.name part]) :
    ∃ d, dir.dropLast? part = some d ∧ d.components = front := by
  have hname : dir.fileName = some part := fileName_eq_some.2 (by rw [h, List.getLast?_concat])
  rw [dropLast?, if_pos hname]
  exact parent_of_components h (by simp)

/-- The names can be taken off one by one from behind exactly if the components end with them. -/
theorem dropLasts_iff {names : List String} :
    (∃ r, names.reverse.foldlM dropLast? dir = some r ∧ r.components = front) ↔
      dir.components = front ++ names.map .name := by
  induction names using List.reverseRecOn generalizing dir with
  | nil => simp
  | append_singleton names last ih =>
    rw [List.reverse_concat, List.foldlM_cons, List.map_append, ← List.append_assoc]
    constructor
    · rintro ⟨r, hr, hfront⟩
      obtain ⟨d, hd, hrest⟩ := Option.bind_eq_some_iff.1 hr
      rw [components_of_dropLast? hd, ih.1 ⟨r, hrest, hfront⟩]
      rfl
    · intro h
      obtain ⟨d, hd, hdir⟩ := dropLast?_of_components h
      obtain ⟨r, hr, hfront⟩ := ih.2 hdir
      exact ⟨r, Option.bind_eq_some_iff.2 ⟨d, hd, hr⟩, hfront⟩

end Path

theorem classRootOf_iff {p : Path} {package : Option String} {front : List Component} :
    (∃ root, classRootOf p package = some root ∧ root.components = front) ↔
      ∃ dir, p.parent = some dir ∧ dir.components = front ++ (TypeName.segmentsOf package).map .name := by
  unfold classRootOf
  cases p.parent with
  | none => simp
  | some dir =>
    cases package with
    | none => simp [TypeName.segmentsOf]
    | some package => simpa [TypeName.segmentsOf] using Path.dropLasts_iff

/-- A class root stands in front of the segments of the package, which are all something then. -/
theorem components_of_classRootOf {p root : Path} {package : Option String} (h : classRootOf p package = some root) :
    ∃ dir, p.parent = some dir ∧ dir.components = root.components ++ (TypeName.segmentsOf package).map .name ∧
      ∀ part ∈ TypeName.segmentsOf package, '/' ∉ part.toList ∧ part ≠ "" := by
  obtain ⟨dir, hdir, hcomponents⟩ := classRootOf_iff.1 ⟨root, h, rfl⟩
  refine ⟨dir, hdir, hcomponents, fun part hpart => ?_⟩
  have hmem : Component.name part ∈ dir.components := by
    rw [hcomponents]
    exact List.mem_append_right _ (List.mem_map_of_mem hpart)
  obtain ⟨hs, he, -⟩ := Path.name_mem_components hmem
  exact ⟨hs, he⟩

/-- The entry of a type is read back as the type, and its class root below any root is that root. A class root that was
found for a path, with the segments of the package behind it, is the directory of the path; there the root has the entries
of all classes of the package. -/
theorem class_roots_undo_entries :
    (∀ t : TypeName, '/' ∉ t.chars → "" ∉ t.segments → ∀ r : Path, TypeName.ofEntry t.entryPath = t ∧
      ∃ root, classRootOf (r.join ⟨t.entryPath⟩) t.package = some root ∧ root.sameAs r = true) ∧
    ∀ (p : Path) (package : Option String) (root : Path), classRootOf p package = some root →
      ∃ dir, p.parent = some dir ∧ (root.descend (TypeName.segmentsOf package)).sameAs dir = true ∧
        ∀ u : TypeName, '/' ∉ u.chars → u.package = package →
          (root.join ⟨u.entryPath⟩).sameAs (dir.join ⟨u.simpleName ++ ".class"⟩) = true := by
  constructor
  · intro t ht hs r
    have hentry := TypeName.components_join_entryPath ht hs r
    obtain ⟨dir, hdir, hcomponents⟩ := Path.parent_of_components hentry (by simp)
    obtain ⟨root, hroot, hr⟩ := classRootOf_iff.2 ⟨dir, hdir, hcomponents⟩
    exact ⟨TypeName.ofEntry_entryPath ht, root, hroot, by rw [Path.sameAs, hr, beq_self_eq_true]⟩
  · intro p package root h
    obtain ⟨dir, hdir, hcomponents, hplain⟩ := components_of_classRootOf h
    have hparts : ∀ part ∈ TypeName.segmentsOf package, '/' ∉ part.toList ∧ '.' ∉ part.toList :=
      fun part hm => ⟨(hplain part hm).1, TypeName.dot_not_mem_segment hm⟩
    have hfilter : (TypeName.segmentsOf package).filter (· ≠ "") = TypeName.segmentsOf package :=
      List.filter_eq_self.2 fun part hm => by simpa using (hplain part hm).2
    refine ⟨dir, hdir, ?_, fun u hu hpackage => ?_⟩
    · rw [Path.sameAs, Path.components_descend hparts, hfilter, ← hcomponents, beq_self_eq_true]
    · subst hpackage
      have hempty : "" ∉ u.segments := fun hm => (hplain _ hm).2 rfl
      have hsimple : '/' ∉ u.simpleName.toList := by
        rw [TypeName.simpleName, String.toList_ofList]
        exact fun hm => hu (u.simpleChars_subset hm)
      rw [Path.sameAs, TypeName.components_join_entryPath hu hempty,
        TypeName.components_join_file hsimple (by decide) (by decide), hcomponents, TypeName.segments, beq_self_eq_true]

/-- A class of the package `a.b` below a root that is written with a separator behind it, and the root of one of its
siblings. -/
theorem class_roots_undo_entries_of_sibling :
    (∃ root, classRootOf ⟨"out/a/b/C.class"⟩ (some "a.b") = some root ∧ root.sameAs ⟨"out/"⟩ = true) ∧
      ((⟨"/out"⟩ : Path).join ⟨(⟨"a.b.D"⟩ : TypeName).entryPath⟩).sameAs
        ((⟨"/out/a/b"⟩ : Path).join ⟨"D" ++ ".class"⟩) = true := by
  obtain ⟨hthere, hback⟩ := class_roots_undo_entries
  obtain ⟨dir, hdir, -, hsibling⟩ := hback ⟨"/out/a/b/C.class"⟩ (some "a.b") ⟨"/out"⟩ (by decide)
  cases hdir
  exact ⟨(hthere ⟨"a.b.C"⟩ (by decide) (by decide) ⟨"out/"⟩).2, hsibling ⟨"a.b.D"⟩ (by decide) (by decide)⟩

end ClassSkeleton
