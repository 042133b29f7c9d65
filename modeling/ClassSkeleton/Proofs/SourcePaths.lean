import ClassSkeleton.Proofs.NameParts
import ClassSkeleton.Proofs.PathNames

/-
  ClassSkeleton.Proofs.SourcePaths — where the source of a type goes.

  A type name is read from a text, a slashed name or the name of an archive entry, and has no slash then, whatever the
  text was (`ReadFrom.slashless`). So the segments of its package have neither slashes nor dots: none is the root, `.`
  or `..`. The path of its source has those that are not empty as its directories, and behind them the simple name with
  `.java` (`components_sourcePath`).

  So the path leads down from any root it is joined to, and two types share one exactly if they have the same simple
  name and the same segments, the empty ones left out (`sourcePath_sameAs_iff`). Types whose segments are all something
  have paths of their own (`source_paths_kept_apart`).
-/

namespace ClassSkeleton

namespace TypeName

variable {s t u : TypeName} {text : String} {part : String}

/-! ## Names that are read -/

/-- `t.ReadFrom text`: `t` is what the text says, in slashed form or as the name of an archive entry. -/
inductive ReadFrom : TypeName → String → Prop where
  | internal (text : String) : ReadFrom (ofInternal text) text
  | entry (text : String) : ReadFrom (ofEntry text) text

theorem ReadFrom.slashless (h : t.ReadFrom text) : '/' ∉ t.chars := by
  cases h with
  | internal => simpa [ofInternal, chars, ofChars] using not_mem_swapChar (by decide) text.toList
  | entry => simpa [ofEntry, chars, ofChars] using not_mem_swapChar (by decide) _

/-! ## Segments of the package -/

/-- The segments of a package; without a package there are none. -/
def segmentsOf (package : Option String) : List String := package.elim [] packageParts

def segments (t : TypeName) : List String := segmentsOf t.package

theorem packageParts_ne_nil (p : String) : packageParts p ≠ [] := by simp [packageParts, Text.splitAll_ne_nil]

theorem packageParts_inj {p q : String} : packageParts p = packageParts q ↔ p = q := by
  constructor
  · intro h
    have hpieces : Text.splitAll '.' p.toList = Text.splitAll '.' q.toList :=
      List.map_injective_iff.2 (fun _ _ => String.ofList_inj.1) h
    rw [← String.toList_inj, ← Text.joinAll_splitAll '.' p.toList, hpieces, Text.joinAll_splitAll]
  · intro h
    rw [h]

theorem segments_inj : s.segments = t.segments ↔ s.package = t.package := by
  unfold segments segmentsOf
  cases hs : s.package <;> cases ht : t.package
  · simp
  · simp [(packageParts_ne_nil _).symm]
  · simp [packageParts_ne_nil]
  · simp [packageParts_inj]

theorem filter_segments (h : "" ∉ t.segments) : t.segments.filter (· ≠ "") = t.segments := by
  refine List.filter_eq_self.2 fun part hm => ?_
  have hne : part ≠ "" := fun he => h (he ▸ hm)
  simpa using hne

theorem dot_not_mem_segment {package : Option String} (h : part ∈ segmentsOf package) : '.' ∉ part.toList := by
  cases package with
  | none => cases h
  | some p =>
    obtain ⟨piece, hpiece, rfl⟩ := List.mem_map.1 h
    simpa using (Text.mem_splitAll hpiece).1

theorem mem_segments (h : part ∈ t.segments) : '.' ∉ part.toList ∧ ∀ c ∈ part.toList, c ∈ t.chars := by
  refine ⟨dot_not_mem_segment h, fun c hc => ?_⟩
  cases hp : t.package with
  | none => simp [segments, segmentsOf, hp] at h
  | some p =>
    rw [segments, hp] at h
    obtain ⟨piece, hpiece, rfl⟩ := List.mem_map.1 h
    rw [String.toList_ofList] at hc
    rw [chars_of_package hp]
    exact List.mem_append_left _ ((Text.mem_splitAll hpiece).2 c hc)

end TypeName

/-! ## Parts as directories -/

theorem ne_dots_of_dotless {part : String} (h : '.' ∉ part.toList) : part ≠ "." ∧ part ≠ ".." := by
  constructor
  · intro he
    rw [he] at h
    exact h (by decide)
  · intro he
    rw [he] at h
    exact h (by decide)

/-- The parts joined one behind the other. -/
def Path.descend (d : Path) (parts : List String) : Path := parts.foldl (fun d part => d.join ⟨part⟩) d

/-- Parts without slashes and dots are directories, and those that are empty leave no trace. -/
theorem Path.components_descend {parts : List String} (h : ∀ part ∈ parts, '/' ∉ part.toList ∧ '.' ∉ part.toList)
    (d : Path) : (d.descend parts).components = d.components ++ (parts.filter (· ≠ "")).map .name := by
  induction parts generalizing d with
  | nil => simp [descend]
  | cons part parts ih =>
    obtain ⟨hs, hd⟩ := h part List.mem_cons_self
    obtain ⟨hhere, hup⟩ := ne_dots_of_dotless hd
    have hback := ih (fun p hp => h p (List.mem_cons_of_mem _ hp)) (d.join ⟨part⟩)
    rw [descend, List.foldl_cons, ← descend, hback, components_join_name hs hhere]
    by_cases he : part = ""
    · simp [he, named, inner]
    · simp [he, named_eq_name he hhere hup]

/-! ## Below a root -/

/-- `p` is below `root`: there are only names behind it, at least one. -/
def Path.IsBelow (p root : Path) : Prop :=
  ∃ names : List String, names ≠ [] ∧ p.components = root.components ++ names.map .name

theorem Path.isAbsolute_of_names {p : Path} {names : List String} (h : p.components = names.map .name) :
    p.isAbsolute = false := by
  rw [Bool.eq_false_iff]
  intro habs
  have hroot := isAbsolute_iff_root.1 habs
  rw [h] at hroot
  simp at hroot

theorem Path.components_join_names {p : Path} {names : List String} (h : p.components = names.map .name)
    (root : Path) : (root.join p).components = root.components ++ names.map .name := by
  rw [components_join (isAbsolute_of_names h), h]
  intro hhead
  have hhere := here_mem_components.2 hhead
  rw [h] at hhere
  simp at hhere

/-- A path of names only is below whatever it is joined to. -/
theorem Path.isBelow_join {p : Path} {names : List String} (h : p.components = names.map .name) (hne : names ≠ [])
    (root : Path) : (root.join p).IsBelow root := ⟨names, hne, components_join_names h root⟩

namespace TypeName

variable {s t u : TypeName} {text : String}

theorem append_ne_of_length {extension short : String} (name : String) (h : short.length < extension.length) :
    name ++ extension ≠ short := by
  intro he
  have hlength := congrArg String.length he
  rw [String.length_append] at hlength
  omega

/-- A simple name without slashes makes a file name with an extension behind it. -/
theorem components_join_file {name extension : String} (hs : '/' ∉ name.toList) (he : '/' ∉ extension.toList)
    (hl : 2 < extension.length) (p : Path) :
    (p.join ⟨name ++ extension⟩).components = p.components ++ [.name (name ++ extension)] := by
  have hslash : '/' ∉ (name ++ extension).toList := by simp [hs, he]
  have hempty : name ++ extension ≠ "" := append_ne_of_length name (Nat.lt_of_le_of_lt (by decide) hl)
  have hhere : name ++ extension ≠ "." := append_ne_of_length name (Nat.lt_of_le_of_lt (by decide) hl)
  have hup : name ++ extension ≠ ".." := append_ne_of_length name (Nat.lt_of_le_of_lt (by decide) hl)
  rw [Path.components_join_name hslash hhere, Path.named_eq_name hempty hhere hup]
  rfl

theorem components_sourcePath (h : '/' ∉ t.chars) :
    t.sourcePath.components = (t.segments.filter (· ≠ "") ++ [t.simpleName ++ ".java"]).map .name := by
  have hsimple : '/' ∉ t.simpleName.toList := by
    rw [simpleName, String.toList_ofList]
    exact fun hm => h (t.simpleChars_subset hm)
  have hparts : ∀ part ∈ t.segments, '/' ∉ part.toList ∧ '.' ∉ part.toList :=
    fun part hm => ⟨fun hs => h ((mem_segments hm).2 _ hs), (mem_segments hm).1⟩
  have hdir : ((⟨""⟩ : Path).descend t.segments).components = (t.segments.filter (· ≠ "")).map .name :=
    Path.components_descend hparts ⟨""⟩
  have hpath : t.sourcePath = ((⟨""⟩ : Path).descend t.segments).join ⟨t.simpleName ++ ".java"⟩ := by
    unfold sourcePath segments
    cases t.package <;> rfl
  rw [hpath, components_join_file hsimple (by decide) (by decide), hdir, List.map_append, List.map_singleton]

theorem sourcePath_sameAs_iff (ht : '/' ∉ t.chars) (hu : '/' ∉ u.chars) : t.sourcePath.sameAs u.sourcePath = true ↔
    t.segments.filter (· ≠ "") = u.segments.filter (· ≠ "") ∧ t.simpleName = u.simpleName := by
  have hname : Function.Injective Component.name := fun _ _ h => Component.name.inj h
  rw [Path.sameAs, beq_iff_eq, components_sourcePath ht, components_sourcePath hu,
    (List.map_injective_iff.2 hname).eq_iff]
  constructor
  · intro h
    obtain ⟨hdirs, hfile⟩ := List.append_inj' h rfl
    exact ⟨hdirs, (String.append_left_inj ".java").1 (List.singleton_inj.1 hfile)⟩
  · rintro ⟨hdirs, hsimple⟩
    rw [hdirs, hsimple]

/-- The path of a type's source is relative and made of names only, so it stays below any root, and its last name is
the simple name with `.java`. Different types have different paths, unless a segment of a package is empty. -/
theorem source_paths_kept_apart (ht : t.ReadFrom text) :
    t.sourcePath.isAbsolute = false ∧ (∀ c ∈ t.sourcePath.components, ∃ name, c = .name name) ∧
    (∀ root : Path, (root.join t.sourcePath).IsBelow root) ∧
    t.sourcePath.components.getLast? = some (.name (t.simpleName ++ ".java")) ∧
    ∀ (other : String) (u : TypeName), u.ReadFrom other → "" ∉ t.segments → "" ∉ u.segments → t ≠ u →
      t.sourcePath.sameAs u.sourcePath = false := by
  have hnames := components_sourcePath ht.slashless
  refine ⟨Path.isAbsolute_of_names hnames, fun c hc => ?_, Path.isBelow_join hnames (by simp), ?_, ?_⟩
  · rw [hnames] at hc
    obtain ⟨name, -, rfl⟩ := List.mem_map.1 hc
    exact ⟨name, rfl⟩
  · rw [hnames, List.getLast?_map, List.getLast?_concat, Option.map_some]
  · intro other u hu hst hsu hne
    rw [Bool.eq_false_iff]
    intro hsame
    obtain ⟨hsegments, hsimple⟩ := (sourcePath_sameAs_iff ht.slashless hu.slashless).1 hsame
    rw [filter_segments hst, filter_segments hsu] at hsegments
    exact hne (eq_of_parts (segments_inj.1 hsegments) (simpleName_inj.1 hsimple))

/-- A nested class of a class file, and an archive entry with a namesake of its outer class in another package. -/
theorem source_paths_kept_apart_of_namesakes :
    (ofInternal "a/b/C$D").sourcePath.isAbsolute = false ∧
      (∀ root : Path, (root.join (ofInternal "a/b/C$D").sourcePath).IsBelow root) ∧
      (ofInternal "a/b/C$D").sourcePath.sameAs (ofEntry "a/c/C.class").sourcePath = false := by
  obtain ⟨hrelative, -, hbelow, -, hapart⟩ := source_paths_kept_apart (.internal "a/b/C$D")
  exact ⟨hrelative, hbelow, hapart _ _ (.entry "a/c/C.class") (by decide) (by decide) (by decide)⟩

/-- A text that would lead up from the root, and two that share a path through an empty segment. -/
example : (ofInternal "/../../etc/passwd").sourcePath = ⟨"etc/passwd.java"⟩ ∧
    (ofInternal "a//C").sourcePath.sameAs (ofEntry "a/C.class").sourcePath = true := by decide

end TypeName

end ClassSkeleton
