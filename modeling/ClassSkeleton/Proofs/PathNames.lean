import ClassSkeleton.Path
import Mathlib.Data.List.Basic
import Mathlib.Data.List.Induction

/-
  ClassSkeleton.Proofs.PathNames — paths by their names.

  A path is walked along its names, the pieces between the separators (`names`). Its components are those of the names
  that say something, behind the root and a `.` that stands first (`components_eq`). A relative path joined to another
  puts its names behind those of the other (`names_join`), and with them its components, unless it begins with a `.`
  (`components_join`).

  The parent of a path is cut from its text, but what it has is all components except the last (`components_of_parent`):
  what is cut off with the last name are names that say nothing, and what is left is a front of the names that still has
  one that does, so it is absolute exactly if the path was. Only a path with no component but the root has no parent
  (`parent_of_components`).
-/

namespace ClassSkeleton

namespace Path

/-! ## Names -/

/-- The names a path is walked along. -/
def names (p : Path) : List String := (Text.splitAll '/' p.chars).map String.ofList

theorem names_ne_nil (p : Path) : p.names ≠ [] := by
  simp [names, Text.splitAll_ne_nil]

/-- The names of a relative path come behind those of the path it is joined to; a separator at the end of that
one is no name of its own any more. -/
theorem names_join {p q : Path} (hq : q.isAbsolute = false) (hp : p.chars ≠ []) :
    ∃ front, (p.join q).names = front ++ q.names ∧ (p.names = front ∨ p.names = front ++ [""]) := by
  obtain ⟨body, c, hc⟩ : ∃ body c, p.chars = body ++ [c] := by
    rcases List.eq_nil_or_concat p.chars with h | ⟨body, c, h⟩
    · exact absurd h hp
    · exact ⟨body, c, by simpa using h⟩
  have hlast : p.chars.getLast? = some c := by rw [hc]; simp
  simp only [join, hq, hlast]
  by_cases hsep : c = '/'
  · refine ⟨(Text.splitAll '/' body).map String.ofList, ?_, .inr ?_⟩
    · have hjoined : (⟨p.text ++ q.text⟩ : Path).chars = body ++ '/' :: q.chars := by
        show (p.text ++ q.text).toList = _
        rw [String.toList_append, show p.text.toList = p.chars from rfl, hc, hsep]
        simp [chars]
      rw [if_pos hsep]
      simp [names, hjoined, Text.splitAll_append]
    · rw [names, hc, hsep, Text.splitAll_append]
      simp [Text.splitAll]
  · refine ⟨p.names, ?_, .inl rfl⟩
    have hjoined : (⟨p.text ++ "/" ++ q.text⟩ : Path).chars = p.chars ++ '/' :: q.chars := by
      show (p.text ++ "/" ++ q.text).toList = _
      simp [String.toList_append, chars]
    rw [if_neg hsep]
    simp [names, hjoined, Text.splitAll_append]

theorem join_of_empty {p q : Path} (hp : p.chars = []) : p.join q = q := by
  simp only [join, hp]
  split <;> rfl

theorem getLast?_names_join (p q : Path) : (p.join q).names.getLast? = q.names.getLast? := by
  by_cases hq : q.isAbsolute = true
  · rw [join, if_pos hq]
  · by_cases hp : p.chars = []
    · rw [join_of_empty hp]
    · obtain ⟨front, hn, -⟩ := names_join (by simpa using hq) hp
      rw [hn, List.getLast?_append_of_ne_nil _ q.names_ne_nil]

theorem isAbsolute_join {p q : Path} (hq : q.isAbsolute = false) : (p.join q).isAbsolute = p.isAbsolute := by
  by_cases hp : p.chars = []
  · rw [join_of_empty hp, hq, isAbsolute, hp]
    rfl
  · have hfront : ∀ more : String, (⟨p.text ++ more⟩ : Path).isAbsolute = p.isAbsolute := by
      intro more
      have hc : (⟨p.text ++ more⟩ : Path).chars = p.chars ++ more.toList := by simp [chars, String.toList_append]
      rw [isAbsolute, isAbsolute, hc]
      cases h : p.chars with
      | nil => exact absurd h hp
      | cons x xs => rfl
    unfold join
    rw [if_neg (by simp [hq])]
    split
    · next h => exact absurd (List.getLast?_eq_none_iff.1 h) hp
    · split
      · exact hfront _
      · rw [String.append_assoc]
        exact hfront _

/-! ## Components -/

/-- What a name stands for behind the start of a path. -/
def named (n : String) : Option Component := inner n.toList

/-- The components that are no names: the root, or a `.` at the start. -/
def lead (p : Path) : List Component :=
  (if p.isAbsolute then [.root] else []) ++ if p.names.head? = some "." then [.here] else []

/-- Segments with their components, the first one apart. -/
def mark : List (List Char) → List (List Char × Option Component)
  | [] => []
  | first :: rest => (first, if first = ['.'] then some .here else inner first) :: rest.map fun s => (s, inner s)

theorem marked_eq (p : Path) : p.marked = mark (Text.splitAll '/' p.chars) := rfl

@[simp] theorem map_fst_mark (segments : List (List Char)) : (mark segments).map (·.1) = segments := by
  cases segments with
  | nil => rfl
  | cons first rest => simp [mark, Function.comp_def]

theorem inner_here : inner ['.'] = none := by simp [inner]

theorem filterMap_mark (segments : List (List Char)) :
    (mark segments).filterMap (·.2) =
      (if segments.head? = some ['.'] then [.here] else []) ++ segments.filterMap inner := by
  cases segments with
  | nil => rfl
  | cons first rest =>
    by_cases hd : first = ['.']
    · simp [mark, hd, inner_here, List.filterMap_map]
    · cases hf : inner first with
      | none => simp [mark, hd, hf, List.filterMap_map]
      | some c => simp [mark, hd, hf, List.filterMap_map]

theorem head?_names (p : Path) : p.names.head? = some "." ↔ (Text.splitAll '/' p.chars).head? = some ['.'] := by
  rw [names, List.head?_map]
  cases (Text.splitAll '/' p.chars).head? with
  | none => simp
  | some s => simp [← String.toList_inj]

theorem components_eq (p : Path) : p.components = p.lead ++ p.names.filterMap named := by
  have hnamed : p.names.filterMap named = (Text.splitAll '/' p.chars).filterMap inner := by
    simp [names, List.filterMap_map, Function.comp_def, named]
  rw [components, marked_eq, filterMap_mark, lead, hnamed, List.append_assoc]
  simp only [head?_names]

theorem named_eq_name {n : String} (h0 : n ≠ "") (h1 : n ≠ ".") (h2 : n ≠ "..") : named n = some (.name n) := by
  have hchars : ∀ s : String, n.toList = s.toList → n = s := fun s => String.toList_inj.1
  have hempty : n.toList ≠ [] := fun h => h0 (hchars "" h)
  have hhere : n.toList ≠ ['.'] := fun h => h1 (hchars "." h)
  have hup : n.toList ≠ ['.', '.'] := fun h => h2 (hchars ".." h)
  simp [named, inner, hempty, hhere, hup, String.ofList_toList]

/-- A component that is a name is not empty, and none of the two that have a meaning of their own. -/
theorem named_eq_some_name {n m : String} : named n = some (.name m) ↔ n = m ∧ m ≠ "" ∧ m ≠ "." ∧ m ≠ ".." := by
  constructor
  · intro h
    unfold named inner at h
    split at h
    · cases h
    · next hplain =>
      split at h
      · cases h
      · next hup =>
        cases h
        simp only [String.ofList_toList, true_and]
        refine ⟨fun he => hplain (.inl (by rw [he]; rfl)), fun he => hplain (.inr (by rw [he]; rfl)), fun he => hup ?_⟩
        rw [he]
        rfl
  · rintro ⟨rfl, h0, h1, h2⟩
    exact named_eq_name h0 h1 h2

theorem isAbsolute_of_prefix {p q : Path} (h : p.chars <+: q.chars) (hne : p.chars ≠ []) :
    p.isAbsolute = q.isAbsolute := by
  obtain ⟨more, hm⟩ := h
  rw [isAbsolute, isAbsolute, ← hm]
  cases hp : p.chars with
  | nil => exact absurd hp hne
  | cons c cs => rfl

/-- Joining a relative path puts its components behind, unless it begins with a `.`. -/
theorem components_join {p q : Path} (hq : q.isAbsolute = false) (hd : q.names.head? ≠ some ".") :
    (p.join q).components = p.components ++ q.components := by
  have hlead : q.lead = [] := by simp [lead, hq, hd]
  by_cases hp : p.chars = []
  · have hempty : p.components = [] := by
      rw [components, marked_eq, isAbsolute, hp]
      rfl
    rw [join_of_empty hp, hempty, List.nil_append]
  · obtain ⟨front, hjoined, hfront⟩ := names_join hq hp
    have hne : front ≠ [] := by
      intro he
      rcases hfront with hf | hf
      · exact p.names_ne_nil (hf.trans he)
      · -- then the path has no characters
        rw [he, List.nil_append, names] at hf
        obtain ⟨s, hs, hs'⟩ := List.map_eq_singleton_iff.1 hf
        have hempty : s = [] := by simpa using congrArg String.toList hs'
        exact hp (by rw [← Text.joinAll_splitAll '/' p.chars, hs, hempty]; rfl)
    have hhead : (p.join q).names.head? = p.names.head? := by
      rw [hjoined, List.head?_append_of_ne_nil _ hne]
      rcases hfront with hf | hf <;> rw [hf]
      rw [List.head?_append_of_ne_nil _ hne]
    have hback : p.names.filterMap named = front.filterMap named := by
      rcases hfront with hf | hf <;> rw [hf]
      simp [named, inner]
    rw [components_eq, components_eq p, components_eq q, hlead, lead, isAbsolute_join hq, hhead, hjoined, hback]
    simp [lead]

/-- A name without separators is one component, if it is any. -/
theorem names_of_name {n : String} (hs : '/' ∉ n.toList) : (⟨n⟩ : Path).names = [n] := by
  rw [names, chars, Text.splitAll_of_not_mem hs]
  simp

theorem isAbsolute_of_name {n : String} (hs : '/' ∉ n.toList) : (⟨n⟩ : Path).isAbsolute = false := by
  unfold isAbsolute chars
  cases hc : n.toList with
  | nil => rfl
  | cons c cs =>
    rw [hc] at hs
    simp only [List.mem_cons, not_or] at hs
    simpa using Ne.symm hs.1

theorem components_join_name {n : String} (hs : '/' ∉ n.toList) (h1 : n ≠ ".") (p : Path) :
    (p.join ⟨n⟩).components = p.components ++ (named n).toList := by
  have hnames := names_of_name hs
  have habs := isAbsolute_of_name hs
  have hhead : (⟨n⟩ : Path).names.head? ≠ some "." := by simpa [hnames] using h1
  rw [components_join habs hhead, components_eq ⟨n⟩, lead, hnames, habs]
  cases hn : named n <;> simp [hn, h1]

/-- Behind the start there is neither a root nor a `.`. -/
theorem named_ne (n : String) : named n ≠ some .root ∧ named n ≠ some .here := by
  unfold named inner
  split
  · simp
  · split <;> simp

theorem isAbsolute_iff_root {p : Path} : p.isAbsolute = true ↔ .root ∈ p.components := by
  rw [components_eq, lead]
  cases p.isAbsolute <;> simp [named_ne]

theorem named_eq_up {n : String} : named n = some .up ↔ n = ".." := by
  constructor
  · intro h
    unfold named inner at h
    split at h
    · cases h
    · split at h
      · next hup => exact String.toList_inj.1 hup
      · cases h
  · rintro rfl
    rfl

theorem up_mem_components {p : Path} : .up ∈ p.components ↔ ".." ∈ p.names := by
  rw [components_eq, lead]
  by_cases hhead : p.names.head? = some "." <;> cases p.isAbsolute <;> simp [hhead, named_eq_up]

theorem here_mem_components {p : Path} : .here ∈ p.components ↔ p.names.head? = some "." := by
  rw [components_eq, lead]
  by_cases hhead : p.names.head? = some "." <;> cases p.isAbsolute <;> simp [hhead, named_ne]

/-- The components that are names are among the names, which have no separators. -/
theorem name_mem_components {p : Path} {n : String} (h : .name n ∈ p.components) :
    '/' ∉ n.toList ∧ n ≠ "" ∧ n ≠ "." ∧ n ≠ ".." := by
  have hnamed : ∃ m ∈ p.names, named m = some (.name n) := by
    rw [components_eq, lead] at h
    by_cases hhead : p.names.head? = some "." <;> cases hp : p.isAbsolute <;> simpa [hhead, hp] using h
  obtain ⟨m, hm, hn⟩ := hnamed
  obtain ⟨rfl, hplain⟩ := named_eq_some_name.1 hn
  obtain ⟨piece, hpiece, rfl⟩ := List.mem_map.1 hm
  exact ⟨by simpa using (Text.mem_splitAll hpiece).1, hplain⟩

theorem head?_names_of_isAbsolute {p : Path} (h : p.isAbsolute = true) : p.names.head? = some "" := by
  unfold isAbsolute at h
  unfold names
  cases hc : p.chars with
  | nil => simp [hc] at h
  | cons c cs =>
    have hslash : c = '/' := by simpa [hc] using h
    simp [Text.splitAll, hslash]

/-- A path of which each name is a component has no others. -/
theorem components_of_names {p : Path} (h : ∀ n ∈ p.names, n ≠ "" ∧ n ≠ "." ∧ n ≠ "..") :
    p.components = p.names.map .name := by
  have hhead : ∀ n, p.names.head? = some n → n ∈ p.names := fun n => List.mem_of_head?
  have hrelative : p.isAbsolute = false := by
    rw [Bool.eq_false_iff]
    intro habs
    exact (h "" (hhead _ (head?_names_of_isAbsolute habs))).1 rfl
  have hhere : p.names.head? ≠ some "." := fun he => (h "." (hhead _ he)).2.1 rfl
  rw [components_eq, lead, hrelative, if_neg hhere]
  have hnamed : p.names.filterMap named = p.names.filterMap fun n => some (.name n) :=
    List.filterMap_congr fun n hn => named_eq_name (h n hn).1 (h n hn).2.1 (h n hn).2.2
  rw [hnamed, List.filterMap_eq_map']
  simp

/-! ## Parents -/

theorem filterMap_dropWhile_isNone {α : Type} (marks : List (α × Option Component)) :
    (marks.dropWhile (·.2.isNone)).filterMap (·.2) = marks.filterMap (·.2) := by
  induction marks with
  | nil => rfl
  | cons m marks ih =>
    cases hm : m.2 with
    | none => simp [hm, ih]
    | some c => simp [hm]

theorem mark_of_prefix {segments : List (List Char)} {kept : List (List Char × Option Component)}
    (h : kept <+: mark segments) : mark (kept.map (·.1)) = kept := by
  cases segments with
  | nil => rw [List.prefix_nil.1 h]; rfl
  | cons first rest =>
    cases kept with
    | nil => rfl
    | cons m kept =>
      obtain ⟨rfl, hback⟩ := List.cons_prefix_cons.1 h
      have hkept := List.prefix_iff_eq_take.1 hback
      rw [← List.map_take] at hkept
      rw [hkept]
      simp [mark, Function.comp_def]

/-- A front of the marked segments, put together again, is marked as it was. -/
theorem marked_joinAll {p : Path} {kept : List (List Char × Option Component)} (hk : kept <+: p.marked)
    (hne : kept ≠ []) : (ofChars (Text.joinAll '/' (kept.map (·.1)))).marked = kept := by
  have hfront : kept.map (·.1) <+: Text.splitAll '/' p.chars := by
    simpa [marked_eq] using hk.map (·.1)
  have hsplit : Text.splitAll '/' (Text.joinAll '/' (kept.map (·.1))) = kept.map (·.1) :=
    Text.splitAll_joinAll (by simpa using hne) fun s hs => (Text.mem_splitAll (hfront.subset hs)).1
  rw [marked_eq, chars, ofChars, String.toList_ofList, hsplit, mark_of_prefix hk]

/-- If there is a component among the segments of the front, it is absolute exactly if the path was. -/
theorem isAbsolute_joinAll {p : Path} {kept : List (List Char × Option Component)} (hk : kept <+: p.marked)
    (hsome : ∃ m ∈ kept, m.2.isSome = true) :
    (ofChars (Text.joinAll '/' (kept.map (·.1)))).isAbsolute = p.isAbsolute := by
  have hne : kept ≠ [] := by
    obtain ⟨m, hm, -⟩ := hsome
    exact List.ne_nil_of_mem hm
  have hfront : kept.map (·.1) <+: Text.splitAll '/' p.chars := by
    simpa [marked_eq] using hk.map (·.1)
  apply isAbsolute_of_prefix
  · have hjoined := Text.joinAll_prefix '/' hfront
    rw [Text.joinAll_splitAll] at hjoined
    simpa [chars, ofChars] using hjoined
  · -- without characters there is only the segment that says nothing
    intro hempty
    have hmarked := marked_joinAll hk hne
    rw [marked_eq, hempty] at hmarked
    obtain ⟨m, hm, hs⟩ := hsome
    rw [← hmarked] at hm
    simp [Text.splitAll, mark, inner] at hm
    simp [hm] at hs

theorem isSome_of_dropWhile {α : Type} {marks rest : List (α × Option Component)} {m : α × Option Component}
    (h : marks.dropWhile (·.2.isNone) = m :: rest) : m.2.isSome = true := by
  have hhead := List.head?_dropWhile_not (·.2.isNone) marks
  rw [h] at hhead
  simpa using hhead

section Last

-- Found from behind: the last segment that is a component, and what is in front of it up to the one before.
variable {α : Type} {marks front : List (α × Option Component)} {last : α × Option Component}

theorem filterMap_of_last (h : marks.reverse.dropWhile (·.2.isNone) = last :: front) :
    marks.filterMap (·.2) = (front.dropWhile (·.2.isNone)).reverse.filterMap (·.2) ++ last.2.toList := by
  have hkept := filterMap_dropWhile_isNone marks.reverse
  rw [h, List.filterMap_reverse] at hkept
  rw [← List.reverse_reverse (marks.filterMap (·.2)), ← hkept, List.filterMap_reverse, filterMap_dropWhile_isNone]
  cases hl : last.2 <;> simp [hl]

theorem prefix_of_last (h : marks.reverse.dropWhile (·.2.isNone) = last :: front) :
    (front.dropWhile (·.2.isNone)).reverse <+: marks := by
  have hsuffix : front.dropWhile (·.2.isNone) <:+ marks.reverse := by
    refine (List.dropWhile_suffix _).trans ((List.suffix_cons last front).trans ?_)
    rw [← h]
    exact List.dropWhile_suffix _
  simpa using List.reverse_prefix.2 hsuffix

end Last

theorem components_of_parent {p d : Path} (h : p.parent = some d) : ∃ c, p.components = d.components ++ [c] := by
  unfold parent at h
  split at h
  · cases h
  · next last front hback =>
    obtain ⟨c, hc⟩ := Option.isSome_iff_exists.1 (isSome_of_dropWhile hback)
    have hprefix := prefix_of_last hback
    refine ⟨c, ?_⟩
    rw [components, filterMap_of_last hback, hc, Option.toList_some, ← List.append_assoc]
    congr 1
    split at h
    · next hnone =>
      cases h
      rw [hnone]
      cases p.isAbsolute <;> rfl
    · next kept hkept =>
      cases h
      obtain ⟨m, rest, hm⟩ := List.exists_cons_of_ne_nil hkept
      have hsome : ∃ m ∈ (front.dropWhile (·.2.isNone)).reverse, m.2.isSome = true :=
        ⟨m, by simp [hm], isSome_of_dropWhile hm⟩
      rw [components, marked_joinAll hprefix (by simpa using hkept), isAbsolute_joinAll hprefix hsome]

theorem components_of_no_parent {p : Path} (h : p.parent = none) : ∀ c ∈ p.components, c = .root := by
  unfold parent at h
  split at h
  · next hnone =>
    have hall := filterMap_dropWhile_isNone p.marked.reverse
    rw [hnone, List.filterMap_reverse] at hall
    have hmarks : p.marked.filterMap (·.2) = [] := List.reverse_eq_nil_iff.1 hall.symm
    rw [components, hmarks]
    cases p.isAbsolute <;> simp
  · split at h <;> cases h

/-- A path that ends with something else than the root has a parent, with all before that. -/
theorem parent_of_components {p : Path} {front : List Component} {c : Component} (h : p.components = front ++ [c])
    (hc : c ≠ .root) : ∃ d, p.parent = some d ∧ d.components = front := by
  cases hp : p.parent with
  | none => exact absurd (components_of_no_parent hp c (by simp [h])) hc
  | some d =>
    obtain ⟨c', hc'⟩ := components_of_parent hp
    exact ⟨d, rfl, (List.append_inj' (hc'.symm.trans h) rfl).1⟩

theorem fileName_eq_some {p : Path} {n : String} : p.fileName = some n ↔ p.components.getLast? = some (.name n) := by
  unfold fileName
  split
  · next m hm => simp [hm]
  · next hno => simpa using hno n

end Path

end ClassSkeleton
