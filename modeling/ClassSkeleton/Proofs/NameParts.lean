import ClassSkeleton.Usage

/-
  ClassSkeleton.Proofs.NameParts — type names and their parts.

  A type name is its package, if it has one, and its simple name, which has no dot; the two make the type
  (`eq_of_parts`). The outermost type is in the same package, and its simple name is read off the simple name alone
  (`package_outermost`, `simpleChars_outermost`), so types with one simple name have outermost types with one simple name.

  Written short a type is its simple name with a dot for each `$`, from which the simple name can be told
  (`shortName_inj`); in full the package, read in the same way, stands in front of that (`javaName_of_package`). So the two
  spellings differ exactly for types that have a package (`javaName_eq_shortName`).
-/

namespace ClassSkeleton.TypeName

variable {s t : TypeName} {p : String} {cs : List Char}

/-! ## Package and simple name -/

theorem package_eq_none : t.package = none ↔ '.' ∉ t.chars := by
  rw [package, Option.map_eq_none_iff, Text.cutLast_eq_none]

theorem simpleChars_of_unpackaged (h : t.package = none) : t.simpleChars = t.chars := by
  rw [simpleChars, Text.cutLast_eq_none.2 (package_eq_none.1 h)]

theorem chars_of_package (h : t.package = some p) : t.chars = p.toList ++ '.' :: t.simpleChars := by
  obtain ⟨⟨front, back⟩, hcut, rfl⟩ := Option.map_eq_some_iff.1 h
  rw [simpleChars, hcut, String.toList_ofList]
  exact (Text.cutLast_eq_some hcut).1

theorem dot_not_mem_simpleChars (t : TypeName) : '.' ∉ t.simpleChars := by
  unfold simpleChars
  split
  · next hcut => exact (Text.cutLast_eq_some hcut).2
  · next hcut => exact Text.cutLast_eq_none.1 hcut

theorem simpleChars_subset (t : TypeName) : t.simpleChars ⊆ t.chars := by
  intro c hc
  cases hp : t.package with
  | none => rwa [← simpleChars_of_unpackaged hp]
  | some p =>
    rw [chars_of_package hp]
    exact List.mem_append_right _ (List.mem_cons_of_mem _ hc)

theorem parts_of_chars (hc : t.chars = p.toList ++ '.' :: cs) (hd : '.' ∉ cs) :
    t.package = some p ∧ t.simpleChars = cs := by
  have hcut := Text.cutLast_append (a := p.toList) hd
  rw [← hc] at hcut
  constructor
  · simp [package, hcut, String.ofList_toList]
  · rw [simpleChars, hcut]

theorem eq_of_chars (h : s.chars = t.chars) : s = t := by
  cases s
  cases t
  exact congrArg _ (String.toList_inj.1 h)

theorem eq_of_parts (hp : s.package = t.package) (hs : s.simpleChars = t.simpleChars) : s = t := by
  apply eq_of_chars
  cases ht : t.package with
  | none => rw [← simpleChars_of_unpackaged ht, ← simpleChars_of_unpackaged (hp.trans ht), hs]
  | some p => rw [chars_of_package ht, chars_of_package (hp.trans ht), hs]

theorem simpleName_inj : s.simpleName = t.simpleName ↔ s.simpleChars = t.simpleChars := String.ofList_inj

/-! ## Outermost types -/

/-- What a simple name keeps for the outermost type: all before the first `$`, unless nothing is. -/
def outerChars (cs : List Char) : List Char :=
  match Text.cutFirst '$' cs with
  | some (c :: front, _) => c :: front
  | _ => cs

theorem outermost_parts (t : TypeName) :
    t.outermost.package = t.package ∧ t.outermost.simpleChars = outerChars t.simpleChars := by
  rcases hcut : Text.cutFirst '$' t.simpleChars with _ | ⟨_ | ⟨c, front⟩, back⟩
  · simp [outermost, outerChars, hcut]
  · simp [outermost, outerChars, hcut]
  -- the part before the `$` has no dot either
  have hd : '.' ∉ c :: front := fun hm => t.dot_not_mem_simpleChars (by
    rw [(Text.cutFirst_eq_some hcut).1]
    exact List.mem_append_left _ hm)
  rw [outerChars, hcut, outermost, hcut]
  cases hp : t.package with
  | some p => exact parts_of_chars (by simp [chars, String.toList_append]) hd
  | none =>
    have hn : (ofChars (c :: front)).package = none := package_eq_none.2 (by simpa [chars, ofChars] using hd)
    exact ⟨hn, by rw [simpleChars_of_unpackaged hn]; simp [chars, ofChars]⟩

@[simp] theorem package_outermost (t : TypeName) : t.outermost.package = t.package := t.outermost_parts.1

theorem simpleChars_outermost (t : TypeName) : t.outermost.simpleChars = outerChars t.simpleChars := t.outermost_parts.2

theorem simpleName_outermost_congr (h : s.simpleChars = t.simpleChars) :
    s.outermost.simpleName = t.outermost.simpleName := by
  rw [simpleName_inj, simpleChars_outermost, simpleChars_outermost, h]

/-! ## Spellings -/

/-- The characters of a source spelling: nested types are separated by dots. -/
abbrev dotted (cs : List Char) : List Char := swapChar '$' '.' cs

theorem dotted_inj {cs ds : List Char} (hc : '.' ∉ cs) (hd : '.' ∉ ds) : dotted cs = dotted ds ↔ cs = ds := by
  constructor
  · intro h
    rw [← swapChar_swapChar (a := '$') hc, ← swapChar_swapChar (a := '$') hd]
    exact congrArg (swapChar '.' '$') h
  · exact congrArg dotted

theorem dotted_of_dollarless (h : '$' ∉ cs) : dotted cs = cs := swapChar_of_not_mem h

/-- A short spelling tells the simple name. -/
theorem shortName_inj : s.shortName = t.shortName ↔ s.simpleChars = t.simpleChars :=
  String.ofList_inj.trans (dotted_inj s.dot_not_mem_simpleChars t.dot_not_mem_simpleChars)

theorem javaName_of_unpackaged (h : t.package = none) : t.javaName = t.shortName := by
  rw [javaName, shortName, simpleChars_of_unpackaged h]

theorem javaName_of_package (h : t.package = some p) :
    t.javaName = String.ofList (dotted p.toList) ++ "." ++ t.shortName := by
  rw [← String.toList_inj]
  simp [javaName, shortName, chars_of_package h, swapChar]

theorem javaName_eq_shortName : t.javaName = t.shortName ↔ t.package = none := by
  refine ⟨fun h => ?_, javaName_of_unpackaged⟩
  cases hp : t.package with
  | none => rfl
  | some p =>
    rw [javaName_of_package hp] at h
    have hlength := congrArg (fun name : String => name.toList.length) h
    simp [String.toList_append] at hlength
    omega

theorem javaName_of_dollarless (h : '$' ∉ t.chars) : t.javaName = t.raw := by
  rw [javaName, ← dotted, dotted_of_dollarless h, chars, String.ofList_toList]

end ClassSkeleton.TypeName
