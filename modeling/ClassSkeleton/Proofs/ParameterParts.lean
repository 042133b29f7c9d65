import ClassSkeleton.Proofs.DescriptorGrammar

/-
  ClassSkeleton.Proofs.ParameterParts — what the parameter part of a descriptor tells of its parameters.

  The parameter part ends at the first closing parenthesis. The grammar allows one in the name of a class, so there it
  ends in the midst of that name, and the parameters behind it leave no trace. What it tells is `shown`: the
  parameters in front of the first such class, and of that class what stands before the parenthesis. It tells no less, for
  reading as many types as there are (`readTypes`) from what stands before the parenthesis gives that back: types are
  read off one by one, and at the name that was cut the reader finds no `;`.

  So two descriptors have one parameter part exactly when they show the same (`parameter_parts_tell`), and when the
  parameters of one of them have no closing parenthesis in a name, exactly when their parameters are the same. Overloads
  that differ behind such a name have one parameter part (`parameter_parts_meet`).
-/

namespace ClassSkeleton

/-- Whatever comes behind it, the first sign is cut at. -/
theorem Text.cutFirst_sign (c : Char) (s rest : List Char) :
    ∃ after, Text.cutFirst c (s ++ c :: rest) = some (s.takeWhile (· ≠ c), after) := by
  induction s with
  | nil => exact ⟨rest, Text.cutFirst_append List.not_mem_nil⟩
  | cons x s ih =>
    by_cases hx : x = c
    · exact ⟨s ++ c :: rest, by simp [Text.cutFirst, hx]⟩
    · obtain ⟨after, h⟩ := ih
      exact ⟨after, by simp [Text.cutFirst, hx, h]⟩

namespace Descriptor

variable {t : JavaType} {ts us : List JavaType} {s : List Char}

/-! ## Before the first closing parenthesis -/

def beforeParen (s : List Char) : List Char := s.takeWhile (· ≠ ')')

theorem beforeParen_append (h : ')' ∉ s) (rest : List Char) : beforeParen (s ++ rest) = s ++ beforeParen rest :=
  List.takeWhile_append_of_pos fun c hc => by simpa using fun he : c = ')' => h (he ▸ hc)

theorem beforeParen_of_mem (h : ')' ∈ s) (rest : List Char) : beforeParen (s ++ rest) = beforeParen s := by
  induction s with
  | nil => cases h
  | cons c s ih =>
    by_cases hc : c = ')'
    · simp [beforeParen, hc]
    · have hs := ih ((List.mem_cons.1 h).resolve_left (Ne.symm hc))
      simpa [beforeParen, hc] using hs

theorem beforeParen_subset (s : List Char) : ∀ c ∈ beforeParen s, c ∈ s := fun _ h => List.takeWhile_subset _ h

theorem parameterPart_of_renders {d : String} {ret : List Char} (h : d.toList = '(' :: s ++ ')' :: ret) :
    parameterPart d = String.ofList ('(' :: beforeParen s ++ [')']) := by
  obtain ⟨after, hcut⟩ := Text.cutFirst_sign ')' ('(' :: s) ret
  rw [parameterPart, h, hcut]
  rfl

/-! ## What the text before it shows -/

/-- The types in front of the first that has a closing parenthesis in its name, and the beginning of that one. -/
def shown : List JavaType → List JavaType × List Char
  | [] => ([], [])
  | t :: ts => if ')' ∈ write t then ([], beforeParen (write t)) else (t :: (shown ts).1, (shown ts).2)

/-- The types that can be read off a text one after another, and what is left. -/
def readTypes (s : List Char) : List JavaType × List Char :=
  match _h : readType s with
  | none => ([], s)
  | some (t, rest) => (t :: (readTypes rest).1, (readTypes rest).2)
termination_by s.length
decreasing_by all_goals exact readType_length ‹_›

theorem readTypes_none (h : readType s = none) : readTypes s = ([], s) := by
  rw [readTypes]
  split
  · rfl
  · next hr => rw [h] at hr; cases hr

theorem readTypes_some {rest : List Char} (h : readType s = some (t, rest)) :
    readTypes s = (t :: (readTypes rest).1, (readTypes rest).2) := by
  rw [readTypes]
  split
  · next hr => rw [h] at hr; cases hr
  · next hr =>
    rw [h] at hr
    cases hr
    rfl

theorem beforeParen_write (ts : List JavaType) :
    beforeParen (ts.flatMap write) = (shown ts).1.flatMap write ++ (shown ts).2 := by
  induction ts with
  | nil => rfl
  | cons t ts ih =>
    rw [List.flatMap_cons, shown]
    split
    · next hp => exact beforeParen_of_mem hp _
    · next hp => rw [beforeParen_append hp, ih, List.flatMap_cons, List.append_assoc]

/-- A rendering that is cut in its name cannot be read. -/
theorem Renders.cut_unread (h : Renders t s) (hp : ')' ∈ s) : readType (beforeParen s) = none := by
  induction h with
  | primitive p => exact absurd (List.mem_singleton.1 hp).symm p.code_plain.2.2.1
  | object name ne free =>
    have hname : ')' ∈ name := by simpa using hp
    have hcut : beforeParen ('L' :: name ++ [';']) = 'L' :: beforeParen name := by
      rw [beforeParen_of_mem (List.mem_cons_of_mem _ hname)]
      rfl
    have hnone : Text.cutFirst ';' (beforeParen name) = none := by
      rcases hc : Text.cutFirst ';' (beforeParen name) with _ | ⟨a, b⟩
      · rfl
      · refine absurd (beforeParen_subset name ';' ?_) free
        rw [(Text.cutFirst_eq_some hc).1]
        exact List.mem_append_right _ List.mem_cons_self
    rw [hcut, readType, if_pos rfl, hnone]
  | @array t s h ih =>
    have hs : ')' ∈ s := by simpa using hp
    have hcut : beforeParen ('[' :: s) = '[' :: beforeParen s := rfl
    rw [hcut, readType_array, ih hs, Option.map_none]

/-- What is shown can be read back from the text before the first closing parenthesis. -/
theorem readTypes_beforeParen (h : ∀ t ∈ ts, Renders t (write t)) :
    readTypes (beforeParen (ts.flatMap write)) = shown ts := by
  induction ts with
  | nil => exact readTypes_none rfl
  | cons t ts ih =>
    have ht := h t List.mem_cons_self
    rw [List.flatMap_cons, shown]
    split
    · next hp => rw [beforeParen_of_mem hp, readTypes_none (ht.cut_unread hp)]
    · next hp => rw [beforeParen_append hp, readTypes_some (ht.read _), ih fun u hu => h u (List.mem_cons_of_mem _ hu)]

/-! ## Parameters with and without a closing parenthesis -/

theorem paren_mem_write : ')' ∈ write t ↔ ∃ c, t.referenced = some c ∧ ')' ∈ c.chars := by
  induction t with
  | primitive p => simp [write, JavaType.referenced, Ne.symm p.code_plain.2.2.1]
  | object c =>
    have hswap : ')' ∈ swapChar '.' '/' c.chars ↔ ')' ∈ c.chars := by
      simp only [swapChar, List.mem_map]
      constructor
      · rintro ⟨x, hx, he⟩
        split at he
        · cases he
        · exact he ▸ hx
      · exact fun hc => ⟨')', hc, rfl⟩
    simp [write, JavaType.referenced, hswap]
  | array t ih => simpa [write, JavaType.referenced] using ih

theorem shown_of_plain (h : ∀ t ∈ ts, ')' ∉ write t) : shown ts = (ts, []) := by
  induction ts with
  | nil => rfl
  | cons t ts ih => rw [shown, if_neg (h t List.mem_cons_self), ih fun u hu => h u (List.mem_cons_of_mem _ hu)]

/-- No rendering begins with the parenthesis, so something is left of a type that is cut. -/
theorem Renders.beforeParen_ne_nil (h : Renders t s) : beforeParen s ≠ [] := by
  cases h with
  | primitive p => simp [beforeParen, p.code_plain.2.2.1]
  | object name ne free => simp [beforeParen]
  | array h => simp [beforeParen]

theorem eq_of_shown (h : ∀ t ∈ us, Renders t (write t)) (hs : shown us = (ts, [])) : us = ts := by
  induction us generalizing ts with
  | nil => cases hs; rfl
  | cons u us ih =>
    rw [shown] at hs
    split at hs
    · exact absurd (congrArg Prod.snd hs) (h u List.mem_cons_self).beforeParen_ne_nil
    · have hnil : (shown us).2 = [] := congrArg Prod.snd hs
      have hrest : shown us = ((shown us).1, []) := Prod.ext rfl hnil
      rw [ih (fun t ht => h t (List.mem_cons_of_mem _ ht)) hrest]
      exact congrArg Prod.fst hs

/-! ## Descriptors -/

theorem RendersAll.renders_write (h : RendersAll ts s) (hd : '.' ∉ s) : ∀ t ∈ ts, Renders t (write t) := by
  induction h with
  | nil => exact fun t ht => by cases ht
  | @cons t ts s ss ht _ ih =>
    intro u hu
    rcases List.mem_cons.1 hu with rfl | hu
    · rwa [ht.write_eq fun hm => hd (List.mem_append_left _ hm)]
    · exact ih (fun hm => hd (List.mem_append_right _ hm)) u hu

/-- The parameter part of a descriptor without dots is written from what its parameters show. -/
theorem parameterPart_of_parse {d : String} {m : MethodType} (h : parseMethod d = .ok m) (hd : '.' ∉ d.toList) :
    (∀ t ∈ m.params, Renders t (write t)) ∧
      parameterPart d = String.ofList ('(' :: beforeParen (m.params.flatMap write) ++ [')']) := by
  have hr := method?_iff.1 (parseMethod_ok.1 h)
  generalize hs : d.toList = text at hr
  cases hr with
  | @mk params ret s r hp hret =>
    have hds : '.' ∉ s := fun hm => hd (by simp [hs, hm])
    exact ⟨hp.renders_write hds, by rw [parameterPart_of_renders hs, hp.write_eq hds]⟩

/-- Two descriptors without dots have one parameter part exactly when their parameters show the same. Equal parameters
always do, and if no class among those of one descriptor has a closing parenthesis in its name, only equal ones do. -/
theorem parameter_parts_tell {d e : String} {m n : MethodType} (hd : '.' ∉ d.toList) (he : '.' ∉ e.toList)
    (hm : parseMethod d = .ok m) (hn : parseMethod e = .ok n) :
    (parameterPart d = parameterPart e ↔ shown m.params = shown n.params) ∧
    (m.params = n.params → parameterPart d = parameterPart e) ∧
    ((∀ t ∈ m.params, ∀ c, t.referenced = some c → ')' ∉ c.chars) →
      (parameterPart d = parameterPart e ↔ m.params = n.params)) := by
  obtain ⟨hmr, hmp⟩ := parameterPart_of_parse hm hd
  obtain ⟨hnr, hnp⟩ := parameterPart_of_parse hn he
  have hshown : parameterPart d = parameterPart e ↔ shown m.params = shown n.params := by
    have htext : parameterPart d = parameterPart e ↔
        beforeParen (m.params.flatMap write) = beforeParen (n.params.flatMap write) := by
      rw [hmp, hnp, String.ofList_inj]
      simp
    rw [htext]
    constructor
    · intro h
      rw [← readTypes_beforeParen hmr, ← readTypes_beforeParen hnr, h]
    · intro h
      rw [beforeParen_write, beforeParen_write, h]
  refine ⟨hshown, fun h => hshown.2 (congrArg shown h), fun hplain => ⟨fun h => ?_, fun h => hshown.2 (congrArg shown h)⟩⟩
  have hpm : shown m.params = (m.params, []) :=
    shown_of_plain fun t ht hp => by
      obtain ⟨c, hc, hmem⟩ := paren_mem_write.1 hp
      exact hplain t ht c hc hmem
  exact (eq_of_shown hnr ((hshown.1 h).symm.trans hpm)).symm

/-- Two return types behind the same array parameter, and parameters that differ in front of a class that is cut. -/
theorem parameter_parts_tell_of_overloads :
    (parameterPart "([La/b;I)V" = parameterPart "([La/b;I)J" ↔
      [JavaType.array (.object ⟨"a.b"⟩), .primitive .int] = [.array (.object ⟨"a.b"⟩), .primitive .int]) ∧
    (parameterPart "(ILa);I)V" = parameterPart "(JLa);I)V" ↔
      shown [.primitive .int, .object ⟨"a)"⟩, .primitive .int] =
        shown [.primitive .long, .object ⟨"a)"⟩, .primitive .int]) := by
  have hv : parseMethod "([La/b;I)V" = .ok ⟨[.array (.object ⟨"a.b"⟩), .primitive .int], none⟩ :=
    parseMethod_ok.2 (by decide +kernel)
  have hj : parseMethod "([La/b;I)J" =
      .ok ⟨[.array (.object ⟨"a.b"⟩), .primitive .int], some (.primitive .long)⟩ :=
    parseMethod_ok.2 (by decide +kernel)
  have hint : parseMethod "(ILa);I)V" = .ok ⟨[.primitive .int, .object ⟨"a)"⟩, .primitive .int], none⟩ :=
    parseMethod_ok.2 (by decide +kernel)
  have hlong : parseMethod "(JLa);I)V" = .ok ⟨[.primitive .long, .object ⟨"a)"⟩, .primitive .int], none⟩ :=
    parseMethod_ok.2 (by decide +kernel)
  refine ⟨(parameter_parts_tell (by decide) (by decide) hv hj).2.2 ?_,
    (parameter_parts_tell (by decide) (by decide) hint hlong).1⟩
  decide

/-- The parameter parts of two descriptors are the same exactly when their parameters are. -/
def PartsTellParameters : Prop :=
  ∀ d e m n, '.' ∉ d.toList → '.' ∉ e.toList → parseMethod d = .ok m → parseMethod e = .ok n →
    (parameterPart d = parameterPart e ↔ m.params = n.params)

/-- What follows a class with a closing parenthesis in its name does not show. -/
theorem parameter_parts_meet : ¬ PartsTellParameters := by
  intro h
  have hi : parseMethod "(La);I)V" = .ok ⟨[.object ⟨"a)"⟩, .primitive .int], none⟩ :=
    parseMethod_ok.2 (by decide +kernel)
  have hj : parseMethod "(La);J)V" = .ok ⟨[.object ⟨"a)"⟩, .primitive .long], none⟩ :=
    parseMethod_ok.2 (by decide +kernel)
  have hpart : parameterPart "(La);I)V" = parameterPart "(La);J)V" := by decide
  exact absurd ((h _ _ _ _ (by decide) (by decide) hi hj).1 hpart) (by decide)

end Descriptor

end ClassSkeleton
