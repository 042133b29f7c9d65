import ClassSkeleton.Descriptor

/-
  ClassSkeleton.Proofs.DescriptorGrammar — descriptors are read exactly as they are written.

  `Renders` says how a type is written; a method type is written as its parameters in parentheses and the
  return type behind them (`RendersMethod`). A reader takes a rendering off the front of a text and hands
  back the rest, and it succeeds on nothing else (`readType_iff`, `readParams_iff`). A name may have any
  character but `;` in it, parentheses and brackets included; what keeps the readers on the way is that no
  rendering begins with a closing parenthesis (`Renders.not_paren`), so the list of parameters ends at the
  first one that stands where a type could begin.

  So a text is accepted as a descriptor of `t` exactly when it is a rendering of `t`, and refused with the
  whole text as the error otherwise (`parse_iff_renders`). Slashes and dots in a name are read alike. Of the
  renderings of a type one has no dot, the one `write` makes, so a text without dots is written back as it was.
-/

namespace ClassSkeleton

/-! ## Letters of primitives -/

theorem Primitive.ofCode?_iff {c : Char} {p : Primitive} : Primitive.ofCode? c = some p ↔ p.code = c := by
  constructor
  · intro h
    simpa using List.find?_some h
  · rintro rfl
    cases p <;> rfl

theorem Primitive.code_plain (p : Primitive) : p.code ≠ 'L' ∧ p.code ≠ '[' ∧ p.code ≠ ')' ∧ p.code ≠ 'V' := by
  cases p <;> decide

namespace Descriptor

variable {t : JavaType} {ts : List JavaType} {s rest : List Char}

/-! ## One type -/

theorem readType_primitive (p : Primitive) (rest : List Char) :
    readType (p.code :: rest) = some (.primitive p, rest) := by
  obtain ⟨hl, hb, -, -⟩ := p.code_plain
  simp [readType, hl, hb, Primitive.ofCode?_iff.2 rfl]

theorem readType_object {name : List Char} (ne : name ≠ []) (free : ';' ∉ name) (rest : List Char) :
    readType ('L' :: name ++ ';' :: rest) = some (.object (TypeName.ofChars (swapChar '/' '.' name)), rest) := by
  have hcut : Text.cutFirst ';' (name ++ ';' :: rest) = some (name, rest) := Text.cutFirst_append free
  cases name with
  | nil => exact absurd rfl ne
  | cons x xs => rw [List.cons_append, readType, if_pos rfl, hcut]

theorem readType_array (s : List Char) :
    readType ('[' :: s) = (readType s).map fun (t, rest) => (.array t, rest) := by
  simp [readType]

/-- A rendering is taken off the front, whatever comes behind it. -/
theorem Renders.read (h : Renders t s) (rest : List Char) : readType (s ++ rest) = some (t, rest) := by
  induction h with
  | primitive p => exact readType_primitive p rest
  | object name ne free => simpa using readType_object ne free rest
  | array h ih => rw [List.cons_append, readType_array, ih, Option.map_some]

/-- What was taken off is a rendering of what was read. -/
theorem renders_of_readType (h : readType s = some (t, rest)) : ∃ front, Renders t front ∧ s = front ++ rest := by
  induction s generalizing t with
  | nil => cases h
  | cons c cs ih =>
    simp only [readType] at h
    split at h
    · next hc =>
      split at h
      · cases h
      · cases h
      · next name after hne hcut =>
        cases h
        obtain ⟨rfl, hfree⟩ := Text.cutFirst_eq_some hcut
        exact ⟨_, .object name hne hfree, by simp [hc]⟩
    · split at h
      · next hc =>
        obtain ⟨⟨u, after⟩, hr, he⟩ := Option.map_eq_some_iff.1 h
        cases he
        obtain ⟨front, hf, rfl⟩ := ih hr
        exact ⟨_, .array hf, by rw [hc, List.cons_append]⟩
      · obtain ⟨p, hp, he⟩ := Option.map_eq_some_iff.1 h
        cases he
        exact ⟨_, .primitive p, by rw [Primitive.ofCode?_iff.1 hp]; rfl⟩

theorem readType_iff : readType s = some (t, rest) ↔ ∃ front, Renders t front ∧ s = front ++ rest := by
  constructor
  · exact renders_of_readType
  · rintro ⟨front, hf, rfl⟩
    exact hf.read rest

/-! ## Parameters and return types -/

/-- The types written one behind the other. -/
inductive RendersAll : List JavaType → List Char → Prop where
  | nil : RendersAll [] []
  | cons {t : JavaType} {ts : List JavaType} {s ss : List Char} (h : Renders t s) (hs : RendersAll ts ss) :
      RendersAll (t :: ts) (s ++ ss)

/-- `V` for no value, else a type. -/
inductive RendersReturn : Option JavaType → List Char → Prop where
  | void : RendersReturn none ['V']
  | value {t : JavaType} {s : List Char} (h : Renders t s) : RendersReturn (some t) s

/-- `RendersMethod m s`: `s` is a way to write the method type `m`. -/
inductive RendersMethod : MethodType → List Char → Prop where
  | mk {params : List JavaType} {ret : Option JavaType} {s r : List Char} (hp : RendersAll params s)
      (hr : RendersReturn ret r) : RendersMethod ⟨params, ret⟩ ('(' :: s ++ ')' :: r)

theorem Renders.not_paren (h : Renders t s) (rest : List Char) : (s ++ rest).head? ≠ some ')' := by
  cases h with
  | primitive p => simpa using p.code_plain.2.2.1
  | object name ne free => simp
  | array h => simp

theorem Renders.not_void (h : Renders t s) : s ≠ ['V'] := by
  cases h with
  | primitive p => simpa using p.code_plain.2.2.2
  | object name ne free => simp
  | array h => simp

theorem RendersAll.read (h : RendersAll ts s) (rest : List Char) :
    readParams (s ++ ')' :: rest) = some (ts, rest) := by
  induction h with
  | nil => rw [readParams]; simp
  | @cons t ts s ss ht _ ih =>
    have hr : readType (s ++ (ss ++ ')' :: rest)) = some (t, ss ++ ')' :: rest) := ht.read _
    rw [List.append_assoc, readParams, if_neg (ht.not_paren _)]
    split
    · next hn => rw [hr] at hn; cases hn
    · next hn =>
      rw [hr] at hn
      cases hn
      rw [ih, Option.map_some]

theorem renders_of_readParams (h : readParams s = some (ts, rest)) :
    ∃ front, RendersAll ts front ∧ s = front ++ ')' :: rest := by
  fun_induction readParams s generalizing ts rest with
  | case1 s hc =>
    cases h
    obtain ⟨cs, rfl⟩ := List.head?_eq_some_iff.1 hc
    exact ⟨[], .nil, rfl⟩
  | case2 s hc hn => cases h
  | case3 s hc t after hr ih =>
    obtain ⟨⟨us, back⟩, hp, he⟩ := Option.map_eq_some_iff.1 h
    cases he
    obtain ⟨front, hf, rfl⟩ := renders_of_readType hr
    obtain ⟨more, hm, rfl⟩ := ih hp
    exact ⟨_, .cons hf hm, by simp⟩

theorem readParams_iff : readParams s = some (ts, rest) ↔ ∃ front, RendersAll ts front ∧ s = front ++ ')' :: rest := by
  constructor
  · exact renders_of_readParams
  · rintro ⟨front, hf, rfl⟩
    exact hf.read rest

/-- A whole text is a field descriptor when nothing is left of it. -/
theorem field?_iff : field? s = some t ↔ Renders t s := by
  unfold field?
  constructor
  · intro h
    split at h
    · next hr =>
      cases h
      obtain ⟨front, hf, rfl⟩ := readType_iff.1 hr
      simpa using hf
    · cases h
  · intro h
    have hr : readType s = some (t, []) := readType_iff.2 ⟨s, h, by simp⟩
    rw [hr]

theorem readReturn_iff {ret : Option JavaType} : readReturn s = some ret ↔ RendersReturn ret s := by
  by_cases hv : s = ['V']
  · subst hv
    constructor
    · intro h
      cases h
      exact .void
    · intro h
      cases h with
      | void => rfl
      | value h => exact absurd rfl h.not_void
  · have hread : readReturn s = (field? s).map some := by
      unfold readReturn field?
      split
      · exact absurd rfl hv
      · split <;> rfl
    rw [hread, Option.map_eq_some_iff]
    constructor
    · rintro ⟨t, ht, rfl⟩
      exact .value (field?_iff.1 ht)
    · intro h
      cases h with
      | void => exact absurd rfl hv
      | value h => exact ⟨_, field?_iff.2 h, rfl⟩

theorem method?_iff {m : MethodType} : method? s = some m ↔ RendersMethod m s := by
  constructor
  · intro h
    unfold method? at h
    split at h
    · split at h
      · next hp =>
        obtain ⟨ret, hr, rfl⟩ := Option.map_eq_some_iff.1 h
        obtain ⟨front, hf, rfl⟩ := readParams_iff.1 hp
        exact .mk hf (readReturn_iff.1 hr)
      · cases h
    · cases h
  · rintro ⟨hp, hr⟩
    simp only [List.cons_append, method?, hp.read, readReturn_iff.2 hr, Option.map_some]

/-! ## Writing back -/

/-- The rendering of a type that has slashes in its names. -/
def write : JavaType → List Char
  | .primitive p => [p.code]
  | .object n => 'L' :: swapChar '.' '/' n.chars ++ [';']
  | .array t => '[' :: write t

def writeMethod (m : MethodType) : List Char :=
  '(' :: m.params.flatMap write ++ ')' :: m.ret.elim ['V'] write

theorem Renders.write_eq (h : Renders t s) (hd : '.' ∉ s) : write t = s := by
  induction h with
  | primitive p => rfl
  | object name ne free =>
    have hn : '.' ∉ name := fun hm => hd (by simp [hm])
    simp [write, TypeName.chars, TypeName.ofChars, swapChar_swapChar hn]
  | array h ih => rw [write, ih fun hm => hd (List.mem_cons_of_mem _ hm)]

theorem RendersAll.write_eq (h : RendersAll ts s) (hd : '.' ∉ s) : ts.flatMap write = s := by
  induction h with
  | nil => rfl
  | cons h _ ih =>
    rw [List.flatMap_cons, h.write_eq fun hm => hd (List.mem_append_left _ hm),
      ih fun hm => hd (List.mem_append_right _ hm)]

theorem RendersMethod.write_eq {m : MethodType} (h : RendersMethod m s) (hd : '.' ∉ s) : writeMethod m = s := by
  cases h with
  | mk hp hr =>
    rw [writeMethod, hp.write_eq fun hm => hd (by simp [hm])]
    cases hr with
    | void => rfl
    | value h => rw [Option.elim_some, h.write_eq fun hm => hd (by simp [hm])]

/-! ## Whole descriptors -/

theorem parseField_ok {d : String} : parseField d = .ok t ↔ field? d.toList = some t := by
  unfold parseField
  cases field? d.toList <;> simp

theorem parseField_error {d : String} {e : DescriptorError} :
    parseField d = .error e ↔ e = ⟨d⟩ ∧ field? d.toList = none := by
  unfold parseField
  cases field? d.toList <;> simp [eq_comm]

theorem parseMethod_ok {d : String} {m : MethodType} : parseMethod d = .ok m ↔ method? d.toList = some m := by
  unfold parseMethod
  cases method? d.toList <;> simp

theorem parseMethod_error {d : String} {e : DescriptorError} :
    parseMethod d = .error e ↔ e = ⟨d⟩ ∧ method? d.toList = none := by
  unfold parseMethod
  cases method? d.toList <;> simp [eq_comm]

/-- A text is read as a type, or as a method type, exactly when it is a rendering of it, and any other text
is the error. A text without dots is what is written for what was read. -/
theorem parse_iff_renders (d : String) :
    (∀ t, parseField d = .ok t ↔ Renders t d.toList) ∧
    (∀ e, parseField d = .error e ↔ e = ⟨d⟩ ∧ ∀ t, ¬ Renders t d.toList) ∧
    (∀ m, parseMethod d = .ok m ↔ RendersMethod m d.toList) ∧
    (∀ e, parseMethod d = .error e ↔ e = ⟨d⟩ ∧ ∀ m, ¬ RendersMethod m d.toList) ∧
    ('.' ∉ d.toList → (∀ t, parseField d = .ok t → String.ofList (write t) = d) ∧
      ∀ m, parseMethod d = .ok m → String.ofList (writeMethod m) = d) := by
  have hfield (t : JavaType) : parseField d = .ok t ↔ Renders t d.toList := parseField_ok.trans field?_iff
  have hmethod (m : MethodType) : parseMethod d = .ok m ↔ RendersMethod m d.toList := parseMethod_ok.trans method?_iff
  refine ⟨hfield, fun e => ?_, hmethod, fun e => ?_, fun hd => ⟨fun t ht => ?_, fun m hm => ?_⟩⟩
  · simp only [parseField_error, Option.eq_none_iff_forall_ne_some, ne_eq, field?_iff]
  · simp only [parseMethod_error, Option.eq_none_iff_forall_ne_some, ne_eq, method?_iff]
  · rw [((hfield t).1 ht).write_eq hd, String.ofList_toList]
  · rw [((hmethod m).1 hm).write_eq hd, String.ofList_toList]

/-- A name with a parenthesis and a bracket in it, read and written back. -/
theorem parse_iff_renders_of_odd_name :
    parseMethod "(I[La/b);J)Lc/[(D;" =
        .ok ⟨[.primitive .int, .array (.object ⟨"a.b)"⟩), .primitive .long], some (.object ⟨"c.[(D"⟩)⟩ ∧
      String.ofList (writeMethod ⟨[.primitive .int, .array (.object ⟨"a.b)"⟩), .primitive .long],
        some (.object ⟨"c.[(D"⟩)⟩) = "(I[La/b);J)Lc/[(D;" := by
  have hread : parseMethod "(I[La/b);J)Lc/[(D;" =
      .ok ⟨[.primitive .int, .array (.object ⟨"a.b)"⟩), .primitive .long], some (.object ⟨"c.[(D"⟩)⟩ :=
    parseMethod_ok.2 (by decide +kernel)
  exact ⟨hread, ((parse_iff_renders _).2.2.2.2 (by decide)).2 _ hread⟩

end Descriptor

end ClassSkeleton
