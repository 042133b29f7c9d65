import ClassSkeleton.Model
import ClassSkeleton.Proofs.Traversals

/-
  ClassSkeleton.Proofs.ShownMembers — which members get into a model.

  A field is left out, or its name is a constant of the enum, or the model has it with its type; a method is left out,
  or the model has it with its parameters and its return. `FieldsShown` and `MethodsShown` go along the members of the
  class file and say, member by member, which of these it is, so that nothing is lost, told twice or moved.

  Only members with a type in the model can make it fail: a descriptor that is not read does no harm in a member that
  is left out or in a constant. What the error is of is the first of them that is malformed, fields before methods
  (`Offends`).

  - `build_splits_members`: when a model is built, what it has then, and what the error is else.
-/

namespace ClassSkeleton

namespace ClassModel

/-! ## Members with types -/

/-- The field is shown with its type: the compiler did not make it, and it is no constant of an enum. -/
def HasFieldType (kind : ClassKind) (f : Member) : Prop :=
  f.has Access.isSynthetic = false ∧ ¬ (kind = .enum ∧ f.has Access.isEnum = true)

/-- The method is shown: the compiler did not make it, neither as such nor as a bridge nor for an enum. -/
def HasMethodType (kind : ClassKind) (f : Member) : Prop :=
  f.has Access.isSynthetic = false ∧ f.has Access.isBridge = false ∧ ¬ (kind = .enum ∧ isEnumBoilerplate f = true)

theorem hasFieldType_iff {kind : ClassKind} {f : Member} :
    HasFieldType kind f ↔ (!isConstant kind f && isShownField f) = true := by
  rw [HasFieldType, isShownField, isConstant]
  cases f.has Access.isSynthetic <;> cases f.has Access.isEnum <;> simp

theorem hasMethodType_iff {kind : ClassKind} {f : Member} : HasMethodType kind f ↔ isShownMethod kind f = true := by
  rw [HasMethodType, isShownMethod]
  cases f.has Access.isSynthetic <;> cases f.has Access.isBridge <;> cases isEnumBoilerplate f <;> simp

/-! ## What a model has of its members -/

/-- The model's field is that of the class file, under the name it was given or its own. -/
structure IsFieldOf (naming : Naming) (type : TypeName) (f : Member) (x : FieldModel) : Prop where
  ownName : x.ownName = f.name
  name : x.name = (naming.fieldName type f.name f.descriptor).getD f.name
  type : Descriptor.parseField f.descriptor = .ok x.type
  modifiers : x.modifiers = Modifiers.ofField f.access

structure IsMethodOf (naming : Naming) (type : TypeName) (kind : ClassKind) (f : Member) (x : MethodModel) : Prop where
  ownName : x.ownName = f.name
  name : x.name = (naming.methodName type f.name f.descriptor).getD f.name
  type : Descriptor.parseMethod f.descriptor = .ok ⟨x.params, x.returnType⟩
  modifiers : x.modifiers = methodModifiers kind f
  kind : x.kind = methodKindOf f.name
  varargs : x.varargs = f.has Access.isVarargs
  codeLength : x.codeLength = f.codeLength

/-- The fields of a class, one after another, with the constants and the fields that the model has of them. -/
inductive FieldsShown (naming : Naming) (type : TypeName) (kind : ClassKind) :
    List Member → List String → List FieldModel → Prop where
  | nil : FieldsShown naming type kind [] [] []
  | hidden {f : Member} {rest : List Member} {constants : List String} {fields : List FieldModel}
      (hs : f.has Access.isSynthetic = true) (h : FieldsShown naming type kind rest constants fields) :
      FieldsShown naming type kind (f :: rest) constants fields
  | constant {f : Member} {rest : List Member} {constants : List String} {fields : List FieldModel}
      (hs : f.has Access.isSynthetic = false) (hk : kind = .enum) (he : f.has Access.isEnum = true)
      (h : FieldsShown naming type kind rest constants fields) :
      FieldsShown naming type kind (f :: rest)
        ((naming.fieldName type f.name f.descriptor).getD f.name :: constants) fields
  | field {f : Member} {x : FieldModel} {rest : List Member} {constants : List String} {fields : List FieldModel}
      (ht : HasFieldType kind f) (hx : IsFieldOf naming type f x)
      (h : FieldsShown naming type kind rest constants fields) :
      FieldsShown naming type kind (f :: rest) constants (x :: fields)

/-- The methods of a class, one after another, with those that the model has of them. -/
inductive MethodsShown (naming : Naming) (type : TypeName) (kind : ClassKind) :
    List Member → List MethodModel → Prop where
  | nil : MethodsShown naming type kind [] []
  | hidden {f : Member} {rest : List Member} {methods : List MethodModel} (hf : ¬ HasMethodType kind f)
      (h : MethodsShown naming type kind rest methods) : MethodsShown naming type kind (f :: rest) methods
  | method {f : Member} {x : MethodModel} {rest : List Member} {methods : List MethodModel}
      (ht : HasMethodType kind f) (hx : IsMethodOf naming type kind f x)
      (h : MethodsShown naming type kind rest methods) : MethodsShown naming type kind (f :: rest) (x :: methods)

variable {naming : Naming} {type : TypeName} {kind : ClassKind} {members : List Member}

theorem buildField_ok {f : Member} {x : FieldModel} (h : buildField naming type f = .ok x) :
    IsFieldOf naming type f x := by
  unfold buildField at h
  rcases hp : Descriptor.parseField f.descriptor with e | t <;> rw [hp] at h <;> cases h
  exact ⟨rfl, rfl, hp, rfl⟩

theorem buildMethod_ok {f : Member} {x : MethodModel} (h : buildMethod naming type kind f = .ok x) :
    IsMethodOf naming type kind f x := by
  unfold buildMethod at h
  rcases hp : Descriptor.parseMethod f.descriptor with e | d <;> rw [hp] at h <;> cases h
  exact ⟨rfl, rfl, hp, rfl, rfl, rfl, rfl⟩

/-- What is kept of the fields is what is shown of them. -/
theorem fieldsShown {fields : List FieldModel}
    (h : ((members.filter isShownField).filter fun f => !isConstant kind f).mapM (buildField naming type) =
      .ok fields) :
    FieldsShown naming type kind members
      (((members.filter isShownField).filter (isConstant kind)).map (finalFieldName naming type)) fields := by
  induction members generalizing fields with
  | nil =>
    cases h
    exact .nil
  | cons f rest ih =>
    by_cases hs : isShownField f = true
    · rw [List.filter_cons_of_pos hs] at h ⊢
      by_cases hk : isConstant kind f = true
      · rw [List.filter_cons_of_neg (by simp [hk])] at h
        rw [List.filter_cons_of_pos hk]
        obtain ⟨hkind, he⟩ : kind = .enum ∧ f.has Access.isEnum = true := by simpa [isConstant] using hk
        exact .constant (by simpa [isShownField] using hs) hkind he (ih h)
      · rw [List.filter_cons_of_pos (by simp [hk])] at h
        rw [List.filter_cons_of_neg hk]
        obtain ⟨x, xs, hx, hrest, rfl⟩ := mapM_cons_ok h
        exact .field (hasFieldType_iff.2 (by simp [hs, hk])) (buildField_ok hx) (ih hrest)
    · rw [List.filter_cons_of_neg hs] at h ⊢
      exact .hidden (by simpa [isShownField] using hs) (ih h)

theorem methodsShown {methods : List MethodModel}
    (h : (members.filter (isShownMethod kind)).mapM (buildMethod naming type kind) = .ok methods) :
    MethodsShown naming type kind members methods := by
  induction members generalizing methods with
  | nil =>
    cases h
    exact .nil
  | cons f rest ih =>
    by_cases hs : isShownMethod kind f = true
    · rw [List.filter_cons_of_pos hs] at h
      obtain ⟨x, xs, hx, hrest, rfl⟩ := mapM_cons_ok h
      exact .method (hasMethodType_iff.2 hs) (buildMethod_ok hx) (ih hrest)
    · rw [List.filter_cons_of_neg hs] at h
      exact .hidden (fun ht => hs (hasMethodType_iff.1 ht)) (ih h)

/-! ## Descriptors that are not read -/

section Readers

variable {α β : Type}

/-- All members that `p` picks have a descriptor that can be read. -/
def Readable (p : Member → Prop) (read : String → Except DescriptorError α) (members : List Member) : Prop :=
  ∀ f ∈ members, p f → ∃ t, read f.descriptor = .ok t

/-- The error is that of the first member that `p` picks and that has a descriptor that cannot be read. -/
def FirstUnread (p : Member → Prop) (read : String → Except DescriptorError α) (members : List Member)
    (e : DescriptorError) : Prop :=
  ∃ front f back, members = front ++ f :: back ∧ Readable p read front ∧ p f ∧ read f.descriptor = .error e

/-- What is built of a member fails when its descriptor is not read, and with the reader's error. -/
def FailsAs (build : Member → Except DescriptorError β) (read : String → Except DescriptorError α) : Prop :=
  ∀ f, ∃ g, build f = (read f.descriptor).map g

variable {build : Member → Except DescriptorError β} {read : String → Except DescriptorError α}

theorem FailsAs.ok_iff (h : FailsAs build read) (f : Member) :
    (∃ x, build f = .ok x) ↔ ∃ t, read f.descriptor = .ok t := by
  obtain ⟨g, hg⟩ := h f
  rw [hg]
  cases read f.descriptor with
  | error e => exact ⟨fun ⟨x, hx⟩ => (by cases hx), fun ⟨t, ht⟩ => (by cases ht)⟩
  | ok t => exact ⟨fun _ => ⟨t, rfl⟩, fun _ => ⟨g t, rfl⟩⟩

theorem FailsAs.error_iff (h : FailsAs build read) (f : Member) (e : DescriptorError) :
    build f = .error e ↔ read f.descriptor = .error e := by
  obtain ⟨g, hg⟩ := h f
  rw [hg]
  cases read f.descriptor with
  | error e' => exact ⟨fun h => (by cases h; rfl), fun h => (by cases h; rfl)⟩
  | ok t => exact ⟨fun h => (by cases h), fun h => (by cases h)⟩

variable {p : Member → Prop} {picks : Member → Bool}

theorem FailsAs.readable_iff (h : FailsAs build read) (hp : ∀ f, p f ↔ picks f = true) :
    (∃ xs, (members.filter picks).mapM build = .ok xs) ↔ Readable p read members := by
  simp only [mapM_filter_ok_iff, Readable, hp, h.ok_iff]

theorem FailsAs.firstUnread_iff (h : FailsAs build read) (hp : ∀ f, p f ↔ picks f = true) {e : DescriptorError} :
    (members.filter picks).mapM build = .error e ↔ FirstUnread p read members e := by
  simp only [mapM_filter_error_iff, FirstUnread, Readable, hp, h.ok_iff, h.error_iff]

end Readers

theorem buildField_failsAs (naming : Naming) (type : TypeName) :
    FailsAs (buildField naming type) Descriptor.parseField :=
  fun f => ⟨fun t => ⟨Modifiers.ofField f.access, t, finalFieldName naming type f, f.name⟩, rfl⟩

theorem buildMethod_failsAs (naming : Naming) (type : TypeName) (kind : ClassKind) :
    FailsAs (buildMethod naming type kind) Descriptor.parseMethod :=
  fun f => ⟨fun d => ⟨methodKindOf f.name, methodModifiers kind f, finalMethodName naming type f, f.name, d.ret,
    d.params, f.has Access.isVarargs, f.codeLength⟩, rfl⟩

/-! ## Classes -/

/-- All that is shown with a type can be read. -/
structure Describable (c : ClassFile) : Prop where
  fields : Readable (HasFieldType (kindOf (flagsOf c))) Descriptor.parseField c.fields
  methods : Readable (HasMethodType (kindOf (flagsOf c))) Descriptor.parseMethod c.methods

/-- The first member of the class that is shown with a type and cannot be read, fields before methods. -/
inductive Offends (c : ClassFile) (e : DescriptorError) : Prop where
  | field (h : FirstUnread (HasFieldType (kindOf (flagsOf c))) Descriptor.parseField c.fields e)
  | method (hf : Readable (HasFieldType (kindOf (flagsOf c))) Descriptor.parseField c.fields)
      (h : FirstUnread (HasMethodType (kindOf (flagsOf c))) Descriptor.parseMethod c.methods e)

/-- The model has the members of the class, in order, and the given models inside. -/
structure SplitsMembers (c : ClassFile) (naming : Naming) (inner : List ClassModel) (m : ClassModel) : Prop where
  type : m.type = c.thisClass
  kind : m.kind = kindOf (flagsOf c)
  fields : FieldsShown naming c.thisClass (kindOf (flagsOf c)) c.fields m.enumConstants m.fields
  methods : MethodsShown naming c.thisClass (kindOf (flagsOf c)) c.methods m.methods
  inner : m.inner = inner

section Build

variable (c : ClassFile) (naming : Naming) (inner : List ClassModel)

/-- The pass over the fields. -/
def fieldPass : Except DescriptorError (List FieldModel) :=
  ((c.fields.filter isShownField).filter fun f => !isConstant (kindOf (flagsOf c)) f).mapM
    (buildField naming c.thisClass)

/-- The pass over the methods. -/
def methodPass : Except DescriptorError (List MethodModel) :=
  (c.methods.filter (isShownMethod (kindOf (flagsOf c)))).mapM (buildMethod naming c.thisClass (kindOf (flagsOf c)))

theorem fieldPass_ok_iff :
    (∃ fields, fieldPass c naming = .ok fields) ↔
      Readable (HasFieldType (kindOf (flagsOf c))) Descriptor.parseField c.fields := by
  unfold fieldPass
  rw [List.filter_filter]
  exact (buildField_failsAs naming c.thisClass).readable_iff fun _ => hasFieldType_iff

theorem fieldPass_error_iff (e : DescriptorError) :
    fieldPass c naming = .error e ↔
      FirstUnread (HasFieldType (kindOf (flagsOf c))) Descriptor.parseField c.fields e := by
  unfold fieldPass
  rw [List.filter_filter]
  exact (buildField_failsAs naming c.thisClass).firstUnread_iff fun _ => hasFieldType_iff

theorem methodPass_ok_iff :
    (∃ methods, methodPass c naming = .ok methods) ↔
      Readable (HasMethodType (kindOf (flagsOf c))) Descriptor.parseMethod c.methods :=
  (buildMethod_failsAs naming c.thisClass _).readable_iff fun _ => hasMethodType_iff

theorem methodPass_error_iff (e : DescriptorError) :
    methodPass c naming = .error e ↔
      FirstUnread (HasMethodType (kindOf (flagsOf c))) Descriptor.parseMethod c.methods e :=
  (buildMethod_failsAs naming c.thisClass _).firstUnread_iff fun _ => hasMethodType_iff

/-- One pass after the other: the first that fails decides, and the model has what both yield. -/
theorem build_cases :
    (∃ e, fieldPass c naming = .error e ∧ build c naming inner = .error e) ∨
    (∃ fields e, fieldPass c naming = .ok fields ∧ methodPass c naming = .error e ∧ build c naming inner = .error e) ∨
    ∃ m, fieldPass c naming = .ok m.fields ∧ methodPass c naming = .ok m.methods ∧ build c naming inner = .ok m ∧
      m.type = c.thisClass ∧ m.kind = kindOf (flagsOf c) ∧ m.inner = inner ∧
      m.enumConstants = ((c.fields.filter isShownField).filter (isConstant (kindOf (flagsOf c)))).map
        (finalFieldName naming c.thisClass) := by
  rcases hf : fieldPass c naming with e | fields
  · refine .inl ⟨e, rfl, ?_⟩
    unfold fieldPass at hf
    rw [build, hf]
    rfl
  rcases hm : methodPass c naming with e | methods
  · refine .inr (.inl ⟨fields, e, rfl, rfl, ?_⟩)
    unfold fieldPass at hf
    unfold methodPass at hm
    rw [build, hf]
    dsimp only [bind, Except.bind]
    rw [hm]
  · refine .inr (.inr ?_)
    unfold fieldPass at hf
    unfold methodPass at hm
    rw [build, hf]
    dsimp only [bind, Except.bind]
    rw [hm]
    exact ⟨_, rfl, rfl, rfl, rfl, rfl, rfl, rfl⟩

theorem build_ok_iff :
    (∃ m, build c naming inner = .ok m) ↔
      (∃ fields, fieldPass c naming = .ok fields) ∧ ∃ methods, methodPass c naming = .ok methods := by
  rcases build_cases c naming inner with ⟨e, hf, hb⟩ | ⟨fields, e, hf, hm, hb⟩ | ⟨m, hf, hm, hb, -⟩
  · rw [hf, hb]
    exact ⟨fun ⟨m, h⟩ => (by cases h), fun ⟨⟨fields, h⟩, _⟩ => (by cases h)⟩
  · rw [hm, hb]
    exact ⟨fun ⟨m, h⟩ => (by cases h), fun ⟨_, methods, h⟩ => (by cases h)⟩
  · exact ⟨fun _ => ⟨⟨_, hf⟩, _, hm⟩, fun _ => ⟨m, hb⟩⟩

theorem build_error_iff (e : DescriptorError) :
    build c naming inner = .error e ↔
      fieldPass c naming = .error e ∨ (∃ fields, fieldPass c naming = .ok fields) ∧ methodPass c naming = .error e := by
  rcases build_cases c naming inner with ⟨e', hf, hb⟩ | ⟨fields, e', hf, hm, hb⟩ | ⟨m, hf, hm, hb, -⟩
  · rw [hf, hb]
    constructor
    · rintro ⟨⟩
      exact .inl rfl
    · rintro (⟨⟨⟩⟩ | ⟨⟨fields, ⟨⟩⟩, -⟩)
      rfl
  · rw [hf, hm, hb]
    constructor
    · rintro ⟨⟩
      exact .inr ⟨⟨fields, rfl⟩, rfl⟩
    · rintro (⟨⟨⟩⟩ | ⟨-, ⟨⟩⟩)
      rfl
  · rw [hf, hm, hb]
    constructor
    · rintro ⟨⟩
    · rintro (⟨⟨⟩⟩ | ⟨-, ⟨⟩⟩)

theorem splitsMembers {m : ClassModel} (h : build c naming inner = .ok m) : SplitsMembers c naming inner m := by
  rcases build_cases c naming inner with ⟨e, -, hb⟩ | ⟨-, e, -, -, hb⟩ |
    ⟨m', hf, hm, hb, htype, hkind, hinner, hconstants⟩
  · cases hb.symm.trans h
  · cases hb.symm.trans h
  · cases hb.symm.trans h
    refine ⟨htype, hkind, ?_, methodsShown hm, hinner⟩
    rw [hconstants]
    exact fieldsShown hf

end Build

/-- For every class file, whatever names were given and whatever is nested in it: a model is built exactly when every
member that it shows with a type has a descriptor that can be read; it has then, in order and once each, what is shown
of the members, and the nested models as they came; and else the error is that of the first of these members that
cannot be read, fields before methods. -/
theorem build_splits_members (c : ClassFile) (naming : Naming) (inner : List ClassModel) :
    ((∃ m, build c naming inner = .ok m) ↔ Describable c) ∧
    (∀ m, build c naming inner = .ok m → SplitsMembers c naming inner m) ∧
    ∀ e, build c naming inner = .error e ↔ Offends c e := by
  refine ⟨?_, fun m => splitsMembers c naming inner, fun e => ?_⟩
  · rw [build_ok_iff, fieldPass_ok_iff, methodPass_ok_iff]
    exact ⟨fun ⟨hf, hm⟩ => ⟨hf, hm⟩, fun ⟨hf, hm⟩ => ⟨hf, hm⟩⟩
  · rw [build_error_iff, fieldPass_ok_iff, fieldPass_error_iff, methodPass_error_iff]
    constructor
    · rintro (h | ⟨hf, h⟩)
      · exact .field h
      · exact .method hf h
    · rintro (h | ⟨hf, h⟩)
      · exact .inl h
      · exact .inr ⟨hf, h⟩

/-- An enum in which all but a field and a method are left out or constants, with descriptors that cannot be read. -/
def sealedEnum : ClassFile :=
  ⟨0, 52, Access.isEnum, ⟨"E"⟩, none, [],
    [⟨Access.isEnum, "A", "?", none⟩, ⟨Access.isSynthetic, "$VALUES", "?", none⟩, ⟨0, "n", "I", none⟩],
    [⟨Access.isStatic, "values", "()[?", none⟩, ⟨Access.isBridge, "f", "?", none⟩, ⟨0, "f", "()V", none⟩], [], none⟩

example : (build sealedEnum Naming.empty []).toOption.map
    (fun m => (m.enumConstants, m.fields.map (·.name), m.methods.map (·.name))) = some (["A"], ["n"], ["f"]) := by
  decide +kernel

/-- A plain class has no constants, so the descriptor of `A` is read. -/
example : (build { sealedEnum with access := 0 } Naming.empty []).toOption.isNone = true := by decide +kernel

end ClassModel

end ClassSkeleton
