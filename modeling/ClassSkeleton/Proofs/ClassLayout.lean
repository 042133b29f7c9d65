import ClassSkeleton.ClassFile.Parse
import ClassSkeleton.Proofs.Consumption
import Mathlib.Data.List.Basic

/-
  ClassSkeleton.Proofs.ClassLayout — class files as they are written down.

  A `Layout` is a class description with its constant pool: the items of the pool in order, and everything
  else in terms of indices into it, down to the rows of its tables of nested classes. `Layout.bytes` writes it
  down in the order of the class-file format, every number most significant byte first and every list behind
  its length. `Layout.classFile` is what it describes: names are looked up at their indices, of several
  attributes of one name the last counts, and index 0 stands for nothing where that is allowed.

  Nothing in these definitions refers to reading. `parse_layout` says that reading what was written gives back
  what is described, for every well-formed layout and whatever comes after it.
-/

namespace ClassSkeleton

/-! ## Layouts -/

/-- The last `width` digits of a number to base 256, most significant first. -/
def word : (width n : Nat) → List UInt8
  | 0, _ => []
  | width + 1, n => word width (n / 256) ++ [UInt8.ofNat n]

/-- A list behind its length, which takes two bytes. -/
def listed {α : Type} (write : α → List UInt8) (items : List α) : List UInt8 :=
  word 2 items.length ++ items.flatMap write

namespace Layout

/-- An item of the constant pool. -/
inductive Item where
  | utf8 (bytes : List UInt8)
  | integer (value : UInt32)
  | float (bits : UInt32)
  | long (value : UInt64)
  | double (bits : UInt64)
  | classRef (name : UInt16)
  | string (text : UInt16)
  | fieldRef (owner nameAndType : UInt16)
  | methodRef (owner nameAndType : UInt16)
  | interfaceMethodRef (owner nameAndType : UInt16)
  | nameAndType (name descriptor : UInt16)
  | methodHandle (kind : UInt8) (reference : UInt16)
  | methodType (descriptor : UInt16)
  | dynamic (bootstrap nameAndType : UInt16)
  | invokeDynamic (bootstrap nameAndType : UInt16)
  | moduleRef (name : UInt16)
  | packageRef (name : UInt16)
  deriving DecidableEq, Repr

namespace Item

def tag : Item → Nat
  | utf8 _ => 1
  | integer _ => 3
  | float _ => 4
  | long _ => 5
  | double _ => 6
  | classRef _ => 7
  | string _ => 8
  | fieldRef .. => 9
  | methodRef .. => 10
  | interfaceMethodRef .. => 11
  | nameAndType .. => 12
  | methodHandle .. => 15
  | methodType _ => 16
  | dynamic .. => 17
  | invokeDynamic .. => 18
  | moduleRef _ => 19
  | packageRef _ => 20

/-- What follows the tag. -/
def payload : Item → List UInt8
  | utf8 bytes => word 2 bytes.length ++ bytes
  | integer v | float v => word 4 v.toNat
  | long v | double v => word 8 v.toNat
  | classRef i | string i | methodType i | moduleRef i | packageRef i => word 2 i.toNat
  | fieldRef i j | methodRef i j | interfaceMethodRef i j | nameAndType i j | dynamic i j | invokeDynamic i j =>
    word 2 i.toNat ++ word 2 j.toNat
  | methodHandle k i => word 1 k.toNat ++ word 2 i.toNat

def bytes (item : Item) : List UInt8 := word 1 item.tag ++ item.payload

/-- The indices an item takes; the first is its own. -/
def slots : Item → List (Option Item)
  | long v => [some (long v), none]
  | double v => [some (double v), none]
  | item => [some item]

/-- The length that is written down for a text. -/
def textLength : Item → Nat
  | utf8 bytes => bytes.length
  | _ => 0

def WellFormed (item : Item) : Prop := item.textLength < 65536

instance (item : Item) : Decidable item.WellFormed := inferInstanceAs (Decidable (_ < _))

end Item

/-- The items by index. Index 0 has none. -/
def indexed (pool : List Item) : List (Option Item) := none :: pool.flatMap Item.slots

/-- The text at an index, if there is one. -/
def text? (pool : List Item) (index : UInt16) : Option String :=
  match (indexed pool)[index.toNat]? with
  | some (some (.utf8 bytes)) => some (Text.lossyModified bytes)
  | _ => none

/-- The class at an index: its name is the text that the item there refers to, slashes made dots. -/
def type? (pool : List Item) (index : UInt16) : Option TypeName :=
  match (indexed pool)[index.toNat]? with
  | some (some (.classRef name)) => (text? pool name).map TypeName.ofInternal
  | _ => none

def text (pool : List Item) (index : UInt16) : String := (text? pool index).getD ""

def type (pool : List Item) (index : UInt16) : TypeName := (type? pool index).getD ⟨""⟩

/-- Where index 0 stands for nothing. -/
def optional {α : Type} (lookup : UInt16 → Option α) (index : UInt16) : Option α :=
  if index = 0 then none else lookup index

structure Attribute where
  name : UInt16
  body : List UInt8
  deriving DecidableEq, Repr

namespace Attribute

def bytes (a : Attribute) : List UInt8 := word 2 a.name.toNat ++ word 4 a.body.length ++ a.body

def WellFormed (pool : List Item) (a : Attribute) : Prop := (text? pool a.name).isSome ∧ a.body.length < 4294967296

instance (pool : List Item) (a : Attribute) : Decidable (a.WellFormed pool) := inferInstanceAs (Decidable (_ ∧ _))

end Attribute

/-- A field or a method. -/
structure Member where
  access : UInt16
  name : UInt16
  descriptor : UInt16
  attributes : List Attribute
  deriving DecidableEq, Repr

namespace Member

def bytes (m : Member) : List UInt8 :=
  word 2 m.access.toNat ++ word 2 m.name.toNat ++ word 2 m.descriptor.toNat ++ listed Attribute.bytes m.attributes

/-- What it describes: the body is that of the last attribute called `Code`. -/
def member (pool : List Item) (m : Member) : ClassSkeleton.Member where
  access := m.access.toNat
  name := text pool m.name
  descriptor := text pool m.descriptor
  code := (m.attributes.filter fun a => text? pool a.name = some "Code").getLast?.map (·.body)

def WellFormed (pool : List Item) (m : Member) : Prop :=
  (text? pool m.name).isSome ∧ (text? pool m.descriptor).isSome ∧ m.attributes.length < 65536 ∧
    ∀ a ∈ m.attributes, a.WellFormed pool

instance (pool : List Item) (m : Member) : Decidable (m.WellFormed pool) := inferInstanceAs (Decidable (_ ∧ _))

end Member

/-- A row of a table of nested classes. -/
structure Row where
  inner : UInt16
  outer : UInt16
  name : UInt16
  access : UInt16
  deriving DecidableEq, Repr

namespace Row

def bytes (r : Row) : List UInt8 :=
  word 2 r.inner.toNat ++ word 2 r.outer.toNat ++ word 2 r.name.toNat ++ word 2 r.access.toNat

def entry (pool : List Item) (r : Row) : NestEntry where
  inner := type pool r.inner
  outer := optional (type? pool) r.outer
  simpleName := optional (text? pool) r.name
  access := r.access.toNat

def WellFormed (pool : List Item) (r : Row) : Prop :=
  (type? pool r.inner).isSome ∧ (r.outer = 0 ∨ (type? pool r.outer).isSome) ∧
    (r.name = 0 ∨ (text? pool r.name).isSome)

instance (pool : List Item) (r : Row) : Decidable (r.WellFormed pool) := inferInstanceAs (Decidable (_ ∧ _))

end Row

/-- An attribute of the class. -/
inductive Detail where
  | nest (name : UInt16) (rows : List Row)
  | source (name file : UInt16)
  | other (raw : Attribute)
  deriving DecidableEq, Repr

namespace Detail

/-- The attribute as it is written. -/
def written : Detail → Attribute
  | nest name rows => ⟨name, listed Row.bytes rows⟩
  | source name file => ⟨name, word 2 file.toNat⟩
  | other a => a

def rows? : Detail → Option (List Row)
  | nest _ rows => some rows
  | _ => none

def file? : Detail → Option UInt16
  | source _ file => some file
  | _ => none

/-- Tables of nested classes and source files go by their names, and nothing else has these. -/
def WellFormed (pool : List Item) : Detail → Prop
  | nest name rows => text? pool name = some "InnerClasses" ∧ rows.length < 65536 ∧ ∀ r ∈ rows, r.WellFormed pool
  | source name file => text? pool name = some "SourceFile" ∧ (text? pool file).isSome
  | other a => a.WellFormed pool ∧ text? pool a.name ≠ some "InnerClasses" ∧ text? pool a.name ≠ some "SourceFile"

instance (pool : List Item) : (d : Detail) → Decidable (d.WellFormed pool)
  | nest .. | source .. | other _ => inferInstanceAs (Decidable (_ ∧ _))

end Detail

end Layout

structure Layout where
  minorVersion : UInt16
  majorVersion : UInt16
  pool : List Layout.Item
  access : UInt16
  thisClass : UInt16
  superClass : UInt16
  interfaces : List UInt16
  fields : List Layout.Member
  methods : List Layout.Member
  details : List Layout.Detail
  deriving DecidableEq, Repr

namespace Layout

def bytes (l : Layout) : List UInt8 :=
  [0xCA, 0xFE, 0xBA, 0xBE] ++ word 2 l.minorVersion.toNat ++ word 2 l.majorVersion.toNat ++
    word 2 (indexed l.pool).length ++ l.pool.flatMap Item.bytes ++
    word 2 l.access.toNat ++ word 2 l.thisClass.toNat ++ word 2 l.superClass.toNat ++
    listed (word 2 ·.toNat) l.interfaces ++ listed Member.bytes l.fields ++ listed Member.bytes l.methods ++
    listed (·.written.bytes) l.details

/-- What a layout describes. -/
def classFile (l : Layout) : ClassFile where
  minorVersion := l.minorVersion.toNat
  majorVersion := l.majorVersion.toNat
  access := l.access.toNat
  thisClass := type l.pool l.thisClass
  superClass := optional (type? l.pool) l.superClass
  interfaces := l.interfaces.map (type l.pool)
  fields := l.fields.map (Member.member l.pool)
  methods := l.methods.map (Member.member l.pool)
  nest := ((l.details.filterMap Detail.rows?).getLast?.getD []).map (Row.entry l.pool)
  sourceFile := (l.details.filterMap Detail.file?).getLast?.map (text l.pool)

/-- Every reference is to an item of the right kind, and every length fits its field. -/
structure WellFormed (l : Layout) : Prop where
  items : ∀ item ∈ l.pool, item.WellFormed
  pool : (indexed l.pool).length ≤ 65535
  thisClass : (type? l.pool l.thisClass).isSome
  superClass : l.superClass = 0 ∨ (type? l.pool l.superClass).isSome
  interfaces : l.interfaces.length < 65536 ∧ ∀ i ∈ l.interfaces, (type? l.pool i).isSome
  fields : l.fields.length < 65536 ∧ ∀ m ∈ l.fields, m.WellFormed l.pool
  methods : l.methods.length < 65536 ∧ ∀ m ∈ l.methods, m.WellFormed l.pool
  details : l.details.length < 65536 ∧ ∀ d ∈ l.details, d.WellFormed l.pool

end Layout

/-! ## Numbers and lists -/

theorem length_word (width n : Nat) : (word width n).length = width := by
  induction width generalizing n with
  | zero => rfl
  | succ width ih => simp [word, ih]

namespace Reader

theorem bigEndian_word {width n : Nat} (h : n < Nat.pow 256 width) : bigEndian (word width n) = n := by
  induction width generalizing n with
  | zero =>
    have : n = 0 := by simpa using h
    subst this
    rfl
  | succ width ih =>
    have hn : n / 256 < Nat.pow 256 width := by
      have hm : n < Nat.pow 256 width * 256 := h
      exact Nat.div_lt_of_lt_mul (by rwa [Nat.mul_comm] at hm)
    have hb : bigEndian (word width (n / 256) ++ [UInt8.ofNat n]) =
        bigEndian (word width (n / 256)) * 256 + n % 256 := by
      simp [bigEndian, List.foldl_append]
    rw [word, hb, ih hn]
    omega

theorem reads_number {width n : Nat} (h : n < Nat.pow 256 width) : Reads (number width) (word width n) n := by
  have ht := reads_take (word width n)
  rw [length_word] at ht
  have hr := ht.map bigEndian
  rwa [bigEndian_word h] at hr

theorem reads_u2 (n : UInt16) : Reads u2 (word 2 n.toNat) n.toNat := reads_number n.toNat_lt

variable {α β : Type} {r : Reader β} {write : α → List UInt8} {value : α → β} {items : List α}

theorem reads_times (h : ∀ x ∈ items, Reads r (write x) (value x)) :
    Reads (times items.length r) (items.flatMap write) (items.map value) := by
  induction items with
  | nil => exact reads_pure []
  | cons x xs ih =>
    have hx := h x List.mem_cons_self
    have hxs := ih fun y hy => h y (List.mem_cons_of_mem x hy)
    exact Reads.of_eq (hx.bind (hxs.bind (reads_pure _))) (by rw [List.flatMap_cons, List.append_nil])

end Reader

open Reader

namespace Layout

variable {pool : List Item}

/-! ## The pool -/

/-- What is kept of an item when it is read. -/
def kept : Option Item → Constant
  | some (.utf8 bytes) => .utf8 (Text.lossyModified bytes)
  | some (.classRef name) => .classRef name.toNat
  | some _ => .other
  | none => .unusable

/-- The pool as it is read. -/
def poolOf (pool : List Item) : Pool := ⟨(indexed pool).map kept⟩

/-- Items that are neither texts nor classes are read over by their size. -/
theorem reads_plain {tag : Nat} {payload : List UInt8} (h : Pool.plainSize tag = some payload.length)
    (index : Nat) : Reads (Pool.constant tag index) payload .other := by
  have h₁ : tag ≠ 1 := by rintro rfl; cases h
  have h₇ : tag ≠ 7 := by rintro rfl; cases h
  unfold Pool.constant
  rw [if_neg h₁, if_neg h₇, h]
  exact Reads.of_eq ((reads_take payload).bind (reads_pure _)) (List.append_nil _).symm

theorem reads_constant {item : Item} (h : item.WellFormed) (index : Nat) :
    Reads (Pool.constant item.tag index) item.payload (kept (some item)) := by
  cases item with
  | utf8 bytes =>
    exact Reads.of_eq ((reads_number h).bind ((reads_take bytes).bind (reads_pure _))) (by simp [Item.payload])
  | classRef name => exact (reads_u2 name).map Constant.classRef
  | _ => exact reads_plain (by simp [Item.tag, Item.payload, Pool.plainSize, length_word]) index

theorem Item.tag_lt (item : Item) : item.tag < 256 := by cases item <;> simp [Item.tag]

/-- An item takes two indices exactly when its tag says so. -/
theorem Item.slots_eq (item : Item) : item.slots = if Pool.isWide item.tag then [some item, none] else [some item] := by
  cases item <;> rfl

/-- An item reads as its slots, and reading goes on behind them. -/
theorem reads_constants (h : ∀ item ∈ pool, item.WellFormed) (index : Nat) :
    Reads (Pool.constants (pool.flatMap Item.slots).length index) (pool.flatMap Item.bytes)
      ((pool.flatMap Item.slots).map kept) := by
  induction pool generalizing index with
  | nil => exact reads_pure []
  | cons item rest ih =>
    have htag : Reads u1 (word 1 item.tag) item.tag := reads_number item.tag_lt
    have hitem := reads_constant (h item List.mem_cons_self) index
    have hrest := ih fun x hx => h x (List.mem_cons_of_mem item hx)
    have hb : (item :: rest).flatMap Item.bytes =
        word 1 item.tag ++ (item.payload ++ (rest.flatMap Item.bytes ++ [])) := by
      rw [List.flatMap_cons, Item.bytes, List.append_assoc, List.append_nil]
    by_cases hw : Pool.isWide item.tag = true
    · simp only [List.flatMap_cons, item.slots_eq, hw, if_true, List.cons_append, List.nil_append, List.length_cons,
        List.map_cons]
      rw [Pool.constants]
      refine Reads.of_eq (htag.bind (hitem.bind ?_)) hb
      rw [if_pos hw]
      exact (hrest (index + 2)).bind (reads_pure _)
    · simp only [List.flatMap_cons, item.slots_eq, if_neg hw, List.cons_append, List.nil_append, List.length_cons,
        List.map_cons]
      rw [Pool.constants]
      refine Reads.of_eq (htag.bind (hitem.bind ?_)) hb
      rw [if_neg hw]
      exact (hrest (index + 1)).bind (reads_pure _)

theorem reads_pool (h : ∀ item ∈ pool, item.WellFormed) (hl : (indexed pool).length ≤ 65535) :
    Reads Pool.read (word 2 (indexed pool).length ++ pool.flatMap Item.bytes) (poolOf pool) := by
  have hn : (indexed pool).length < Nat.pow 256 2 := by
    show (indexed pool).length < 65536
    omega
  refine Reads.of_eq ((reads_number hn).bind (Reads.bind ?_ (reads_pure _))) (by rw [List.append_nil])
  exact reads_constants h 1

/-! ## Look-ups -/

theorem poolOf_entry (pool : List Item) (index : UInt16) :
    (poolOf pool).entries[index.toNat]? = (indexed pool)[index.toNat]?.map kept := List.getElem?_map

theorem reads_text {index : UInt16} (h : (text? pool index).isSome) :
    Reads ((poolOf pool).utf8 index.toNat) [] (text pool index) := by
  obtain ⟨s, hs⟩ := Option.isSome_iff_exists.1 h
  rw [text, hs, Option.getD_some]
  unfold text? at hs
  split at hs
  · next hi =>
    cases hs
    rw [Pool.utf8, poolOf_entry, hi]
    exact reads_pure _
  · cases hs

theorem reads_type {index : UInt16} (h : (type? pool index).isSome) :
    Reads ((poolOf pool).className index.toNat) [] (type pool index) := by
  obtain ⟨t, ht⟩ := Option.isSome_iff_exists.1 h
  rw [type, ht, Option.getD_some]
  unfold type? at ht
  split at ht
  · next name hi =>
    obtain ⟨s, hs, rfl⟩ := Option.map_eq_some_iff.1 ht
    have hsome : (text? pool name).isSome := by
      rw [hs]
      rfl
    have hname := reads_text hsome
    rw [text, hs, Option.getD_some] at hname
    rw [Pool.className, poolOf_entry, hi]
    exact hname.map TypeName.ofInternal
  · cases ht

theorem reads_optional {α : Type} {lookup : UInt16 → Option α} {r : Nat → Reader α} {index : UInt16}
    (h : index = 0 ∨ (lookup index).isSome) (hr : ∀ a, lookup index = some a → Reads (r index.toNat) [] a) :
    Reads (Pool.optional r index.toNat) [] (optional lookup index) := by
  unfold Pool.optional optional
  by_cases h₀ : index = 0
  · subst h₀
    exact reads_pure none
  · obtain ⟨a, ha⟩ := Option.isSome_iff_exists.1 (h.resolve_left h₀)
    have hn : index.toNat ≠ 0 := fun hz => h₀ (UInt16.toNat_inj.1 hz)
    rw [if_neg hn, if_neg h₀, ha]
    exact (hr a ha).map some

theorem reads_optional_type {index : UInt16} (h : index = 0 ∨ (type? pool index).isSome) :
    Reads (Pool.optional (poolOf pool).className index.toNat) [] (optional (type? pool) index) := by
  refine reads_optional h fun t ht => ?_
  have hsome : (type? pool index).isSome := by
    rw [ht]
    rfl
  have hr := reads_type hsome
  rwa [type, ht, Option.getD_some] at hr

theorem reads_optional_text {index : UInt16} (h : index = 0 ∨ (text? pool index).isSome) :
    Reads (Pool.optional (poolOf pool).utf8 index.toNat) [] (optional (text? pool) index) := by
  refine reads_optional h fun s hs => ?_
  have hsome : (text? pool index).isSome := by
    rw [hs]
    rfl
  have hr := reads_text hsome
  rwa [text, hs, Option.getD_some] at hr

/-! ## Members and attributes -/

theorem reads_attribute {a : Attribute} (h : a.WellFormed pool) :
    Reads (ClassFile.rawAttribute (poolOf pool)) a.bytes (text pool a.name, a.body) := by
  obtain ⟨hname, hbody⟩ := h
  refine Reads.of_eq ((reads_u2 a.name).bind ((reads_text hname).look ((reads_number ?_).bind
    ((reads_take a.body).bind (reads_pure _))))) ?_
  · exact hbody
  · simp only [Attribute.bytes, List.append_assoc, List.append_nil]

theorem lastNamed_code {attributes : List Attribute} (h : ∀ a ∈ attributes, a.WellFormed pool) :
    ClassFile.lastNamed "Code" (attributes.map fun a => (text pool a.name, a.body)) =
      (attributes.filter fun a => text? pool a.name = some "Code").getLast?.map (·.body) := by
  have hname : ∀ a ∈ attributes, (text pool a.name == "Code") = decide (text? pool a.name = some "Code") := by
    intro a ha
    obtain ⟨s, hs⟩ := Option.isSome_iff_exists.1 (h a ha).1
    simp only [text, hs, Option.getD_some, Option.some.injEq]
    rfl
  rw [ClassFile.lastNamed, ← List.getLast?_filter, List.filter_map, List.getLast?_map, Option.map_map,
    ← List.filter_congr hname]
  rfl

theorem reads_member {m : Member} (h : m.WellFormed pool) :
    Reads (ClassFile.member (poolOf pool)) m.bytes (m.member pool) := by
  obtain ⟨hname, hdescriptor, hcount, hattributes⟩ := h
  have hlist := reads_times fun a ha => reads_attribute (hattributes a ha)
  rw [Member.member, ← lastNamed_code hattributes]
  refine Reads.of_eq ((reads_u2 m.access).bind ((reads_u2 m.name).bind ((reads_text hname).look
    ((reads_u2 m.descriptor).bind ((reads_text hdescriptor).look ((reads_number hcount).bind
    (hlist.bind (reads_pure _)))))))) ?_
  simp only [Member.bytes, listed, List.append_assoc, List.append_nil]

theorem reads_members {members : List Member} (hl : members.length < 65536) (h : ∀ m ∈ members, m.WellFormed pool) :
    Reads (ClassFile.members (poolOf pool)) (listed Member.bytes members) (members.map (Member.member pool)) :=
  (reads_number hl).bind (reads_times fun m hm => reads_member (h m hm))

/-! ## Attributes of the class -/

theorem reads_row {row : Row} (h : row.WellFormed pool) :
    Reads (ClassFile.nestRow (poolOf pool)) row.bytes (row.entry pool) := by
  obtain ⟨hinner, houter, hname⟩ := h
  refine Reads.of_eq ((reads_u2 row.inner).bind ((reads_type hinner).look ((reads_u2 row.outer).bind
    ((reads_u2 row.name).bind ((reads_u2 row.access).bind ((reads_optional_type houter).look
    ((reads_optional_text hname).look (reads_pure _)))))))) ?_
  simp only [Row.bytes, List.append_assoc, List.append_nil]

/-- What reading makes of an attribute of the class. -/
def Detail.seen (pool : List Item) : Detail → ClassFile.ClassAttribute
  | nest _ rows => .nest (rows.map (Row.entry pool))
  | source _ file => .source (text pool file)
  | other _ => .other

theorem length_rows (rows : List Row) : (rows.flatMap Row.bytes).length = 8 * rows.length := by
  induction rows with
  | nil => rfl
  | cons row rest ih =>
    simp only [List.flatMap_cons, List.length_append, ih, Row.bytes, length_word, List.length_cons]
    omega

/-- A body on its own is read to where its reader stops. -/
theorem reads_within {α : Type} {r : Reader α} {bytes : List UInt8} {a : α} (h : Reads r bytes a) :
    Reads (within bytes r) [] a := by
  intro rest pos
  have hr := h [] 0
  rw [List.append_nil] at hr
  simp only [within, hr]
  rfl

theorem reads_detail {d : Detail} (h : d.WellFormed pool) :
    Reads (ClassFile.classAttribute (poolOf pool)) d.written.bytes (d.seen pool) := by
  cases d with
  | nest name rows =>
    obtain ⟨hname, hcount, hrows⟩ := h
    have hw : (Detail.nest name rows).written.WellFormed pool := by
      refine ⟨by rw [Detail.written, hname]; rfl, ?_⟩
      simp only [Detail.written, listed, List.length_append, length_word, length_rows]
      omega
    have ht : Reads (ClassFile.nestTable (poolOf pool)) (listed Row.bytes rows) (rows.map (Row.entry pool)) :=
      (reads_number hcount).bind (reads_times fun row hrow => reads_row (hrows row hrow))
    refine Reads.of_eq ((reads_attribute hw).bind ?_) (List.append_nil _).symm
    simp only [Detail.written, text, hname, Option.getD_some, if_true]
    exact (reads_within ht).map _
  | source name file =>
    obtain ⟨hname, hfile⟩ := h
    have hw : (Detail.source name file).written.WellFormed pool :=
      ⟨by rw [Detail.written, hname]; rfl, by simp [Detail.written, length_word]⟩
    refine Reads.of_eq ((reads_attribute hw).bind ?_) (List.append_nil _).symm
    have hne : ("SourceFile" : String) ≠ "InnerClasses" := by decide
    simp only [Detail.written, text, hname, Option.getD_some, if_neg hne, if_true]
    exact (reads_within (Reads.of_eq ((reads_u2 file).bind (reads_text hfile)) (List.append_nil _).symm)).map _
  | other a =>
    obtain ⟨hw, hn, hs⟩ := h
    refine Reads.of_eq ((reads_attribute hw).bind ?_) (List.append_nil _).symm
    obtain ⟨s, hname⟩ := Option.isSome_iff_exists.1 hw.1
    rw [hname, ne_eq, Option.some.injEq] at hn hs
    simp only [text, hname, Option.getD_some, if_neg hn, if_neg hs]
    exact reads_pure _

theorem lastNest_seen (details : List Detail) : ClassFile.lastNest (details.map (Detail.seen pool)) =
    ((details.filterMap Detail.rows?).getLast?.getD []).map (Row.entry pool) := by
  rw [ClassFile.lastNest, ← List.getLast?_filterMap, List.filterMap_map,
    List.filterMap_congr (g := fun d => d.rows?.map (List.map (Row.entry pool))) fun d _ => by cases d <;> rfl,
    ← List.map_filterMap, List.getLast?_map]
  cases (details.filterMap Detail.rows?).getLast? <;> rfl

theorem lastSource_seen (details : List Detail) : ClassFile.lastSource (details.map (Detail.seen pool)) =
    (details.filterMap Detail.file?).getLast?.map (text pool) := by
  rw [ClassFile.lastSource, ← List.getLast?_filterMap, List.filterMap_map,
    List.filterMap_congr (g := fun d => d.file?.map (text pool)) fun d _ => by cases d <;> rfl,
    ← List.map_filterMap, List.getLast?_map]

/-! ## The whole -/

theorem reads_layout {l : Layout} (h : l.WellFormed) : Reads ClassFile.reader l.bytes l.classFile := by
  obtain ⟨hitems, hpool, hthis, hsuper, ⟨hin, hinterfaces⟩, ⟨hfn, hfields⟩, ⟨hmn, hmethods⟩, hdn, hdetails⟩ := h
  have hmagic : Reads u4 [0xCA, 0xFE, 0xBA, 0xBE] ClassFile.magic := reads_number (n := ClassFile.magic) (by decide)
  have hclasses : Reads (times l.interfaces.length (do (poolOf l.pool).className (← u2)))
      (l.interfaces.flatMap (word 2 ·.toNat)) (l.interfaces.map (type l.pool)) :=
    reads_times fun i hi => Reads.of_eq ((reads_u2 i).bind (reads_type (hinterfaces i hi))) (List.append_nil _).symm
  have hattributes := reads_times fun d hd => reads_detail (hdetails d hd)
  have hb : l.bytes = [0xCA, 0xFE, 0xBA, 0xBE] ++ (word 2 l.minorVersion.toNat ++ (word 2 l.majorVersion.toNat ++
      ((word 2 (indexed l.pool).length ++ l.pool.flatMap Item.bytes) ++ (word 2 l.access.toNat ++
      (word 2 l.thisClass.toNat ++ (word 2 l.superClass.toNat ++ (word 2 l.interfaces.length ++
      (l.interfaces.flatMap (word 2 ·.toNat) ++ (listed Member.bytes l.fields ++ (listed Member.bytes l.methods ++
      (word 2 l.details.length ++ (l.details.flatMap (·.written.bytes) ++ [])))))))))))) := by
    simp only [Layout.bytes, listed, List.append_assoc, List.append_nil]
  rw [hb, Layout.classFile, ← lastNest_seen, ← lastSource_seen]
  refine hmagic.bind ?_
  rw [if_neg (fun h => h rfl)]
  exact (reads_u2 l.minorVersion).bind ((reads_u2 l.majorVersion).bind ((reads_pool hitems hpool).bind
    ((reads_u2 l.access).bind ((reads_u2 l.thisClass).bind ((reads_type hthis).look ((reads_u2 l.superClass).bind
    ((reads_optional_type hsuper).look ((reads_number hin).bind (hclasses.bind ((reads_members hfn hfields).bind
    ((reads_members hmn hmethods).bind ((reads_number hdn).bind (hattributes.bind (reads_pure _))))))))))))))

end Layout

/-- Reading a class file that was written down gives back what it describes, whatever comes after it. -/
theorem ClassFile.parse_layout (l : Layout) (h : l.WellFormed) (extra : List UInt8) :
    parse (l.bytes ++ extra) = .ok l.classFile := by
  rw [parse, parseFrom, Layout.reads_layout h extra 0]
  rfl

/-- A class `a.B` with a class `C` inside. A long stands between the items of its pool, and its method has two
bodies, of which the second counts. -/
def Layout.nestedPair : Layout where
  minorVersion := 3
  majorVersion := 52
  pool := [.utf8 (Text.utf8 "a/B"), .classRef 1, .long 5, .utf8 (Text.utf8 "InnerClasses"), .utf8 (Text.utf8 "SourceFile"),
    .utf8 (Text.utf8 "B.java"), .utf8 (Text.utf8 "Code"), .utf8 (Text.utf8 "f"), .utf8 (Text.utf8 "()V"),
    .utf8 (Text.utf8 "a/B$C"), .classRef 11]
  access := 33
  thisClass := 2
  superClass := 0
  interfaces := [12]
  fields := []
  methods := [⟨1, 9, 10, [⟨8, [1]⟩, ⟨8, [2, 3]⟩, ⟨9, []⟩]⟩]
  details := [.nest 5 [⟨12, 2, 0, 8⟩], .other ⟨8, [7]⟩, .source 6 7]

theorem ClassFile.parse_layout_of_nestedPair :
    Layout.nestedPair.WellFormed ∧ parse (Layout.nestedPair.bytes ++ [0]) = .ok {
      minorVersion := 3, majorVersion := 52, access := 33, thisClass := ⟨"a.B"⟩, superClass := none
      interfaces := [⟨"a.B$C"⟩], fields := [], methods := [⟨1, "f", "()V", some [2, 3]⟩]
      nest := [⟨⟨"a.B$C"⟩, some ⟨"a.B"⟩, none, 8⟩], sourceFile := some "B.java" } := by
  have hinterface : ∀ i ∈ Layout.nestedPair.interfaces, (Layout.type? Layout.nestedPair.pool i).isSome := by
    intro i hi
    rw [List.mem_singleton.1 hi]
    decide +kernel
  have h : Layout.nestedPair.WellFormed :=
    ⟨by decide +kernel, by decide +kernel, by decide +kernel, .inl rfl, ⟨by decide, hinterface⟩, by decide +kernel,
      by decide +kernel, by decide +kernel⟩
  exact ⟨h, (parse_layout _ h _).trans (congrArg Except.ok (by decide +kernel))⟩

end ClassSkeleton
