import ClassSkeleton.ClassFile.Parse
import ClassSkeleton.Proofs.Consumption

/-
  ClassSkeleton.Proofs.Truncation — class files with bytes missing, and with bytes to spare.

  Reading a class file is steady: every part of it is made of fields, of look-ups in the pool and of
  attribute bodies that are there in full when they are looked into. So what follows the class file never
  matters, a complaint about what was read stands whatever follows, and a class file that was read is
  truncated, and nothing else, when any of the bytes it takes are missing (`parse_prefixes`).
-/

namespace ClassSkeleton

open Reader

/-! ## The pool -/

namespace Pool

theorem steady_constant (tag index : Nat) : Steady (constant tag index) := by
  unfold constant
  split
  · exact (steady_number 2).bind fun length => (steady_take length).bind fun _ => steady_pure _
  · split
    · exact (steady_number 2).map _
    · split
      · exact (steady_take _).bind fun _ => steady_pure _
      · exact steady_fail _

/-- A wide constant goes on two indices later, and may be the last with one index left. -/
theorem steady_constants (left index : Nat) : Steady (constants left index) := by
  induction left, index using constants.induct with
  | case1 index => rw [constants]; exact steady_pure []
  | case2 index n ih₁ ih₂ =>
    rw [constants]
    refine (steady_number 1).bind fun tag => (steady_constant tag index).bind fun c => ?_
    split
    · cases n with
      | zero => exact steady_pure _
      | succ m => exact ih₁.bind fun _ => steady_pure _
    · exact ih₂.bind fun _ => steady_pure _

theorem steady_read : Steady read :=
  (steady_number 2).bind fun count => (steady_constants (count - 1) 1).bind fun _ => steady_pure _

theorem steady_utf8 (pool : Pool) (index : Nat) : Steady (pool.utf8 index) := by
  unfold utf8
  split
  · exact steady_pure _
  · exact steady_fail _

theorem steady_className (pool : Pool) (index : Nat) : Steady (pool.className index) := by
  unfold className
  split
  · exact (steady_utf8 pool _).map _
  · exact steady_fail _

theorem steady_optional {α : Type} {lookup : Nat → Reader α} (h : ∀ index, Steady (lookup index)) (index : Nat) :
    Steady (optional lookup index) := by
  unfold optional
  split
  · exact steady_pure _
  · exact (h index).map _

end Pool

/-! ## Members, attributes and the whole -/

namespace ClassFile

theorem steady_rawAttribute (pool : Pool) : Steady (rawAttribute pool) :=
  (steady_number 2).bind fun index => (pool.steady_utf8 index).bind fun _ => (steady_number 4).bind fun length =>
    (steady_take length).bind fun _ => steady_pure _

theorem steady_member (pool : Pool) : Steady (member pool) :=
  (steady_number 2).bind fun _ => (steady_number 2).bind fun name => (pool.steady_utf8 name).bind fun _ =>
    (steady_number 2).bind fun descriptor => (pool.steady_utf8 descriptor).bind fun _ =>
      (steady_number 2).bind fun count => ((steady_rawAttribute pool).times count).bind fun _ => steady_pure _

theorem steady_members (pool : Pool) : Steady (members pool) :=
  (steady_number 2).bind fun count => (steady_member pool).times count

/-- A body that is looked into was taken as a whole, so nothing in it waits for more input. -/
theorem steady_classAttribute (pool : Pool) : Steady (classAttribute pool) := by
  refine (steady_rawAttribute pool).bind fun ⟨name, body⟩ => ?_
  dsimp only
  split
  · exact (steady_within body _).map _
  · split
    · exact (steady_within body _).map _
    · exact steady_pure _

theorem steady_reader : Steady reader := by
  refine (steady_number 4).bind fun found => ?_
  split
  · exact steady_fail _
  · refine (steady_number 2).bind fun _ => (steady_number 2).bind fun _ => Pool.steady_read.bind fun pool => ?_
    have hclass : Steady (do pool.className (← u2)) := (steady_number 2).bind pool.steady_className
    refine (steady_number 2).bind fun _ => (steady_number 2).bind fun this => (pool.steady_className this).bind
      fun _ => (steady_number 2).bind fun super => (Pool.steady_optional pool.steady_className super).bind fun _ => ?_
    exact (steady_number 2).bind fun count => (hclass.times count).bind fun _ =>
      (steady_members pool).bind fun _ => (steady_members pool).bind fun _ =>
      (steady_number 2).bind fun attributeCount => ((steady_classAttribute pool).times attributeCount).bind
      fun _ => steady_pure _

theorem parse_ok {bytes : List UInt8} {c : ClassFile} (h : parse bytes = .ok c) :
    ∃ d, parseFrom bytes = .ok (c, d) := by
  rcases hp : parseFrom bytes with e | ⟨c', d⟩
  · rw [parse, hp] at h
    cases h
  · rw [parse, hp] at h
    cases h
    exact ⟨d, rfl⟩

theorem parse_error {bytes : List UInt8} {e : ClassFormatError} :
    parse bytes = .error e ↔ parseFrom bytes = .error e := by
  rw [parse]
  rcases parseFrom bytes with e' | ⟨c, d⟩
  · constructor <;> intro h <;> cases h <;> rfl
  · exact ⟨fun h => (by cases h), fun h => by cases h⟩

/-- What a class file comes to, or what is wrong with it, does not change with more bytes; and one that was
read is truncated, at an offset within what is left, when it is cut anywhere before its end. -/
theorem parse_prefixes :
    (∀ bytes extra, (∀ offset, parse bytes ≠ .error (.truncated offset)) → parse (bytes ++ extra) = parse bytes) ∧
    ∀ bytes c d, parseFrom bytes = .ok (c, d) → d.pos ≤ bytes.length ∧ d.rest = bytes.drop d.pos ∧
      ∀ p < d.pos, ∃ offset ≤ p, parse (bytes.take p) = .error (.truncated offset) := by
  refine ⟨fun bytes extra h => ?_, fun bytes c d h => ?_⟩
  · rcases hp : parse bytes with e | c
    · have he : e.isTruncated = false := by
        cases e with
        | truncated offset => exact absurd hp (h offset)
        | _ => rfl
      exact parse_error.2 (steady_reader.error (parse_error.1 hp) he extra)
    · obtain ⟨d, hd⟩ := parse_ok hp
      obtain ⟨taken, hb, -, hreads, -⟩ := steady_reader.ok hd
      have hlong : parseFrom (bytes ++ extra) = .ok (c, ⟨d.rest ++ extra, 0 + taken.length⟩) := by
        have hr := hreads (d.rest ++ extra) 0
        rw [← List.append_assoc, ← hb] at hr
        exact hr
      rw [parse, hlong]
      rfl
  · obtain ⟨taken, hb, hpos, -, hcut⟩ := steady_reader.ok h
    have hlen : d.pos = taken.length := by simpa using hpos
    have hb : bytes = taken ++ d.rest := hb
    refine ⟨?_, ?_, fun p hp => ?_⟩
    · rw [hb, hlen, List.length_append]
      omega
    · rw [hlen]
      conv => rhs; rw [hb, List.drop_left]
    · rw [hlen] at hp
      obtain ⟨offset, ho, he⟩ := hcut p 0 hp
      refine ⟨offset, by omega, parse_error.2 ?_⟩
      rw [hb, List.take_append_of_le_length (Nat.le_of_lt hp)]
      exact he

/-- A class `A` without members. -/
def bareClass : List UInt8 :=
  [202, 254, 186, 190, 0, 0, 0, 52, 0, 3, 1, 0, 1, 65, 7, 0, 1, 0, 33, 0, 2, 0, 0, 0, 0, 0, 0, 0, 0, 0, 0]

/-- The class with two bytes after it: they are not read, and without the last byte that is, the class is
truncated. -/
theorem parse_prefixes_of_bareClass :
    ∃ c, parseFrom (bareClass ++ [1, 2]) = .ok (c, ⟨[1, 2], 31⟩) ∧
      parse (bareClass ++ [1, 2] ++ [3]) = parse (bareClass ++ [1, 2]) ∧
      ∃ offset ≤ 30, parse ((bareClass ++ [1, 2]).take 30) = .error (.truncated offset) := by
  have hd : (parseFrom (bareClass ++ [1, 2])).toOption.map (·.2) = some ⟨[1, 2], 31⟩ := by decide +kernel
  rcases hp : parseFrom (bareClass ++ [1, 2]) with e | ⟨c, d⟩
  · rw [hp] at hd
    cases hd
  · rw [hp] at hd
    obtain rfl : d = ⟨[1, 2], 31⟩ := Option.some.inj hd
    have hread : ∀ offset, parse (bareClass ++ [1, 2]) ≠ .error (.truncated offset) := by
      intro offset h
      rw [parse, hp] at h
      cases h
    exact ⟨c, rfl, parse_prefixes.1 _ _ hread, (parse_prefixes.2 _ _ _ hp).2.2 30 (by decide)⟩

end ClassFile

end ClassSkeleton
