import ClassSkeleton.ClassFile.Cursor

/-
  ClassSkeleton.Proofs.Consumption — what readers take off their input.

  `Reads r bytes a` says that `r` takes exactly these bytes and yields `a`, wherever they stand and whatever
  comes after them. `CutShort r bytes` says that with fewer of them it fails, and with nothing else than a
  field that does not fit, reported inside what is there.

  A reader is steady (`Steady`) when what it took is read and cut short in this sense, and when it never
  takes back a complaint about something it has seen: only a field that does not fit can turn into another
  answer when there is more input. Steadiness is put together along sequences and repetitions, so it holds
  of every reader that is made of fields, look-ups and byte strings read on their own.
-/

namespace ClassSkeleton

/-- The input ended inside a field. -/
def ClassFormatError.isTruncated : ClassFormatError → Bool
  | truncated _ => true
  | _ => false

/-- A list shorter than `n` has no first `n` elements. -/
theorem split?_eq_none {α : Type} {n : Nat} {l : List α} (h : l.length < n) : split? n l = none := by
  rcases hs : split? n l with _ | ⟨x, rest⟩
  · rfl
  · obtain ⟨rfl, rfl⟩ := split?_eq_some hs
    simp only [List.length_append] at h
    omega

namespace Reader

variable {α β : Type} {r : Reader α} {f : α → Reader β} {a : α} {b : β} {bytes more : List UInt8}

/-! ## Sequences of readers -/

theorem bind_ok {c d : Cursor} (h : r c = .ok (a, d)) : (r >>= f) c = f a d := by
  show StateT.bind r f c = _
  simp only [StateT.bind, h]
  rfl

theorem bind_error {c : Cursor} {e : ClassFormatError} (h : r c = .error e) : (r >>= f) c = .error e := by
  show StateT.bind r f c = _
  simp only [StateT.bind, h]
  rfl

theorem map_eq_bind (g : α → β) (r : Reader α) : g <$> r = r >>= fun a => pure (g a) := (bind_pure_comp g r).symm

/-! ## Exactly these bytes -/

/-- `r` takes these bytes and yields `a`. -/
def Reads (r : Reader α) (bytes : List UInt8) (a : α) : Prop :=
  ∀ rest pos, r ⟨bytes ++ rest, pos⟩ = .ok (a, ⟨rest, pos + bytes.length⟩)

/-- Of these bytes `r` needs the last. -/
def CutShort (r : Reader α) (bytes : List UInt8) : Prop :=
  ∀ p pos, p < bytes.length → ∃ offset ≤ pos + p, r ⟨bytes.take p, pos⟩ = .error (.truncated offset)

theorem reads_pure (a : α) : Reads (pure a) [] a := fun _ _ => rfl

theorem Reads.bind (hr : Reads r bytes a) (hf : Reads (f a) more b) : Reads (r >>= f) (bytes ++ more) b := by
  intro rest pos
  rw [List.append_assoc, bind_ok (hr (more ++ rest) pos), hf rest, List.length_append, Nat.add_assoc]

theorem Reads.map (hr : Reads r bytes a) (g : α → β) : Reads (g <$> r) bytes (g a) := by
  intro rest pos
  rw [map_eq_bind, bind_ok (hr rest pos)]
  rfl

/-- A look-up in front of a reader takes nothing. -/
theorem Reads.look (hr : Reads r [] a) (hf : Reads (f a) more b) : Reads (r >>= f) more b := hr.bind hf

theorem Reads.of_eq (hr : Reads r more a) (h : bytes = more) : Reads r bytes a := h ▸ hr

theorem reads_take (bytes : List UInt8) : Reads (take bytes.length) bytes bytes := by
  intro rest pos
  simp only [take, split?_append]

theorem CutShort.bind (hr : Reads r bytes a) (hc : CutShort r bytes) (hf : CutShort (f a) more) :
    CutShort (r >>= f) (bytes ++ more) := by
  intro p pos hp
  rw [List.length_append] at hp
  by_cases h : p < bytes.length
  · obtain ⟨offset, ho, he⟩ := hc p pos h
    refine ⟨offset, ho, ?_⟩
    rw [List.take_append_of_le_length (Nat.le_of_lt h), bind_error he]
  · -- the first reader has all it needs, so the cut is inside what the second one takes
    obtain ⟨offset, ho, he⟩ := hf (p - bytes.length) (pos + bytes.length) (by omega)
    refine ⟨offset, by omega, ?_⟩
    have ht : (bytes ++ more).take p = bytes ++ more.take (p - bytes.length) := by
      rw [List.take_append, List.take_of_length_le (by omega)]
    rw [ht, bind_ok (hr _ pos), he]

theorem cutShort_take (bytes : List UInt8) : CutShort (take bytes.length) bytes := by
  intro p pos hp
  have hs : split? bytes.length (bytes.take p) = none := split?_eq_none (by rw [List.length_take]; omega)
  exact ⟨pos, by omega, by simp only [take, hs]⟩

/-! ## Steady readers -/

structure Steady (r : Reader α) : Prop where
  /-- What was taken is what the reader takes, whatever follows, and none of it could be missing. -/
  ok : ∀ {c d : Cursor} {a : α}, r c = .ok (a, d) → ∃ bytes, c.rest = bytes ++ d.rest ∧
    d.pos = c.pos + bytes.length ∧ Reads r bytes a ∧ CutShort r bytes
  /-- A complaint about what is there stays when more is there. -/
  error : ∀ {c : Cursor} {e : ClassFormatError}, r c = .error e → e.isTruncated = false →
    ∀ extra, r ⟨c.rest ++ extra, c.pos⟩ = .error e

/-- Readers that take nothing: what they answer is settled before. -/
theorem steady_of_const (x : Except ClassFormatError α) (h : ∀ c, r c = x.map fun a => (a, c)) : Steady r := by
  cases x with
  | ok a =>
    have hr : ∀ c, r c = .ok (a, c) := h
    refine ⟨fun {c d a'} hc => ?_, fun {c e} hc => ?_⟩
    · rw [hr c] at hc
      cases hc
      exact ⟨[], rfl, rfl, fun rest pos => hr _, fun p pos hp => absurd hp (by simp)⟩
    · rw [hr c] at hc
      cases hc
  | error e =>
    have hr : ∀ c, r c = .error e := h
    refine ⟨fun {c d a'} hc => ?_, fun {c e'} hc _ extra => ?_⟩
    · rw [hr c] at hc
      cases hc
    · rw [hr c] at hc
      rw [hr, hc]

theorem steady_pure (a : α) : Steady (pure a : Reader α) := steady_of_const (.ok a) fun _ => rfl

theorem steady_fail (e : ClassFormatError) : Steady (fail e : Reader α) := steady_of_const (.error e) fun _ => rfl

/-- A byte string of its own is there in full or not at all. -/
theorem steady_within (bytes : List UInt8) (r : Reader α) : Steady (within bytes r) := by
  refine steady_of_const ((r ⟨bytes, 0⟩).map (·.1)) fun c => ?_
  simp only [within]
  rcases r ⟨bytes, 0⟩ with e | ⟨a, d⟩ <;> rfl

theorem steady_take (n : Nat) : Steady (take n) := by
  refine ⟨fun {c d bytes} hc => ?_, fun {c e} hc he => ?_⟩
  · simp only [take] at hc
    rcases hs : split? n c.rest with _ | ⟨x, rest⟩
    · rw [hs] at hc
      cases hc
    · rw [hs] at hc
      cases hc
      obtain ⟨hl, rfl⟩ := split?_eq_some hs
      exact ⟨bytes, hl, rfl, reads_take bytes, cutShort_take bytes⟩
  · simp only [take] at hc
    split at hc
    · cases hc
    · cases hc
      cases he

theorem Steady.bind (hr : Steady r) (hf : ∀ a, Steady (f a)) : Steady (r >>= f) := by
  refine ⟨fun {c d b} hc => ?_, fun {c e} hc he extra => ?_⟩
  · rcases hrc : r c with e | ⟨a, m⟩
    · rw [bind_error hrc] at hc
      cases hc
    · rw [bind_ok hrc] at hc
      obtain ⟨bytes, hb, hpos, hreads, hcut⟩ := hr.ok hrc
      obtain ⟨more, hm, hpos', hreads', hcut'⟩ := (hf a).ok hc
      refine ⟨bytes ++ more, by rw [hb, hm, List.append_assoc], ?_, hreads.bind hreads', hcut.bind hreads hcut'⟩
      rw [hpos', hpos, List.length_append, Nat.add_assoc]
  · rcases hrc : r c with e' | ⟨a, m⟩
    · rw [bind_error hrc] at hc
      cases hc
      exact bind_error (hr.error hrc he extra)
    · rw [bind_ok hrc] at hc
      obtain ⟨bytes, hb, hpos, hreads, -⟩ := hr.ok hrc
      have hlong := hreads (m.rest ++ extra) c.pos
      rw [← List.append_assoc, ← hb, ← hpos] at hlong
      rw [bind_ok hlong]
      exact (hf a).error hc he extra

theorem Steady.map (hr : Steady r) (g : α → β) : Steady (g <$> r) := by
  rw [map_eq_bind]
  exact hr.bind fun a => steady_pure (g a)

theorem steady_number (width : Nat) : Steady (number width) := (steady_take width).map bigEndian

theorem Steady.times (hr : Steady r) (n : Nat) : Steady (times n r) := by
  induction n with
  | zero => exact steady_pure []
  | succ n ih => exact hr.bind fun a => ih.bind fun rest => steady_pure (a :: rest)

end Reader

end ClassSkeleton
