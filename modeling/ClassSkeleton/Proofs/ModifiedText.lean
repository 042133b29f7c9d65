import ClassSkeleton.Proofs.LossyText

/-
  ClassSkeleton.Proofs.ModifiedText — the text of class files.

  Class files write U+0000 as the pair C0 80 and every other character as UTF-8 does
  (`modifiedUtf8`). The reader puts a zero byte for every such pair and reads what it then has as
  UTF-8.

  Which bytes those are is said without it by `NulsPlain`: cut the bytes at the pairs and put the
  pieces together with zero bytes. Two pairs do not overlap and a zero byte makes no new one, so
  there is one way to do it, the reader's (`nulsPlain_iff`).

  In text that was written so there are no other pairs than those of U+0000: no encoding of a
  character has the byte C0 (`nulLead_not_mem_encode`). So it is read back, and any bytes are
  read as `NulsPlain` and then `Lossy` say (`modified_text_read_back`), whether they have a pair
  and are gone through or have none and are left as they are (`lossyModified_eq`).
-/

namespace ClassSkeleton.Text

open String (utf8EncodeChar)

/-- How class files write U+0000. -/
def nulPair : List UInt8 := [0xC0, 0x80]

def encodeModified (c : Char) : List UInt8 := if c = '\x00' then nulPair else utf8EncodeChar c

/-- Text as class files have it, if there is no character past U+FFFF in it. -/
def modifiedUtf8 (text : String) : List UInt8 := text.toList.flatMap encodeModified

/-- `plain` is `bytes` with a zero byte for every pair C0 80. -/
def NulsPlain (bytes plain : List UInt8) : Prop :=
  ∃ pieces : List (List UInt8), (∀ piece ∈ pieces, ¬ nulPair <:+: piece) ∧
    bytes = nulPair.intercalate pieces ∧ plain = [0].intercalate pieces

/-! ## The pairs -/

@[simp] theorem nulPair_ne_nil : nulPair ≠ [] := List.cons_ne_nil _ _

theorem nulPair_infix_cons {a : UInt8} {bytes : List UInt8} :
    nulPair <:+: a :: bytes ↔ (a = 0xC0 ∧ bytes.head? = some 0x80) ∨ nulPair <:+: bytes := by
  rw [List.infix_cons_iff]
  cases bytes with
  | nil => simp [nulPair]
  | cons b bytes => simp [nulPair, List.cons_prefix_cons, eq_comm]

theorem hasNulPair_iff {bytes : List UInt8} : hasNulPair bytes = true ↔ nulPair <:+: bytes := by
  induction bytes with
  | nil => simp [hasNulPair, nulPair]
  | cons a bytes ih =>
    rw [nulPair_infix_cons, ← ih]
    cases bytes with
    | nil => simp [hasNulPair]
    | cons b bytes => simp [hasNulPair]

theorem plainNul_cons {a : UInt8} {bytes : List UInt8} (h : ¬ (a = 0xC0 ∧ bytes.head? = some 0x80)) :
    plainNul (a :: bytes) = a :: plainNul bytes := by
  cases bytes with
  | nil => rfl
  | cons b bytes =>
    rw [plainNul, if_neg]
    simpa using h

theorem plainNul_pair (rest : List UInt8) : plainNul (nulPair ++ rest) = 0 :: plainNul rest := rfl

theorem plainNul_append {front rest : List UInt8} (h : ¬ nulPair <:+: front) (hrest : rest.head? ≠ some 0x80) :
    plainNul (front ++ rest) = front ++ plainNul rest := by
  induction front with
  | nil => rfl
  | cons a front ih =>
    rw [nulPair_infix_cons, not_or] at h
    rw [List.cons_append, List.cons_append, plainNul_cons, ih h.2]
    cases front with
    | nil => exact fun hpair => hrest hpair.2
    | cons b front => exact h.1

theorem plainNul_of_not_infix {bytes : List UInt8} (h : ¬ nulPair <:+: bytes) : plainNul bytes = bytes := by
  have happend : plainNul (bytes ++ []) = bytes ++ plainNul [] := plainNul_append h (by simp)
  simpa [plainNul] using happend

theorem plainNul_intercalate {pieces : List (List UInt8)} (h : ∀ piece ∈ pieces, ¬ nulPair <:+: piece) :
    plainNul (nulPair.intercalate pieces) = [0].intercalate pieces := by
  induction pieces with
  | nil => rfl
  | cons piece pieces ih =>
    have hpiece := h piece (by simp)
    have hpieces := ih (fun p hp => h p (by simp [hp]))
    cases pieces with
    | nil => simpa using plainNul_of_not_infix hpiece
    | cons next pieces =>
      rw [List.intercalate_cons_cons, List.intercalate_cons_cons, List.append_assoc, List.append_assoc]
      rw [plainNul_append hpiece (by simp [nulPair]), plainNul_pair, hpieces]
      rfl

theorem intercalate_cons_head (a : UInt8) (piece : List UInt8) (pieces : List (List UInt8)) :
    nulPair.intercalate ((a :: piece) :: pieces) = a :: nulPair.intercalate (piece :: pieces) := by
  cases pieces with
  | nil => simp
  | cons next pieces => simp

theorem exists_pieces (bytes : List UInt8) :
    ∃ piece pieces, (∀ p ∈ piece :: pieces, ¬ nulPair <:+: p) ∧ bytes = nulPair.intercalate (piece :: pieces) := by
  induction bytes using plainNul.induct with
  | case1 => exact ⟨[], [], by simp, rfl⟩
  | case2 b => exact ⟨[b], [], by simp [nulPair_infix_cons], by simp⟩
  | case3 a b rest h ih =>
    obtain ⟨piece, pieces, free, rfl⟩ := ih
    refine ⟨[], piece :: pieces, ?_, ?_⟩
    · simpa using free
    · rw [List.intercalate_cons_cons, h.1, h.2]
      rfl
  | case4 a b rest h ih =>
    obtain ⟨piece, pieces, free, hrest⟩ := ih
    have first : ¬ nulPair <:+: a :: piece := by
      rw [nulPair_infix_cons, not_or]
      refine ⟨?_, free piece (by simp)⟩
      rintro ⟨ha, hpiece⟩
      -- the piece ahead begins with the byte that comes next
      cases piece with
      | nil => simp at hpiece
      | cons c piece =>
        rw [intercalate_cons_head, List.cons.injEq] at hrest
        exact h ⟨ha, hrest.1.trans (by simpa using hpiece)⟩
    refine ⟨a :: piece, pieces, ?_, by rw [intercalate_cons_head, hrest]⟩
    rw [List.forall_mem_cons] at free ⊢
    exact ⟨first, free.2⟩

theorem nulsPlain_iff {bytes plain : List UInt8} : NulsPlain bytes plain ↔ plainNul bytes = plain := by
  constructor
  · rintro ⟨pieces, free, rfl, rfl⟩
    exact plainNul_intercalate free
  · rintro rfl
    obtain ⟨piece, pieces, free, rfl⟩ := exists_pieces bytes
    exact ⟨piece :: pieces, free, rfl, plainNul_intercalate free⟩

theorem lossyModified_eq (bytes : List UInt8) : lossyModified bytes = lossy (plainNul bytes) := by
  by_cases h : nulPair <:+: bytes
  · rw [lossyModified, if_pos (hasNulPair_iff.mpr h)]
  · rw [lossyModified, if_neg (fun hpair => h (hasNulPair_iff.mp hpair)), plainNul_of_not_infix h]

/-! ## What was written -/

theorem nulLead_not_mem_encode (c : Char) : 0xC0 ∉ utf8EncodeChar c := by
  have h := wellformed_encode c
  generalize utf8EncodeChar c = bytes at h
  generalize c.toNat = n at h
  suffices differ : ∀ b ∈ bytes, b.toNat ≠ 0xC0 from fun hmem => differ _ hmem rfl
  cases h with
  | one ha =>
    rw [List.forall_mem_singleton]
    omega
  | two ha hb =>
    rw [isContinuation_iff] at hb
    rw [List.forall_mem_cons, List.forall_mem_singleton]
    omega
  | three ha hb hc =>
    rw [followsThree_iff, isContinuation_iff] at hb
    rw [isContinuation_iff] at hc
    rw [List.forall_mem_cons, List.forall_mem_cons, List.forall_mem_singleton]
    omega
  | four ha hb hc hd =>
    rw [followsFour_iff, isContinuation_iff] at hb
    rw [isContinuation_iff] at hc hd
    rw [List.forall_mem_cons, List.forall_mem_cons, List.forall_mem_cons, List.forall_mem_singleton]
    omega

theorem plainNul_append_of_not_mem {front : List UInt8} (h : 0xC0 ∉ front) (rest : List UInt8) :
    plainNul (front ++ rest) = front ++ plainNul rest := by
  induction front with
  | nil => rfl
  | cons a front ih =>
    rw [List.mem_cons, not_or] at h
    rw [List.cons_append, List.cons_append, plainNul_cons (fun hpair => h.1 hpair.1.symm), ih h.2]

theorem plainNul_encodeModified (c : Char) (rest : List UInt8) :
    plainNul (encodeModified c ++ rest) = utf8EncodeChar c ++ plainNul rest := by
  by_cases h : c = '\x00'
  · rw [encodeModified, if_pos h, plainNul_pair, h]
    rfl
  · rw [encodeModified, if_neg h, plainNul_append_of_not_mem (nulLead_not_mem_encode c)]

theorem plainNul_modifiedUtf8 (text : String) : plainNul (modifiedUtf8 text) = utf8 text := by
  unfold modifiedUtf8 utf8
  induction text.toList with
  | nil => rfl
  | cons c text ih => rw [List.flatMap_cons, List.flatMap_cons, plainNul_encodeModified, ih]

/-- What class files write of a text is read back as that text. Of any bytes the reader first makes every pair that
stands for U+0000 the one byte, which can be done in one way only, and reads what comes of it as UTF-8, with what is
none replaced; and that reading is the only one there is. -/
theorem modified_text_read_back :
    (∀ text : String, lossyModified (modifiedUtf8 text) = text) ∧
    (∀ bytes, ∃ plain, (∀ other, NulsPlain bytes other ↔ other = plain) ∧ lossyModified bytes = lossy plain) ∧
    ∀ bytes text, lossy bytes = text ↔ Lossy bytes text.toList := by
  refine ⟨?_, ?_, fun bytes text => lossy_iff⟩
  · intro text
    rw [lossyModified_eq, plainNul_modifiedUtf8, lossy_utf8]
  · intro bytes
    refine ⟨plainNul bytes, ?_, lossyModified_eq bytes⟩
    intro other
    rw [nulsPlain_iff, eq_comm]

/-- A character past U+FFFF, which class files write as two surrogates, is not read back. -/
example : lossyModified [0xED, 0xA0, 0xBD, 0xED, 0xB8, 0x80] = "\uFFFD\uFFFD\uFFFD\uFFFD\uFFFD\uFFFD" := by
  decide

end ClassSkeleton.Text
