import ClassSkeleton.Text.Utf8
import Mathlib.Data.List.Infix

/-
  ClassSkeleton.Proofs.LossyText — what bytes that need not be UTF-8 are shown as.

  `Lossy bytes shown` says it by the encoder of characters alone:
  - the encoding of a character is shown as that character;
  - a byte with which no encoding begins is shown as U+FFFD;
  - of an encoding that breaks off, what is there of it is shown as one U+FFFD, and reading goes
    on with the byte that broke it.

  The decoder looks at the bounds of bytes instead. `Wellformed` lists the sequences of UTF-8 by
  these bounds: `wellformed_encode` and `encode_of_wellformed` say that they are the encodings,
  `decode_wellformed` that the decoder takes each for its character. From them
  - `decode_encode`: the decoder reads every encoding back, whatever comes behind it;
  - `decode_stray` and `decode_broken`: it marks the other two kinds of front once;
  - `lossy_iff`: bytes are shown as `Lossy` says, whatever they are;
  - `lossy_utf8`: what is UTF-8 is shown as the text it was made from.
-/

namespace ClassSkeleton.Text

open String (utf8EncodeChar)

/-! ## Bytes by their numbers -/

theorem isContinuation_iff {b : UInt8} : isContinuation b = true ↔ 0x80 ≤ b.toNat ∧ b.toNat ≤ 0xBF := by
  simp [isContinuation, UInt8.le_iff_toNat_le]

theorem toNat_of_isContinuation {b : UInt8} (h : isContinuation b = true) :
    b.toNat = 0x80 + low6 b ∧ low6 b < 64 := by
  rw [isContinuation_iff] at h
  rw [low6]
  omega

theorem follows_iff {first last low high : UInt8} (differ : first ≠ last) (hlow : 0x80 ≤ low.toNat)
    (hhigh : high.toNat ≤ 0xBF) (a b : UInt8) :
    (if a = first then decide (low ≤ b) && decide (b ≤ 0xBF)
      else if a = last then decide (0x80 ≤ b) && decide (b ≤ high)
      else isContinuation b) = true ↔
      isContinuation b = true ∧ (a.toNat = first.toNat → low.toNat ≤ b.toNat) ∧
        (a.toNat = last.toNat → b.toNat ≤ high.toNat) := by
  simp only [UInt8.toNat_inj, isContinuation_iff]
  by_cases hfirst : a = first
  · have hlast : a ≠ last := fun h => differ (hfirst.symm.trans h)
    simp only [hfirst, if_true, Bool.and_eq_true, decide_eq_true_eq, UInt8.le_iff_toNat_le, differ, false_implies,
      true_implies, and_true]
    have hbyte : UInt8.toNat 0xBF = 0xBF := rfl
    omega
  by_cases hlast : a = last
  · simp only [hlast, hlast ▸ hfirst, if_false, if_true, Bool.and_eq_true, decide_eq_true_eq, UInt8.le_iff_toNat_le,
      false_implies, true_implies, true_and]
    have hbyte : UInt8.toNat 0x80 = 0x80 := rfl
    omega
  simp [hfirst, hlast, isContinuation_iff]

theorem followsThree_iff {a b : UInt8} :
    followsThree a b = true ↔
      isContinuation b = true ∧ (a.toNat = 0xE0 → 0xA0 ≤ b.toNat) ∧ (a.toNat = 0xED → b.toNat ≤ 0x9F) :=
  follows_iff (by decide) (by decide) (by decide) a b

theorem followsFour_iff {a b : UInt8} :
    followsFour a b = true ↔
      isContinuation b = true ∧ (a.toNat = 0xF0 → 0x90 ≤ b.toNat) ∧ (a.toNat = 0xF4 → b.toNat ≤ 0x8F) :=
  follows_iff (by decide) (by decide) (by decide) a b

theorem ofNat_eq {n : Nat} {b : UInt8} (h : n = b.toNat) : UInt8.ofNat n = b := by
  rw [h, UInt8.ofNat_toNat]

theorem toNat_continuation (n : Nat) : (UInt8.ofNat (n % 64 + 128)).toNat = n % 64 + 128 :=
  UInt8.toNat_ofNat_of_lt' (show n % 64 + 128 < 256 by omega)

theorem isContinuation_ofNat (n : Nat) : isContinuation (UInt8.ofNat (n % 64 + 128)) = true := by
  rw [isContinuation_iff, toNat_continuation]
  omega

/-! ## The sequences of UTF-8 -/

/-- The sequences of one to four bytes, each with the number of its character. -/
inductive Wellformed : List UInt8 → Nat → Prop
  | one {a : UInt8} (ha : a.toNat < 0x80) : Wellformed [a] a.toNat
  | two {a b : UInt8} (ha : 0xC2 ≤ a.toNat ∧ a.toNat ≤ 0xDF) (hb : isContinuation b = true) :
    Wellformed [a, b] (a.toNat % 32 * 64 + low6 b)
  | three {a b c : UInt8} (ha : 0xE0 ≤ a.toNat ∧ a.toNat ≤ 0xEF) (hb : followsThree a b = true)
    (hc : isContinuation c = true) : Wellformed [a, b, c] ((a.toNat % 16 * 64 + low6 b) * 64 + low6 c)
  | four {a b c d : UInt8} (ha : 0xF0 ≤ a.toNat ∧ a.toNat ≤ 0xF4) (hb : followsFour a b = true)
    (hc : isContinuation c = true) (hd : isContinuation d = true) :
    Wellformed [a, b, c, d] (((a.toNat % 8 * 64 + low6 b) * 64 + low6 c) * 64 + low6 d)

theorem isValidChar_of_wellformed {bytes : List UInt8} {n : Nat} (h : Wellformed bytes n) : n.isValidChar := by
  rw [Nat.isValidChar]
  cases h with
  | one ha => omega
  | two ha hb =>
    have := toNat_of_isContinuation hb
    omega
  | three ha hb hc =>
    -- the bounds of the second byte leave the surrogates out
    obtain ⟨hb, hlow, hhigh⟩ := followsThree_iff.mp hb
    have := toNat_of_isContinuation hb
    have := toNat_of_isContinuation hc
    omega
  | four ha hb hc hd =>
    obtain ⟨hb, hlow, hhigh⟩ := followsFour_iff.mp hb
    have := toNat_of_isContinuation hb
    have := toNat_of_isContinuation hc
    have := toNat_of_isContinuation hd
    omega

theorem encode_of_wellformed {bytes : List UInt8} {n : Nat} (h : Wellformed bytes n) :
    utf8EncodeChar (Char.ofNat n) = bytes := by
  have hn : (Char.ofNat n).val.toNat = n := by
    rw [Char.ofNat, dif_pos (isValidChar_of_wellformed h)]
    rfl
  simp only [utf8EncodeChar, hn]
  cases h with
  | one ha => rw [if_pos (by omega), UInt8.ofNat_toNat]
  | two ha hb =>
    have := toNat_of_isContinuation hb
    rw [if_neg (by omega), if_pos (by omega)]
    simp only [List.cons.injEq, and_true]
    exact ⟨ofNat_eq (by omega), ofNat_eq (by omega)⟩
  | three ha hb hc =>
    obtain ⟨hb, hlow, hhigh⟩ := followsThree_iff.mp hb
    have := toNat_of_isContinuation hb
    have := toNat_of_isContinuation hc
    rw [if_neg (by omega), if_neg (by omega), if_pos (by omega)]
    simp only [List.cons.injEq, and_true]
    exact ⟨ofNat_eq (by omega), ofNat_eq (by omega), ofNat_eq (by omega)⟩
  | four ha hb hc hd =>
    obtain ⟨hb, hlow, hhigh⟩ := followsFour_iff.mp hb
    have := toNat_of_isContinuation hb
    have := toNat_of_isContinuation hc
    have := toNat_of_isContinuation hd
    rw [if_neg (by omega), if_neg (by omega), if_neg (by omega)]
    simp only [List.cons.injEq, and_true]
    exact ⟨ofNat_eq (by omega), ofNat_eq (by omega), ofNat_eq (by omega), ofNat_eq (by omega)⟩

theorem wellformed_encode (c : Char) : Wellformed (utf8EncodeChar c) c.toNat := by
  have hv : c.val.toNat.isValidChar := c.valid
  rw [Nat.isValidChar] at hv
  rw [Char.toNat, utf8EncodeChar]
  generalize c.val.toNat = v at hv
  -- the last bytes carry six bits each, the first one what is above them
  have last := toNat_continuation v
  have middle := toNat_continuation (v / 64)
  have upper := toNat_continuation (v / 4096)
  split
  · have ha := UInt8.toNat_ofNat_of_lt' (show v < 256 by omega)
    convert Wellformed.one (a := UInt8.ofNat v) (by omega)
    exact ha.symm
  split
  · have ha := UInt8.toNat_ofNat_of_lt' (show v / 64 % 32 + 192 < 256 by omega)
    convert Wellformed.two (by rw [ha]; omega) (isContinuation_ofNat v) using 1
    rw [ha, low6, last]
    omega
  split
  · have ha := UInt8.toNat_ofNat_of_lt' (show v / 4096 % 16 + 224 < 256 by omega)
    have hb : followsThree (UInt8.ofNat (v / 4096 % 16 + 224)) (UInt8.ofNat (v / 64 % 64 + 128)) = true := by
      rw [followsThree_iff, ha, middle]
      exact ⟨isContinuation_ofNat _, by omega, by omega⟩
    convert Wellformed.three (by rw [ha]; omega) hb (isContinuation_ofNat v) using 1
    rw [ha, low6, low6, middle, last]
    omega
  · have ha := UInt8.toNat_ofNat_of_lt' (show v / 262144 % 8 + 240 < 256 by omega)
    have hb : followsFour (UInt8.ofNat (v / 262144 % 8 + 240)) (UInt8.ofNat (v / 4096 % 64 + 128)) = true := by
      rw [followsFour_iff, ha, upper]
      exact ⟨isContinuation_ofNat _, by omega, by omega⟩
    convert Wellformed.four (by rw [ha]; omega) hb (isContinuation_ofNat (v / 64)) (isContinuation_ofNat v) using 1
    rw [ha, low6, low6, low6, upper, middle, last]
    omega

/-! ## The decoder, by the first byte -/

/-- How the decoder goes on inside of a sequence: with `next` when there is a byte that fits, and else it marks the
bytes before as broken off. -/
def expect (fits : UInt8 → Bool) (next : UInt8 → List UInt8 → List (Option Char)) :
    List UInt8 → List (Option Char)
  | [] => [none]
  | b :: rest => if fits b then next b rest else none :: decode (b :: rest)

theorem expect_fits {fits : UInt8 → Bool} {next : UInt8 → List UInt8 → List (Option Char)} {b : UInt8}
    (h : fits b = true) (rest : List UInt8) : expect fits next (b :: rest) = next b rest := by
  rw [expect, if_pos h]

theorem expect_breaks {fits : UInt8 → Bool} {next : UInt8 → List UInt8 → List (Option Char)} {rest : List UInt8}
    (h : ∀ b ∈ rest.head?, fits b = false) : expect fits next rest = none :: decode rest := by
  cases rest with
  | nil => rfl
  | cons b rest => rw [expect, h b rfl, if_neg Bool.false_ne_true]

theorem decode_cons (a : UInt8) (rest : List UInt8) :
    decode (a :: rest) =
      if a.toNat < 0x80 then some (Char.ofNat a.toNat) :: decode rest
      else if 0xC2 ≤ a.toNat ∧ a.toNat ≤ 0xDF then
        expect isContinuation (fun b rest => some (Char.ofNat (a.toNat % 32 * 64 + low6 b)) :: decode rest) rest
      else if 0xE0 ≤ a.toNat ∧ a.toNat ≤ 0xEF then
        expect (followsThree a) (fun b => expect isContinuation fun c rest =>
          some (Char.ofNat ((a.toNat % 16 * 64 + low6 b) * 64 + low6 c)) :: decode rest) rest
      else if 0xF0 ≤ a.toNat ∧ a.toNat ≤ 0xF4 then
        expect (followsFour a) (fun b => expect isContinuation fun c => expect isContinuation fun d rest =>
          some (Char.ofNat (((a.toNat % 8 * 64 + low6 b) * 64 + low6 c) * 64 + low6 d)) :: decode rest) rest
      else none :: decode rest := by
  rw [decode.eq_def]
  simp only [UInt8.lt_iff_toNat_lt, UInt8.le_iff_toNat_le, Bool.and_eq_true, decide_eq_true_eq]
  rfl

theorem decode_one {a : UInt8} (ha : a.toNat < 0x80) (rest : List UInt8) :
    decode (a :: rest) = some (Char.ofNat a.toNat) :: decode rest := by
  rw [decode_cons, if_pos ha]

theorem decode_two {a : UInt8} (ha : 0xC2 ≤ a.toNat ∧ a.toNat ≤ 0xDF) (rest : List UInt8) :
    decode (a :: rest) =
      expect isContinuation (fun b rest => some (Char.ofNat (a.toNat % 32 * 64 + low6 b)) :: decode rest) rest := by
  rw [decode_cons, if_neg (by omega), if_pos ha]

theorem decode_three {a : UInt8} (ha : 0xE0 ≤ a.toNat ∧ a.toNat ≤ 0xEF) (rest : List UInt8) :
    decode (a :: rest) =
      expect (followsThree a) (fun b => expect isContinuation fun c rest =>
        some (Char.ofNat ((a.toNat % 16 * 64 + low6 b) * 64 + low6 c)) :: decode rest) rest := by
  rw [decode_cons, if_neg (by omega), if_neg (by omega), if_pos ha]

theorem decode_four {a : UInt8} (ha : 0xF0 ≤ a.toNat ∧ a.toNat ≤ 0xF4) (rest : List UInt8) :
    decode (a :: rest) =
      expect (followsFour a) (fun b => expect isContinuation fun c => expect isContinuation fun d rest =>
        some (Char.ofNat (((a.toNat % 8 * 64 + low6 b) * 64 + low6 c) * 64 + low6 d)) :: decode rest) rest := by
  rw [decode_cons, if_neg (by omega), if_neg (by omega), if_neg (by omega), if_pos ha]

theorem decode_wellformed {bytes : List UInt8} {n : Nat} (h : Wellformed bytes n) (rest : List UInt8) :
    decode (bytes ++ rest) = some (Char.ofNat n) :: decode rest := by
  cases h with
  | one ha => exact decode_one ha rest
  | two ha hb => simp only [List.cons_append, List.nil_append, decode_two ha, expect_fits hb]
  | three ha hb hc => simp only [List.cons_append, List.nil_append, decode_three ha, expect_fits hb, expect_fits hc]
  | four ha hb hc hd =>
    simp only [List.cons_append, List.nil_append, decode_four ha, expect_fits hb, expect_fits hc, expect_fits hd]

theorem decode_encode (c : Char) (rest : List UInt8) : decode (utf8EncodeChar c ++ rest) = some c :: decode rest := by
  rw [decode_wellformed (wellformed_encode c), Char.ofNat_toNat]

/-! ## Fronts that are no encoding -/

/-- Some character's encoding begins with `front`. -/
def Begins (front : List UInt8) : Prop := ∃ c, front <+: utf8EncodeChar c

theorem Begins.of_append (front more : List UInt8) (h : Begins (front ++ more)) : Begins front := by
  obtain ⟨c, h⟩ := h
  exact ⟨c, (List.prefix_append front more).trans h⟩

theorem Wellformed.begins {bytes : List UInt8} {n : Nat} (h : Wellformed bytes n) : Begins bytes :=
  ⟨Char.ofNat n, by rw [encode_of_wellformed h]⟩

/-- The fronts of encodings that are none themselves, and which bytes may come next. -/
inductive Unfinished : List UInt8 → (UInt8 → Bool) → Prop
  | oneOfTwo {a : UInt8} (ha : 0xC2 ≤ a.toNat ∧ a.toNat ≤ 0xDF) : Unfinished [a] isContinuation
  | oneOfThree {a : UInt8} (ha : 0xE0 ≤ a.toNat ∧ a.toNat ≤ 0xEF) : Unfinished [a] (followsThree a)
  | twoOfThree {a b : UInt8} (ha : 0xE0 ≤ a.toNat ∧ a.toNat ≤ 0xEF) (hb : followsThree a b = true) :
    Unfinished [a, b] isContinuation
  | oneOfFour {a : UInt8} (ha : 0xF0 ≤ a.toNat ∧ a.toNat ≤ 0xF4) : Unfinished [a] (followsFour a)
  | twoOfFour {a b : UInt8} (ha : 0xF0 ≤ a.toNat ∧ a.toNat ≤ 0xF4) (hb : followsFour a b = true) :
    Unfinished [a, b] isContinuation
  | threeOfFour {a b c : UInt8} (ha : 0xF0 ≤ a.toNat ∧ a.toNat ≤ 0xF4) (hb : followsFour a b = true)
    (hc : isContinuation c = true) : Unfinished [a, b, c] isContinuation

theorem unfinished_of_begins {front : List UInt8} (nonempty : front ≠ []) (begins : Begins front)
    (cut : ∀ c, utf8EncodeChar c ≠ front) : ∃ fits, Unfinished front fits := by
  obtain ⟨c, tail, h⟩ := begins
  have more : tail ≠ [] := by
    intro done
    rw [done, List.append_nil] at h
    exact cut c h.symm
  have whole := wellformed_encode c
  rw [← h] at whole
  generalize c.toNat = n at whole
  -- the front is one, two or three bytes, and the encoding longer
  obtain ⟨a, front, rfl⟩ := List.exists_cons_of_ne_nil nonempty
  obtain ⟨z, tail, rfl⟩ := List.exists_cons_of_ne_nil more
  match front with
  | [] =>
    cases whole with
    | two ha hb => exact ⟨_, .oneOfTwo ha⟩
    | three ha hb hc => exact ⟨_, .oneOfThree ha⟩
    | four ha hb hc hd => exact ⟨_, .oneOfFour ha⟩
  | [b] =>
    cases whole with
    | three ha hb hc => exact ⟨_, .twoOfThree ha hb⟩
    | four ha hb hc hd => exact ⟨_, .twoOfFour ha hb⟩
  | [b, c] =>
    cases whole with
    | four ha hb hc hd => exact ⟨_, .threeOfFour ha hb hc⟩
  | b :: c :: d :: front => cases front <;> nomatch whole

theorem Unfinished.begins {front : List UInt8} {fits : UInt8 → Bool} {b : UInt8} (h : Unfinished front fits)
    (hb : fits b = true) : Begins (front ++ [b]) := by
  -- what is missing behind `b` is filled up
  have fill : isContinuation 0x80 = true := by decide
  cases h with
  | oneOfTwo ha => exact (Wellformed.two ha hb).begins
  | oneOfThree ha => exact .of_append [_, b] [0x80] (Wellformed.three ha hb fill).begins
  | twoOfThree ha hb' => exact (Wellformed.three ha hb' hb).begins
  | oneOfFour ha => exact .of_append [_, b] [0x80, 0x80] (Wellformed.four ha hb fill fill).begins
  | twoOfFour ha hb' => exact .of_append [_, _, b] [0x80] (Wellformed.four ha hb' hb fill).begins
  | threeOfFour ha hb' hc => exact (Wellformed.four ha hb' hc hb).begins

theorem decode_unfinished {front rest : List UInt8} {fits : UInt8 → Bool} (h : Unfinished front fits)
    (stops : ∀ b ∈ rest.head?, fits b = false) : decode (front ++ rest) = none :: decode rest := by
  cases h with
  | oneOfTwo ha => rw [List.singleton_append, decode_two ha, expect_breaks stops]
  | oneOfThree ha => rw [List.singleton_append, decode_three ha, expect_breaks stops]
  | twoOfThree ha hb =>
    simp only [List.cons_append, List.nil_append, decode_three ha, expect_fits hb, expect_breaks stops]
  | oneOfFour ha => rw [List.singleton_append, decode_four ha, expect_breaks stops]
  | twoOfFour ha hb =>
    simp only [List.cons_append, List.nil_append, decode_four ha, expect_fits hb, expect_breaks stops]
  | threeOfFour ha hb hc =>
    simp only [List.cons_append, List.nil_append, decode_four ha, expect_fits hb, expect_fits hc, expect_breaks stops]

theorem decode_broken {front rest : List UInt8} (nonempty : front ≠ []) (begins : Begins front)
    (cut : ∀ c, utf8EncodeChar c ≠ front) (stops : ∀ b ∈ rest.head?, ¬ Begins (front ++ [b])) :
    decode (front ++ rest) = none :: decode rest := by
  obtain ⟨fits, h⟩ := unfinished_of_begins nonempty begins cut
  apply decode_unfinished h
  intro b hb
  by_contra hfits
  exact stops b hb (h.begins (by simpa using hfits))

theorem Unfinished.exists_fits {front : List UInt8} {fits : UInt8 → Bool} (h : Unfinished front fits) :
    ∃ b, fits b = true := by
  have fill : isContinuation 0x80 = true := by decide
  cases h with
  | oneOfTwo => exact ⟨0x80, fill⟩
  | @oneOfThree a ha =>
    by_cases h : a.toNat = 0xE0
    · exact ⟨0xA0, followsThree_iff.mpr ⟨by decide, fun _ => by decide, by omega⟩⟩
    · exact ⟨0x80, followsThree_iff.mpr ⟨fill, by omega, fun _ => by decide⟩⟩
  | twoOfThree => exact ⟨0x80, fill⟩
  | @oneOfFour a ha =>
    by_cases h : a.toNat = 0xF0
    · exact ⟨0x90, followsFour_iff.mpr ⟨by decide, fun _ => by decide, by omega⟩⟩
    · exact ⟨0x80, followsFour_iff.mpr ⟨fill, by omega, fun _ => by decide⟩⟩
  | twoOfFour => exact ⟨0x80, fill⟩
  | threeOfFour => exact ⟨0x80, fill⟩

theorem Unfinished.begins_front {front : List UInt8} {fits : UInt8 → Bool} (h : Unfinished front fits) :
    Begins front := by
  obtain ⟨b, hb⟩ := h.exists_fits
  exact .of_append front [b] (h.begins hb)

theorem decode_stray {b : UInt8} (h : ¬ Begins [b]) (rest : List UInt8) :
    decode (b :: rest) = none :: decode rest := by
  have one : ¬ b.toNat < 0x80 := fun hb => h (Wellformed.one hb).begins
  have two : ¬ (0xC2 ≤ b.toNat ∧ b.toNat ≤ 0xDF) := fun hb => h (Unfinished.oneOfTwo hb).begins_front
  have three : ¬ (0xE0 ≤ b.toNat ∧ b.toNat ≤ 0xEF) := fun hb => h (Unfinished.oneOfThree hb).begins_front
  have four : ¬ (0xF0 ≤ b.toNat ∧ b.toNat ≤ 0xF4) := fun hb => h (Unfinished.oneOfFour hb).begins_front
  rw [decode_cons, if_neg one, if_neg two, if_neg three, if_neg four]

/-! ## What is shown -/

/-- What bytes are shown as. -/
inductive Lossy : List UInt8 → List Char → Prop
  | nil : Lossy [] []
  | char (c : Char) {rest : List UInt8} {shown : List Char} :
    Lossy rest shown → Lossy (utf8EncodeChar c ++ rest) (c :: shown)
  | stray {b : UInt8} {rest : List UInt8} {shown : List Char} :
    ¬ Begins [b] → Lossy rest shown → Lossy (b :: rest) ('\uFFFD' :: shown)
  | broken {front rest : List UInt8} {shown : List Char} :
    front ≠ [] → Begins front → (∀ c, utf8EncodeChar c ≠ front) →
    (∀ b ∈ rest.head?, ¬ Begins (front ++ [b])) → Lossy rest shown → Lossy (front ++ rest) ('\uFFFD' :: shown)

theorem Lossy.lossyChars_eq {bytes : List UInt8} {shown : List Char} (h : Lossy bytes shown) :
    lossyChars bytes = shown := by
  unfold lossyChars
  induction h with
  | nil => rfl
  | char c rest ih => rw [decode_encode, List.map_cons, ih, Option.getD_some]
  | stray hb rest ih => rw [decode_stray hb, List.map_cons, ih, Option.getD_none]
  | broken nonempty begins cut stops rest ih =>
    rw [decode_broken nonempty begins cut stops, List.map_cons, ih, Option.getD_none]

theorem exists_longest_begins {front : List UInt8} (h : Begins front) (rest : List UInt8) :
    ∃ more last, rest = more ++ last ∧ Begins (front ++ more) ∧
      ∀ b ∈ last.head?, ¬ Begins (front ++ more ++ [b]) := by
  induction rest generalizing front with
  | nil => exact ⟨[], [], rfl, by simpa using h, by simp⟩
  | cons b rest ih =>
    by_cases hb : Begins (front ++ [b])
    · obtain ⟨more, last, rfl, hmore, hlast⟩ := ih hb
      exact ⟨b :: more, last, rfl, by simpa using hmore, by simpa using hlast⟩
    · exact ⟨[], b :: rest, rfl, by simpa using h, by simpa using hb⟩

theorem exists_lossy (bytes : List UInt8) : ∃ shown, Lossy bytes shown := by
  induction h : bytes.length using Nat.strongRecOn generalizing bytes with
  | _ n ih =>
    subst h
    cases bytes with
    | nil => exact ⟨[], .nil⟩
    | cons b rest =>
      by_cases hb : Begins [b]
      · obtain ⟨more, last, rfl, begins, stops⟩ := exists_longest_begins hb rest
        have shorter : last.length < (b :: (more ++ last)).length := by
          rw [List.length_cons, List.length_append]
          omega
        obtain ⟨shown, hshown⟩ := ih last.length shorter last rfl
        -- the longest front of an encoding is one, or it is broken off
        by_cases hc : ∃ c, utf8EncodeChar c = [b] ++ more
        · obtain ⟨c, hc⟩ := hc
          have hchar := Lossy.char c hshown
          rw [hc] at hchar
          exact ⟨c :: shown, hchar⟩
        · have cut : ∀ c, utf8EncodeChar c ≠ [b] ++ more := by simpa using hc
          exact ⟨_, .broken (List.cons_ne_nil b more) begins cut stops hshown⟩
      · obtain ⟨shown, hshown⟩ := ih rest.length (Nat.lt_succ_self _) rest rfl
        exact ⟨_, .stray hb hshown⟩

theorem lossyChars_iff {bytes : List UInt8} {shown : List Char} : lossyChars bytes = shown ↔ Lossy bytes shown := by
  constructor
  · intro h
    obtain ⟨other, hother⟩ := exists_lossy bytes
    rwa [← h, hother.lossyChars_eq]
  · exact Lossy.lossyChars_eq

theorem lossy_iff {bytes : List UInt8} {text : String} : lossy bytes = text ↔ Lossy bytes text.toList := by
  rw [lossy, ← String.toList_inj, String.toList_ofList, lossyChars_iff]

theorem lossy_utf8 (text : String) : lossy (utf8 text) = text := by
  have h : lossyChars (text.toList.flatMap utf8EncodeChar) = text.toList := by
    unfold lossyChars
    induction text.toList with
    | nil => rfl
    | cons c text ih => rw [List.flatMap_cons, decode_encode, List.map_cons, ih, Option.getD_some]
  rw [lossy, utf8, h, String.ofList_toList]

end ClassSkeleton.Text
