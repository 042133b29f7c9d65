/-
  ClassSkeleton.Text.Utf8 — text as bytes.

  `decode` reads bytes as UTF-8 and marks every maximal ill-formed front (one byte, or the
  valid beginning of a longer sequence) by one `none`. `lossy` shows such a mark as U+FFFD
  and `strict?` refuses it. `lossyModified` is for class files, which write U+0000 as the
  pair C0 80.
-/

namespace ClassSkeleton.Text

def utf8 (s : String) : List UInt8 := s.toList.flatMap String.utf8EncodeChar

def isContinuation (b : UInt8) : Bool := 0x80 ≤ b && b ≤ 0xBF

/-- The bytes that may follow `a`, which starts a sequence of three. -/
def followsThree (a b : UInt8) : Bool :=
  if a = 0xE0 then 0xA0 ≤ b && b ≤ 0xBF
  else if a = 0xED then 0x80 ≤ b && b ≤ 0x9F
  else isContinuation b

/-- The bytes that may follow `a`, which starts a sequence of four. -/
def followsFour (a b : UInt8) : Bool :=
  if a = 0xF0 then 0x90 ≤ b && b ≤ 0xBF
  else if a = 0xF4 then 0x80 ≤ b && b ≤ 0x8F
  else isContinuation b

def low6 (b : UInt8) : Nat := b.toNat % 64

def decode : List UInt8 → List (Option Char)
  | [] => []
  | a :: r1 =>
    if a < 0x80 then some (Char.ofNat a.toNat) :: decode r1
    else if 0xC2 ≤ a && a ≤ 0xDF then
      match r1 with
      | [] => [none]
      | b :: r2 =>
        if isContinuation b then some (Char.ofNat (a.toNat % 32 * 64 + low6 b)) :: decode r2 else none :: decode (b :: r2)
    else if 0xE0 ≤ a && a ≤ 0xEF then
      match r1 with
      | [] => [none]
      | b :: r2 =>
        if followsThree a b then
          match r2 with
          | [] => [none]
          | c :: r3 =>
            if isContinuation c then
              some (Char.ofNat ((a.toNat % 16 * 64 + low6 b) * 64 + low6 c)) :: decode r3
            else none :: decode (c :: r3)
        else none :: decode (b :: r2)
    else if 0xF0 ≤ a && a ≤ 0xF4 then
      match r1 with
      | [] => [none]
      | b :: r2 =>
        if followsFour a b then
          match r2 with
          | [] => [none]
          | c :: r3 =>
            if isContinuation c then
              match r3 with
              | [] => [none]
              | d :: r4 =>
                if isContinuation d then
                  some (Char.ofNat (((a.toNat % 8 * 64 + low6 b) * 64 + low6 c) * 64 + low6 d)) :: decode r4
                else none :: decode (d :: r4)
            else none :: decode (c :: r3)
        else none :: decode (b :: r2)
    else none :: decode r1

def lossyChars (bytes : List UInt8) : List Char := (decode bytes).map (·.getD '\uFFFD')

def lossy (bytes : List UInt8) : String := String.ofList (lossyChars bytes)

def strict? (bytes : List UInt8) : Option String := ((decode bytes).mapM id).map String.ofList

/-- Every C0 80, from the left, made a zero byte. -/
def plainNul : List UInt8 → List UInt8
  | [] => []
  | [b] => [b]
  | a :: b :: rest => if a = 0xC0 ∧ b = 0x80 then 0 :: plainNul rest else a :: plainNul (b :: rest)

def hasNulPair : List UInt8 → Bool
  | a :: b :: rest => (a == 0xC0 && b == 0x80) || hasNulPair (b :: rest)
  | _ => false

/-- Text of a class file. Without the pair C0 80 the bytes are read as they are. -/
def lossyModified (bytes : List UInt8) : String :=
  if hasNulPair bytes then lossy (plainNul bytes) else lossy bytes

end ClassSkeleton.Text
