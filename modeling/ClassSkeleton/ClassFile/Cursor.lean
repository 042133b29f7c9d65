import ClassSkeleton.Error

/-
  ClassSkeleton.ClassFile.Cursor — reading big-endian fields.

  A cursor is the bytes not yet read and the number of those read. A reader takes fields off
  the front; a field that does not fit is reported with the position where it starts, and
  nothing of it is read.
-/

namespace ClassSkeleton

/-- The first `n` elements and the rest, if there are that many. -/
def split? {α : Type} : Nat → List α → Option (List α × List α)
  | 0, l => some ([], l)
  | _ + 1, [] => none
  | n + 1, a :: l => (split? n l).map fun (x, rest) => (a :: x, rest)

theorem split?_eq_some {α : Type} {n : Nat} {l x rest : List α} (h : split? n l = some (x, rest)) :
    l = x ++ rest ∧ x.length = n := by
  induction n generalizing l x rest with
  | zero => simp only [split?, Option.some.injEq, Prod.mk.injEq] at h; simp [← h.1, ← h.2]
  | succ n ih =>
    cases l with
    | nil => simp [split?] at h
    | cons a l =>
      simp only [split?, Option.map_eq_some_iff, Prod.exists, Prod.mk.injEq] at h
      obtain ⟨y, r, h', rfl, rfl⟩ := h
      obtain ⟨hl, hn⟩ := ih h'
      simp [hl, hn]

theorem split?_append {α : Type} (x rest : List α) : split? x.length (x ++ rest) = some (x, rest) := by
  induction x with
  | nil => simp [split?]
  | cons a x ih => simp [split?, ih]

structure Cursor where
  rest : List UInt8
  pos : Nat
  deriving DecidableEq, Repr

abbrev Reader := StateT Cursor (Except ClassFormatError)

namespace Reader

def take (n : Nat) : Reader (List UInt8) := fun c =>
  match split? n c.rest with
  | some (bytes, rest) => .ok (bytes, ⟨rest, c.pos + n⟩)
  | none => .error (.truncated c.pos)

/-- The number a byte string writes, most significant byte first. -/
def bigEndian (bytes : List UInt8) : Nat := bytes.foldl (fun n b => n * 256 + b.toNat) 0

def number (width : Nat) : Reader Nat := bigEndian <$> take width

def u1 : Reader Nat := number 1

def u2 : Reader Nat := number 2

def u4 : Reader Nat := number 4

def fail {α : Type} (e : ClassFormatError) : Reader α := fun _ => .error e

/-- Reads `n` items in a row. -/
def times {α : Type} (n : Nat) (r : Reader α) : Reader (List α) :=
  match n with
  | 0 => pure []
  | n + 1 => do
    let a ← r
    let rest ← times n r
    pure (a :: rest)

/-- Reads a byte string of its own; positions count from its start and bytes left over do not matter. -/
def within {α : Type} (bytes : List UInt8) (r : Reader α) : Reader α := fun c =>
  match r ⟨bytes, 0⟩ with
  | .ok (a, _) => .ok (a, c)
  | .error e => .error e

end Reader

end ClassSkeleton
