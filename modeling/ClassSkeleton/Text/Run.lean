/-
  ClassSkeleton.Text.Run — maps of code points as runs.

  A run `(first, last, step, delta)` maps each of `first`, `first + step`, …, `last` to
  itself plus `delta`.
-/

namespace ClassSkeleton.Text

abbrev Run := Nat × Nat × Nat × Int

/-- Whether the run maps `n`. -/
def Run.covers : Run → Nat → Bool
  | (first, last, step, _), n => first ≤ n && n ≤ last && (n - first) % step == 0

/-- The image of `n` under the first run that covers it; `n` itself if none does. -/
def mapRuns (runs : List Run) (n : Nat) : Nat :=
  match runs.find? fun r => r.covers n with
  | some r => (n + r.2.2.2).toNat
  | none => n

end ClassSkeleton.Text
