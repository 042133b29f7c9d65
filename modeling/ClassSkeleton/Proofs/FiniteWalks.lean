import Mathlib.Logic.Relation

/-
  ClassSkeleton.Proofs.FiniteWalks — loops as walks that end.

  The turns of a loop are the steps of a walk through its states. A walk `Ends` when it cannot go on for ever and,
  wherever it has come to, goes on to one state, in which there is no turn left. Where a state has at most one next
  state it is enough to come to a state without a next one (`Ends.of_reaches`).
-/

namespace ClassSkeleton

open Relation

variable {α : Type} {step : α → α → Prop} {first last : α}

/-- Whoever starts at `first` takes finitely many steps and comes to `last`, where no step is left. -/
structure Ends (step : α → α → Prop) (first last : α) : Prop where
  finite : Acc (fun next here => step here next) first
  onward : ∀ here, ReflTransGen step first here → ReflTransGen step here last
  final : ∀ next, ¬ step last next

/-- When there is only one way to go, one walk that ends is all of them. -/
theorem Ends.of_reaches (hone : Relator.RightUnique step) (hreach : ReflTransGen step first last)
    (hfinal : ∀ next, ¬ step last next) : Ends step first last := by
  refine ⟨?_, ?_, hfinal⟩
  · induction hreach using ReflTransGen.head_induction_on with
    | refl => exact .intro last fun next h => absurd h (hfinal next)
    | head hstep _ ih =>
      refine .intro _ fun next h => ?_
      rw [hone h hstep]
      exact ih
  · intro here hhere
    rcases ReflTransGen.total_of_right_unique hone hhere hreach with h | h
    · exact h
    · rcases h.cases_head with rfl | ⟨next, hnext, -⟩
      · exact .refl
      · exact absurd hnext (hfinal next)

end ClassSkeleton
