import ClassSkeleton.FileTree
import ClassSkeleton.Usage

/-
  ClassSkeleton.Output.Outlet — where the text of a run goes.

  An outlet hands out a sink per class and one summary per archive, and its state decides what fails:
  a sink may be refused, any print on it may fail, and so may closing it; a summary may be refused, and
  takes notices in silence. Sinks are numbered in the order they are handed out. Acquiring a sink can
  leave notices for the summary. Everything an outlet does can read and change the files.

  A sink is opened with the usage and the identifier policy of its class. A listing is worked out from
  these two before it is printed, so there are no operations here that ask a sink for them: an outlet
  whose sinks answer with another usage or policy than they were opened with is left out.
-/

namespace ClassSkeleton

/-- What an outlet works on: the files, and a state of its own. -/
structure Surroundings (σ : Type) where
  files : FileTree
  state : σ

abbrev OutletM (σ : Type) := StateM (Surroundings σ)

structure Outlet (σ : Type) where
  /-- Opens the sink with the given number; the texts are notices for the summary. -/
  acquire : Nat → TypeName → Usage → IdentifierPolicy → OutletM σ (List String × Except SinkError Unit)
  print : Nat → String → OutletM σ (Except IoError Unit)
  close : Nat → OutletM σ (Except IoError Unit)
  openSummary : OutletM σ (Except SinkError Unit)
  notify : String → OutletM σ Unit
  closeSummary : OutletM σ Unit

end ClassSkeleton
