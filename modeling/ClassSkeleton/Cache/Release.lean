import ClassSkeleton.Cache.Basic

/-
  ClassSkeleton.Cache.Release — dropping what is heavy.

  Releasing a unit drops the bodies and the model of it and of every unit nested in it, directly or
  further down. The walk visits a unit once, and ends because there are only so many.
-/

namespace ClassSkeleton.Cache

/-- The units not visited yet. -/
def unvisited (count : Nat) (visited : List UnitId) : List UnitId :=
  (List.range count).filter fun id => !visited.contains id

theorem unvisited_lt {count : Nat} {visited : List UnitId} {id : UnitId} (hi : id < count) (hv : id ∉ visited) :
    (unvisited count (id :: visited)).length < (unvisited count visited).length := by
  have hsub : unvisited count (id :: visited) = (unvisited count visited).filter fun j => j != id := by
    simp only [unvisited, List.filter_filter]
    apply List.filter_congr
    intro j _
    by_cases h : j = id <;> simp [h]
  rw [hsub]
  exact List.length_filter_lt_length_iff_exists.2 ⟨id, by simp [unvisited, hi, hv], by simp⟩

/-- Releases the pending units and what is nested in them. -/
def releasePending (pending visited : List UnitId) (units : List ClassUnit) : List ClassUnit :=
  match pending with
  | [] => units
  | id :: rest =>
    if _hv : id ∈ visited then releasePending rest visited units
    else
      match _hu : units[id]? with
      | none => releasePending rest visited units
      | some u => releasePending (u.innerUnits ++ rest) (id :: visited) (units.modify id ClassUnit.release)
termination_by ((unvisited units.length visited).length, pending.length)
decreasing_by
  · exact Prod.Lex.right _ (by simp)
  · exact Prod.Lex.right _ (by simp)
  · have hi := (List.getElem?_eq_some_iff.1 _hu).1
    rw [List.length_modify]
    exact Prod.Lex.left _ _ (unvisited_lt hi ‹_›)

/-- Drops the bodies and the model of a unit and of all units nested in it. -/
def releaseHeavyState (c : Cache) (id : UnitId) : Cache := { c with units := releasePending [id] [] c.units }

end ClassSkeleton.Cache
