import ClassSkeleton.Proofs.FiniteWalks
import ClassSkeleton.Proofs.NestLoading

/-
  ClassSkeleton.Proofs.NestRelease — releasing a unit releases its nest and nothing else.

  The walk that releases a nest keeps the units that wait for it and those visited. A `ReleaseTurn` takes the first that
  waits: a unit that was visited is passed over, any other is released, and the units nested in it wait in front.

  Along the walk (`Releasing`) what waits and what was visited is in the nest, every unit nested in a visited one was
  visited or waits, and the visited units are released while the others are as they were. Releasing a unit leaves its
  nested units alone, so the nest is the same all the time. When nothing waits any more, the visited units are the nest.

  - `release_exact`: in the cache of every session and for every unit of it, whatever circles the nests make.
  - `release_exact_of_circle`: two classes nested in each other.
-/

namespace ClassSkeleton

open Relation

/-- `v` is `u` released: without model and bodies, in the last state, and otherwise as it was. -/
structure ClassUnit.Releases (u v : ClassUnit) : Prop where
  state : v.state = .released
  model : v.model = none
  bodies : ∀ m ∈ v.classFile.methods, m.code = none
  declarations : v.classFile.methods.map (fun m => (m.access, m.name, m.descriptor)) =
    u.classFile.methods.map fun m => (m.access, m.name, m.descriptor)
  rest : v = { u with
    classFile := { u.classFile with methods := v.classFile.methods }, model := v.model, state := v.state }

theorem ClassUnit.release_releases (u : ClassUnit) : u.Releases u.release := by
  refine ⟨rfl, rfl, fun m hm => ?_, ?_, rfl⟩
  · obtain ⟨m, -, rfl⟩ := List.mem_map.1 hm
    rfl
  · simp [ClassUnit.release, ClassFile.releaseCode]

namespace Cache

variable {c : Cache} {id j : UnitId} {pending visited : List UnitId} {units : List ClassUnit}

/-! ## The turns of the walk -/

/-- One turn of the walk, from the units that wait, those visited and all units as they are. Only a unit that is there
can be released. -/
inductive ReleaseTurn :
    List UnitId × List UnitId × List ClassUnit → List UnitId × List UnitId × List ClassUnit → Prop where
  | passed {id : UnitId} {rest visited : List UnitId} {units : List ClassUnit} (hv : id ∈ visited) :
      ReleaseTurn (id :: rest, visited, units) (rest, visited, units)
  | released {id : UnitId} {rest visited : List UnitId} {units : List ClassUnit} {u : ClassUnit} (hv : id ∉ visited)
      (hu : units[id]? = some u) :
      ReleaseTurn (id :: rest, visited, units) (u.innerUnits ++ rest, id :: visited, units.modify id ClassUnit.release)

theorem releaseTurn_unique : Relator.RightUnique ReleaseTurn := by
  intro here next next' h h'
  cases h with
  | passed hv =>
    cases h' with
    | passed => rfl
    | released hv' => exact absurd hv hv'
  | released hv hu =>
    cases h' with
    | passed hv' => exact absurd hv' hv
    | released _ hu' =>
      cases hu.symm.trans hu'
      rfl

/-- What holds along the walk that releases the nest of a unit of `c`. -/
structure Releasing (c : Cache) (id : UnitId) (pending visited : List UnitId) (units : List ClassUnit) : Prop where
  waiting : ∀ j ∈ pending, c.InNest id j
  inNest : ∀ j ∈ visited, c.InNest id j
  start : id ∈ visited ∨ id ∈ pending
  closed : ∀ j ∈ visited, ∀ k, c.Nested j k → k ∈ visited ∨ k ∈ pending
  unit : ∀ j : Nat, units[j]? = (c.unit? j).map fun u => if j ∈ visited then u.release else u

namespace Releasing

theorem first (c : Cache) (id : UnitId) : Releasing c id [id] [] c.units := by
  refine ⟨fun j hj => ?_, by simp, by simp, by simp, fun j => ?_⟩
  · rw [List.mem_singleton.1 hj]
    exact .refl
  · simp [unit?]

/-- A unit that was not visited is as it was. -/
theorem unvisited (h : Releasing c id pending visited units) {u : ClassUnit} (hv : j ∉ visited)
    (hu : units[j]? = some u) : c.unit? j = some u := by
  rw [h.unit] at hu
  simpa [hv] using hu

theorem pass {k : UnitId} {rest : List UnitId} (h : Releasing c id (k :: rest) visited units) (hv : k ∈ visited) :
    Releasing c id rest visited units := by
  refine ⟨fun j hj => h.waiting j (List.mem_cons_of_mem _ hj), h.inNest, ?_, fun j hj i hn => ?_, h.unit⟩
  · rcases h.start with hs | hs
    · exact .inl hs
    · rcases List.mem_cons.1 hs with rfl | hs
      · exact .inl hv
      · exact .inr hs
  · rcases h.closed j hj i hn with hi | hi
    · exact .inl hi
    · rcases List.mem_cons.1 hi with rfl | hi
      · exact .inl hv
      · exact .inr hi

theorem release {k : UnitId} {rest : List UnitId} {u : ClassUnit} (h : Releasing c id (k :: rest) visited units)
    (hv : k ∉ visited) (hu : units[k]? = some u) :
    Releasing c id (u.innerUnits ++ rest) (k :: visited) (units.modify k ClassUnit.release) := by
  have hk : c.InNest id k := h.waiting k List.mem_cons_self
  have hold : c.unit? k = some u := h.unvisited hv hu
  refine ⟨fun j hj => ?_, fun j hj => ?_, ?_, fun j hj i hn => ?_, fun j => ?_⟩
  · rcases List.mem_append.1 hj with hj | hj
    · exact hk.tail ⟨u, hold, hj⟩
    · exact h.waiting j (List.mem_cons_of_mem _ hj)
  · rcases List.mem_cons.1 hj with rfl | hj
    · exact hk
    · exact h.inNest j hj
  · rcases h.start with hs | hs
    · exact .inl (List.mem_cons_of_mem _ hs)
    · rcases List.mem_cons.1 hs with rfl | hs
      · exact .inl List.mem_cons_self
      · exact .inr (List.mem_append_right _ hs)
  · rcases List.mem_cons.1 hj with rfl | hj
    · obtain ⟨v, hw, hi⟩ := hn
      cases hold.symm.trans hw
      exact .inr (List.mem_append_left _ hi)
    · rcases h.closed j hj i hn with hi | hi
      · exact .inl (List.mem_cons_of_mem _ hi)
      · rcases List.mem_cons.1 hi with rfl | hi
        · exact .inl List.mem_cons_self
        · exact .inr (List.mem_append_right _ hi)
  · rw [List.getElem?_modify, h.unit]
    by_cases hj : k = j
    · subst hj
      simp [hv, hold]
    · have hne : j ≠ k := Ne.symm hj
      simp [hj, hne]

/-- When nothing waits, the units visited are those of the nest. -/
theorem mem_visited (h : Releasing c id [] visited units) : j ∈ visited ↔ c.InNest id j := by
  refine ⟨h.inNest j, fun hj => ?_⟩
  induction hj with
  | refl => simpa using h.start
  | tail _ hn ih => simpa using h.closed _ ih _ hn

end Releasing

/-- In a sound cache the nest of a unit has units that are there. -/
theorem Sound.inNest (hs : c.Sound) (hid : id < c.units.length) (h : c.InNest id j) : j < c.units.length := by
  induction h with
  | refl => exact hid
  | tail _ hn _ =>
    obtain ⟨u, hu, hj⟩ := hn
    exact hs.nested _ u hu _ hj

/-- Turn after turn the walk comes to where nothing waits, with the units that are worked out. It never meets a unit
that is not there. -/
theorem releasePending_turns (hs : c.Sound) (hid : id < c.units.length) (h : Releasing c id pending visited units) :
    ∃ all, ReflTransGen ReleaseTurn (pending, visited, units) ([], all, releasePending pending visited units) ∧
      Releasing c id [] all (releasePending pending visited units) := by
  fun_induction releasePending pending visited units with
  | case1 visited units => exact ⟨visited, .refl, h⟩
  | case2 visited units k rest hv ih =>
    obtain ⟨all, hwalk, hend⟩ := ih (h.pass hv)
    exact ⟨all, hwalk.head (.passed hv), hend⟩
  | case3 visited units k rest hv hu ih =>
    obtain ⟨u, hold⟩ := unit?_of_lt (hs.inNest hid (h.waiting k List.mem_cons_self))
    rw [h.unit, hold] at hu
    cases hu
  | case4 visited units k rest hv u hu ih =>
    obtain ⟨all, hwalk, hend⟩ := ih (h.release hv hu)
    exact ⟨all, hwalk.head (.released hv hu), hend⟩

/-! ## What is released -/

/-- What releasing a unit makes of the cache `c`. -/
structure NestReleased (c : Cache) (id : UnitId) (d : Cache) : Prop where
  /-- Every unit of the nest is there, and is released. -/
  released : ∀ j, c.InNest id j → ∃ u v, c.unit? j = some u ∧ d.unit? j = some v ∧ u.Releases v
  others : ∀ j, ¬ c.InNest id j → d.unit? j = c.unit? j
  index : d.index = c.index
  roots : d.roots = c.roots

theorem nestReleased_releaseHeavyState (hs : c.Sound) (hid : id < c.units.length) :
    (∃ all, Ends ReleaseTurn ([id], [], c.units) ([], all, (c.releaseHeavyState id).units)) ∧
      NestReleased c id (c.releaseHeavyState id) := by
  obtain ⟨all, hwalk, hend⟩ := releasePending_turns hs hid (.first c id)
  have hunits (j : UnitId) : (c.releaseHeavyState id).unit? j =
      (c.unit? j).map fun u => if j ∈ all then u.release else u := hend.unit j
  refine ⟨⟨all, .of_reaches releaseTurn_unique hwalk fun next ht => by cases ht⟩, fun j hj => ?_, fun j hj => ?_, rfl, rfl⟩
  · obtain ⟨u, hu⟩ := unit?_of_lt (hs.inNest hid hj)
    refine ⟨u, u.release, hu, ?_, u.release_releases⟩
    rw [hunits, hu, Option.map_some, if_pos (hend.mem_visited.2 hj)]
  · rw [hunits]
    simp [mt hend.mem_visited.1 hj]

end Cache

namespace Session

open Cache

/-- In the cache of every session and for every unit of it: the walk that releases the unit ends with the cache that is
worked out, never looking for a unit that is not there. All units of the nest are released then: they have no model and
no bodies and are otherwise as they were. Other units, the cached types and the roots are as they were. -/
theorem release_exact {files : FileTree} {options : Options} {first s : Session}
    (hstart : Session.start files options = .ok first) (hreach : first.Reaches FileTree.Any s) {id : UnitId}
    (hid : id < s.cache.units.length) :
    (∃ all, Ends ReleaseTurn ([id], [], s.cache.units) ([], all, (s.cache.releaseHeavyState id).units)) ∧
      NestReleased s.cache id (s.cache.releaseHeavyState id) :=
  nestReleased_releaseHeavyState ((start_isGood hstart).reaches hreach).sound hid

end Session

/-! ## Two classes nested in each other -/

namespace Twins

/-- The session once the nest of `A` was loaded. -/
def linked : Session := { session with cache := session.cache.perform files (.loadInnerClasses 0) }

theorem linked_units : linked.cache.units.map (fun u => (u.type, u.innerUnits)) = [(⟨"A"⟩, [1]), (⟨"B"⟩, [0])] := by
  have hwalk : (session.cache.loadPendingWithin files 4 [0]).map (fun c => c.units.map fun u => (u.type, u.innerUnits)) =
      some [(⟨"A"⟩, [1]), (⟨"B"⟩, [0])] := by decide +kernel
  obtain ⟨c, hc, hunits⟩ := Option.map_eq_some_iff.1 hwalk
  rw [show linked.cache = c from Cache.loadPending_of_within hc, hunits]

theorem linked_nested {i j : UnitId} {t : TypeName}
    (h : (linked.cache.units.map fun u => (u.type, u.innerUnits))[i]? = some (t, [j])) : linked.cache.Nested i j := by
  rw [List.getElem?_map] at h
  obtain ⟨u, hu, he⟩ := Option.map_eq_some_iff.1 h
  have hinner : u.innerUnits = [j] := congrArg Prod.snd he
  exact ⟨u, hu, by simp [hinner]⟩

end Twins

namespace Session

open Cache

/-- Both classes are released, each being nested in the other. -/
theorem release_exact_of_circle :
    Session.start Twins.files Twins.options = .ok Twins.first ∧ Twins.first.Reaches FileTree.Any Twins.linked ∧
    0 < Twins.linked.cache.units.length ∧ Twins.linked.cache.Nested 0 1 ∧ Twins.linked.cache.Nested 1 0 ∧
    ∃ u v, Twins.linked.cache.unit? 1 = some u ∧ (Twins.linked.cache.releaseHeavyState 0).unit? 1 = some v ∧
      u.Releases v := by
  have hstart : Session.start Twins.files Twins.options = .ok Twins.first := rfl
  have hreach : Twins.first.Reaches FileTree.Any Twins.linked :=
    (Step.cache Twins.files.any (.resolveByIdentity ⟨"A"⟩)).reaches.trans
      (Step.cache Twins.files.any (.loadInnerClasses 0)).reaches
  have hlength : 0 < Twins.linked.cache.units.length := by
    have := congrArg List.length Twins.linked_units
    simp at this
    omega
  have hab : Twins.linked.cache.Nested 0 1 := Twins.linked_nested (by rw [Twins.linked_units]; rfl)
  have hba : Twins.linked.cache.Nested 1 0 := Twins.linked_nested (by rw [Twins.linked_units]; rfl)
  exact ⟨hstart, hreach, hlength, hab, hba, (release_exact hstart hreach hlength).2.released 1 (.single hab)⟩

end Session

end ClassSkeleton
