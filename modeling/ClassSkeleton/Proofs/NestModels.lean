import Mathlib.Data.Finset.Card
import Mathlib.Logic.Relation
import ClassSkeleton.Proofs.CacheInvariant

/-
  ClassSkeleton.Proofs.NestModels — what a model is built from.

  A model `Shows` a unit when it was built from the class file of the unit, which is not released, around
  models that show the nested units. What `Stops` the analysis of a unit is the first fault on the way: the
  unit itself is released, or a nested unit is stopped after those before it were shown, or the declarations
  of the unit are malformed once all nested units are shown.

  Analysis yields no model but one that shows the unit (`buildModel_ok`). In a sound cache, for a unit with no
  circle in its nest, what it yields otherwise is the fault that stops it (`buildModel_verdict`): the depth it
  follows nests to is never reached, for a unit has fewer units below it than the one around it. So it is a
  circle that makes an analysis endless (`buildModel_endless`).
-/

namespace ClassSkeleton

open Relation

/-- The first declaration stands that many levels inside the second. -/
inductive ClassModel.Within : Nat → ClassModel → ClassModel → Prop where
  | self (m : ClassModel) : Within 0 m m
  | inner {depth : Nat} {k m' m : ClassModel} (hm : m' ∈ m.inner) (h : Within depth k m') : Within (depth + 1) k m

theorem ClassModel.Within.deeper {depth : Nat} {k' k m : ClassModel} (h : Within depth k m) (hk : k' ∈ k.inner) :
    Within (depth + 1) k' m := by
  induction h with
  | self m => exact .inner hk (.self k')
  | inner hm _ ih => exact .inner hm (ih hk)

theorem ClassModel.build_inner {c : ClassFile} {naming : Naming} {inner : List ClassModel} {m : ClassModel}
    (h : ClassModel.build c naming inner = .ok m) : m.inner = inner := by
  simp only [build, bind, Except.bind] at h
  split at h
  · cases h
  split at h
  · cases h
  cases h
  rfl

namespace Cache

/-- The second unit is nested directly in the first. -/
def Nested (c : Cache) (i j : UnitId) : Prop := ∃ u, c.unit? i = some u ∧ j ∈ u.innerUnits

/-- The second unit is the first or nested in it, at any depth. -/
def InNest (c : Cache) : UnitId → UnitId → Prop := ReflTransGen c.Nested

/-- No unit is nested in itself, at any depth. -/
def NestsAcyclic (c : Cache) : Prop := ∀ i, ¬ TransGen c.Nested i i

/-- No unit of the nest is nested in itself, at any depth. -/
def NestEnds (c : Cache) (i : UnitId) : Prop := ∀ j, c.InNest i j → ¬ TransGen c.Nested j j

theorem NestsAcyclic.nestEnds {c : Cache} (h : c.NestsAcyclic) (i : UnitId) : c.NestEnds i := fun j _ => h j

theorem NestEnds.nested {c : Cache} {i j : UnitId} (h : c.NestEnds i) (hn : c.Nested i j) : c.NestEnds j :=
  fun k hk => h k (.head hn hk)

open Classical in
/-- How many units are nested in a unit, at any depth. -/
noncomputable def countBelow (c : Cache) (i : UnitId) : Nat :=
  ((Finset.range c.units.length).filter fun j => TransGen c.Nested i j).card

theorem countBelow_lt_length {c : Cache} {i : UnitId} (ha : c.NestEnds i) (hi : i < c.units.length) :
    c.countBelow i < c.units.length := by
  classical
  have hsub : (Finset.range c.units.length).filter (fun j => TransGen c.Nested i j) ⊂ Finset.range c.units.length := by
    rw [Finset.filter_ssubset]
    exact ⟨i, Finset.mem_range.2 hi, ha i .refl⟩
  have hcard := Finset.card_lt_card hsub
  rw [Finset.card_range] at hcard
  unfold countBelow
  convert hcard

theorem countBelow_nested {c : Cache} {i j : UnitId} (ha : c.NestEnds i) (h : c.Nested i j)
    (hj : j < c.units.length) : c.countBelow j < c.countBelow i := by
  classical
  unfold countBelow
  refine Finset.card_lt_card (Finset.ssubset_iff_of_subset ?_ |>.2 ⟨j, ?_, ?_⟩)
  · intro k hk
    obtain ⟨hk, hjk⟩ := Finset.mem_filter.1 hk
    exact Finset.mem_filter.2 ⟨hk, .head h hjk⟩
  · exact Finset.mem_filter.2 ⟨Finset.mem_range.2 hj, .single h⟩
  · exact fun hm => ha j (.single h) (Finset.mem_filter.1 hm).2

end Cache

namespace Session

variable {s : Session}

/-! ## Units that are shown -/

mutual

/-- The model was built from the unit's class file, not released, around models that show its nested units. -/
inductive Shows (s : Session) : UnitId → ClassModel → Prop where
  | unit {id : UnitId} {u : ClassUnit} {inner : List ClassModel} {m : ClassModel} (hu : s.cache.unit? id = some u)
      (hr : u.isReleased = false) (hi : ShowsAll s u.innerUnits inner)
      (hb : ClassModel.build u.classFile s.naming inner = .ok m) : Shows s id m

/-- One model for each unit. -/
inductive ShowsAll (s : Session) : List UnitId → List ClassModel → Prop where
  | nil : ShowsAll s [] []
  | cons {id : UnitId} {m : ClassModel} {ids : List UnitId} {models : List ClassModel} (h : Shows s id m)
      (hs : ShowsAll s ids models) : ShowsAll s (id :: ids) (m :: models)

end

/-- What stops the analysis of a unit: the first fault, the unit's state before its nested units and these, in
order, before its declarations. -/
inductive Stops (s : Session) : UnitId → AnalysisError → Prop where
  | released {id : UnitId} {u : ClassUnit} (hu : s.cache.unit? id = some u) (hr : u.isReleased = true) :
      Stops s id .released
  | nested {id j : UnitId} {u : ClassUnit} {front back : List UnitId} {shown : List ClassModel} {e : AnalysisError}
      (hu : s.cache.unit? id = some u) (hr : u.isReleased = false) (hi : u.innerUnits = front ++ j :: back)
      (hf : ShowsAll s front shown) (h : Stops s j e) : Stops s id e
  | declaration {id : UnitId} {u : ClassUnit} {inner : List ClassModel} {e : DescriptorError}
      (hu : s.cache.unit? id = some u) (hr : u.isReleased = false) (hi : ShowsAll s u.innerUnits inner)
      (hb : ClassModel.build u.classFile s.naming inner = .error e) : Stops s id (.descriptor e)

theorem ShowsAll.of_mem {ids : List UnitId} {models : List ClassModel} (h : s.ShowsAll ids models) {j : UnitId}
    (hj : j ∈ ids) : ∃ m ∈ models, s.Shows j m := by
  induction ids generalizing models with
  | nil => cases hj
  | cons id ids ih =>
    cases h with
    | cons hm hs =>
      rcases List.mem_cons.1 hj with rfl | hj
      · exact ⟨_, List.mem_cons_self, hm⟩
      · obtain ⟨m, hmem, hshow⟩ := ih hs hj
        exact ⟨m, List.mem_cons_of_mem _ hmem, hshow⟩

theorem ShowsAll.of_model {ids : List UnitId} {models : List ClassModel} (h : s.ShowsAll ids models) {m : ClassModel}
    (hm : m ∈ models) : ∃ j ∈ ids, s.Shows j m := by
  induction models generalizing ids with
  | nil => cases hm
  | cons m' models ih =>
    cases h with
    | cons hm' hs =>
      rcases List.mem_cons.1 hm with rfl | hm
      · exact ⟨_, List.mem_cons_self, hm'⟩
      · obtain ⟨j, hj, hshow⟩ := ih hs hm
        exact ⟨j, List.mem_cons_of_mem _ hj, hshow⟩

theorem Shows.unreleased {id : UnitId} {m : ClassModel} (h : s.Shows id m) :
    ∃ u, s.cache.unit? id = some u ∧ u.isReleased = false := by
  cases h with
  | unit hu hr hi hb => exact ⟨_, hu, hr⟩

/-- A unit that is shown has its whole nest shown, inside its own model; so none of the nest is released. -/
theorem Shows.nest {id j : UnitId} {m : ClassModel} (h : s.Shows id m) (hj : s.cache.InNest id j) :
    ∃ depth k, k.Within depth m ∧ s.Shows j k := by
  induction hj with
  | refl => exact ⟨0, m, .self m, h⟩
  | tail _ hn ih =>
    obtain ⟨depth, k, hw, hk⟩ := ih
    obtain ⟨v, hv, hmem⟩ := hn
    cases hk with
    | unit hu hr hi hb =>
      rw [hv] at hu
      cases hu
      obtain ⟨k', hk', hshow⟩ := hi.of_mem hmem
      exact ⟨depth + 1, k', hw.deeper (by rw [ClassModel.build_inner hb]; exact hk'), hshow⟩

/-- Every declaration inside a model shows a unit of the nest. -/
theorem Shows.within {id : UnitId} {depth : Nat} {k m : ClassModel} (h : s.Shows id m) (hw : k.Within depth m) :
    ∃ j, s.cache.InNest id j ∧ s.Shows j k := by
  induction hw generalizing id with
  | self m => exact ⟨id, .refl, h⟩
  | inner hm _ ih =>
    cases h with
    | unit hu hr hi hb =>
      rw [ClassModel.build_inner hb] at hm
      obtain ⟨i, hmem, hshow⟩ := hi.of_model hm
      obtain ⟨j, hj, hk⟩ := ih hshow
      exact ⟨j, .head ⟨_, hu, hmem⟩ hj, hk⟩

/-- What stops a unit is a released unit of its nest, or malformed declarations of one that is not released. -/
theorem Stops.cause {id : UnitId} {e : AnalysisError} (h : s.Stops id e) :
    ∃ j u, s.cache.InNest id j ∧ s.cache.unit? j = some u ∧
      ((e = .released ∧ u.isReleased = true) ∨ ∃ inner d, e = .descriptor d ∧ u.isReleased = false ∧
        ClassModel.build u.classFile s.naming inner = .error d) := by
  induction h with
  | released hu hr => exact ⟨_, _, .refl, hu, .inl ⟨rfl, hr⟩⟩
  | nested hu hr hi hf h ih =>
    obtain ⟨j, v, hj, hv, hc⟩ := ih
    exact ⟨j, v, .head ⟨_, hu, by simp [hi]⟩ hj, hv, hc⟩
  | declaration hu hr hi hb => exact ⟨_, _, .refl, hu, .inr ⟨_, _, rfl, hr, hb⟩⟩

/-! ## Analysis -/

/-- Models of all units come one by one. -/
theorem showsAll_of_mapM {f : UnitId → Except Unbuilt ClassModel} (hf : ∀ id m, f id = .ok m → s.Shows id m)
    {ids : List UnitId} {models : List ClassModel} (h : ids.mapM f = .ok models) : s.ShowsAll ids models := by
  induction ids generalizing models with
  | nil =>
    cases h
    exact .nil
  | cons id ids ih =>
    rw [List.mapM_cons] at h
    cases hid : f id with
    | error e => rw [hid] at h; cases h
    | ok m =>
      cases hids : ids.mapM f with
      | error e => rw [hid, hids] at h; cases h
      | ok rest =>
        rw [hid, hids] at h
        cases h
        exact .cons (hf id m hid) (ih hids)

/-- No model comes out of the analysis but one that shows the unit. -/
theorem buildModel_ok {depth : Nat} {id : UnitId} {m : ClassModel} (h : s.buildModel depth id = .ok m) :
    s.Shows id m := by
  induction depth generalizing id m with
  | zero => cases h
  | succ depth ih =>
    simp only [buildModel, modelAround] at h
    split at h
    · cases h
    next u hu =>
    split at h
    · cases h
    next hr =>
    split at h
    · cases h
    next inner hi =>
    split at h
    · next m' hb =>
      cases h
      exact .unit hu (by simpa using hr) (showsAll_of_mapM (fun _ _ => ih) hi) hb
    · cases h

/-- Without circles the analysis ends with a model, or with what stops it. -/
theorem buildModel_verdict (hs : s.cache.Sound) {depth : Nat} {id : UnitId} (ha : s.cache.NestEnds id)
    (hi : id < s.cache.units.length) (hd : s.cache.countBelow id < depth) :
    (∃ m, s.buildModel depth id = .ok m) ∨ ∃ e, s.buildModel depth id = .error (.failed e) ∧ s.Stops id e := by
  induction depth generalizing id with
  | zero => omega
  | succ depth ih =>
    obtain ⟨u, hu⟩ := Cache.unit?_of_lt hi
    simp only [buildModel, modelAround, hu]
    cases hr : u.isReleased with
    | true => exact .inr ⟨.released, rfl, .released hu hr⟩
    | false =>
      rcases mapM_cases (s.buildModel depth) u.innerUnits with
        ⟨inner, hin⟩ | ⟨front, j, back, shown, e, hsplit, hfront, hj, he⟩
      · have hall := showsAll_of_mapM (fun _ _ => buildModel_ok) hin
        simp only [hin, Bool.false_eq_true, if_false]
        cases hb : ClassModel.build u.classFile s.naming inner with
        | ok m => exact .inl ⟨m, rfl⟩
        | error e => exact .inr ⟨.descriptor e, rfl, .declaration hu hr hall hb⟩
      · have hmem : j ∈ u.innerUnits := by simp [hsplit]
        have hbelow := Cache.countBelow_nested ha ⟨u, hu, hmem⟩ (hs.nested id u hu j hmem)
        simp only [he, Bool.false_eq_true, if_false]
        rcases ih (ha.nested ⟨u, hu, hmem⟩) (hs.nested id u hu j hmem) (by omega) with ⟨m, hm⟩ | ⟨e', he', hstop⟩
        · rw [hj] at hm
          cases hm
        · rw [hj] at he'
          cases he'
          exact .inr ⟨e', rfl, .nested hu hr hsplit (showsAll_of_mapM (fun _ _ => buildModel_ok) hfront) hstop⟩

theorem buildModel_absent {id : UnitId} (h : s.cache.unit? id = none) (depth : Nat) :
    s.buildModel (depth + 1) id = .error (.failed .notAnalysed) := by
  simp only [buildModel, modelAround, h]

/-- Without circles the depth is not reached, whatever the units are. -/
theorem buildModel_ends {depth : Nat} {id : UnitId} (ha : s.cache.NestEnds id) (hd : s.cache.countBelow id + 1 < depth) :
    s.buildModel depth id ≠ .error .endless := by
  induction depth generalizing id with
  | zero => omega
  | succ depth ih =>
    cases hu : s.cache.unit? id with
    | none => rw [buildModel_absent hu]; simp
    | some u =>
      simp only [buildModel, modelAround, hu]
      split
      · simp
      rcases mapM_cases (s.buildModel depth) u.innerUnits with ⟨inner, hin⟩ | ⟨front, j, back, -, e, hsplit, -, hj, he⟩
      · simp only [hin]
        split <;> simp
      · simp only [he]
        intro hx
        cases hx
        have hn : s.cache.Nested id j := ⟨u, hu, by simp [hsplit]⟩
        by_cases hlt : j < s.cache.units.length
        · have hbelow := Cache.countBelow_nested ha hn hlt
          exact ih (ha.nested hn) (by omega) hj
        · obtain ⟨d, rfl⟩ : ∃ d, depth = d + 1 := ⟨depth - 1, by omega⟩
          rw [buildModel_absent (List.getElem?_eq_none (Nat.le_of_not_lt hlt))] at hj
          cases hj

/-- An endless analysis goes round in a circle of units nested in each other. -/
theorem buildModel_endless {id : UnitId} (h : s.buildModel (s.cache.units.length + 1) id = .error .endless) :
    ∃ j, s.cache.InNest id j ∧ TransGen s.cache.Nested j j := by
  by_contra hnone
  have ha : s.cache.NestEnds id := fun j hj hc => hnone ⟨j, hj, hc⟩
  by_cases hi : id < s.cache.units.length
  · exact buildModel_ends ha (Nat.succ_lt_succ (Cache.countBelow_lt_length ha hi)) h
  · rw [buildModel_absent (List.getElem?_eq_none (Nat.le_of_not_lt hi))] at h
    cases h

/-- Analysis succeeds only when nothing in the nest is released. -/
theorem analyse_ok {id : UnitId} (h : (s.analyse id).1 = .ok ()) {j : UnitId} (hj : s.cache.InNest id j) :
    ∃ u, s.cache.unit? j = some u ∧ u.isReleased = false := by
  simp only [analyse] at h
  split at h
  · cases h
  · cases h
  next m hm =>
  obtain ⟨-, k, -, hk⟩ := (buildModel_ok hm).nest hj
  exact hk.unreleased

/-- With a released unit in the nest it fails, by the first fault on its way. -/
theorem analyse_released (hs : s.cache.Sound) (ha : s.cache.NestsAcyclic) {id j : UnitId} {u : ClassUnit}
    (hj : s.cache.InNest id j) (hu : s.cache.unit? j = some u) (hr : u.isReleased = true) :
    ∃ e, (s.analyse id).1 = .error e ∧ s.Stops id e := by
  have hi : id < s.cache.units.length := by
    rcases ReflTransGen.cases_head hj with rfl | ⟨k, ⟨v, hv, -⟩, -⟩
    · exact Cache.unit?_lt hu
    · exact Cache.unit?_lt hv
  have hd := Nat.lt_succ_of_lt (Cache.countBelow_lt_length (ha.nestEnds id) hi)
  rcases buildModel_verdict hs (ha.nestEnds id) hi hd with ⟨m, hm⟩ | ⟨e, he, hstop⟩
  · have hok : (s.analyse id).1 = .ok () := by simp only [analyse, hm]
    obtain ⟨v, hv, hvr⟩ := analyse_ok hok hj
    rw [hu] at hv
    cases hv
    rw [hr] at hvr
    cases hvr
  · exact ⟨e, by simp only [analyse, he], hstop⟩

end Session

end ClassSkeleton
