import ClassSkeleton.Proofs.Crashes

/-
  ClassSkeleton.Proofs.BatchAccounts — the accounts of a batch.

  Every candidate has its turn in the world the ones before it left (`turn`). When its turn ends without
  a refused sink it has one outcome of its own type; the outcome says that the class is nested exactly
  when the unit found for the type says so, and then nothing but the session has changed; and a record
  was added exactly when the outcome is a recovery (`dumpMember_account`). A refused sink ends the batch:
  the candidates after it have no turn. From one candidate this is carried to the list of candidates, and
  from there to the whole batch, between the opening of its summary and the closing. A crash leaves the
  summary as it is; what such a batch comes to is told by its cause (`Fell`).
-/

namespace ClassSkeleton

namespace UnitOutcome

/-- The type an outcome is about. -/
def type? : UnitOutcome → Option TypeName
  | dumped t _ | skippedInner t | recovered t _ _ => some t
  | failed .. => none

/-- The record a candidate of the archive leaves. -/
def record? (archive : Path) : UnitOutcome → Option ExceptionRecord
  | recovered t kind note => some ⟨archive, some (World.memberContext t), kind, note⟩
  | _ => none

end UnitOutcome

/-- Opens or closes a summary, or fails to. -/
def Event.isBracket : Event → Bool
  | summaryOpened | summaryRefused | summaryClosed => true
  | _ => false

namespace World

variable {σ : Type}

/-- Whether the unit found for a type is that of a nested class. -/
def findsInner (w : World σ) (t : TypeName) : Bool :=
  match Cache.resolveByIdentity w.around.files t w.session.cache with
  | (.ok id, c) => isInnerUnit { w.session with cache := c } id
  | (.error _, _) => false

/-! ## What goes on inside a summary -/

/-- `w` comes from `v` without a summary being opened or closed. -/
def Inside (v w : World σ) : Prop := ∃ more, w.trace = v.trace ++ more ∧ ∀ e ∈ more, e.isBracket = false

theorem Inside.refl (w : World σ) : Inside w w := ⟨[], by simp, by simp⟩

theorem Inside.trans {u v w : World σ} (h : Inside u v) (h' : Inside v w) : Inside u w := by
  obtain ⟨more, ht, hm⟩ := h
  obtain ⟨more', ht', hm'⟩ := h'
  refine ⟨more ++ more', by simp [ht', ht], fun e he => ?_⟩
  rcases List.mem_append.1 he with he | he
  · exact hm e he
  · exact hm' e he

theorem Inside.event {v w w' : World σ} {e : Event} (h : Inside v w) (he : e.isBracket = false)
    (ht : w'.trace = w.trace ++ [e]) : Inside v w' :=
  h.trans ⟨[e], ht, fun d hd => by rw [List.mem_singleton.1 hd]; exact he⟩

theorem Outputs.inside {v w : World σ} (h : Outputs v w) : Inside v w := by
  obtain ⟨more, ht, hm⟩ := h.trace
  refine ⟨more, ht, fun e he => ?_⟩
  have := hm e he
  cases e <;> simp_all [Event.isOutput, Event.isBracket]

theorem inside_of_outputs {α : Type} {x : Act σ α} (h : ∀ v, Keeps (Outputs v) x) (v : World σ) : Keeps (Inside v) x :=
  fun w hw => hw.trans (h w w (.refl w)).inside

theorem inside_noteException (v : World σ) (path : Path) (context : Option String) (e : DecompileError) :
    Keeps (Inside v) (noteException path context e) := fun _ h => h.event rfl rfl

/-! ## One candidate -/

theorem prepare_nested (w : World σ) (t : TypeName) :
    (w.session.prepare w.around.files t).1 = .nested ↔ w.findsInner t = true := by
  simp only [Session.prepare, findsInner]
  rcases Cache.resolveByIdentity w.around.files t w.session.cache with ⟨r, c⟩
  cases r with
  | error e => simp
  | ok id =>
    dsimp only
    split
    · next hi => simp [hi]
    · next hi =>
      rcases Session.build _ _ with ⟨r, s⟩
      cases r <;> simp [hi]

/-- Nothing recorded, and no summary opened or closed. -/
structure Unrecorded (v w : World σ) : Prop where
  records : w.records = v.records
  inside : Inside v w

theorem Unrecorded.session {v w : World σ} (h : Unrecorded v w) (s : Session) : Unrecorded v (w.withSession s) :=
  ⟨h.records, h.inside⟩

theorem Unrecorded.refl (w : World σ) : Unrecorded w w := ⟨rfl, .refl w⟩

theorem Unrecorded.trans {u v w : World σ} (h : Unrecorded u v) (h' : Unrecorded v w) : Unrecorded u w :=
  ⟨h'.records.trans h.records, h.inside.trans h'.inside⟩

theorem announced_unrecorded (w : World σ) (t : TypeName) : Unrecorded w (announced w t) := by
  unfold announced
  split
  · exact .refl w
  · exact ⟨rfl, (Inside.refl w).event (e := .progressType t) rfl rfl⟩

theorem emitMember_ends (o : Outlet σ) (t : TypeName) (id : UnitId) (m : ClassModel) (w : World σ) :
    Unrecorded w (emitMember o t id m w).2 ∧
      ∀ outcome, (emitMember o t id m w).1 = .ok outcome → ∃ digest, outcome = .dumped t digest := by
  rw [emitMember_apply]
  have ho := outputs_emitText w o true t (Usage.collect m) w.session.options.identifierPolicy
    (memberPieces w.session.options.identifierPolicy m) w (.refl w)
  rcases hr : emitText o true t (Usage.collect m) w.session.options.identifierPolicy
    (memberPieces w.session.options.identifierPolicy m) w with ⟨r, v⟩
  rw [hr] at ho
  have hu : Unrecorded w v := ⟨ho.records, ho.inside⟩
  cases r with
  | error e => exact ⟨hu, fun outcome h => (by cases h)⟩
  | ok digest => exact ⟨hu.session _, fun outcome h => (by cases h; exact ⟨digest, rfl⟩)⟩

theorem dumpMemberInto_unrecorded (o : Outlet σ) (t : TypeName) (w : World σ) :
    Unrecorded w (dumpMemberInto o t w).2 := by
  rw [dumpMemberInto_apply]
  have ha := announced_unrecorded w t
  rcases w.session.prepare w.around.files t with ⟨p, s⟩
  cases p with
  | unfound e => exact (Unrecorded.refl w).session s
  | nested => exact (Unrecorded.refl w).session s
  | unbuilt e => exact ha.session s
  | built id m => exact (ha.session s).trans (emitMember_ends o t id m _).1

/-- A candidate is skipped when it is nested, and then only the session changes; or it is written. -/
theorem dumpMemberInto_ok {o : Outlet σ} {t : TypeName} {w v : World σ} {outcome : UnitOutcome}
    (h : dumpMemberInto o t w = (.ok outcome, v)) :
    (outcome = .skippedInner t ∧ w.findsInner t = true ∧ v = w.withSession v.session) ∨
      ((∃ digest, outcome = .dumped t digest) ∧ w.findsInner t = false) := by
  rw [dumpMemberInto_apply] at h
  have hn := prepare_nested w t
  rcases hp : w.session.prepare w.around.files t with ⟨p, s⟩
  rw [hp] at h hn
  cases p with
  | unfound e => cases h
  | nested => cases h; exact .inl ⟨rfl, hn.1 rfl, rfl⟩
  | unbuilt e => cases h
  | built id m =>
    have hd := (emitMember_ends o t id m ((announced w t).withSession s)).2 outcome
    exact .inr ⟨hd (congrArg Prod.fst h), by simpa using hn⟩

theorem dumpMemberInto_error {o : Outlet σ} {t : TypeName} {w v : World σ} {e : DecompileError}
    (h : dumpMemberInto o t w = (.error e, v)) : w.findsInner t = false := by
  rw [dumpMemberInto_apply] at h
  have hn := prepare_nested w t
  rcases hp : w.session.prepare w.around.files t with ⟨p, s⟩
  rw [hp] at h hn
  cases p with
  | nested => cases h
  | unfound e => simpa using hn
  | unbuilt e => simpa using hn
  | built id m => simpa using hn

/-- What the turn of a candidate comes to when it does not end the batch. -/
structure MemberAccount (archive : Path) (t : TypeName) (w : World σ) (outcome : UnitOutcome) (v : World σ) : Prop where
  type : outcome.type? = some t
  /-- Skipped exactly when the unit of the type says that its class is nested. -/
  nested : outcome = .skippedInner t ↔ w.findsInner t = true
  /-- A skipped candidate asks for nothing, says nothing and leaves no record. -/
  quiet : outcome = .skippedInner t → v = w.withSession v.session
  records : v.records = w.records ++ (outcome.record? archive).toList

/-- A turn is accounted for, unless a sink was refused or the program crashed. -/
theorem dumpMember_account (o : Outlet σ) (archive : Path) (t : TypeName) (w : World σ) :
    (∀ outcome, (dumpMember o archive t w).1 = .ok outcome →
      MemberAccount archive t w outcome (dumpMember o archive t w).2) ∧
    ∀ e, (dumpMember o archive t w).1 = .error e →
      e.isFatal = true ∨ (dumpMember o archive t w).2.crash.isSome = true := by
  rw [dumpMember_apply]
  have hu := (dumpMemberInto_unrecorded o t w).records
  rcases hd : dumpMemberInto o t w with ⟨r, v⟩
  rw [hd] at hu
  cases r with
  | ok outcome =>
    refine ⟨fun outcome' h => ?_, fun e h => by cases h⟩
    cases h
    rcases dumpMemberInto_ok hd with ⟨rfl, hi, hv⟩ | ⟨⟨digest, rfl⟩, hi⟩
    · exact ⟨rfl, by simp [hi], fun _ => hv, by simpa [UnitOutcome.record?] using hu⟩
    · exact ⟨rfl, by simp [hi], fun h => (by cases h), by simpa [UnitOutcome.record?] using hu⟩
  | error e =>
    dsimp only
    by_cases hf : (e.isFatal || v.crash.isSome) = true
    · rw [if_pos hf]
      exact ⟨fun outcome h => (by cases h), fun e' h => (by cases h; exact (Bool.or_eq_true _ _).mp hf)⟩
    · rw [if_neg hf]
      have hi := dumpMemberInto_error hd
      have ho := outputs_writeNote (noteException archive (some (memberContext t)) e v).2 o t e.describe _ (.refl _)
      have hf := writeNote_error o t e.describe (noteException archive (some (memberContext t)) e v).2
      rcases hn : writeNote o t e.describe (noteException archive (some (memberContext t)) e v).2 with ⟨r, u⟩
      rw [hn] at ho hf
      cases r with
      | error e' => exact ⟨fun outcome h => (by cases h), fun e'' h => (by cases h; exact .inl (hf e' rfl))⟩
      | ok a =>
        refine ⟨fun outcome h => ?_, fun e h => by cases h⟩
        cases h
        refine ⟨rfl, by simp [hi], fun h => (by cases h), ?_⟩
        rw [ho.records, noteException_apply]
        exact congrArg (· ++ _) hu

/-- A turn that comes to something leaves the program running. -/
theorem dumpMember_alive {o : Outlet σ} {archive : Path} {t : TypeName} {w v : World σ} {outcome : UnitOutcome}
    (h : dumpMember o archive t w = (.ok outcome, v)) (hw : w.crash = none) : v.crash = none := by
  rw [dumpMember_apply] at h
  rcases hd : dumpMemberInto o t w with ⟨r, u⟩
  rw [hd] at h
  cases r with
  | ok result =>
    cases h
    rw [dumpMemberInto_apply] at hd
    rcases hp : w.session.prepare w.around.files t with ⟨p, s⟩
    rw [hp] at hd
    cases p with
    | unfound e => cases hd
    | unbuilt e => cases hd
    | nested => cases hd; exact (Session.prepare_nested_crash hp).trans hw
    | built id m =>
      have hc := emitMember_crash o t id m ((announced w t).withSession s)
      dsimp only at hd
      rw [hd] at hc
      exact hc.trans (Session.prepare_alive hp)
  | error e =>
    dsimp only at h
    split at h
    · cases h
    · next hc =>
      have ho := outputs_writeNote (noteException archive (some (memberContext t)) e u).2 o t e.describe _ (.refl _)
      rcases hn : writeNote o t e.describe (noteException archive (some (memberContext t)) e u).2 with ⟨r, x⟩
      rw [hn] at h ho
      cases r <;> cases h
      have hu : u.crash = none := Option.not_isSome_iff_eq_none.1 (not_or.1 (Bool.or_eq_true _ _ ▸ hc)).2
      exact ho.crash.trans hu

/-- A candidate that crashes the program while it is prepared ends the batch there, whatever the outlet. -/
theorem dumpMember_falls {t : TypeName} {w : World σ} (hw : w.crash = none)
    (hc : (w.session.prepare w.around.files t).2.cache.crash.isSome = true) (o : Outlet σ) (archive : Path) :
    ∃ e v, (w.session.prepare w.around.files t).1.failure? t = some e ∧ dumpMember o archive t w = (.error e, v) ∧
      v.session = (w.session.prepare w.around.files t).2 ∧
      (v = w.withSession v.session ∨ v = (announced w t).withSession v.session) := by
  have hd := dumpMemberInto_apply o t w
  rcases hp : w.session.prepare w.around.files t with ⟨p, s⟩
  rw [hp] at hd hc
  have hend {e : DecompileError} {v : World σ} (he : dumpMemberInto o t w = (.error e, v)) (hv : v.session = s) :
      dumpMember o archive t w = (.error e, v) := by
    have hcrash : (e.isFatal || v.crash.isSome) = true := by rw [crash, hv, Bool.or_eq_true]; exact .inr hc
    rw [dumpMember_apply, he]
    exact if_pos hcrash
  cases p with
  | unfound e => exact ⟨.load e, w.withSession s, rfl, hend hd rfl, rfl, .inl rfl⟩
  | unbuilt e => exact ⟨.analysis t e, (announced w t).withSession s, rfl, hend hd rfl, rfl, .inr rfl⟩
  | nested => rw [Session.prepare_nested_crash hp, show w.session.cache.crash = none from hw] at hc; cases hc
  | built id m => rw [Session.prepare_alive hp] at hc; cases hc

theorem inside_dumpMember (v : World σ) (o : Outlet σ) (archive : Path) (t : TypeName) :
    Keeps (Inside v) (dumpMember o archive t) := by
  intro w h
  rw [dumpMember_apply]
  have hu := h.trans (dumpMemberInto_unrecorded o t w).inside
  rcases hd : dumpMemberInto o t w with ⟨r, u⟩
  rw [hd] at hu
  cases r with
  | ok outcome => exact hu
  | error e =>
    dsimp only
    split
    · exact hu
    · have hn := inside_of_outputs (outputs_writeNote · o t e.describe) v _
        (inside_noteException v archive (some (memberContext t)) e u hu)
      rcases hw : writeNote o t e.describe _ with ⟨r, x⟩
      rw [hw] at hn
      cases r <;> exact hn

/-! ## The candidates in turn -/

/-- The candidates had their turns from `w` to `v`, and none ended the batch. -/
inductive Turns (o : Outlet σ) (archive : Path) : List TypeName → World σ → List UnitOutcome → World σ → Prop where
  | none {w : World σ} : Turns o archive [] w [] w
  | next {t : TypeName} {ts : List TypeName} {outcome : UnitOutcome} {outcomes : List UnitOutcome} {w v u : World σ}
      (turn : dumpMember o archive t w = (.ok outcome, v)) (rest : Turns o archive ts v outcomes u) :
      Turns o archive (t :: ts) w (outcome :: outcomes) u

/-- The world some candidates leave, one after another. -/
def after (o : Outlet σ) (archive : Path) (ts : List TypeName) (w : World σ) : World σ :=
  ts.foldl (fun w t => (dumpMember o archive t w).2) w

theorem dumpMembers_ok {o : Outlet σ} {archive : Path} {ts : List TypeName} {w v : World σ}
    {outcomes : List UnitOutcome} (h : dumpMembers o archive ts w = (.ok outcomes, v)) :
    Turns o archive ts w outcomes v := by
  induction ts generalizing w outcomes with
  | nil => cases h; exact .none
  | cons t ts ih =>
    rw [dumpMembers_cons] at h
    rcases hd : dumpMember o archive t w with ⟨r, u⟩
    rw [hd] at h
    cases r with
    | error e => cases h
    | ok outcome =>
      dsimp only at h
      rcases hm : dumpMembers o archive ts u with ⟨r, x⟩
      rw [hm] at h
      cases r with
      | error e => cases h
      | ok rest => cases h; exact .next hd (ih hm)

/-- The batch ends with the first candidate that fails: those behind it have no turn. -/
theorem dumpMembers_error {o : Outlet σ} {archive : Path} {ts : List TypeName} {w v : World σ} {e : DecompileError}
    (h : dumpMembers o archive ts w = (.error e, v)) :
    ∃ before t later outcomes u, ts = before ++ t :: later ∧ Turns o archive before w outcomes u ∧
      dumpMember o archive t u = (.error e, v) := by
  induction ts generalizing w with
  | nil => cases h
  | cons t ts ih =>
    rw [dumpMembers_cons] at h
    rcases hd : dumpMember o archive t w with ⟨r, u⟩
    rw [hd] at h
    cases r with
    | error e' => cases h; exact ⟨[], t, ts, [], w, rfl, .none, hd⟩
    | ok outcome =>
      dsimp only at h
      rcases hm : dumpMembers o archive ts u with ⟨r, x⟩
      rw [hm] at h
      cases r with
      | ok rest => cases h
      | error e' =>
        cases h
        obtain ⟨before, s, later, outcomes, y, rfl, hb, hs⟩ := ih hm
        exact ⟨t :: before, s, later, outcome :: outcomes, y, rfl, .next hd hb, hs⟩

namespace Turns

variable {o : Outlet σ} {archive : Path} {ts : List TypeName} {w v : World σ} {outcomes : List UnitOutcome}

theorem types (h : Turns o archive ts w outcomes v) : outcomes.map (·.type?) = ts.map some := by
  induction h with
  | none => rfl
  | next turn rest ih =>
    have ha := (dumpMember_account o archive _ _).1 _ (congrArg Prod.fst turn)
    rw [List.map_cons, List.map_cons, ih, ha.type]

theorem records (h : Turns o archive ts w outcomes v) :
    v.records = w.records ++ outcomes.filterMap (UnitOutcome.record? archive) := by
  induction h with
  | none => simp
  | @next t ts outcome outcomes w v u turn rest ih =>
    have ha := ((dumpMember_account o archive _ _).1 _ (congrArg Prod.fst turn)).records
    rw [turn] at ha
    rw [ih, ha, List.append_assoc]
    cases hr : outcome.record? archive <;> simp [hr]

theorem alive (h : Turns o archive ts w outcomes v) (hw : w.crash = .none) : v.crash = .none := by
  induction h with
  | none => exact hw
  | next turn rest ih => exact ih (dumpMember_alive turn hw)

/-- Each candidate found the world the ones before it left. -/
theorem at_turn (h : Turns o archive ts w outcomes v) {i : Nat} {t : TypeName} (ht : ts[i]? = some t) :
    ∃ outcome, outcomes[i]? = some outcome ∧
      dumpMember o archive t (after o archive (ts.take i) w) = (.ok outcome, after o archive (ts.take (i + 1)) w) := by
  induction h generalizing i with
  | none => cases ht
  | next turn rest ih =>
    cases i with
    | zero =>
      cases ht
      refine ⟨_, rfl, ?_⟩
      simp [after, turn]
    | succ i =>
      obtain ⟨outcome, ho, hd⟩ := ih ht
      refine ⟨outcome, ho, ?_⟩
      simpa [after, turn] using hd

end Turns

end World

/-- Outcomes with a type are of three kinds. -/
theorem UnitOutcome.count_kinds (outcomes : List UnitOutcome) (h : ∀ outcome ∈ outcomes, outcome.type? ≠ none) :
    outcomes.countP (·.isDumped) + outcomes.countP (·.isRecovered) + outcomes.countP (·.isSkippedInner) =
      outcomes.length := by
  induction outcomes with
  | nil => rfl
  | cons outcome rest ih =>
    have hr := ih fun x hx => h x (List.mem_cons_of_mem _ hx)
    have ho := h outcome (List.mem_cons_self ..)
    have hone : (if outcome.isDumped = true then 1 else 0) + (if outcome.isRecovered = true then 1 else 0) +
        (if outcome.isSkippedInner = true then 1 else 0) = 1 := by
      cases outcome with
      | failed path kind message => exact absurd rfl ho
      | _ => rfl
    simp only [List.countP_cons, List.length_cons]
    omega

namespace World

variable {σ : Type}

/-! ## The whole batch -/

/-- The types of an archive that the filter accepts. -/
def candidates (w : World σ) (archive : Path) : List TypeName :=
  match Cache.loadArchive w.around.files archive w.session.cache with
  | (.ok types, _) => types.filter w.session.options.archiveFilter.accepts
  | (.error _, _) => []

/-- The world with the summary opened. -/
def opening (o : Outlet σ) (w : World σ) : World σ :=
  { w with around := (o.openSummary w.around).2, trace := w.trace ++ [.summaryOpened] }

/-- The world a batch loads its archive in: the summary is open and has its head. -/
def headed (o : Outlet σ) (archive : Path) (w : World σ) : World σ := (headBatch o archive (opening o w)).2

/-- The world in which the candidate at a place has its turn. -/
def turn (o : Outlet σ) (archive : Path) (w : World σ) (i : Nat) : World σ :=
  after o archive ((w.candidates archive).take i) (enlist o archive w).2

/-- A batch that came to its end, as seen from the world in which it loaded its archive. -/
structure Completed (o : Outlet σ) (archive : Path) (w : World σ) (report : BatchReport) : Prop where
  loaded : ∃ types, (Cache.loadArchive w.around.files archive w.session.cache).1 = .ok types
  candidates : report.candidates = (w.candidates archive).length
  /-- One outcome for each candidate, in their order and of their types. -/
  types : report.units.map (·.type?) = (w.candidates archive).map some
  kinds : report.dumped + report.recovered + report.skippedInner = report.candidates
  turns : ∀ i t outcome, (w.candidates archive)[i]? = some t → report.units[i]? = some outcome →
    dumpMember o archive t (turn o archive w i) = (.ok outcome, turn o archive w (i + 1))
  nested : ∀ i t, (w.candidates archive)[i]? = some t →
    (report.units[i]? = some (.skippedInner t) ↔ (turn o archive w i).findsInner t = true)
  /-- Skipping a candidate changes the session at most: no sink, no progress, no record. -/
  quiet : ∀ i t, (w.candidates archive)[i]? = some t → report.units[i]? = some (.skippedInner t) →
    turn o archive w (i + 1) = (turn o archive w i).withSession (turn o archive w (i + 1)).session

/-- Why a batch stopped, and that it went no further. -/
inductive Stopped (o : Outlet σ) (archive : Path) (w : World σ) (e : DecompileError) (v : World σ) : Prop where
  | unopened (cause : SinkError) (refused : (o.openSummary w.around).1 = .error cause) (fatal : e.isFatal = true)
      (quiet : v.session = w.session ∧ v.sinks = w.sinks ∧ v.held = w.held)
  | unread (cause : LoadError)
      (failed : (Cache.loadArchive (headed o archive w).around.files archive
        (headed o archive w).session.cache).1 = .error cause)
      (error : e = .load cause)
  | fatal (before later : List TypeName) (t : TypeName) (outcomes : List UnitOutcome) (u u' : World σ)
      (candidates : (headed o archive w).candidates archive = before ++ t :: later)
      (earlier : Turns o archive before (enlist o archive (headed o archive w)).2 outcomes u)
      (failing : dumpMember o archive t u = (.error e, u')) (fatal : e.isFatal = true)
      (last : v = (closeBatch o archive (.error e) u').2)

theorem decompileArchive_opening {o : Outlet σ} {w : World σ} (h : (o.openSummary w.around).1 = .ok ())
    (archive : Path) :
    decompileArchive o archive w =
      let r := dumpCollection o archive (opening o w)
      (r.1, (closeBatch o archive r.1 r.2).2) := by
  rcases ho : o.openSummary w.around with ⟨r, around⟩
  rw [ho] at h
  cases h
  rw [decompileArchive_opened ho, opening, ho]

theorem dumpCollection_apply (o : Outlet σ) (archive : Path) (w : World σ) :
    dumpCollection o archive w =
      match enlist o archive (headBatch o archive w).2 with
      | (.error e, v) => (.error e, v)
      | (.ok ts, v) =>
        ((dumpMembers o archive ts v).1.map (⟨archive, ts.length, ·⟩), (dumpMembers o archive ts v).2) := by
  rw [dumpCollection_eq, attempt_bind_ok (up_apply _ _), attempt_bind]
  rcases enlist o archive (headBatch o archive w).2 with ⟨r, v⟩
  cases r with
  | error e => rfl
  | ok ts =>
    dsimp only
    rw [attempt_bind]
    rcases dumpMembers o archive ts v with ⟨r, u⟩
    cases r <;> rfl

theorem enlist_ok {o : Outlet σ} {archive : Path} {w v : World σ} {ts : List TypeName}
    (h : enlist o archive w = (.ok ts, v)) :
    (∃ types, (Cache.loadArchive w.around.files archive w.session.cache).1 = .ok types) ∧ ts = w.candidates archive ∧
      v.records = w.records := by
  unfold candidates
  rcases hl : Cache.loadArchive w.around.files archive w.session.cache with ⟨r, c⟩
  cases r with
  | error e => rw [enlist_unread hl] at h; cases h
  | ok types =>
    rw [enlist_read hl] at h
    cases h
    exact ⟨⟨types, rfl⟩, rfl, (keeps_notices (outputs_notice (w.withSession _) o) _ _ (.refl _)).records⟩

theorem enlist_error {o : Outlet σ} {archive : Path} {w v : World σ} {e : DecompileError}
    (h : enlist o archive w = (.error e, v)) :
    ∃ cause, (Cache.loadArchive w.around.files archive w.session.cache).1 = .error cause ∧ e = .load cause ∧
      v.crash = cause.crash?.or w.crash := by
  have hc := Cache.loadArchive_crash w.around.files archive w.session.cache
  rcases hl : Cache.loadArchive w.around.files archive w.session.cache with ⟨r, c⟩
  rw [hl] at hc
  cases r with
  | error cause =>
    rw [enlist_unread hl] at h
    cases h
    exact ⟨cause, rfl, rfl, congrArg cause.crash?.or hc⟩
  | ok types => rw [enlist_read hl] at h; cases h

theorem dumpCollection_ok {o : Outlet σ} {archive : Path} {w v : World σ} {report : BatchReport}
    (h : dumpCollection o archive w = (.ok report, v)) :
    ∃ outcomes, report = ⟨archive, ((headBatch o archive w).2.candidates archive).length, outcomes⟩ ∧
      (∃ types, (Cache.loadArchive (headBatch o archive w).2.around.files archive
        (headBatch o archive w).2.session.cache).1 = .ok types) ∧
      (enlist o archive (headBatch o archive w).2).2.records = w.records ∧
      Turns o archive ((headBatch o archive w).2.candidates archive) (enlist o archive (headBatch o archive w).2).2
        outcomes v := by
  rw [dumpCollection_apply] at h
  rcases he : enlist o archive (headBatch o archive w).2 with ⟨r, u⟩
  rw [he] at h
  cases r with
  | error e => cases h
  | ok ts =>
    dsimp only at h
    obtain ⟨hl, rfl, hr⟩ := enlist_ok he
    rcases hm : dumpMembers o archive ((headBatch o archive w).2.candidates archive) u with ⟨r, x⟩
    rw [hm] at h
    cases r with
    | error e => cases h
    | ok outcomes => cases h; exact ⟨outcomes, rfl, hl, hr, dumpMembers_ok hm⟩

theorem dumpCollection_error {o : Outlet σ} {archive : Path} {w v : World σ} {e : DecompileError}
    (h : dumpCollection o archive w = (.error e, v)) :
    (∃ cause, (Cache.loadArchive (headBatch o archive w).2.around.files archive
        (headBatch o archive w).2.session.cache).1 = .error cause ∧ e = .load cause ∧
        v = (enlist o archive (headBatch o archive w).2).2 ∧ v.crash = cause.crash?.or w.crash) ∨
      ∃ before t later outcomes u, (headBatch o archive w).2.candidates archive = before ++ t :: later ∧
        Turns o archive before (enlist o archive (headBatch o archive w).2).2 outcomes u ∧
        dumpMember o archive t u = (.error e, v) := by
  rw [dumpCollection_apply] at h
  rcases he : enlist o archive (headBatch o archive w).2 with ⟨r, u⟩
  rw [he] at h
  cases r with
  | error e' =>
    cases h
    obtain ⟨cause, hl, rfl, hc⟩ := enlist_error he
    exact .inl ⟨cause, hl, rfl, rfl, hc⟩
  | ok ts =>
    dsimp only at h
    obtain ⟨-, rfl, -⟩ := enlist_ok he
    rcases hm : dumpMembers o archive ((headBatch o archive w).2.candidates archive) u with ⟨r, x⟩
    rw [hm] at h
    cases r with
    | error e' => cases h; exact .inr (dumpMembers_error hm)
    | ok outcomes => cases h

theorem completed_of_turns {o : Outlet σ} {archive : Path} {w v : World σ} {outcomes : List UnitOutcome}
    (hl : ∃ types, (Cache.loadArchive w.around.files archive w.session.cache).1 = .ok types)
    (h : Turns o archive (w.candidates archive) (enlist o archive w).2 outcomes v) :
    Completed o archive w ⟨archive, (w.candidates archive).length, outcomes⟩ := by
  have hlen : outcomes.length = (w.candidates archive).length := by simpa using congrArg List.length h.types
  have hturn : ∀ i t outcome, (w.candidates archive)[i]? = some t → outcomes[i]? = some outcome →
      dumpMember o archive t (turn o archive w i) = (.ok outcome, turn o archive w (i + 1)) := by
    intro i t outcome ht ho
    obtain ⟨outcome', ho', hd⟩ := h.at_turn ht
    rw [ho] at ho'
    cases ho'
    exact hd
  have hacc : ∀ i t, (w.candidates archive)[i]? = some t → ∃ outcome, outcomes[i]? = some outcome ∧
      MemberAccount archive t (turn o archive w i) outcome (turn o archive w (i + 1)) := by
    intro i t ht
    obtain ⟨outcome, ho, hd⟩ := h.at_turn ht
    have ha := (dumpMember_account o archive t (turn o archive w i)).1 outcome (congrArg Prod.fst hd)
    exact ⟨outcome, ho, by rw [hturn i t outcome ht ho] at ha; exact ha⟩
  have htyped : ∀ outcome ∈ outcomes, outcome.type? ≠ none := by
    intro outcome ho hn
    have hm : outcome.type? ∈ (w.candidates archive).map some := h.types ▸ List.mem_map_of_mem ho
    rw [hn] at hm
    simp at hm
  refine ⟨hl, rfl, h.types, ?_, hturn, fun i t ht => ?_, fun i t ht ho => ?_⟩
  · exact (UnitOutcome.count_kinds outcomes htyped).trans hlen
  · obtain ⟨outcome, ho, ha⟩ := hacc i t ht
    rw [ho, Option.some.injEq]
    exact ha.nested
  · obtain ⟨outcome, ho', ha⟩ := hacc i t ht
    rw [ho', Option.some.injEq] at ho
    exact ha.quiet ho

theorem inside_notice (v : World σ) (o : Outlet σ) (text : String) : Keeps (Inside v) (notice o text) :=
  inside_of_outputs (outputs_notice · o text) v

theorem inside_dumpMembers (v : World σ) (o : Outlet σ) (archive : Path) (ts : List TypeName) :
    Keeps (Inside v) (dumpMembers o archive ts) := by
  induction ts with
  | nil => exact .pure _
  | cons t ts ih => exact .try_bind (inside_dumpMember v o archive t) fun _ => .try_bind ih fun _ => .pure _

theorem inside_enlist (v : World σ) (o : Outlet σ) (archive : Path) : Keeps (Inside v) (enlist o archive) := by
  intro w h
  rcases hl : Cache.loadArchive w.around.files archive w.session.cache with ⟨r, c⟩
  cases r with
  | error e => rw [enlist_unread hl]; exact h
  | ok types =>
    rw [enlist_read hl]
    exact keeps_notices (inside_notice v o) _ (w.withSession _) h

theorem inside_dumpCollection (v : World σ) (o : Outlet σ) (archive : Path) :
    Keeps (Inside v) (dumpCollection o archive) := by
  have hh : Keeps (Inside v) (headBatch o archive) :=
    .bind (inside_notice v o _) fun _ => .bind (inside_notice v o _) fun _ w h => h.event rfl rfl
  rw [dumpCollection_eq]
  exact .try_bind hh.up fun _ => .try_bind (inside_enlist v o archive)
    fun ts => .try_bind (inside_dumpMembers v o archive ts) fun _ => .pure _

/-- The last thing a batch does is to close its summary, unless the program has crashed. -/
theorem closeBatch_closes (v : World σ) (o : Outlet σ) (archive : Path) (r : Except DecompileError BatchReport)
    {w : World σ} (h : Inside v w) (hc : w.crash = none) :
    ∃ more, (closeBatch o archive r w).2.trace = v.trace ++ more ++ [.summaryClosed] ∧
      ∀ e ∈ more, e.isBracket = false := by
  have hr := inside_of_outputs (outputs_release · o) v w h
  rw [closeBatch_apply, hc]
  cases r with
  | ok report =>
    obtain ⟨more, ht, hm⟩ := inside_notice v o (lastNotice report) _ hr
    exact ⟨more, congrArg (· ++ [Event.summaryClosed]) ht, hm⟩
  | error e =>
    obtain ⟨more, ht, hm⟩ := inside_notice v o (archiveContext ++ " " ++ e.describe) _
      (inside_noteException v archive (some archiveContext) e _ hr)
    exact ⟨more, congrArg (· ++ [Event.summaryClosed]) ht, hm⟩

theorem closeBatch_crashed (o : Outlet σ) (archive : Path) (r : Except DecompileError BatchReport) {w : World σ}
    (hc : w.crash.isSome = true) : (closeBatch o archive r w).2 = (release o w).2 := by
  rw [closeBatch_apply, if_pos hc]

theorem closeBatch_records (o : Outlet σ) (archive : Path) (report : BatchReport) (w : World σ) :
    (closeBatch o archive (.ok report) w).2.records = w.records := by
  have hr := (outputs_release w o w (.refl w)).records
  rw [closeBatch_apply]
  split <;> exact hr

theorem session_closeBatch (o : Outlet σ) (archive : Path) (r : Except DecompileError BatchReport) (w : World σ) :
    (closeBatch o archive r w).2.session = w.session := by
  have hr := (outputs_release w o w (.refl w)).session
  rw [closeBatch_apply]
  split
  · exact hr
  · cases r <;> exact hr

theorem closeBatch_crash (o : Outlet σ) (archive : Path) (r : Except DecompileError BatchReport) (w : World σ) :
    (closeBatch o archive r w).2.crash = w.crash := by
  rw [crash, session_closeBatch]
  rfl

theorem loaded_of_candidate {w : World σ} {archive : Path} {t : TypeName} (h : t ∈ w.candidates archive) :
    ∃ types, (Cache.loadArchive w.around.files archive w.session.cache).1 = .ok types := by
  unfold candidates at h
  split at h
  · next types c hl => exact ⟨types, by rw [hl]⟩
  · cases h

/-- The candidates of an archive that can be read find the program as it was. -/
theorem enlist_crash {archive : Path} {w : World σ} {types : List TypeName}
    (h : (Cache.loadArchive w.around.files archive w.session.cache).1 = .ok types) (o : Outlet σ) :
    (enlist o archive w).2.crash = w.crash := by
  have hc := Cache.loadArchive_crash w.around.files archive w.session.cache
  rcases hl : Cache.loadArchive w.around.files archive w.session.cache with ⟨r, c⟩
  rw [hl] at h hc
  cases h
  rw [enlist_read hl]
  exact (congrArg Cache.crash (Session.nameBatch_cache _ _)).trans hc

/-- A candidate whose turn ends the batch with a crash asked the outlet for nothing, and crashed the program itself. -/
theorem dumpMember_crashed {o : Outlet σ} {archive : Path} {t : TypeName} {w v : World σ} {e : DecompileError}
    {cause : Crash} (h : dumpMember o archive t w = (.error e, v)) (hw : w.crash = none) (hv : v.crash = some cause) :
    (v = w.withSession v.session ∨ v = (announced w t).withSession v.session) ∧ cause.ComesOf v.session.cache := by
  rw [dumpMember_apply] at h
  rcases hd : dumpMemberInto o t w with ⟨r, u⟩
  rw [hd] at h
  cases r with
  | ok outcome => cases h
  | error e' =>
    dsimp only at h
    have hu : u = v := by
      split at h
      · cases h; rfl
      · next hc =>
        -- a note leaves a running program running
        have ho := outputs_writeNote (noteException archive (some (memberContext t)) e' u).2 o t e'.describe _ (.refl _)
        rcases hn : writeNote o t e'.describe (noteException archive (some (memberContext t)) e' u).2 with ⟨r, x⟩
        rw [hn] at h ho
        have hu : u.crash = none := Option.not_isSome_iff_eq_none.1 (not_or.1 (Bool.or_eq_true _ _ ▸ hc)).2
        cases r <;> cases h
        rw [ho.crash.trans hu] at hv
        cases hv
    subst hu
    obtain ⟨hs, hquiet⟩ := dumpMemberInto_crashed hd (by rw [hv]; rfl)
    refine ⟨hquiet, ?_⟩
    have hp := Session.prepare_crash w.session w.around.files t
    rw [← hs] at hp
    rcases hp with hp | ⟨cause', hp, hcomes⟩
    · cases hv.symm.trans (hp.trans hw)
    · cases hv.symm.trans hp
      exact hcomes

/-- How a batch ended that the program crashed in, of an entry that is too large or at the turn of a candidate, and
the outcomes of the candidates before. At that turn, the outlet was asked for nothing. -/
inductive Fell (o : Outlet σ) (archive : Path) (w : World σ) (cause : Crash) : List UnitOutcome → World σ → Prop where
  | loading {a : ClassArchive} (loaded : ClassArchive.load (headed o archive w).around.files archive = .ok a)
      (oversized : a.Oversized) (capacity : cause = .capacity) :
      Fell o archive w cause [] (release o (enlist o archive (headed o archive w)).2).2
  | candidate {before later : List TypeName} {t : TypeName} {outcomes : List UnitOutcome} {u u' : World σ}
      (candidates : (headed o archive w).candidates archive = before ++ t :: later)
      (earlier : Turns o archive before (enlist o archive (headed o archive w)).2 outcomes u)
      (turn : u' = u.withSession u'.session ∨ u' = (announced u t).withSession u'.session)
      (comes : cause.ComesOf u'.session.cache) : Fell o archive w cause outcomes (release o u').2

/-- The accounts of a batch, whatever the outlet refuses or fails at. A report has one outcome for each
candidate, and the records are those of its recoveries. An error is that of the archive, or a refused
sink with which the batch stops. A summary that was opened is closed, once and at the very end. That is, if there is
an answer: when the program crashes, there is none, and the summary stays open; and it crashes only where
units are nested in each other in a circle, or where an entry of an archive is too large. -/
theorem batch_accounts (o : Outlet σ) (archive : Path) (w : World σ) :
    (∀ report, (decompileArchive o archive w).1 = .ok report →
      report.archive = archive ∧ Completed o archive (headed o archive w) report ∧
      (decompileArchive o archive w).2.records =
        w.records ++ report.units.filterMap (UnitOutcome.record? archive) ∧
      (w.crash = none → (decompileArchive o archive w).2.crash = none)) ∧
    (∀ e, (decompileArchive o archive w).1 = .error e → (decompileArchive o archive w).2.crash = none →
      Stopped o archive w e (decompileArchive o archive w).2) ∧
    ((o.openSummary w.around).1 = .ok () → (decompileArchive o archive w).2.crash = none → ∃ more,
      (decompileArchive o archive w).2.trace = w.trace ++ .summaryOpened :: more ++ [.summaryClosed] ∧
      ∀ e ∈ more, e.isBracket = false) ∧
    (∀ cause, (decompileArchive o archive w).2.crash = some cause → w.crash = none →
      (∃ earlier, Fell o archive w cause earlier (decompileArchive o archive w).2) ∧ ∃ more,
        (decompileArchive o archive w).2.trace = w.trace ++ .summaryOpened :: more ∧ ∀ e ∈ more, e.isBracket = false) := by
  rcases ho : o.openSummary w.around with ⟨r, around⟩
  cases r with
  | error cause =>
    rw [decompileArchive_refused ho]
    refine ⟨fun report h => (by cases h), fun e h _ => ?_, fun h => (by cases h), fun cause h hw => ?_⟩
    · cases h
      exact .unopened cause (by rw [ho]) rfl ⟨rfl, rfl, rfl⟩
    · cases hw.symm.trans h
  | ok a =>
    rw [decompileArchive_opening (by rw [ho])]
    have hi := inside_dumpCollection (opening o w) o archive _ (.refl _)
    rcases hd : dumpCollection o archive (opening o w) with ⟨r, v⟩
    rw [hd] at hi
    dsimp only
    rw [closeBatch_crash]
    refine ⟨fun report h => ?_, fun e h hv => ?_, fun _ hv => ?_, fun cause hv hw => ?_⟩
    · cases h
      obtain ⟨outcomes, rfl, hl, hr, ht⟩ := dumpCollection_ok hd
      refine ⟨rfl, completed_of_turns hl ht, ?_, fun hw => ht.alive ((enlist_crash hl.choose_spec o).trans hw)⟩
      rw [closeBatch_records, ht.records, hr]
      rfl
    · cases h
      rcases dumpCollection_error hd with ⟨cause, hl, he, -⟩ | ⟨before, t, later, outcomes, u, hc, ht, hf⟩
      · exact .unread cause hl he
      · have hfatal := (dumpMember_account o archive t u).2 e (congrArg Prod.fst hf)
        rw [hf, hv] at hfatal
        exact .fatal before later t outcomes u v hc ht hf (hfatal.resolve_right nofun) rfl
    · obtain ⟨more, ht, hm⟩ := closeBatch_closes (opening o w) o archive r hi hv
      exact ⟨more, by simpa [opening] using ht, hm⟩
    · obtain ⟨more, ht, hm⟩ := inside_of_outputs (outputs_release · o) _ v hi
      have hend : (closeBatch o archive r v).2 = (release o v).2 := closeBatch_crashed o archive r (by rw [hv]; rfl)
      rw [hend]
      refine ⟨?_, more, by simpa [opening] using ht, hm⟩
      cases r with
      | ok report =>
        obtain ⟨outcomes, -, hl, -, hturns⟩ := dumpCollection_ok hd
        have hnone : v.crash = none := hturns.alive ((enlist_crash hl.choose_spec o).trans hw)
        rw [hv] at hnone
        cases hnone
      | error e =>
        rcases dumpCollection_error hd with ⟨e', hl, -, rfl, hc⟩ | ⟨before, t, later, outcomes, u, hc, hturns, hf⟩
        · rw [hv] at hc
          have hopen : (opening o w).crash = none := hw
          have hcause : e'.crash? = some cause := by simpa [hopen] using hc.symm
          obtain ⟨rfl, a, ha, hsize⟩ := Cache.loadArchive_failed (Prod.ext hl rfl) hcause
          exact ⟨[], .loading ha hsize rfl⟩
        · obtain ⟨types, hread⟩ := loaded_of_candidate (hc ▸ List.mem_append_cons_self : t ∈ _)
          have hread := enlist_crash hread o
          obtain ⟨hquiet, hcomes⟩ := dumpMember_crashed hf (hturns.alive (hread.trans hw)) hv
          exact ⟨outcomes, .candidate hc hturns hquiet hcomes⟩

end World

end ClassSkeleton
