import ClassSkeleton.Output.Stream
import ClassSkeleton.Proofs.BatchAccounts

/-
  ClassSkeleton.Proofs.RunAccounts — the accounts of a whole run.

  A path is worth some calls (`jobs`): a batch for an archive, class files otherwise. What a call comes to is a
  deed, and a run is its deeds one after another, up to the first fatal one (`Ran`). A deed has the records it
  leaves: those of the candidates of a batch, all recoverable, and then its own, if it failed. Along a run the
  records add up, and since a run does not go on after a fatal deed, only the last record can be fatal
  (`Accounted`). What the trace has behind that record is the end of a summary (`run_accounts`).

  A batch breaks in four ways (`Broke`): its summary is refused, its archive cannot be read, a candidate is
  refused its sink, or the note of a candidate's failure is. In the last case that failure has a record too,
  although the batch has no outcome for it. A call at which the program crashes comes to nothing, and nothing
  follows it; it may have left records of candidates.
-/

namespace ClassSkeleton

/-- The record an event keeps. -/
def Event.record? : Event → Option ExceptionRecord
  | exception r => some r
  | _ => none

/-- Said at the end of a summary. -/
def Event.isFarewell : Event → Bool
  | notice _ | summaryClosed => true
  | _ => false

/-- What a class file or an archive comes to. A broken batch has the outcomes of the candidates before it broke, and
the failure of the candidate whose note was refused a sink, if that broke it. What is lost is what the program crashed
at, with the outcomes of the candidates before, if it is an archive. -/
inductive Deed where
  | unit (outcome : UnitOutcome)
  | batch (report : BatchReport)
  | broken (archive : Path) (earlier : List UnitOutcome) (noticed : Option (TypeName × DecompileError))
      (cause : DecompileError)
  | lost (path : Path) (earlier : List UnitOutcome)

namespace Deed

def unit? : Deed → Option UnitOutcome
  | unit outcome => some outcome
  | _ => none

def batch? : Deed → Option BatchReport
  | batch report => some report
  | _ => none

def isFatal : Deed → Bool
  | unit outcome => outcome.isFatal
  | batch _ => false
  | broken _ _ _ cause => cause.isFatal
  | lost .. => false

def isLost : Deed → Bool
  | lost .. => true
  | _ => false

/-- Whether the run ends with it. -/
def isLast (d : Deed) : Bool := d.isFatal || d.isLost

/-- The record of a candidate that failed. -/
def memberRecord (archive : Path) (t : TypeName) (e : DecompileError) : ExceptionRecord :=
  ⟨archive, some (World.memberContext t), e.kind, e.describe⟩

/-- The records of the candidates. -/
def memberRecords : Deed → List ExceptionRecord
  | unit _ => []
  | batch report => report.units.filterMap (UnitOutcome.record? report.archive)
  | broken archive earlier noticed _ =>
    earlier.filterMap (UnitOutcome.record? archive) ++ noticed.toList.map fun (t, e) => memberRecord archive t e
  | lost path earlier => earlier.filterMap (UnitOutcome.record? path)

/-- The record of a class file or an archive that failed. -/
def ownRecord? : Deed → Option ExceptionRecord
  | unit (.failed path kind message) => some ⟨path, none, kind, message⟩
  | unit _ | batch _ | lost .. => none
  | broken archive _ _ cause => some ⟨archive, some archiveContext, cause.kind, cause.describe⟩

def records (d : Deed) : List ExceptionRecord := d.memberRecords ++ d.ownRecord?.toList

theorem isFatal_eq (d : Deed) : d.isFatal = d.ownRecord?.any (·.kind == .fatal) := by
  cases d with
  | unit outcome =>
    cases outcome with
    | failed path kind message => cases kind <;> rfl
    | _ => rfl
  | batch report => rfl
  | broken archive earlier noticed cause => rfl
  | lost path earlier => rfl

theorem any_isLast (ds : List Deed) : ds.any isLast = true ↔ ds.any isFatal = true ∨ ds.any isLost = true := by
  simp only [List.any_eq_true, isLast, Bool.or_eq_true, ← exists_or, ← and_or_left]

theorem calm_of_any_isLast {ds : List Deed} (h : ds.any isLast = false) :
    ds.any isFatal = false ∧ ds.any isLost = false := by
  constructor <;> refine Bool.eq_false_iff.2 fun hd => Bool.eq_false_iff.1 h ((any_isLast ds).2 ?_)
  · exact .inl hd
  · exact .inr hd

end Deed

/-! ## Records of which only the last may be fatal -/

/-- Only the last record may be fatal, and `fatal` says whether it is. -/
structure Orderly (records : List ExceptionRecord) (fatal : Bool) : Prop where
  earlier : ∀ r ∈ records.dropLast, r.kind ≠ .fatal
  fatal : fatal = true ↔ ∃ r ∈ records, r.kind = .fatal

namespace Orderly

variable {a b : List ExceptionRecord} {fatal : Bool}

theorem of_calm (h : ∀ r ∈ a, r.kind ≠ .fatal) : Orderly a false := by
  refine ⟨fun r hr => h r (List.dropLast_subset a hr), fun hf => (nomatch hf), ?_⟩
  rintro ⟨r, hr, hf⟩
  exact absurd hf (h r hr)

theorem calm (h : Orderly a false) (r : ExceptionRecord) (hr : r ∈ a) : r.kind ≠ .fatal := by
  intro hf
  have := h.fatal.2 ⟨r, hr, hf⟩
  cases this

theorem single (r : ExceptionRecord) : Orderly [r] (r.kind == .fatal) :=
  ⟨fun _ h => (by cases h), by simp⟩

/-- Calm records, and then others. -/
theorem append (ha : Orderly a false) (hb : Orderly b fatal) : Orderly (a ++ b) fatal := by
  refine ⟨fun r hr => ?_, hb.fatal.trans ⟨?_, ?_⟩⟩
  · rw [List.dropLast_append] at hr
    split at hr
    · exact ha.earlier r hr
    · exact (List.mem_append.1 hr).elim (ha.calm r) (hb.earlier r)
  · rintro ⟨r, hr, hf⟩
    exact ⟨r, List.mem_append_right a hr, hf⟩
  · rintro ⟨r, hr, hf⟩
    rcases List.mem_append.1 hr with hr | hr
    · exact absurd hf (ha.calm r hr)
    · exact ⟨r, hr, hf⟩

end Orderly

theorem Deed.orderly {d : Deed} (h : ∀ r ∈ d.memberRecords, r.kind = .recoverable) : Orderly d.records d.isFatal := by
  have hmembers : Orderly d.memberRecords false := .of_calm fun r hr => by rw [h r hr]; decide
  refine hmembers.append ?_
  rw [Deed.isFatal_eq]
  cases d.ownRecord? with
  | none => exact .of_calm fun _ h => by cases h
  | some r => exact .single r

/-- Where only the last record may be fatal, no event of a failure stands behind that of a fatal one. -/
theorem Event.after_fatal {front tail before after : List Event} {last r : ExceptionRecord}
    (ht : before ++ exception r :: after = front ++ exception last :: tail) (htail : ∀ e ∈ tail, e.isFarewell = true)
    (ho : ∀ x ∈ ((before ++ exception r :: after).filterMap record?).dropLast, x.kind ≠ .fatal) (hr : r.kind = .fatal) :
    after = tail := by
  rcases List.append_eq_append_iff.1 ht with ⟨between, -, hb⟩ | ⟨between, -, hb⟩
  · cases between with
    | nil => exact (List.cons.inj hb).2
    | cons e between =>
      rw [List.cons_append] at hb
      obtain ⟨-, rfl⟩ := List.cons.inj hb
      -- the record of `last` stands behind that of `r`
      have hne : (between ++ exception last :: tail).filterMap record? ≠ [] := by simp [record?]
      refine absurd hr (ho r ?_)
      rw [List.filterMap_append, List.filterMap_cons_some (f := record?) (b := r) rfl,
        List.dropLast_append_of_ne_nil (List.cons_ne_nil _ _), List.dropLast_cons_of_ne_nil hne]
      exact List.mem_append_right _ (List.mem_cons_self ..)
  · cases between with
    | nil => exact (List.cons.inj hb).2.symm
    | cons e between =>
      obtain ⟨-, rfl⟩ := List.cons.inj hb
      have hr := htail (exception r) (List.mem_append_right _ (List.mem_cons_self ..))
      cases hr

namespace World

variable {σ : Type} {o : Outlet σ} {u v w : World σ} {archive : Path} {t : TypeName}

/-! ## Work without a failure noted -/

/-- `w` comes from `v` without a failure being noted. -/
structure Unnoted (v w : World σ) : Prop where
  records : w.records = v.records
  trace : Grows (·.record? = none) v w

theorem Unnoted.refl (w : World σ) : Unnoted w w := ⟨rfl, .refl w⟩

theorem Unnoted.trans (h : Unnoted u v) (h' : Unnoted v w) : Unnoted u w :=
  ⟨h'.records.trans h.records, h.trace.trans h'.trace⟩

theorem Unnoted.session (h : Unnoted v w) (s : Session) : Unnoted v (w.withSession s) := ⟨h.records, h.trace⟩

theorem Unnoted.event {e : Event} (h : Unnoted v w) (he : e.record? = none) (hr : u.records = w.records)
    (ht : u.trace = w.trace ++ [e]) : Unnoted v u := ⟨hr.trans h.records, h.trace.event he ht⟩

theorem Outputs.unnoted (h : Outputs v w) : Unnoted v w := by
  obtain ⟨more, ht, hm⟩ := h.trace
  refine ⟨h.records, more, ht, fun e he => ?_⟩
  have ho := hm e he
  cases e with
  | exception r => cases ho
  | _ => rfl

theorem unnoted_announced (w : World σ) (t : TypeName) : Unnoted w (announced w t) := by
  unfold announced
  split
  · exact .refl w
  · exact (Unnoted.refl w).event (e := .progressType t) rfl rfl rfl

theorem Outputs.dumpedBy {r : Except DecompileError String × World σ} (h : Outputs w r.2) (t : TypeName)
    (g : Session → Session) : Unnoted w (World.dumpedBy t g r).2 := by
  rcases r with ⟨r, v⟩
  cases r with
  | error e => exact h.unnoted
  | ok digest => exact h.unnoted.session _

theorem dumpMemberInto_unnoted (o : Outlet σ) (t : TypeName) (w : World σ) : Unnoted w (dumpMemberInto o t w).2 := by
  rw [dumpMemberInto_apply]
  have ha := unnoted_announced w t
  rcases w.session.prepare w.around.files t with ⟨p, s⟩
  cases p with
  | unfound e => exact (Unnoted.refl w).session s
  | nested => exact (Unnoted.refl w).session s
  | unbuilt e => exact ha.session s
  | built id m =>
    refine (ha.session s).trans ?_
    dsimp only
    rw [emitMember_apply]
    exact Outputs.dumpedBy (outputs_emitText _ o true t _ _ _ _ (.refl _)) t _

theorem dumpOne_unnoted (o : Outlet σ) (path : Path) (skipIfInner : Bool) (w : World σ) :
    Unnoted w (dumpOne o path skipIfInner w).2 := by
  rw [dumpOne_apply]
  have ha (t : TypeName) : Unnoted w (log (.progressType t) w).2 :=
    (Unnoted.refl w).event (e := .progressType t) rfl rfl rfl
  rcases w.session.prepareUnit w.around.files path skipIfInner with ⟨p, s⟩
  cases p with
  | failed said e =>
    cases said with
    | none => exact (Unnoted.refl w).session s
    | some t => exact (ha t).session s
  | nested t => exact (Unnoted.refl w).session s
  | built t id m methods =>
    refine ((ha t).session s).trans ?_
    dsimp only
    rw [emitUnit_apply]
    exact Outputs.dumpedBy (outputs_emitText _ o false t _ _ _ _ (.refl _)) t _

theorem unnoted_headed (o : Outlet σ) (archive : Path) (w : World σ) : Unnoted w (headed o archive w) := by
  have hopened : Unnoted w (opening o w) := (Unnoted.refl w).event (e := .summaryOpened) rfl rfl rfl
  have hfirst := outputs_notice _ o ("Summary for " ++ archive.text) (opening o w) (.refl _)
  have hsecond := outputs_notice _ o ("Decompiled with " ++ versionLine) _ hfirst
  exact (hopened.trans hsecond.unnoted).event (e := .progressPath archive) rfl rfl rfl

theorem enlist_unnoted (o : Outlet σ) (archive : Path) (w : World σ) : Unnoted w (enlist o archive w).2 := by
  rcases hl : Cache.loadArchive w.around.files archive w.session.cache with ⟨r, c⟩
  cases r with
  | error e =>
    rw [enlist_unread hl]
    exact (Unnoted.refl w).session _
  | ok types =>
    rw [enlist_read hl]
    have hloaded : Unnoted w (w.withSession { w.session with cache := c }) := (Unnoted.refl w).session _
    exact (hloaded.trans (keeps_notices (outputs_notice _ o) _ _ (.refl _)).unnoted).session _

/-- The trace has the failures that the records have. -/
def Mirrors (w : World σ) : Prop := w.trace.filterMap Event.record? = w.records

theorem Unnoted.mirrors (h : Unnoted v w) (hv : Mirrors v) : Mirrors w := by
  obtain ⟨more, ht, hm⟩ := h.trace
  rw [Mirrors, ht, List.filterMap_append, List.filterMap_eq_nil_iff.2 hm, List.append_nil, h.records]
  exact hv

theorem mirrors_noteException (path : Path) (context : Option String) (e : DecompileError) :
    Keeps Mirrors (noteException (σ := σ) path context e) := by
  intro w h
  show (w.trace ++ [_]).filterMap Event.record? = w.records ++ [_]
  rw [List.filterMap_append, h]
  rfl

/-! ## Candidates -/

theorem emitText_error {summary : Bool} {usage : Usage} {policy : IdentifierPolicy} {pieces : List String}
    {e : DecompileError} (h : (emitText o summary t usage policy pieces w).1 = .error e) :
    e.kind = .recoverable ∨ e.isFatal = true := by
  rw [emitText, attempt_bind] at h
  have hf := acquire_error o summary t usage policy w
  rcases ha : acquire o summary t usage policy w with ⟨r, v⟩
  rw [ha] at h hf
  cases r with
  | error e' =>
    cases h
    exact .inr (hf e rfl)
  | ok a =>
    dsimp only at h
    rw [writeAll_apply] at h
    rcases hp : printAll o pieces v with ⟨r, x⟩
    rw [hp] at h
    cases r with
    | error e' =>
      cases h
      exact .inl rfl
    | ok a =>
      dsimp only at h
      rcases hr : release o x with ⟨r, y⟩
      rw [hr] at h
      cases r <;> cases h
      exact .inl rfl

theorem dumpMemberInto_kind {e : DecompileError} (h : dumpMemberInto o t w = (.error e, v)) :
    e.kind = .recoverable ∨ e.isFatal = true := by
  rw [dumpMemberInto_apply] at h
  rcases hp : w.session.prepare w.around.files t with ⟨p, s⟩
  rw [hp] at h
  cases p with
  | unfound e => cases h; exact .inl rfl
  | nested => cases h
  | unbuilt e => cases h; exact .inl rfl
  | built id m =>
    dsimp only at h
    rw [emitMember_apply] at h
    rcases he : emitText o true t (Usage.collect m) _ _ ((announced w t).withSession s) with ⟨r, x⟩
    rw [he] at h
    cases r <;> cases h
    exact emitText_error (congrArg Prod.fst he)

/-- A candidate whose turn does not end the batch leaves a recoverable record at most. -/
theorem dumpMember_recoverable {outcome : UnitOutcome} (h : dumpMember o archive t w = (.ok outcome, v))
    {r : ExceptionRecord} (hr : outcome.record? archive = some r) : r.kind = .recoverable := by
  rw [dumpMember_apply] at h
  rcases hd : dumpMemberInto o t w with ⟨result, x⟩
  rw [hd] at h
  cases result with
  | ok outcome' =>
    cases h
    rcases dumpMemberInto_ok hd with ⟨rfl, -⟩ | ⟨⟨digest, rfl⟩, -⟩ <;> cases hr
  | error e =>
    dsimp only at h
    rcases dumpMemberInto_kind hd with hk | hf
    · split at h
      · cases h
      · split at h <;> cases h
        cases hr
        exact hk
    · rw [if_pos (by rw [hf]; rfl)] at h
      cases h

theorem Turns.recoverable {ts : List TypeName} {outcomes : List UnitOutcome} (h : Turns o archive ts w outcomes v) :
    ∀ r ∈ outcomes.filterMap (UnitOutcome.record? archive), r.kind = .recoverable := by
  intro r hr
  induction h with
  | none => cases hr
  | next turn rest ih =>
    obtain ⟨outcome, ho, hrecord⟩ := List.mem_filterMap.1 hr
    rcases List.mem_cons.1 ho with rfl | ho
    · exact dumpMember_recoverable turn hrecord
    · exact ih (List.mem_filterMap.2 ⟨outcome, ho, hrecord⟩)

theorem mirrors_dumpMember (o : Outlet σ) (archive : Path) (t : TypeName) : Keeps Mirrors (dumpMember o archive t) := by
  intro w h
  rw [dumpMember_apply]
  have hu := (dumpMemberInto_unnoted o t w).mirrors h
  rcases hd : dumpMemberInto o t w with ⟨r, x⟩
  rw [hd] at hu
  cases r with
  | ok outcome => exact hu
  | error e =>
    dsimp only
    split
    · exact hu
    · have hn := (outputs_writeNote _ o t e.describe _ (.refl _)).unnoted.mirrors
        (mirrors_noteException archive (some (memberContext t)) e x hu)
      rcases hw : writeNote o t e.describe _ with ⟨r, y⟩
      rw [hw] at hn
      cases r <;> exact hn

/-! ## A batch that breaks -/

/-- The world with the summary refused. -/
def unopened (o : Outlet σ) (w : World σ) : World σ :=
  { w with around := (o.openSummary w.around).2, trace := w.trace ++ [.summaryRefused] }

/-- How a batch broke, from `w` on: what the candidates before came to, the failure whose note was refused a sink, if
it is that, the cause, and the world that is left. -/
inductive Broke (o : Outlet σ) (archive : Path) (w : World σ) :
    List UnitOutcome → Option (TypeName × DecompileError) → DecompileError → World σ → Prop where
  | summary {cause : SinkError} (refused : (o.openSummary w.around).1 = .error cause) :
      Broke o archive w [] none (.cannotCreateSink cause)
        (noteException archive (some archiveContext) (.cannotCreateSink cause) (unopened o w)).2
  | unread {cause : LoadError} (opened : (o.openSummary w.around).1 = .ok ())
      (failed : (Cache.loadArchive (headed o archive w).around.files archive
        (headed o archive w).session.cache).1 = .error cause) :
      Broke o archive w [] none (.load cause)
        (closeBatch o archive (.error (.load cause)) (enlist o archive (headed o archive w)).2).2
  | refused {before later : List TypeName} {t : TypeName} {earlier : List UnitOutcome} {u x : World σ}
      {cause : DecompileError} (opened : (o.openSummary w.around).1 = .ok ())
      (candidates : (headed o archive w).candidates archive = before ++ t :: later)
      (turns : Turns o archive before (enlist o archive (headed o archive w)).2 earlier u)
      (failing : dumpMemberInto o t u = (.error cause, x)) (fatal : cause.isFatal = true) :
      Broke o archive w earlier none cause (closeBatch o archive (.error cause) x).2
  | unnoted {before later : List TypeName} {t : TypeName} {earlier : List UnitOutcome} {u x y : World σ}
      {e cause : DecompileError} (opened : (o.openSummary w.around).1 = .ok ())
      (candidates : (headed o archive w).candidates archive = before ++ t :: later)
      (turns : Turns o archive before (enlist o archive (headed o archive w)).2 earlier u)
      (failing : dumpMemberInto o t u = (.error e, x)) (harmless : e.kind = .recoverable)
      (note : writeNote o t e.describe (noteException archive (some (memberContext t)) e x).2 = (.error cause, y))
      (fatal : cause.isFatal = true) :
      Broke o archive w earlier (some (t, e)) cause (closeBatch o archive (.error cause) y).2

/-- A candidate ends the batch when its own sink is refused, or that of the note of its failure, and the program does
not crash. -/
theorem dumpMember_error {cause : DecompileError} (h : dumpMember o archive t w = (.error cause, v))
    (hv : v.crash = none) :
    cause.isFatal = true ∧
      (dumpMemberInto o t w = (.error cause, v) ∨
        ∃ e x, dumpMemberInto o t w = (.error e, x) ∧ e.kind = .recoverable ∧
          writeNote o t e.describe (noteException archive (some (memberContext t)) e x).2 = (.error cause, v)) := by
  have hfatal := (dumpMember_account o archive t w).2 cause (congrArg Prod.fst h)
  rw [h, hv] at hfatal
  refine ⟨hfatal.resolve_right nofun, ?_⟩
  rw [dumpMember_apply] at h
  rcases hd : dumpMemberInto o t w with ⟨r, x⟩
  rw [hd] at h
  cases r with
  | ok outcome => cases h
  | error e =>
    dsimp only at h
    by_cases hends : (e.isFatal || x.crash.isSome) = true
    · rw [if_pos hends] at h
      cases h
      exact .inl rfl
    · rw [if_neg hends] at h
      have hf := (not_or.1 (Bool.or_eq_true _ _ ▸ hends)).1
      rcases hn : writeNote o t e.describe (noteException archive (some (memberContext t)) e x).2 with ⟨r, y⟩
      rw [hn] at h
      cases r <;> cases h
      exact .inr ⟨e, x, rfl, (dumpMemberInto_kind hd).resolve_right hf, hn⟩

/-- A batch that fails broke in one of these ways, if the program did not crash. -/
theorem decompileArchive_broke {cause : DecompileError} (h : decompileArchive o archive w = (.error cause, v))
    (hv : v.crash = none) : ∃ earlier noticed, Broke o archive w earlier noticed cause v := by
  rcases ho : o.openSummary w.around with ⟨r, around⟩
  cases r with
  | error e =>
    have hb : Broke o archive w [] none (.cannotCreateSink e) _ := .summary (by rw [ho])
    rw [decompileArchive_refused ho] at h
    cases h
    rw [unopened, ho] at hb
    exact ⟨[], none, hb⟩
  | ok a =>
    have hopened : (o.openSummary w.around).1 = .ok () := by rw [ho]
    rw [decompileArchive_opening hopened] at h
    rcases hd : dumpCollection o archive (opening o w) with ⟨r, x⟩
    rw [hd] at h
    cases h
    rw [closeBatch_crash] at hv
    rw [dumpCollection_apply, show (headBatch o archive (opening o w)).2 = headed o archive w from rfl] at hd
    rcases he : enlist o archive (headed o archive w) with ⟨r, y⟩
    have hy : y = (enlist o archive (headed o archive w)).2 := by rw [he]
    rw [he] at hd
    cases r with
    | error e =>
      cases hd
      obtain ⟨cause, hfailed, rfl, -⟩ := enlist_error he
      rw [hy]
      exact ⟨[], none, .unread hopened hfailed⟩
    | ok ts =>
      obtain ⟨-, rfl, -⟩ := enlist_ok he
      dsimp only at hd
      rcases hm : dumpMembers o archive ((headed o archive w).candidates archive) y with ⟨r, z⟩
      rw [hm] at hd
      cases r <;> cases hd
      obtain ⟨before, t, later, earlier, u, hc, hturns, hlast⟩ := dumpMembers_error hm
      rw [hy] at hturns
      obtain ⟨hf, hd | ⟨e, x', hd, hk, hn⟩⟩ := dumpMember_error hlast hv
      · exact ⟨earlier, none, .refused hopened hc hturns hd hf⟩
      · exact ⟨earlier, some (t, e), .unnoted hopened hc hturns hd hk hn hf⟩

theorem closeBatch_error (o : Outlet σ) (archive : Path) (cause : DecompileError) {w : World σ} (hw : w.crash = none) :
    (closeBatch o archive (.error cause) w).2.records =
        w.records ++ [⟨archive, some archiveContext, cause.kind, cause.describe⟩] ∧
      (closeBatch o archive (.error cause) w).2.trace = (release o w).2.trace ++
        [.exception ⟨archive, some archiveContext, cause.kind, cause.describe⟩,
          .notice (archiveContext ++ " " ++ cause.describe), .summaryClosed] := by
  have hr := (outputs_release w o w (.refl w)).records
  rw [closeBatch_apply, hw]
  refine ⟨congrArg (· ++ [_]) hr, ?_⟩
  show (release o w).2.trace ++ [_] ++ [_] ++ [_] = _
  simp only [List.append_assoc, List.cons_append, List.nil_append]

namespace Broke

variable {earlier : List UnitOutcome} {noticed : Option (TypeName × DecompileError)} {cause : DecompileError}

theorem recoverable (h : Broke o archive w earlier noticed cause v) :
    ∀ r ∈ (Deed.broken archive earlier noticed cause).memberRecords, r.kind = .recoverable := by
  intro r hr
  rcases List.mem_append.1 hr with hearlier | hnoticed
  · cases h with
    | summary | unread => cases hearlier
    | refused _ _ turns => exact turns.recoverable r hearlier
    | unnoted _ _ turns => exact turns.recoverable r hearlier
  · cases h with
    | summary | unread | refused => cases hnoticed
    | unnoted _ _ _ _ harmless =>
      cases List.mem_singleton.1 hnoticed
      exact harmless

theorem records (h : Broke o archive w earlier noticed cause v) (hv : v.crash = none) :
    v.records = w.records ++ (Deed.broken archive earlier noticed cause).records := by
  have hr := (enlist_unnoted o archive (headed o archive w)).records.trans (unnoted_headed o archive w).records
  have hclose {x : World σ} (hx : v = (closeBatch o archive (.error cause) x).2) :
      v.records = x.records ++ [⟨archive, some archiveContext, cause.kind, cause.describe⟩] := by
    subst hx
    rw [closeBatch_crash] at hv
    exact (closeBatch_error o archive cause hv).1
  cases h with
  | summary refused => rfl
  | unread opened failed =>
    rw [hclose rfl, hr]
    rfl
  | @refused before later t _ u x _ opened candidates turns failing fatal =>
    have hx := (dumpMemberInto_unnoted o t u).records
    rw [failing] at hx
    rw [hclose rfl, hx, turns.records, hr]
    simp [Deed.records, Deed.memberRecords, Deed.ownRecord?]
  | @unnoted before later t _ u x y e _ opened candidates turns failing harmless note fatal =>
    have hx := (dumpMemberInto_unnoted o t u).records
    have hy := outputs_writeNote _ o t e.describe (noteException archive (some (memberContext t)) e x).2 (.refl _)
    rw [failing] at hx
    rw [note, noteException_apply] at hy
    rw [hclose rfl, hy.records, hx, turns.records, hr]
    simp [Deed.records, Deed.memberRecords, Deed.ownRecord?, Deed.memberRecord]

/-- The record of the archive is followed by the last notice of the summary and its closing, if it was opened. -/
theorem last (h : Broke o archive w earlier noticed cause v) (hv : v.crash = none) : ∃ front tail,
    v.trace = front ++ .exception ⟨archive, some archiveContext, cause.kind, cause.describe⟩ :: tail ∧
      ∀ e ∈ tail, e.isFarewell = true := by
  have hclosed {x : World σ} (hx : v = (closeBatch o archive (.error cause) x).2) : ∃ front tail, v.trace =
      front ++ .exception ⟨archive, some archiveContext, cause.kind, cause.describe⟩ :: tail ∧
        ∀ e ∈ tail, e.isFarewell = true := by
    subst hx
    rw [closeBatch_crash] at hv
    refine ⟨_, _, (closeBatch_error o archive cause hv).2, fun e he => ?_⟩
    rcases List.mem_cons.1 he with rfl | he
    · rfl
    · rw [List.mem_singleton.1 he]
      rfl
  cases h with
  | summary refused => exact ⟨(unopened o w).trace, [], rfl, fun _ h => by cases h⟩
  | unread opened failed => exact hclosed rfl
  | refused => exact hclosed rfl
  | unnoted => exact hclosed rfl

end Broke

/-- A batch that the program crashed in leaves the records of the candidates before. -/
theorem Fell.records {cause : Crash} {earlier : List UnitOutcome} (h : Fell o archive w cause earlier v) :
    v.records = w.records ++ earlier.filterMap (UnitOutcome.record? archive) := by
  have hr := (enlist_unnoted o archive (headed o archive w)).records.trans (unnoted_headed o archive w).records
  have hrelease (x : World σ) := (outputs_release x o x (.refl x)).records
  cases h with
  | loading => rw [hrelease, hr, List.filterMap_nil, List.append_nil]
  | @candidate before later t _ u u' candidates turns turn comes =>
    have hu : u'.records = u.records := by
      rcases turn with hu | hu <;> rw [hu]
      · rfl
      · exact (unnoted_announced u t).records
    rw [hrelease, hu, turns.records, hr]

theorem Fell.recoverable {cause : Crash} {earlier : List UnitOutcome} (h : Fell o archive w cause earlier v) :
    ∀ r ∈ earlier.filterMap (UnitOutcome.record? archive), r.kind = .recoverable := by
  cases h with
  | loading => exact fun _ hr => nomatch hr
  | candidate candidates turns => exact turns.recoverable

/-! ## The records are in the trace -/

theorem mirrors_notice (o : Outlet σ) (text : String) : Keeps Mirrors (notice o text) :=
  fun w h => (outputs_notice w o text w (.refl w)).unnoted.mirrors h

theorem mirrors_dumpMembers (o : Outlet σ) (archive : Path) (ts : List TypeName) :
    Keeps Mirrors (dumpMembers o archive ts) := by
  induction ts with
  | nil => exact .pure _
  | cons t ts ih => exact .try_bind (mirrors_dumpMember o archive t) fun _ => .try_bind ih fun _ => .pure _

theorem mirrors_closeBatch (o : Outlet σ) (archive : Path) (r : Except DecompileError BatchReport) :
    Keeps Mirrors (closeBatch o archive r) := by
  refine keeps_closeBatch (fun w h => (outputs_release w o w (.refl w)).unnoted.mirrors h) (mirrors_notice o)
    (fun e => mirrors_noteException archive _ e) (fun w h => ?_) r
  refine Unnoted.mirrors (v := w) ?_ h
  exact (Unnoted.refl w).event (e := .summaryClosed) rfl rfl rfl

theorem mirrors_decompileArchive (o : Outlet σ) (archive : Path) : Keeps Mirrors (decompileArchive o archive) := by
  intro w h
  rcases ho : o.openSummary w.around with ⟨r, around⟩
  cases r with
  | error e =>
    rw [decompileArchive_refused ho]
    have hrefused : Unnoted w { w with around := around, trace := w.trace ++ [.summaryRefused] } :=
      (Unnoted.refl w).event (e := .summaryRefused) rfl rfl rfl
    exact mirrors_noteException archive _ _ _ (hrefused.mirrors h)
  | ok a =>
    rw [decompileArchive_opening (by rw [ho]), dumpCollection_apply]
    have he := (enlist_unnoted o archive _).mirrors ((unnoted_headed o archive w).mirrors h)
    rw [show (headBatch o archive (opening o w)).2 = headed o archive w from rfl]
    rcases henlist : enlist o archive (headed o archive w) with ⟨r, v⟩
    rw [henlist] at he
    cases r with
    | error e => exact mirrors_closeBatch o archive _ _ he
    | ok ts => exact mirrors_closeBatch o archive _ _ (mirrors_dumpMembers o archive ts v he)

/-! ## Deeds -/

/-- The call came to the deed, from `w` to `v`. -/
inductive Did (o : Outlet σ) : Call → World σ → Deed → World σ → Prop where
  | unit {path : Path} {skipIfInner : Bool} {w v : World σ} {outcome : UnitOutcome}
      (call : decompileUnit o path skipIfInner w = (outcome, v)) (alive : v.crash = none) :
      Did o (.unit path skipIfInner) w (.unit outcome) v
  | batch {archive : Path} {w v : World σ} {report : BatchReport}
      (call : decompileArchive o archive w = (.ok report, v)) (alive : v.crash = none) :
      Did o (.archive archive) w (.batch report) v
  | broken {archive : Path} {w v : World σ} {earlier : List UnitOutcome} {noticed : Option (TypeName × DecompileError)}
      {cause : DecompileError} (call : decompileArchive o archive w = (.error cause, v))
      (how : Broke o archive w earlier noticed cause v) (alive : v.crash = none) :
      Did o (.archive archive) w (.broken archive earlier noticed cause) v
  | lostUnit {path : Path} {skipIfInner : Bool} {w v : World σ} {outcome : UnitOutcome}
      (call : decompileUnit o path skipIfInner w = (outcome, v)) (crashed : v.crash.isSome = true) :
      Did o (.unit path skipIfInner) w (.lost path []) v
  | lostBatch {archive : Path} {w v : World σ} {result : Except DecompileError BatchReport} {earlier : List UnitOutcome}
      {cause : Crash} (call : decompileArchive o archive w = (result, v)) (crashed : v.crash = some cause)
      (how : Fell o archive w cause earlier v) : Did o (.archive archive) w (.lost archive earlier) v

theorem Did.crash {c : Call} {d : Deed} (h : Did o c w d v) : v.crash.isSome = d.isLost := by
  cases h with
  | unit _ alive | batch _ alive | broken _ _ alive => rw [alive]; rfl
  | lostUnit _ crashed => exact crashed
  | lostBatch _ crashed => rw [crashed]; rfl

/-- The accounts of some deeds from `w` to `v`. -/
structure Accounted (w : World σ) (deeds : List Deed) (v : World σ) : Prop where
  records : v.records = w.records ++ deeds.flatMap Deed.records
  members : ∀ d ∈ deeds, ∀ r ∈ d.memberRecords, r.kind = .recoverable
  orderly : Orderly (deeds.flatMap Deed.records) (deeds.any Deed.isFatal)
  mirrors : Mirrors w → Mirrors v
  /-- Behind the last failure there is the end of a summary at most. -/
  last : deeds.any Deed.isFatal = true → ∃ front r tail, v.trace = front ++ .exception r :: tail ∧
    ∀ e ∈ tail, e.isFarewell = true

namespace Accounted

theorem none (w : World σ) : Accounted w [] w :=
  ⟨by simp, fun _ h => (by cases h), .of_calm fun _ h => (by cases h), id, fun h => by cases h⟩

theorem append {ds ds' : List Deed} (h : Accounted w ds v) (hf : ds.any Deed.isFatal = false)
    (h' : Accounted v ds' u) : Accounted w (ds ++ ds') u := by
  have ho := h.orderly
  rw [hf] at ho
  have hany : (ds ++ ds').any Deed.isFatal = ds'.any Deed.isFatal := by rw [List.any_append, hf, Bool.false_or]
  refine ⟨?_, fun d hd => ?_, ?_, fun hw => h'.mirrors (h.mirrors hw), fun hd => h'.last (hany ▸ hd)⟩
  · rw [h'.records, h.records, List.flatMap_append, List.append_assoc]
  · exact (List.mem_append.1 hd).elim (h.members d) (h'.members d)
  · rw [hany, List.flatMap_append]
    exact ho.append h'.orderly

theorem single {d : Deed} (hr : v.records = w.records ++ d.records)
    (hm : ∀ r ∈ d.memberRecords, r.kind = .recoverable) (hs : Mirrors w → Mirrors v)
    (hl : ∀ r, d.ownRecord? = some r → ∃ front tail, v.trace = front ++ .exception r :: tail ∧
      ∀ e ∈ tail, e.isFarewell = true) : Accounted w [d] v := by
  refine ⟨by simpa using hr, by simpa using hm, by simpa using Deed.orderly hm, hs, fun hf => ?_⟩
  have hown : d.ownRecord?.any (·.kind == .fatal) = true := by
    rw [← Deed.isFatal_eq]
    simpa using hf
  rcases ho : d.ownRecord? with _ | r
  · rw [ho] at hown
    cases hown
  · obtain ⟨front, tail, ht, he⟩ := hl r ho
    exact ⟨front, r, tail, ht, he⟩

/-- From a world without records, the trace ends with the first fatal failure and the end of a summary. -/
theorem ended {ds : List Deed} (h : Accounted w ds v) (hw : Mirrors w) (hnone : w.records = [])
    {before after : List Event} {r : ExceptionRecord} (ht : v.trace = before ++ .exception r :: after)
    (hr : r.kind = .fatal) : ∀ e ∈ after, e.isFarewell = true := by
  have hrecords : (before ++ .exception r :: after).filterMap Event.record? = ds.flatMap Deed.records := by
    rw [← ht, h.mirrors hw, h.records, hnone, List.nil_append]
  have hmem : r ∈ ds.flatMap Deed.records := by
    rw [← hrecords]
    exact List.mem_filterMap.2 ⟨.exception r, List.mem_append_right _ (List.mem_cons_self ..), rfl⟩
  obtain ⟨front, last, tail, hlast, htail⟩ := h.last (h.orderly.fatal.2 ⟨r, hmem, hr⟩)
  have hafter : after = tail := Event.after_fatal (ht.symm.trans hlast) htail
    (fun x hx => h.orderly.earlier x (by rwa [hrecords] at hx)) hr
  rw [hafter]
  exact htail

end Accounted

theorem dumpOne_ok {path : Path} {skipIfInner : Bool} {outcome : UnitOutcome}
    (h : dumpOne o path skipIfInner w = (.ok outcome, v)) : (Deed.unit outcome).ownRecord? = none := by
  rw [dumpOne_apply] at h
  rcases hp : w.session.prepareUnit w.around.files path skipIfInner with ⟨p, s⟩
  rw [hp] at h
  cases p with
  | failed said e => cases said <;> cases h
  | nested t => cases h; rfl
  | built t id m methods =>
    dsimp only at h
    rw [emitUnit_apply] at h
    rcases he : emitText o false t (Usage.collect m) _ _ ((log (.progressType t) w).2.withSession s) with ⟨r, x⟩
    rw [he] at h
    cases r <;> cases h
    rfl

theorem decompileUnit_accounted {path : Path} {skipIfInner : Bool} {outcome : UnitOutcome}
    (h : decompileUnit o path skipIfInner w = (outcome, v)) :
    (v.crash = none → Accounted w [.unit outcome] v) ∧ (v.crash.isSome = true → Accounted w [.lost path []] v) := by
  rw [decompileUnit_apply] at h
  have hu := dumpOne_unnoted o path skipIfInner w
  rcases hd : dumpOne o path skipIfInner w with ⟨r, x⟩
  rw [hd] at h hu
  have hrelease := hu.trans (outputs_release x o x (.refl x)).unnoted
  have hlost : Accounted w [.lost path []] (release o x).2 :=
    .single (hrelease.records.trans (List.append_nil _).symm) (fun r hr => by cases hr) hrelease.mirrors
      fun r hr => by cases hr
  cases r with
  | ok result =>
    cases h
    have hown := dumpOne_ok hd
    refine ⟨fun _ => .single ?_ (fun r hr => by cases hr) hrelease.mirrors fun r hr => ?_, fun _ => hlost⟩
    · rw [Deed.records, hown]
      exact hrelease.records.trans (List.append_nil _).symm
    · rw [hown] at hr
      cases hr
  | error e =>
    dsimp only at h
    by_cases hc : x.crash.isSome = true
    · rw [if_pos hc] at h
      cases h
      refine ⟨fun hnone => ?_, fun _ => hlost⟩
      rw [crash_release o x] at hnone
      rw [hnone] at hc
      cases hc
    · rw [if_neg hc] at h
      cases h
      refine ⟨fun _ => .single ?_ (fun r hr => by cases hr)
        (fun hw => mirrors_noteException path none e _ (hrelease.mirrors hw)) fun r hr => ?_, fun hv => ?_⟩
      · exact congrArg (· ++ [_]) hrelease.records
      · cases hr
        exact ⟨(release o x).2.trace, [], rfl, fun _ h => by cases h⟩
      · exact absurd ((congrArg Option.isSome (crash_release o x)).symm.trans hv) hc

theorem decompileArchive_ok_accounted {report : BatchReport} (h : decompileArchive o archive w = (.ok report, v)) :
    Accounted w [.batch report] v := by
  have hm := mirrors_decompileArchive o archive w
  rw [h] at hm
  rcases ho : o.openSummary w.around with ⟨r, around⟩
  cases r with
  | error e =>
    rw [decompileArchive_refused ho] at h
    cases h
  | ok a =>
    rw [decompileArchive_opening (by rw [ho])] at h
    rcases hd : dumpCollection o archive (opening o w) with ⟨r, x⟩
    rw [hd] at h
    cases h
    obtain ⟨outcomes, rfl, -, hr, hturns⟩ := dumpCollection_ok hd
    refine .single ?_ hturns.recoverable hm fun r hr => by cases hr
    rw [closeBatch_records, hturns.records, hr]
    exact congrArg (w.records ++ ·) (List.append_nil _).symm

theorem Did.accounted {c : Call} {d : Deed} (h : Did o c w d v) : Accounted w [d] v := by
  cases h with
  | unit call alive => exact (decompileUnit_accounted call).1 alive
  | batch call => exact decompileArchive_ok_accounted call
  | @broken archive w v earlier noticed cause call how alive =>
    have hm := mirrors_decompileArchive o archive w
    rw [call] at hm
    refine .single (how.records alive) how.recoverable hm fun r hr => ?_
    cases hr
    exact how.last alive
  | lostUnit call crashed => exact (decompileUnit_accounted call).2 crashed
  | @lostBatch archive w v result earlier cause call crashed how =>
    have hm := mirrors_decompileArchive o archive w
    rw [call] at hm
    exact .single (how.records.trans (congrArg (w.records ++ ·) (List.append_nil _).symm)) how.recoverable hm
      fun r hr => by cases hr

/-! ## Paths -/

/-- The calls a path is worth, by the files as they are found. -/
def jobs (skipLoneInner : Bool) (path : Path) (w : World σ) : List Call :=
  if path.isArchive then [.archive path]
  else if w.around.files.isDir path then (w.around.files.scanClassFiles path).map (.unit · true)
  else [.unit path skipLoneInner]

/-- The calls came to the deeds one after another, up to the first that ends the run. -/
inductive Worked (o : Outlet σ) : List Call → World σ → List Deed → World σ → Prop where
  | done {w : World σ} : Worked o [] w [] w
  | next {c : Call} {cs : List Call} {d : Deed} {ds : List Deed} {w v u : World σ} (did : Did o c w d v)
      (harmless : d.isLast = false) (rest : Worked o cs v ds u) : Worked o (c :: cs) w (d :: ds) u
  | stop {c : Call} {cs : List Call} {d : Deed} {w v : World σ} (did : Did o c w d v) (last : d.isLast = true) :
      Worked o (c :: cs) w [d] v

/-- The paths came to the deeds one after another, up to the first path with one that ends the run. -/
inductive Ran (o : Outlet σ) (skipLoneInner : Bool) : List Path → World σ → List Deed → World σ → Prop where
  | done {w : World σ} : Ran o skipLoneInner [] w [] w
  | next {p : Path} {ps : List Path} {ds ds' : List Deed} {w v u : World σ}
      (work : Worked o (jobs skipLoneInner p w) w ds v) (harmless : ds.any Deed.isLast = false)
      (rest : Ran o skipLoneInner ps v ds' u) : Ran o skipLoneInner (p :: ps) w (ds ++ ds') u
  | stop {p : Path} {ps : List Path} {ds : List Deed} {w v : World σ}
      (work : Worked o (jobs skipLoneInner p w) w ds v) (last : ds.any Deed.isLast = true) :
      Ran o skipLoneInner (p :: ps) w ds v

theorem Worked.accounted {cs : List Call} {ds : List Deed} (h : Worked o cs w ds v) : Accounted w ds v := by
  induction h with
  | done => exact .none _
  | @next c cs d ds w v u did harmless rest ih =>
    have hcalm : [d].any Deed.isLast = false := by simpa using harmless
    exact did.accounted.append (Deed.calm_of_any_isLast hcalm).1 ih
  | stop did last => exact did.accounted

theorem Ran.accounted {skipLoneInner : Bool} {ps : List Path} {ds : List Deed} (h : Ran o skipLoneInner ps w ds v) :
    Accounted w ds v := by
  induction h with
  | done => exact .none _
  | next work harmless rest ih => exact work.accounted.append (Deed.calm_of_any_isLast harmless).1 ih
  | stop work last => exact work.accounted

theorem Worked.crash {cs : List Call} {ds : List Deed} (h : Worked o cs w ds v) (hw : w.crash = none) :
    v.crash.isSome = ds.any Deed.isLost := by
  induction h with
  | done => rw [hw]; rfl
  | @next c cs d ds w v u did harmless rest ih =>
    have hcalm : [d].any Deed.isLast = false := by simpa using harmless
    have hd : d.isLost = false := by simpa using (Deed.calm_of_any_isLast hcalm).2
    have hv := did.crash
    rw [hd, Option.isSome_eq_false_iff, Option.isNone_iff_eq_none] at hv
    rw [ih hv, List.any_cons, hd, Bool.false_or]
  | stop did last => rw [did.crash]; simp

theorem Ran.crash {skipLoneInner : Bool} {ps : List Path} {ds : List Deed} (h : Ran o skipLoneInner ps w ds v)
    (hw : w.crash = none) : v.crash.isSome = ds.any Deed.isLost := by
  induction h with
  | done => rw [hw]; rfl
  | next work harmless rest ih =>
    have hd := (Deed.calm_of_any_isLast harmless).2
    have hv := work.crash hw
    rw [hd, Option.isSome_eq_false_iff, Option.isNone_iff_eq_none] at hv
    rw [ih hv, List.any_append, hd, Bool.false_or]
  | stop work last => exact work.crash hw

/-- The report has grown by the deeds. -/
structure Reported (r : RunReport) (ds : List Deed) (r' : RunReport) : Prop where
  units : r'.units = r.units ++ ds.filterMap Deed.unit?
  batches : r'.batches = r.batches ++ ds.filterMap Deed.batch?
  aborted : r'.aborted = ds.any Deed.isLast

theorem Reported.none {r : RunReport} (h : r.aborted = false) : Reported r [] r := ⟨by simp, by simp, h⟩

theorem Reported.append {r r' r'' : RunReport} {ds ds' : List Deed} (h : Reported r ds r')
    (hf : ds.any Deed.isLast = false) (h' : Reported r' ds' r'') : Reported r (ds ++ ds') r'' := by
  refine ⟨?_, ?_, ?_⟩
  · rw [h'.units, h.units, List.filterMap_append, List.append_assoc]
  · rw [h'.batches, h.batches, List.filterMap_append, List.append_assoc]
  · rw [h'.aborted, List.any_append, hf, Bool.false_or]

theorem Reported.lost (r : RunReport) (path : Path) (earlier : List UnitOutcome) :
    Reported r [.lost path earlier] { r with aborted := true } :=
  ⟨(List.append_nil _).symm, (List.append_nil _).symm, rfl⟩

/-- Class files one after another, from a world where the program is running. -/
theorem runFiles_worked (o : Outlet σ) (skipInner : Bool) (ps : List Path) {r : RunReport} (hr : r.aborted = false)
    {w : World σ} (hw : w.crash = none) :
    ∃ ds, Worked o (ps.map (.unit · skipInner)) w ds (runFiles o skipInner ps r w).2 ∧
      Reported r ds (runFiles o skipInner ps r w).1 := by
  induction ps generalizing r w with
  | nil => exact ⟨[], .done, .none hr⟩
  | cons p ps ih =>
    rw [runFiles_cons]
    rcases hd : decompileUnit o p skipInner w with ⟨outcome, v⟩
    dsimp only
    cases hv : v.crash with
    | some cause =>
      rw [if_pos (by rfl)]
      have hsome : v.crash.isSome = true := by rw [hv]; rfl
      exact ⟨[.lost p []], .stop (.lostUnit hd hsome) rfl, .lost r p []⟩
    | none =>
      rw [if_neg (by simp)]
      have hone : Reported r [.unit outcome] { r with units := r.units ++ [outcome], aborted := outcome.isFatal } :=
        ⟨rfl, (List.append_nil _).symm, by simp [Deed.isLast, Deed.isFatal, Deed.isLost]⟩
      have hlast : (Deed.unit outcome).isLast = outcome.isFatal := Bool.or_false _
      by_cases hf : outcome.isFatal = true
      · rw [if_pos hf]
        exact ⟨[.unit outcome], .stop (.unit hd hv) (hlast.trans hf), hone⟩
      · rw [if_neg hf]
        have hf : outcome.isFatal = false := by simpa using hf
        obtain ⟨ds, hwork, hreport⟩ :=
          ih (r := { r with units := r.units ++ [outcome], aborted := outcome.isFatal }) hf hv
        exact ⟨.unit outcome :: ds, .next (.unit hd hv) (hlast.trans hf) hwork,
          hone.append (hone.aborted.symm.trans hf) hreport⟩

theorem runPath_worked (o : Outlet σ) (skipLoneInner : Bool) (p : Path) {r : RunReport} (hr : r.aborted = false)
    {w : World σ} (hw : w.crash = none) :
    ∃ ds, Worked o (jobs skipLoneInner p w) w ds (runPath o skipLoneInner p r w).2 ∧
      Reported r ds (runPath o skipLoneInner p r w).1 := by
  unfold jobs
  by_cases ha : p.isArchive = true
  · rw [runPath_archive ha, if_pos ha]
    rcases hd : decompileArchive o p w with ⟨result, v⟩
    dsimp only
    cases hv : v.crash with
    | some cause =>
      rw [if_pos (by rfl)]
      have hfell := (batch_accounts o p w).2.2.2
      rw [hd] at hfell
      obtain ⟨⟨earlier, hfell⟩, -⟩ := hfell cause hv hw
      exact ⟨[.lost p earlier], .stop (.lostBatch hd hv hfell) rfl, .lost r p earlier⟩
    | none =>
      rw [if_neg (by simp)]
      cases result with
      | ok report =>
        exact ⟨[.batch report], .next (.batch hd hv) rfl .done, (List.append_nil _).symm, rfl, hr⟩
      | error cause =>
        obtain ⟨earlier, noticed, hb⟩ := decompileArchive_broke hd hv
        have hlast : (Deed.broken p earlier noticed cause).isLast = cause.isFatal := Bool.or_false _
        have hreport : Reported r [.broken p earlier noticed cause] { r with aborted := cause.isFatal } :=
          ⟨(List.append_nil _).symm, (List.append_nil _).symm, by simp [hlast]⟩
        cases hf : cause.isFatal with
        | true => exact ⟨_, .stop (.broken hd hb hv) (hlast.trans hf), hreport⟩
        | false => exact ⟨_, .next (.broken hd hb hv) (hlast.trans hf) .done, hreport⟩
  · rw [runPath, if_neg ha, if_neg ha, runFound_apply]
    split
    · exact runFiles_worked o true _ hr hw
    · exact runFiles_worked o skipLoneInner [p] hr hw

theorem runAll_ran (o : Outlet σ) (skipLoneInner : Bool) (ps : List Path) {r : RunReport} (hr : r.aborted = false)
    {w : World σ} (hw : w.crash = none) :
    ∃ ds, Ran o skipLoneInner ps w ds (runAll o skipLoneInner ps r w).2 ∧
      Reported r ds (runAll o skipLoneInner ps r w).1 := by
  induction ps generalizing r w with
  | nil => exact ⟨[], .done, .none hr⟩
  | cons p ps ih =>
    obtain ⟨ds, hwork, hreport⟩ := runPath_worked o skipLoneInner p hr hw
    rw [runAll, act_bind]
    rcases hp : runPath o skipLoneInner p r w with ⟨r', v⟩
    rw [hp] at hwork hreport
    dsimp only
    by_cases hf : r'.aborted = true
    · rw [if_pos hf]
      exact ⟨ds, .stop hwork (hreport.aborted ▸ hf), hreport⟩
    · rw [if_neg hf]
      have hf : r'.aborted = false := by simpa using hf
      have hharmless : ds.any Deed.isLast = false := hreport.aborted ▸ hf
      have hv := hwork.crash hw
      rw [(Deed.calm_of_any_isLast hharmless).2, Option.isSome_eq_false_iff, Option.isNone_iff_eq_none] at hv
      obtain ⟨ds', hran, hreport'⟩ := ih hf hv
      exact ⟨ds ++ ds', .next hwork hharmless hran, hreport.append hharmless hreport'⟩

/-! ## The whole run -/

theorem runPaths_apply (o : Outlet σ) (paths : List Path) (w : World σ) :
    runPaths o paths w =
      let run := runAll o (paths.length > 1) paths .empty w
      ({ run.1 with exceptions := run.2.records }, run.2) := rfl

/-- What a run did, and its report. -/
structure RunAccount (o : Outlet σ) (paths : List Path) (w : World σ) (deeds : List Deed) (report : RunReport)
    (v : World σ) : Prop where
  ran : Ran o (paths.length > 1) paths w deeds v
  units : report.units = deeds.filterMap Deed.unit?
  batches : report.batches = deeds.filterMap Deed.batch?
  exceptions : report.exceptions = deeds.flatMap Deed.records
  members : ∀ d ∈ deeds, ∀ r ∈ d.memberRecords, r.kind = .recoverable
  /-- At most one record is fatal: the last. -/
  last : ∀ r ∈ report.exceptions.dropLast, r.kind ≠ .fatal
  /-- A run stops at a fatal failure; and where the program crashes, which is no end of a run, but of the program. -/
  aborted : report.aborted = true ↔ (∃ r ∈ report.exceptions, r.kind = .fatal) ∨ v.crash.isSome = true
  lost : v.crash.isSome = deeds.any Deed.isLost
  /-- The failures were reported when they were noted. -/
  reported : v.trace.filterMap Event.record? = report.exceptions
  /-- Behind a fatal failure nothing is asked for, printed or announced. -/
  ended : ∀ before r after, v.trace = before ++ .exception r :: after → r.kind = .fatal →
    ∀ e ∈ after, e.isFarewell = true

/-- Every failure of a run is in its report once, in the order of the work, and a fatal one ends the run. -/
theorem run_accounts (o : Outlet σ) {session : Session} (hr : session.cache.crash = none) (files : FileTree) (state : σ)
    (paths : List Path) :
    ∃ deeds, RunAccount o paths (start session files state) deeds (runPaths o paths (start session files state)).1
      (runPaths o paths (start session files state)).2 := by
  obtain ⟨deeds, hran, hreport⟩ :=
    runAll_ran o (paths.length > 1) paths (r := .empty) rfl (w := start session files state) hr
  have hstart : Mirrors (start session files state) := rfl
  rw [runPaths_apply]
  rcases hrun : runAll o (paths.length > 1) paths .empty (start session files state) with ⟨r, v⟩
  rw [hrun] at hran hreport
  have hacc := hran.accounted
  have hlost := hran.crash hr
  have hrecords : v.records = deeds.flatMap Deed.records := hacc.records.trans (List.nil_append _)
  have horderly := hacc.orderly
  have haborted : r.aborted = true ↔ (∃ r ∈ v.records, r.kind = .fatal) ∨ v.crash.isSome = true := by
    rw [hreport.aborted, Deed.any_isLast, horderly.fatal, hrecords, hlost]
  rw [← hrecords] at horderly
  exact ⟨deeds, hran, hreport.units, hreport.batches, hrecords, hacc.members, horderly.earlier, haborted, hlost,
    hacc.mirrors hstart, fun _ _ _ => hacc.ended hstart rfl⟩

/-- Two class files that are missing: both failures are in the report, and neither ends the run. -/
theorem run_accounts_of_missing :
    ∃ deeds report v,
      runPaths Stream.outlet [⟨"A.class"⟩, ⟨"B.class"⟩] (start ⟨.default, .empty, .empty⟩ ⟨[], []⟩ "") = (report, v) ∧
      RunAccount Stream.outlet [⟨"A.class"⟩, ⟨"B.class"⟩] (start ⟨.default, .empty, .empty⟩ ⟨[], []⟩ "") deeds report v ∧
      report.exceptions.map (·.path) = [⟨"A.class"⟩, ⟨"B.class"⟩] ∧ report.aborted = false := by
  have hrunning : (⟨.default, .empty, .empty⟩ : Session).cache.crash = none := rfl
  obtain ⟨deeds, h⟩ := run_accounts Stream.outlet hrunning ⟨[], []⟩ "" [⟨"A.class"⟩, ⟨"B.class"⟩]
  exact ⟨deeds, _, _, rfl, h, by decide +kernel, by decide +kernel⟩

end World

end ClassSkeleton
