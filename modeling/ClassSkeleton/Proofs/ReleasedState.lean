import ClassSkeleton.Output.Memory
import ClassSkeleton.Proofs.BatchAccounts
import ClassSkeleton.Proofs.MethodBodies
import ClassSkeleton.Proofs.PrintedTexts
import ClassSkeleton.Proofs.SessionSteps
import ClassSkeleton.Proofs.SinkDiscipline

/-
  ClassSkeleton.Proofs.ReleasedState — nothing released is ever printed.

  Along a run the session takes steps, and each text that is printed is a note or a piece of the listing of a
  model; the model is that of a type's unit in a session on the way, and shows the unit there (`Onward`). A
  class that is reported as written has the block of its sink in the trace, with the digest of the listing
  (`Documented`). Both are kept by everything that is done for a class, and so by every list of calls.

  What the steps and the models are good for is in the modules before: the units of a session on the way are
  as parsed or released, and what is released stays so; a model shows nothing released, in the whole nest; and
  a method whose payload reaches up to the length of its bytecode is printed with a body.
-/

namespace ClassSkeleton

open Session (Reaches Portrays)

/-- The outcomes of the batches, then those of the class files. -/
def RunReport.outcomes (r : RunReport) : List UnitOutcome := r.batches.flatMap (·.units) ++ r.units

namespace World

variable {σ : Type} {o : Outlet σ} {first u v w : World σ}

/-- The pieces a session prints for a model: of a candidate the whole class, of a class file the class or the
methods asked for. -/
def IsListing (s : Session) (m : ClassModel) (pieces : List String) : Prop :=
  pieces = memberPieces s.options.identifierPolicy m ∨
    ∃ methods, s.wantedMethods m = .ok methods ∧ pieces = unitPieces s.options.identifierPolicy m methods

/-- A note, or a piece of the listing of a model that a session on the way shows. -/
def Explained (o : Outlet σ) (first : World σ) (s : Session) (text : String) : Prop :=
  (∃ note, text = noteText note) ∨
    ∃ t m pieces, Portrays (o.Sees first.around) first.session t m s ∧ IsListing first.session m pieces ∧ text ∈ pieces

/-- The type was written in full from a model that a session on the way shows: a sink of its own took all the
pieces of the listing, which have the digest, and was closed. -/
def Documented (o : Outlet σ) (first w : World σ) (t : TypeName) (digest : String) : Prop :=
  ∃ m pieces n, Portrays (o.Sees first.around) first.session t m w.session ∧ IsListing first.session m pieces ∧
    digest = Digest.ofText (String.join pieces) ∧
    sinkBlock n t (Usage.collect m).imports first.session.options.identifierPolicy pieces <:+: w.trace

/-- `w` is what a run from `first` has come to after `v`. -/
structure Onward (o : Outlet σ) (first v w : World σ) : Prop where
  around : o.Leads first.around w.around
  before : Reaches (o.Sees first.around) first.session v.session
  session : Reaches (o.Sees first.around) v.session w.session
  trace : v.trace <+: w.trace
  printed : ∀ e ∈ w.trace, ∀ text, e.printedText? = some text → Explained o first w.session text

namespace Onward

theorem reached (h : Onward o first v w) : Reaches (o.Sees first.around) first.session w.session :=
  h.before.trans h.session

theorem refl (h : Onward o first v w) : Onward o first w w :=
  ⟨h.around, h.reached, .refl _, List.prefix_rfl, h.printed⟩

theorem trans (h : Onward o first u v) (h' : Onward o first v w) : Onward o first u w :=
  ⟨h'.around, h.before, h.session.trans h'.session, h.trace.trans h'.trace, h'.printed⟩

theorem sees (h : Onward o first v w) : o.Sees first.around w.around.files := ⟨w.around, h.around, rfl⟩

theorem start (session : Session) (files : FileTree) (state : σ) :
    Onward o (World.start session files state) (World.start session files state) (World.start session files state) :=
  ⟨.refl, .refl _, .refl _, List.prefix_rfl, fun e he => by cases he⟩

end Onward

theorem Explained.later {s s' : Session} {text : String} (h : Explained o first s text)
    (hs : Reaches (o.Sees first.around) s s') : Explained o first s' text := by
  rcases h with h | ⟨t, m, pieces, hm, hl, hp⟩
  · exact .inl h
  · exact .inr ⟨t, m, pieces, hm.later hs, hl, hp⟩

theorem Documented.later {t : TypeName} {digest : String} (h : Documented o first v t digest)
    (hw : Onward o first v w) : Documented o first w t digest := by
  obtain ⟨m, pieces, n, hm, hl, hd, hb⟩ := h
  exact ⟨m, pieces, n, hm.later hw.session, hl, hd, hb.trans hw.trace.isInfix⟩

/-! ## Steps of a run -/

/-- The session takes steps. -/
theorem Onward.steps (h : Onward o first v w) {s : Session} (hs : Reaches (o.Sees first.around) w.session s) :
    Onward o first v (w.withSession s) :=
  ⟨h.around, h.before, h.session.trans hs, h.trace, fun e he text ht => (h.printed e he text ht).later hs⟩

/-- Something is said, with every text explained. -/
theorem Onward.speaks {texts : String → Prop} (h : Onward o first v w) (hs : Speaks o texts w u)
    (ht : ∀ text, texts text → Explained o first w.session text) : Onward o first v u := by
  obtain ⟨more, hmore, hprinted⟩ := hs.trace
  refine ⟨h.around.trans hs.around, h.before, by rw [hs.session]; exact h.session, ?_, fun e he text he' => ?_⟩
  · rw [hmore]
    exact h.trace.trans (List.prefix_append _ _)
  · rw [hs.session]
    rw [hmore] at he
    rcases List.mem_append.1 he with he | he
    · exact h.printed e he text he'
    · exact ht text (hprinted e he text he')

/-- Something is said and nothing printed. -/
theorem Onward.talks (h : Onward o first v w) (hs : Speaks o (fun _ => False) w u) : Onward o first v u :=
  h.speaks hs fun _ ht => ht.elim

/-- The outcomes a call reports. A batch that ends early reports none. -/
def outcomes (o : Outlet σ) : Call → Act σ (List UnitOutcome)
  | .unit path skipIfInner => do return [← decompileUnit o path skipIfInner]
  | .archive path => do
    match ← decompileArchive o path with
    | .ok report => return report.units
    | .error _ => return []
  | .paths paths => do return (← runPaths o paths).outcomes

theorem outcomes_world (o : Outlet σ) (c : Call) (w : World σ) : (outcomes o c w).2 = (answer o c w).2 := by
  cases c with
  | unit path skipIfInner => rfl
  | archive path =>
    simp only [outcomes, answer, act_bind]
    cases (decompileArchive o path w).1 <;> rfl
  | paths paths => rfl

/-- What is reported as written is documented. -/
def Reports (o : Outlet σ) (first w : World σ) (outcomes : List UnitOutcome) : Prop :=
  ∀ t digest, .dumped t digest ∈ outcomes → Documented o first w t digest

theorem Reports.nil (w : World σ) : Reports o first w [] := fun _ _ h => by cases h

theorem Reports.later {outcomes : List UnitOutcome} (h : Reports o first v outcomes) (hw : Onward o first v w) :
    Reports o first w outcomes := fun t digest hm => (h t digest hm).later hw

theorem Reports.append {a b : List UnitOutcome} (ha : Reports o first w a) (hb : Reports o first w b) :
    Reports o first w (a ++ b) := fun t digest hm => (List.mem_append.1 hm).elim (ha t digest) (hb t digest)

/-- An outcome that reports nothing written. -/
theorem Reports.other {outcome : UnitOutcome} (h : outcome.isDumped = false) : Reports o first w [outcome] := by
  intro t digest hm
  rw [← List.mem_singleton.1 hm] at h
  cases h

/-- A class is written; when that works it is documented. -/
theorem Onward.dumped (h : Onward o first v w) (hh : w.held = none) {t : TypeName} {m : ClassModel}
    {pieces : List String} (hm : Portrays (o.Sees first.around) first.session t m w.session)
    (hl : IsListing first.session m pieces) {g : Session → Session}
    (hg : Reaches (o.Sees first.around) w.session (g w.session)) (summary : Bool) {r : Except DecompileError UnitOutcome}
    (hr : dumpedBy t g (emitText o summary t (Usage.collect m) first.session.options.identifierPolicy pieces w) = (r, u)) :
    Onward o first v u ∧ ∀ outcome, r = .ok outcome → Reports o first u [outcome] := by
  have hs : Speaks o (· ∈ pieces) w (emitText o summary t (Usage.collect m)
      first.session.options.identifierPolicy pieces w).2 :=
    Speaks.emitText w summary t (Usage.collect m) first.session.options.identifierPolicy (fun _ hp => hp) w (.refl w)
  rcases he : emitText o summary t (Usage.collect m) first.session.options.identifierPolicy pieces w with ⟨r', x⟩
  rw [he] at hs hr
  have hx := h.speaks hs fun text ht => .inr ⟨t, m, pieces, hm, hl, ht⟩
  cases r' with
  | error e =>
    cases hr
    exact ⟨hx, fun _ hr => by cases hr⟩
  | ok digest =>
    cases hr
    obtain ⟨hd, hb⟩ := emitText_block hh he
    have hsteps : Reaches (o.Sees first.around) x.session (g x.session) := by rw [hs.session]; exact hg
    refine ⟨hx.steps hsteps, fun outcome hr t' digest' hmem => ?_⟩
    cases hr
    cases List.mem_singleton.1 hmem
    refine ⟨m, pieces, w.sinks, hm.later ?_, hl, hd, hb.isInfix⟩
    rw [withSession_session, ← hs.session]
    exact hsteps

section Run

variable (hsound : first.session.cache.Sound) (hfaithful : first.session.cache.Faithful (o.Sees first.around))

include hsound hfaithful

theorem Onward.good (h : Onward o first v w) :
    first.session.cache.Advances (o.Sees first.around) w.session.cache ∧
      w.session.options = first.session.options :=
  h.reached.advances hsound hfaithful

/-! ## Candidates -/

theorem onward_dumpMemberInto (h : Onward o first v w) (hh : w.held = none) (t : TypeName)
    {r : Except DecompileError UnitOutcome} (hr : dumpMemberInto o t w = (r, u)) :
    Onward o first v u ∧ ∀ outcome, r = .ok outcome → Reports o first u [outcome] := by
  have hann : Onward o first v (announced w t) := h.talks (.announced w t)
  have hsame : (announced w t).session = w.session ∧ (announced w t).held = none := by
    unfold announced
    split <;> exact ⟨rfl, hh⟩
  rw [dumpMemberInto_apply] at hr
  obtain ⟨hg, -⟩ := h.good hsound hfaithful
  rcases hprep : w.session.prepare w.around.files t with ⟨p, s⟩
  obtain ⟨hp, hbuilt⟩ := Session.prepare_steps h.sees hg.sound hg.faithful hprep
  rw [hprep] at hr
  have hafter : Onward o first v ((announced w t).withSession s) := hann.steps (by rw [hsame.1]; exact hp)
  cases p with
  | unfound e =>
    cases hr
    exact ⟨h.steps hp, fun _ hr => by cases hr⟩
  | nested =>
    cases hr
    refine ⟨h.steps hp, fun outcome hr => ?_⟩
    cases hr
    exact .other rfl
  | unbuilt e =>
    cases hr
    exact ⟨hafter, fun _ hr => by cases hr⟩
  | built id m =>
    obtain ⟨-, hopt⟩ := hafter.good hsound hfaithful
    obtain ⟨hm, hmodel⟩ := hbuilt id m rfl
    dsimp only at hr
    rw [emitMember_apply, hopt] at hr
    exact hafter.dumped (g := (·.finishMember id)) hsame.2 (hm.earlier h.reached) (.inl rfl)
      (Session.finishMember_reaches h.sees hmodel) true hr

theorem onward_dumpMember (h : Onward o first v w) (hw : AtRest w) (archive : Path) (t : TypeName)
    {r : Except DecompileError UnitOutcome} (hr : dumpMember o archive t w = (r, u)) :
    Onward o first v u ∧ ∀ outcome, r = .ok outcome → Reports o first u [outcome] := by
  rw [dumpMember_apply] at hr
  rcases hd : dumpMemberInto o t w with ⟨r', x⟩
  rw [hd] at hr
  obtain ⟨hx, hdoc⟩ := onward_dumpMemberInto hsound hfaithful h hw.empty t hd
  cases r' with
  | ok outcome =>
    cases hr
    exact ⟨hx, hdoc⟩
  | error e =>
    dsimp only at hr
    split at hr
    · cases hr
      exact ⟨hx, fun _ hr => by cases hr⟩
    · have hn : Onward o first v (noteException archive (some (memberContext t)) e x).2 :=
        hx.talks ((Speaks.refl x).noteException archive _ e)
      have hs : Speaks o (· = noteText e.describe) (noteException archive (some (memberContext t)) e x).2
          (writeNote o t e.describe (noteException archive (some (memberContext t)) e x).2).2 :=
        Speaks.writeNote _ t (by rfl) _ (.refl _)
      have hnote := hn.speaks hs fun text ht => .inl ⟨_, ht⟩
      rcases hwn : writeNote o t e.describe (noteException archive (some (memberContext t)) e x).2 with ⟨r', y⟩
      rw [hwn] at hr hnote
      cases r' with
      | error e' =>
        cases hr
        exact ⟨hnote, fun _ hr => by cases hr⟩
      | ok a =>
        cases hr
        refine ⟨hnote, fun outcome hr => ?_⟩
        cases hr
        exact .other rfl

theorem onward_dumpMembers (archive : Path) (ts : List TypeName) (h : Onward o first v w) (hw : AtRest w)
    {r : Except DecompileError (List UnitOutcome)} (hr : dumpMembers o archive ts w = (r, u)) :
    Onward o first v u ∧ ∀ outcomes, r = .ok outcomes → Reports o first u outcomes := by
  induction ts generalizing v w r with
  | nil =>
    cases hr
    refine ⟨h, fun outcomes ho => ?_⟩
    cases ho
    exact .nil _
  | cons t ts ih =>
    rw [dumpMembers_cons] at hr
    have hrest := dumpMember_atRest o archive t w hw
    rcases hd : dumpMember o archive t w with ⟨r', x⟩
    rw [hd] at hr hrest
    obtain ⟨hx, hdoc⟩ := onward_dumpMember hsound hfaithful h hw archive t hd
    cases r' with
    | error e =>
      cases hr
      exact ⟨hx, fun outcomes ho => by cases ho⟩
    | ok outcome =>
      dsimp only at hr
      rcases hds : dumpMembers o archive ts x with ⟨r', y⟩
      rw [hds] at hr
      cases hr
      obtain ⟨hy, hdocs⟩ := ih hx.refl hrest hds
      refine ⟨hx.trans hy, fun outcomes ho => ?_⟩
      cases r' with
      | error e => cases ho
      | ok rest =>
        cases ho
        exact ((hdoc outcome rfl).later hy).append (hdocs rest rfl)

/-! ## Batches -/

omit hsound hfaithful in
theorem onward_enlist (archive : Path) (h : Onward o first v w) : Onward o first v (enlist o archive w).2 := by
  have hop : Reaches (o.Sees first.around) w.session
      { w.session with cache := .settled (Cache.loadArchive w.around.files archive w.session.cache) } :=
    Session.settled_reaches (Session.Step.cache h.sees (.loadArchive archive)).reaches
  rcases hl : Cache.loadArchive w.around.files archive w.session.cache with ⟨r', c⟩
  rw [hl] at hop
  cases r' with
  | error e =>
    rw [enlist_unread hl]
    exact h.steps hop
  | ok types =>
    rw [enlist_read hl]
    have hn (texts : List String) : Speaks o (fun _ => False) (w.withSession { w.session with cache := c })
        (notices o texts (w.withSession { w.session with cache := c })).2 :=
      keeps_notices (Speaks.notice _) texts _ (.refl _)
    refine ((h.steps hop).talks (hn _)).steps ?_
    rw [(hn _).session]
    exact Session.nameBatch_reaches _ _

theorem onward_dumpCollection (archive : Path) (h : Onward o first v w) (hw : AtRest w)
    {r : Except DecompileError BatchReport} (hr : dumpCollection o archive w = (r, u)) :
    Onward o first v u ∧ ∀ report, r = .ok report → Reports o first u report.units := by
  have hhead := onward_enlist archive (h.talks (Speaks.headBatch w archive w (.refl w)))
  have hrest := enlist_atRest o archive _ (headBatch_atRest o archive w hw)
  rw [dumpCollection_apply] at hr
  rcases he : enlist o archive (headBatch o archive w).2 with ⟨r', x⟩
  rw [he] at hr hhead hrest
  cases r' with
  | error e =>
    cases hr
    exact ⟨hhead, fun _ hr => by cases hr⟩
  | ok ts =>
    dsimp only at hr
    rcases hm : dumpMembers o archive ts x with ⟨r', y⟩
    rw [hm] at hr
    obtain ⟨hy, hdoc⟩ := onward_dumpMembers hsound hfaithful archive ts hhead hrest hm
    cases hr
    refine ⟨hy, fun report hr => ?_⟩
    cases r' with
    | error e => cases hr
    | ok units =>
      cases hr
      exact hdoc units rfl

theorem onward_decompileArchive (archive : Path) (h : Onward o first v w) (hw : AtRest w)
    {r : Except DecompileError BatchReport} (hr : decompileArchive o archive w = (r, u)) :
    Onward o first v u ∧ ∀ report, r = .ok report → Reports o first u report.units := by
  have hopen := Outlet.Leads.openSummary (.refl : o.Leads w.around w.around)
  rcases ho : o.openSummary w.around with ⟨r', around⟩
  rw [ho] at hopen
  have hs {e : Event} (he : e.printedText? = none) :
      Speaks o (fun _ => False) w { w with around := around, trace := w.trace ++ [e] } :=
    (Speaks.refl w).event hopen w.sinks w.held w.records fun text ht => by rw [he] at ht; cases ht
  cases r' with
  | error e =>
    rw [decompileArchive_refused ho] at hr
    cases hr
    exact ⟨h.talks ((hs rfl).noteException archive _ _), fun _ hr => by cases hr⟩
  | ok a =>
    rw [decompileArchive_opened ho] at hr
    dsimp only at hr
    rcases hd : dumpCollection o archive { w with around := around, trace := w.trace ++ [.summaryOpened] } with ⟨r', x⟩
    rw [hd] at hr
    obtain ⟨hx, hdoc⟩ := onward_dumpCollection hsound hfaithful archive (h.talks (hs rfl))
      ⟨hw.tidy.event around w.sinks w.held _ rfl, hw.empty⟩ hd
    have hc : Onward o first x (closeBatch o archive r' x).2 :=
      hx.refl.talks (Speaks.closeBatch x archive r' x (.refl x))
    cases hr
    exact ⟨hx.trans hc, fun report hr => (hdoc report hr).later hc⟩

/-! ## Class files and lists of inputs -/

theorem onward_dumpOne (h : Onward o first v w) (hh : w.held = none) (path : Path) (skipIfInner : Bool)
    {r : Except DecompileError UnitOutcome} (hr : dumpOne o path skipIfInner w = (r, u)) :
    Onward o first v u ∧ ∀ outcome, r = .ok outcome → Reports o first u [outcome] := by
  rw [dumpOne_apply] at hr
  obtain ⟨hg, -⟩ := h.good hsound hfaithful
  rcases hprep : w.session.prepareUnit w.around.files path skipIfInner with ⟨p, s⟩
  obtain ⟨hp, hbuilt⟩ := Session.prepareUnit_steps h.sees hg.sound hg.faithful hprep
  rw [hprep] at hr
  have hafter (t : TypeName) : Onward o first v ((log (.progressType t) w).2.withSession s) :=
    (h.talks ((Speaks.refl w).log (.progressType t) rfl)).steps hp
  cases p with
  | failed announced e =>
    cases announced with
    | none =>
      cases hr
      exact ⟨h.steps hp, fun _ hr => by cases hr⟩
    | some t =>
      cases hr
      exact ⟨hafter t, fun _ hr => by cases hr⟩
  | nested t =>
    cases hr
    refine ⟨h.steps hp, fun outcome hr => ?_⟩
    cases hr
    exact .other rfl
  | built t id m methods =>
    obtain ⟨-, hopt⟩ := (hafter t).good hsound hfaithful
    obtain ⟨hm, hmodel, hwanted⟩ := hbuilt t id m methods rfl
    have hwanted' : first.session.wantedMethods m = .ok methods := by
      rw [← hwanted, Session.wantedMethods, ← hopt]
      rfl
    dsimp only at hr
    rw [emitUnit_apply, hopt] at hr
    exact (hafter t).dumped (g := (·.markDumped id)) hh (hm.earlier h.reached) (.inr ⟨methods, hwanted', rfl⟩)
      (Session.Step.dumped hmodel).reaches false hr

theorem onward_decompileUnit (h : Onward o first v w) (hw : AtRest w) (path : Path) (skipIfInner : Bool) :
    Onward o first v (decompileUnit o path skipIfInner w).2 ∧
      Reports o first (decompileUnit o path skipIfInner w).2 [(decompileUnit o path skipIfInner w).1] := by
  rw [decompileUnit_apply]
  rcases hd : dumpOne o path skipIfInner w with ⟨r, x⟩
  obtain ⟨hx, hdoc⟩ := onward_dumpOne hsound hfaithful h hw.empty path skipIfInner hd
  have hs : Speaks o (fun _ => False) x (release o x).2 := Speaks.release x x (.refl x)
  cases r with
  | ok outcome =>
    have hr := hx.refl.talks hs
    exact ⟨hx.trans hr, (hdoc outcome rfl).later hr⟩
  | error e =>
    refine ⟨?_, .other rfl⟩
    dsimp only
    split
    · exact hx.talks hs
    · exact hx.talks (hs.noteException path none e)

theorem onward_runFiles (skipInner : Bool) (paths : List Path) {r : RunReport} (h : Onward o first v w) (hw : AtRest w)
    (hr : Reports o first w r.outcomes) :
    Onward o first v (runFiles o skipInner paths r w).2 ∧
      Reports o first (runFiles o skipInner paths r w).2 (runFiles o skipInner paths r w).1.outcomes := by
  induction paths generalizing v w r with
  | nil => exact ⟨h, hr⟩
  | cons p ps ih =>
    have hrest := decompileUnit_atRest o p skipInner w hw
    obtain ⟨hx, hdoc⟩ := onward_decompileUnit hsound hfaithful h.refl hw p skipInner
    rw [runFiles_cons]
    rcases hd : decompileUnit o p skipInner w with ⟨outcome, x⟩
    rw [hd] at hrest hx hdoc
    dsimp only
    split
    · exact ⟨h.trans hx, hr.later hx⟩
    have hout : Reports o first x { r with units := r.units ++ [outcome], aborted := outcome.isFatal }.outcomes := by
      simp only [RunReport.outcomes, ← List.append_assoc]
      exact (hr.later hx).append hdoc
    split
    · exact ⟨h.trans hx, hout⟩
    · exact ih (h.trans hx) hrest hout

theorem onward_runPath (skipLoneInner : Bool) (path : Path) {r : RunReport} (h : Onward o first v w) (hw : AtRest w)
    (hr : Reports o first w r.outcomes) :
    Onward o first v (runPath o skipLoneInner path r w).2 ∧
      Reports o first (runPath o skipLoneInner path r w).2 (runPath o skipLoneInner path r w).1.outcomes := by
  by_cases ha : path.isArchive = true
  · rw [runPath_archive ha]
    rcases hd : decompileArchive o path w with ⟨result, x⟩
    obtain ⟨hx, hdoc⟩ := onward_decompileArchive hsound hfaithful path h.refl hw hd
    dsimp only
    split
    · exact ⟨h.trans hx, hr.later hx⟩
    cases result with
    | error e => exact ⟨h.trans hx, hr.later hx⟩
    | ok batch =>
      refine ⟨h.trans hx, fun t digest hm => ?_⟩
      -- the new batch stands between those before it and the class files
      simp only [RunReport.outcomes, List.flatMap_append, List.flatMap_cons, List.flatMap_nil,
        List.append_nil, List.mem_append] at hm
      rcases hm with (hm | hm) | hm
      · exact hr.later hx t digest (List.mem_append_left _ hm)
      · exact hdoc batch rfl t digest hm
      · exact hr.later hx t digest (List.mem_append_right _ hm)
  · rw [runPath, if_neg ha, runFound_apply]
    split <;> exact onward_runFiles hsound hfaithful _ _ h hw hr

theorem onward_runAll (skipLoneInner : Bool) (paths : List Path) {r : RunReport} (h : Onward o first v w)
    (hw : AtRest w) (hr : Reports o first w r.outcomes) :
    Onward o first v (runAll o skipLoneInner paths r w).2 ∧
      Reports o first (runAll o skipLoneInner paths r w).2 (runAll o skipLoneInner paths r w).1.outcomes := by
  induction paths generalizing v w r with
  | nil => exact ⟨h, hr⟩
  | cons p ps ih =>
    have hrest := keeps_runPath (decompileUnit_atRest o) (decompileArchive_atRest o) skipLoneInner p r w hw
    obtain ⟨hx, hout⟩ := onward_runPath hsound hfaithful skipLoneInner p h.refl hw hr
    simp only [runAll, act_bind]
    rcases hd : runPath o skipLoneInner p r w with ⟨r', x⟩
    rw [hd] at hrest hx hout
    dsimp only
    split
    · exact ⟨h.trans hx, hout⟩
    · exact ih (h.trans hx) hrest hout

/-! ## Calls -/

theorem onward_outcomes (c : Call) (h : Onward o first v w) (hw : AtRest w) :
    Onward o first v (outcomes o c w).2 ∧ Reports o first (outcomes o c w).2 (outcomes o c w).1 := by
  cases c with
  | unit path skipIfInner => exact onward_decompileUnit hsound hfaithful h hw path skipIfInner
  | archive path =>
    simp only [outcomes, act_bind]
    rcases hd : decompileArchive o path w with ⟨r, x⟩
    obtain ⟨hx, hdoc⟩ := onward_decompileArchive hsound hfaithful path h hw hd
    cases r with
    | error e => exact ⟨hx, .nil _⟩
    | ok report => exact ⟨hx, hdoc report rfl⟩
  | paths paths => exact onward_runAll hsound hfaithful (paths.length > 1) paths h hw (.nil w)

theorem onward_answerAll (calls : List Call) (h : Onward o first v w) (hw : AtRest w) :
    Onward o first v (answerAll o calls w).2 := by
  induction calls generalizing w with
  | nil => exact h
  | cons c cs ih =>
    have hc := (onward_outcomes hsound hfaithful c h hw).1
    rw [outcomes_world] at hc
    exact ih hc (answer_atRest o c w hw)

end Run

end World

/-! ## What is held to -/

/-- A session whose units are as parsed or released for good, and whose analysis stops at what is released. -/
structure Session.Intact (seen : FileTree → Prop) (s : Session) : Prop where
  /-- A unit that is not released has the class file as it was parsed from bytes its origin held. -/
  parsed : ∀ id u, s.cache.unit? id = some u → ∃ bytes c, u.origin.Held seen bytes ∧ ClassFile.parse bytes = .ok c ∧
    (u.isReleased = false → u.classFile = c)
  /-- In a later session a released unit is released still, and one that is not has the same class file. -/
  later : ∀ s', Reaches seen s s' → ∀ id u, s.cache.unit? id = some u → ∃ v, s'.cache.unit? id = some v ∧
    v.type = u.type ∧ (u.isReleased = true → v.isReleased = true) ∧ (v.isReleased = false → v.classFile = u.classFile)
  /-- Analysis succeeds only if no unit of the nest is released. -/
  analysed : ∀ id, (s.analyse id).1 = .ok () → ∀ j, s.cache.InNest id j →
    ∃ u, s.cache.unit? j = some u ∧ u.isReleased = false
  /-- With a released unit in a nest without circles it fails with that cause, or with malformed declarations
  of a unit of the nest, not released, that stop it first. -/
  refused : s.cache.NestsAcyclic → ∀ id j u, s.cache.InNest id j → s.cache.unit? j = some u → u.isReleased = true →
    ∃ e, (s.analyse id).1 = .error e ∧ s.Stops id e ∧ (e = .released ∨ ∃ k v inner d, s.cache.InNest id k ∧
      s.cache.unit? k = some v ∧ v.isReleased = false ∧ ClassModel.build v.classFile s.naming inner = .error d ∧
      e = .descriptor d)

/-- What a model that shows a unit has to do with the class files of the nest. -/
structure Session.MadeFrom (s : Session) (id : UnitId) (m : ClassModel) : Prop where
  unreleased : ∀ j, s.cache.InNest id j → ∃ u, s.cache.unit? j = some u ∧ u.isReleased = false
  /-- A method inside the model is one of a class file of the nest. If that has a `Code` payload of eight bytes
  or more, the method is not printed without a body. -/
  bodies : ∀ levels k x, ClassModel.Within levels k m → x ∈ k.methods → ∃ j u f, s.cache.InNest id j ∧
    s.cache.unit? j = some u ∧ u.isReleased = false ∧ f ∈ ClassModel.shownMethods u.classFile ∧
    ClassModel.methodOf u.classFile s.naming f = .ok x ∧ ∀ code, f.code = some code → 8 ≤ code.length →
      ∀ usage policy owner depth, Listing.HasBody (Listing.method usage policy owner depth x)
  /-- Every method that the class files of the nest show is in the listing. -/
  listed : ∀ j u f, s.cache.InNest id j → s.cache.unit? j = some u → f ∈ ClassModel.shownMethods u.classFile →
    ∀ usage policy, ∃ x owner depth, ClassModel.methodOf u.classFile s.naming f = .ok x ∧
      Listing.method usage policy owner depth x ∈ Listing.source usage policy m

theorem Session.intact {seen : FileTree → Prop} {s : Session} (hs : s.cache.Sound) (hf : s.cache.Faithful seen) :
    s.Intact seen := by
  refine ⟨fun id u hu => ?_, fun s' hr id u hu => ?_, fun id h j hj => Session.analyse_ok h hj, ?_⟩
  · obtain ⟨c, ⟨bytes, hb, hp⟩, hk⟩ := hf.units id u hu
    refine ⟨bytes, c, hb, hp, fun hr => ?_⟩
    rw [hk, hr]
    rfl
  · obtain ⟨v, hv, he⟩ := (hr.advances hs hf).1.evolves.units id u hu
    exact ⟨v, hv, he.type, he.released, fun hvr => (he.intact hvr).2⟩
  · intro ha id j u hj hu hr
    obtain ⟨e, he, hstop⟩ := Session.analyse_released hs ha hj hu hr
    refine ⟨e, he, hstop, ?_⟩
    obtain ⟨k, v, hk, hv, ⟨rfl, -⟩ | ⟨inner, d, rfl, hvr, hb⟩⟩ := hstop.cause
    · exact .inl rfl
    · exact .inr ⟨k, v, inner, d, hk, hv, hvr, hb, rfl⟩

theorem Session.Shows.madeFrom {s : Session} {id : UnitId} {m : ClassModel} (h : s.Shows id m) : s.MadeFrom id m := by
  refine ⟨fun j hj => ?_, fun levels k x hw hx => ?_, fun j u f hj hu hf usage policy => ?_⟩
  · obtain ⟨-, k, -, hk⟩ := h.nest hj
    exact hk.unreleased
  · obtain ⟨j, u, f, hj, hu, hr, hf, hfx⟩ := h.source_of_method hw hx
    exact ⟨j, u, f, hj, hu, hr, hf, hfx, fun code hc hl => Listing.hasBody_method hfx hc hl⟩
  · obtain ⟨levels, k, x, -, -, hfx, hmem⟩ := h.listed hj hu hf usage policy
    exact ⟨x, k.declaredName, levels + 1, hfx, hmem⟩

namespace World

variable {σ : Type}

/-- What holds of everything that is asked of a session which starts in the world. -/
structure WithholdsReleased (o : Outlet σ) (first : World σ) : Prop where
  /-- The sessions on the way, within calls and between them. -/
  sessions : ∀ s, Reaches (o.Sees first.around) first.session s → s.Intact (o.Sees first.around)
  steps : ∀ calls more, Reaches (o.Sees first.around) first.session (answerAll o calls first).2.session ∧
    Reaches (o.Sees first.around) (answerAll o calls first).2.session
      (answerAll o more (answerAll o calls first).2).2.session
  /-- What a call reports as written is the listing of a model shown on the way. -/
  dumped : ∀ calls c t digest, .dumped t digest ∈ (outcomes o c (answerAll o calls first).2).1 →
    Documented o first (answer o c (answerAll o calls first).2).2 t digest
  /-- So is every text that is printed at all, or it is a note. -/
  printed : ∀ calls, ∀ e ∈ (answerAll o calls first).2.trace, ∀ text, e.printedText? = some text →
    Explained o first (answerAll o calls first).2.session text
  models : ∀ (s : Session) id m, s.Shows id m → s.MadeFrom id m

/-- Whatever is called on a session, with any options and any outlet: what is released stays released, what is
not has its class file as parsed, and only that gets into the output. -/
theorem released_never_printed {files : FileTree} {options : Options} {session : Session}
    (hstart : Session.start files options = .ok session) (o : Outlet σ) (state : σ) :
    WithholdsReleased o (start session files state) := by
  have hsees : o.Sees ⟨files, state⟩ files := ⟨_, .refl, rfl⟩
  obtain ⟨hs, hf⟩ : session.cache.Sound ∧ session.cache.Faithful (o.Sees ⟨files, state⟩) :=
    Session.start_good hsees hstart
  have hfirst := start_atRest session files state
  have hcalls (calls : List Call) := onward_answerAll (o := o) hs hf calls (.start session files state) hfirst
  have hrest (calls : List Call) := answerAll_atRest o calls _ hfirst
  refine ⟨fun s hr => ?_, fun calls more => ?_, fun calls c t digest hm => ?_, fun calls => (hcalls calls).printed,
    fun s id m h => h.madeFrom⟩
  · have ha := (hr.advances hs hf).1
    exact Session.intact ha.sound ha.faithful
  · exact ⟨(hcalls calls).session, (onward_answerAll hs hf more (hcalls calls).refl (hrest calls)).session⟩
  · have hc := (onward_outcomes hs hf c (hcalls calls) (hrest calls)).2
    rw [outcomes_world] at hc
    exact hc t digest hm

/-- A class `A` with a method `f` and the given payload of its `Code`, up to 255 bytes long. -/
def classWithCode (code : List UInt8) : List UInt8 :=
  [202, 254, 186, 190, 0, 0, 0, 52, 0, 6, 1, 0, 1, 65, 7, 0, 1, 1, 0, 4, 67, 111, 100, 101, 1, 0, 1, 102, 1, 0, 3,
   40, 41, 86, 0, 33, 0, 2, 0, 0, 0, 0, 0, 0, 0, 1, 0, 1, 0, 4, 0, 5, 0, 1, 0, 3, 0, 0, 0, UInt8.ofNat code.length] ++
    code ++ [0, 0]

/-- A session that spares memory and leaves nested classes alone, in a directory with that class. -/
def besideCode (code : List UInt8) : World Memory.State :=
  start ⟨{ Options.default with decompileInnerClasses := false, lowMemory := true }, .empty, .empty⟩
    ⟨[(["A.class"], .file (classWithCode code))], []⟩ []

/-- A payload with one instruction, which returns. -/
def returnCode : List UInt8 := [0, 0, 0, 0, 0, 0, 0, 1, 177, 0, 0, 0, 0]

/-- Written with every print working, the method has its body; and with prints that fail, or whatever else
is asked, nothing released gets out. -/
theorem released_never_printed_of_body :
    Session.start (besideCode returnCode).around.files (besideCode returnCode).session.options =
        .ok (besideCode returnCode).session ∧
      .printed 0 "    public void f() \x7b\n        /* 1 bytes of bytecode */\n    \x7d\n" none ∈
        (answer (Memory.outlet ⟨[], [], [], [], false⟩) (.unit ⟨"A.class"⟩ false) (besideCode returnCode)).2.trace ∧
      WithholdsReleased (Memory.outlet ⟨[], [⟨"A"⟩], [], [], false⟩) (besideCode returnCode) := by
  have hstart : Session.start (besideCode returnCode).around.files (besideCode returnCode).session.options =
      .ok (besideCode returnCode).session := rfl
  exact ⟨hstart, by decide +kernel, released_never_printed hstart _ _⟩

/-- A payload of two bytes is too short to hold the length of bytecode: the method has its `Code`, the class is
written in full, and the method is printed without a body. -/
theorem short_code_without_body :
    (ClassFile.parse (classWithCode [0, 0])).toOption.map (·.methods) = some [⟨1, "f", "()V", some [0, 0]⟩] ∧
      (decompileUnit (Memory.outlet ⟨[], [], [], [], false⟩) ⟨"A.class"⟩ false (besideCode [0, 0])).1.isDumped = true ∧
      .printed 0 "    public void f();\n" none ∈
        (decompileUnit (Memory.outlet ⟨[], [], [], [], false⟩) ⟨"A.class"⟩ false (besideCode [0, 0])).2.trace ∧
      ¬ Listing.HasBody "    public void f();\n" := by
  refine ⟨by decide +kernel, by decide +kernel, by decide +kernel, ?_⟩
  rintro ⟨front, depth, length, h⟩
  -- a body ends with a brace, the text with a semicolon
  have hback := congrArg (fun text => text.toList.reverse) h
  simp [Listing.methodBody, String.toList_append] at hback

end World

end ClassSkeleton
