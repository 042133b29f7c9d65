import ClassSkeleton.Proofs.RunAccounts
import ClassSkeleton.Proofs.SessionSteps

/-
  ClassSkeleton.Proofs.RunInvariants — from single actions to whole runs.

  `UpheldAtWork o T P` lists what a run does for a class: it changes the session, announces, notes failures, and
  talks to the outlet, asking for sinks of types with `T` only. What is kept by each of these is kept by the work
  on a class and by all candidates of a batch. `Upheld` adds the notices of a batch and `UpheldThroughout` the
  brackets of its summary, and then it is kept by whole runs.

  Which types sinks are asked for depends on the session. `Vouches T G` says that sessions with `G` have
  nothing but types with `T`, and stay so whatever a run does to them. A session that grew from a sound cache
  vouches for types that some class file declares (`vouches_declared`); any session does for no more than
  that they are types.
-/

namespace ClassSkeleton

/-- Said to the reporter of progress. -/
def Event.isProgress : Event → Bool
  | progressPath _ | progressType _ => true
  | _ => false

/-! ## What sessions vouch for -/

/-- Sessions with `G` have and build types with `T` only, and work on classes keeps `G`. -/
structure Vouches (T : TypeName → Prop) (G : Session → Prop) : Prop where
  cached : ∀ {s t id}, G s → s.cache.get? t = some id → T t
  prepare : ∀ {s} files t, G s → G (s.prepare files t).2
  member : ∀ {s s' files t id m}, G s → s.prepare files t = (.built id m, s') → T t ∧ G (s'.finishMember id)
  prepareUnit : ∀ {s} files path skipIfInner, G s → G (s.prepareUnit files path skipIfInner).2
  unit : ∀ {s s' files path skipIfInner t id m methods}, G s →
    s.prepareUnit files path skipIfInner = (.built t id m methods, s') → T t ∧ G (s'.markDumped id)
  loadArchive : ∀ {s} files archive, G s → G { s with cache := .settled (Cache.loadArchive files archive s.cache) }
  nameBatch : ∀ {s} candidates, G s → G (s.nameBatch candidates)

theorem vouches_trivial : Vouches (fun _ => True) fun _ => True :=
  ⟨fun _ _ => trivial, fun _ _ _ => trivial, fun _ _ => ⟨trivial, trivial⟩, fun _ _ _ _ => trivial,
    fun _ _ => ⟨trivial, trivial⟩, fun _ _ _ => trivial, fun _ _ => trivial⟩

/-- Some class file declares the type. -/
def TypeName.Declared (t : TypeName) : Prop := ∃ bytes c, ClassFile.parse bytes = .ok c ∧ c.thisClass = t

/-- Files as they may be at any time. -/
def FileTree.Any (_ : FileTree) : Prop := True

theorem FileTree.any (files : FileTree) : files.Any := trivial

namespace Session

/-- The cache is as operations leave it, over whatever files. -/
structure Good (s : Session) : Prop where
  sound : s.cache.Sound
  faithful : s.cache.Faithful FileTree.Any

variable {s s' : Session}

theorem Good.reaches (h : s.Good) (hr : Reaches FileTree.Any s s') : s'.Good := by
  have ha := (hr.advances h.sound h.faithful).1
  exact ⟨ha.sound, ha.faithful⟩

theorem start_isGood {files : FileTree} {options : Options} (h : Session.start files options = .ok s) : s.Good := by
  obtain ⟨hs, hf⟩ := start_good files.any h
  exact ⟨hs, hf⟩

/-- Units have class files that were parsed, and the types these declare. -/
theorem Good.declared (h : s.Good) {t : TypeName} {id : UnitId} (ht : s.cache.get? t = some id) : t.Declared := by
  obtain ⟨u, hu, rfl⟩ := (h.sound.index t id).1 ht
  obtain ⟨c, ⟨bytes, -, hp⟩, hk⟩ := h.faithful.units id u hu
  refine ⟨bytes, c, hp, ?_⟩
  rw [(h.sound.declared id u hu).1, hk]
  split <;> rfl

end Session

/-- Whatever a run does to a session is made of its steps, and a type that is built is cached by then. -/
theorem vouches_declared : Vouches TypeName.Declared Session.Good where
  cached h ht := h.declared ht
  prepare := by
    intro s files t h
    exact h.reaches (Session.prepare_steps files.any h.sound h.faithful rfl).1
  member := by
    intro s s' files t id m h hp
    obtain ⟨hr, hbuilt⟩ := Session.prepare_steps files.any h.sound h.faithful hp
    obtain ⟨⟨between, j, hbefore, -, ht, -⟩, hm⟩ := hbuilt id m rfl
    have hfinish := Session.finishMember_reaches files.any hm
    exact ⟨(h.reaches hbefore).declared ht, (h.reaches hr).reaches hfinish⟩
  prepareUnit := by
    intro s files path skipIfInner h
    exact h.reaches (Session.prepareUnit_steps files.any h.sound h.faithful rfl).1
  unit := by
    intro s s' files path skipIfInner t id m methods h hp
    obtain ⟨hr, hbuilt⟩ := Session.prepareUnit_steps files.any h.sound h.faithful hp
    obtain ⟨⟨between, j, hbefore, -, ht, -⟩, hm, -⟩ := hbuilt t id m methods rfl
    exact ⟨(h.reaches hbefore).declared ht, (h.reaches hr).reaches (Session.Step.dumped hm).reaches⟩
  loadArchive := by
    intro s files archive h
    exact h.reaches (Session.settled_reaches (Session.Step.cache files.any (.loadArchive archive)).reaches)
  nameBatch := by
    intro s candidates h
    exact h.reaches (Session.nameBatch_reaches s candidates)

namespace World

variable {σ : Type}

/-! ## What single actions keep -/

/-- Kept by everything a run does for a single class. -/
structure UpheldAtWork (o : Outlet σ) (T : TypeName → Prop) (P : World σ → Prop) : Prop where
  session : ∀ {w} s, P w → P (w.withSession s)
  progress : ∀ {e}, e.isProgress = true → Keeps P (log e)
  noteException : ∀ path context e, Keeps P (noteException path context e)
  print : ∀ text, Keeps P (print o text)
  release : Keeps P (release o)
  acquire : ∀ summary {t} usage policy, T t → Keeps P (acquire o summary t usage policy)

/-- Kept by everything a run does between opening and closing a summary. -/
structure Upheld (o : Outlet σ) (T : TypeName → Prop) (P : World σ → Prop) : Prop extends UpheldAtWork o T P where
  notice : ∀ text, Keeps P (notice o text)

/-- What is known of the trace alone, and of every trace with one more event that is no bracket. -/
theorem Upheld.of_trace {P : List Event → Prop} (h : ∀ trace e, e.isBracket = false → P trace → P (trace ++ [e]))
    (o : Outlet σ) (T : TypeName → Prop) : Upheld o T fun w => P w.trace := by
  have along {v w : World σ} (hi : Inside v w) (hv : P v.trace) : P w.trace := by
    obtain ⟨more, ht, hm⟩ := hi
    rw [ht]
    clear ht
    induction more using List.reverseRecOn with
    | nil => rwa [List.append_nil]
    | append_singleton more e ih =>
      rw [← List.append_assoc]
      exact h _ e (hm e (by simp)) (ih fun d hd => hm d (by simp [hd]))
  have outputs {α : Type} {x : Act σ α} (hx : ∀ v, Keeps (Outputs v) x) : Keeps (fun w => P w.trace) x :=
    fun w hw => along (hx w w (.refl w)).inside hw
  refine ⟨⟨fun _ hw => hw, ?_, ?_, ?_, ?_, ?_⟩, ?_⟩
  · intro e he w hw
    refine h w.trace e ?_ hw
    cases e <;> first | rfl | cases he
  · exact fun path context e w hw => h w.trace _ rfl hw
  · exact fun text => outputs (outputs_print · o text)
  · exact outputs (outputs_release · o)
  · exact fun summary t usage policy _ => outputs (outputs_acquire · o summary t usage policy)
  · exact fun text => outputs (outputs_notice · o text)

/-- Kept by everything a run does. -/
structure UpheldThroughout (o : Outlet σ) (T : TypeName → Prop) (P : World σ → Prop) : Prop extends Upheld o T P where
  opened : ∀ {w}, (o.openSummary w.around).1 = .ok () → P w → P (opening o w)
  refused : ∀ {w cause}, (o.openSummary w.around).1 = .error cause → P w → P (unopened o w)
  closed : Keeps P (do outside o.closeSummary; log .summaryClosed : Act σ Unit)

/-! ## Classes and candidates -/

/-- The session has `G` and the world `P`. -/
def Both (G : Session → Prop) (P : World σ → Prop) (w : World σ) : Prop := G w.session ∧ P w

section AtWork

variable {o : Outlet σ} {T : TypeName → Prop} {P : World σ → Prop} {G : Session → Prop} {w : World σ} {t : TypeName}
  (h : UpheldAtWork o T P) (hv : Vouches T G)

include h

theorem UpheldAtWork.emitText (ht : T t) (summary : Bool) (usage : Usage) (policy : IdentifierPolicy)
    (pieces : List String) : Keeps P (emitText o summary t usage policy pieces) :=
  .try_bind (h.acquire summary usage policy ht) fun _ => keeps_writeAll h.print h.release t pieces

/-- A written text leaves the session as it was, so what follows it is done to that session. -/
theorem UpheldAtWork.dumpedBy (ht : T t) (summary : Bool) (usage : Usage) (policy : IdentifierPolicy)
    (pieces : List String) (g : Session → Session) (hw : Both G P w) (hg : G (g w.session)) :
    Both G P (World.dumpedBy t g (World.emitText o summary t usage policy pieces w)).2 := by
  have hp := h.emitText ht summary usage policy pieces w hw.2
  have hs := (outputs_emitText w o summary t usage policy pieces w (.refl w)).session
  rcases hr : World.emitText o summary t usage policy pieces w with ⟨r, v⟩
  rw [hr] at hp hs
  dsimp only at hp hs
  cases r with
  | error e =>
    refine ⟨?_, hp⟩
    show G v.session
    rw [hs]
    exact hw.1
  | ok digest =>
    refine ⟨?_, h.session _ hp⟩
    show G (g v.session)
    rw [hs]
    exact hg

theorem UpheldAtWork.announced (hw : P w) (t : TypeName) : P (announced w t) := by
  unfold World.announced
  split
  · exact hw
  · exact h.progress (e := .progressType t) rfl w hw

include hv

theorem UpheldAtWork.dumpMemberInto (t : TypeName) : Keeps (Both G P) (dumpMemberInto o t) := by
  intro w hw
  rw [dumpMemberInto_apply]
  have hs := hv.prepare w.around.files t hw.1
  rcases hp : w.session.prepare w.around.files t with ⟨p, s⟩
  rw [hp] at hs
  have ha : Both G P ((World.announced w t).withSession s) := ⟨hs, h.session s (h.announced hw.2 t)⟩
  cases p with
  | unfound e => exact ⟨hs, h.session s hw.2⟩
  | nested => exact ⟨hs, h.session s hw.2⟩
  | unbuilt e => exact ha
  | built id m =>
    obtain ⟨ht, hg⟩ := hv.member hw.1 hp
    dsimp only
    rw [emitMember_apply]
    exact h.dumpedBy ht true _ _ _ _ ha hg

theorem UpheldAtWork.writeNote (t : TypeName) (note : String) : Keeps (Both G P) (writeNote o t note) := by
  intro w hw
  refine ⟨?_, ?_⟩
  · rw [(outputs_writeNote w o t note w (.refl w)).session]
    exact hw.1
  have written {v : World σ} (hp : P v) : P (withNote o note v) := h.release _ (h.print _ v hp)
  rw [writeNote_apply]
  split
  · next hc =>
    -- a sink is asked for only when the class was loaded
    rw [Bool.and_eq_true, Option.isSome_iff_exists] at hc
    obtain ⟨-, id, hid⟩ := hc
    have ha := h.acquire true Usage.empty w.session.options.identifierPolicy (hv.cached hw.1 hid) w hw.2
    rcases hr : World.acquire o true t Usage.empty w.session.options.identifierPolicy w with ⟨r, v⟩
    rw [hr] at ha
    cases r with
    | error e => exact ha
    | ok a => exact written ha
  · exact written hw.2

theorem UpheldAtWork.dumpMember (archive : Path) (t : TypeName) : Keeps (Both G P) (dumpMember o archive t) := by
  intro w hw
  rw [dumpMember_apply]
  have hd := h.dumpMemberInto hv t w hw
  rcases hr : World.dumpMemberInto o t w with ⟨r, v⟩
  rw [hr] at hd
  cases r with
  | ok outcome => exact hd
  | error e =>
    dsimp only
    split
    · exact hd
    · have hx : Both G P (World.noteException archive (some (memberContext t)) e v).2 :=
        ⟨hd.1, h.noteException archive _ e v hd.2⟩
      have hn := h.writeNote hv t e.describe _ hx
      rcases hr : World.writeNote o t e.describe _ with ⟨r, u⟩
      rw [hr] at hn
      cases r <;> exact hn

theorem UpheldAtWork.dumpMembers (archive : Path) (ts : List TypeName) :
    Keeps (Both G P) (dumpMembers o archive ts) := by
  induction ts with
  | nil => exact .pure _
  | cons t ts ih => exact .try_bind (h.dumpMember hv archive t) fun _ => .try_bind ih fun _ => .pure _

theorem UpheldAtWork.decompileUnit (path : Path) (skipIfInner : Bool) :
    Keeps (Both G P) (decompileUnit o path skipIfInner) := by
  have hd : Keeps (Both G P) (dumpOne o path skipIfInner) := by
    intro w hw
    rw [dumpOne_apply]
    have hs := hv.prepareUnit w.around.files path skipIfInner hw.1
    rcases hp : w.session.prepareUnit w.around.files path skipIfInner with ⟨p, s⟩
    rw [hp] at hs
    have ha (t : TypeName) : Both G P ((log (.progressType t) w).2.withSession s) :=
      ⟨hs, h.session s (h.progress (e := .progressType t) rfl w hw.2)⟩
    cases p with
    | failed said e =>
      cases said with
      | none => exact ⟨hs, h.session s hw.2⟩
      | some t => exact ha t
    | nested t => exact ⟨hs, h.session s hw.2⟩
    | built t id m methods =>
      obtain ⟨ht, hg⟩ := hv.unit hw.1 hp
      dsimp only
      rw [emitUnit_apply]
      exact h.dumpedBy ht false _ _ _ _ (ha t) hg
  have released {v : World σ} (hw : Both G P v) : Both G P (World.release o v).2 := by
    refine ⟨?_, h.release v hw.2⟩
    rw [(outputs_release v o v (.refl v)).session]
    exact hw.1
  intro w hw
  rw [decompileUnit_apply]
  have hw := hd w hw
  rcases hr : dumpOne o path skipIfInner w with ⟨r, v⟩
  rw [hr] at hw
  cases r with
  | ok outcome => exact released hw
  | error e =>
    dsimp only
    split
    · exact released hw
    · exact ⟨(released hw).1, h.noteException path none e _ (released hw).2⟩

end AtWork

section Inside

variable {o : Outlet σ} {T : TypeName → Prop} {P : World σ → Prop} {G : Session → Prop} (h : Upheld o T P)
  (hv : Vouches T G)

include h

theorem Upheld.headBatch (archive : Path) : Keeps P (headBatch o archive) :=
  .bind (h.notice _) fun _ => .bind (h.notice _) fun _ => h.progress rfl

include hv

theorem Upheld.enlist (archive : Path) : Keeps (Both G P) (enlist o archive) := by
  intro w hw
  have hs := hv.loadArchive w.around.files archive hw.1
  rcases hl : Cache.loadArchive w.around.files archive w.session.cache with ⟨r, c⟩
  rw [hl] at hs
  cases r with
  | error e =>
    rw [enlist_unread hl]
    exact ⟨hs, h.session _ hw.2⟩
  | ok types =>
    rw [enlist_read hl]
    have hn := keeps_notices h.notice
      ((collisions (topLevel { w.session with cache := c } (types.filter w.session.options.archiveFilter.accepts))).map
        collisionNotice) _ (h.session { w.session with cache := c } hw.2)
    exact ⟨hv.nameBatch _ hs, h.session _ hn⟩

/-- What comes between the head of a summary and its last line. -/
theorem Upheld.candidates (archive : Path) :
    Keeps (Both G P) (do
      let candidates ← World.enlist o archive
      let units ← World.dumpMembers o archive candidates
      return ⟨archive, candidates.length, units⟩ : Attempt σ BatchReport) :=
  .try_bind (h.enlist hv archive) fun ts => .try_bind (h.dumpMembers hv archive ts) fun _ => .pure _

end Inside

/-! ## Batches and runs -/

section Throughout

variable {o : Outlet σ} {T : TypeName → Prop} {P : World σ → Prop} {G : Session → Prop}
  (h : UpheldThroughout o T P) (hv : Vouches T G)

include h

theorem UpheldThroughout.closeBatch (archive : Path) (r : Except DecompileError BatchReport) :
    Keeps P (closeBatch o archive r) :=
  keeps_closeBatch h.release h.notice (h.noteException archive _) h.closed r

include hv

theorem UpheldThroughout.decompileArchive (archive : Path) : Keeps (Both G P) (decompileArchive o archive) := by
  intro w hw
  rcases ho : (o.openSummary w.around).1 with e | a
  · have hr : o.openSummary w.around = (.error e, (o.openSummary w.around).2) := Prod.ext ho rfl
    rw [decompileArchive_refused hr]
    exact ⟨hw.1, h.noteException archive _ _ _ (h.refused ho hw.2)⟩
  · have hopen := h.opened ho hw.2
    have hhead : Both G P (World.headBatch o archive (opening o w)).2 := ⟨hw.1, h.headBatch archive _ hopen⟩
    have hd := h.candidates hv archive _ hhead
    rw [decompileArchive_opening ho, dumpCollection_eq, attempt_bind_ok (up_apply _ _)]
    refine ⟨?_, h.closeBatch archive _ _ hd.2⟩
    rw [session_closeBatch]
    exact hd.1

theorem UpheldThroughout.runAll (skipLoneInner : Bool) (paths : List Path) (r : RunReport) :
    Keeps (Both G P) (runAll o skipLoneInner paths r) :=
  keeps_runAll (h.decompileUnit hv) (h.decompileArchive hv) skipLoneInner paths r

/-- What every action keeps, a run keeps. -/
theorem UpheldThroughout.runPaths (paths : List Path) : Keeps (Both G P) (runPaths o paths) :=
  keeps_runPaths (h.decompileUnit hv) (h.decompileArchive hv) paths

end Throughout

end World

end ClassSkeleton
