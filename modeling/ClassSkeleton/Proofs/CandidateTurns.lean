import ClassSkeleton.Proofs.FailureIsolation
import ClassSkeleton.Proofs.RunInvariants

/-
  ClassSkeleton.Proofs.CandidateTurns — what the turns of candidates do to the session.

  A batch loads its archive and names the members of the candidates (`enlist_session`). Whatever the outlet, the turn
  of a candidate then leaves the session as its preparation did, or finished (`dumpMember_session`): the session takes
  steps, and the names stay (`after_steps`).
-/

namespace ClassSkeleton

/-! ## The session -/

namespace Session

theorem loadInner_naming (s : Session) (files : FileTree) (id : UnitId) : (s.loadInner files id).naming = s.naming := by
  unfold loadInner
  split <;> rfl

theorem build_naming (s : Session) (id : UnitId) : (s.build id).2.naming = s.naming := by
  unfold build
  split
  · rfl
  unfold analyse
  rcases s.buildModel (s.cache.units.length + 1) id with (e | _) | m <;> rfl

theorem prepare_naming (s : Session) (files : FileTree) (t : TypeName) : (s.prepare files t).2.naming = s.naming := by
  simp only [prepare]
  rcases Cache.resolveByIdentity files t s.cache with ⟨r, c⟩
  cases r with
  | error e => rfl
  | ok id =>
    dsimp only
    split
    · rfl
    · have hb := build_naming ({ s with cache := c : Session }.loadInner files id) id
      rw [loadInner_naming] at hb
      rcases hx : Session.build _ id with ⟨r, s'⟩
      rw [hx] at hb
      cases r <;> exact hb

theorem finishMember_naming (s : Session) (id : UnitId) : (s.finishMember id).naming = s.naming := by
  unfold finishMember
  dsimp only
  split <;> rfl

end Session

namespace World

variable {σ : Type} {o : Outlet σ} {archive : Path} {v w : World σ}

theorem dumpedBy_session (t : TypeName) (g : Session → Session) (x : Except DecompileError String × World σ) :
    (dumpedBy t g x).2.session = x.2.session ∨ (dumpedBy t g x).2.session = g x.2.session := by
  rcases x with ⟨r, v⟩
  cases r with
  | error e => exact .inl rfl
  | ok digest => exact .inr rfl

theorem dumpMemberInto_session (o : Outlet σ) (t : TypeName) (w : World σ) :
    (dumpMemberInto o t w).2.session = (w.session.prepare w.around.files t).2 ∨
      ∃ id m, (w.session.prepare w.around.files t).1 = .built id m ∧
        (dumpMemberInto o t w).2.session = (w.session.prepare w.around.files t).2.finishMember id := by
  have ha := dumpMemberInto_apply o t w
  rcases hp : w.session.prepare w.around.files t with ⟨p, s⟩
  rw [hp] at ha
  cases p with
  | unfound e => exact .inl (by rw [ha]; rfl)
  | nested => exact .inl (by rw [ha]; rfl)
  | unbuilt e => exact .inl (by rw [ha]; rfl)
  | built id m =>
    dsimp only at ha
    rw [emitMember_apply] at ha
    have hs := (outputs_emitText ((announced w t).withSession s) o true t (Usage.collect m)
      ((announced w t).withSession s).session.options.identifierPolicy
      (memberPieces ((announced w t).withSession s).session.options.identifierPolicy m) _ (.refl _)).session
    rcases hr : emitText o true t _ _ _ ((announced w t).withSession s) with ⟨r, v⟩
    rw [hr] at ha hs
    have hsame : v.session = s := hs
    rcases dumpedBy_session t (·.finishMember id) (r, v) with h | h
    · exact .inl (by rw [ha, h, hsame])
    · exact .inr ⟨id, m, rfl, by rw [ha, h, hsame]⟩

/-- The turn of a candidate leaves the session it was prepared with, finished if it was written. -/
theorem dumpMember_session (o : Outlet σ) (archive : Path) (t : TypeName) (w : World σ) :
    (dumpMember o archive t w).2.session = (w.session.prepare w.around.files t).2 ∨
      ∃ id m, (w.session.prepare w.around.files t).1 = .built id m ∧
        (dumpMember o archive t w).2.session = (w.session.prepare w.around.files t).2.finishMember id := by
  have hinto := dumpMemberInto_session o t w
  have hsame : (dumpMember o archive t w).2.session = (dumpMemberInto o t w).2.session := by
    rw [dumpMember_apply]
    rcases dumpMemberInto o t w with ⟨r, v⟩
    cases r with
    | ok outcome => rfl
    | error e =>
      dsimp only
      split
      · rfl
      · have hs := (outputs_writeNote (noteException archive (some (memberContext t)) e v).2 o t e.describe _
          (.refl _)).session
        rcases hn : writeNote o t e.describe (noteException archive (some (memberContext t)) e v).2 with ⟨r, u⟩
        rw [hn] at hs
        cases r <;> exact hs
  rw [hsame]
  exact hinto

/-! ## The candidates of a batch -/

/-- The session once the archive is loaded. -/
def loaded (w : World σ) (archive : Path) : Session :=
  { w.session with cache := (Cache.loadArchive w.around.files archive w.session.cache).2 }

/-- The units whose classes are named together: those of the candidates that were loaded. -/
def handed (w : World σ) (archive : Path) : List UnitId :=
  (w.candidates archive).filterMap (w.loaded archive).cache.get?

/-- The first candidate finds the session with the archive loaded and the candidates named, if that is asked for. -/
theorem enlist_session (o : Outlet σ) (archive : Path) (w : World σ) {types : List TypeName}
    (hl : (Cache.loadArchive w.around.files archive w.session.cache).1 = .ok types) :
    (enlist o archive w).1 = .ok (w.candidates archive) ∧
      (enlist o archive w).2.session = (w.loaded archive).nameBatch (w.candidates archive) := by
  unfold loaded candidates
  rcases hc : Cache.loadArchive w.around.files archive w.session.cache with ⟨r, c⟩
  rw [hc] at hl
  cases hl
  rw [enlist_read hc]
  exact ⟨rfl, rfl⟩

/-- The turns of candidates are steps of the session that leave the names alone. -/
theorem after_steps (o : Outlet σ) (archive : Path) (front : List TypeName) {w : World σ} (hs : w.session.Good) :
    Session.Reaches FileTree.Any w.session (after o archive front w).session ∧
      (after o archive front w).session.naming = w.session.naming := by
  induction front generalizing w with
  | nil => exact ⟨.refl _, rfl⟩
  | cons t front ih =>
    have hone : Session.Reaches FileTree.Any w.session (dumpMember o archive t w).2.session ∧
        (dumpMember o archive t w).2.session.naming = w.session.naming := by
      have hn := w.session.prepare_naming w.around.files t
      rcases hp : w.session.prepare w.around.files t with ⟨p, s⟩
      obtain ⟨hsteps, hbuilt⟩ := Session.prepare_steps w.around.files.any hs.sound hs.faithful hp
      rw [hp] at hn
      have hd := dumpMember_session o archive t w
      rw [hp] at hd
      rcases hd with hd | ⟨id, m, hm, hd⟩
      · rw [hd]
        exact ⟨hsteps, hn⟩
      · rw [hd]
        exact ⟨hsteps.trans (Session.finishMember_reaches w.around.files.any (hbuilt id m hm).2),
          (Session.finishMember_naming s id).trans hn⟩
    obtain ⟨hrest, hnrest⟩ := ih (hs.reaches hone.1)
    exact ⟨hone.1.trans hrest, hnrest.trans hone.2⟩

theorem enlist_reaches (o : Outlet σ) (archive : Path) (w : World σ) :
    Session.Reaches FileTree.Any w.session (enlist o archive w).2.session := by
  have hload : Session.Reaches FileTree.Any w.session (w.loaded archive) :=
    (Session.Step.cache w.around.files.any (.loadArchive archive)).reaches
  unfold loaded at hload
  rcases hl : Cache.loadArchive w.around.files archive w.session.cache with ⟨r, c⟩
  rw [hl] at hload
  cases r with
  | error e =>
    rw [enlist_unread hl]
    exact hload.trans (Session.Step.failed e).reaches
  | ok types =>
    rw [enlist_read hl]
    exact hload.trans (Session.nameBatch_reaches _ _)

end World

end ClassSkeleton
