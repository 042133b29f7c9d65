import ClassSkeleton.Output.Memory
import ClassSkeleton.Proofs.BatchAccounts
import ClassSkeleton.Proofs.ScriptedSinks

/-
  ClassSkeleton.Proofs.FailureIsolation — a failing class does no harm to others.

  Two batches over the same archive, from the same session, with outlets that follow scripts. The scripts
  differ on some types only. A candidate of such a type may end in different ways, after different calls,
  with more sinks here than there; but the two worlds stay alike (`Alike`): the sessions are blurred to
  the same, loading finds the same, and every other type has the same texts. Alike worlds prepare the next
  candidate alike, and if the scripts agree on it, it takes the same turn (`dumpMember_alike`). So every
  candidate on which the scripts agree has the same outcome and the same texts (`failure_isolation`).
-/

namespace ClassSkeleton

namespace Script

/-- Sinks for the type fail alike. -/
def AgreeOn (s₁ s₂ : Script) (t : TypeName) : Prop := s₁.print t = s₂.print t ∧ s₁.close t = s₂.close t

variable {s₁ s₂ : Script} {t : TypeName}

theorem prints_congr (h : s₁.print t = s₂.print t) (k : Nat) (pieces : List String) :
    s₁.prints t k pieces = s₂.prints t k pieces := by
  induction pieces generalizing k with
  | nil => rfl
  | cons text rest ih => simp only [prints, h, ih]

theorem turn_congr (h : AgreeOn s₁ s₂ t) (policy : IdentifierPolicy) (loaded : Bool) (p : Preparation) :
    s₁.turn policy t loaded p = s₂.turn policy t loaded p := by
  obtain ⟨hp, hc⟩ := h
  cases p with
  | nested => rfl
  | unfound e => simp only [turn, note, taken, hp]
  | unbuilt e => simp only [turn, note, taken, hp]
  | built id m => simp only [turn, note, taken, hp, hc, prints_congr hp]

end Script

namespace World

variable {σ₁ σ₂ : Type} {F : TypeName → Prop} {archive : Path} {types : TypeName → Prop} {script₁ script₂ : Script}
  {o₁ : Outlet σ₁} {fit₁ : Surroundings σ₁ → Prop} {view₁ : Surroundings σ₁ → Nat → TypeName → Nat → Prop}
  {o₂ : Outlet σ₂} {fit₂ : Surroundings σ₂ → Prop} {view₂ : Surroundings σ₂ → Nat → TypeName → Nat → Prop}
  {w₁ v₁ : World σ₁} {w₂ v₂ : World σ₂}

/-! ## Worlds that are alike -/

/-- Between candidates: the outlet is in a state of the run, nothing is in hand, and the numbers of sinks are
accounted for. -/
structure Idle {σ : Type} (fit : Surroundings σ → Prop) (w : World σ) : Prop where
  fits : fit w.around
  memory : w.session.options.lowMemory = false
  held : w.held = none
  within : Event.Within 0 w.sinks w.trace

/-- Worlds that differ in nothing that types outside `F` are affected by. -/
structure Alike (F : TypeName → Prop) (archive : Path) (fit₁ : Surroundings σ₁ → Prop) (fit₂ : Surroundings σ₂ → Prop)
    (w₁ : World σ₁) (w₂ : World σ₂) : Prop where
  session : w₁.session.blur = w₂.session.blur
  files : w₁.around.files.SameClasses archive w₂.around.files
  idle₁ : Idle fit₁ w₁
  idle₂ : Idle fit₂ w₂
  texts : ∀ t, ¬ F t → Event.textsFor w₁.trace t = Event.textsFor w₂.trace t

theorem Alike.crash (h : Alike F archive fit₁ fit₂ w₁ w₂) : w₁.crash = w₂.crash := congrArg (·.cache.crash) h.session

section Idle

variable {σ : Type} {fit : Surroundings σ → Prop} {w v : World σ} {t : TypeName} {texts : List String}

theorem Wrote.textsFor (h : Wrote archive fit w t texts v) (hw : Idle fit w) (s : TypeName) :
    Event.textsFor v.trace s = Event.textsFor w.trace s ++ if s = t then texts else [] := by
  obtain ⟨more, ht, hm, hx⟩ := h.trace
  rw [ht, Event.textsFor_append hw.within hm, hx]

theorem Wrote.idle (h : Wrote archive fit w t texts v) (hw : Idle fit w)
    (hs : v.session.options = w.session.options) : Idle fit v := by
  obtain ⟨more, ht, hm, -⟩ := h.trace
  refine ⟨h.fits, by rw [hs]; exact hw.memory, h.held, ?_⟩
  rw [ht]
  exact hw.within.append hm (Nat.zero_le _) h.sinks

theorem Quietly.idle (h : Quietly archive fit w v) (hw : Idle fit w) (hs : v.session.options = w.session.options) :
    Idle fit v := (Wrote.of_quietly h hw.held ⟨""⟩).idle hw hs

theorem Quietly.textsFor (h : Quietly archive fit w v) (hw : Idle fit w) (t : TypeName) :
    Event.textsFor v.trace t = Event.textsFor w.trace t := by
  rw [(Wrote.of_quietly h hw.held t).textsFor hw, ite_self, List.append_nil]

end Idle

theorem Alike.quietly (hw : Alike F archive fit₁ fit₂ w₁ w₂) (h₁ : Quietly archive fit₁ w₁ v₁)
    (h₂ : Quietly archive fit₂ w₂ v₂) (hs : v₁.session.blur = v₂.session.blur)
    (ho : v₁.session.options = w₁.session.options) : Alike F archive fit₁ fit₂ v₁ v₂ := by
  have hv : v₁.session.options = v₂.session.options := congrArg (·.options) hs
  have hw₂ : w₁.session.options = w₂.session.options := congrArg (·.options) hw.session
  refine ⟨hs, h₁.files.trans (hw.files.trans h₂.files.symm), h₁.idle hw.idle₁ ho, ?_, fun t ht => ?_⟩
  · exact h₂.idle hw.idle₂ (by rw [← hv, ho, hw₂])
  · rw [h₁.textsFor hw.idle₁, h₂.textsFor hw.idle₂, hw.texts t ht]

/-- What two runs come to: both are at the same crash, by the same error, or both go on with results so related. -/
structure Paired {α : Type} (F : TypeName → Prop) (archive : Path) (fit₁ : Surroundings σ₁ → Prop)
    (fit₂ : Surroundings σ₂ → Prop) (R : α → α → Prop) (x₁ : Except DecompileError α × World σ₁)
    (x₂ : Except DecompileError α × World σ₂) : Prop where
  alike : Alike F archive fit₁ fit₂ x₁.2 x₂.2
  ends : (x₁.2.crash.isSome = true ∧ ∃ e, x₁.1 = .error e ∧ x₂.1 = .error e) ∨
    (x₁.2.crash = none ∧ ∃ a₁ a₂, x₁.1 = .ok a₁ ∧ x₂.1 = .ok a₂ ∧ R a₁ a₂)

/-! ## Candidates -/

/-- Alike worlds prepare a candidate alike, so its turns can differ by the scripts only. -/
theorem turnBy_alike (hw : Alike F archive fit₁ fit₂ w₁ w₂) {t : TypeName} (ht : script₁.AgreeOn script₂ t) :
    turnBy script₁ w₁ t = turnBy script₂ w₂ t := by
  obtain ⟨hp, hs⟩ := Session.prepare_alike hw.session w₂.around.files t
  have hg : (w₁.session.prepare w₂.around.files t).2.cache.get? t =
      (w₂.session.prepare w₂.around.files t).2.cache.get? t := congrArg (fun s => s.cache.get? t) hs
  have ho : w₁.session.options = w₂.session.options := congrArg (·.options) hw.session
  unfold turnBy
  rw [Session.prepare_congr hw.files, hg, hp, ho]
  exact Script.turn_congr ht _ _ _

/-- What a candidate changes when it crashes the program while it is prepared. -/
theorem quietly_fallen {σ : Type} {fit : Surroundings σ → Prop} {w v : World σ} {t : TypeName} (hw : fit w.around)
    (h : v = w.withSession v.session ∨ v = (announced w t).withSession v.session) : Quietly archive fit w v := by
  have hsaid : Quietly archive fit w (announced w t) := quietly_announced hw t
  rcases h with h | h <;> rw [h]
  · exact .session hw _
  · exact hsaid.trans (.session hsaid.fits _)

/-- Alike worlds stay alike over a candidate, and it ends the same way in both unless it is in `F`. -/
theorem dumpMember_alike (h₁ : o₁.Follows script₁ archive types fit₁ view₁)
    (h₂ : o₂.Follows script₂ archive types fit₂ view₂) (hF : ∀ t, ¬ F t → script₁.AgreeOn script₂ t)
    (hw : Alike F archive fit₁ fit₂ w₁ w₂) (hr : w₁.crash = none) {t : TypeName} (ht : types t) :
    Paired F archive fit₁ fit₂ (fun a₁ a₂ => ¬ F t → a₁ = a₂) (dumpMember o₁ archive t w₁)
      (dumpMember o₂ archive t w₂) := by
  obtain ⟨hprep, hblur⟩ := Session.prepare_alike hw.session w₂.around.files t
  rw [← Session.prepare_congr hw.files] at hprep hblur
  have ho₁ := w₁.session.prepare_options w₁.around.files t
  have ho₂ := w₂.session.prepare_options w₂.around.files t
  have hcrash : (w₁.session.prepare w₁.around.files t).2.cache.crash =
      (w₂.session.prepare w₂.around.files t).2.cache.crash := congrArg (·.cache.crash) hblur
  cases hc : (w₁.session.prepare w₁.around.files t).2.cache.crash with
  | some cause =>
    rw [hc] at hcrash
    obtain ⟨e, v₁, he, hd₁, hs₁, hq₁⟩ := dumpMember_falls hr (by rw [hc]; rfl) o₁ archive
    obtain ⟨e', v₂, he', hd₂, hs₂, hq₂⟩ := dumpMember_falls (hw.crash.symm.trans hr) (by rw [← hcrash]; rfl) o₂ archive
    rw [hprep, he'] at he
    cases he
    rw [hd₁, hd₂]
    refine ⟨hw.quietly (quietly_fallen hw.idle₁.fits hq₁) (quietly_fallen hw.idle₂.fits hq₂) ?_ ?_, .inl ⟨?_, e, rfl, rfl⟩⟩
    · rw [hs₁, hs₂, hblur]
    · rw [hs₁, ho₁]
    · rw [crash, hs₁, hc]
      rfl
  | none =>
    rw [hc] at hcrash
    obtain ⟨v₁, hd₁, hv₁, hb₁⟩ := dumpMember_scripted h₁ ht hw.idle₁.fits hw.idle₁.held hw.idle₁.memory hc
    obtain ⟨v₂, hd₂, hv₂, hb₂⟩ := dumpMember_scripted h₂ ht hw.idle₂.fits hw.idle₂.held hw.idle₂.memory hcrash.symm
    have hs₁ : v₁.session.options = w₁.session.options := (congrArg (·.options) hb₁).trans ho₁
    have hs₂ : v₂.session.options = w₂.session.options := (congrArg (·.options) hb₂).trans ho₂
    have hturn (hn : ¬ F t) := turnBy_alike hw (hF t hn)
    rw [hd₁, hd₂]
    refine ⟨⟨?_, hv₁.files.trans (hw.files.trans hv₂.files.symm), hv₁.idle hw.idle₁ hs₁, hv₂.idle hw.idle₂ hs₂,
      fun s hs => ?_⟩, .inr ⟨?_, _, _, rfl, rfl, fun hn => by rw [hturn hn]⟩⟩
    · rw [hb₁, hb₂, hblur]
    · rw [hv₁.textsFor hw.idle₁, hv₂.textsFor hw.idle₂, hw.texts s hs]
      split
      · next heq => rw [hturn (heq ▸ hs)]
      · rfl
    · exact (congrArg (·.cache.crash) hb₁).trans hc

/-- Outcomes that agree wherever the candidate is not in `F`. -/
structure AgreeOutside (F : TypeName → Prop) (ts : List TypeName) (as bs : List UnitOutcome) : Prop where
  length₁ : as.length = ts.length
  length₂ : bs.length = ts.length
  same : ∀ (i : Nat) t, ts[i]? = some t → ¬ F t → as[i]? = bs[i]?

theorem AgreeOutside.cons {a b : UnitOutcome} {t : TypeName} {ts : List TypeName} {as bs : List UnitOutcome}
    (hab : ¬ F t → a = b) (h : AgreeOutside F ts as bs) : AgreeOutside F (t :: ts) (a :: as) (b :: bs) := by
  refine ⟨by simp [h.length₁], by simp [h.length₂], fun i s hi hs => ?_⟩
  cases i with
  | zero => cases hi; simp [hab hs]
  | succ i => exact h.same i s hi hs

theorem dumpMembers_alike (h₁ : o₁.Follows script₁ archive types fit₁ view₁)
    (h₂ : o₂.Follows script₂ archive types fit₂ view₂) (hF : ∀ t, ¬ F t → script₁.AgreeOn script₂ t)
    (hw : Alike F archive fit₁ fit₂ w₁ w₂) (hr : w₁.crash = none) {ts : List TypeName} (hts : ∀ t ∈ ts, types t) :
    Paired F archive fit₁ fit₂ (AgreeOutside F ts) (dumpMembers o₁ archive ts w₁) (dumpMembers o₂ archive ts w₂) := by
  induction ts generalizing w₁ w₂ with
  | nil => exact ⟨hw, .inr ⟨hr, [], [], rfl, rfl, rfl, rfl, fun i t h => (by simp at h)⟩⟩
  | cons t ts ih =>
    obtain ⟨hu, hd⟩ := dumpMember_alike h₁ h₂ hF hw hr (hts t List.mem_cons_self)
    rw [dumpMembers_cons, dumpMembers_cons]
    rcases hd₁ : dumpMember o₁ archive t w₁ with ⟨r₁, u₁⟩
    rcases hd₂ : dumpMember o₂ archive t w₂ with ⟨r₂, u₂⟩
    rw [hd₁, hd₂] at hu hd
    rcases hd with ⟨hc, e, rfl, rfl⟩ | ⟨hc, a, b, rfl, rfl, hab⟩
    · exact ⟨hu, .inl ⟨hc, e, rfl, rfl⟩⟩
    · obtain ⟨hv, hm⟩ := ih hu hc fun s hs => hts s (List.mem_cons_of_mem t hs)
      refine ⟨hv, ?_⟩
      dsimp only
      rcases hm with ⟨hc', e, he₁, he₂⟩ | ⟨hc', as, bs, has, hbs, hsame⟩
      · exact .inl ⟨hc', e, by rw [he₁]; rfl, by rw [he₂]; rfl⟩
      · exact .inr ⟨hc', a :: as, b :: bs, by rw [has]; rfl, by rw [hbs]; rfl, hsame.cons hab⟩

/-! ## The two batches -/

section Batch

variable {σ : Type} {o : Outlet σ} {script : Script} {fit : Surroundings σ → Prop} {w : World σ}

theorem quietly_begun (ho : OutletM.Spares archive fit o.openSummary)
    (hn : ∀ text, OutletM.Spares archive fit (o.notify text)) (hw : fit w.around) :
    Quietly archive fit w (headed o archive w) := by
  obtain ⟨hfit, hfiles⟩ := ho w.around hw
  have hopen : Quietly archive fit w (opening o w) :=
    ⟨hfit, hfiles, rfl, rfl, [.summaryOpened], rfl, by simp [Event.sink?]⟩
  have hhead : Keeps (Quietly archive fit w) (headBatch o archive) :=
    .bind (quietly_notify hn w _) fun _ => .bind (quietly_notify hn w _) fun _ u hu =>
      hu.trans (.event hu.fits (.progressPath archive) rfl u.records u.session)
  exact hhead _ hopen

theorem quietly_listed (hn : ∀ text, OutletM.Spares archive fit (o.notify text)) (hw : fit w.around) :
    Quietly archive fit w (enlist o archive w).2 := by
  rcases hl : Cache.loadArchive w.around.files archive w.session.cache with ⟨r, c⟩
  cases r with
  | error e => rw [enlist_unread hl]; exact .session hw _
  | ok types =>
    rw [enlist_read hl]
    have hq (texts : List String) := keeps_notices (quietly_notify hn w) texts _
      (.session hw { w.session with cache := c })
    exact (hq _).trans (.session (hq _).fits _)

theorem enlist_options (o : Outlet σ) (archive : Path) (w : World σ) :
    (enlist o archive w).2.session.options = w.session.options := by
  rcases hl : Cache.loadArchive w.around.files archive w.session.cache with ⟨r, c⟩
  cases r with
  | error e => rw [enlist_unread hl]; rfl
  | ok types =>
    rw [enlist_read hl]
    simp only [withSession_session, Session.nameBatch]
    split <;> rfl

/-- What closes a batch says nothing on sinks when none is in hand. -/
theorem closeBatch_quiet (o : Outlet σ) (archive : Path) (r : Except DecompileError BatchReport) (hw : w.held = none) :
    ∃ more, (closeBatch o archive r w).2.trace = w.trace ++ more ∧ ∀ e ∈ more, e.sink? = none := by
  rw [closeBatch_apply, release_none o hw]
  split
  · exact ⟨[], (List.append_nil _).symm, by simp⟩
  · cases r with
    | ok report =>
      refine ⟨[.notice (lastNotice report), .summaryClosed], ?_, by simp [Event.sink?]⟩
      simp [sumUp, act_bind]
    | error e =>
      refine ⟨[.exception ⟨archive, some archiveContext, e.kind, e.describe⟩,
        .notice (archiveContext ++ " " ++ e.describe), .summaryClosed], ?_, by simp [Event.sink?]⟩
      simp [sumUp, act_bind]

theorem closeBatch_textsFor (o : Outlet σ) (archive : Path) (r : Except DecompileError BatchReport) (hw : Idle fit w)
    (t : TypeName) : Event.textsFor (closeBatch o archive r w).2.trace t = Event.textsFor w.trace t := by
  obtain ⟨more, ht, hm⟩ := closeBatch_quiet o archive r hw.held
  rw [ht, Event.textsFor_append hw.within (Event.within_of_quiet hm _ w.sinks), Event.textsFor_quiet hm,
    List.append_nil]

end Batch

theorem Alike.closeBatch (hv : Alike F archive fit₁ fit₂ v₁ v₂) (o₁ : Outlet σ₁) (o₂ : Outlet σ₂)
    (r₁ r₂ : Except DecompileError BatchReport) {t : TypeName} (ht : ¬ F t) :
    Event.textsFor (World.closeBatch o₁ archive r₁ v₁).2.trace t =
      Event.textsFor (World.closeBatch o₂ archive r₂ v₂).2.trace t := by
  rw [closeBatch_textsFor o₁ archive r₁ hv.idle₁, closeBatch_textsFor o₂ archive r₂ hv.idle₂, hv.texts t ht]

theorem candidates_congr (hs : w₁.session = w₂.session) (hf : w₁.around.files.SameClasses archive w₂.around.files) :
    w₁.candidates archive = w₂.candidates archive := by
  simp only [candidates, Cache.loadArchive_congr hf, hs]

/-- The same session and the same archive: the same candidates, and the same session before the first of them. -/
theorem enlist_congr (o₁ : Outlet σ₁) (o₂ : Outlet σ₂) (hs : w₁.session = w₂.session)
    (hf : w₁.around.files.SameClasses archive w₂.around.files) :
    (enlist o₁ archive w₁).1 = (enlist o₂ archive w₂).1 ∧
      (enlist o₁ archive w₁).2.session = (enlist o₂ archive w₂).2.session := by
  rcases hl₂ : Cache.loadArchive w₂.around.files archive w₂.session.cache with ⟨r, c⟩
  have hl₁ : Cache.loadArchive w₁.around.files archive w₁.session.cache = (r, c) := by
    rw [Cache.loadArchive_congr hf, hs, hl₂]
  cases r with
  | error e =>
    rw [enlist_unread hl₁, enlist_unread hl₂]
    simp only [withSession_session, hs, and_self]
  | ok types =>
    rw [enlist_read hl₁, enlist_read hl₂]
    simp only [withSession_session, hs, and_self]

/-- The work on two batches: the archive cannot be read for either, or the candidates have their turns in both. -/
theorem dumpCollection_alike (h₁ : o₁.Follows script₁ archive types fit₁ view₁)
    (h₂ : o₂.Follows script₂ archive types fit₂ view₂) (hF : ∀ t, ¬ F t → script₁.AgreeOn script₂ t)
    (hw : Alike F archive fit₁ fit₂ (headBatch o₁ archive w₁).2 (headBatch o₂ archive w₂).2)
    (hs : w₁.session = w₂.session) (hr : w₁.crash = none)
    (hts : ∀ t ∈ (headBatch o₁ archive w₁).2.candidates archive, types t) :
    Alike F archive fit₁ fit₂ (dumpCollection o₁ archive w₁).2 (dumpCollection o₂ archive w₂).2 ∧
      ((∃ cause, (Cache.loadArchive (headBatch o₁ archive w₁).2.around.files archive w₁.session.cache).1 = .error cause ∧
        (dumpCollection o₁ archive w₁).1 = .error (.load cause) ∧
        (dumpCollection o₂ archive w₂).1 = .error (.load cause)) ∨
      ∃ found, (Cache.loadArchive (headBatch o₁ archive w₁).2.around.files archive w₁.session.cache).1 = .ok found ∧
        Paired F archive fit₁ fit₂
          (fun r₁ r₂ => AgreeOutside F ((headBatch o₁ archive w₁).2.candidates archive) r₁.units r₂.units)
          (dumpCollection o₁ archive w₁) (dumpCollection o₂ archive w₂)) := by
  have hsame : (headBatch o₁ archive w₁).2.session = (headBatch o₂ archive w₂).2.session := hs
  obtain ⟨hresult, hlisted⟩ := enlist_congr o₁ o₂ hsame hw.files
  have hv := hw.quietly (quietly_listed h₁.sparesNotify hw.idle₁.fits) (quietly_listed h₂.sparesNotify hw.idle₂.fits)
    (congrArg Session.blur hlisted) (enlist_options o₁ archive _)
  have hsession : w₁.session = (headBatch o₁ archive w₁).2.session := rfl
  rw [dumpCollection_apply, dumpCollection_apply, hsession]
  have hcrash {found : List TypeName} (hl : (Cache.loadArchive (headBatch o₁ archive w₁).2.around.files archive
      (headBatch o₁ archive w₁).2.session.cache).1 = .ok found) := (enlist_crash hl o₁).trans hr
  rcases he₁ : enlist o₁ archive (headBatch o₁ archive w₁).2 with ⟨r, v₁⟩
  rcases he₂ : enlist o₂ archive (headBatch o₂ archive w₂).2 with ⟨r', v₂⟩
  rw [he₁, he₂] at hresult hv
  rw [he₁] at hcrash
  cases hresult
  cases r with
  | error e =>
    obtain ⟨cause, hl, rfl, -⟩ := enlist_error he₁
    exact ⟨hv, .inl ⟨cause, hl, rfl, rfl⟩⟩
  | ok ts =>
    obtain ⟨⟨found, hl⟩, rfl, -⟩ := enlist_ok he₁
    obtain ⟨hu, hm⟩ := dumpMembers_alike h₁ h₂ hF hv (hcrash hl) hts
    refine ⟨hu, .inr ⟨found, hl, hu, ?_⟩⟩
    dsimp only
    rcases hm with ⟨hc, e, hm₁, hm₂⟩ | ⟨hc, as, bs, hm₁, hm₂, ha⟩
    · exact .inl ⟨hc, e, by rw [hm₁]; rfl, by rw [hm₂]; rfl⟩
    · exact .inr ⟨hc, _, _, by rw [hm₁]; rfl, by rw [hm₂]; rfl, ha⟩

/-- What two batches over an archive have in common. -/
structure Isolated (F : TypeName → Prop) (archive : Path) (o₁ : Outlet σ₁) (w₁ : World σ₁) (o₂ : Outlet σ₂)
    (w₂ : World σ₂) : Prop where
  /-- If the archive can be read, and the program does not crash, both report outcomes, and they agree outside `F`. -/
  outcomes : ∀ types, (Cache.loadArchive w₁.around.files archive w₁.session.cache).1 = .ok types →
    (decompileArchive o₁ archive w₁).2.crash = none →
      ∃ r₁ r₂, (decompileArchive o₁ archive w₁).1 = .ok r₁ ∧ (decompileArchive o₂ archive w₂).1 = .ok r₂ ∧
        AgreeOutside F (w₁.candidates archive) r₁.units r₂.units
  /-- If it cannot be read, that is the error of both. -/
  unread : ∀ cause, (Cache.loadArchive w₁.around.files archive w₁.session.cache).1 = .error cause →
    (decompileArchive o₁ archive w₁).1 = .error (.load cause) ∧ (decompileArchive o₂ archive w₂).1 = .error (.load cause)
  /-- What crashes the program in one of them crashes it in the other. -/
  crash : (decompileArchive o₁ archive w₁).2.crash = (decompileArchive o₂ archive w₂).2.crash ∧
    ∀ cause, (decompileArchive o₁ archive w₁).2.crash = some cause →
      (∃ earlier, Fell o₁ archive w₁ cause earlier (decompileArchive o₁ archive w₁).2) ∧
      ∃ earlier, Fell o₂ archive w₂ cause earlier (decompileArchive o₂ archive w₂).2
  texts : ∀ t, ¬ F t → Event.textsFor (decompileArchive o₁ archive w₁).2.trace t =
    Event.textsFor (decompileArchive o₂ archive w₂).2.trace t

/-- A failing class does no harm to others. Two batches over an archive from one session, with outlets that
refuse no sink to a candidate and whose faults depend on the type and the number of the call only: every candidate
that the outlets' faults agree on ends the same way in both, and the sinks for its type take the same texts. -/
theorem failure_isolation {files : FileTree} {session : Session} {state₁ : σ₁} {state₂ : σ₂}
    (h₁ : o₁.Follows script₁ archive (· ∈ (start session files state₁).candidates archive) fit₁ view₁)
    (h₂ : o₂.Follows script₂ archive (· ∈ (start session files state₁).candidates archive) fit₂ view₂)
    (hf₁ : fit₁ ⟨files, state₁⟩) (hf₂ : fit₂ ⟨files, state₂⟩) (hF : ∀ t, ¬ F t → script₁.AgreeOn script₂ t)
    (hl : session.options.lowMemory = false) (hr : session.cache.crash = none) :
    Isolated F archive o₁ (start session files state₁) o₂ (start session files state₂) := by
  have hq₁ : Quietly archive fit₁ (start session files state₁) (headed o₁ archive (start session files state₁)) :=
    quietly_begun h₁.sparesOpen h₁.sparesNotify hf₁
  have hq₂ : Quietly archive fit₂ (start session files state₂) (headed o₂ archive (start session files state₂)) :=
    quietly_begun h₂.sparesOpen h₂.sparesNotify hf₂
  have hidle₁ : Idle fit₁ (start session files state₁) := ⟨hf₁, hl, rfl, fun e he => (by cases he)⟩
  have hidle₂ : Idle fit₂ (start session files state₂) := ⟨hf₂, hl, rfl, fun e he => (by cases he)⟩
  have hw : Alike F archive fit₁ fit₂ (start session files state₁) (start session files state₂) :=
    ⟨rfl, .refl .., hidle₁, hidle₂, fun _ _ => rfl⟩
  have hh : Alike F archive fit₁ fit₂ (headed o₁ archive (start session files state₁))
      (headed o₂ archive (start session files state₂)) := hw.quietly hq₁ hq₂ rfl rfl
  have hs : (opening o₁ (start session files state₁)).session = (opening o₂ (start session files state₂)).session := rfl
  have hcands : (start session files state₁).candidates archive =
      (headed o₁ archive (start session files state₁)).candidates archive := candidates_congr rfl hq₁.files.symm
  have hload : Cache.loadArchive files archive session.cache =
      Cache.loadArchive (headed o₁ archive (start session files state₁)).around.files archive session.cache :=
    Cache.loadArchive_congr hq₁.files.symm _
  obtain ⟨hv, hends⟩ := dumpCollection_alike h₁ h₂ hF hh rfl hr fun t ht => by rw [hcands]; exact ht
  have hfell₁ := (batch_accounts o₁ archive (start session files state₁)).2.2.2
  have hfell₂ := (batch_accounts o₂ archive (start session files state₂)).2.2.2
  have hrun₁ := decompileArchive_opening (w := start session files state₁) (h₁.openSummary _ hf₁) archive
  have hrun₂ := decompileArchive_opening (w := start session files state₂) (h₂.openSummary _ hf₂) archive
  have hcrash : (decompileArchive o₁ archive (start session files state₁)).2.crash =
      (decompileArchive o₂ archive (start session files state₂)).2.crash := by
    rw [hrun₁, hrun₂]
    dsimp only
    rw [closeBatch_crash, closeBatch_crash, hv.crash]
  refine ⟨fun found hl hc => ?_, fun cause hl => ?_, ⟨hcrash, fun cause hc => ?_⟩, fun t ht => ?_⟩
  · rcases hends with ⟨cause, hcause, -⟩ | ⟨-, -, hpaired⟩
    · cases (hl.symm.trans (congrArg Prod.fst hload)).trans hcause
    · rw [hrun₁] at hc ⊢
      rw [hrun₂, hcands]
      rw [closeBatch_crash] at hc
      rcases hpaired.ends with ⟨hfallen, -⟩ | ⟨-, hreports⟩
      · rw [hc] at hfallen
        cases hfallen
      · exact hreports
  · rcases hends with ⟨cause', hcause, hends⟩ | ⟨found, hfound, -⟩
    · cases (hl.symm.trans (congrArg Prod.fst hload)).trans hcause
      rw [hrun₁, hrun₂]
      exact hends
    · cases (hl.symm.trans (congrArg Prod.fst hload)).trans hfound
  · exact ⟨(hfell₁ cause hc hr).1, (hfell₂ cause (hcrash ▸ hc) hr).1⟩
  · rw [hrun₁, hrun₂]
    exact hv.closeBatch o₁ o₂ _ _ ht

end World

/-! ## An outlet of this kind -/

def Faults.none : Faults := ⟨[], [], [], [], false⟩

namespace Memory

/-- The script of the faults. -/
def script (f : Faults) : Script where
  print t k := if f.write.contains t || (f.writeOnce.contains t && k == 0) then .error (.other "disk full") else .ok ()
  close t _ := if f.close.contains t then .error (.other "close failed") else .ok ()

/-! What is kept in memory is no file. -/

theorem spares_acquire (f : Faults) (archive : Path) (n : Nat) (t : TypeName) (usage : Usage)
    (policy : IdentifierPolicy) : OutletM.Spares archive (fun _ => True) ((outlet f).acquire n t usage policy) := by
  refine fun s _ => ⟨trivial, ?_⟩
  simp only [outlet, acquire]
  split <;> exact .refl ..

theorem spares_print (f : Faults) (archive : Path) (n : Nat) (text : String) :
    OutletM.Spares archive (fun _ => True) ((outlet f).print n text) := by
  refine fun s _ => ⟨trivial, ?_⟩
  simp only [outlet, print]
  split <;> exact .refl ..

theorem spares_close (f : Faults) (archive : Path) (n : Nat) :
    OutletM.Spares archive (fun _ => True) ((outlet f).close n) := by
  refine fun s _ => ⟨trivial, ?_⟩
  simp only [outlet, close]
  split <;> exact .refl ..

theorem outlet_follows {f : Faults} {types : TypeName → Prop} (hs : f.summary = false) (archive : Path)
    (hc : ∀ t, types t → t ∉ f.create) :
    (outlet f).Follows (script f) archive types (fun _ => True) fun s n t k => s.state.get? n = some (t, k) where
  acquire n t usage policy s ht _ := by simp [outlet, acquire, hc t ht]
  print n text s t k _ h := by simp [outlet, print, script, h]
  close n s t k _ h := by simp [outlet, close, script, h]
  openSummary s _ := by
    show (if f.summary then _ else _) = _
    rw [hs]
    rfl
  notify _ _ _ _ _ := id
  sparesAcquire n t usage policy _ := spares_acquire f archive n t usage policy
  sparesPrint := spares_print f archive
  sparesClose := spares_close f archive
  sparesOpen s _ := ⟨trivial, .refl ..⟩
  sparesNotify text s _ := ⟨trivial, .refl ..⟩

/-- An archive of two classes, `A` and `B`, without members. -/
def twoClasses : List UInt8 :=
  [80, 75, 3, 4, 20, 0, 0, 0, 0, 0, 0, 0, 0, 0, 97, 2, 206, 82, 31, 0, 0, 0, 31, 0, 0, 0, 7, 0, 0, 0, 65, 46,
   99, 108, 97, 115, 115, 202, 254, 186, 190, 0, 0, 0, 52, 0, 3, 1, 0, 1, 65, 7, 0, 1, 0, 33, 0, 2, 0, 0, 0, 0,
   0, 0, 0, 0, 0, 0, 80, 75, 3, 4, 20, 0, 0, 0, 0, 0, 0, 0, 0, 0, 3, 223, 72, 184, 31, 0, 0, 0, 31, 0, 0, 0, 7,
   0, 0, 0, 66, 46, 99, 108, 97, 115, 115, 202, 254, 186, 190, 0, 0, 0, 52, 0, 3, 1, 0, 1, 66, 7, 0, 1, 0, 33,
   0, 2, 0, 0, 0, 0, 0, 0, 0, 0, 0, 0, 80, 75, 1, 2, 20, 0, 20, 0, 0, 0, 0, 0, 0, 0, 0, 0, 97, 2, 206, 82, 31,
   0, 0, 0, 31, 0, 0, 0, 7, 0, 0, 0, 0, 0, 0, 0, 0, 0, 0, 0, 0, 0, 0, 0, 0, 0, 65, 46, 99, 108, 97, 115, 115,
   80, 75, 1, 2, 20, 0, 20, 0, 0, 0, 0, 0, 0, 0, 0, 0, 3, 223, 72, 184, 31, 0, 0, 0, 31, 0, 0, 0, 7, 0, 0, 0,
   0, 0, 0, 0, 0, 0, 0, 0, 0, 0, 68, 0, 0, 0, 66, 46, 99, 108, 97, 115, 115, 80, 75, 5, 6, 0, 0, 0, 0, 2, 0, 2,
   0, 106, 0, 0, 0, 136, 0, 0, 0, 0, 0]

/-- The world before a batch over that archive, in a session that has loaded nothing. -/
def twoClassStart : World State :=
  .start ⟨{ Options.default with decompileInnerClasses := false }, .empty, .empty⟩ ⟨[(["a.jar"], .file twoClasses)], []⟩ []

def twoClassBatch (f : Faults) : Except DecompileError BatchReport × World State :=
  World.decompileArchive (outlet f) ⟨"a.jar"⟩ twoClassStart

/-- Which of the classes were dumped. -/
def dumpedIn (f : Faults) : Option (List Bool) := (twoClassBatch f).1.toOption.map fun r => r.units.map (·.isDumped)

theorem twoClassBatch_dumps :
    twoClassStart.candidates ⟨"a.jar"⟩ = [⟨"A"⟩, ⟨"B"⟩] ∧
      dumpedIn ⟨[], [⟨"A"⟩], [], [], false⟩ = some [false, true] ∧ dumpedIn .none = some [true, true] := by
  decide +kernel

theorem reported {f : Faults} {dumped : List Bool} (h : dumpedIn f = some dumped) :
    ∃ r, (twoClassBatch f).1 = .ok r ∧ r.units.map (·.isDumped) = dumped := by
  unfold dumpedIn at h
  cases hr : (twoClassBatch f).1 with
  | error e => rw [hr] at h; cases h
  | ok r => rw [hr] at h; cases h; exact ⟨r, rfl, rfl⟩

end Memory

/-- Every print for `A` fails in one batch and nothing in the other. Both report outcomes, and `B` is dumped, the same
in both, with the same text. -/
theorem World.failure_isolation_of_write_fault :
    ∃ r₁ r₂, (Memory.twoClassBatch ⟨[], [⟨"A"⟩], [], [], false⟩).1 = .ok r₁ ∧
      (Memory.twoClassBatch .none).1 = .ok r₂ ∧
      r₁.units.map (·.isDumped) = [false, true] ∧ r₂.units.map (·.isDumped) = [true, true] ∧
      r₁.units[1]? = r₂.units[1]? ∧
      Event.textsFor (Memory.twoClassBatch ⟨[], [⟨"A"⟩], [], [], false⟩).2.trace ⟨"B"⟩ =
        Event.textsFor (Memory.twoClassBatch .none).2.trace ⟨"B"⟩ := by
  obtain ⟨hcands, hd₁, hd₂⟩ := Memory.twoClassBatch_dumps
  have hF : ∀ t : TypeName, ¬ t = ⟨"A"⟩ → Script.AgreeOn (Memory.script ⟨[], [⟨"A"⟩], [], [], false⟩)
      (Memory.script .none) t := by
    intro t ht
    simp [Script.AgreeOn, Memory.script, Faults.none, ht]
  have hisolated : World.Isolated (· = ⟨"A"⟩) ⟨"a.jar"⟩ (Memory.outlet ⟨[], [⟨"A"⟩], [], [], false⟩)
      Memory.twoClassStart (Memory.outlet .none) Memory.twoClassStart :=
    World.failure_isolation (Memory.outlet_follows rfl _ fun _ _ => List.not_mem_nil)
      (Memory.outlet_follows rfl _ fun _ _ => List.not_mem_nil) trivial trivial hF rfl rfl
  obtain ⟨r₁, hr₁, hdumped₁⟩ := Memory.reported hd₁
  obtain ⟨r₂, hr₂, hdumped₂⟩ := Memory.reported hd₂
  obtain ⟨types, hload⟩ := World.loaded_of_candidate (hcands ▸ List.mem_cons_self : ⟨"A"⟩ ∈ _)
  obtain ⟨-, -, -, halive⟩ := (World.batch_accounts _ _ _).1 r₁ hr₁
  obtain ⟨r₁', r₂', hr₁', hr₂', hagree⟩ := hisolated.outcomes types hload (halive rfl)
  cases hr₁.symm.trans hr₁'
  cases hr₂.symm.trans hr₂'
  have hB : ¬ (⟨"B"⟩ : TypeName) = ⟨"A"⟩ := by decide
  refine ⟨r₁, r₂, hr₁, hr₂, hdumped₁, hdumped₂, hagree.same 1 ⟨"B"⟩ (by rw [hcands]; rfl) hB, ?_⟩
  rw [Memory.twoClassBatch, Memory.twoClassBatch]
  exact hisolated.texts ⟨"B"⟩ hB

end ClassSkeleton
