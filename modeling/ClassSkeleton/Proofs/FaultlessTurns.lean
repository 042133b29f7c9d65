import ClassSkeleton.Output.Memory
import ClassSkeleton.Output.Stream
import ClassSkeleton.Proofs.CandidateTurns

/-
  ClassSkeleton.Proofs.FaultlessTurns — batches when nothing fails in writing.

  An outlet is faultless (`Outlet.Faultless`) when it follows the script without faults, which asks for no count of
  the calls. So a batch over an archive that can be read reports the outcomes of the turns that this script says,
  each worked out from the session that the candidates before left, and gives the sinks their texts, if it does not
  crash the program (`decompileArchive_faultless`).
-/

namespace ClassSkeleton

/-- Nothing fails. -/
def Script.sure : Script := ⟨fun _ _ => .ok (), fun _ _ => .ok ()⟩

theorem Script.prints_sure (t : TypeName) (k : Nat) (pieces : List String) :
    Script.sure.prints t k pieces = (.ok (), k + pieces.length, String.join pieces) := by
  induction pieces generalizing k with
  | nil => rfl
  | cons piece rest ih =>
    have hp : Script.sure.print t k = .ok () := rfl
    rw [Script.prints, hp]
    simp only [ih, List.length_cons, String.join_cons]
    congr 2
    omega

/-- Over the states and the types of a run no call fails, however many came before, and what loading reads is left
alone. -/
structure Outlet.Faultless {σ : Type} (o : Outlet σ) (archive : Path) (types : TypeName → Prop)
    (fit : Surroundings σ → Prop) : Prop extends o.Follows .sure archive types fit fun _ _ _ _ => True where
  sparesCloseSummary : OutletM.Spares archive fit o.closeSummary

theorem Stream.outlet_faultless (archive : Path) (types : TypeName → Prop) :
    Stream.outlet.Faultless archive types fun _ => True where
  acquire _ _ _ _ _ _ _ := ⟨rfl, trivial⟩
  print _ _ _ _ _ _ _ := ⟨rfl, trivial⟩
  close _ _ _ _ _ _ := rfl
  openSummary _ _ := rfl
  notify _ _ _ _ _ := id
  sparesAcquire _ _ _ _ _ _ _ := ⟨trivial, .refl ..⟩
  sparesPrint _ _ _ _ := ⟨trivial, .refl ..⟩
  sparesClose _ _ _ := ⟨trivial, .refl ..⟩
  sparesOpen _ _ := ⟨trivial, .refl ..⟩
  sparesNotify _ _ _ := ⟨trivial, .refl ..⟩
  sparesCloseSummary _ _ := ⟨trivial, .refl ..⟩

theorem Memory.outlet_faultless (archive : Path) (types : TypeName → Prop) :
    (Memory.outlet .none).Faultless archive types fun _ => True where
  acquire _ _ _ _ _ _ _ := ⟨rfl, trivial⟩
  print n text s _ _ _ _ := by
    refine ⟨?_, trivial⟩
    show (Memory.print _ n s).1 = _
    unfold Memory.print
    split <;> rfl
  close n s _ _ _ _ := by
    show (Memory.close _ n s).1 = _
    unfold Memory.close
    split <;> rfl
  openSummary _ _ := rfl
  notify _ _ _ _ _ := id
  sparesAcquire n t usage policy _ := spares_acquire .none archive n t usage policy
  sparesPrint := spares_print .none archive
  sparesClose := spares_close .none archive
  sparesOpen _ _ := ⟨trivial, .refl ..⟩
  sparesNotify _ _ _ := ⟨trivial, .refl ..⟩
  sparesCloseSummary _ _ := ⟨trivial, .refl ..⟩

/-- An archive of `A` and of the class `A$B` nested in it, without members. -/
def Memory.nest : List UInt8 :=
  [80, 75, 3, 4, 20, 0, 0, 0, 0, 0, 0, 0, 0, 0, 171, 107, 119, 19, 75, 0, 0, 0, 75, 0, 0, 0, 7, 0, 0, 0, 65, 46,
   99, 108, 97, 115, 115, 202, 254, 186, 190, 0, 0, 0, 52, 0, 7, 1, 0, 1, 65, 7, 0, 1, 1, 0, 3, 65, 36, 66, 7,
   0, 3, 1, 0, 1, 66, 1, 0, 12, 73, 110, 110, 101, 114, 67, 108, 97, 115, 115, 101, 115, 0, 33, 0, 2, 0, 0, 0,
   0, 0, 0, 0, 0, 0, 1, 0, 6, 0, 0, 0, 10, 0, 1, 0, 4, 0, 2, 0, 5, 0, 8, 80, 75, 3, 4, 20, 0, 0, 0, 0, 0, 0, 0,
   0, 0, 49, 95, 193, 169, 33, 0, 0, 0, 33, 0, 0, 0, 9, 0, 0, 0, 65, 36, 66, 46, 99, 108, 97, 115, 115, 202,
   254, 186, 190, 0, 0, 0, 52, 0, 3, 1, 0, 3, 65, 36, 66, 7, 0, 1, 0, 32, 0, 2, 0, 0, 0, 0, 0, 0, 0, 0, 0, 0,
   80, 75, 1, 2, 20, 0, 20, 0, 0, 0, 0, 0, 0, 0, 0, 0, 171, 107, 119, 19, 75, 0, 0, 0, 75, 0, 0, 0, 7, 0, 0, 0,
   0, 0, 0, 0, 0, 0, 0, 0, 0, 0, 0, 0, 0, 0, 65, 46, 99, 108, 97, 115, 115, 80, 75, 1, 2, 20, 0, 20, 0, 0, 0, 0,
   0, 0, 0, 0, 0, 49, 95, 193, 169, 33, 0, 0, 0, 33, 0, 0, 0, 9, 0, 0, 0, 0, 0, 0, 0, 0, 0, 0, 0, 0, 0, 112, 0,
   0, 0, 65, 36, 66, 46, 99, 108, 97, 115, 115, 80, 75, 5, 6, 0, 0, 0, 0, 2, 0, 2, 0, 108, 0, 0, 0, 184, 0, 0,
   0, 0, 0]

namespace World

variable {σ : Type} {o : Outlet σ} {archive : Path} {types : TypeName → Prop} {fit : Surroundings σ → Prop}
  {v w : World σ} {t : TypeName}

/-- A candidate with a model is written in full. -/
theorem turnBy_built {id : UnitId} {m : ClassModel} {s : Session}
    (hp : w.session.prepare w.around.files t = (.built id m, s)) :
    turnBy .sure w t =
      (.dumped t (Digest.ofText (String.join (memberPieces w.session.options.identifierPolicy m))),
        [String.join (memberPieces w.session.options.identifierPolicy m)]) := by
  rw [turnBy, hp, Script.turn, Script.prints_sure]
  rfl

/-! ## A batch -/

/-- The turns of candidates, each in the world those before it left. -/
def turns (o : Outlet σ) (archive : Path) : List TypeName → World σ → List (UnitOutcome × List String)
  | [], _ => []
  | t :: ts, w => turnBy .sure w t :: turns o archive ts (dumpMember o archive t w).2

/-- The texts for a type in the turns of candidates. -/
def textsOf (ts : List TypeName) (turns : List (UnitOutcome × List String)) (t : TypeName) : List String :=
  (ts.zip turns).flatMap fun e => if t = e.1 then e.2.2 else []

/-- What a batch reports of the turns of its candidates. -/
def reportOf (archive : Path) (ts : List TypeName) (turns : List (UnitOutcome × List String)) : BatchReport :=
  ⟨archive, ts.length, turns.map (·.1)⟩

theorem dumpMember_options (o : Outlet σ) (archive : Path) (t : TypeName) (w : World σ) :
    (dumpMember o archive t w).2.session.options = w.session.options := by
  have ho := w.session.prepare_options w.around.files t
  rcases dumpMember_session o archive t w with hs | ⟨id, m, -, hs⟩
  · rw [hs, ho]
  · rw [hs, ← ho]
    unfold Session.finishMember
    dsimp only
    split <;> rfl

/-- Candidates that leave the program running did so from the first one on. -/
theorem prepare_alive_of_dumpMembers {t : TypeName} {ts : List TypeName} (hw : w.crash = none)
    (h : (dumpMembers o archive (t :: ts) w).2.crash = none) :
    (w.session.prepare w.around.files t).2.cache.crash = none := by
  cases hc : (w.session.prepare w.around.files t).2.cache.crash with
  | none => rfl
  | some cause =>
    obtain ⟨e, v, -, hd, hs, -⟩ := dumpMember_falls hw (by rw [hc]; rfl) o archive
    rw [dumpMembers_cons, hd] at h
    have hv : v.crash = some cause := by rw [crash, hs, hc]
    cases hv.symm.trans h

/-- In a batch over an archive that can be read the candidates have their turns between the head and the last line. -/
theorem decompileArchive_read (ho : (o.openSummary w.around).1 = .ok ()) {found : List TypeName}
    (hl : (Cache.loadArchive (headed o archive w).around.files archive (headed o archive w).session.cache).1 = .ok found) :
    decompileArchive o archive w =
      let candidates := (headed o archive w).candidates archive
      let turned := dumpMembers o archive candidates (enlist o archive (headed o archive w)).2
      let report := turned.1.map (⟨archive, candidates.length, ·⟩)
      (report, (closeBatch o archive report turned.2).2) := by
  obtain ⟨hcands, -⟩ := enlist_session o archive _ hl
  have hb : (headBatch o archive (opening o w)).2 = headed o archive w := rfl
  rw [decompileArchive_opening ho, dumpCollection_apply, hb]
  rcases he : enlist o archive (headed o archive w) with ⟨r, x⟩
  rw [he] at hcands
  cases hcands
  rfl

theorem decompileArchive_crash (ho : (o.openSummary w.around).1 = .ok ()) {found : List TypeName}
    (hl : (Cache.loadArchive (headed o archive w).around.files archive (headed o archive w).session.cache).1 = .ok found) :
    (decompileArchive o archive w).2.crash =
      (dumpMembers o archive ((headed o archive w).candidates archive) (enlist o archive (headed o archive w)).2).2.crash := by
  rw [decompileArchive_read ho hl]
  exact closeBatch_crash ..

section Batch

variable (h : o.Faultless archive types fit)

include h

theorem dumpMembers_faultless {ts : List TypeName} (hts : ∀ t ∈ ts, types t) (hw : Idle fit w) (hr : w.crash = none)
    (hend : (dumpMembers o archive ts w).2.crash = none) :
    dumpMembers o archive ts w = (.ok ((turns o archive ts w).map (·.1)), after o archive ts w) ∧
      Idle fit (after o archive ts w) ∧ (after o archive ts w).around.files.SameClasses archive w.around.files ∧
      ∀ t, Event.textsFor (after o archive ts w).trace t =
        Event.textsFor w.trace t ++ textsOf ts (turns o archive ts w) t := by
  induction ts generalizing w with
  | nil => exact ⟨rfl, hw, .refl .., fun t => (List.append_nil _).symm⟩
  | cons t ts ih =>
    have hmine := hts t List.mem_cons_self
    have hc := prepare_alive_of_dumpMembers hr hend
    have ho := dumpMember_options o archive t w
    obtain ⟨v, hd, hv, -⟩ := dumpMember_scripted h.toFollows hmine hw.fits hw.held hw.memory hc
    rw [hd] at ho
    have hafter : after o archive (t :: ts) w = after o archive ts v := by
      rw [after, List.foldl_cons, hd]
      rfl
    have hturns : turns o archive (t :: ts) w = turnBy .sure w t :: turns o archive ts v := by rw [turns, hd]
    rw [dumpMembers_cons, hd] at hend
    obtain ⟨hrun, hidle, hfiles, htexts⟩ :=
      ih (fun s hs => hts s (List.mem_cons_of_mem t hs)) (hv.idle hw ho) (dumpMember_alive hd hr) hend
    rw [hafter, hturns]
    refine ⟨?_, hidle, hfiles.trans hv.files, fun s => ?_⟩
    · rw [dumpMembers_cons, hd]
      dsimp only
      rw [hrun]
      rfl
    · rw [htexts, hv.textsFor hw, List.append_assoc]
      rfl

theorem closeBatch_faultless (report : BatchReport) (hw : Idle fit w) (hr : w.crash = none) :
    Quietly archive fit w (closeBatch o archive (.ok report) w).2 := by
  have hn := quietly_notify h.sparesNotify w (lastNotice report) w (.refl hw.fits)
  have hclose : (closeBatch o archive (.ok report) w).2 = { (notice o (lastNotice report) w).2 with
      around := (o.closeSummary (notice o (lastNotice report) w).2.around).2
      trace := (notice o (lastNotice report) w).2.trace ++ [.summaryClosed] } := by
    rw [closeBatch_apply, hr, release_none o hw.held]
    rfl
  rw [hclose]
  obtain ⟨hfit, hfiles⟩ := h.sparesCloseSummary _ hn.fits
  exact hn.trans ⟨hfit, hfiles, rfl, rfl, [.summaryClosed], rfl, by simp [Event.sink?]⟩

/-- A batch over an archive that can be read reports the outcomes of the turns, and gives the sinks their texts, if
the program does not crash. -/
theorem decompileArchive_faultless (hw : Idle fit w) (hr : w.crash = none)
    (hts : ∀ t ∈ (headed o archive w).candidates archive, types t) {found : List TypeName}
    (hl : (Cache.loadArchive w.around.files archive w.session.cache).1 = .ok found)
    (hend : (decompileArchive o archive w).2.crash = none) :
    ∃ v, decompileArchive o archive w = (.ok (reportOf archive ((headed o archive w).candidates archive)
        (turns o archive ((headed o archive w).candidates archive) (enlist o archive (headed o archive w)).2)), v) ∧
      Idle fit v ∧ v.around.files.SameClasses archive w.around.files ∧
      v.session = (after o archive ((headed o archive w).candidates archive)
        (enlist o archive (headed o archive w)).2).session ∧
      ∀ t, Event.textsFor v.trace t = Event.textsFor w.trace t ++ textsOf ((headed o archive w).candidates archive)
        (turns o archive ((headed o archive w).candidates archive) (enlist o archive (headed o archive w)).2) t := by
  have hhead : Quietly archive fit w (headed o archive w) := quietly_begun h.sparesOpen h.sparesNotify hw.fits
  have hidle : Idle fit (headed o archive w) := hhead.idle hw rfl
  have hlist : Quietly archive fit (headed o archive w) (enlist o archive (headed o archive w)).2 :=
    quietly_listed h.sparesNotify hidle.fits
  have hread : (Cache.loadArchive (headed o archive w).around.files archive (headed o archive w).session.cache).1 =
      .ok found := by
    rw [Cache.loadArchive_congr hhead.files]
    exact hl
  have halive : (enlist o archive (headed o archive w)).2.crash = none := (enlist_crash hread o).trans hr
  rw [decompileArchive_crash (h.openSummary _ hw.fits) hread] at hend
  rw [decompileArchive_read (h.openSummary _ hw.fits) hread]
  dsimp only
  obtain ⟨hrun, hidle', hfiles, htexts⟩ :=
    dumpMembers_faultless h hts (hlist.idle hidle (enlist_options o archive _)) halive hend
  rw [hrun] at hend ⊢
  generalize turns o archive ((headed o archive w).candidates archive) _ = turned at htexts ⊢
  generalize after o archive ((headed o archive w).candidates archive) _ = v at hend hidle' hfiles htexts ⊢
  have hclose := closeBatch_faultless h (reportOf archive ((headed o archive w).candidates archive) turned) hidle' hend
  have hsession := session_closeBatch o archive
    (.ok (reportOf archive ((headed o archive w).candidates archive) turned)) v
  refine ⟨_, rfl, hclose.idle hidle' (by rw [hsession]),
    hclose.files.trans ((hfiles.trans hlist.files).trans hhead.files), hsession, fun t => ?_⟩
  exact (hclose.textsFor hidle' t).trans (by rw [htexts, hlist.textsFor hidle, hhead.textsFor hw])

end Batch

end World

end ClassSkeleton
