import ClassSkeleton.Proofs.SessionLikeness

/-
  ClassSkeleton.Proofs.ScriptedSinks — outlets whose faults follow a script.

  A script says for each type how the calls on a sink for it end, by the number of calls the sink saw
  before. An outlet follows a script (`Outlet.Follows`) when it refuses no sink, answers calls as the
  script says and leaves alone what loading reads. With such an outlet the turn of a candidate can be
  worked out without it: `Script.turn` says from the preparation how the candidate ends and what text
  each of its sinks takes, and `dumpMember_scripted` that this is what happens.

  The texts are read off the trace by type (`textsFor`). Sinks are numbered as they are handed out, so
  the numbers in one stretch of a trace lie in a range of their own (`Within`), and texts add up along
  the stretches (`textsFor_append`).
-/

namespace ClassSkeleton

/-! ## The texts in a trace -/

namespace Event

/-- The sink an event is about. -/
def sink? : Event → Option Nat
  | acquired n .. | printed n .. | closed n _ => some n
  | _ => none

/-- The sinks handed out for a type, in order. -/
def sinksFor (trace : List Event) (t : TypeName) : List Nat :=
  trace.filterMap fun
    | acquired n s _ _ => if s = t then some n else none
    | _ => none

/-- The texts that the sinks for a type took, in the order of the sinks. -/
def textsFor (trace : List Event) (t : TypeName) : List String := (sinksFor trace t).map (accepted trace)

/-- The sinks in a trace have numbers from `lo` up to `hi`, that one not included. -/
def Within (lo hi : Nat) (trace : List Event) : Prop := ∀ e ∈ trace, ∀ n, e.sink? = some n → lo ≤ n ∧ n < hi

variable {lo mid hi n : Nat} {a b trace : List Event} {t s : TypeName}

theorem Within.append (ha : Within lo mid a) (hb : Within mid hi b) (hl : lo ≤ mid) (hh : mid ≤ hi) :
    Within lo hi (a ++ b) := by
  intro e he n hn
  rcases List.mem_append.1 he with he | he
  · have := ha e he n hn; omega
  · have := hb e he n hn; omega

/-- Events about no sink are within every range. -/
theorem within_of_quiet (h : ∀ e ∈ trace, e.sink? = none) (lo hi : Nat) : Within lo hi trace := by
  intro e he n hn
  rw [h e he] at hn
  cases hn

theorem within_singleton {e : Event} (h : e.sink? = some n) : Within n (n + 1) [e] := by
  intro d hd m hm
  rw [List.mem_singleton.1 hd, h] at hm
  cases hm
  omega

theorem accepted_append (a b : List Event) (n : Nat) : accepted (a ++ b) n = accepted a n ++ accepted b n := by
  simp only [accepted, List.filterMap_append, String.join_append]

theorem accepted_printed (trace : List Event) (sink : Nat) (pieces : List String) :
    accepted (trace ++ pieces.map (.printed sink · none)) sink = accepted trace sink ++ String.join pieces := by
  rw [accepted_append]
  refine congrArg (accepted trace sink ++ ·) ?_
  induction pieces with
  | nil => rfl
  | cons piece rest ih =>
    have hone : accepted [.printed sink piece none] sink = piece := by simp [accepted]
    rw [List.map_cons, ← List.singleton_append, accepted_append, ih, hone, String.join_cons]

theorem sinksFor_append (a b : List Event) (t : TypeName) : sinksFor (a ++ b) t = sinksFor a t ++ sinksFor b t :=
  List.filterMap_append ..

theorem accepted_outside (h : Within lo hi trace) (hn : ¬ (lo ≤ n ∧ n < hi)) : accepted trace n = "" := by
  rw [accepted, List.filterMap_eq_nil_iff.2]
  · rfl
  intro e he
  cases e with
  | printed m text failure =>
    have hm : m ≠ n := by
      rintro rfl
      exact hn (h _ he m rfl)
    cases failure <;> simp [hm]
  | _ => rfl

theorem within_of_mem_sinksFor (h : Within lo hi trace) (hn : n ∈ sinksFor trace t) : lo ≤ n ∧ n < hi := by
  obtain ⟨e, he, hs⟩ := List.mem_filterMap.1 hn
  cases e with
  | acquired m s imports policy =>
    dsimp only at hs
    split at hs <;> cases hs
    exact h _ he n rfl
  | _ => cases hs

theorem sinksFor_quiet (h : ∀ e ∈ trace, e.sink? = none) (t : TypeName) : sinksFor trace t = [] := by
  refine List.eq_nil_iff_forall_not_mem.2 fun n hn => ?_
  have := within_of_mem_sinksFor (within_of_quiet h 0 0) hn
  omega

/-- Stretches of a trace with sinks of their own do not touch each other's texts. -/
theorem textsFor_append (ha : Within lo mid a) (hb : Within mid hi b) (t : TypeName) :
    textsFor (a ++ b) t = textsFor a t ++ textsFor b t := by
  simp only [textsFor, sinksFor_append, List.map_append]
  congr 1
  · refine List.map_congr_left fun n hn => ?_
    have := within_of_mem_sinksFor ha hn
    rw [accepted_append, accepted_outside hb (by omega), String.append_empty]
  · refine List.map_congr_left fun n hn => ?_
    have := within_of_mem_sinksFor hb hn
    rw [accepted_append, accepted_outside ha (by omega), String.empty_append]

theorem textsFor_quiet (h : ∀ e ∈ trace, e.sink? = none) (t : TypeName) : textsFor trace t = [] := by
  rw [textsFor, sinksFor_quiet h, List.map_nil]

/-- A stretch of a trace with one sink, handed out for a type, and the text it took so far. -/
structure Life (n : Nat) (t : TypeName) (taken : String) (trace : List Event) : Prop where
  within : Within n (n + 1) trace
  sinks : ∀ s, sinksFor trace s = if s = t then [n] else []
  taken : accepted trace n = taken

theorem life_acquired (h : ∀ e ∈ trace, e.sink? = none) (imports : List TypeName) (policy : IdentifierPolicy) :
    Life n t "" (trace ++ [acquired n t imports policy]) := by
  refine ⟨(within_of_quiet h n n).append (within_singleton rfl) (Nat.le_refl n) (Nat.le_succ n), fun s => ?_, ?_⟩
  · rw [sinksFor_append, sinksFor_quiet h]
    by_cases hs : t = s
    · simp [sinksFor, hs]
    · simp [sinksFor, hs, Ne.symm hs]
  · rw [accepted_append, accepted_outside (within_of_quiet h 0 0) (by omega)]
    rfl

theorem Life.append {taken : String} (h : Life n t taken a) (hw : Within n (n + 1) b) (hs : ∀ s, sinksFor b s = []) :
    Life n t (taken ++ accepted b n) (a ++ b) := by
  refine ⟨fun e he => ?_, fun s => ?_, ?_⟩
  · rcases List.mem_append.1 he with he | he
    · exact h.within e he
    · exact hw e he
  · rw [sinksFor_append, hs, List.append_nil, h.sinks]
  · rw [accepted_append, h.taken]

theorem Life.texts {taken : String} (h : Life n t taken trace) (s : TypeName) :
    textsFor trace s = if s = t then [taken] else [] := by
  rw [textsFor, h.sinks]
  split
  · rw [List.map_singleton, h.taken]
  · rfl

end Event

/-! ## Scripts -/

/-- How the calls on a sink for a type end, by the number of calls it saw before. -/
structure Script where
  print : TypeName → Nat → Except IoError Unit
  close : TypeName → Nat → Except IoError Unit

namespace Script

/-- What a sink takes of a text. -/
def taken (script : Script) (t : TypeName) (k : Nat) (text : String) : String :=
  match script.print t k with
  | .ok () => text
  | .error _ => ""

/-- Pieces printed until one fails: how that ends, the calls the sink has seen then and what it took. -/
def prints (script : Script) (t : TypeName) (k : Nat) : List String → Except IoError Unit × Nat × String
  | [] => (.ok (), k, "")
  | text :: rest =>
    match script.print t k with
    | .error e => (.error e, k + 1, "")
    | .ok () =>
      let (r, seen, taken) := prints script t (k + 1) rest
      (r, seen, text ++ taken)

/-- The text of the sink that is opened for a note, if there is one. -/
def note (script : Script) (t : TypeName) (loaded : Bool) (e : DecompileError) : List String :=
  if loaded then [script.taken t 0 (World.noteText e.describe)] else []

def recovery (t : TypeName) (e : DecompileError) : UnitOutcome := .recovered t e.kind e.describe

/-- How a candidate ends, and the texts its sinks take. A note goes to the sink at hand when printing
failed, and to a sink of its own when there is none or when it was closing that failed. -/
def turn (script : Script) (policy : IdentifierPolicy) (t : TypeName) (loaded : Bool) :
    Preparation → UnitOutcome × List String
  | .nested => (.skippedInner t, [])
  | .unfound e => (recovery t (.load e), script.note t loaded (.load e))
  | .unbuilt e => (recovery t (.analysis t e), script.note t loaded (.analysis t e))
  | .built _ m =>
    match script.prints t 0 (World.memberPieces policy m) with
    | (.error e, k, text) =>
      (recovery t (.dump t e), [text ++ script.taken t k (World.noteText (DecompileError.dump t e).describe)])
    | (.ok (), k, text) =>
      match script.close t k with
      | .ok () => (.dumped t (Digest.ofText (String.join (World.memberPieces policy m))), [text])
      | .error e => (recovery t (.dump t e), text :: script.note t loaded (.dump t e))

end Script

/-- An action of an outlet that stays among the states of a run and leaves alone what loading reads. -/
def OutletM.Spares {σ α : Type} (archive : Path) (fit : Surroundings σ → Prop) (act : OutletM σ α) : Prop :=
  ∀ s, fit s → fit (act s).2 ∧ (act s).2.files.SameClasses archive s.files

/-- An outlet that, over the states and the types of a run, refuses no sink and fails at printing and closing as
the script says. What it knows of its sinks is in `view`: by a state, a sink is for a type and saw a number of calls. -/
structure Outlet.Follows {σ : Type} (o : Outlet σ) (script : Script) (archive : Path) (types : TypeName → Prop)
    (fit : Surroundings σ → Prop) (view : Surroundings σ → Nat → TypeName → Nat → Prop) : Prop where
  acquire : ∀ n t usage policy s, types t → fit s → (o.acquire n t usage policy s).1.2 = .ok () ∧
    view (o.acquire n t usage policy s).2 n t 0
  print : ∀ n text s t k, fit s → view s n t k →
    (o.print n text s).1 = script.print t k ∧ view (o.print n text s).2 n t (k + 1)
  close : ∀ n s t k, fit s → view s n t k → (o.close n s).1 = script.close t k
  openSummary : ∀ s, fit s → (o.openSummary s).1 = .ok ()
  notify : ∀ text s n t k, view s n t k → view (o.notify text s).2 n t k
  sparesAcquire : ∀ n t usage policy, types t → OutletM.Spares archive fit (o.acquire n t usage policy)
  sparesPrint : ∀ n text, OutletM.Spares archive fit (o.print n text)
  sparesClose : ∀ n, OutletM.Spares archive fit (o.close n)
  sparesOpen : OutletM.Spares archive fit o.openSummary
  sparesNotify : ∀ text, OutletM.Spares archive fit (o.notify text)

namespace World

variable {σ : Type} {o : Outlet σ} {script : Script} {archive : Path} {types : TypeName → Prop}
  {fit : Surroundings σ → Prop} {view : Surroundings σ → Nat → TypeName → Nat → Prop} {b v w : World σ}
  {t : TypeName} {k : Nat} {text : String}

/-! ## A sink from start to end -/

/-- Nothing happened to sinks between `b` and `w`. -/
structure Quietly (archive : Path) (fit : Surroundings σ → Prop) (b w : World σ) : Prop where
  fits : fit w.around
  files : w.around.files.SameClasses archive b.around.files
  sinks : w.sinks = b.sinks
  held : w.held = b.held
  trace : ∃ more, w.trace = b.trace ++ more ∧ ∀ e ∈ more, e.sink? = none

/-- Since `b` one sink was handed out, for `t`, and is in hand; it saw `k` calls and took `text`. -/
structure Writing (archive : Path) (fit : Surroundings σ → Prop)
    (view : Surroundings σ → Nat → TypeName → Nat → Prop) (b : World σ) (t : TypeName) (k : Nat) (text : String)
    (w : World σ) : Prop where
  fits : fit w.around
  files : w.around.files.SameClasses archive b.around.files
  sinks : w.sinks = b.sinks + 1
  held : w.held = some b.sinks
  seen : view w.around b.sinks t k
  trace : ∃ more, w.trace = b.trace ++ more ∧ Event.Life b.sinks t text more

/-- Since `b` sinks for `t` only were handed out, they took the texts, and none is in hand. -/
structure Wrote (archive : Path) (fit : Surroundings σ → Prop) (b : World σ) (t : TypeName) (texts : List String)
    (w : World σ) : Prop where
  fits : fit w.around
  files : w.around.files.SameClasses archive b.around.files
  sinks : b.sinks ≤ w.sinks
  held : w.held = none
  trace : ∃ more, w.trace = b.trace ++ more ∧ Event.Within b.sinks w.sinks more ∧
    ∀ s, Event.textsFor more s = if s = t then texts else []

theorem Quietly.refl (hw : fit w.around) : Quietly archive fit w w := ⟨hw, .refl .., rfl, rfl, [], by simp, by simp⟩

theorem Quietly.trans (h : Quietly archive fit b v) (h' : Quietly archive fit v w) : Quietly archive fit b w := by
  obtain ⟨more, ht, hm⟩ := h.trace
  obtain ⟨more', ht', hm'⟩ := h'.trace
  refine ⟨h'.fits, h'.files.trans h.files, h'.sinks.trans h.sinks, h'.held.trans h.held,
    more ++ more', by simp [ht', ht], fun e he => ?_⟩
  rcases List.mem_append.1 he with he | he
  · exact hm e he
  · exact hm' e he

theorem Quietly.event (hw : fit w.around) (e : Event) (he : e.sink? = none) (records : List ExceptionRecord)
    (s : Session) : Quietly archive fit w { w with session := s, records := records, trace := w.trace ++ [e] } :=
  ⟨hw, .refl .., rfl, rfl, [e], rfl, fun d hd => by rw [List.mem_singleton.1 hd]; exact he⟩

theorem Quietly.session (hw : fit w.around) (s : Session) : Quietly archive fit w (w.withSession s) :=
  ⟨hw, .refl .., rfl, rfl, [], (List.append_nil _).symm, by simp⟩

theorem quietly_announced (hw : fit w.around) (t : TypeName) : Quietly archive fit w (announced w t) := by
  unfold announced
  split
  · exact .refl hw
  · exact .event hw (.progressType t) rfl w.records w.session

theorem quietly_noteException (hw : fit w.around) (path : Path) (context : Option String) (e : DecompileError) :
    Quietly archive fit w (noteException path context e w).2 := .event hw _ rfl _ w.session

theorem quietly_notify (h : ∀ text, OutletM.Spares archive fit (o.notify text)) (b : World σ) (text : String) :
    Keeps (Quietly archive fit b) (notice o text) := fun w hw =>
  have ⟨hfit, hfiles⟩ := h text w.around hw.fits
  hw.trans ⟨hfit, hfiles, rfl, rfl, [.notice text], rfl, by simp [Event.sink?]⟩

theorem Wrote.of_quietly (h : Quietly archive fit b w) (hb : b.held = none) (t : TypeName) : Wrote archive fit b t [] w := by
  obtain ⟨more, ht, hm⟩ := h.trace
  refine ⟨h.fits, h.files, Nat.le_of_eq h.sinks.symm, h.held.trans hb, more, ht, Event.within_of_quiet hm _ _, fun s => ?_⟩
  rw [Event.textsFor_quiet hm, ite_self]

theorem Wrote.session {texts : List String} (h : Wrote archive fit b t texts w) (s : Session) :
    Wrote archive fit b t texts (w.withSession s) := ⟨h.fits, h.files, h.sinks, h.held, h.trace⟩

theorem Wrote.trans {texts texts' : List String} (h : Wrote archive fit b t texts v) (h' : Wrote archive fit v t texts' w) :
    Wrote archive fit b t (texts ++ texts') w := by
  obtain ⟨more, ht, hw, hm⟩ := h.trace
  obtain ⟨more', ht', hw', hm'⟩ := h'.trace
  refine ⟨h'.fits, h'.files.trans h.files, Nat.le_trans h.sinks h'.sinks, h'.held, more ++ more', by simp [ht', ht],
    hw.append hw' h.sinks h'.sinks, fun s => ?_⟩
  rw [Event.textsFor_append hw hw', hm, hm']
  split <;> rfl

theorem Writing.quietly (h : Writing archive fit view b t k text v) (hq : Quietly archive fit v w)
    (hv : view v.around b.sinks t k → view w.around b.sinks t k) : Writing archive fit view b t k text w := by
  obtain ⟨more, ht, hl⟩ := h.trace
  obtain ⟨more', ht', hm'⟩ := hq.trace
  refine ⟨hq.fits, hq.files.trans h.files, hq.sinks.trans h.sinks, hq.held.trans h.held, hv h.seen, more ++ more',
    by simp [ht', ht], ?_⟩
  have hl' := hl.append (Event.within_of_quiet hm' _ _) (Event.sinksFor_quiet hm')
  rwa [Event.accepted_outside (Event.within_of_quiet hm' 0 0) (by omega), String.append_empty] at hl'

/-- The turn a candidate takes in a world. -/
def turnBy (script : Script) (w : World σ) (t : TypeName) : UnitOutcome × List String :=
  script.turn w.session.options.identifierPolicy t ((w.session.prepare w.around.files t).2.cache.get? t).isSome
    (w.session.prepare w.around.files t).1

/-! ### One call -/

section Steps

variable (h : o.Follows script archive types fit view)

include h

/-- A sink is not refused, and with nothing in hand it is taken in hand. -/
theorem writing_acquire (ht : types t) (hf : fit b.around) (hb : b.held = none) (summary : Bool) (usage : Usage)
    (policy : IdentifierPolicy) :
    ∃ w, acquire o summary t usage policy b = (.ok (), w) ∧ Writing archive fit view b t 0 "" w := by
  obtain ⟨hok, hseen⟩ := h.acquire b.sinks t usage policy b.around ht hf
  have hs := h.sparesAcquire b.sinks t usage policy ht b.around hf
  have hq := noted_keeps
    (quietly_notify h.sparesNotify { b with around := (o.acquire b.sinks t usage policy b.around).2 }) summary
    (o.acquire b.sinks t usage policy b.around).1.1 (.refl hs.1)
  have hk (text : String) : Keeps (fun u => view u.around b.sinks t 0) (notice o text) := fun u hu =>
    h.notify text u.around b.sinks t 0 hu
  have hv := noted_keeps hk summary (o.acquire b.sinks t usage policy b.around).1.1
    (w := { b with around := (o.acquire b.sinks t usage policy b.around).2 }) hseen
  rw [acquire_apply]
  dsimp only
  rw [hok]
  generalize noted o summary _ _ = u at hq hv
  obtain ⟨more, htrace, hm⟩ := hq.trace
  have hu : u.held = none := hq.held.trans hb
  refine ⟨_, rfl, ?_⟩
  -- nothing was in hand, so taking the new sink closes nothing
  have hi : (install o b.sinks { u with
        sinks := b.sinks + 1
        trace := u.trace ++ [.acquired b.sinks t usage.imports policy] }).2 =
      { u with
        sinks := b.sinks + 1, held := some b.sinks
        trace := u.trace ++ [.acquired b.sinks t usage.imports policy] } := by
    simp only [install, act_bind, modify_apply]
    rw [release_none o (by exact hu)]
  rw [hi]
  exact ⟨hq.fits, hq.files.trans hs.2, rfl, rfl, hv, more ++ [.acquired b.sinks t usage.imports policy],
    by simp [htrace], Event.life_acquired hm _ _⟩

theorem writing_print (hw : Writing archive fit view b t k text w) (piece : String) :
    ∃ v, print o piece w = (some (script.print t k), v) ∧
      Writing archive fit view b t (k + 1) (text ++ script.taken t k piece) v := by
  obtain ⟨hr, hseen⟩ := h.print b.sinks piece w.around t k hw.fits hw.seen
  have ha : script.taken t k piece =
      Event.accepted [.printed b.sinks piece (failureOf (script.print t k))] b.sinks := by
    unfold Script.taken
    rcases script.print t k with e | a <;> simp [failureOf, Event.accepted]
  obtain ⟨more, ht, hl⟩ := hw.trace
  obtain ⟨hfit, hfiles⟩ := h.sparesPrint b.sinks piece w.around hw.fits
  rw [print_some o piece hw.held, hr, ha]
  refine ⟨_, rfl, hfit, hfiles.trans hw.files, hw.sinks, hw.held, hseen,
    more ++ [.printed b.sinks piece (failureOf (script.print t k))], by simp [ht], ?_⟩
  exact hl.append (Event.within_singleton rfl) fun _ => rfl

theorem writing_printAll (hw : Writing archive fit view b t k text w) (pieces : List String) :
    ∃ v, printAll o pieces w = ((script.prints t k pieces).1, v) ∧
      Writing archive fit view b t (script.prints t k pieces).2.1 (text ++ (script.prints t k pieces).2.2) v := by
  induction pieces generalizing w k text with
  | nil => exact ⟨w, rfl, by simpa [Script.prints] using hw⟩
  | cons piece rest ih =>
    obtain ⟨v, hp, hv⟩ := writing_print h hw piece
    rw [printAll, act_bind, hp]
    unfold Script.taken at hv
    rcases hr : script.print t k with e | a
    · rw [hr] at hv
      simp only [Script.prints, hr]
      exact ⟨v, rfl, hv⟩
    · rw [hr] at hv
      obtain ⟨u, hu, hwu⟩ := ih hv
      simp only [Script.prints, hr]
      exact ⟨u, hu, by simpa [String.append_assoc] using hwu⟩

theorem writing_release (hw : Writing archive fit view b t k text w) :
    ∃ v, release o w = (script.close t k, v) ∧ Wrote archive fit b t [text] v := by
  obtain ⟨more, ht, hl⟩ := hw.trace
  rw [release_some o hw.held, h.close b.sinks w.around t k hw.fits hw.seen]
  have hc := hl.append (b := [.closed b.sinks (failureOf (script.close t k))]) (Event.within_singleton rfl) fun _ => rfl
  have ha : Event.accepted [.closed b.sinks (failureOf (script.close t k))] b.sinks = "" := rfl
  rw [ha, String.append_empty] at hc
  obtain ⟨hfit, hfiles⟩ := h.sparesClose b.sinks w.around hw.fits
  refine ⟨_, rfl, hfit, hfiles.trans hw.files, ?_, rfl, _, ?_, ?_, hc.texts⟩
  · dsimp only
    rw [hw.sinks]
    omega
  · simp [ht]
  · dsimp only
    rw [hw.sinks]
    exact hc.within

/-! ## The turn of a candidate -/

/-- A text that is not printed in full leaves its sink in hand. -/
theorem emitText_unprinted (ht : types t) (hf : fit b.around) (hb : b.held = none) (summary : Bool) (usage : Usage)
    (policy : IdentifierPolicy) {pieces : List String} {e : IoError}
    (hp : script.prints t 0 pieces = (.error e, k, text)) :
    ∃ w, emitText o summary t usage policy pieces b = (.error (.dump t e), w) ∧ Writing archive fit view b t k text w := by
  obtain ⟨v, ha, hv⟩ := writing_acquire h ht hf hb summary usage policy
  obtain ⟨w, hr, hw⟩ := writing_printAll h hv pieces
  rw [hp] at hr hw
  rw [emitText, attempt_bind_ok ha, writeAll_apply, hr]
  exact ⟨w, rfl, by simpa using hw⟩

/-- A text that is printed in full ends as closing does, and its sink is closed either way. -/
theorem emitText_printed (ht : types t) (hf : fit b.around) (hb : b.held = none) (summary : Bool) (usage : Usage)
    (policy : IdentifierPolicy) {pieces : List String} (hp : script.prints t 0 pieces = (.ok (), k, text)) :
    ∃ w, emitText o summary t usage policy pieces b =
        ((script.close t k).mapError (.dump t) |>.map fun _ => Digest.ofText (String.join pieces), w) ∧
      Wrote archive fit b t [text] w := by
  obtain ⟨v, ha, hv⟩ := writing_acquire h ht hf hb summary usage policy
  obtain ⟨u, hr, hu⟩ := writing_printAll h hv pieces
  rw [hp, String.empty_append] at hu
  rw [hp] at hr
  obtain ⟨w, hc, hw⟩ := writing_release h hu
  rw [emitText, attempt_bind_ok ha, writeAll_apply, hr]
  dsimp only
  rw [hc]
  exact ⟨w, rfl, hw⟩

theorem withNote_wrote (hw : Writing archive fit view b t k text w) (note : String) :
    Wrote archive fit b t [text ++ script.taken t k (noteText note)] (withNote o note w) := by
  obtain ⟨v, hp, hv⟩ := writing_print h hw (noteText note)
  obtain ⟨u, hr, hu⟩ := writing_release h hv
  rw [withNote, hp, hr]
  exact hu

theorem writeNote_writing (hw : Writing archive fit view b t k text w) (note : String) :
    ∃ v, writeNote o t note w = (.ok (), v) ∧ Wrote archive fit b t [text ++ script.taken t k (noteText note)] v := by
  rw [writeNote_apply, hw.held]
  exact ⟨_, rfl, withNote_wrote h hw note⟩

/-- With nothing in hand a note gets a sink of its own, if the class was loaded. -/
theorem writeNote_wrote (ht : types t) (hf : fit w.around) (hw : w.held = none) (e : DecompileError) :
    ∃ v, writeNote o t e.describe w = (.ok (), v) ∧
      Wrote archive fit w t (script.note t (w.session.cache.get? t).isSome e) v := by
  rw [writeNote_apply, hw, Script.note]
  cases (w.session.cache.get? t).isSome with
  | false =>
    refine ⟨w, ?_, .of_quietly (.refl hf) hw t⟩
    simp [withNote, print_none o _ hw, release_none o hw]
  | true =>
    obtain ⟨v, ha, hv⟩ := writing_acquire h ht hf hw true Usage.empty w.session.options.identifierPolicy
    rw [ha]
    exact ⟨_, rfl, by simpa using withNote_wrote h hv e.describe⟩

/-- A failure with the sink in hand: the note is its last text. -/
theorem recovered_writing {e : DecompileError} (hd : dumpMemberInto o t w = (.error e, v)) (he : e.isFatal = false)
    (hc : v.crash = none) (hv : Writing archive fit view b t k text v) :
    ∃ u, dumpMember o archive t w = (.ok (Script.recovery t e), u) ∧
      Wrote archive fit b t [text ++ script.taken t k (noteText e.describe)] u ∧ u.session = v.session := by
  have hq := hv.quietly (quietly_noteException hv.fits archive (some (memberContext t)) e) id
  obtain ⟨u, hn, hu⟩ := writeNote_writing h hq e.describe
  have hs := (outputs_writeNote _ o t e.describe _
    (.refl (noteException archive (some (memberContext t)) e v).2)).session
  rw [hn] at hs
  refine ⟨u, ?_, hu, hs⟩
  rw [dumpMember_apply, hd]
  simp only [he, hc, Option.isSome_none, Bool.or_self, Bool.false_eq_true, if_false, hn]
  rfl

theorem recovered_wrote {e : DecompileError} {texts : List String} (ht : types t)
    (hd : dumpMemberInto o t w = (.error e, v)) (he : e.isFatal = false) (hc : v.crash = none)
    (hv : Wrote archive fit b t texts v) :
    ∃ u, dumpMember o archive t w = (.ok (Script.recovery t e), u) ∧
      Wrote archive fit b t (texts ++ script.note t (v.session.cache.get? t).isSome e) u ∧ u.session = v.session := by
  have hq : Wrote archive fit v t [] (noteException archive (some (memberContext t)) e v).2 :=
    .of_quietly (quietly_noteException hv.fits archive _ e) hv.held t
  obtain ⟨u, hn, hu⟩ := writeNote_wrote h ht hq.fits hv.held e
  have hs := (outputs_writeNote _ o t e.describe _
    (.refl (noteException archive (some (memberContext t)) e v).2)).session
  rw [hn] at hs
  refine ⟨u, ?_, hv.trans (hq.trans hu), hs⟩
  rw [dumpMember_apply, hd]
  simp only [he, hc, Option.isSome_none, Bool.or_self, Bool.false_eq_true, if_false, hn]
  rfl

/-- The turn of a candidate is the one worked out from its preparation, if that does not crash the program, and
leaves the prepared session as far as later candidates can tell. -/
theorem dumpMember_scripted (ht : types t) (hf : fit w.around) (hw : w.held = none)
    (hl : w.session.options.lowMemory = false) (hc : (w.session.prepare w.around.files t).2.cache.crash = none) :
    ∃ v, dumpMember o archive t w = (.ok (turnBy script w t).1, v) ∧ Wrote archive fit w t (turnBy script w t).2 v ∧
      v.session.blur = (w.session.prepare w.around.files t).2.blur := by
  unfold turnBy
  have hd := dumpMemberInto_apply o t w
  have ho := w.session.prepare_options w.around.files t
  rcases hp : w.session.prepare w.around.files t with ⟨p, s⟩
  rw [hp] at hd ho hc
  have hbare : Wrote archive fit w t [] (w.withSession s) := .of_quietly (.session hf s) hw t
  have hsaid : Quietly archive fit w (announced w t) := quietly_announced hf t
  have hq : Quietly archive fit w ((announced w t).withSession s) := hsaid.trans (.session hsaid.fits s)
  have hann := Wrote.of_quietly hq hw t
  cases p with
  | unfound e =>
    obtain ⟨u, hu, hwu, hs⟩ := recovered_wrote h ht hd rfl hc hbare
    exact ⟨u, hu, hwu, by rw [hs]; rfl⟩
  | nested =>
    refine ⟨w.withSession s, ?_, hbare, rfl⟩
    rw [dumpMember_apply, hd]
    rfl
  | unbuilt e =>
    obtain ⟨u, hu, hwu, hs⟩ := recovered_wrote h ht hd rfl hc hann
    exact ⟨u, hu, hwu, by rw [hs]; rfl⟩
  | built id m =>
    have hb : ((announced w t).withSession s).held = none := hann.held
    have hpol : ((announced w t).withSession s).session.options = w.session.options := ho
    have he := (outputs_emitText _ o true t (Usage.collect m) w.session.options.identifierPolicy
      (memberPieces w.session.options.identifierPolicy m) ((announced w t).withSession s) (.refl _)).session
    dsimp only at hd
    rw [emitMember_apply, hpol] at hd
    simp only [Script.turn]
    rcases hpr : script.prints t 0 (memberPieces w.session.options.identifierPolicy m) with ⟨e | _, k, text⟩
    · obtain ⟨v, hx, hv⟩ := emitText_unprinted h ht hq.fits hb true (Usage.collect m) w.session.options.identifierPolicy hpr
      rw [hx] at hd he
      obtain ⟨u, hu, hwu, hs⟩ := recovered_writing h hd rfl ((congrArg (·.cache.crash) he).trans hc) hv
      exact ⟨u, hu, hann.trans hwu, by rw [hs, he]; rfl⟩
    · obtain ⟨v, hx, hv⟩ := emitText_printed h ht hq.fits hb true (Usage.collect m) w.session.options.identifierPolicy hpr
      rw [hx] at hd he
      have hsv : v.session = s := he
      dsimp only
      rcases hclose : script.close t k with e | _
      · rw [hclose] at hd
        obtain ⟨u, hu, hwu, hs⟩ := recovered_wrote h ht hd rfl ((congrArg (·.cache.crash) he).trans hc) (hann.trans hv)
        rw [hsv] at hwu
        exact ⟨u, hu, hwu, by rw [hs, hsv]⟩
      · rw [hclose] at hd
        refine ⟨v.withSession (s.finishMember id), ?_, ?_, ?_⟩
        · rw [dumpMember_apply, hd, ← hsv]
          rfl
        · exact (hann.trans hv).session _
        · exact Session.finishMember_blur (by rw [ho]; exact hl) fun u hu => Session.prepare_unreleased hp hu

end Steps

end World

end ClassSkeleton
