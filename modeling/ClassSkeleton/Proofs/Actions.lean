import ClassSkeleton.Run.Paths

/-
  ClassSkeleton.Proofs.Actions — how the actions of a run go, one at a time.

  An action is a function of the world it finds. For the basic ones there is an equation for what they
  answer and leave behind. `Keeps P` says that an action leads from worlds with `P` to worlds with `P`,
  whether it fails or not; it is put together along sequences. The frame used most is `Outputs v`:
  talking to the outlet changes neither the session nor the records of `v`, and adds nothing but sink
  events and notices to its trace.
-/

namespace ClassSkeleton

namespace World

variable {σ α β : Type}

def withSession (w : World σ) (s : Session) : World σ := { w with session := s }

@[simp] theorem withSession_session (w : World σ) (s : Session) : (w.withSession s).session = s := (rfl)
@[simp] theorem withSession_around (w : World σ) (s : Session) : (w.withSession s).around = w.around := rfl

/-! ## Sequences and basic actions -/

theorem act_bind (x : Act σ α) (f : α → Act σ β) (w : World σ) : (x >>= f) w = f (x w).1 (x w).2 := rfl

theorem attempt_bind (x : Attempt σ α) (f : α → Attempt σ β) (w : World σ) :
    (x >>= f) w = match x w with
      | (.ok a, v) => f a v
      | (.error e, v) => (.error e, v) := by
  show ExceptT.bind x f w = _
  simp only [ExceptT.bind, ExceptT.mk, bind, StateT.bind]
  rcases x w with ⟨r, v⟩
  cases r <;> rfl

theorem attempt_bind_ok {x : Attempt σ α} {f : α → Attempt σ β} {w v : World σ} {a : α} (h : x w = (.ok a, v)) :
    (x >>= f) w = f a v := by rw [attempt_bind, h]

theorem attempt_bind_error {x : Attempt σ α} {f : α → Attempt σ β} {w v : World σ} {e : DecompileError}
    (h : x w = (.error e, v)) : (x >>= f) w = (.error e, v) := by rw [attempt_bind, h]

@[simp] theorem act_pure (a : α) (w : World σ) : (pure a : Act σ α) w = (a, w) := rfl
@[simp] theorem attempt_pure (a : α) (w : World σ) : (pure a : Attempt σ α) w = (.ok a, w) := rfl
@[simp] theorem attempt_run (x : Attempt σ α) : x.run = x := rfl
@[simp] theorem up_apply (x : Act σ α) (w : World σ) : up x w = (.ok (x w).1, (x w).2) := rfl
@[simp] theorem get_apply (w : World σ) : (get : Act σ (World σ)) w = (w, w) := rfl
@[simp] theorem modify_apply (f : World σ → World σ) (w : World σ) : (modify f : Act σ Unit) w = ((), f w) := rfl
@[simp] theorem hasCrashed_apply (w : World σ) : hasCrashed w = (w.crash.isSome, w) := rfl
@[simp] theorem asks_apply (f : Session → α) (w : World σ) : asks f w = (f w.session, w) := (rfl)
@[simp] theorem changeSession_apply (f : Session → Session) (w : World σ) :
    changeSession f w = ((), w.withSession (f w.session)) := (rfl)
@[simp] theorem log_apply (e : Event) (w : World σ) : log e w = ((), { w with trace := w.trace ++ [e] }) := rfl
@[simp] theorem outside_apply (act : OutletM σ α) (w : World σ) :
    outside act w = ((act w.around).1, { w with around := (act w.around).2 }) := rfl
@[simp] theorem notice_apply (o : Outlet σ) (text : String) (w : World σ) :
    notice o text w = ((), { w with around := (o.notify text w.around).2, trace := w.trace ++ [.notice text] }) := rfl

@[simp] theorem noteException_apply (path : Path) (context : Option String) (e : DecompileError) (w : World σ) :
    noteException path context e w = ((), { w with
      records := w.records ++ [⟨path, context, e.kind, e.describe⟩]
      trace := w.trace ++ [.exception ⟨path, context, e.kind, e.describe⟩] }) := rfl

@[simp] theorem mapError_ok {ε : Type} (f : ε → DecompileError) (a : α) : (Except.ok a).mapError f = .ok a := rfl
@[simp] theorem mapError_error {ε : Type} (f : ε → DecompileError) (e : ε) :
    (Except.error e : Except ε α).mapError f = .error (f e) := rfl

theorem onCache_apply (op : FileTree → Cache → Except LoadError α × Cache) (w : World σ) :
    onCache op w = ((op w.around.files w.session.cache).1.mapError .load,
      w.withSession { w.session with cache := .settled (op w.around.files w.session.cache) }) := rfl

/-! ## What sequences keep -/

def Keeps (P : World σ → Prop) (x : Act σ α) : Prop := ∀ w, P w → P (x w).2

namespace Keeps

variable {P : World σ → Prop}

theorem pure (a : α) : Keeps P (Pure.pure a : Act σ α) := fun _ h => h

theorem bind {x : Act σ α} {f : α → Act σ β} (hx : Keeps P x) (hf : ∀ a, Keeps P (f a)) : Keeps P (x >>= f) :=
  fun w h => hf _ _ (hx w h)

theorem up {x : Act σ α} (hx : Keeps P x) : Keeps P (World.up x) := hx

/-- A failure leaves the world as the failed action left it, so it keeps what that one keeps. -/
theorem try_bind {x : Attempt σ α} {f : α → Attempt σ β} (hx : Keeps P x) (hf : ∀ a, Keeps P (f a)) :
    Keeps P (x >>= f : Attempt σ β) := by
  intro w h
  have hv := hx w h
  rw [attempt_bind]
  rcases hr : x w with ⟨r, v⟩
  rw [hr] at hv
  cases r with
  | error e => exact hv
  | ok a => exact hf a v hv

end Keeps

/-! ## Talking to the outlet -/

end World

/-- Said to the outlet, about a sink or for the summary. -/
def Event.isOutput : Event → Bool
  | acquired .. | refused _ | printed .. | closed .. | notice _ => true
  | _ => false

namespace World

variable {σ α β : Type}

/-- `w` comes from `v` with nothing but such events added. -/
def Grows (p : Event → Prop) (v w : World σ) : Prop := ∃ more, w.trace = v.trace ++ more ∧ ∀ e ∈ more, p e

namespace Grows

variable {p : Event → Prop} {u v w : World σ}

theorem refl (w : World σ) : Grows p w w := ⟨[], (List.append_nil _).symm, fun _ h => by cases h⟩

theorem trans (h : Grows p u v) (h' : Grows p v w) : Grows p u w := by
  obtain ⟨more, ht, hm⟩ := h
  obtain ⟨more', ht', hm'⟩ := h'
  refine ⟨more ++ more', by rw [ht', ht, List.append_assoc], fun e he => ?_⟩
  exact (List.mem_append.1 he).elim (hm e) (hm' e)

theorem event {e : Event} (h : Grows p v w) (he : p e) (ht : u.trace = w.trace ++ [e]) : Grows p v u :=
  h.trans ⟨[e], ht, fun d hd => by rw [List.mem_singleton.1 hd]; exact he⟩

end Grows

/-- `w` comes from `v` by talking to the outlet. -/
structure Outputs (v w : World σ) : Prop where
  session : w.session = v.session
  records : w.records = v.records
  trace : ∃ more, w.trace = v.trace ++ more ∧ ∀ e ∈ more, e.isOutput = true

theorem Outputs.refl (w : World σ) : Outputs w w := ⟨rfl, rfl, [], by simp, by simp⟩

/-- Another event; where the sinks stand and what the outlet makes of it do not matter here. -/
theorem Outputs.step {v w : World σ} (h : Outputs v w) (around : Surroundings σ) (sinks : Nat) (held : Option Nat)
    (e : Event) (he : e.isOutput = true) :
    Outputs v { w with around := around, sinks := sinks, held := held, trace := w.trace ++ [e] } := by
  obtain ⟨hs, hr, more, ht, hm⟩ := h
  refine ⟨hs, hr, more ++ [e], by simp [ht], fun d hd => ?_⟩
  rcases List.mem_append.1 hd with hd | hd
  · exact hm d hd
  · rw [List.mem_singleton.1 hd]; exact he

theorem Outputs.quiet {v w : World σ} (h : Outputs v w) (around : Surroundings σ) (sinks : Nat) (held : Option Nat) :
    Outputs v { w with around := around, sinks := sinks, held := held } := ⟨h.session, h.records, h.trace⟩

theorem release_none (o : Outlet σ) {w : World σ} (h : w.held = none) : release o w = (.ok (), w) := by
  simp only [release, act_bind, get_apply, h, act_pure]

theorem release_some (o : Outlet σ) {w : World σ} {n : Nat} (h : w.held = some n) :
    release o w = ((o.close n w.around).1, { w with
      held := none, around := (o.close n w.around).2
      trace := w.trace ++ [.closed n (failureOf (o.close n w.around).1)] }) := by
  simp only [release, act_bind, get_apply, h, modify_apply, outside_apply, log_apply, act_pure]

theorem print_none (o : Outlet σ) (text : String) {w : World σ} (h : w.held = none) : print o text w = (none, w) := by
  simp only [print, act_bind, get_apply, h, act_pure]

theorem print_some (o : Outlet σ) (text : String) {w : World σ} {n : Nat} (h : w.held = some n) :
    print o text w = (some (o.print n text w.around).1, { w with
      around := (o.print n text w.around).2
      trace := w.trace ++ [.printed n text (failureOf (o.print n text w.around).1)] }) := by
  simp only [print, act_bind, get_apply, h, outside_apply, log_apply, act_pure]

/-- The world once the outlet's texts are in the summary, if there is one. -/
def noted (o : Outlet σ) (summary : Bool) (texts : List String) (w : World σ) : World σ :=
  if summary then (notices o texts w).2 else w

theorem acquire_apply (o : Outlet σ) (summary : Bool) (t : TypeName) (usage : Usage) (policy : IdentifierPolicy)
    (w : World σ) :
    acquire o summary t usage policy w =
      let r := o.acquire w.sinks t usage policy w.around
      let v := noted o summary r.1.1 { w with around := r.2 }
      match r.1.2 with
      | .error e => (.error (.cannotCreateSink e), { v with trace := v.trace ++ [.refused t] })
      | .ok () => (.ok (), (install o w.sinks { v with
          sinks := w.sinks + 1, trace := v.trace ++ [.acquired w.sinks t usage.imports policy] }).2) := by
  simp only [acquire, attempt_bind, up_apply, get_apply, outside_apply, noted]
  rcases o.acquire w.sinks t usage policy w.around with ⟨⟨texts, r⟩, around⟩
  cases summary <;> cases r <;> rfl

theorem keeps_notices {P : World σ → Prop} {o : Outlet σ} (h : ∀ text, Keeps P (notice o text)) (texts : List String) :
    Keeps P (notices o texts) := by
  induction texts with
  | nil => exact .pure ()
  | cons text rest ih => exact .bind (h text) fun _ => ih

theorem noted_keeps {P : World σ → Prop} {o : Outlet σ} (h : ∀ text, Keeps P (notice o text)) (summary : Bool)
    (texts : List String) {w : World σ} (hw : P w) : P (noted o summary texts w) := by
  unfold noted
  split
  · exact keeps_notices h texts w hw
  · exact hw

theorem keeps_printAll {P : World σ → Prop} {o : Outlet σ} (h : ∀ text, Keeps P (print o text)) (pieces : List String) :
    Keeps P (printAll o pieces) := by
  induction pieces with
  | nil => exact .pure _
  | cons text rest ih =>
    refine .bind (h text) fun r => ?_
    split
    · exact .pure _
    · exact ih

/-- Printing and closing as one: what both keep is kept however it ends. -/
theorem keeps_writeAll {P : World σ → Prop} {o : Outlet σ} (hp : ∀ text, Keeps P (print o text))
    (hr : Keeps P (release o)) (t : TypeName) (pieces : List String) : Keeps P (writeAll o t pieces) := by
  refine .try_bind (keeps_printAll hp pieces) fun r => ?_
  split
  · exact fun _ h => h
  · refine .try_bind hr fun r => ?_
    split <;> exact fun _ h => h

theorem writeAll_apply (o : Outlet σ) (t : TypeName) (pieces : List String) (w : World σ) :
    writeAll o t pieces w =
      match printAll o pieces w with
      | (.error e, v) => (.error (.dump t e), v)
      | (.ok (), v) =>
        ((release o v).1.mapError (.dump t) |>.map fun _ => Digest.ofText (String.join pieces), (release o v).2) := by
  simp only [writeAll, attempt_bind, up_apply]
  rcases printAll o pieces w with ⟨r, v⟩
  cases r with
  | error e => rfl
  | ok a =>
    simp only [attempt_bind, up_apply]
    rcases release o v with ⟨r, u⟩
    cases r <;> rfl

theorem outputs_notice (v : World σ) (o : Outlet σ) (text : String) : Keeps (Outputs v) (notice o text) :=
  fun w h => h.step _ w.sinks w.held _ rfl

theorem outputs_release (v : World σ) (o : Outlet σ) : Keeps (Outputs v) (release o) := by
  intro w h
  rcases hh : w.held with _ | n
  · rw [release_none o hh]; exact h
  · rw [release_some o hh]; exact h.step _ w.sinks none _ rfl

/-- A crash is no matter of the outlet. -/
theorem Outputs.crash {v w : World σ} (h : Outputs v w) : w.crash = v.crash := by rw [World.crash, h.session]; rfl

theorem crash_release (o : Outlet σ) (w : World σ) : (release o w).2.crash = w.crash :=
  (outputs_release w o w (.refl w)).crash

theorem outputs_print (v : World σ) (o : Outlet σ) (text : String) : Keeps (Outputs v) (print o text) := by
  intro w h
  rcases hh : w.held with _ | n
  · rw [print_none o text hh]; exact h
  · rw [print_some o text hh]; exact h.step _ w.sinks w.held _ rfl

theorem outputs_install (v : World σ) (o : Outlet σ) (n : Nat) : Keeps (Outputs v) (install o n) :=
  .bind (outputs_release v o) fun _ w h => h.quiet w.around w.sinks (some n)

theorem outputs_acquire (v : World σ) (o : Outlet σ) (summary : Bool) (t : TypeName) (usage : Usage)
    (policy : IdentifierPolicy) : Keeps (Outputs v) (acquire o summary t usage policy) := by
  intro w h
  rw [acquire_apply]
  have hn := noted_keeps (outputs_notice v o) summary (o.acquire w.sinks t usage policy w.around).1.1
    (h.quiet (o.acquire w.sinks t usage policy w.around).2 w.sinks w.held)
  dsimp only
  split
  · exact hn.step _ _ _ _ rfl
  · exact outputs_install v o _ _ (hn.step _ _ _ _ rfl)

theorem outputs_writeAll (v : World σ) (o : Outlet σ) (t : TypeName) (pieces : List String) :
    Keeps (Outputs v) (writeAll o t pieces) :=
  keeps_writeAll (outputs_print v o) (outputs_release v o) t pieces

end World

end ClassSkeleton
