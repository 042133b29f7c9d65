import ClassSkeleton.Proofs.Phases

/-
  ClassSkeleton.Proofs.SinkDiscipline — every sink is closed, once and in time.

  A ledger reads a trace from its beginning and keeps two things: how many sinks were handed out and
  which one is open. It accepts no event out of order, that is, no request for a sink while one is open
  and no use of a sink that is not open. A trace that a ledger reads to its end, with nothing open then,
  has the discipline that is wanted of sinks (`discipline_of_read`).

  A world is tidy when the ledger of its trace agrees with the number of sinks and the sink in hand.
  Printing and closing keep worlds tidy, and so does asking for a sink with empty hands. Each of the
  ways a class can end leaves the hands empty or, after a failure on an open sink, has its sink closed by
  the note or at the end of the call. So every call leads from a tidy world with empty hands to one.
-/

namespace ClassSkeleton

namespace Event

/-- Hands out the sink with the given number. -/
def acquires (n : Nat) : Event → Bool
  | acquired m .. => m == n
  | _ => false

def closes (n : Nat) : Event → Bool
  | closed m _ => m == n
  | _ => false

def prints (n : Nat) : Event → Bool
  | printed m .. => m == n
  | _ => false

/-- Asks for a sink, with or without success. -/
def asksForSink : Event → Bool
  | acquired .. | refused _ => true
  | _ => false

/-- After the trace the sink is handed out and not closed. -/
def IsOpen (trace : List Event) (n : Nat) : Prop := (∃ e ∈ trace, e.acquires n) ∧ ∀ e ∈ trace, ¬ e.closes n

end Event

/-- What a trace says about the life of sinks. -/
structure SinkDiscipline (trace : List Event) : Prop where
  /-- A sink that was handed out is closed exactly once. -/
  closedOnce : ∀ n, ∀ e ∈ trace, e.acquires n → trace.countP (Event.closes n) = 1
  /-- Only an open sink is printed on or closed. -/
  usedOpen : ∀ before e after n, trace = before ++ e :: after → e.prints n ∨ e.closes n → Event.IsOpen before n
  /-- Nothing is printed on a sink once it is closed. -/
  silentAfterClose : ∀ before e after n, trace = before ++ e :: after → e.closes n → ∀ d ∈ after, ¬ d.prints n
  /-- A sink is closed before another one is asked for. -/
  closedBeforeNext : ∀ before e between d after n, trace = before ++ e :: between ++ d :: after →
    e.acquires n → d.asksForSink → ∃ c ∈ between, c.closes n
  /-- At no moment are two sinks open. -/
  oneOpen : ∀ before after, trace = before ++ after → ∀ m n, Event.IsOpen before m → Event.IsOpen before n → m = n
  /-- What is closed after a refusal was handed out after it. -/
  refusalClosesNothing : ∀ before t between e after n, trace = before ++ .refused t :: between ++ e :: after →
    e.closes n → ∃ d ∈ between, d.acquires n
  /-- No sink is left open. -/
  noneLeft : ∀ n, ¬ Event.IsOpen trace n

/-! ## The ledger -/

structure Ledger where
  /-- How many sinks were handed out; they have the numbers below. -/
  next : Nat
  /-- The open sink. -/
  current : Option Nat
  deriving DecidableEq, Repr

namespace Ledger

/-- Enters an event, unless it is out of order. -/
def enter (l : Ledger) : Event → Option Ledger
  | .acquired n .. => if l.current = none ∧ n = l.next then some ⟨n + 1, some n⟩ else none
  | .refused _ => if l.current = none then some l else none
  | .printed n .. => if l.current = some n then some l else none
  | .closed n _ => if l.current = some n then some ⟨l.next, none⟩ else none
  | _ => some l

section Enter

variable {l l' : Ledger} {n : Nat} {t : TypeName}

theorem enter_acquired {imports : List TypeName} {policy : IdentifierPolicy} :
    l.enter (.acquired n t imports policy) = some l' ↔ l.current = none ∧ n = l.next ∧ l' = ⟨n + 1, some n⟩ := by
  rw [enter, Option.ite_none_right_eq_some, Option.some.injEq, and_assoc, eq_comm (b := l')]

theorem enter_refused : l.enter (.refused t) = some l' ↔ l.current = none ∧ l' = l := by
  rw [enter, Option.ite_none_right_eq_some, Option.some.injEq, eq_comm (b := l')]

theorem enter_printed {text : String} {failure : Option IoError} :
    l.enter (.printed n text failure) = some l' ↔ l.current = some n ∧ l' = l := by
  rw [enter, Option.ite_none_right_eq_some, Option.some.injEq, eq_comm (b := l')]

theorem enter_closed {failure : Option IoError} :
    l.enter (.closed n failure) = some l' ↔ l.current = some n ∧ l' = ⟨l.next, none⟩ := by
  rw [enter, Option.ite_none_right_eq_some, Option.some.injEq, eq_comm (b := l')]

end Enter

/-- Reads on. -/
def readOn (l : Ledger) (trace : List Event) : Option Ledger := trace.foldlM enter l

def read (trace : List Event) : Option Ledger := readOn ⟨0, none⟩ trace

theorem readOn_append (l : Ledger) (a b : List Event) : l.readOn (a ++ b) = (l.readOn a).bind fun k => k.readOn b :=
  List.foldlM_append

theorem readOn_cons (l : Ledger) (e : Event) (b : List Event) :
    l.readOn (e :: b) = (l.enter e).bind fun k => k.readOn b :=
  List.foldlM_cons

/-- A ledger that reads a trace reads every front of it. -/
theorem read_front {a b : List Event} {l : Ledger} (h : read (a ++ b) = some l) :
    ∃ k, read a = some k ∧ k.readOn b = some l := by
  rw [read, readOn_append] at h
  exact Option.bind_eq_some_iff.1 h

theorem read_front_cons {a b : List Event} {e : Event} {l : Ledger} (h : read (a ++ e :: b) = some l) :
    ∃ k k', read a = some k ∧ k.enter e = some k' ∧ k'.readOn b = some l := by
  obtain ⟨k, hk, hb⟩ := read_front h
  rw [readOn_cons] at hb
  obtain ⟨k', he, hb⟩ := Option.bind_eq_some_iff.1 hb
  exact ⟨k, k', hk, he, hb⟩

/-- The books of a ledger: the sinks with numbers below `next` were handed out once each, and all of
them but the open one closed once. -/
structure Balanced (trace : List Event) (l : Ledger) : Prop where
  acquired : ∀ n, trace.countP (Event.acquires n) = if n < l.next then 1 else 0
  closed : ∀ n, trace.countP (Event.closes n) = if n < l.next ∧ l.current ≠ some n then 1 else 0
  current : ∀ n, l.current = some n → n < l.next

theorem balanced_enter {trace : List Event} {l l' : Ledger} {e : Event} (h : Balanced trace l)
    (he : l.enter e = some l') : Balanced (trace ++ [e]) l' := by
  obtain ⟨ha, hc, hn⟩ := h
  cases e with
  | acquired m t imports policy =>
    obtain ⟨hm, rfl, rfl⟩ := enter_acquired.1 he
    refine ⟨fun n => ?_, fun n => ?_, fun n h => ?_⟩
    · simp only [List.countP_append, ha, List.countP_singleton, Event.acquires, beq_iff_eq]
      by_cases h : l.next = n
      · subst h; simp
      · have : n < l.next + 1 ↔ n < l.next := by omega
        simp [h, this]
    · simp only [List.countP_append, hc, List.countP_singleton, Event.closes, hm]
      by_cases h : l.next = n
      · subst h; simp
      · have : n < l.next + 1 ↔ n < l.next := by omega
        simp [h, this]
    · simp only [Option.some.injEq] at h
      simp only; omega
  | closed m failure =>
    obtain ⟨hm, rfl⟩ := enter_closed.1 he
    have := hn m hm
    refine ⟨fun n => by simp [List.countP_append, ha, Event.acquires], fun n => ?_, fun n h => by simp at h⟩
    simp only [List.countP_append, hc, List.countP_singleton, Event.closes, beq_iff_eq, hm]
    by_cases h : m = n
    · subst h; simp [this]
    · simp [h]
  | refused t =>
    obtain ⟨-, rfl⟩ := enter_refused.1 he
    exact ⟨fun n => by simp [List.countP_append, ha, Event.acquires],
      fun n => by simp [List.countP_append, hc, Event.closes], hn⟩
  | printed m text failure =>
    obtain ⟨-, rfl⟩ := enter_printed.1 he
    exact ⟨fun n => by simp [List.countP_append, ha, Event.acquires],
      fun n => by simp [List.countP_append, hc, Event.closes], hn⟩
  | _ =>
    cases he
    exact ⟨fun n => by simp [List.countP_append, ha, Event.acquires],
      fun n => by simp [List.countP_append, hc, Event.closes], hn⟩

theorem balanced_readOn {trace more : List Event} {l l' : Ledger} (h : Balanced trace l)
    (hr : l.readOn more = some l') : Balanced (trace ++ more) l' := by
  induction more generalizing trace l with
  | nil => cases hr; simpa using h
  | cons e more ih =>
    rw [readOn_cons] at hr
    obtain ⟨k, he, hr⟩ := Option.bind_eq_some_iff.1 hr
    simpa using ih (balanced_enter h he) hr

theorem balanced_read {trace : List Event} {l : Ledger} (h : read trace = some l) : Balanced trace l := by
  have h₀ : Balanced [] ⟨0, none⟩ := ⟨fun n => by simp, fun n => by simp, fun n h => by simp at h⟩
  simpa using balanced_readOn h₀ h

namespace Balanced

variable {trace : List Event} {l : Ledger} {n : Nat}

theorem exists_acquires (h : Balanced trace l) : (∃ e ∈ trace, e.acquires n) ↔ n < l.next := by
  rw [← List.countP_pos_iff, h.acquired]
  split <;> simp_all

theorem exists_closes (h : Balanced trace l) : (∃ e ∈ trace, e.closes n) ↔ n < l.next ∧ l.current ≠ some n := by
  rw [← List.countP_pos_iff, h.closed]
  split <;> simp_all

/-- The open sinks of a trace are the one its ledger has open. -/
theorem isOpen (h : Balanced trace l) : Event.IsOpen trace n ↔ l.current = some n := by
  have hc : (∀ e ∈ trace, ¬ e.closes n) ↔ ¬ (n < l.next ∧ l.current ≠ some n) := by
    rw [← h.exists_closes]
    simp
  rw [Event.IsOpen, h.exists_acquires, hc]
  constructor
  · rintro ⟨hn, hc⟩
    exact Decidable.byContradiction fun hne => hc ⟨hn, hne⟩
  · intro he
    exact ⟨h.current n he, fun hn => hn.2 he⟩

end Balanced

/-- Asking for a sink finds none open. -/
theorem current_of_asks {l l' : Ledger} {e : Event} (ha : e.asksForSink) (he : l.enter e = some l') :
    l.current = none := by
  cases e with
  | acquired m t imports policy => exact (enter_acquired.1 he).1
  | refused t => exact (enter_refused.1 he).1
  | _ => cases ha

theorem next_of_acquires {l l' : Ledger} {e : Event} {n : Nat} (ha : e.acquires n) (he : l.enter e = some l') :
    l.next = n := by
  cases e with
  | acquired m t imports policy =>
    obtain rfl : m = n := by simpa [Event.acquires] using ha
    exact (enter_acquired.1 he).2.1.symm
  | _ => cases ha

/-- Printing and closing find their sink open. -/
theorem current_of_use {l l' : Ledger} {e : Event} {n : Nat} (hu : e.prints n ∨ e.closes n) (he : l.enter e = some l') :
    l.current = some n := by
  cases e with
  | printed m text failure =>
    obtain rfl : m = n := by simpa [Event.prints, Event.closes] using hu
    exact (enter_printed.1 he).1
  | closed m failure =>
    obtain rfl : m = n := by simpa [Event.prints, Event.closes] using hu
    exact (enter_closed.1 he).1
  | _ => simp [Event.prints, Event.closes] at hu

end Ledger

open Ledger in
/-- A trace that a ledger reads to the end, with nothing open there, is one of disciplined sinks. -/
theorem discipline_of_read {trace : List Event} {k : Nat} (h : read trace = some ⟨k, none⟩) : SinkDiscipline trace := by
  have hb := balanced_read h
  have used : ∀ before e after n, trace = before ++ e :: after → e.prints n ∨ e.closes n → Event.IsOpen before n := by
    rintro before e after n rfl hu
    obtain ⟨l, l', hl, he, -⟩ := read_front_cons h
    exact (balanced_read hl).isOpen.2 (current_of_use hu he)
  refine ⟨?_, used, ?_, ?_, ?_, ?_, ?_⟩
  · intro n e he ha
    have hn : n < k := hb.exists_acquires.1 ⟨e, he, ha⟩
    rw [hb.closed]
    simp [hn]
  · intro before e after n ht hc d hd hp
    obtain ⟨between, rest, rfl⟩ := List.append_of_mem hd
    have hopen := used (before ++ e :: between) d rest n (by simp [ht]) (.inl hp)
    exact hopen.2 e (by simp) hc
  · rintro before e between d after n rfl ha hd
    obtain ⟨l, l', hl, he, -⟩ := read_front_cons h
    have hn : n < l.next := (balanced_read hl).exists_acquires.1 ⟨e, by simp, ha⟩
    obtain ⟨c, hm, hc⟩ := (balanced_read hl).exists_closes.2 ⟨hn, by simp [current_of_asks hd he]⟩
    rcases List.mem_append.1 hm with hm | hm
    · -- a sink has no events before it is handed out
      obtain ⟨l₀, l₁, hl₀, he₀, -⟩ := read_front_cons hl
      have := ((balanced_read hl₀).exists_closes.1 ⟨c, hm, hc⟩).1
      have := next_of_acquires ha he₀
      omega
    · rcases List.mem_cons.1 hm with rfl | hm
      · cases c <;> simp [Event.acquires, Event.closes] at ha hc
      · exact ⟨c, hm, hc⟩
  · rintro before after rfl m n hm hn
    obtain ⟨l, hl, -⟩ := read_front h
    have hbl := balanced_read hl
    simpa using (hbl.isOpen.1 hm).symm.trans (hbl.isOpen.1 hn)
  · rintro before t between e after n rfl hc
    obtain ⟨⟨d, hm, ha⟩, hnot⟩ := used _ e after n rfl (.inr hc)
    rcases List.mem_append.1 hm with hm | hm
    · -- handed out before the refusal, when nothing was open, it was closed by then
      obtain ⟨l, hl, -⟩ := read_front h
      obtain ⟨l₀, l₁, hl₀, he₀, -⟩ := read_front_cons hl
      have hn := (balanced_read hl₀).exists_acquires.1 ⟨d, hm, ha⟩
      obtain ⟨c, hcm, hcc⟩ := (balanced_read hl₀).exists_closes.2 ⟨hn, by simp [current_of_asks rfl he₀]⟩
      exact absurd hcc (hnot c (List.mem_append_left _ hcm))
    · rcases List.mem_cons.1 hm with rfl | hm
      · cases ha
      · exact ⟨d, hm, ha⟩
  · intro n ho
    simpa using hb.isOpen.1 ho

/-! ## Tidy worlds -/

namespace World

variable {σ : Type}

/-- The ledger of the trace has the sinks and the sink in hand of the world. -/
def Tidy (w : World σ) : Prop := Ledger.read w.trace = some ⟨w.sinks, w.held⟩

/-- Tidy, with empty hands. -/
structure AtRest (w : World σ) : Prop where
  tidy : Tidy w
  empty : w.held = none

theorem start_atRest (session : Session) (files : FileTree) (state : σ) : AtRest (start session files state) :=
  ⟨rfl, rfl⟩

theorem Tidy.event {w : World σ} (h : Tidy w) (around : Surroundings σ) (sinks : Nat) (held : Option Nat) (e : Event)
    (he : Ledger.enter ⟨w.sinks, w.held⟩ e = some ⟨sinks, held⟩) :
    Tidy { w with around := around, sinks := sinks, held := held, trace := w.trace ++ [e] } := by
  show Ledger.read (w.trace ++ [e]) = _
  rw [Ledger.read, Ledger.readOn_append]
  rw [Tidy, Ledger.read] at h
  rw [h, Option.bind_some, Ledger.readOn_cons, he]
  rfl

theorem tidy_notice (o : Outlet σ) (text : String) : Keeps Tidy (notice o text) :=
  fun w h => h.event _ w.sinks w.held _ rfl

theorem tidy_release (o : Outlet σ) : Keeps Tidy (release o) := by
  intro w h
  rcases hh : w.held with _ | n
  · rw [release_none o hh]; exact h
  · rw [release_some o hh]
    exact h.event _ w.sinks none _ (by simp [Ledger.enter, hh])

theorem held_release (o : Outlet σ) (w : World σ) : (release o w).2.held = none := by
  rcases hh : w.held with _ | n
  · rw [release_none o hh]; exact hh
  · rw [release_some o hh]

theorem atRest_release (o : Outlet σ) {w : World σ} (h : Tidy w) : AtRest (release o w).2 :=
  ⟨tidy_release o w h, held_release o w⟩

theorem tidy_print (o : Outlet σ) (text : String) : Keeps Tidy (print o text) := by
  intro w h
  rcases hh : w.held with _ | n
  · rw [print_none o text hh]; exact h
  · rw [print_some o text hh]
    exact h.event _ w.sinks w.held _ (by simp [Ledger.enter, hh])

theorem tidy_writeAll (o : Outlet σ) (t : TypeName) (pieces : List String) : Keeps Tidy (writeAll o t pieces) :=
  keeps_writeAll (tidy_print o) (tidy_release o) t pieces

/-- Notices leave sinks and hands as they are. -/
theorem noted_atRest (o : Outlet σ) (summary : Bool) (texts : List String) {w : World σ} (h : AtRest w) :
    AtRest (noted o summary texts w) ∧ (noted o summary texts w).sinks = w.sinks :=
  noted_keeps (P := fun v => AtRest v ∧ v.sinks = w.sinks)
    (fun text v hv => ⟨⟨tidy_notice o text v hv.1.tidy, hv.1.empty⟩, hv.2⟩) summary texts ⟨h, rfl⟩

/-- With empty hands, asking for a sink keeps the world tidy; when it is refused the hands stay empty. -/
theorem acquire_atRest (o : Outlet σ) (summary : Bool) (t : TypeName) (usage : Usage) (policy : IdentifierPolicy)
    {w : World σ} (h : AtRest w) :
    Tidy (acquire o summary t usage policy w).2 ∧
      ∀ e, (acquire o summary t usage policy w).1 = .error e → AtRest (acquire o summary t usage policy w).2 := by
  rw [acquire_apply]
  obtain ⟨hv, hs⟩ := noted_atRest o summary (o.acquire w.sinks t usage policy w.around).1.1
    (w := { w with around := (o.acquire w.sinks t usage policy w.around).2 }) ⟨h.tidy, h.empty⟩
  dsimp only
  generalize noted o summary _ _ = v at hv hs ⊢
  split
  · have ht := hv.tidy.event v.around v.sinks v.held (.refused t) (by simp [Ledger.enter, hv.empty])
    exact ⟨ht, fun _ _ => ⟨ht, hv.empty⟩⟩
  · refine ⟨?_, fun e he => by cases he⟩
    rw [install, act_bind, release_none o (by exact hv.empty), modify_apply]
    have ht := hv.tidy.event v.around (w.sinks + 1) (some w.sinks) (.acquired w.sinks t usage.imports policy)
      (by simp [Ledger.enter, hv.empty, hs])
    exact ht

/-! ## One class -/

/-- How work on a class ends: tidy, and with empty hands unless it failed in a way others survive. -/
structure Ended {α : Type} (r : Except DecompileError α × World σ) : Prop where
  tidy : Tidy r.2
  ok : ∀ a, r.1 = .ok a → r.2.held = none
  fatal : ∀ e, r.1 = .error e → e.isFatal = true → r.2.held = none

theorem AtRest.ended {α : Type} {r : Except DecompileError α} {w : World σ} (h : AtRest w) : Ended (r, w) :=
  ⟨h.tidy, fun _ _ => h.empty, fun _ _ _ => h.empty⟩

theorem AtRest.session {w : World σ} (h : AtRest w) (s : Session) : AtRest (w.withSession s) := ⟨h.tidy, h.empty⟩

theorem AtRest.progress {w : World σ} (h : AtRest w) (t : TypeName) :
    AtRest (log (.progressType t) w).2 :=
  ⟨h.tidy.event w.around w.sinks w.held _ rfl, h.empty⟩

theorem AtRest.announced {w : World σ} (h : AtRest w) (t : TypeName) : AtRest (announced w t) := by
  unfold World.announced
  split
  · exact h
  · exact h.progress t

/-- A failed print leaves the sink in hand, a failed close does not; neither failure is fatal. -/
theorem writeAll_ended (o : Outlet σ) (t : TypeName) (pieces : List String) {w : World σ} (h : Tidy w) :
    Ended (writeAll o t pieces w) := by
  have ht := tidy_writeAll o t pieces w h
  rw [writeAll_apply] at ht ⊢
  rcases hp : printAll o pieces w with ⟨r, v⟩
  rw [hp] at ht
  cases r with
  | error e => exact ⟨ht, fun a ha => (by cases ha), fun e' he hf => (by cases he; cases hf)⟩
  | ok a => exact ⟨ht, fun _ _ => held_release o v, fun _ _ _ => held_release o v⟩

theorem emitText_ended (o : Outlet σ) (summary : Bool) (t : TypeName) (usage : Usage) (policy : IdentifierPolicy)
    (pieces : List String) {w : World σ} (h : AtRest w) : Ended (emitText o summary t usage policy pieces w) := by
  obtain ⟨ht, hr⟩ := acquire_atRest o summary t usage policy h
  rcases ha : acquire o summary t usage policy w with ⟨r, v⟩
  rw [ha] at ht hr
  cases r with
  | error e =>
    rw [emitText, attempt_bind_error ha]
    exact (hr e rfl).ended
  | ok a =>
    rw [emitText, attempt_bind_ok ha]
    exact writeAll_ended o t pieces ht

/-- What comes after a text was written touches the session only. -/
theorem Ended.dumpedBy {r : Except DecompileError String × World σ} (h : Ended r) (t : TypeName)
    (g : Session → Session) : Ended (dumpedBy t g r) := by
  obtain ⟨r, v⟩ := r
  cases r with
  | error e => exact ⟨h.tidy, fun b hb => (by cases hb), fun e' he hf => h.fatal e' (by cases he; rfl) hf⟩
  | ok digest => exact ⟨h.tidy, fun _ _ => h.ok digest rfl, fun e he => (by cases he)⟩

theorem emitMember_ended (o : Outlet σ) (t : TypeName) (id : UnitId) (m : ClassModel) {w : World σ} (h : AtRest w) :
    Ended (emitMember o t id m w) := by
  rw [emitMember_apply]
  exact (emitText_ended o true t _ _ _ h).dumpedBy t _

theorem emitUnit_ended (o : Outlet σ) (t : TypeName) (id : UnitId) (m : ClassModel)
    (methods : Option (List MethodModel)) {w : World σ} (h : AtRest w) : Ended (emitUnit o t id m methods w) := by
  rw [emitUnit_apply]
  exact (emitText_ended o false t _ _ _ h).dumpedBy t _

theorem dumpMemberInto_ended (o : Outlet σ) (t : TypeName) {w : World σ} (h : AtRest w) :
    Ended (dumpMemberInto o t w) := by
  rw [dumpMemberInto_apply]
  split
  · exact (h.session _).ended
  · exact (h.session _).ended
  · exact ((h.announced t).session _).ended
  · exact emitMember_ended o t _ _ ((h.announced t).session _)

theorem dumpOne_ended (o : Outlet σ) (path : Path) (skipIfInner : Bool) {w : World σ} (h : AtRest w) :
    Ended (dumpOne o path skipIfInner w) := by
  rw [dumpOne_apply]
  split
  · exact (h.session _).ended
  · exact ((h.progress _).session _).ended
  · exact (h.session _).ended
  · exact emitUnit_ended o _ _ _ _ ((h.progress _).session _)

/-! ## Candidates, batches and calls -/

theorem AtRest.noteException {w : World σ} (h : AtRest w) (path : Path) (context : Option String) (e : DecompileError) :
    AtRest (noteException path context e w).2 :=
  ⟨h.tidy.event w.around w.sinks w.held _ rfl, h.empty⟩

theorem withNote_atRest (o : Outlet σ) (note : String) {w : World σ} (h : Tidy w) : AtRest (withNote o note w) :=
  atRest_release o (tidy_print o _ w h)

/-- The note is the last that is printed for a candidate, on the sink it has or on a new one. -/
theorem writeNote_atRest (o : Outlet σ) (t : TypeName) (note : String) {w : World σ} (h : Tidy w) :
    AtRest (writeNote o t note w).2 := by
  rw [writeNote_apply]
  split
  · next hc =>
    have hh : w.held = none := by simp only [Bool.and_eq_true, Option.isNone_iff_eq_none] at hc; exact hc.1
    obtain ⟨ht, hr⟩ := acquire_atRest o true t Usage.empty w.session.options.identifierPolicy ⟨h, hh⟩
    rcases ha : acquire o true t Usage.empty w.session.options.identifierPolicy w with ⟨r, v⟩
    rw [ha] at ht hr
    cases r with
    | error e => exact hr e rfl
    | ok a => exact withNote_atRest o note ht
  · exact withNote_atRest o note h

theorem dumpMember_atRest (o : Outlet σ) (archive : Path) (t : TypeName) : Keeps AtRest (dumpMember o archive t) := by
  intro w h
  rw [dumpMember_apply]
  have he := dumpMemberInto_ended o t h
  rcases hd : dumpMemberInto o t w with ⟨r, v⟩
  rw [hd] at he
  cases r with
  | ok outcome => exact ⟨he.tidy, he.ok outcome rfl⟩
  | error e =>
    dsimp only
    split
    · next hf =>
      rcases (Bool.or_eq_true _ _).mp hf with hf | hc
      · exact ⟨he.tidy, he.fatal e rfl hf⟩
      · rcases (dumpMemberInto_crashed hd hc).2 with hv | hv <;> rw [hv]
        · exact h.session _
        · exact (h.announced t).session _
    · have ht : Tidy (World.noteException archive (some (memberContext t)) e v).2 :=
        he.tidy.event v.around v.sinks v.held _ rfl
      have hn := writeNote_atRest o t e.describe ht
      rcases hw : writeNote o t e.describe _ with ⟨r, u⟩
      rw [hw] at hn
      cases r <;> exact hn

theorem dumpMembers_atRest (o : Outlet σ) (archive : Path) (ts : List TypeName) :
    Keeps AtRest (dumpMembers o archive ts) := by
  induction ts with
  | nil => exact .pure _
  | cons t ts ih => exact .try_bind (dumpMember_atRest o archive t) fun _ => .try_bind ih fun _ => .pure _

theorem notice_atRest (o : Outlet σ) (text : String) : Keeps AtRest (notice o text) :=
  fun w h => ⟨tidy_notice o text w h.tidy, h.empty⟩

theorem headBatch_atRest (o : Outlet σ) (archive : Path) : Keeps AtRest (headBatch o archive) :=
  .bind (notice_atRest o _) fun _ => .bind (notice_atRest o _) fun _ w h =>
    ⟨h.tidy.event w.around w.sinks w.held _ rfl, h.empty⟩

theorem enlist_atRest (o : Outlet σ) (archive : Path) : Keeps AtRest (enlist o archive) := by
  intro w h
  rcases hl : Cache.loadArchive w.around.files archive w.session.cache with ⟨r, c⟩
  cases r with
  | error e =>
    rw [enlist_unread hl]
    exact h.session _
  | ok types =>
    rw [enlist_read hl]
    exact (keeps_notices (notice_atRest o) _ _ (h.session _)).session _

theorem closeBatch_atRest (o : Outlet σ) (archive : Path) (r : Except DecompileError BatchReport) :
    Keeps AtRest (closeBatch o archive r) :=
  keeps_closeBatch (fun _ h => atRest_release o h.tidy) (notice_atRest o) (fun e _ h => h.noteException archive _ e)
    (fun w h => ⟨h.tidy.event _ w.sinks w.held _ rfl, h.empty⟩) r

theorem decompileArchive_atRest (o : Outlet σ) (archive : Path) : Keeps AtRest (decompileArchive o archive) := by
  intro w h
  rcases ho : o.openSummary w.around with ⟨r, around⟩
  cases r with
  | error e =>
    rw [decompileArchive_refused ho]
    have hr : AtRest { w with around := around, trace := w.trace ++ [.summaryRefused] } :=
      ⟨h.tidy.event around w.sinks w.held _ rfl, h.empty⟩
    exact hr.noteException archive _ _
  | ok a =>
    rw [decompileArchive_opened ho, dumpCollection_eq]
    have ho : AtRest { w with around := around, trace := w.trace ++ [.summaryOpened] } :=
      ⟨h.tidy.event around w.sinks w.held _ rfl, h.empty⟩
    have hd := Keeps.try_bind (headBatch_atRest o archive).up fun _ => Keeps.try_bind (enlist_atRest o archive)
      fun candidates => Keeps.try_bind (dumpMembers_atRest o archive candidates)
      fun units => Keeps.pure (.ok (⟨archive, candidates.length, units⟩ : BatchReport))
    exact closeBatch_atRest o archive _ _ (hd _ ho)

theorem decompileUnit_atRest (o : Outlet σ) (path : Path) (skipIfInner : Bool) :
    Keeps AtRest (decompileUnit o path skipIfInner) := by
  intro w h
  rw [decompileUnit_apply]
  have hr := atRest_release o (dumpOne_ended o path skipIfInner h).tidy
  rcases hd : dumpOne o path skipIfInner w with ⟨r, v⟩
  rw [hd] at hr
  cases r with
  | ok outcome => exact hr
  | error e =>
    dsimp only
    split
    · exact hr
    · exact hr.noteException path none e

theorem answer_atRest (o : Outlet σ) (c : Call) : Keeps AtRest (answer o c) :=
  keeps_answer (decompileUnit_atRest o) (decompileArchive_atRest o) c

theorem answerAll_atRest (o : Outlet σ) (calls : List Call) : Keeps AtRest (answerAll o calls) := by
  induction calls with
  | nil => exact .pure ()
  | cons c cs ih => exact .bind (answer_atRest o c) fun _ => ih

/-- Whatever is called, and whatever the outlet refuses or fails at: every sink is closed exactly once,
before the next is asked for and with nothing printed on it afterwards, a refusal closes nothing, and no
sink is open or in hand when the last call returns. -/
theorem sinks_closed_exactly_once (o : Outlet σ) (session : Session) (files : FileTree) (state : σ)
    (calls : List Call) :
    SinkDiscipline (answerAll o calls (start session files state)).2.trace ∧
      (answerAll o calls (start session files state)).2.held = none := by
  have h := answerAll_atRest o calls _ (start_atRest session files state)
  have hr : Ledger.read (answerAll o calls (start session files state)).2.trace =
      some ⟨(answerAll o calls (start session files state)).2.sinks, none⟩ := by rw [← h.empty]; exact h.tidy
  exact ⟨discipline_of_read hr, h.empty⟩

end World

end ClassSkeleton
