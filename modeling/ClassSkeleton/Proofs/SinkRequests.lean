import ClassSkeleton.Proofs.BatchAccounts
import ClassSkeleton.Proofs.FailureIsolation
import ClassSkeleton.Proofs.FirstPlaces
import ClassSkeleton.Proofs.PrintedTexts
import ClassSkeleton.Proofs.SinkDiscipline

/-
  ClassSkeleton.Proofs.SinkRequests — how often a batch asks for a sink for one type.

  A candidate asks for a sink when its text is ready, and its note asks for one when there is none in hand. A
  failed print leaves the sink in hand, so the note goes there. A failed close does not: the sink is gone, and
  the note asks for another, although the candidate had its output already. This is the only way in which a
  type can have a second sink, and there is never a third (`sink_requests_per_type`); with a sink that takes
  its text and fails to close it happens (`second_sink_after_failed_close`).

  The count is made for one turn, as the events it adds to the trace, and carried along the candidates, which
  are different types.
-/

namespace ClassSkeleton

namespace Event

/-- Asks for a sink for the type, with or without success. -/
def asksFor (t : TypeName) : Event → Bool
  | acquired _ u _ _ | refused u => u == t
  | _ => false

/-- How often a sink for the type was asked for. -/
def requests (t : TypeName) (trace : List Event) : Nat := trace.countP (asksFor t)

/-- The life of a sink that takes every piece and fails to close. -/
def lostBlock (n : Nat) (t : TypeName) (imports : List TypeName) (policy : IdentifierPolicy) (pieces : List String)
    (failure : IoError) : List Event :=
  .acquired n t imports policy :: pieces.map (.printed n · none) ++ [.closed n (some failure)]

/-- A sink of the type took every piece and failed to close, and another was asked for. -/
def Reopened (t : TypeName) (trace : List Event) : Prop :=
  ∃ before n imports policy pieces failure between ask after,
    trace = before ++ lostBlock n t imports policy pieces failure ++ between ++ ask :: after ∧ ask.asksFor t

variable {t : TypeName} {ts : List TypeName} {trace said rest : List Event} {ask : Event}

theorem requests_append (t : TypeName) (a b : List Event) : requests t (a ++ b) = requests t a + requests t b :=
  List.countP_append

/-- Asks for nothing. -/
def Unasking (trace : List Event) : Prop := ∀ e ∈ trace, e.asksForSink = false

theorem Unasking.append {a b : List Event} (ha : Unasking a) (hb : Unasking b) : Unasking (a ++ b) :=
  fun e he => (List.mem_append.1 he).elim (ha e) (hb e)

theorem Unasking.requests (h : Unasking trace) (t : TypeName) : requests t trace = 0 := by
  refine List.countP_eq_zero.2 fun e he ha => ?_
  have hn := h e he
  cases e <;> simp [asksFor, asksForSink] at ha hn

/-- Among other events, the one that asks, and asks for the type. -/
structure AsksOnce (t : TypeName) (said : List Event) (ask : Event) (rest : List Event) : Prop where
  said : Unasking said
  rest : Unasking rest
  ask : ∀ s, ask.asksFor s = (t == s)

theorem AsksOnce.requests (h : AsksOnce t said ask rest) (s : TypeName) :
    requests s (said ++ ask :: rest) = if t = s then 1 else 0 := by
  rw [requests_append, h.said.requests, Nat.zero_add, Event.requests, List.countP_cons, h.ask]
  have hr : rest.countP (asksFor s) = 0 := h.rest.requests s
  simp [hr]

theorem unasking_pieces (n : Nat) (pieces : List String) : Unasking (pieces.map (.printed n · none)) := by
  intro e he
  obtain ⟨text, -, rfl⟩ := List.mem_map.1 he
  rfl

theorem Reopened.append (h : Reopened t trace) (front back : List Event) :
    Reopened t (front ++ trace ++ back) := by
  obtain ⟨before, n, imports, policy, pieces, failure, between, ask, after, rfl, ha⟩ := h
  exact ⟨front ++ before, n, imports, policy, pieces, failure, between, ask, after ++ back, by simp, ha⟩

/-- The share of a type: one request, or a second one after a failed close. -/
def AtMostReopened (t : TypeName) (trace : List Event) : Prop :=
  requests t trace ≤ 1 ∨ requests t trace = 2 ∧ Reopened t trace

theorem AtMostReopened.append (h : AtMostReopened t trace) (front back : List Event)
    (hf : requests t front = 0) (hb : requests t back = 0) : AtMostReopened t (front ++ trace ++ back) := by
  have hc : requests t (front ++ trace ++ back) = requests t trace := by
    rw [requests_append, requests_append, hf, hb]
    omega
  rcases h with h | ⟨h, hr⟩
  · exact .inl (by omega)
  · exact .inr ⟨by omega, hr.append front back⟩

theorem Reopened.two_le (h : Reopened t trace) : 2 ≤ requests t trace := by
  obtain ⟨before, n, imports, policy, pieces, failure, between, ask, after, rfl, ha⟩ := h
  have hlost : 0 < Event.requests t (lostBlock n t imports policy pieces failure) :=
    List.countP_pos_iff.2 ⟨.acquired n t imports policy, List.mem_cons_self .., beq_self_eq_true t⟩
  have hagain : 0 < Event.requests t (ask :: after) := List.countP_pos_iff.2 ⟨ask, List.mem_cons_self .., ha⟩
  rw [requests_append, requests_append, requests_append]
  omega

theorem AtMostReopened.of_none (h : requests t trace = 0) : AtMostReopened t trace := .inl (by omega)

theorem AtMostReopened.le_two (h : AtMostReopened t trace) :
    requests t trace ≤ 2 ∧ (requests t trace = 2 ↔ Reopened t trace) := by
  rcases h with h | ⟨h, hr⟩
  · refine ⟨by omega, fun h2 => by omega, fun hr => ?_⟩
    have := hr.two_le
    omega
  · exact ⟨by omega, fun _ => hr, fun _ => h⟩

/-- What different types may ask for, each in a turn of its own. -/
structure Shares (ts : List TypeName) (trace : List Event) : Prop where
  others : ∀ s, s ∉ ts → requests s trace = 0
  own : ∀ s, AtMostReopened s trace

theorem Unasking.shares (h : Unasking trace) (ts : List TypeName) : Shares ts trace :=
  ⟨fun s _ => h.requests s, fun s => .of_none (h.requests s)⟩

theorem shares_single (hs : ∀ s, s ≠ t → requests s trace = 0) (ht : AtMostReopened t trace) : Shares [t] trace := by
  refine ⟨fun s h => hs s (List.ne_of_not_mem_cons h), fun s => ?_⟩
  by_cases h : s = t
  · rw [h]
    exact ht
  · exact .of_none (hs s h)

namespace Shares

variable {front back later : List Event}

theorem weaken (h : Shares [t] trace) (ts : List TypeName) : Shares (t :: ts) trace :=
  ⟨fun s hs => h.others s fun hm => hs (List.mem_cons.2 (.inl (List.mem_singleton.1 hm))), h.own⟩

/-- The turns of other types follow that of the first. -/
theorem cons (h : Shares [t] trace) (ht : t ∉ ts) (hl : Shares ts later) : Shares (t :: ts) (trace ++ later) := by
  have hother : ∀ s, s ≠ t → requests s trace = 0 := fun s hs => h.others s fun hm => hs (List.mem_singleton.1 hm)
  refine ⟨fun s hs => ?_, fun s => ?_⟩
  · rw [requests_append, hother s (List.ne_of_not_mem_cons hs), hl.others s (List.not_mem_of_not_mem_cons hs)]
  · by_cases hst : s = t
    · rw [hst]
      exact (h.own t).append [] later rfl (hl.others t ht)
    · have hs := (hl.own s).append trace [] (hother s hst) rfl
      rwa [List.append_nil] at hs

theorem among (h : Shares ts trace) (hf : Unasking front) (hb : Unasking back) :
    Shares ts (front ++ trace ++ back) := by
  refine ⟨fun s hs => ?_, fun s => (h.own s).append front back (hf.requests s) (hb.requests s)⟩
  rw [requests_append, requests_append, hf.requests, h.others s hs, hb.requests]

end Shares

theorem AsksOnce.shares (h : AsksOnce t said ask rest) : Shares [t] (said ++ ask :: rest) := by
  refine shares_single (fun s hs => ?_) (.inl (Nat.le_of_eq ?_))
  · rw [h.requests, if_neg (Ne.symm hs)]
  · rw [h.requests, if_pos rfl]

/-- A sink is lost, and another is asked for. -/
theorem AsksOnce.shares_reopened {between said' rest' : List Event} {ask' : Event} (h : AsksOnce t said ask rest)
    (hb : Unasking between) (h' : AsksOnce t said' ask' rest')
    (hl : ∃ n imports policy pieces failure, ask :: rest = lostBlock n t imports policy pieces failure) :
    Shares [t] (said ++ ask :: rest ++ between ++ (said' ++ ask' :: rest')) := by
  have hc : ∀ s, Event.requests s (said ++ ask :: rest ++ between ++ (said' ++ ask' :: rest')) =
      (if t = s then 1 else 0) + (if t = s then 1 else 0) := by
    intro s
    rw [requests_append, requests_append, h.requests, hb.requests, h'.requests]
    omega
  obtain ⟨n, imports, policy, pieces, failure, hl⟩ := hl
  refine shares_single (fun s hs => ?_) (.inr ⟨?_, said, n, imports, policy, pieces, failure, between ++ said', ask',
    rest', ?_, ?_⟩)
  · rw [hc, if_neg (Ne.symm hs)]
  · rw [hc, if_pos rfl]
  · rw [hl]
    simp only [List.append_assoc]
  · rw [h'.ask]
    exact beq_self_eq_true t

end Event

namespace World

open Event (requests Unasking AsksOnce Shares lostBlock)

variable {σ : Type} {o : Outlet σ} {u v w : World σ} {t : TypeName}

/-! ## Talk that asks for nothing -/

/-- `w` comes from `v` without a sink being asked for. -/
def Unasked (v w : World σ) : Prop := ∃ more, w.trace = v.trace ++ more ∧ Unasking more

theorem Unasked.refl (w : World σ) : Unasked w w := Grows.refl w

theorem Unasked.event {e : Event} (h : Unasked v w) (he : e.asksForSink = false) (ht : u.trace = w.trace ++ [e]) :
    Unasked v u := Grows.event h he ht

theorem unasked_notice (v : World σ) (o : Outlet σ) (text : String) : Keeps (Unasked v) (notice o text) :=
  fun _ h => h.event (e := .notice text) rfl rfl

theorem unasked_noteException (v : World σ) (path : Path) (context : Option String) (e : DecompileError) :
    Keeps (Unasked v) (noteException path context e) :=
  fun _ h => h.event (e := .exception ⟨path, context, e.kind, e.describe⟩) rfl rfl

theorem unasked_release (v : World σ) (o : Outlet σ) : Keeps (Unasked v) (release o) := by
  intro w h
  rcases hh : w.held with _ | n
  · rw [release_none o hh]
    exact h
  · rw [release_some o hh]
    exact h.event (e := .closed n _) rfl rfl

theorem unasked_print (v : World σ) (o : Outlet σ) (text : String) : Keeps (Unasked v) (print o text) := by
  intro w h
  rcases hh : w.held with _ | n
  · rw [print_none o text hh]
    exact h
  · rw [print_some o text hh]
    exact h.event (e := .printed n text _) rfl rfl

theorem unasked_withNote (o : Outlet σ) (note : String) (w : World σ) : Unasked w (withNote o note w) :=
  unasked_release w o _ (unasked_print w o _ w (.refl w))

theorem unasked_announced (w : World σ) (t : TypeName) : Unasked w (announced w t) := by
  unfold announced
  split
  · exact .refl w
  · exact (Unasked.refl w).event (e := .progressType t) rfl rfl

theorem held_announced (w : World σ) (t : TypeName) : (announced w t).held = w.held := by
  unfold announced
  split <;> rfl

theorem held_print (o : Outlet σ) (text : String) (w : World σ) : (print o text w).2.held = w.held := by
  rcases hh : w.held with _ | n
  · rw [print_none o text hh]
    exact hh
  · rw [print_some o text hh]
    exact hh

theorem held_printAll (o : Outlet σ) (pieces : List String) (w : World σ) : (printAll o pieces w).2.held = w.held :=
  keeps_printAll (P := fun v => v.held = w.held) (fun text v hv => (held_print o text v).trans hv) pieces w rfl

/-! ## Asking -/

/-- Asking with empty hands is one event, after whatever the outlet has for the summary. -/
theorem acquire_asks {summary : Bool} {usage : Usage} {policy : IdentifierPolicy}
    {r : Except DecompileError Unit} (hh : w.held = none) (h : acquire o summary t usage policy w = (r, v)) :
    ∃ said, Unasking said ∧
      ((∃ e, r = .error e ∧ e.isFatal = true) ∧ v.trace = w.trace ++ said ++ [.refused t] ∨
        r = .ok () ∧ v.held = some w.sinks ∧
          v.trace = w.trace ++ said ++ [.acquired w.sinks t usage.imports policy]) := by
  rw [acquire_apply] at h
  have hn := noted_keeps (P := fun x => Unasked w x ∧ x.held = none)
    (fun text x hx => ⟨unasked_notice w o text x hx.1, hx.2⟩) summary (o.acquire w.sinks t usage policy w.around).1.1
    (w := { w with around := (o.acquire w.sinks t usage policy w.around).2 }) ⟨.refl w, hh⟩
  dsimp only at h
  generalize noted o summary _ _ = x at h hn
  obtain ⟨⟨said, hs, hsaid⟩, hx⟩ := hn
  refine ⟨said, hsaid, ?_⟩
  split at h
  · next e _ =>
    cases h
    exact .inl ⟨⟨_, rfl, rfl⟩, by rw [hs]⟩
  · rw [install, act_bind, release_none o (by exact hx), modify_apply] at h
    cases h
    exact .inr ⟨rfl, rfl, by rw [hs]⟩

/-- A text asks once. When it fails and leaves empty hands, the sink is lost. -/
theorem emitText_asks {summary : Bool} {usage : Usage} {policy : IdentifierPolicy} {pieces : List String}
    {r : Except DecompileError String} (hh : w.held = none)
    (h : emitText o summary t usage policy pieces w = (r, v)) :
    ∃ said ask rest, v.trace = w.trace ++ (said ++ ask :: rest) ∧ AsksOnce t said ask rest ∧
      ∀ e, r = .error e → e.isFatal = false → v.held = none →
        ∃ failure, ask :: rest = lostBlock w.sinks t usage.imports policy pieces failure := by
  rcases ha : acquire o summary t usage policy w with ⟨r', x⟩
  obtain ⟨said, hsaid, ⟨⟨e, rfl, hf⟩, ht⟩ | ⟨rfl, hx, ht⟩⟩ := acquire_asks hh ha
  · rw [emitText, attempt_bind_error ha] at h
    cases h
    refine ⟨said, .refused t, [], by rw [ht, List.append_assoc], ⟨hsaid, fun _ h => (by cases h), fun _ => rfl⟩, ?_⟩
    rintro e' he hn -
    cases he
    rw [hf] at hn
    cases hn
  · rw [emitText, attempt_bind_ok ha, writeAll_apply] at h
    have hheld := held_printAll o pieces x
    have hquiet := keeps_printAll (unasked_print x o) pieces x (.refl x)
    rcases hp : printAll o pieces x with ⟨r', y⟩
    rw [hp] at h hheld hquiet
    cases r' with
    | error e =>
      cases h
      obtain ⟨rest, hr, hrest⟩ := hquiet
      refine ⟨said, .acquired w.sinks t usage.imports policy, rest, ?_, ⟨hsaid, hrest, fun _ => rfl⟩, ?_⟩
      · rw [hr, ht, List.append_assoc, List.append_assoc]
        rfl
      · rintro - - - hnone
        rw [hheld, hx] at hnone
        cases hnone
    | ok a =>
      dsimp only at h
      obtain ⟨hy, hprinted⟩ := printAll_ok hx hp
      rw [release_some o hy] at h
      cases h
      refine ⟨said, .acquired w.sinks t usage.imports policy, pieces.map (.printed w.sinks · none) ++
        [.closed w.sinks (failureOf (o.close w.sinks y.around).1)], by simp [hprinted, ht],
        ⟨hsaid, (Event.unasking_pieces _ _).append fun d hd => ?_, fun _ => rfl⟩, fun e he _ _ => ?_⟩
      · rw [List.mem_singleton.1 hd]
        rfl
      · cases hc : (o.close w.sinks y.around).1 with
        | ok a =>
          rw [hc] at he
          cases he
        | error failure => exact ⟨failure, rfl⟩

/-! ## One candidate -/

/-- Up to its note, a candidate asks at most once; if it fails then with empty hands, its sink is lost. -/
theorem dumpMemberInto_asks {r : Except DecompileError UnitOutcome} (hh : w.held = none)
    (h : dumpMemberInto o t w = (r, v)) :
    Unasked w v ∨ ∃ said ask rest, v.trace = w.trace ++ (said ++ ask :: rest) ∧ AsksOnce t said ask rest ∧
      ∀ e, r = .error e → e.isFatal = false → v.held = none →
        ∃ n imports policy pieces failure, ask :: rest = lostBlock n t imports policy pieces failure := by
  have ha := unasked_announced w t
  rw [dumpMemberInto_apply] at h
  rcases hp : w.session.prepare w.around.files t with ⟨p, s⟩
  rw [hp] at h
  cases p with
  | unfound e => cases h; exact .inl (.refl w)
  | nested => cases h; exact .inl (.refl w)
  | unbuilt e => cases h; exact .inl ha
  | built id m =>
    dsimp only at h
    rw [emitMember_apply] at h
    have hheld : ((announced w t).withSession s).held = none := (held_announced w t).trans hh
    rcases he : emitText o true t (Usage.collect m) ((announced w t).withSession s).session.options.identifierPolicy
      (memberPieces ((announced w t).withSession s).session.options.identifierPolicy m)
      ((announced w t).withSession s) with ⟨r', x⟩
    rw [he] at h
    obtain ⟨front, ht, hfront⟩ := ha
    obtain ⟨said, ask, rest, hx, hasks, hlost⟩ := emitText_asks hheld he
    have htrace : x.trace = w.trace ++ (front ++ said ++ ask :: rest) := by
      rw [hx]
      show (announced w t).trace ++ _ = _
      rw [ht]
      simp only [List.append_assoc]
    have hasks' : AsksOnce t (front ++ said) ask rest := ⟨hfront.append hasks.said, hasks.rest, hasks.ask⟩
    cases r' with
    | ok digest =>
      cases h
      exact .inr ⟨front ++ said, ask, rest, htrace, hasks', fun e hr => by cases hr⟩
    | error e' =>
      cases h
      refine .inr ⟨front ++ said, ask, rest, htrace, hasks', fun e hr hf hv => ?_⟩
      cases hr
      obtain ⟨failure, hl⟩ := hlost e' rfl hf hv
      exact ⟨_, _, _, _, failure, hl⟩

/-- The note of a failure asks for a sink only with empty hands, and then once. -/
theorem writeNote_asks {note : String} {r : Except DecompileError Unit} (h : writeNote o t note w = (r, v)) :
    Unasked w v ∨ w.held = none ∧ ∃ said ask rest, v.trace = w.trace ++ (said ++ ask :: rest) ∧
      AsksOnce t said ask rest := by
  rw [writeNote_apply] at h
  split at h
  · next hc =>
    have hh : w.held = none := by simp only [Bool.and_eq_true, Option.isNone_iff_eq_none] at hc; exact hc.1
    refine .inr ⟨hh, ?_⟩
    rcases ha : acquire o true t Usage.empty w.session.options.identifierPolicy w with ⟨r', x⟩
    rw [ha] at h
    obtain ⟨said, hsaid, ⟨⟨e, rfl, -⟩, ht⟩ | ⟨rfl, -, ht⟩⟩ := acquire_asks hh ha
    · cases h
      exact ⟨said, .refused t, [], by rw [ht, List.append_assoc], hsaid, fun _ h => (by cases h), fun _ => rfl⟩
    · cases h
      obtain ⟨rest, hr, hrest⟩ := unasked_withNote o note x
      refine ⟨said, .acquired w.sinks t Usage.empty.imports w.session.options.identifierPolicy, rest, ?_, hsaid, hrest,
        fun _ => rfl⟩
      rw [hr, ht, List.append_assoc, List.append_assoc]
      rfl
  · cases h
    exact .inl (unasked_withNote o note w)

/-- A turn asks for its own type, once, or twice when the sink was lost in between. -/
theorem dumpMember_asks (archive : Path) (hh : w.held = none) :
    ∃ more, (dumpMember o archive t w).2.trace = w.trace ++ more ∧ Shares [t] more := by
  rw [dumpMember_apply]
  rcases hd : dumpMemberInto o t w with ⟨r, x⟩
  have hx := dumpMemberInto_asks hh hd
  have hends : ∃ more, x.trace = w.trace ++ more ∧ Shares [t] more := by
    rcases hx with ⟨more, ht, hm⟩ | ⟨said, ask, rest, ht, ha, -⟩
    · exact ⟨more, ht, hm.shares [t]⟩
    · exact ⟨_, ht, ha.shares⟩
  cases r with
  | ok outcome => exact hends
  | error e =>
    dsimp only
    by_cases hstop : (e.isFatal || x.crash.isSome) = true
    · rw [if_pos hstop]
      exact hends
    · rw [if_neg hstop]
      have hf : e.isFatal = false := Bool.eq_false_iff.2 (not_or.1 (Bool.or_eq_true _ _ ▸ hstop)).1
      let record : Event := .exception ⟨archive, some (memberContext t), e.kind, e.describe⟩
      have hrecord : Unasking [record] := fun d hd => by rw [List.mem_singleton.1 hd]; rfl
      have hnoted : (noteException archive (some (memberContext t)) e x).2.trace = x.trace ++ [record] := rfl
      rcases hn : writeNote o t e.describe (noteException archive (some (memberContext t)) e x).2 with ⟨r, y⟩
      have hends : ∃ more, y.trace = w.trace ++ more ∧ Shares [t] more := by
        rcases hx with ⟨more, ht, hm⟩ | ⟨said, ask, rest, ht, ha, hlost⟩ <;>
          rcases writeNote_asks hn with ⟨more', ht', hm'⟩ | ⟨hheld, said', ask', rest', ht', ha'⟩ <;>
          rw [hnoted, ht] at ht'
        · exact ⟨more ++ [record] ++ more', by simp [ht'], ((hm.append hrecord).append hm').shares [t]⟩
        · have hall : AsksOnce t (more ++ [record] ++ said') ask' rest' :=
            ⟨(hm.append hrecord).append ha'.said, ha'.rest, ha'.ask⟩
          exact ⟨_, by simp [ht'], hall.shares⟩
        · have hall : AsksOnce t said ask (rest ++ [record] ++ more') :=
            ⟨ha.said, (ha.rest.append hrecord).append hm', ha.ask⟩
          exact ⟨_, by simp [ht'], hall.shares⟩
        · exact ⟨_, by simp [ht'], ha.shares_reopened hrecord ha' (hlost e rfl hf hheld)⟩
      cases r <;> exact hends

/-! ## The batch -/

/-- Different candidates do not ask for each other's sinks, so each has the share of its own turn. -/
theorem dumpMembers_asks (archive : Path) {ts : List TypeName} (hts : ts.Nodup) (hw : AtRest w) :
    ∃ more, (dumpMembers o archive ts w).2.trace = w.trace ++ more ∧ Shares ts more := by
  induction ts generalizing w with
  | nil => exact ⟨[], (List.append_nil _).symm, Unasking.shares (fun _ h => by cases h) []⟩
  | cons t ts ih =>
    obtain ⟨ht, hts⟩ := List.nodup_cons.1 hts
    obtain ⟨more, htrace, hshare⟩ := dumpMember_asks (o := o) (t := t) archive hw.empty
    have hrest := dumpMember_atRest o archive t w hw
    rw [dumpMembers_cons]
    rcases hd : dumpMember o archive t w with ⟨r, v⟩
    rw [hd] at htrace hrest
    cases r with
    | error e => exact ⟨more, htrace, hshare.weaken ts⟩
    | ok outcome =>
      obtain ⟨later, hlater, hshares⟩ := ih hts hrest
      refine ⟨more ++ later, ?_, hshare.cons ht hshares⟩
      rw [hlater, htrace, List.append_assoc]

theorem unasked_enlist (v : World σ) (o : Outlet σ) (archive : Path) : Keeps (Unasked v) (enlist o archive) := by
  intro w h
  rcases hl : Cache.loadArchive w.around.files archive w.session.cache with ⟨r, c⟩
  cases r with
  | error e =>
    rw [enlist_unread hl]
    exact h
  | ok types =>
    rw [enlist_read hl]
    exact keeps_notices (unasked_notice v o) _ (w.withSession _) h

theorem unasked_headBatch (v : World σ) (o : Outlet σ) (archive : Path) : Keeps (Unasked v) (headBatch o archive) :=
  .bind (unasked_notice v o _) fun _ => .bind (unasked_notice v o _) fun _ _ h =>
    h.event (e := .progressPath archive) rfl rfl

theorem unasked_closeBatch (v : World σ) (o : Outlet σ) (archive : Path) (r : Except DecompileError BatchReport) :
    Keeps (Unasked v) (closeBatch o archive r) :=
  keeps_closeBatch (unasked_release v o) (unasked_notice v o) (unasked_noteException v archive _)
    (fun _ h => h.event (e := .summaryClosed) rfl rfl) r

/-- The archive yields each type once. -/
theorem candidates_nodup (w : World σ) (archive : Path) : (w.candidates archive).Nodup := by
  unfold candidates Cache.loadArchive
  split
  · next h =>
    split at h
    · cases h
    · split at h
      · cases h
      · cases h
        exact (Cache.firstOccurrences_firstSeen _).nodup.filter _
  · exact List.nodup_nil

/-- A batch asks for what its candidates ask for. -/
theorem dumpCollection_asks (archive : Path) (hw : AtRest w) :
    ∃ more, (dumpCollection o archive w).2.trace = w.trace ++ more ∧
      Shares ((headBatch o archive w).2.candidates archive) more := by
  obtain ⟨front, hfront, hf⟩ := unasked_enlist w o archive _ (unasked_headBatch w o archive w (.refl w))
  have hrest := enlist_atRest o archive _ (headBatch_atRest o archive w hw)
  rw [dumpCollection_apply]
  rcases he : enlist o archive (headBatch o archive w).2 with ⟨r, v⟩
  rw [he] at hfront hrest
  cases r with
  | error e => exact ⟨front, hfront, hf.shares _⟩
  | ok ts =>
    obtain ⟨-, rfl, -⟩ := enlist_ok he
    obtain ⟨more, hmore, hshares⟩ := dumpMembers_asks (o := o) archive (candidates_nodup _ archive) hrest
    refine ⟨front ++ more ++ [], ?_, hshares.among hf fun _ h => by cases h⟩
    rw [hmore, hfront, List.append_nil, List.append_assoc]

/-- The opening and the end of a batch ask for nothing. -/
theorem decompileArchive_asks (archive : Path) (hw : AtRest w) :
    ∃ more, (decompileArchive o archive w).2.trace = w.trace ++ more ∧
      Shares ((headed o archive w).candidates archive) more := by
  rcases ho : o.openSummary w.around with ⟨r, around⟩
  cases r with
  | error e =>
    have hrefused : Unasked w { w with around := around, trace := w.trace ++ [.summaryRefused] } :=
      (Unasked.refl w).event (e := .summaryRefused) rfl rfl
    obtain ⟨more, ht, hm⟩ := unasked_noteException w archive (some archiveContext) (.cannotCreateSink e) _ hrefused
    rw [decompileArchive_refused ho]
    exact ⟨more, ht, hm.shares _⟩
  | ok a =>
    obtain ⟨front, hfront, hf⟩ : Unasked w (opening o w) := (Unasked.refl w).event (e := .summaryOpened) rfl rfl
    obtain ⟨more, hmore, hshares⟩ := dumpCollection_asks (o := o) archive
      (w := opening o w) ⟨hw.tidy.event _ w.sinks w.held _ rfl, hw.empty⟩
    rw [decompileArchive_opening (by rw [ho])]
    rcases hd : dumpCollection o archive (opening o w) with ⟨r, v⟩
    rw [hd] at hmore
    obtain ⟨back, hback, hb⟩ := unasked_closeBatch v o archive r v (.refl v)
    refine ⟨front ++ more ++ back, ?_, hshares.among hf hb⟩
    rw [hback, hmore, hfront]
    simp only [List.append_assoc]

/-- In a batch only candidates are asked for, each at most twice, and twice exactly when a sink that took the
whole text failed to close and another was asked for after it. -/
theorem sink_requests_per_type (o : Outlet σ) (session : Session) (files : FileTree) (state : σ) (archive : Path)
    (t : TypeName) :
    let batch := decompileArchive o archive (start session files state)
    (requests t batch.2.trace ≠ 0 → t ∈ (headed o archive (start session files state)).candidates archive) ∧
      requests t batch.2.trace ≤ 2 ∧ (requests t batch.2.trace = 2 ↔ Event.Reopened t batch.2.trace) := by
  obtain ⟨more, ht, hs⟩ := decompileArchive_asks (o := o) archive (start_atRest session files state)
  dsimp only
  rw [ht]
  exact ⟨fun h => Decidable.byContradiction fun hn => h (hs.others t hn), (hs.own t).le_two⟩

/-- The sink of `A` takes its text and fails to close: `A` has a second sink, for the note. -/
theorem second_sink_after_failed_close :
    requests ⟨"A"⟩ (decompileArchive (Memory.outlet ⟨[], [], [], [⟨"A"⟩], false⟩) ⟨"a.jar"⟩
      (start ⟨{ Options.default with decompileInnerClasses := false }, .empty, .empty⟩
        ⟨[(["a.jar"], .file Memory.twoClasses)], []⟩ [])).2.trace = 2 := by
  decide +kernel

end World

end ClassSkeleton
