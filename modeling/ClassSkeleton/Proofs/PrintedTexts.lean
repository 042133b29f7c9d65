import ClassSkeleton.Proofs.Phases

/-
  ClassSkeleton.Proofs.PrintedTexts — what is printed, and on which sink.

  `Speaks` is the frame of everything a run says: the session stays, the surroundings are what the outlet
  makes of them, and of the texts printed all are among those given. A class that is written in full leaves a
  block in the trace: its sink is handed out, takes the pieces one after another and is closed, with nothing
  in between and no failure (`emitText_block`).
-/

namespace ClassSkeleton

/-- What the outlet can make of its surroundings. -/
inductive Outlet.Leads {σ : Type} (o : Outlet σ) (a : Surroundings σ) : Surroundings σ → Prop where
  | refl : Leads o a a
  | acquire {b : Surroundings σ} (h : Leads o a b) (n : Nat) (t : TypeName) (usage : Usage) (policy : IdentifierPolicy) :
      Leads o a (o.acquire n t usage policy b).2
  | print {b : Surroundings σ} (h : Leads o a b) (n : Nat) (text : String) : Leads o a (o.print n text b).2
  | close {b : Surroundings σ} (h : Leads o a b) (n : Nat) : Leads o a (o.close n b).2
  | openSummary {b : Surroundings σ} (h : Leads o a b) : Leads o a (o.openSummary b).2
  | notify {b : Surroundings σ} (h : Leads o a b) (text : String) : Leads o a (o.notify text b).2
  | closeSummary {b : Surroundings σ} (h : Leads o a b) : Leads o a (o.closeSummary b).2

theorem Outlet.Leads.trans {σ : Type} {o : Outlet σ} {a b c : Surroundings σ} (h : o.Leads a b) (h' : o.Leads b c) :
    o.Leads a c := by
  induction h' with
  | refl => exact h
  | acquire _ n t usage policy ih => exact .acquire ih n t usage policy
  | print _ n text ih => exact .print ih n text
  | close _ n ih => exact .close ih n
  | openSummary _ ih => exact .openSummary ih
  | notify _ text ih => exact .notify ih text
  | closeSummary _ ih => exact .closeSummary ih

/-- The files a run can come to see. -/
def Outlet.Sees {σ : Type} (o : Outlet σ) (a : Surroundings σ) (files : FileTree) : Prop :=
  ∃ b, o.Leads a b ∧ b.files = files

/-- The text of a print, whether or not it failed. -/
def Event.printedText? : Event → Option String
  | printed _ text _ => some text
  | _ => none

namespace World

variable {σ : Type} {o : Outlet σ} {texts : String → Prop} {u v w : World σ}

/-- `w` comes from `v` by talk in which no texts but the given ones are printed. -/
structure Speaks (o : Outlet σ) (texts : String → Prop) (v w : World σ) : Prop where
  around : o.Leads v.around w.around
  session : w.session = v.session
  trace : ∃ more, w.trace = v.trace ++ more ∧ ∀ e ∈ more, ∀ text, e.printedText? = some text → texts text

namespace Speaks

theorem refl (w : World σ) : Speaks o texts w w := ⟨.refl, rfl, [], by simp, by simp⟩

/-- Another event. The sinks and the records do not matter here. -/
theorem event (h : Speaks o texts v w) {around : Surroundings σ} (ha : o.Leads w.around around) (sinks : Nat)
    (held : Option Nat) (records : List ExceptionRecord) {e : Event}
    (he : ∀ text, e.printedText? = some text → texts text) :
    Speaks o texts v { w with
      around := around, sinks := sinks, held := held, records := records, trace := w.trace ++ [e] } := by
  obtain ⟨hl, hs, more, ht, hm⟩ := h
  refine ⟨hl.trans ha, hs, more ++ [e], by simp [ht], fun d hd => ?_⟩
  rcases List.mem_append.1 hd with hd | hd
  · exact hm d hd
  · rw [List.mem_singleton.1 hd]
    exact he

theorem quiet (h : Speaks o texts v w) {around : Surroundings σ} (ha : o.Leads w.around around) (sinks : Nat)
    (held : Option Nat) : Speaks o texts v { w with around := around, sinks := sinks, held := held } :=
  ⟨h.around.trans ha, h.session, h.trace⟩

theorem log (h : Speaks o texts v w) (e : Event) (he : e.printedText? = none) :
    Speaks o texts v (World.log e w).2 :=
  h.event .refl w.sinks w.held w.records fun text ht => by rw [he] at ht; cases ht

theorem noteException (h : Speaks o texts v w) (path : Path) (context : Option String) (e : DecompileError) :
    Speaks o texts v (World.noteException path context e w).2 :=
  h.event .refl w.sinks w.held _ fun text ht => by cases ht

theorem notice (v : World σ) (text : String) : Keeps (Speaks o texts v) (World.notice o text) :=
  fun w h => h.event (.notify .refl text) w.sinks w.held w.records fun _ ht => by cases ht

theorem release (v : World σ) : Keeps (Speaks o texts v) (World.release o) := by
  intro w h
  rcases hh : w.held with _ | n
  · rw [release_none o hh]
    exact h
  · rw [release_some o hh]
    exact h.event (.close .refl n) w.sinks none w.records fun _ ht => by cases ht

theorem print (v : World σ) {text : String} (ht : texts text) : Keeps (Speaks o texts v) (World.print o text) := by
  intro w h
  rcases hh : w.held with _ | n
  · rw [print_none o text hh]
    exact h
  · rw [print_some o text hh]
    refine h.event (.print .refl n text) w.sinks w.held w.records fun _ he => ?_
    cases he
    exact ht

theorem printAll (v : World σ) {pieces : List String} (ht : ∀ piece ∈ pieces, texts piece) :
    Keeps (Speaks o texts v) (World.printAll o pieces) := by
  induction pieces with
  | nil => exact .pure _
  | cons text rest ih =>
    refine .bind (print v (ht text List.mem_cons_self)) fun r => ?_
    split
    · exact .pure _
    · exact ih fun piece hp => ht piece (List.mem_cons_of_mem _ hp)

theorem writeAll (v : World σ) (t : TypeName) {pieces : List String} (ht : ∀ piece ∈ pieces, texts piece) :
    Keeps (Speaks o texts v) (World.writeAll o t pieces) := by
  refine .try_bind (printAll v ht) fun r => ?_
  split
  · exact fun _ h => h
  · refine .try_bind (release v) fun r => ?_
    split <;> exact fun _ h => h

theorem acquire (v : World σ) (summary : Bool) (t : TypeName) (usage : Usage) (policy : IdentifierPolicy) :
    Keeps (Speaks o texts v) (World.acquire o summary t usage policy) := by
  intro w h
  rw [acquire_apply]
  have hn := noted_keeps (notice v) summary (o.acquire w.sinks t usage policy w.around).1.1
    (h.quiet (.acquire .refl w.sinks t usage policy) w.sinks w.held)
  dsimp only
  generalize noted o summary _ _ = x at hn ⊢
  split
  · exact hn.event .refl x.sinks x.held x.records fun _ ht => by cases ht
  · have ha := hn.event (e := .acquired w.sinks t usage.imports policy) .refl (w.sinks + 1) x.held x.records
      fun _ ht => by cases ht
    have hr := release v _ ha
    exact hr.quiet .refl _ (some w.sinks)

theorem emitText (v : World σ) (summary : Bool) (t : TypeName) (usage : Usage) (policy : IdentifierPolicy)
    {pieces : List String} (ht : ∀ piece ∈ pieces, texts piece) :
    Keeps (Speaks o texts v) (World.emitText o summary t usage policy pieces) :=
  .try_bind (acquire v summary t usage policy) fun _ => writeAll v t ht

theorem withNote (h : Speaks o texts v w) {note : String} (ht : texts (noteText note)) :
    Speaks o texts v (World.withNote o note w) :=
  release v _ (print v ht w h)

theorem writeNote (v : World σ) (t : TypeName) {note : String} (ht : texts (noteText note)) :
    Keeps (Speaks o texts v) (World.writeNote o t note) := by
  intro w h
  rw [writeNote_apply]
  split
  · have ha := acquire v true t Usage.empty w.session.options.identifierPolicy w h
    rcases hr : World.acquire o true t Usage.empty w.session.options.identifierPolicy w with ⟨r, x⟩
    rw [hr] at ha
    cases r with
    | error e => exact ha
    | ok a => exact ha.withNote ht
  · exact h.withNote ht

theorem announced (w : World σ) (t : TypeName) : Speaks o texts w (World.announced w t) := by
  unfold World.announced
  split
  · exact refl w
  · exact (refl w).log (.progressType t) rfl

theorem headBatch (v : World σ) (archive : Path) : Keeps (Speaks o texts v) (World.headBatch o archive) :=
  .bind (notice v _) fun _ => .bind (notice v _) fun _ _ h => h.log (.progressPath archive) rfl

theorem closeBatch (v : World σ) (archive : Path) (r : Except DecompileError BatchReport) :
    Keeps (Speaks o texts v) (World.closeBatch o archive r) :=
  keeps_closeBatch (release v) (notice v) (fun e _ h => h.noteException archive _ e)
    (fun w h => (h.quiet (.closeSummary .refl) w.sinks w.held).log .summaryClosed rfl) r

end Speaks

/-! ## The life of a sink that takes everything -/

/-- A sink is handed out, takes every piece and is closed, without a failure. -/
def sinkBlock (n : Nat) (t : TypeName) (imports : List TypeName) (policy : IdentifierPolicy) (pieces : List String) :
    List Event :=
  .acquired n t imports policy :: pieces.map (.printed n · none) ++ [.closed n none]

theorem printAll_ok {n : Nat} {pieces : List String} (hh : w.held = some n) (h : printAll o pieces w = (.ok (), v)) :
    v.held = some n ∧ v.trace = w.trace ++ pieces.map (.printed n · none) := by
  induction pieces generalizing w with
  | nil =>
    cases h
    exact ⟨hh, by simp⟩
  | cons text rest ih =>
    simp only [printAll, act_bind] at h
    rw [print_some o text hh] at h
    cases hr : (o.print n text w.around).1 with
    | error e =>
      rw [hr] at h
      cases h
    | ok a =>
      rw [hr] at h
      obtain ⟨hheld, htrace⟩ := ih (w := { w with
        around := (o.print n text w.around).2, trace := w.trace ++ [.printed n text none] }) hh h
      exact ⟨hheld, by simp [htrace]⟩

theorem acquire_ok {summary : Bool} {t : TypeName} {usage : Usage} {policy : IdentifierPolicy} (hh : w.held = none)
    (h : acquire o summary t usage policy w = (.ok (), v)) :
    v.held = some w.sinks ∧ ∃ front, v.trace = front ++ [.acquired w.sinks t usage.imports policy] := by
  rw [acquire_apply] at h
  have hn : (noted o summary (o.acquire w.sinks t usage policy w.around).1.1
      { w with around := (o.acquire w.sinks t usage policy w.around).2 }).held = none :=
    noted_keeps (P := fun x => x.held = none) (fun text x hx => hx) summary _ hh
  dsimp only at h
  generalize noted o summary _ _ = x at h hn
  split at h
  · cases h
  · rw [install, act_bind, release_none o (by exact hn), modify_apply] at h
    cases h
    exact ⟨rfl, x.trace, rfl⟩

/-- A class written in full leaves the block of its sink at the end of the trace. -/
theorem emitText_block {summary : Bool} {t : TypeName} {usage : Usage} {policy : IdentifierPolicy}
    {pieces : List String} {digest : String} (hh : w.held = none)
    (h : emitText o summary t usage policy pieces w = (.ok digest, v)) :
    digest = Digest.ofText (String.join pieces) ∧
      sinkBlock w.sinks t usage.imports policy pieces <:+ v.trace := by
  rcases ha : acquire o summary t usage policy w with ⟨r, x⟩
  cases r with
  | error e =>
    rw [emitText, attempt_bind_error ha] at h
    cases h
  | ok a =>
    rw [emitText, attempt_bind_ok ha, writeAll_apply] at h
    obtain ⟨hx, front, htrace⟩ := acquire_ok hh ha
    rcases hp : printAll o pieces x with ⟨r, y⟩
    rw [hp] at h
    cases r with
    | error e => cases h
    | ok b =>
      obtain ⟨hy, hprinted⟩ := printAll_ok hx hp
      dsimp only at h
      rw [release_some o hy] at h
      cases hc : (o.close w.sinks y.around).1 with
      | error e =>
        rw [hc] at h
        cases h
      | ok c =>
        rw [hc] at h
        cases h
        refine ⟨rfl, front, ?_⟩
        simp [sinkBlock, hprinted, htrace, failureOf]

end World

end ClassSkeleton
