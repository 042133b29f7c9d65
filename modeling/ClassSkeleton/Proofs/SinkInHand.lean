import ClassSkeleton.Output.Memory
import ClassSkeleton.Proofs.Actions

/-
  ClassSkeleton.Proofs.SinkInHand — the sink in hand, whatever is done with it.

  A sink is installed, printed on, released, or dropped together with the hand that holds it, in any order and any
  number of times, and every print and every close may fail. The sinks installed so far are those that were closed, in
  the order they were closed, and behind them the one in hand, if there is one (`Handled`). Each operation keeps that:
  installing over a sink closes it first, and closing empties the hand before the outlet is asked, so that a failure
  leaves nothing behind (`Handled.handOp`). What a print reaches and what a release answers are read off it
  (`hand_discipline`).
-/

namespace ClassSkeleton

/-! ## Operations on a hand -/

def Event.closedSink? : Event → Option Nat
  | closed n _ => some n
  | _ => none

/-- The sinks that were closed, in that order. -/
def Event.closedSinks (trace : List Event) : List Nat := trace.filterMap closedSink?

theorem Event.closedSinks_append (trace : List Event) (e : Event) :
    closedSinks (trace ++ [e]) = closedSinks trace ++ e.closedSink?.toList := by
  rw [closedSinks, List.filterMap_append, closedSinks, List.filterMap_cons]
  cases e.closedSink? <;> rfl

/-- About a sink that is in hand. -/
def Event.isHandCall : Event → Bool
  | printed .. | closed .. => true
  | _ => false

/-- Sinks have numbers; that these are different matters nowhere. -/
inductive HandOp where
  | install (sink : Nat)
  | print (text : String)
  | release
  /-- The hand is given up; nobody hears whether its sink could be closed. -/
  | drop
  deriving DecidableEq, Repr

def HandOp.installed? : HandOp → Option Nat
  | install n => some n
  | _ => none

namespace World

variable {σ : Type} {o : Outlet σ} {u v w : World σ} {installed : List Nat} {calls : List Event}

def handOp (o : Outlet σ) : HandOp → Act σ Unit
  | .install n => install o n
  | .print text => do let _ ← print o text
  | .release | .drop => do let _ ← release o

def handOps (o : Outlet σ) : List HandOp → Act σ Unit
  | [] => return ()
  | op :: ops => do
    handOp o op
    handOps o ops

/-! ## What the hand had -/

/-- `v` comes from `w` with these calls, and of the sinks that were installed all are closed but the one in hand. -/
structure Handled (w : World σ) (installed : List Nat) (calls : List Event) (v : World σ) : Prop where
  trace : v.trace = w.trace ++ calls
  only : ∀ e ∈ calls, e.isHandCall = true
  sinks : installed = Event.closedSinks calls ++ v.held.toList

theorem Handled.start (w : World σ) : Handled w w.held.toList [] w :=
  ⟨(List.append_nil _).symm, fun _ h => (by cases h), rfl⟩

theorem Handled.call {e : Event} (h : Handled w installed calls v) (he : e.isHandCall = true)
    (ht : u.trace = v.trace ++ [e]) (hs : v.held.toList = e.closedSink?.toList ++ u.held.toList) :
    Handled w installed (calls ++ [e]) u := by
  refine ⟨by rw [ht, h.trace, List.append_assoc], fun d hd => ?_, ?_⟩
  · rcases List.mem_append.1 hd with hd | hd
    · exact h.only d hd
    · exact List.mem_singleton.1 hd ▸ he
  · rw [h.sinks, hs, Event.closedSinks_append, List.append_assoc]

/-- A released hand is empty: what was in it is closed, whether or not that worked. -/
theorem Handled.release (h : Handled w installed calls v) (o : Outlet σ) :
    (release o v).2.held = none ∧ ∃ more, Handled w installed (calls ++ more) (release o v).2 := by
  rcases hv : v.held with - | n
  · rw [release_none o hv]
    exact ⟨hv, [], (List.append_nil calls).symm ▸ h⟩
  · rw [release_some o hv]
    exact ⟨rfl, _, h.call rfl rfl (by rw [hv]; rfl)⟩

theorem Handled.print (h : Handled w installed calls v) (o : Outlet σ) (text : String) :
    ∃ more, Handled w installed (calls ++ more) (print o text v).2 := by
  rcases hv : v.held with - | n
  · rw [print_none o text hv]
    exact ⟨[], (List.append_nil calls).symm ▸ h⟩
  · rw [print_some o text hv]
    exact ⟨_, h.call rfl rfl (by rw [hv]; rfl)⟩

theorem Handled.install (h : Handled w installed calls v) (o : Outlet σ) (n : Nat) :
    ∃ more, Handled w (installed ++ [n]) (calls ++ more) (install o n v).2 := by
  obtain ⟨hempty, more, hv⟩ := h.release o
  refine ⟨more, hv.trace, hv.only, ?_⟩
  show installed ++ [n] = Event.closedSinks (calls ++ more) ++ [n]
  rw [hv.sinks, hempty, Option.toList_none, List.append_nil]

theorem Handled.handOp (h : Handled w installed calls v) (o : Outlet σ) (op : HandOp) :
    ∃ more, Handled w (installed ++ op.installed?.toList) (calls ++ more) (handOp o op v).2 := by
  cases op with
  | install n => exact h.install o n
  | print text =>
    rw [show (HandOp.print text).installed?.toList = [] from rfl, List.append_nil]
    exact h.print o text
  | release | drop =>
    simp only [HandOp.installed?, Option.toList_none, List.append_nil]
    exact (h.release o).2

theorem Handled.handOps (h : Handled w installed calls v) (o : Outlet σ) (ops : List HandOp) :
    ∃ more, Handled w (installed ++ ops.filterMap HandOp.installed?) (calls ++ more) (handOps o ops v).2 := by
  induction ops generalizing v installed calls with
  | nil => exact ⟨[], by simpa [World.handOps] using h⟩
  | cons op ops ih =>
    obtain ⟨more, hone⟩ := h.handOp o op
    obtain ⟨rest, hall⟩ := ih hone
    refine ⟨more ++ rest, ?_⟩
    have hinstalled : (op :: ops).filterMap HandOp.installed? =
        op.installed?.toList ++ ops.filterMap HandOp.installed? := by
      cases op <;> rfl
    rw [hinstalled, ← List.append_assoc, ← List.append_assoc]
    exact hall

/-! ## The laws of a hand -/

/-- After sinks were installed and calls were made, where the hand of `v` stands. -/
structure HandLaws (o : Outlet σ) (installed : List Nat) (calls : List Event) (v : World σ) : Prop where
  /-- Sinks are closed in the order they were installed, each once, and only the last may be missing. -/
  order : Event.closedSinks calls = installed ∨ ∃ n, Event.closedSinks calls ++ [n] = installed
  /-- There is a sink in hand if and only if one was installed that is not closed yet. -/
  acquired : v.held.isSome = true ↔ ∃ n, (Event.closedSinks calls).count n < installed.count n
  /-- A print reaches the sink that was installed last, if it is not closed yet. -/
  print_open : ∀ n text, Event.closedSinks calls ++ [n] = installed →
    print o text v = (some (o.print n text v.around).1, { v with
      around := (o.print n text v.around).2
      trace := v.trace ++ [.printed n text (failureOf (o.print n text v.around).1)] })
  print_closed : ∀ text, Event.closedSinks calls = installed → print o text v = (none, v)
  /-- A release answers what the outlet says when it closes that sink. -/
  release_open : ∀ n, Event.closedSinks calls ++ [n] = installed → (release o v).1 = (o.close n v.around).1
  release_closed : Event.closedSinks calls = installed → release o v = (.ok (), v)
  /-- Once the hand is dropped every sink that was installed is closed. -/
  dropped : (handOp o .drop v).2.held = none ∧ ∃ more, (handOp o .drop v).2.trace = v.trace ++ more ∧
    Event.closedSinks (calls ++ more) = installed

theorem Handled.held_some (h : Handled w installed calls v) {n : Nat} (hn : Event.closedSinks calls ++ [n] = installed) :
    v.held = some n := by
  have hheld := List.append_cancel_left (hn.trans h.sinks)
  rcases hv : v.held with - | m
  · rw [hv] at hheld
    cases hheld
  · rw [hv] at hheld
    cases hheld
    rfl

theorem Handled.held_none (h : Handled w installed calls v) (hn : Event.closedSinks calls = installed) : v.held = none := by
  have hheld := List.self_eq_append_right.1 (hn.trans h.sinks)
  exact Option.toList_eq_nil_iff.1 hheld

theorem Handled.laws (h : Handled w installed calls v) (o : Outlet σ) : HandLaws o installed calls v where
  order := by
    rw [h.sinks]
    cases v.held with
    | none => exact .inl (List.append_nil _).symm
    | some n => exact .inr ⟨n, rfl⟩
  acquired := by
    rw [h.sinks]
    cases v.held with
    | none => simp
    | some n => simp
  print_open n text hn := print_some o text (h.held_some hn)
  print_closed text hn := print_none o text (h.held_none hn)
  release_open n hn := by rw [release_some o (h.held_some hn)]
  release_closed hn := release_none o (h.held_none hn)
  dropped := by
    obtain ⟨hempty, more, hv⟩ := h.release o
    refine ⟨hempty, more, ?_, ?_⟩
    · have ht := hv.trace
      rw [← List.append_assoc, ← h.trace] at ht
      exact ht
    · rw [hv.sinks, hempty, Option.toList_none, List.append_nil]

/-- Whatever is done with a hand, and whichever prints and closes fail: the calls are prints and closes, and the sinks
installed, the one that was in hand at the start among them, are treated as `HandLaws` says. -/
theorem hand_discipline (o : Outlet σ) (w : World σ) (ops : List HandOp) :
    ∃ calls, (handOps o ops w).2.trace = w.trace ++ calls ∧ (∀ e ∈ calls, e.isHandCall = true) ∧
      HandLaws o (w.held.toList ++ ops.filterMap HandOp.installed?) calls (handOps o ops w).2 := by
  obtain ⟨calls, h⟩ := (Handled.start w).handOps o ops
  rw [List.nil_append] at h
  exact ⟨calls, h.trace, h.only, h.laws o⟩

/-- Two sinks that take no text and fail to close: both are closed, and nothing is left to print on. -/
example :
    let w : World Memory.State := start ⟨.default, .empty, .empty⟩ ⟨[], []⟩ [(0, ⟨"A"⟩, 0), (1, ⟨"A"⟩, 0)]
    let o := Memory.outlet ⟨[], [⟨"A"⟩], [], [⟨"A"⟩], false⟩
    (handOps o [.install 0, .print "x", .install 1, .drop, .print "y", .release] w).2.trace =
      [.printed 0 "x" (some (.other "disk full")), .closed 0 (some (.other "close failed")),
        .closed 1 (some (.other "close failed"))] := rfl

end World

end ClassSkeleton
