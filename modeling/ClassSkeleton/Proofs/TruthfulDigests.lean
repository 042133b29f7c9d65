import ClassSkeleton.Proofs.ReleasedState
import ClassSkeleton.Proofs.RunInvariants
import ClassSkeleton.Proofs.SinkRequests
import ClassSkeleton.Proofs.SummaryFile

/-
  ClassSkeleton.Proofs.TruthfulDigests — a reported digest is that of what the sink took.

  Text goes to a sink in pieces, through a hash that is given each piece before it is printed, so that it has the
  piece which fails as well (`printHashing`). Its digest is taken only when no print failed, and reported only when
  the sink closed without a failure; then the hash had just what the sink took (`writeHashing_eq`).

  A class that is reported as written has had one sink in its call, and the events about this sink are that it was
  handed out, took all pieces and closed (`Event.Delivered`). Other turns and the work around them leave this alone:
  their sinks have other numbers, which the ledger keeps apart (`Ledger.Since.readOn`), and they ask for no sink of
  its type (`Event.Apart`). So a type one of whose sinks failed in a call, at a print or at closing, is not reported.

  - `digests_tell_the_truth`: for class files and archives, after any calls, whatever the outlet refuses or fails at.
-/

namespace ClassSkeleton

/-! ## Digests -/

theorem Text.utf8_join (texts : List String) : Text.utf8 (String.join texts) = texts.flatMap Text.utf8 := by
  induction texts with
  | nil => rfl
  | cons text rest ih => rw [String.join_cons, utf8_append, ih, List.flatMap_cons]

namespace Digest

/-- The digest of bytes in lower-case hexadecimal. -/
def ofBytes (bytes : List UInt8) : String :=
  String.ofList ((sha256 bytes).flatMap fun w => hexDigits 8 w.toNat)

theorem ofText_join (texts : List String) : ofText (String.join texts) = ofBytes (texts.flatMap Text.utf8) := by
  rw [ofText, ofBytes, Text.utf8_join]

theorem hexDigit_mem (n : Nat) (h : n < 16) : hexDigit n ∈ "0123456789abcdef".toList := by
  decide +revert

theorem hexDigits_mem (digits n : Nat) : ∀ c ∈ hexDigits digits n, c ∈ "0123456789abcdef".toList := by
  induction digits generalizing n with
  | zero => exact fun c hc => by cases hc
  | succ d ih =>
    intro c hc
    rcases List.mem_append.1 hc with hc | hc
    · exact ih _ c hc
    · rw [List.mem_singleton.1 hc]
      exact hexDigit_mem _ (Nat.mod_lt n (by omega))

theorem length_hexDigits (digits n : Nat) : (hexDigits digits n).length = digits := by
  induction digits generalizing n with
  | zero => rfl
  | succ d ih => rw [hexDigits, List.length_append, ih, List.length_singleton]

/-- A digest is written with 64 hexadecimal digits, letters in lower case. -/
theorem ofBytes_digits (bytes : List UInt8) :
    (ofBytes bytes).length = 64 ∧ ∀ c ∈ (ofBytes bytes).toList, c ∈ "0123456789abcdef".toList := by
  constructor
  · have hwords : (sha256 bytes).length = 8 := rfl
    rw [ofBytes, String.length_ofList, List.length_flatMap]
    simp [length_hexDigits, hwords]
  · intro c hc
    rw [ofBytes, String.toList_ofList] at hc
    obtain ⟨w, -, hc⟩ := List.mem_flatMap.1 hc
    exact hexDigits_mem 8 _ c hc

/-- A hash in the making, which is known by the bytes it was given. -/
structure Hasher where
  bytes : List UInt8
  deriving DecidableEq, Repr

namespace Hasher

def start : Hasher := ⟨[]⟩

def update (h : Hasher) (text : String) : Hasher := ⟨h.bytes ++ Text.utf8 text⟩

def finish (h : Hasher) : String := ofBytes h.bytes

theorem bytes_updates (h : Hasher) (texts : List String) :
    (texts.foldl update h).bytes = h.bytes ++ texts.flatMap Text.utf8 := by
  induction texts generalizing h with
  | nil => exact (List.append_nil _).symm
  | cons text rest ih => rw [List.foldl_cons, ih, update, List.flatMap_cons, List.append_assoc]

/-- However a text is cut into pieces, its digest is the same. -/
theorem finish_updates (texts : List String) : (texts.foldl update start).finish = ofText (String.join texts) := by
  rw [finish, bytes_updates, start, List.nil_append, ofText_join]

/-- The digest of a text that comes in two pieces. -/
example : ((start.update "a").update "bc").finish =
    "ba7816bf8f01cfea414140de5dae2223b00361a396177a9cb410ff61f20015ad" := by
  decide +kernel

end Hasher

end Digest

/-! ## The events about a sink -/

namespace Ledger

/-- The sinks it speaks of from now on have numbers from `lo` on. -/
structure Since (lo : Nat) (l : Ledger) : Prop where
  next : lo ≤ l.next
  current : ∀ n, l.current = some n → lo ≤ n ∧ n < l.next

variable {lo : Nat} {l k : Ledger}

theorem since_next (n : Nat) : Since n ⟨n, none⟩ := ⟨Nat.le_refl n, fun _ h => by cases h⟩

theorem Since.enter {e : Event} (h : Since lo l) (he : l.enter e = some k) :
    Since lo k ∧ l.next ≤ k.next ∧ ∀ n, e.sink? = some n → lo ≤ n ∧ n < k.next := by
  have hlo := h.next
  cases e with
  | acquired m t imports policy =>
    obtain ⟨-, rfl, rfl⟩ := enter_acquired.1 he
    have hnew : ∀ n, some l.next = some n → lo ≤ n ∧ n < l.next + 1 := fun n hn => by cases hn; omega
    exact ⟨⟨Nat.le_succ_of_le hlo, hnew⟩, Nat.le_succ _, hnew⟩
  | printed m text failure =>
    obtain ⟨hm, rfl⟩ := enter_printed.1 he
    exact ⟨h, Nat.le_refl _, fun n hn => h.current n (hm.trans hn)⟩
  | closed m failure =>
    obtain ⟨hm, rfl⟩ := enter_closed.1 he
    exact ⟨⟨hlo, fun _ hn => by cases hn⟩, Nat.le_refl _, fun n hn => h.current n (hm.trans hn)⟩
  | refused t =>
    obtain ⟨-, rfl⟩ := enter_refused.1 he
    exact ⟨h, Nat.le_refl _, fun _ hn => by cases hn⟩
  | _ =>
    cases he
    exact ⟨h, Nat.le_refl _, fun _ hn => by cases hn⟩

/-- What a ledger reads is about sinks from where it was to where it comes. -/
theorem Since.readOn {said : List Event} (h : Since lo l) (hr : l.readOn said = some k) :
    Since lo k ∧ l.next ≤ k.next ∧ Event.Within lo k.next said := by
  induction said generalizing l with
  | nil =>
    cases hr
    exact ⟨h, Nat.le_refl _, fun _ he => by cases he⟩
  | cons e rest ih =>
    rw [readOn_cons] at hr
    obtain ⟨m, he, hr⟩ := Option.bind_eq_some_iff.1 hr
    obtain ⟨hm, hle, hsink⟩ := h.enter he
    obtain ⟨hk, hle', hrest⟩ := ih hm hr
    refine ⟨hk, hle.trans hle', fun d hd n hn => ?_⟩
    rcases List.mem_cons.1 hd with rfl | hd
    · have := hsink n hn
      omega
    · exact hrest d hd n hn

end Ledger

namespace Event

variable {n lo hi : Nat} {t : TypeName} {chunks : List String} {front said back trace : List Event}

/-- The events about a sink. -/
def ofSink (n : Nat) (trace : List Event) : List Event := trace.filter (·.sink? = some n)

/-- A print on the sink that failed, or its closing. -/
def failedOn (n : Nat) : Event → Bool
  | printed m _ (some _) | closed m (some _) => m == n
  | _ => false

theorem mem_ofSink {e : Event} : e ∈ ofSink n trace ↔ e ∈ trace ∧ e.sink? = some n := by
  simp [ofSink]

theorem ofSink_append (n : Nat) (a b : List Event) : ofSink n (a ++ b) = ofSink n a ++ ofSink n b :=
  List.filter_append ..

/-- What a sink took is told by the events about it. -/
theorem accepted_ofSink (trace : List Event) (n : Nat) : accepted (ofSink n trace) n = accepted trace n := by
  rw [accepted, accepted, ofSink, List.filterMap_filter]
  congr 2
  funext e
  cases e with
  | printed m text failure =>
    by_cases hm : m = n
    · simp [sink?, hm]
    · cases failure <;> simp [sink?, hm]
  | _ => simp

theorem ofSink_outside (h : Within lo hi trace) (hn : ¬ (lo ≤ n ∧ n < hi)) : ofSink n trace = [] :=
  List.eq_nil_iff_forall_not_mem.2 fun e he => hn (h e (mem_ofSink.1 he).1 n (mem_ofSink.1 he).2)

theorem mem_sinkBlock {e : Event} {imports : List TypeName} {policy : IdentifierPolicy} :
    e ∈ World.sinkBlock n t imports policy chunks ↔
      e = .acquired n t imports policy ∨ (∃ text ∈ chunks, e = .printed n text none) ∨ e = .closed n none := by
  simp [World.sinkBlock, eq_comm]

theorem ofSink_sinkBlock (n : Nat) (t : TypeName) (imports : List TypeName) (policy : IdentifierPolicy)
    (chunks : List String) :
    ofSink n (World.sinkBlock n t imports policy chunks) = World.sinkBlock n t imports policy chunks := by
  refine List.filter_eq_self.2 fun e he => ?_
  rcases mem_sinkBlock.1 he with rfl | ⟨text, -, rfl⟩ | rfl <;> exact decide_eq_true rfl

theorem accepted_sinkBlock (n : Nat) (t : TypeName) (imports : List TypeName) (policy : IdentifierPolicy)
    (chunks : List String) : accepted (World.sinkBlock n t imports policy chunks) n = String.join chunks := by
  have hprints := accepted_printed [.acquired n t imports policy] n chunks
  rw [World.sinkBlock, ← List.singleton_append, accepted_append, hprints]
  simp [accepted]

/-- A sink for the type is handed out only when one is asked for. -/
theorem length_sinksFor_le (trace : List Event) (t : TypeName) : (sinksFor trace t).length ≤ requests t trace := by
  induction trace with
  | nil => exact Nat.le_refl 0
  | cons e rest ih =>
    have hone : (sinksFor [e] t).length ≤ requests t [e] := by
      cases e with
      | acquired m s imports policy => by_cases hs : s = t <;> simp [sinksFor, requests, asksFor, hs]
      | _ => exact Nat.zero_le _
    rw [← List.singleton_append, sinksFor_append, requests_append, List.length_append]
    omega

theorem sinksFor_eq_singleton (hn : n ∈ sinksFor trace t) (h : requests t trace ≤ 1) : sinksFor trace t = [n] := by
  have hlen := length_sinksFor_le trace t
  rcases hs : sinksFor trace t with _ | ⟨m, _ | ⟨k, rest⟩⟩
  · rw [hs] at hn
    cases hn
  · rw [hs] at hn
    rw [List.mem_singleton.1 hn]
  · rw [hs, List.length_cons, List.length_cons] at hlen
    omega

/-- Nothing about the sink, and no sink for the type. -/
structure Apart (n : Nat) (t : TypeName) (trace : List Event) : Prop where
  silent : ofSink n trace = []
  unasked : sinksFor trace t = []

/-- The type has one sink; all that there is about it is that it was handed out, took the chunks and closed, each
without a failure. -/
structure Delivered (n : Nat) (t : TypeName) (chunks : List String) (said : List Event) : Prop where
  sole : sinksFor said t = [n]
  life : ∃ imports policy, ofSink n said = World.sinkBlock n t imports policy chunks

namespace Delivered

theorem behind (h : Delivered n t chunks said) (hf : Apart n t front) : Delivered n t chunks (front ++ said) := by
  rw [← List.nil_append said] at h
  refine ⟨?_, ?_⟩
  · rw [sinksFor_append, hf.unasked]
    exact h.sole
  · rw [ofSink_append, hf.silent]
    exact h.life

theorem ahead (h : Delivered n t chunks said) (hb : Apart n t back) : Delivered n t chunks (said ++ back) := by
  refine ⟨?_, ?_⟩
  · rw [sinksFor_append, hb.unasked, List.append_nil]
    exact h.sole
  · rw [ofSink_append, hb.silent, List.append_nil]
    exact h.life

theorem accepted (h : Delivered n t chunks said) : accepted said n = String.join chunks := by
  obtain ⟨imports, policy, hlife⟩ := h.life
  rw [← accepted_ofSink, hlife, accepted_sinkBlock]

/-- Neither a print nor the closing failed. -/
theorem unfailing (h : Delivered n t chunks said) : ∀ e ∈ said, e.failedOn n = false := by
  obtain ⟨imports, policy, hlife⟩ := h.life
  intro e he
  by_cases hs : e.sink? = some n
  · have hmem : e ∈ ofSink n said := mem_ofSink.2 ⟨he, hs⟩
    rw [hlife] at hmem
    rcases mem_sinkBlock.1 hmem with rfl | ⟨text, -, rfl⟩ | rfl <;> rfl
  · cases e with
    | printed m text failure => cases failure <;> simp_all [failedOn, sink?]
    | closed m failure => cases failure <;> simp_all [failedOn, sink?]
    | _ => rfl

theorem acquired (h : Delivered n t chunks said) : ∃ e ∈ said, e.sink? = some n := by
  obtain ⟨imports, policy, hlife⟩ := h.life
  have hmem : .acquired n t imports policy ∈ ofSink n said := by
    rw [hlife]
    exact List.mem_cons_self
  exact ⟨_, (mem_ofSink.1 hmem).1, rfl⟩

end Delivered

end Event

/-- Nothing is about a sink before it is handed out. -/
theorem Ledger.ofSink_block {n : Nat} {t : TypeName} {imports : List TypeName} {policy : IdentifierPolicy}
    {chunks : List String} {front : List Event} {l : Ledger}
    (h : read (front ++ World.sinkBlock n t imports policy chunks) = some l) :
    Event.ofSink n (front ++ World.sinkBlock n t imports policy chunks) =
      World.sinkBlock n t imports policy chunks := by
  obtain ⟨k, k', hk, he, -⟩ := read_front_cons h
  have hnext : k.next = n := next_of_acquires (by simp [Event.acquires]) he
  have hwithin := ((since_next 0).readOn hk).2.2
  rw [Event.ofSink_append, Event.ofSink_outside hwithin (by omega), List.nil_append, Event.ofSink_sinkBlock]

namespace World

open Event (Apart Delivered Unasking Within ofSink requests sinksFor)
open Digest (Hasher)

variable {σ : Type} {o : Outlet σ} {u v w : World σ} {t : TypeName} {digest : String}

/-! ## Printing through a hash -/

/-- Prints pieces until one fails. The hash is given each of them before it is printed. -/
def printHashing (o : Outlet σ) : List String → Hasher → Act σ (Except IoError Unit × Hasher)
  | [], h => return (.ok (), h)
  | text :: rest, h => do
    match ← print o text with
    | some (.error e) => return (.error e, h.update text)
    | _ => printHashing o rest (h.update text)

/-- Prints pieces on the sink in hand through a hash, takes the digest and closes the sink. -/
def writeHashing (o : Outlet σ) (t : TypeName) (pieces : List String) : Attempt σ String := do
  match ← up (printHashing o pieces .start) with
  | (.error e, _) => throw (.dump t e)
  | (.ok (), h) =>
    match ← up (release o) with
    | .error e => throw (.dump t e)
    | .ok () => return h.finish

/-- The hash keeps nothing from the sink, and has all pieces unless a print failed. -/
theorem printHashing_apply (o : Outlet σ) (pieces : List String) (h : Hasher) (w : World σ) :
    ∃ h', printHashing o pieces h w = (((printAll o pieces w).1, h'), (printAll o pieces w).2) ∧
      ((printAll o pieces w).1 = .ok () → h' = pieces.foldl Hasher.update h) := by
  induction pieces generalizing h w with
  | nil => exact ⟨h, rfl, fun _ => rfl⟩
  | cons text rest ih =>
    simp only [printHashing, printAll, act_bind]
    rcases print o text w with ⟨_ | e | a, v⟩
    · exact ih (h.update text) v
    · exact ⟨h.update text, rfl, fun hok => by cases hok⟩
    · exact ih (h.update text) v

/-- A sink is written to as through a hash. -/
theorem writeHashing_eq (o : Outlet σ) (t : TypeName) (pieces : List String) :
    writeHashing o t pieces = writeAll o t pieces := by
  funext w
  obtain ⟨h', hprint, hall⟩ := printHashing_apply o pieces .start w
  rw [writeHashing, writeAll, attempt_bind_ok (up_apply _ _), attempt_bind_ok (up_apply _ _), hprint]
  rcases hp : (printAll o pieces w).1 with e | a
  · rfl
  · rw [hall hp]
    dsimp only
    rw [attempt_bind_ok (up_apply _ _), attempt_bind_ok (up_apply _ _)]
    rcases (release o (printAll o pieces w).2).1 with e | a
    · rfl
    · exact congrArg (fun d => (Except.ok d, _)) (Hasher.finish_updates pieces)

/-! ## From rest to rest -/

/-- The sinks in what is said from rest to rest are those handed out in between. -/
theorem AtRest.within {said : List Event} (hw : AtRest w) (hv : AtRest v) (ht : v.trace = w.trace ++ said) :
    w.sinks ≤ v.sinks ∧ Within w.sinks v.sinks said := by
  have hfull := hv.tidy
  have hfront := hw.tidy
  rw [Tidy, ht, hv.empty] at hfull
  rw [Tidy, hw.empty] at hfront
  obtain ⟨k, hk, hsaid⟩ := Ledger.read_front hfull
  rw [hfront] at hk
  cases hk
  exact ((Ledger.since_next w.sinks).readOn hsaid).2

theorem AtRest.within_trace (hw : AtRest w) : Within 0 w.sinks w.trace := by
  have hread : Ledger.readOn ⟨0, none⟩ w.trace = some ⟨w.sinks, w.held⟩ := hw.tidy
  exact ((Ledger.since_next 0).readOn hread).2.2

/-- From rest to rest without a sink for the type. -/
structure Passes (t : TypeName) (w v : World σ) : Prop where
  first : AtRest w
  last : AtRest v
  trace : ∃ more, v.trace = w.trace ++ more ∧ requests t more = 0

theorem passes_of_unasked (hw : AtRest w) (hv : AtRest v) (h : Unasked w v) (t : TypeName) : Passes t w v := by
  obtain ⟨more, ht, hm⟩ := h
  exact ⟨hw, hv, more, ht, hm.requests t⟩

/-- What is said in passing is apart from the sinks handed out before or later. -/
theorem Passes.apart (h : Passes t w v) :
    w.sinks ≤ v.sinks ∧ ∃ more, v.trace = w.trace ++ more ∧
      ∀ n, ¬ (w.sinks ≤ n ∧ n < v.sinks) → Apart n t more := by
  obtain ⟨more, ht, hm⟩ := h.trace
  obtain ⟨hle, hwithin⟩ := h.first.within h.last ht
  refine ⟨hle, more, ht, fun n hn => ⟨Event.ofSink_outside hwithin hn, ?_⟩⟩
  have hlen := Event.length_sinksFor_le more t
  rw [hm] at hlen
  exact List.eq_nil_of_length_eq_zero (Nat.le_zero.1 hlen)

/-- From rest to rest a class of the type is written in full, to one sink. -/
structure Writes (texts : List String → Prop) (t : TypeName) (digest : String) (w v : World σ) : Prop where
  first : AtRest w
  last : AtRest v
  written : ∃ said n chunks, v.trace = w.trace ++ said ∧ Delivered n t chunks said ∧ texts chunks ∧
    digest = Digest.ofText (String.join chunks)

namespace Writes

variable {texts : List String → Prop}

theorem behind (h : Writes texts t digest w v) (hp : Passes t u w) : Writes texts t digest u v := by
  obtain ⟨said, n, chunks, ht, hd, htexts, hdigest⟩ := h.written
  obtain ⟨-, more, hm, hapart⟩ := hp.apart
  obtain ⟨e, he, hn⟩ := hd.acquired
  have hrange := (h.first.within h.last ht).2 e he n hn
  exact ⟨hp.first, h.last, more ++ said, n, chunks, by rw [ht, hm, List.append_assoc],
    hd.behind (hapart n (by omega)), htexts, hdigest⟩

theorem ahead (h : Writes texts t digest w v) (hp : Passes t v u) : Writes texts t digest w u := by
  obtain ⟨said, n, chunks, ht, hd, htexts, hdigest⟩ := h.written
  obtain ⟨-, more, hm, hapart⟩ := hp.apart
  obtain ⟨e, he, hn⟩ := hd.acquired
  have hrange := (h.first.within h.last ht).2 e he n hn
  exact ⟨h.first, hp.last, said ++ more, n, chunks, by rw [hm, ht, List.append_assoc],
    hd.ahead (hapart n (by omega)), htexts, hdigest⟩

end Writes

/-! ## One class -/

/-- A text that was written had a sink, the only one of its turn. -/
theorem emitText_delivered {summary : Bool} {usage : Usage} {policy : IdentifierPolicy} {pieces : List String}
    (hw : AtRest w) (h : emitText o summary t usage policy pieces w = (.ok digest, v)) :
    AtRest v ∧ digest = Digest.ofText (String.join pieces) ∧
      ∃ said, v.trace = w.trace ++ said ∧ Delivered w.sinks t pieces said := by
  have hv : AtRest v := by
    have he := emitText_ended o summary t usage policy pieces hw
    rw [h] at he
    exact ⟨he.tidy, he.ok digest rfl⟩
  obtain ⟨hdigest, front, hblock⟩ := emitText_block hw.empty h
  obtain ⟨said, ask, rest, htrace, hasks, -⟩ := emitText_asks hw.empty h
  have hone : requests t (said ++ ask :: rest) = 1 := by rw [hasks.requests, if_pos rfl]
  generalize said ++ ask :: rest = more at htrace hone
  have hlife : ofSink w.sinks more = sinkBlock w.sinks t usage.imports policy pieces := by
    have hread := hv.tidy
    rw [Tidy, ← hblock] at hread
    have hall := Ledger.ofSink_block hread
    rwa [hblock, htrace, Event.ofSink_append, Event.ofSink_outside hw.within_trace (by omega), List.nil_append] at hall
  have hacquired : .acquired w.sinks t usage.imports policy ∈ ofSink w.sinks more := by
    rw [hlife]
    exact List.mem_cons_self
  have hmem : w.sinks ∈ sinksFor more t := List.mem_filterMap.2 ⟨_, (Event.mem_ofSink.1 hacquired).1, if_pos rfl⟩
  exact ⟨hv, hdigest, more, htrace, Event.sinksFor_eq_singleton hmem (Nat.le_of_eq hone), usage.imports, policy, hlife⟩

/-- What is said of a class as written is so. -/
theorem dumpedBy_writes {summary : Bool} {s t : TypeName} {usage : Usage} {policy : IdentifierPolicy}
    {pieces : List String} {g : Session → Session} {texts : List String → Prop} (hw : AtRest w) (htexts : texts pieces)
    (h : dumpedBy s g (emitText o summary s usage policy pieces w) = (.ok (.dumped t digest), v)) :
    t = s ∧ Writes texts t digest w v := by
  rcases he : emitText o summary s usage policy pieces w with ⟨r, x⟩
  rw [he] at h
  cases r with
  | error e => cases h
  | ok d =>
    cases h
    obtain ⟨hx, hdigest, said, ht, hd⟩ := emitText_delivered hw he
    exact ⟨rfl, hw, hx.session _, said, w.sinks, pieces, ht, hd, htexts, hdigest⟩

/-- The text of a candidate: its listing, and two empty lines behind it. -/
def MemberText (chunks : List String) : Prop :=
  ∃ policy m, chunks = Listing.source (Usage.collect m) policy m ++ ["\n", "\n"]

/-- The text of a class file: its listing, or the methods that were asked for. -/
def UnitText (chunks : List String) : Prop :=
  ∃ policy m, chunks = Listing.source (Usage.collect m) policy m ∨
    ∃ methods, chunks = Listing.methods (Usage.collect m) policy m methods

theorem dumpMember_writes {s : TypeName} {archive : Path} (hw : AtRest w)
    (h : dumpMember o archive s w = (.ok (.dumped t digest), v)) : t = s ∧ Writes MemberText t digest w v := by
  rw [dumpMember_apply] at h
  rcases hd : dumpMemberInto o s w with ⟨r, x⟩
  rw [hd] at h
  cases r with
  | error e =>
    -- a failure is fatal, or it is noted and the outcome is a recovery
    dsimp only at h
    split at h
    · cases h
    · rcases hn : writeNote o s e.describe (noteException archive (some (memberContext s)) e x).2 with ⟨r, y⟩
      rw [hn] at h
      cases r <;> cases h
  | ok outcome =>
    cases h
    rw [dumpMemberInto_apply] at hd
    rcases hp : w.session.prepare w.around.files s with ⟨p, session⟩
    rw [hp] at hd
    cases p with
    | unfound e => cases hd
    | nested => cases hd
    | unbuilt e => cases hd
    | built id m =>
      dsimp only at hd
      rw [emitMember_apply] at hd
      have hann : AtRest ((announced w s).withSession session) := (hw.announced s).session session
      have hpieces (policy : IdentifierPolicy) : MemberText (memberPieces policy m) := ⟨policy, m, rfl⟩
      obtain ⟨rfl, hwrites⟩ := dumpedBy_writes hann (hpieces _) hd
      exact ⟨rfl, hwrites.behind (passes_of_unasked hw hann (unasked_announced w t) t)⟩

theorem dumpOne_writes {path : Path} {skipIfInner : Bool} (hw : AtRest w)
    (h : dumpOne o path skipIfInner w = (.ok (.dumped t digest), v)) : Writes UnitText t digest w v := by
  rw [dumpOne_apply] at h
  rcases hp : w.session.prepareUnit w.around.files path skipIfInner with ⟨p, session⟩
  rw [hp] at h
  cases p with
  | failed announced e => cases announced <;> cases h
  | nested s => cases h
  | built s id m methods =>
    dsimp only at h
    rw [emitUnit_apply] at h
    have hann : AtRest ((log (.progressType s) w).2.withSession session) := (hw.progress s).session session
    have hpieces (policy : IdentifierPolicy) : UnitText (unitPieces policy m methods) := by
      refine ⟨policy, m, ?_⟩
      cases methods with
      | none => exact .inl rfl
      | some ms => exact .inr ⟨ms, rfl⟩
    obtain ⟨rfl, hwrites⟩ := dumpedBy_writes hann (hpieces _) h
    exact hwrites.behind (passes_of_unasked hw hann ((Unasked.refl w).event (e := .progressType t) rfl rfl) t)

/-! ## Calls -/

/-- A class written in the turn of its type is left alone in the turns of the others. -/
theorem dumpMembers_writes {archive : Path} {ts : List TypeName} {outcomes : List UnitOutcome} (hts : ts.Nodup)
    (hw : AtRest w) (h : dumpMembers o archive ts w = (.ok outcomes, v)) (ht : .dumped t digest ∈ outcomes) :
    t ∈ ts ∧ Writes MemberText t digest w v := by
  induction ts generalizing w outcomes with
  | nil =>
    cases h
    cases ht
  | cons s ts ih =>
    obtain ⟨hs, hts⟩ := List.nodup_cons.1 hts
    rw [dumpMembers_cons] at h
    have hx := dumpMember_atRest o archive s w hw
    obtain ⟨more, hmore, hshare⟩ := dumpMember_asks (o := o) (t := s) archive hw.empty
    rcases hd : dumpMember o archive s w with ⟨r, x⟩
    rw [hd] at h hx hmore
    cases r with
    | error e => cases h
    | ok outcome =>
      dsimp only at h
      have hv := dumpMembers_atRest o archive ts x hx
      obtain ⟨later, hlater, hshares⟩ := dumpMembers_asks (o := o) archive hts hx
      rcases hm : dumpMembers o archive ts x with ⟨r, y⟩
      rw [hm] at h hv hlater
      cases r with
      | error e => cases h
      | ok rest =>
        cases h
        rcases List.mem_cons.1 ht with rfl | ht
        · obtain ⟨rfl, hwrites⟩ := dumpMember_writes hw hd
          exact ⟨List.mem_cons_self, hwrites.ahead ⟨hx, hv, later, hlater, hshares.others t hs⟩⟩
        · obtain ⟨hmem, hwrites⟩ := ih hts hx hm ht
          have hother : t ∉ [s] := fun hts => hs (List.mem_singleton.1 hts ▸ hmem)
          exact ⟨List.mem_cons_of_mem s hmem, hwrites.behind ⟨hw, hx, more, hmore, hshare.others t hother⟩⟩

theorem decompileUnit_writes {path : Path} {skipIfInner : Bool} (hw : AtRest w)
    (h : (decompileUnit o path skipIfInner w).1 = .dumped t digest) :
    Writes UnitText t digest w (decompileUnit o path skipIfInner w).2 := by
  rw [decompileUnit_apply] at h ⊢
  rcases hd : dumpOne o path skipIfInner w with ⟨r, x⟩
  rw [hd] at h
  cases r with
  | error e => cases h
  | ok outcome =>
    cases h
    have hwrites := dumpOne_writes hw hd
    dsimp only
    rwa [release_none o hwrites.last.empty]

theorem decompileArchive_writes {archive : Path} {report : BatchReport} (hw : AtRest w)
    (h : (decompileArchive o archive w).1 = .ok report) (ht : .dumped t digest ∈ report.units) :
    Writes MemberText t digest w (decompileArchive o archive w).2 := by
  rcases ho : o.openSummary w.around with ⟨r, around⟩
  cases r with
  | error e =>
    rw [decompileArchive_refused ho] at h
    cases h
  | ok a =>
    have hopening : AtRest (opening o w) := ⟨hw.tidy.event _ w.sinks w.held _ rfl, hw.empty⟩
    have hhead := headBatch_atRest o archive _ hopening
    have henlist := enlist_atRest o archive _ hhead
    have hfront : Unasked w (enlist o archive (headBatch o archive (opening o w)).2).2 :=
      unasked_enlist w o archive _ (unasked_headBatch w o archive _
        ((Unasked.refl w).event (e := .summaryOpened) rfl rfl))
    rw [decompileArchive_opening (by rw [ho]), dumpCollection_apply] at h ⊢
    rcases he : enlist o archive (headBatch o archive (opening o w)).2 with ⟨r, x⟩
    rw [he] at h henlist hfront
    cases r with
    | error e => cases h
    | ok ts =>
      obtain ⟨-, rfl, -⟩ := enlist_ok he
      dsimp only at h ⊢
      have hmembers := dumpMembers_atRest o archive ((headBatch o archive (opening o w)).2.candidates archive) x henlist
      rcases hm : dumpMembers o archive ((headBatch o archive (opening o w)).2.candidates archive) x with ⟨r, y⟩
      rw [hm] at h hmembers
      cases r with
      | error e => cases h
      | ok units =>
        cases h
        have hclose (r : Except DecompileError BatchReport) : Passes t y (closeBatch o archive r y).2 :=
          passes_of_unasked hmembers (closeBatch_atRest o archive r y hmembers)
            (unasked_closeBatch y o archive r y (.refl y)) t
        have hwrites := (dumpMembers_writes (candidates_nodup _ archive) henlist hm ht).2
        exact (hwrites.behind (passes_of_unasked hw henlist hfront t)).ahead (hclose _)

/-- What is reported of a class as written, against what was said before the call and in it. -/
structure Attested (before said : List Event) (t : TypeName) (digest : String) (n : Nat) (chunks : List String) :
    Prop where
  /-- The class had one sink in the call. -/
  sole : sinksFor said t = [n]
  /-- All that there is about this sink: it was handed out, took the chunks and closed, each without a failure. -/
  life : ∃ imports policy, ofSink n (before ++ said) = sinkBlock n t imports policy chunks
  accepted : Event.accepted (before ++ said) n = String.join chunks
  /-- The digest is that of the whole text the sink took, in UTF-8. -/
  whole : digest = Digest.ofText (Event.accepted (before ++ said) n)
  /-- A hash that is given the chunks one after another comes to it as well. -/
  streamed : digest = (chunks.foldl Hasher.update .start).finish
  digits : digest.length = 64 ∧ ∀ c ∈ digest.toList, c ∈ "0123456789abcdef".toList

/-- What a call reports, against what was said before it and in it. -/
structure Truthful (texts : List String → Prop) (before said : List Event) (reported : List UnitOutcome) : Prop where
  told : ∀ t digest, .dumped t digest ∈ reported → ∃ n chunks, texts chunks ∧ Attested before said t digest n chunks
  /-- A type one of whose sinks failed, at a print or at closing, is not reported as written. -/
  failed : ∀ t n, n ∈ sinksFor said t → (∃ e ∈ said, e.failedOn n = true) → ∀ digest, .dumped t digest ∉ reported

theorem truthful_of_writes {texts : List String → Prop} {said : List Event} {reported : List UnitOutcome}
    (hw : AtRest w) (htrace : v.trace = w.trace ++ said)
    (h : ∀ t digest, .dumped t digest ∈ reported → Writes texts t digest w v) :
    Truthful texts w.trace said reported := by
  have hwritten : ∀ t digest, .dumped t digest ∈ reported → ∃ n chunks, Delivered n t chunks said ∧ w.sinks ≤ n ∧
      texts chunks ∧ digest = Digest.ofText (String.join chunks) := by
    intro t digest hm
    obtain ⟨said', n, chunks, ht, hd, htexts, hdigest⟩ := (h t digest hm).written
    obtain rfl : said' = said := List.append_cancel_left (ht.symm.trans htrace)
    obtain ⟨e, he, hn⟩ := hd.acquired
    exact ⟨n, chunks, hd, ((h t digest hm).first.within (h t digest hm).last ht).2 e he n hn |>.1, htexts, hdigest⟩
  refine ⟨fun t digest hm => ?_, fun t n hn he digest hm => ?_⟩
  · obtain ⟨n, chunks, hd, hn, htexts, hdigest⟩ := hwritten t digest hm
    have hnew : ofSink n w.trace = [] := Event.ofSink_outside hw.within_trace (by omega)
    have haccepted : Event.accepted (w.trace ++ said) n = String.join chunks := by
      rw [← Event.accepted_ofSink, Event.ofSink_append, hnew, List.nil_append, Event.accepted_ofSink, hd.accepted]
    refine ⟨n, chunks, htexts, hd.sole, ?_, haccepted, by rw [haccepted, hdigest], ?_, ?_⟩
    · rw [Event.ofSink_append, hnew]
      exact hd.life
    · rw [hdigest, Hasher.finish_updates]
    · rw [hdigest, Digest.ofText_join]
      exact Digest.ofBytes_digits _
  · obtain ⟨n', chunks, hd, -⟩ := hwritten t digest hm
    rw [hd.sole, List.mem_singleton] at hn
    obtain ⟨e, hsaid, hfailed⟩ := he
    rw [hn, hd.unfailing e hsaid] at hfailed
    cases hfailed

theorem decompileUnit_grows (o : Outlet σ) (path : Path) (skipIfInner : Bool) (w : World σ) :
    w.trace <+: (decompileUnit o path skipIfInner w).2.trace := by
  have hlonger : Upheld o (fun _ => True) fun v => w.trace <+: v.trace :=
    .of_trace (fun trace e _ h => h.trans (List.prefix_append trace [e])) o _
  exact (hlonger.decompileUnit vouches_trivial path skipIfInner w ⟨trivial, List.prefix_refl _⟩).2

/-- The call adds to the trace, and what it reports is true of that. -/
def TellsTruth (texts : List String → Prop) (o : Outlet σ) (c : Call) (w : World σ) : Prop :=
  ∃ said, (outcomes o c w).2.trace = w.trace ++ said ∧ Truthful texts w.trace said (outcomes o c w).1

/-- Whatever was called before, and whatever the outlet refuses or fails at: what a class file or an archive reports
as written was taken whole by a sink that closed, and the digest is that of the text; a type one of whose sinks failed
is not reported. Writing through a hash, which has each piece before the sink does, comes to the same digests. -/
theorem digests_tell_the_truth (o : Outlet σ) (session : Session) (files : FileTree) (state : σ) (calls : List Call) :
    (∀ path skipIfInner,
      TellsTruth UnitText o (.unit path skipIfInner) (answerAll o calls (start session files state)).2) ∧
    (∀ archive, TellsTruth MemberText o (.archive archive) (answerAll o calls (start session files state)).2) ∧
    ∀ t pieces, writeHashing o t pieces = writeAll o t pieces := by
  have hw := answerAll_atRest o calls _ (start_atRest session files state)
  generalize (answerAll o calls (start session files state)).2 = w at hw
  refine ⟨fun path skipIfInner => ?_, fun archive => ?_, writeHashing_eq o⟩
  · obtain ⟨said, hsaid⟩ := decompileUnit_grows o path skipIfInner w
    refine ⟨said, hsaid.symm, truthful_of_writes hw hsaid.symm fun t digest ht => ?_⟩
    exact decompileUnit_writes hw (List.mem_singleton.1 ht).symm
  · obtain ⟨said, hsaid, -⟩ := decompileArchive_asks (o := o) archive hw
    have hworld := outcomes_world o (.archive archive) w
    have hsame : (outcomes o (.archive archive) w).2.trace = w.trace ++ said := by
      rw [hworld]
      exact hsaid
    refine ⟨said, hsame, truthful_of_writes hw hsaid fun t digest ht => ?_⟩
    simp only [outcomes, act_bind] at ht
    rcases hr : (decompileArchive o archive w).1 with e | report
    · rw [hr] at ht
      cases ht
    · rw [hr] at ht
      exact decompileArchive_writes hw hr ht

/-- The same text goes to a sink that closes and to one that fails to: only the first class is reported as written. -/
example :
    let reported (faulty : List TypeName) :=
      decompileUnit (Memory.outlet ⟨[], [], [], faulty, false⟩) ⟨"A.class"⟩ false (besideCode returnCode)
    (reported []).1.isDumped = true ∧ (reported [⟨"A"⟩]).1.isDumped = false ∧
      Event.accepted (reported []).2.trace 0 = Event.accepted (reported [⟨"A"⟩]).2.trace 0 := by
  decide +kernel

end World

end ClassSkeleton
