import ClassSkeleton.Output.Directory
import ClassSkeleton.Proofs.FailureIsolation
import ClassSkeleton.Proofs.FileGrowth
import ClassSkeleton.Proofs.RunInvariants

/-
  ClassSkeleton.Proofs.SummaryFile — what becomes of summaries in a file.

  A book reads the summaries off a trace: every notice goes to the summary that is open. Whatever the outlet,
  the book of a run has one summary for each archive, in the order of the paths, and each has the head of its
  archive, the notices of its candidates and the line its deed concludes with (`Ran.booked`).

  The file is another matter. It is begun anew for every archive, and between that and the closing it takes
  exactly the notices of the open summary (`InFile`); sources written on the way are in other files, for their
  names end in `.java`. So a run leaves the summary of its last archive in the file and nothing of those before
  (`summary_file_last`): with two archives the first one's is lost (`summary_file_forgets`).
-/

namespace ClassSkeleton

/-! ## The book of summaries -/

/-- The summaries that are closed, and the one that is open, each with its notices. -/
structure SummaryBook where
  closed : List (List String)
  current : Option (List String)
  deriving DecidableEq, Repr

namespace SummaryBook

def enter (b : SummaryBook) : Event → SummaryBook
  | .summaryOpened => ⟨b.closed ++ b.current.toList, some []⟩
  | .notice text => ⟨b.closed, b.current.map (· ++ [text])⟩
  | .summaryClosed => ⟨b.closed ++ b.current.toList, none⟩
  | _ => b

def ofTrace (trace : List Event) : SummaryBook := trace.foldl enter ⟨[], none⟩

/-- The summary begun last, open or closed. -/
def last? (b : SummaryBook) : Option (List String) := (b.closed ++ b.current.toList).getLast?

/-- Notices as lines of a file. -/
def bytes (lines : List String) : List UInt8 := Text.utf8 (String.join (lines.map (· ++ "\n")))

theorem ofTrace_append (trace : List Event) (e : Event) : ofTrace (trace ++ [e]) = (ofTrace trace).enter e := by
  rw [ofTrace, List.foldl_append]
  rfl

/-- An event that neither opens or closes a summary nor is a notice. -/
theorem enter_other {e : Event} (hb : e.isBracket = false) (hn : ∀ text, e ≠ .notice text) (b : SummaryBook) :
    b.enter e = b := by
  cases e with
  | notice text => exact absurd rfl (hn text)
  | summaryOpened | summaryRefused | summaryClosed => cases hb
  | _ => rfl

/-- Notices between summaries are lost. -/
theorem enter_notice {b : SummaryBook} (hb : b.current = none) (text : String) : b.enter (.notice text) = b := by
  obtain ⟨closed, current⟩ := b
  cases hb
  rfl

theorem bytes_append (lines more : List String) : bytes (lines ++ more) = bytes lines ++ bytes more := by
  simp [bytes, Text.utf8, String.join_append, List.flatMap_append]

theorem bytes_singleton (text : String) : bytes [text] = Text.utf8 (text ++ "\n") := by
  simp [bytes, String.join]

theorem bytes_cons_ne_nil (text : String) (lines : List String) : bytes (text :: lines) ≠ [] := by
  intro h
  rw [← List.singleton_append, bytes_append, bytes_singleton] at h
  have hline := (List.append_eq_nil_iff.1 h).1
  have hend : '\n' ∈ (text ++ "\n").toList := by simp [String.toList_append]
  have hbyte := List.flatMap_eq_nil_iff.1 hline '\n' hend
  revert hbyte
  decide

end SummaryBook

/-- The first lines of the summary of an archive. -/
def summaryHead (archive : Path) : List String := ["Summary for " ++ archive.text, "Decompiled with " ++ versionLine]

/-- The last line of a summary. -/
def summaryEnd : Except DecompileError BatchReport → String
  | .ok report => World.lastNotice report
  | .error e => archiveContext ++ " " ++ e.describe

/-- The archive of a deed and the line its summary ends with. -/
def Deed.conclusion? : Deed → Option (Path × String)
  | unit _ => none
  | batch report => some (report.archive, summaryEnd (.ok report))
  | broken archive _ _ cause => some (archive, summaryEnd (.error cause))
  | lost .. => none

/-- The notices of an archive: its head, those in between, and how it ended. -/
def Summarises (conclusion : Path × String) (lines : List String) : Prop :=
  ∃ between, lines = summaryHead conclusion.1 ++ between ++ [conclusion.2]

namespace World

open SummaryBook

variable {σ : Type} {o : Outlet σ} {w v : World σ}

def book (w : World σ) : SummaryBook := ofTrace w.trace

theorem book_of_trace (h : v.trace = w.trace) : v.book = w.book := congrArg ofTrace h

theorem book_event {e : Event} (h : v.trace = w.trace ++ [e]) : v.book = w.book.enter e := by
  rw [book, h, ofTrace_append]
  rfl

/-- Between summaries nothing that goes on gets into the book. -/
theorem upheld_book (o : Outlet σ) {b : SummaryBook} (hb : b.current = none) :
    Upheld o (fun _ => True) fun w => w.book = b := by
  refine Upheld.of_trace (P := fun trace => ofTrace trace = b) (fun trace e he ht => ?_) o _
  rw [ofTrace_append, ht]
  by_cases hn : ∃ text, e = .notice text
  · obtain ⟨text, rfl⟩ := hn
    exact enter_notice hb text
  · exact enter_other he (fun text h => hn ⟨text, h⟩) b

/-- In an open summary notices follow on the head. -/
theorem upheld_current (o : Outlet σ) (closed : List (List String)) (head : List String) :
    Upheld o (fun _ => True) fun w => ∃ between, w.book = ⟨closed, some (head ++ between)⟩ := by
  refine Upheld.of_trace (P := fun trace => ∃ between, ofTrace trace = ⟨closed, some (head ++ between)⟩)
    (fun trace e he ht => ?_) o _
  obtain ⟨between, ht⟩ := ht
  rw [ofTrace_append, ht]
  by_cases hn : ∃ text, e = .notice text
  · obtain ⟨text, rfl⟩ := hn
    exact ⟨between ++ [text], by simp [enter]⟩
  · exact ⟨between, enter_other he (fun text h => hn ⟨text, h⟩) _⟩

theorem decompileUnit_book (o : Outlet σ) (path : Path) (skipIfInner : Bool) (hw : w.book.current = none) :
    (decompileUnit o path skipIfInner w).2.book = w.book :=
  ((upheld_book o hw).decompileUnit vouches_trivial path skipIfInner w ⟨trivial, rfl⟩).2

theorem closeBatch_book (o : Outlet σ) (archive : Path) (r : Except DecompileError BatchReport)
    {closed : List (List String)} {lines : List String} (hw : w.crash = none)
    (hr : (release o w).2.book = ⟨closed, some lines⟩) :
    (closeBatch o archive r w).2.book = ⟨closed ++ [lines ++ [summaryEnd r]], none⟩ := by
  rw [closeBatch_apply, hw]
  cases r with
  | ok report =>
    have ht : (sumUp o archive (.ok report) (release o w).2).2.trace =
        (release o w).2.trace ++ [.notice (lastNotice report)] ++ [.summaryClosed] := rfl
    rw [if_neg (by simp), book, ht, ofTrace_append, ofTrace_append, ← book, hr]
    rfl
  | error e =>
    have ht : (sumUp o archive (.error e) (release o w).2).2.trace = (release o w).2.trace ++
        [.exception ⟨archive, some archiveContext, e.kind, e.describe⟩] ++
        [.notice (archiveContext ++ " " ++ e.describe)] ++ [.summaryClosed] := rfl
    rw [if_neg (by simp), book, ht, ofTrace_append, ofTrace_append, ofTrace_append, ← book, hr]
    rfl

theorem headed_book (o : Outlet σ) (archive : Path) (hw : w.book.current = none) :
    (headed o archive w).book = ⟨w.book.closed, some (summaryHead archive)⟩ := by
  have hopen : (opening o w).book = ⟨w.book.closed, some []⟩ := by
    rw [book_event (w := w) (e := .summaryOpened) rfl, enter, hw]
    simp
  have ht : (headed o archive w).trace = (opening o w).trace ++
      [.notice ("Summary for " ++ archive.text)] ++ [.notice ("Decompiled with " ++ versionLine)] ++
      [.progressPath archive] := rfl
  rw [book, ht, ofTrace_append, ofTrace_append, ofTrace_append, ← book, hopen]
  rfl

/-- A batch whose summary was opened adds one summary to the book, if the program does not crash. -/
theorem decompileArchive_book (archive : Path) (ho : (o.openSummary w.around).1 = .ok ())
    (hw : w.book.current = none) (hc : (decompileArchive o archive w).2.crash = none) :
    ∃ lines, Summarises (archive, summaryEnd (decompileArchive o archive w).1) lines ∧
      (decompileArchive o archive w).2.book = ⟨w.book.closed ++ [lines], none⟩ := by
  have hhead : (headBatch o archive (opening o w)).2.book = ⟨w.book.closed, some (summaryHead archive)⟩ :=
    headed_book o archive hw
  have hup := upheld_current o w.book.closed (summaryHead archive)
  have hd := (hup.candidates vouches_trivial archive _ ⟨trivial, [], by rw [hhead, List.append_nil]⟩).2
  rw [decompileArchive_opening ho, dumpCollection_eq, attempt_bind_ok (up_apply _ _)] at hc ⊢
  obtain ⟨between, hr⟩ := hup.release _ hd
  exact ⟨_, ⟨between, rfl⟩, closeBatch_book o archive _ ((closeBatch_crash ..).symm.trans hc) hr⟩

/-! ## Runs -/

def Call.archive? : Call → Option Path
  | .archive path => some path
  | _ => none

/-- Some deeds, none of them the last of a run, with the archives they are about, have put their summaries in the book. -/
structure Booked (w : World σ) (archives : List Path) (ds : List Deed) (v : World σ) : Prop where
  archives : (ds.filterMap Deed.conclusion?).map (·.1) = archives
  summaries : ∃ more, v.book = ⟨w.book.closed ++ more, none⟩ ∧ List.Forall₂ Summarises (ds.filterMap Deed.conclusion?) more

theorem Booked.nil (h : w.book.current = none) : Booked w [] [] w := by
  refine ⟨rfl, [], ?_, .nil⟩
  rw [List.append_nil, ← h]

theorem Booked.append {u : World σ} {as bs : List Path} {ds es : List Deed} (h : Booked w as ds v)
    (h' : Booked v bs es u) : Booked w (as ++ bs) (ds ++ es) u := by
  obtain ⟨more, hv, hds⟩ := h.summaries
  obtain ⟨more', hu, hes⟩ := h'.summaries
  refine ⟨?_, more ++ more', ?_, ?_⟩
  · rw [List.filterMap_append, List.map_append, h.archives, h'.archives]
  · rw [hu, hv, List.append_assoc]
  · rw [List.filterMap_append]
    exact List.rel_append hds hes

theorem Booked.closed {archives : List Path} {ds : List Deed} (h : Booked w archives ds v) : v.book.current = none := by
  obtain ⟨more, hv, -⟩ := h.summaries
  rw [hv]

/-- A summary that is refused is fatal, so a harmless deed of an archive had its summary. -/
theorem Did.booked {c : Call} {d : Deed} (h : Did o c w d v) (hd : d.isLast = false) (hw : w.book.current = none) :
    Booked w (Call.archive? c).toList [d] v := by
  cases h with
  | @unit path skipIfInner w v outcome call =>
    have hb := decompileUnit_book o path skipIfInner hw
    rw [call] at hb
    refine ⟨rfl, [], ?_, .nil⟩
    rw [hb, List.append_nil, ← hw]
  | @batch archive w v report call alive =>
    have hreport : report.archive = archive := ((batch_accounts o archive w).1 report (by rw [call])).1
    have hopen : (o.openSummary w.around).1 = .ok () := by
      rcases ho : o.openSummary w.around with ⟨r, around⟩
      cases r with
      | ok a => rfl
      | error e =>
        rw [decompileArchive_refused ho] at call
        cases call
    obtain ⟨lines, hlines, hb⟩ := decompileArchive_book archive hopen hw (by rw [call]; exact alive)
    rw [call] at hlines hb
    refine ⟨by simp [Deed.conclusion?, Call.archive?, hreport], [lines], hb, ?_⟩
    rw [← hreport] at hlines
    exact .cons hlines .nil
  | @broken archive w v earlier noticed cause call how alive =>
    have hopen : (o.openSummary w.around).1 = .ok () := by
      cases how with
      | summary refused => cases hd
      | unread opened failed => exact opened
      | refused opened => exact opened
      | unnoted opened => exact opened
    obtain ⟨lines, hlines, hb⟩ := decompileArchive_book archive hopen hw (by rw [call]; exact alive)
    rw [call] at hlines hb
    exact ⟨rfl, [lines], hb, .cons hlines .nil⟩
  | lostUnit | lostBatch => cases hd

theorem Worked.booked {cs : List Call} {ds : List Deed} (h : Worked o cs w ds v)
    (hds : ds.any Deed.isLast = false) (hw : w.book.current = none) : Booked w (cs.filterMap Call.archive?) ds v := by
  induction h with
  | done => exact .nil hw
  | @next c cs d ds w v u did harmless rest ih =>
    have hone := did.booked harmless hw
    have hrest := ih (by simpa [harmless] using hds) hone.closed
    have h := hone.append hrest
    have hcalls : (Call.archive? c).toList ++ cs.filterMap Call.archive? = (c :: cs).filterMap Call.archive? := by
      cases hc : Call.archive? c <;> simp [hc]
    rw [hcalls] at h
    exact h
  | stop did last =>
    rw [List.any_cons, last] at hds
    cases hds

theorem archives_of_jobs (skipLoneInner : Bool) (path : Path) (w : World σ) :
    (jobs skipLoneInner path w).filterMap Call.archive? = [path].filter (·.isArchive) := by
  unfold jobs
  cases ha : path.isArchive with
  | true => simp [ha, Call.archive?]
  | false =>
    rw [if_neg (by simp), List.filter_singleton, ha]
    split
    · rw [List.filterMap_map]
      exact List.filterMap_eq_nil_iff.2 fun _ _ => rfl
    · rfl

/-- Whatever the outlet, the book has a summary for each archive, in the order of the paths. -/
theorem Ran.booked {skipLoneInner : Bool} {ps : List Path} {ds : List Deed} (h : Ran o skipLoneInner ps w ds v)
    (hds : ds.any Deed.isLast = false) (hw : w.book.current = none) :
    Booked w (ps.filter (·.isArchive)) ds v := by
  induction h with
  | done => exact .nil hw
  | @next p ps ds ds' w v u work harmless rest ih =>
    have hone := work.booked harmless hw
    have hrest := ih (by simpa [harmless] using hds) hone.closed
    have h := hone.append hrest
    rw [archives_of_jobs, ← List.filter_append, List.singleton_append] at h
    exact h
  | stop work last =>
    rw [last] at hds
    cases hds

end World

/-! ## The file -/

theorem Text.utf8_append (a b : String) : Text.utf8 (a ++ b) = Text.utf8 a ++ Text.utf8 b := by
  simp [Text.utf8, String.toList_append]

namespace Directory

theorem outlet_openSummary (root : Path) (clobber : Bool) (s : Surroundings DirectoryState) :
    (outlet root clobber).openSummary s = openSummary root s := by
  simp only [outlet]

theorem outlet_acquire (root : Path) (clobber : Bool) (n : Nat) (t : TypeName) (usage : Usage)
    (policy : IdentifierPolicy) (s : Surroundings DirectoryState) :
    (outlet root clobber).acquire n t usage policy s = acquire root clobber n t s := by
  simp only [outlet]

end Directory

/-- The file of a type's source has a name that ends in `.java`. -/
theorem TypeName.getLast?_sourcePath (root : Path) (t : TypeName) :
    ∃ front, (root.join t.sourcePath).names.getLast? = some (front ++ ".java") := by
  obtain ⟨front, hf⟩ := Text.getLast?_splitAll_append (c := '/') (b := ".java".toList) (by decide) t.simpleName.toList
  refine ⟨String.ofList front, ?_⟩
  rw [Path.getLast?_names_join, sourcePath, Path.getLast?_names_join, Path.names, List.getLast?_map]
  have hc : (⟨t.simpleName ++ ".java"⟩ : Path).chars = t.simpleName.toList ++ ".java".toList := String.toList_append
  rw [hc, hf]
  simp

/-- Names of sources are told apart from others by their last letter. -/
theorem java_ne {name : String} (h : name.toList.getLast? ≠ some 'a') (front : String) : front ++ ".java" ≠ name := by
  rintro rfl
  exact h (by simp [String.toList_append])

namespace FileTree

variable {t u v : FileTree}

/-- Whatever changed is not at a place with the name of the summary. -/
structure SparesSummary (t u : FileTree) : Prop where
  ext : t.Extends u
  same : ∀ p bytes, p.getLast? = some summaryFile → t.node? p = some (.file bytes) → u.node? p = some (.file bytes)

theorem SparesSummary.refl (t : FileTree) : t.SparesSummary t := ⟨.refl t, fun _ _ _ h => h⟩

theorem SparesSummary.trans (h : t.SparesSummary u) (h' : u.SparesSummary v) : t.SparesSummary v :=
  ⟨h.ext.trans h'.ext, fun p bytes hp hn => h'.same p bytes hp (h.same p bytes hp hn)⟩

theorem Furnishes.sparesSummary (h : t.Furnishes u) : t.SparesSummary u := ⟨h.ext, fun _ _ _ hn => h.node hn⟩

theorem Touches.sparesSummary {q : Place} (h : t.Touches u q) (hq : q.getLast? ≠ some summaryFile) :
    t.SparesSummary u := by
  refine ⟨h.ext, fun p bytes hp hn => (h.files p bytes ?_).2 hn⟩
  rintro rfl
  exact hq hp

/-- A path that ends in a name leads to a place of that name. -/
theorem getLast?_of_place {path : Path} {p : Place} {last : String} (h : t.place path = .ok p)
    (hl : path.names.getLast? = some last) (hempty : last ≠ "") (hhere : last ≠ ".") (hup : last ≠ "..") :
    p.getLast? = some last := by
  obtain ⟨front, hfront⟩ := List.getLast?_eq_some_iff.1 hl
  unfold place at h
  cases hs : segments path with
  | error e => rw [hs] at h; cases h
  | ok names =>
    obtain rfl := segments_ok hs
    rw [hs, hfront] at h
    have hw : t.walk (t.start path) (front ++ [last]) = .ok p := h
    rw [walk_append] at hw
    cases hd : t.walk (t.start path) front with
    | error e => rw [hd] at hw; cases hw
    | ok dir =>
      rw [hd] at hw
      have hw : t.walk dir [last] = .ok p := hw
      simp only [walk, hempty, hhere, hup, or_self, if_false] at hw
      split at hw
      · cases hw
      split at hw
      · cases hw
      split at hw
      · cases hw
      cases hw
      simp

theorem names_summary (root : Path) : (root.join ⟨summaryFile⟩).names.getLast? = some summaryFile := by
  rw [Path.getLast?_names_join]
  decide

theorem SparesSummary.read {root : Path} {bytes : List UInt8} (h : t.SparesSummary u)
    (hr : t.read (root.join ⟨summaryFile⟩) = .ok bytes) : u.read (root.join ⟨summaryFile⟩) = .ok bytes := by
  obtain ⟨p, hp, hn⟩ := read_eq_ok.1 hr
  have hlast := getLast?_of_place hp (names_summary root) (by decide) (by decide) (by decide)
  exact read_eq_ok.2 ⟨p, h.ext.place hp, h.same p bytes hlast hn⟩

end FileTree

namespace World

open SummaryBook

variable {root : Path} {clobber : Bool} {w v : World DirectoryState}

/-- What the outlet has of the book: the summary that is open is the one it writes on, and the file has the notices
of the summary begun last. Its sinks are files of other names. -/
structure InFile (root : Path) (w : World DirectoryState) : Prop where
  sinks : ∀ n p, w.around.state.sinks.get? n = some (some p) → p.getLast? ≠ some summaryFile
  isOpen : w.around.state.summary.place.isSome = w.book.current.isSome
  place : ∀ p, w.around.state.summary.place = some p → w.around.files.place (root.join ⟨summaryFile⟩) = .ok p
  file : ∀ lines, w.book.last? = some lines → w.around.files.read (root.join ⟨summaryFile⟩) = .ok (bytes lines)

/-- Work that writes on no summary and leaves the book alone. -/
theorem InFile.beside (h : InFile root w) (hfiles : w.around.files.SparesSummary v.around.files)
    (hsummary : v.around.state.summary = w.around.state.summary) (hbook : v.book = w.book)
    (hsinks : ∀ n p, v.around.state.sinks.get? n = some (some p) → p.getLast? ≠ some summaryFile) : InFile root v := by
  refine ⟨hsinks, ?_, fun p hp => ?_, fun lines hl => ?_⟩
  · rw [hsummary, hbook]
    exact h.isOpen
  · rw [hsummary] at hp
    exact hfiles.ext.place (h.place p hp)
  · rw [hbook] at hl
    exact hfiles.read (h.file lines hl)

/-- An event for no summary. -/
theorem InFile.event {e : Event} (h : InFile root w) (he : w.book.enter e = w.book) (hv : v.trace = w.trace ++ [e])
    (ha : v.around = w.around) : InFile root v := by
  refine h.beside (by rw [ha]; exact .refl _) (by rw [ha]) ((book_event hv).trans he) ?_
  rw [ha]
  exact h.sinks

theorem inFile_notice (text : String) : Keeps (InFile root) (notice (Directory.outlet root clobber) text) := by
  intro w h
  have hbook := book_event (w := w) (v := (notice (Directory.outlet root clobber) text w).2) (e := .notice text) rfl
  have hopen := h.isOpen
  cases hp : w.around.state.summary.place with
  | none =>
    have hcurrent : w.book.current = none := by
      rw [hp] at hopen
      simpa using hopen.symm
    have haround : (notice (Directory.outlet root clobber) text w).2.around = w.around := by
      rw [notice_apply]
      simp only [Directory.outlet, FileSummary.notify, hp]
    exact h.event (enter_notice hcurrent text) rfl haround
  | some p =>
    obtain ⟨lines, hlines⟩ : ∃ lines, w.book.current = some lines := by
      rw [hp] at hopen
      exact Option.isSome_iff_exists.1 hopen.symm
    have haround : (notice (Directory.outlet root clobber) text w).2.around =
        { w.around with files := w.around.files.append p (Text.utf8 (text ++ "\n")) } := by
      rw [notice_apply]
      simp only [Directory.outlet, FileSummary.notify, hp]
    have hlast : w.book.last? = some lines := by simp [last?, hlines]
    have hext := FileTree.extends_append w.around.files p (Text.utf8 (text ++ "\n"))
    refine ⟨?_, ?_, ?_, ?_⟩
    · rw [haround]
      exact h.sinks
    · rw [haround, hbook, enter, hlines]
      simp [hp]
    · rw [haround]
      exact fun q hq => hext.place (h.place q hq)
    · intro lines' hl
      rw [hbook, enter, hlines] at hl
      obtain rfl : lines ++ [text] = lines' := by simpa [last?] using hl
      obtain ⟨q, hq, hn⟩ := FileTree.read_eq_ok.1 (h.file lines hlast)
      obtain rfl : p = q := by
        rw [h.place p hp] at hq
        cases hq
        rfl
      rw [haround]
      refine FileTree.read_eq_ok.2 ⟨p, hext.place hq, ?_⟩
      rw [FileTree.node?_append, hn, bytes_append, bytes_singleton]
      simp

theorem inFile_print (text : String) : Keeps (InFile root) (print (Directory.outlet root clobber) text) := by
  intro w h
  rcases hh : w.held with _ | n
  · rw [print_none _ text hh]
    exact h
  · rw [print_some _ text hh]
    have hspare : w.around.files.SparesSummary (Directory.print n text w.around).2.files := by
      unfold Directory.print
      split
      · next p hp => exact (FileTree.touches_append _ p _).sparesSummary (h.sinks n p hp)
      · exact .refl _
    have hstate : (Directory.print n text w.around).2.state = w.around.state := by
      unfold Directory.print
      split <;> rfl
    refine h.beside hspare (congrArg (·.summary) hstate) (book_event (e := .printed n text _) rfl) fun m p hp => ?_
    refine h.sinks m p ?_
    rw [← hstate]
    exact hp

theorem inFile_release : Keeps (InFile root) (release (Directory.outlet root clobber)) := by
  intro w h
  rcases hh : w.held with _ | n
  · rw [release_none _ hh]
    exact h
  · rw [release_some _ hh]
    exact h.event (e := .closed n none) rfl rfl rfl

/-- The file a sink makes has another name than the summary. -/
theorem sparesSummary_acquire (root : Path) (clobber : Bool) (n : Nat) (t : TypeName) (s : Surroundings DirectoryState) :
    s.files.SparesSummary (Directory.acquire root clobber n t s).2.files ∧
      (Directory.acquire root clobber n t s).2.state.summary = s.state.summary ∧
      ∀ m p, (Directory.acquire root clobber n t s).2.state.sinks.get? m = some (some p) →
        s.state.sinks.get? m = some (some p) ∨ p.getLast? ≠ some summaryFile := by
  obtain ⟨front, hjava⟩ := t.getLast?_sourcePath root
  unfold Directory.acquire
  dsimp only
  split
  · refine ⟨.refl _, rfl, fun m p hp => ?_⟩
    simp only [Table.get?_put] at hp
    split at hp
    · cases hp
    · exact .inl hp
  · rcases s.files.createWithParents_cases (root.join t.sourcePath) with ⟨v, p, u, hv, hc, hr⟩ | ⟨e, u, hu, hr⟩
    · obtain ⟨-, hlast, -⟩ := FileTree.createFile_made hc
      have hname : p.getLast? ≠ some summaryFile := by
        rw [hlast, hjava]
        simpa using @java_ne summaryFile (by decide) front
      rw [hr]
      refine ⟨hv.sparesSummary.trans ((FileTree.createFile_touches hc).sparesSummary hname), rfl, fun m q hq => ?_⟩
      simp only [Table.get?_put] at hq
      split at hq
      · cases hq
        exact .inr hname
      · exact .inl hq
    · rw [hr]
      exact ⟨hu.sparesSummary, rfl, fun m q hq => .inl hq⟩

theorem inFile_acquire (summary : Bool) (t : TypeName) (usage : Usage) (policy : IdentifierPolicy) :
    Keeps (InFile root) (acquire (Directory.outlet root clobber) summary t usage policy) := by
  intro w h
  have hinstall : Keeps (InFile root) (install (Directory.outlet root clobber) w.sinks) :=
    .bind inFile_release fun _ v hv => hv.beside (.refl _) rfl rfl hv.sinks
  obtain ⟨hfiles, hsummary, hsinks⟩ := sparesSummary_acquire root clobber w.sinks t w.around
  rw [acquire_apply, Directory.outlet_acquire]
  rcases hr : Directory.acquire root clobber w.sinks t w.around with ⟨⟨texts, r⟩, around⟩
  rw [hr] at hfiles hsummary hsinks
  have hasked : InFile root { w with around := around } :=
    h.beside hfiles hsummary (book_of_trace rfl) fun m p hp => (hsinks m p hp).elim (h.sinks m p) id
  have hn : InFile root (noted (Directory.outlet root clobber) summary texts { w with around := around }) :=
    noted_keeps inFile_notice summary texts hasked
  cases r with
  | error e => exact hn.event (e := .refused t) rfl rfl rfl
  | ok a => exact hinstall _ (hn.event (e := .acquired w.sinks t usage.imports policy) rfl rfl rfl)

/-- Opening a summary empties the file. -/
theorem inFile_opened (ho : ((Directory.outlet root clobber).openSummary w.around).1 = .ok ()) (h : InFile root w) :
    InFile root (opening (Directory.outlet root clobber) w) := by
  have hbook := book_event (w := w) (v := opening (Directory.outlet root clobber) w) (e := .summaryOpened) rfl
  have haround : (opening (Directory.outlet root clobber) w).around = (Directory.openSummary root w.around).2 := by
    rw [opening, Directory.outlet_openSummary]
  rw [Directory.outlet_openSummary] at ho
  unfold Directory.openSummary FileSummary.create at haround ho
  rcases w.around.files.createWithParents_cases (root.join ⟨summaryFile⟩) with ⟨v, p, u, hv, hc, hr⟩ | ⟨e, u, -, hr⟩
  · rw [hr] at haround
    obtain ⟨hplace, -, hnodes⟩ := FileTree.createFile_made hc
    refine ⟨?_, ?_, ?_, ?_⟩
    · rw [haround]
      exact h.sinks
    · rw [haround, hbook]
      rfl
    · rw [haround]
      intro q hq
      cases hq
      exact hplace
    · intro lines hl
      obtain rfl : [] = lines := by simpa [hbook, enter, last?] using hl
      rw [haround]
      refine FileTree.read_eq_ok.2 ⟨p, hplace, ?_⟩
      rw [hnodes, if_pos rfl]
      rfl
  · rw [hr] at ho
    cases ho

theorem inFile_refused {cause : SinkError}
    (ho : ((Directory.outlet root clobber).openSummary w.around).1 = .error cause) (h : InFile root w) :
    InFile root (unopened (Directory.outlet root clobber) w) := by
  have haround : (unopened (Directory.outlet root clobber) w).around = (Directory.openSummary root w.around).2 := by
    rw [unopened, Directory.outlet_openSummary]
  rw [Directory.outlet_openSummary] at ho
  unfold Directory.openSummary FileSummary.create at haround ho
  rcases w.around.files.createWithParents_cases (root.join ⟨summaryFile⟩) with ⟨v, p, u, -, -, hr⟩ | ⟨e, u, hu, hr⟩
  · rw [hr] at ho
    cases ho
  · rw [hr] at haround
    refine h.beside (by rw [haround]; exact hu.sparesSummary) (by rw [haround])
      (book_event (e := .summaryRefused) rfl) ?_
    rw [haround]
    exact h.sinks

theorem inFile_throughout (root : Path) (clobber : Bool) :
    UpheldThroughout (Directory.outlet root clobber) (fun _ => True) (InFile root) where
  session s h := h.beside (.refl _) rfl rfl h.sinks
  progress {e} he w h := by
    refine h.event ?_ rfl rfl
    cases e <;> first | rfl | cases he
  noteException path context e w h := h.event (e := .exception ⟨path, context, e.kind, e.describe⟩) rfl rfl rfl
  notice := inFile_notice
  print := inFile_print
  release := inFile_release
  acquire summary t usage policy _ := inFile_acquire summary t usage policy
  opened := inFile_opened
  refused := inFile_refused
  closed w h := by
    have hbook := book_event (w := w) (e := .summaryClosed)
      (v := (do outside (Directory.outlet root clobber).closeSummary; log .summaryClosed : Act _ Unit) w |>.2) rfl
    refine ⟨h.sinks, ?_, fun p hp => ?_, fun lines hl => h.file lines ?_⟩
    · rw [hbook]
      rfl
    · cases hp
    · rw [hbook] at hl
      simpa [last?, enter] using hl

/-- A run that was not cut short has given every archive its summary, in the order of the paths: its head, the
notices of its candidates and how it ended. The file has the last of these summaries, and nothing of the others. -/
theorem summary_file_last (root : Path) (clobber : Bool) {session : Session} (hr : session.cache.crash = none)
    (files : FileTree) (paths : List Path) {report : RunReport} {v : World DirectoryState}
    (hrun : runPaths (Directory.outlet root clobber) paths (start session files .start) = (report, v))
    (h : report.aborted = false) :
    ∃ deeds, RunAccount (Directory.outlet root clobber) paths (start session files .start) deeds report v ∧
      (deeds.filterMap Deed.conclusion?).map (·.1) = paths.filter (·.isArchive) ∧
      List.Forall₂ Summarises (deeds.filterMap Deed.conclusion?) v.book.closed ∧
      ∀ lines, v.book.closed.getLast? = some lines →
        v.around.files.read (root.join ⟨summaryFile⟩) = .ok (bytes lines) := by
  obtain ⟨deeds, hacc⟩ := run_accounts (Directory.outlet root clobber) hr files .start paths
  have hstart : InFile root (start session files .start) :=
    ⟨fun n p hp => (by cases hp), rfl, fun p hp => (by cases hp), fun lines hl => by cases hl⟩
  have hfile := ((inFile_throughout root clobber).runPaths vouches_trivial paths _ ⟨trivial, hstart⟩).2
  rw [hrun] at hacc hfile
  have hharmless : deeds.any Deed.isLast = false := by
    refine Bool.eq_false_iff.2 fun hlast => Bool.eq_false_iff.1 h (hacc.aborted.2 ?_)
    refine ((Deed.any_isLast deeds).1 hlast).imp (fun hf => ?_) fun hl => hacc.lost.trans hl
    rw [hacc.exceptions]
    exact hacc.ran.accounted.orderly.fatal.1 hf
  have hbooked := hacc.ran.booked hharmless rfl
  obtain ⟨more, hbook, hsums⟩ := hbooked.summaries
  have hmore : v.book.closed = more := by
    rw [hbook]
    rfl
  refine ⟨deeds, hacc, hbooked.archives, by rw [hmore]; exact hsums, fun lines hl => hfile.file lines ?_⟩
  rw [last?, hbooked.closed]
  simpa using hl

/-- A run over an archive of two classes and an empty one. -/
def twoArchives : RunReport × World DirectoryState :=
  runPaths (Directory.outlet ⟨"out"⟩ false) [⟨"a.jar"⟩, ⟨"b.jar"⟩]
    (start ⟨{ Options.default with decompileInnerClasses := false }, .empty, .empty⟩
      ⟨[(["a.jar"], .file Memory.twoClasses), (["b.jar"], .file (80 :: 75 :: 5 :: 6 :: List.replicate 18 0))], []⟩ .start)

theorem twoArchives_ended :
    twoArchives.1.aborted = false ∧
      twoArchives.2.book.closed =
        [summaryHead ⟨"a.jar"⟩ ++ ["Dumped 2 of 2 classes (0 recovered, 0 inner skipped)"],
          summaryHead ⟨"b.jar"⟩ ++ ["Dumped 0 of 0 classes (0 recovered, 0 inner skipped)"]] ∧
      twoArchives.2.around.files.read ⟨"out/summary.txt"⟩ =
        .ok (bytes (summaryHead ⟨"b.jar"⟩ ++ ["Dumped 0 of 0 classes (0 recovered, 0 inner skipped)"])) := by
  decide +kernel

theorem summary_file_last_of_twoArchives :
    ∃ deeds, RunAccount (Directory.outlet ⟨"out"⟩ false) [⟨"a.jar"⟩, ⟨"b.jar"⟩]
        (start ⟨{ Options.default with decompileInnerClasses := false }, .empty, .empty⟩
          ⟨[(["a.jar"], .file Memory.twoClasses), (["b.jar"], .file (80 :: 75 :: 5 :: 6 :: List.replicate 18 0))], []⟩
          .start) deeds twoArchives.1 twoArchives.2 ∧
      (deeds.filterMap Deed.conclusion?).map (·.1) = [⟨"a.jar"⟩, ⟨"b.jar"⟩] ∧
      List.Forall₂ Summarises (deeds.filterMap Deed.conclusion?) twoArchives.2.book.closed ∧
      ∀ lines, twoArchives.2.book.closed.getLast? = some lines →
        twoArchives.2.around.files.read ((⟨"out"⟩ : Path).join ⟨summaryFile⟩) = .ok (bytes lines) :=
  summary_file_last ⟨"out"⟩ false rfl _ [⟨"a.jar"⟩, ⟨"b.jar"⟩] Prod.mk.eta.symm twoArchives_ended.1

/-- Both archives had their summaries, but in the end the file has that of the second one only. -/
theorem summary_file_forgets :
    twoArchives.1.aborted = false ∧ twoArchives.2.book.closed.length = 2 ∧
      twoArchives.2.around.files.read ⟨"out/summary.txt"⟩ ≠ .ok (bytes twoArchives.2.book.closed.flatten) := by
  obtain ⟨hrun, hbook, hfile⟩ := twoArchives_ended
  refine ⟨hrun, by rw [hbook]; rfl, fun h => ?_⟩
  rw [hfile, hbook, List.flatten_cons, List.flatten_cons, List.flatten_nil, List.append_nil, bytes_append _ (_ ++ _),
    Except.ok.injEq, eq_comm, List.append_left_eq_self] at h
  exact bytes_cons_ne_nil _ _ h

end World

end ClassSkeleton
