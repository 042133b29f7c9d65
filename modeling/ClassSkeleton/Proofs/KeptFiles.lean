import ClassSkeleton.Proofs.ScriptedSinks
import ClassSkeleton.Proofs.SourcePaths
import ClassSkeleton.Proofs.SummaryFile
import ClassSkeleton.Proofs.Truncation

/-
  ClassSkeleton.Proofs.KeptFiles — files that were there are left alone.

  Without `clobber` a sink writes a file only where its path leads to nothing. The types sinks are asked for are
  declared by class files, so their names have no slashes and their source paths lead down from the root
  (`Declared.leadsDown`); with `created_new` the file of a sink is new to the tree it is made in. So every sink that
  writes has a place of its own, which was free when the run began, and the file there has what the sink took; and
  apart from the summary no file changes or is added otherwise (`Keeping`). A run keeps this up (`files_kept`).

  It takes a root whose every `..` stands behind directories that are there. Otherwise the path is free only because
  a directory on its way is missing, and once that is made the path leads to a file that was there all along, which
  is lost (`file_lost_behind_missing_directory`).
-/

namespace ClassSkeleton

/-! ## Source paths lead down -/

/-- The path leads down: it is relative and has no `..`. -/
structure Path.LeadsDown (p : Path) : Prop where
  relative : p.isAbsolute = false
  noUp : ".." ∉ p.names

theorem TypeName.sourcePath_leadsDown {t : TypeName} (h : '/' ∉ t.chars) : t.sourcePath.LeadsDown := by
  have hnames := components_sourcePath h
  refine ⟨Path.isAbsolute_of_names hnames, fun hup => ?_⟩
  have hmem := Path.up_mem_components.2 hup
  rw [hnames] at hmem
  simp at hmem

/-! ### Declared types -/

namespace Reader

/-- Whatever it reads has the property. -/
def Yields {α : Type} (P : α → Prop) (r : Reader α) : Prop := ∀ c a d, r c = .ok (a, d) → P a

theorem Yields.bind {α β : Type} {P : α → Prop} {Q : β → Prop} {r : Reader α} {f : α → Reader β} (hr : Yields P r)
    (hf : ∀ a, P a → Yields Q (f a)) : Yields Q (r >>= f) := by
  intro c b d h
  cases hc : r c with
  | error e => rw [bind_error hc] at h; cases h
  | ok ad =>
    obtain ⟨a, c'⟩ := ad
    rw [bind_ok hc] at h
    exact hf a (hr c a c' hc) c' b d h

theorem Yields.after {α β : Type} {Q : β → Prop} {r : Reader α} {f : α → Reader β} (hf : ∀ a, Yields Q (f a)) :
    Yields Q (r >>= f) := Yields.bind (P := fun _ => True) (fun _ _ _ _ => trivial) fun a _ => hf a

end Reader

theorem Pool.className_slashless (p : Pool) (index : Nat) :
    Reader.Yields (fun t : TypeName => '/' ∉ t.chars) (p.className index) := by
  unfold Pool.className
  split
  · rw [Reader.map_eq_bind]
    refine .after fun name c t d h => ?_
    cases h
    exact (TypeName.ReadFrom.internal name).slashless
  · intro c t d h
    cases h

theorem ClassFile.reader_slashless : Reader.Yields (fun c : ClassFile => '/' ∉ c.thisClass.chars) ClassFile.reader := by
  unfold ClassFile.reader
  refine .after fun found => ?_
  split
  · intro c t d h
    cases h
  refine .after fun minorVersion => .after fun majorVersion => .after fun pool => .after fun access => .after fun index => ?_
  refine .bind (pool.className_slashless index) fun thisClass hslash => ?_
  refine .after fun superIndex => .after fun superClass => .after fun interfaceCount => .after fun interfaces => ?_
  refine .after fun fields => .after fun methods => .after fun attributeCount => .after fun attributes => ?_
  intro c classFile d h
  cases h
  exact hslash

theorem TypeName.Declared.leadsDown {t : TypeName} (h : t.Declared) : t.sourcePath.LeadsDown := by
  obtain ⟨bytes, c, hp, rfl⟩ := h
  obtain ⟨d, hd⟩ := ClassFile.parse_ok hp
  exact sourcePath_leadsDown (ClassFile.reader_slashless _ c d hd)

/-! ## What a run keeps -/

/-- The sink writes at the place. -/
def DirectoryState.WritesAt (s : DirectoryState) (n : Nat) (p : Place) : Prop := s.sinks.get? n = some (some p)

namespace World

variable {root : Path} {before : FileTree} {v w : World DirectoryState}

/-- The place is that of the summary. -/
def AtSummary (root : Path) (w : World DirectoryState) (p : Place) : Prop :=
  w.around.files.place (root.join ⟨summaryFile⟩) = .ok p

/-- A sink was handed out for a type, its place is that of the type's source and was free in the beginning, and the file
there has what the sink took. -/
structure WritesNew (root : Path) (before : FileTree) (w : World DirectoryState) (n : Nat) (p : Place) : Prop where
  free : before.node? p = none
  source : ∃ t imports policy, .acquired n t imports policy ∈ w.trace ∧
    w.around.files.place (root.join t.sourcePath) = .ok p
  file : w.around.files.node? p = some (.file (Text.utf8 (Event.accepted w.trace n)))

/-- What a run keeps, from a tree on. -/
structure Keeping (root : Path) (before : FileTree) (w : World DirectoryState) : Prop where
  rooted : w.around.files.Rooted
  descends : w.around.files.Descends root
  ext : before.Extends w.around.files
  numbers : Event.Within 0 w.sinks w.trace
  held : ∀ n, w.held = some n → n < w.sinks
  summary : ∀ p, w.around.state.summary.place = some p → AtSummary root w p
  /-- Files that were there are as they were. -/
  old : ∀ p bytes, before.node? p = some (.file bytes) →
    w.around.files.node? p = some (.file bytes) ∨ AtSummary root w p
  /-- Files that were not there are those of sinks. -/
  new : ∀ p bytes, before.node? p = none → w.around.files.node? p = some (.file bytes) →
    (∃ n, w.around.state.WritesAt n p) ∨ AtSummary root w p
  sinks : ∀ n p, w.around.state.WritesAt n p → n < w.sinks ∧ WritesNew root before w n p
  alone : ∀ m n p, w.around.state.WritesAt m p → w.around.state.WritesAt n p → m = n

/-- Sources and the summary are at different places. -/
theorem WritesNew.not_summary {n : Nat} {p : Place} (h : WritesNew root before w n p) : p.getLast? ≠ some summaryFile := by
  obtain ⟨t, -, -, -, hp⟩ := h.source
  obtain ⟨front, hfront⟩ := t.getLast?_sourcePath root
  rw [FileTree.getLast?_of_place hp hfront (java_ne (by decide) front) (java_ne (by decide) front)
    (java_ne (by decide) front)]
  simpa using @java_ne summaryFile (by decide) front

theorem AtSummary.getLast? {p : Place} (h : AtSummary root w p) : p.getLast? = some summaryFile :=
  FileTree.getLast?_of_place h (FileTree.names_summary root) (by decide) (by decide) (by decide)

/-- An event that is no text for a file, with the numbers of sinks growing at most. -/
theorem Keeping.event {e : Event} (h : Keeping root before w)
    (he : ∀ n p, w.around.state.WritesAt n p → Event.accepted [e] n = "") (ht : v.trace = w.trace ++ [e])
    (ha : v.around = w.around) (hs : w.sinks ≤ v.sinks)
    (hn : ∀ n, e.sink? = some n → n < v.sinks) (hh : ∀ n, v.held = some n → n < v.sinks) : Keeping root before v := by
  refine ⟨ha ▸ h.rooted, ha ▸ h.descends, ha ▸ h.ext, ?_, hh, ?_, ?_, ?_, ?_, ?_⟩
  · rw [ht]
    intro d hd n hdn
    rcases List.mem_append.1 hd with hd | hd
    · have := h.numbers d hd n hdn
      omega
    · rw [List.mem_singleton.1 hd] at hdn
      have := hn n hdn
      omega
  · unfold AtSummary
    rw [ha]
    exact h.summary
  · unfold AtSummary
    rw [ha]
    exact h.old
  · unfold AtSummary
    rw [ha]
    exact h.new
  · rw [ha]
    intro n p hp
    obtain ⟨hlt, hfree, ⟨t, imports, policy, hm, hplace⟩, hfile⟩ := h.sinks n p hp
    refine ⟨by omega, hfree, ⟨t, imports, policy, ?_, ?_⟩, ?_⟩
    · rw [ht]
      exact List.mem_append_left _ hm
    · rw [ha]
      exact hplace
    · rw [ha, ht, Event.accepted_append, he n p hp, String.append_empty]
      exact hfile
  · rw [ha]
    exact h.alone

/-- Changes of the summary's file only, or of none. -/
theorem Keeping.elsewhere (h : Keeping root before w) (hext : w.around.files.Extends v.around.files)
    (hrooted : v.around.files.Rooted)
    (hsame : ∀ p, AtSummary root v p ∨
      ∀ bytes, v.around.files.node? p = some (.file bytes) ↔ w.around.files.node? p = some (.file bytes))
    (hsummary : ∀ p, v.around.state.summary.place = some p → AtSummary root v p)
    (hwrites : ∀ n p, v.around.state.WritesAt n p ↔ w.around.state.WritesAt n p) (htrace : v.trace = w.trace)
    (hn : v.sinks = w.sinks) (hh : ∀ n, v.held = some n → n < v.sinks) : Keeping root before v := by
  refine ⟨hrooted, h.descends.extends hext, h.ext.trans hext, ?_, hh, hsummary, ?_, ?_, ?_, ?_⟩
  · rw [htrace, hn]
    exact h.numbers
  · intro p bytes hp
    rcases hsame p with hsum | hsame
    · exact .inr hsum
    · rcases h.old p bytes hp with hold | hsum
      · exact .inl ((hsame bytes).2 hold)
      · exact .inr (hext.place hsum)
  · intro p bytes hfree hp
    rcases hsame p with hsum | hsame
    · exact .inr hsum
    · rcases h.new p bytes hfree ((hsame bytes).1 hp) with ⟨n, hn⟩ | hsum
      · exact .inl ⟨n, (hwrites n p).2 hn⟩
      · exact .inr (hext.place hsum)
  · intro n p hp
    obtain ⟨hlt, hnew⟩ := h.sinks n p ((hwrites n p).1 hp)
    obtain ⟨t, imports, policy, hm, hplace⟩ := hnew.source
    refine ⟨by rw [hn]; exact hlt, hnew.free, ⟨t, imports, policy, by rw [htrace]; exact hm, hext.place hplace⟩, ?_⟩
    rw [htrace]
    rcases hsame p with hsum | hsame
    · exact absurd hsum.getLast? hnew.not_summary
    · exact (hsame _).2 hnew.file
  · intro m n p hm hn
    exact h.alone m n p ((hwrites m p).1 hm) ((hwrites n p).1 hn)

theorem keeping_notice (text : String) : Keeps (Keeping root before) (notice (Directory.outlet root false) text) := by
  intro w h
  have hasked : Keeping root before { w with
      around := { w.around with files := w.around.state.summary.notify text w.around.files } } := by
    unfold FileSummary.notify
    cases hp : w.around.state.summary.place with
    | none => exact h
    | some p =>
      have ht := FileTree.touches_append w.around.files p (Text.utf8 (text ++ "\n"))
      refine h.elsewhere ht.ext (ht.rooted h.rooted) (fun q => ?_) (fun q hq => ht.ext.place (h.summary q hq))
        (fun _ _ => .rfl) rfl rfl h.held
      by_cases hq : q = p
      · exact .inl (hq ▸ ht.ext.place (h.summary p hp))
      · exact .inr fun bytes => ht.files q bytes hq
  exact hasked.event (e := .notice text) (fun _ _ _ => rfl) rfl rfl (Nat.le_refl _) (fun _ h => by cases h) h.held

theorem keeping_release : Keeps (Keeping root before) (release (Directory.outlet root false)) := by
  intro w h
  rcases hh : w.held with _ | n
  · rw [release_none _ hh]
    exact h
  · rw [release_some _ hh]
    refine h.event (e := .closed n none) (fun _ _ _ => rfl) rfl rfl (Nat.le_refl _) (fun m hm => ?_) fun m hm => ?_
    · cases hm
      exact h.held n hh
    · cases hm

/-- The file of a sink takes what the sink takes, and no other file does. -/
theorem Keeping.print {n : Nat} {p : Place} (h : Keeping root before w) (hp : w.around.state.WritesAt n p) (text : String) :
    Keeping root before { w with
      around := { w.around with files := w.around.files.append p (Text.utf8 text) }
      trace := w.trace ++ [.printed n text none] } := by
  have ht := FileTree.touches_append w.around.files p (Text.utf8 text)
  obtain ⟨hn, hnew⟩ := h.sinks n p hp
  refine ⟨ht.rooted h.rooted, h.descends.extends ht.ext, h.ext.trans ht.ext, ?_, h.held,
    fun q hq => ht.ext.place (h.summary q hq), ?_, ?_, ?_, h.alone⟩
  · intro e he m hm
    rcases List.mem_append.1 he with he | he
    · exact h.numbers e he m hm
    · rw [List.mem_singleton.1 he] at hm
      cases hm
      exact ⟨Nat.zero_le n, hn⟩
  · intro q bytes hq
    have hne : q ≠ p := by
      rintro rfl
      rw [hnew.free] at hq
      cases hq
    exact (h.old q bytes hq).imp (ht.files q bytes hne).2 ht.ext.place
  · intro q bytes hfree hq
    by_cases hne : q = p
    · exact .inl ⟨n, hne ▸ hp⟩
    · exact (h.new q bytes hfree ((ht.files q bytes hne).1 hq)).imp_right ht.ext.place
  · intro m q hq
    obtain ⟨hm, hmnew⟩ := h.sinks m q hq
    obtain ⟨t, imports, policy, hacquired, hplace⟩ := hmnew.source
    refine ⟨hm, hmnew.free, ⟨t, imports, policy, List.mem_append_left _ hacquired, ht.ext.place hplace⟩, ?_⟩
    show (w.around.files.append p (Text.utf8 text)).node? q = _
    rw [Event.accepted_append]
    by_cases hmn : m = n
    · subst hmn
      obtain rfl : p = q := by
        unfold DirectoryState.WritesAt at hp hq
        rw [hp] at hq
        cases hq
        rfl
      have htaken : Event.accepted [.printed m text none] m = text := by simp [Event.accepted]
      rw [FileTree.node?_append, hmnew.file, htaken, Text.utf8_append]
      simp
    · have hne : q ≠ p := by
        rintro rfl
        exact hmn (h.alone m n q hq hp)
      have htaken : Event.accepted [.printed n text none] m = "" := by simp [Event.accepted, Ne.symm hmn]
      rw [htaken, String.append_empty]
      exact (ht.files q _ hne).2 hmnew.file

theorem keeping_print (text : String) : Keeps (Keeping root before) (print (Directory.outlet root false) text) := by
  intro w h
  rcases hh : w.held with _ | n
  · rw [print_none _ text hh]
    exact h
  rw [print_some _ text hh]
  by_cases hp : ∃ p, w.around.state.WritesAt n p
  · obtain ⟨p, hp⟩ := hp
    have hprint : (Directory.outlet root false).print n text w.around =
        (.ok (), { w.around with files := w.around.files.append p (Text.utf8 text) }) := by
      have hp' : w.around.state.sinks.get? n = some (some p) := hp
      simp only [Directory.outlet, Directory.print, hp']
    rw [hprint]
    exact h.print hp text
  · have hprint : (Directory.outlet root false).print n text w.around = (.ok (), w.around) := by
      simp only [Directory.outlet, Directory.print]
      split
      · next p hp' => exact absurd ⟨p, hp'⟩ hp
      · rfl
    rw [hprint]
    refine h.event (e := .printed n text none) (fun m q hq => ?_) rfl rfl (Nat.le_refl _) (fun m hm => ?_) h.held
    · have hne : n ≠ m := by
        rintro rfl
        exact hp ⟨q, hq⟩
      simp [Event.accepted, hne]
    · cases hm
      exact h.held n hh

/-- The file made for a sink is new: it was not there when the run began, and it is no other sink's. -/
theorem Keeping.created {t : TypeName} {files made : FileTree} {p : Place} (h : Keeping root before w)
    (ht : t.sourcePath.LeadsDown) (hfree : w.around.files.exists? (root.join t.sourcePath) = false)
    (hdirs : w.around.files.Furnishes files) (hmade : files.createFile (root.join t.sourcePath) = .ok (p, made))
    (imports : List TypeName) (policy : IdentifierPolicy) :
    Keeping root before { w with
      around := ⟨made, { w.around.state with sinks := w.around.state.sinks.put w.sinks (some p) }⟩
      sinks := w.sinks + 1
      trace := w.trace ++ [.acquired w.sinks t imports policy] } := by
  have htouch := (hdirs.touches p).trans (FileTree.createFile_touches hmade)
  obtain ⟨hplace, -, hnodes⟩ := FileTree.createFile_made hmade
  have hnone := FileTree.created_new h.rooted (h.descends.join ht.relative ht.noUp) hfree hdirs hmade
  have hbefore : before.node? p = none := by
    by_contra hsome
    have hthere := h.ext.isSome (p := p) (by simpa [Option.isSome_iff_ne_none] using hsome)
    rw [hnone] at hthere
    cases hthere
  have hwrites {n : Nat} {q : Place} :
      (DirectoryState.WritesAt { w.around.state with sinks := w.around.state.sinks.put w.sinks (some p) } n q) →
        (n = w.sinks ∧ q = p) ∨ (n < w.sinks ∧ q ≠ p ∧ w.around.state.WritesAt n q) := by
    intro hq
    rw [DirectoryState.WritesAt, Table.get?_put] at hq
    split at hq
    · next hn =>
      cases hq
      exact .inl ⟨hn.symm, rfl⟩
    · obtain ⟨hlt, hnew⟩ := h.sinks n q hq
      refine .inr ⟨hlt, ?_, hq⟩
      rintro rfl
      rw [hnew.file] at hnone
      cases hnone
  refine ⟨htouch.rooted h.rooted, h.descends.extends htouch.ext, h.ext.trans htouch.ext, ?_, ?_,
    fun q hq => htouch.ext.place (h.summary q hq), ?_, ?_, ?_, ?_⟩
  · intro e he n hn
    rcases List.mem_append.1 he with he | he
    · have := h.numbers e he n hn
      exact ⟨this.1, Nat.lt_succ_of_lt this.2⟩
    · rw [List.mem_singleton.1 he] at hn
      cases hn
      exact ⟨Nat.zero_le _, Nat.lt_succ_self _⟩
  · exact fun n hn => Nat.lt_succ_of_lt (h.held n hn)
  · intro q bytes hq
    have hne : q ≠ p := by
      rintro rfl
      rw [hbefore] at hq
      cases hq
    exact (h.old q bytes hq).imp (htouch.files q bytes hne).2 htouch.ext.place
  · intro q bytes hqfree hq
    by_cases hne : q = p
    · refine .inl ⟨w.sinks, ?_⟩
      rw [DirectoryState.WritesAt, Table.get?_put, if_pos rfl, hne]
    · rcases h.new q bytes hqfree ((htouch.files q bytes hne).1 hq) with ⟨n, hn⟩ | hsum
      · refine .inl ⟨n, ?_⟩
        have hlt := (h.sinks n q hn).1
        rw [DirectoryState.WritesAt, Table.get?_put, if_neg (by omega)]
        exact hn
      · exact .inr (htouch.ext.place hsum)
  · intro n q hq
    rcases hwrites hq with ⟨rfl, rfl⟩ | ⟨hlt, hne, hq⟩
    · refine ⟨Nat.lt_succ_self _, hbefore, ⟨t, imports, policy, by simp, hplace⟩, ?_⟩
      -- a number that was never given out took nothing yet
      have hnothing : Event.accepted (w.trace ++ [.acquired w.sinks t imports policy]) w.sinks = "" := by
        rw [Event.accepted_append, Event.accepted_outside h.numbers (by omega)]
        rfl
      rw [hnothing]
      show made.node? q = _
      rw [hnodes, if_pos rfl]
      rfl
    · have hnew := (h.sinks n q hq).2
      obtain ⟨s, imports', policy', hacquired, hat⟩ := hnew.source
      refine ⟨Nat.lt_succ_of_lt hlt, hnew.free,
        ⟨s, imports', policy', List.mem_append_left _ hacquired, htouch.ext.place hat⟩, ?_⟩
      rw [Event.accepted_append, show Event.accepted [.acquired w.sinks t imports policy] n = "" from rfl,
        String.append_empty]
      exact (htouch.files q _ hne).2 hnew.file
  · intro m n q hm hn
    rcases hwrites hm with ⟨rfl, rfl⟩ | ⟨-, hne, hm⟩
    · rcases hwrites hn with ⟨rfl, -⟩ | ⟨-, hne, -⟩
      · rfl
      · exact absurd rfl hne
    · rcases hwrites hn with ⟨-, rfl⟩ | ⟨-, -, hn⟩
      · exact absurd rfl hne
      · exact h.alone m n q hm hn

/-- Directories that were made are no files. -/
theorem Keeping.furnished {files : FileTree} (h : Keeping root before w) (hf : w.around.files.Furnishes files) :
    Keeping root before { w with around := { w.around with files := files } } :=
  h.elsewhere hf.ext (hf.rooted h.rooted) (fun _ => .inr fun _ => ⟨hf.file, hf.node⟩)
    (fun p hp => hf.ext.place (h.summary p hp)) (fun _ _ => .rfl) rfl rfl h.held

/-- Taking a sink in hand. -/
theorem keeping_install {n : Nat} (hn : n < w.sinks) (h : Keeping root before w) :
    Keeping root before (install (Directory.outlet root false) n w).2 := by
  have hr := keeping_release w h
  rw [install, act_bind, modify_apply]
  refine hr.elsewhere (.refl _) hr.rooted (fun _ => .inr fun _ => .rfl) hr.summary (fun _ _ => .rfl) rfl rfl ?_
  intro m hm
  cases hm
  rcases hh : w.held with _ | k
  · rw [release_none _ hh]
    exact hn
  · rw [release_some _ hh]
    exact hn

theorem keeping_acquire (summary : Bool) {t : TypeName} (usage : Usage) (policy : IdentifierPolicy) (ht : t.Declared) :
    Keeps (Keeping root before) (acquire (Directory.outlet root false) summary t usage policy) := by
  intro w h
  have hnoted {u : World DirectoryState} (hu : Keeping root before u) (texts : List String) :
      Keeping root before (noted (Directory.outlet root false) summary texts u) ∧
        (noted (Directory.outlet root false) summary texts u).sinks = u.sinks :=
    ⟨noted_keeps keeping_notice summary texts hu,
      noted_keeps (P := fun v => v.sinks = u.sinks) (fun _ _ hv => hv) summary texts rfl⟩
  rw [acquire_apply, Directory.outlet_acquire]
  cases hex : w.around.files.exists? (root.join t.sourcePath) with
  | true =>
    -- what is there stays: the sink drops its text
    simp only [Directory.acquire, hex, Bool.not_false, Bool.and_self, if_true]
    have hdrop : Keeping root before { w with around := { w.around with
        state := { w.around.state with sinks := w.around.state.sinks.put w.sinks none } } } := by
      refine h.elsewhere (.refl _) h.rooted (fun _ => .inr fun _ => .rfl) h.summary (fun n p => ?_) rfl rfl h.held
      unfold DirectoryState.WritesAt
      rw [Table.get?_put]
      split
      · next hn =>
        subst hn
        refine ⟨fun hp => (by cases hp), fun hp => ?_⟩
        exact absurd (h.sinks _ p hp).1 (Nat.lt_irrefl _)
      · exact .rfl
    obtain ⟨hn, hsinks⟩ := hnoted hdrop ["Not overwriting " ++ (root.join t.sourcePath).text ++ " (use --clobber)"]
    refine keeping_install (Nat.lt_succ_self w.sinks) (hn.event (e := .acquired w.sinks t usage.imports policy)
      (fun _ _ _ => rfl) rfl rfl ?_ (fun m hm => ?_) fun m hm => ?_)
    · rw [hsinks]
      exact Nat.le_succ _
    · cases hm
      exact Nat.lt_succ_self _
    · have hlt := hn.held m hm
      rw [hsinks] at hlt
      exact Nat.lt_succ_of_lt hlt
  | false =>
    simp only [Directory.acquire, hex, Bool.not_false, Bool.and_true, Bool.false_eq_true, if_false]
    rcases w.around.files.createWithParents_cases (root.join t.sourcePath) with
      ⟨files, p, made, hdirs, hmade, hr⟩ | ⟨e, files, hdirs, hr⟩
    · rw [hr]
      have hsilent : noted (Directory.outlet root false) summary [] = fun u => u := by
        cases summary <;> rfl
      simp only [hsilent]
      exact keeping_install (Nat.lt_succ_self w.sinks) (h.created ht.leadsDown hex hdirs hmade usage.imports policy)
    · rw [hr]
      have hn := (hnoted (h.furnished hdirs) []).1
      exact hn.event (e := .refused t) (fun _ _ _ => rfl) rfl rfl (Nat.le_refl _) (fun m hm => by cases hm) hn.held

theorem keeping_opened (ho : ((Directory.outlet root false).openSummary w.around).1 = .ok ()) (h : Keeping root before w) :
    Keeping root before (opening (Directory.outlet root false) w) := by
  unfold opening
  rw [Directory.outlet_openSummary] at ho ⊢
  unfold Directory.openSummary FileSummary.create at ho ⊢
  rcases w.around.files.createWithParents_cases (root.join ⟨summaryFile⟩) with
    ⟨files, p, made, hdirs, hmade, hr⟩ | ⟨e, files, -, hr⟩
  · rw [hr]
    have htouch := (hdirs.touches p).trans (FileTree.createFile_touches hmade)
    have hplace := (FileTree.createFile_made hmade).1
    have hbegun : Keeping root before { w with
        around := ⟨made, { w.around.state with summary := ⟨some p⟩ }⟩ } := by
      refine h.elsewhere htouch.ext (htouch.rooted h.rooted) (fun q => ?_) (fun q hq => ?_) (fun _ _ => .rfl) rfl rfl h.held
      · by_cases hq : q = p
        · exact .inl (hq ▸ hplace)
        · exact .inr fun bytes => htouch.files q bytes hq
      · cases hq
        exact hplace
    exact hbegun.event (e := .summaryOpened) (fun _ _ _ => rfl) rfl rfl (Nat.le_refl _) (fun m hm => by cases hm) h.held
  · rw [hr] at ho
    cases ho

theorem keeping_refused {cause : SinkError}
    (ho : ((Directory.outlet root false).openSummary w.around).1 = .error cause) (h : Keeping root before w) :
    Keeping root before (unopened (Directory.outlet root false) w) := by
  unfold unopened
  rw [Directory.outlet_openSummary] at ho ⊢
  unfold Directory.openSummary FileSummary.create at ho ⊢
  rcases w.around.files.createWithParents_cases (root.join ⟨summaryFile⟩) with
    ⟨files, p, made, -, -, hr⟩ | ⟨e, files, hdirs, hr⟩
  · rw [hr] at ho
    cases ho
  · rw [hr]
    exact (h.furnished hdirs).event (e := .summaryRefused) (fun _ _ _ => rfl) rfl rfl (Nat.le_refl _)
      (fun m hm => by cases hm) h.held

theorem keeping_throughout (root : Path) (before : FileTree) :
    UpheldThroughout (Directory.outlet root false) TypeName.Declared (Keeping root before) where
  session s h := h.elsewhere (.refl _) h.rooted (fun _ => .inr fun _ => .rfl) h.summary (fun _ _ => .rfl) rfl rfl h.held
  progress {e} he w h := by
    refine h.event (e := e) ?_ rfl rfl (Nat.le_refl _) ?_ h.held
    · intro n p _
      cases e <;> first | rfl | cases he
    · intro n hn
      cases e <;> cases he <;> cases hn
  noteException path context e w h :=
    h.event (e := .exception ⟨path, context, e.kind, e.describe⟩) (fun _ _ _ => rfl) rfl rfl (Nat.le_refl _)
      (fun m hm => by cases hm) h.held
  notice := keeping_notice
  print := keeping_print
  release := keeping_release
  acquire summary _ usage policy ht := keeping_acquire summary usage policy ht
  opened := keeping_opened
  refused := keeping_refused
  closed w h := by
    have hclosed : Keeping root before { w with
        around := { w.around with state := { w.around.state with summary := w.around.state.summary.close } } } :=
      h.elsewhere (.refl _) h.rooted (fun _ => .inr fun _ => .rfl) (fun p hp => by cases hp) (fun _ _ => .rfl) rfl rfl h.held
    exact hclosed.event (e := .summaryClosed) (fun _ _ _ => rfl) rfl rfl (Nat.le_refl _) (fun m hm => by cases hm) h.held

theorem keeping_start {files : FileTree} (hrooted : files.Rooted) (hroot : files.Descends root) (session : Session) :
    Keeping root files (start session files .start) where
  rooted := hrooted
  descends := hroot
  ext := .refl files
  numbers _ he := by cases he
  held _ hn := by cases hn
  summary _ hp := by cases hp
  old _ _ hp := .inl hp
  new p bytes hfree hp := by
    rw [show (start session files DirectoryState.start).around.files = files from rfl, hfree] at hp
    cases hp
  sinks _ _ hp := by cases hp
  alone _ _ _ hp := by cases hp

/-- Without `clobber`, and when every `..` of the root stands behind directories that are there: files that were
there are as they were, but for the summary; and every other file is that of a single sink, handed out for a type with
that source path, and has what the sink took. -/
theorem files_kept {root : Path} {files : FileTree} {session : Session} (hrooted : files.Rooted)
    (hroot : files.Descends root) (hsession : session.Good) (paths : List Path) {report : RunReport}
    {v : World DirectoryState}
    (hrun : runPaths (Directory.outlet root false) paths (start session files .start) = (report, v)) :
    (∀ p bytes, files.node? p = some (.file bytes) →
      v.around.files.node? p = some (.file bytes) ∨ AtSummary root v p) ∧
    ∀ p bytes, files.node? p = none → v.around.files.node? p = some (.file bytes) →
      AtSummary root v p ∨ ∃ n, (∀ m, v.around.state.WritesAt m p ↔ m = n) ∧
        (∃ t imports policy, .acquired n t imports policy ∈ v.trace ∧
          v.around.files.place (root.join t.sourcePath) = .ok p) ∧
        bytes = Text.utf8 (Event.accepted v.trace n) := by
  have hkept := ((keeping_throughout root files).runPaths vouches_declared paths _
    ⟨hsession, keeping_start hrooted hroot session⟩).2
  rw [hrun] at hkept
  refine ⟨hkept.old, fun p bytes hfree hp => ?_⟩
  rcases hkept.new p bytes hfree hp with ⟨n, hn⟩ | hsum
  · obtain ⟨-, hnew⟩ := hkept.sinks n p hn
    refine .inr ⟨n, fun m => ⟨fun hm => hkept.alone m n p hm hn, fun hm => hm ▸ hn⟩, hnew.source, ?_⟩
    have hfile := hnew.file
    rw [hp] at hfile
    cases hfile
    rfl
  · exact .inl hsum

theorem rooted_of_nodes {t : FileTree} (h : ∀ p ∈ t.nodes.map (·.1), t.node? p.dropLast = some .dir) : t.Rooted := by
  intro p n hp
  unfold FileTree.node? at hp
  split at hp
  · next hroot =>
    subst hroot
    rfl
  · exact h p (Table.mem_keys_of_get? hp)

/-- A run over an archive of two classes, one of which has a source already. -/
def oneKept : RunReport × World DirectoryState :=
  runPaths (Directory.outlet ⟨"out"⟩ false) [⟨"a.jar"⟩]
    (start ⟨{ Options.default with decompileInnerClasses := false }, .empty, .empty⟩
      ⟨[(["a.jar"], .file Memory.twoClasses), (["out"], .dir), (["out", "A.java"], .file (Text.utf8 "kept\n"))], []⟩ .start)

theorem files_kept_of_oneKept :
    (oneKept.2.around.files.node? ["out", "A.java"] = some (.file (Text.utf8 "kept\n")) ∨
      AtSummary ⟨"out"⟩ oneKept.2 ["out", "A.java"]) ∧
    ∃ bytes, oneKept.2.around.files.node? ["out", "B.java"] = some (.file bytes) ∧
      (AtSummary ⟨"out"⟩ oneKept.2 ["out", "B.java"] ∨
        ∃ n, (∀ m, oneKept.2.around.state.WritesAt m ["out", "B.java"] ↔ m = n) ∧
          (∃ t imports policy, .acquired n t imports policy ∈ oneKept.2.trace ∧
            oneKept.2.around.files.place ((⟨"out"⟩ : Path).join t.sourcePath) = .ok ["out", "B.java"]) ∧
          bytes = Text.utf8 (Event.accepted oneKept.2.trace n)) := by
  have hkept := @files_kept ⟨"out"⟩
    ⟨[(["a.jar"], .file Memory.twoClasses), (["out"], .dir), (["out", "A.java"], .file (Text.utf8 "kept\n"))], []⟩
    ⟨{ Options.default with decompileInnerClasses := false }, .empty, .empty⟩
    (rooted_of_nodes (by decide)) ⟨[], _, rfl, ⟨_, rfl⟩, by decide⟩ ⟨Cache.empty_sound, Cache.empty_faithful _⟩
    [⟨"a.jar"⟩] _ _ (Prod.mk.eta (p := oneKept)).symm
  obtain ⟨bytes, hb⟩ : ∃ bytes, oneKept.2.around.files.node? ["out", "B.java"] = some (.file bytes) :=
    ⟨Text.utf8 ("/*\n * Decompiled with javadump 0.1.0.\n * Class file version 52.0.\n */\n" ++
      "public class B \x7b\n\x7d\n\n\n"), by decide +kernel⟩
  exact ⟨hkept.1 _ _ rfl, bytes, hb, hkept.2 _ _ rfl hb⟩

/-- Below `new/../out` nothing is found as long as there is no `new`, so a sink is handed out for `A`; for that the
directory is made, and the path leads to the file that was in `out` all along. -/
theorem file_lost_behind_missing_directory :
    (runPaths (Directory.outlet ⟨"new/../out"⟩ false) [⟨"A.class"⟩]
      (start ⟨{ Options.default with decompileInnerClasses := false }, .empty, .empty⟩
        ⟨[(["A.class"], .file ((Memory.twoClasses.drop 37).take 31)), (["out"], .dir),
          (["out", "A.java"], .file (Text.utf8 "kept\n"))], []⟩
        .start)).2.around.files.node? ["out", "A.java"] ≠ some (.file (Text.utf8 "kept\n")) := by
  decide +kernel

end World

end ClassSkeleton
