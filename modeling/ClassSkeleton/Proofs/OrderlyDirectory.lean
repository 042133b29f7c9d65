import ClassSkeleton.Proofs.FaultlessTurns
import ClassSkeleton.Proofs.SummaryFile

/-
  ClassSkeleton.Proofs.OrderlyDirectory — sources below a directory that has all they take.

  The outlet writes on files that are called `summary.txt` or have the ending `.java` (`Place.IsOutput`). Where no
  directory is called so, trees that differ in such files only (`Besides`) take every walk to anything else alike, and
  a class file is called something else. So if the directories of the sources are there (`Furnished`) and the archive is
  not called like an output either, the directory is in order (`Directory.Orderly`): with leave to overwrite, no call of
  the outlet fails, what loading reads is left alone, and the directory stays in order (`Directory.outlet_faultless`).
-/

namespace ClassSkeleton

/-- The last name is that of a summary or of a source. -/
def Place.IsOutput (p : Place) : Prop :=
  ∃ name, p.getLast? = some name ∧ (name = summaryFile ∨ ∃ front, name = front ++ ".java")

theorem Place.IsOutput.ne_nil {p : Place} (h : p.IsOutput) : p ≠ [] := by
  rintro rfl
  obtain ⟨name, hn, -⟩ := h
  cases hn

theorem Place.not_isOutput {p : Place} {name : String} (h : p.getLast? = some name) (hs : name ≠ summaryFile)
    (ha : name.toList.getLast? ≠ some 'a') : ¬ p.IsOutput := by
  rintro ⟨name', hn, hname⟩
  rw [h] at hn
  cases hn
  rcases hname with hname | ⟨front, hname⟩
  · exact hs hname
  · exact java_ne ha front hname.symm

theorem TypeName.getLast?_entryPath (dir : Path) (t : TypeName) :
    ∃ front, (dir.join ⟨t.entryPath⟩).names.getLast? = some (front ++ ".class") := by
  obtain ⟨front, hf⟩ :=
    Text.getLast?_splitAll_append (c := '/') (b := ".class".toList) (by decide) (swapChar '.' '/' t.chars)
  refine ⟨String.ofList front, ?_⟩
  have hc : (⟨t.entryPath⟩ : Path).chars = swapChar '.' '/' t.chars ++ ".class".toList := by
    simp [Path.chars, entryPath, String.toList_append]
  rw [Path.getLast?_names_join, Path.names, List.getLast?_map, hc, hf]
  simp

namespace FileTree

variable {t u : FileTree} {p from' : Place} {path archive : Path} {names : List String}

/-! ## Trees that differ in outputs -/

/-- No directory is called like an output. -/
def Plain (t : FileTree) : Prop := ∀ p : Place, p.IsOutput → t.node? p ≠ some .dir

theorem plain_of_nodes (h : ∀ p, (p, .dir) ∈ t.nodes → ¬ Place.IsOutput p) : t.Plain := by
  intro p hp hn
  rw [node?, if_neg hp.ne_nil] at hn
  exact h p (Table.mem_of_get? hn) hp

/-- The trees are the same but for outputs. -/
structure Besides (t u : FileTree) : Prop where
  cwd : u.cwd = t.cwd
  same : ∀ p : Place, ¬ p.IsOutput → u.node? p = t.node? p

namespace Besides

theorem symm (h : t.Besides u) : u.Besides t := ⟨h.cwd.symm, fun p hp => (h.same p hp).symm⟩

theorem dir (h : t.Besides u) (ht : t.Plain) (hp : t.node? p = some .dir) : u.node? p = some .dir :=
  (h.same p fun ho => ht p ho hp).trans hp

/-- A walk that does not end at an output passes none. -/
theorem walk (h : t.Besides u) (ht : t.Plain) (hp : ¬ p.IsOutput) (hw : t.walk from' names = .ok p) :
    u.walk from' names = .ok p := by
  induction names generalizing from' with
  | nil => exact hw
  | cons s rest ih =>
    simp only [FileTree.walk] at hw ⊢
    split at hw
    · cases hw
    next hdir =>
    rw [if_neg (by simpa using h.dir ht (by simpa using hdir))]
    split at hw
    · next hs => rw [if_pos hs]; exact ih hw
    next hs =>
    rw [if_neg hs]
    split at hw
    · next hup => rw [if_pos hup]; exact ih hw
    next hup =>
    rw [if_neg hup]
    split at hw
    · cases hw
    next hlen =>
    rw [if_neg hlen]
    split at hw
    · cases hw
    next hnode =>
    have hout : ¬ Place.IsOutput (from' ++ [s]) := by
      intro ho
      cases rest with
      | nil => cases hw; exact hp ho
      | cons s' rest => rw [FileTree.walk, if_pos (ht _ ho)] at hw; cases hw
    rw [h.same _ hout, if_neg hnode]
    exact ih hw

theorem place (h : t.Besides u) (ht : t.Plain) (hp : ¬ p.IsOutput) (hw : t.place path = .ok p) :
    u.place path = .ok p := by
  unfold FileTree.place at hw ⊢
  cases hs : segments path with
  | error e => rw [hs] at hw; cases hw
  | ok names =>
    rw [hs] at hw
    have hstart : u.start path = t.start path := by simp only [start, h.cwd]
    show u.walk (u.start path) names = .ok p
    rw [hstart]
    exact h.walk ht hp hw

theorem isDir (h : t.Besides u) (ht : t.Plain) (hd : t.isDir path = true) : u.isDir path = true := by
  unfold FileTree.isDir at hd ⊢
  cases hs : t.stat path with
  | error e => rw [hs] at hd; cases hd
  | ok n =>
    rw [hs] at hd
    obtain rfl : n = .dir := by simpa [Except.toOption] using hd
    obtain ⟨p, hp, hn⟩ := stat_eq_ok.1 hs
    rw [stat_eq_ok.2 ⟨p, h.place ht (fun ho => ht p ho hn) hp, h.dir ht hn⟩]
    rfl

/-- The class file of a type reads as it did. -/
theorem read (h : t.Besides u) (ht : t.Plain) {front : String} (hl : path.names.getLast? = some (front ++ ".class"))
    {bytes : List UInt8} (hr : t.read path = .ok bytes) : u.read path = .ok bytes := by
  have hs : (front ++ ".class").toList.getLast? = some 's' := by simp [String.toList_append]
  have hne {name : String} (hn : name.toList.getLast? ≠ some 's') : front ++ ".class" ≠ name := by
    rintro rfl
    exact hn hs
  obtain ⟨p, hp, hn⟩ := read_eq_ok.1 hr
  have hlast := getLast?_of_place hp hl (hne (by decide)) (hne (by decide)) (hne (by decide))
  have hout := Place.not_isOutput hlast (hne (by decide)) (by rw [hs]; decide)
  exact read_eq_ok.2 ⟨p, h.place ht hout hp, (h.same p hout).trans hn⟩

theorem sameClasses (h : t.Besides u) (ht : t.Plain) (hu : u.Plain) {n : Node} (ha : t.place archive = .ok p)
    (hn : t.node? p = some n) (hp : ¬ p.IsOutput) : u.SameClasses archive t := by
  refine ⟨?_, fun dir type => ?_⟩
  · rw [stat_eq_ok.2 ⟨p, ha, hn⟩, stat_eq_ok.2 ⟨p, h.place ht hp ha, (h.same p hp).trans hn⟩]
  · obtain ⟨front, hl⟩ := type.getLast?_entryPath dir
    cases hr : t.read (dir.join ⟨type.entryPath⟩) with
    | ok bytes => rw [h.read ht hl hr]
    | error e =>
      cases hr' : u.read (dir.join ⟨type.entryPath⟩) with
      | error e' => rfl
      | ok bytes => rw [h.symm.read hu hl hr'] at hr; cases hr

end Besides

theorem besides_append (hp : p.IsOutput) (t : FileTree) (bytes : List UInt8) : t.Besides (t.append p bytes) := by
  refine ⟨(extends_append t p bytes).cwd, fun q hq => ?_⟩
  have hne : p ≠ q := by
    rintro rfl
    exact hq hp
  rw [node?_append]
  rcases t.node? q with _ | (_ | _) <;> simp [hne]

theorem Plain.append (h : t.Plain) (p : Place) (bytes : List UInt8) : (t.append p bytes).Plain := by
  intro q hq hn
  rw [node?_append] at hn
  split at hn
  · split at hn <;> cases hn
  · exact h q hq hn

theorem besides_put (hp : p.IsOutput) (t : FileTree) (n : Node) : t.Besides (t.put p n) := by
  refine ⟨rfl, fun q hq => ?_⟩
  rw [node?_put hp.ne_nil, if_neg]
  rintro rfl
  exact hq hp

theorem Plain.put (h : t.Plain) (hp : p.IsOutput) (bytes : List UInt8) : (t.put p (.file bytes)).Plain := by
  intro q hq hn
  rw [node?_put hp.ne_nil] at hn
  split at hn
  · cases hn
  · exact h q hq hn

/-! ## Making a file in a directory that is there -/

/-- A path that leads somewhere has no last name, or one that is taken. -/
theorem parentPlace_of_place (h : t.place path = .ok p) :
    ∃ dir last trailing, t.parentPlace path = .ok (dir, last, trailing) ∧
      ∀ name, last = some name → (t.node? (dir ++ [name])).isSome = true := by
  unfold place at h
  unfold parentPlace
  cases hs : segments path with
  | error e => rw [hs] at h; cases h
  | ok names =>
    rw [hs] at h
    have hw : t.walk (t.start path) names = .ok p := h
    simp only [bind, Except.bind]
    split
    · exact ⟨_, _, _, rfl, nofun⟩
    next last front hback =>
    -- the walk goes to the directory, on to the last name, and stays there for the separators behind it
    have hsplit := List.takeWhile_append_dropWhile (p := (· == "")) (l := names.reverse)
    have hnames := congrArg List.reverse hsplit
    rw [hback, List.reverse_reverse, List.reverse_append, List.reverse_cons] at hnames
    rw [← hnames, List.append_assoc, walk_append] at hw
    cases hd : t.walk (t.start path) front.reverse with
    | error e => rw [hd] at hw; cases hw
    | ok dir =>
      rw [hd] at hw
      have hempty : last ≠ "" := by
        rintro rfl
        have hhead := List.head?_dropWhile_not (· == "") names.reverse
        rw [hback] at hhead
        simp at hhead
      have hw : t.walk dir (last :: (names.reverse.takeWhile (· == "")).reverse) = .ok p := hw
      rw [walk] at hw
      dsimp only
      split at hw
      · cases hw
      next hdir =>
      rw [if_neg hdir]
      split
      · exact ⟨_, _, _, rfl, nofun⟩
      next hdots =>
      rw [not_or] at hdots
      rw [if_neg (not_or.2 ⟨hempty, hdots.1⟩), if_neg hdots.2] at hw
      split at hw
      · cases hw
      next hlen =>
      rw [if_neg hlen]
      split at hw
      · cases hw
      next hnode =>
      refine ⟨_, _, _, rfl, fun name hname => ?_⟩
      cases hname
      simpa [Option.isSome_iff_ne_none] using hnode

/-- A directory that is there need not be made. -/
theorem makeDirs_of_isDir (h : t.isDir path = true) : t.makeDirs path = (.ok (), t) := by
  have hmake : t.makeDir path = .error .alreadyExists := by
    have hplace : ∃ p, t.place path = .ok p := by
      unfold isDir at h
      cases hs : t.stat path with
      | error e => rw [hs] at h; cases h
      | ok n =>
        obtain ⟨p, hp, -⟩ := stat_eq_ok.1 hs
        exact ⟨p, hp⟩
    obtain ⟨p, hp⟩ := hplace
    obtain ⟨dir, last, trailing, hparent, htaken⟩ := parentPlace_of_place hp
    unfold makeDir
    rw [hparent]
    cases last with
    | none => rfl
    | some name =>
      simp only [bind, Except.bind]
      rw [if_pos (htaken name rfl)]
  have halong (above : List Path) : t.makeDirsAlong (path :: above) = (.ok (), t) := by
    rw [makeDirsAlong, hmake]
    dsimp only
    rw [if_pos h, ite_self]
  unfold makeDirs ancestors
  cases path.parent with
  | none => exact halong []
  | some above => exact halong _

/-- The directory of the path is there, and a file can be made in it. -/
structure Furnished (t : FileTree) (path : Path) : Prop where
  above : ∀ dir, path.parent = some dir → t.isDir dir = true
  makes : ∃ p u, t.createFile path = .ok (p, u)

theorem furnished_iff :
    t.Furnished path ↔ path.parent.all (t.isDir ·) = true ∧ (t.createFile path).toOption.isSome = true := by
  have hmakes : (t.createFile path).toOption.isSome = true ↔ ∃ p u, t.createFile path = .ok (p, u) := by
    rcases t.createFile path with e | ⟨p, u⟩
    · simp [Except.toOption]
    · simp [Except.toOption]
  refine ⟨fun h => ⟨?_, hmakes.2 h.makes⟩, fun h => ⟨fun dir hd => ?_, hmakes.1 h.2⟩⟩
  · cases hp : path.parent with
    | none => rfl
    | some dir => exact h.above dir hp
  · have ha := h.1
    rw [hd] at ha
    exact ha

instance : Decidable (t.Furnished path) := decidable_of_iff _ furnished_iff.symm

theorem createFile_of_endsIn {front : List String} {dir : Place} {last : String} (h : EndsIn path front last)
    (hw : t.walk (t.start path) front = .ok dir) (hdir : t.node? dir = some .dir)
    (hnot : t.node? (dir ++ [last]) ≠ some .dir) :
    t.createFile path = .ok (dir ++ [last], t.put (dir ++ [last]) (.file [])) := by
  have hdots : ¬ (last = "." ∨ last = "..") := not_or.2 ⟨h.notHere, h.notUp⟩
  have hparent : t.parentPlace path = .ok (dir, some last, false) := by
    unfold parentPlace
    rw [h.taken]
    simp only [bind, Except.bind, h.names, List.reverse_append, List.reverse_cons, List.reverse_nil, List.nil_append,
      List.singleton_append]
    have hnone : (last == "") = false := by simpa using h.nonempty
    rw [List.takeWhile_cons, List.dropWhile_cons, hnone]
    simp only [Bool.false_eq_true, if_false, List.reverse_reverse, hw]
    rw [if_neg (by simpa using hdir), if_neg hdots, if_neg (Nat.not_lt.2 h.length)]
    rfl
  unfold createFile
  rw [hparent]
  simp only [bind, Except.bind]
  rw [if_neg hnot]

namespace Furnished

variable {name : String}

theorem created (h : t.Furnished path) :
    ∃ p, t.createWithParents path = (.ok p, t.put p (.file [])) ∧ p.getLast? = path.names.getLast? := by
  obtain ⟨p, u, hc⟩ := h.makes
  have hlast := (createFile_made hc).2.1
  obtain ⟨-, -, -, -, -, -, -, -, rfl⟩ := createFile_ok hc
  refine ⟨p, ?_, hlast⟩
  unfold createWithParents
  cases hp : path.parent with
  | none => simp only [hc]
  | some dir => simp only [makeDirs_of_isDir (h.above dir hp), hc]

theorem besides (h : t.Furnished path) (hb : t.Besides u) (ht : t.Plain) (hu : u.Plain)
    (ho : ∀ p : Place, p.getLast? = path.names.getLast? → p.IsOutput) : u.Furnished path := by
  refine ⟨fun dir hp => hb.isDir ht (h.above dir hp), ?_⟩
  obtain ⟨p, v, hc⟩ := h.makes
  have hlast := (createFile_made hc).2.1
  obtain ⟨front, dir, last, hends, hw, rfl, hdir, -, -⟩ := createFile_ok hc
  have hstart : u.start path = t.start path := by simp only [start, hb.cwd]
  have hwalk : u.walk (u.start path) front = .ok dir := by
    rw [hstart]
    exact hb.walk ht (fun hd => ht dir hd hdir) hw
  exact ⟨_, _, createFile_of_endsIn hends hwalk (hb.dir ht hdir) (hu _ (ho _ hlast))⟩

end Furnished

end FileTree

/-! ## The outlet -/

theorem isOutput_source {root : Path} {t : TypeName} {p : Place}
    (h : p.getLast? = (root.join t.sourcePath).names.getLast?) : p.IsOutput := by
  obtain ⟨front, hl⟩ := t.getLast?_sourcePath root
  exact ⟨_, h.trans hl, .inr ⟨front, rfl⟩⟩

theorem isOutput_summary {root : Path} {p : Place} (h : p.getLast? = (root.join ⟨summaryFile⟩).names.getLast?) :
    p.IsOutput :=
  ⟨_, h.trans (FileTree.names_summary root), .inl rfl⟩

namespace Directory

/-- The outlet writes on outputs only, and the directory has all that the sources of these types take. -/
structure Orderly (root archive : Path) (types : TypeName → Prop) (s : Surroundings DirectoryState) : Prop where
  plain : s.files.Plain
  archive : ∃ p n, s.files.place archive = .ok p ∧ s.files.node? p = some n ∧ ¬ p.IsOutput
  sources : ∀ t, types t → s.files.Furnished (root.join t.sourcePath)
  summary : s.files.Furnished (root.join ⟨summaryFile⟩)
  sinks : ∀ n p, s.state.sinks.get? n = some (some p) → p.IsOutput
  notices : ∀ p, s.state.summary.place = some p → p.IsOutput

variable {root archive : Path} {types : TypeName → Prop} {s s' : Surroundings DirectoryState}

/-- A change of outputs leaves the directory in order, and what loading reads alone. -/
theorem Orderly.changed (h : Orderly root archive types s) (hb : s.files.Besides s'.files) (hp : s'.files.Plain)
    (hs : ∀ n p, s'.state.sinks.get? n = some (some p) → p.IsOutput)
    (hn : ∀ p, s'.state.summary.place = some p → p.IsOutput) :
    Orderly root archive types s' ∧ s'.files.SameClasses archive s.files := by
  obtain ⟨p, n, ha, hnode, hout⟩ := h.archive
  exact ⟨⟨hp, ⟨p, n, hb.place h.plain hout ha, (hb.same p hout).trans hnode, hout⟩,
    fun t ht => (h.sources t ht).besides hb h.plain hp fun _ => isOutput_source,
    h.summary.besides hb h.plain hp fun _ => isOutput_summary, hs, hn⟩, hb.sameClasses h.plain hp ha hnode hout⟩

theorem Orderly.appended (h : Orderly root archive types s) {p : Place} (hp : p.IsOutput) (bytes : List UInt8) :
    Orderly root archive types { s with files := s.files.append p bytes } ∧
      (s.files.append p bytes).SameClasses archive s.files :=
  h.changed (FileTree.besides_append hp s.files bytes) (h.plain.append p bytes) h.sinks h.notices

theorem outlet_openSummary_created {clobber : Bool} {p : Place} {files : FileTree}
    (hc : s.files.createWithParents (root.join ⟨summaryFile⟩) = (.ok p, files)) :
    (outlet root clobber).openSummary s = (.ok (), ⟨files, { s.state with summary := ⟨some p⟩ }⟩) := by
  rw [outlet_openSummary]
  unfold openSummary FileSummary.create
  rw [hc]

/-- Allowed to overwrite, and below a directory that is in order, the outlet has no faults. -/
theorem outlet_faultless (root archive : Path) (types : TypeName → Prop) :
    (outlet root true).Faultless archive types (Orderly root archive types) where
  acquire n t usage policy s ht h := by
    obtain ⟨p, hc, -⟩ := (h.sources t ht).created
    simp [outlet_acquire, acquire, hc]
  print n text s t k h _ := by
    refine ⟨?_, trivial⟩
    show (print n text s).1 = .ok ()
    unfold print
    split <;> rfl
  close _ _ _ _ _ _ := rfl
  openSummary s h := by
    obtain ⟨p, hc, -⟩ := h.summary.created
    rw [outlet_openSummary_created hc]
  notify _ _ _ _ _ := id
  sparesAcquire n t usage policy ht s h := by
    obtain ⟨p, hc, hlast⟩ := (h.sources t ht).created
    have hp : p.IsOutput := isOutput_source hlast
    have hafter : ((outlet root true).acquire n t usage policy s).2 =
        ⟨s.files.put p (.file []), { s.state with sinks := s.state.sinks.put n (some p) }⟩ := by
      simp [outlet_acquire, acquire, hc]
    rw [hafter]
    refine h.changed (FileTree.besides_put hp s.files _) (h.plain.put hp []) (fun m q hq => ?_) h.notices
    simp only [Table.get?_put] at hq
    split at hq
    · cases hq
      exact hp
    · exact h.sinks m q hq
  sparesPrint n text s h := by
    show Orderly root archive types (print n text s).2 ∧ (print n text s).2.files.SameClasses archive s.files
    unfold print
    split
    · next p hp => exact h.appended (h.sinks n p hp) _
    · exact ⟨h, .refl ..⟩
  sparesClose _ s h := ⟨h, .refl ..⟩
  sparesOpen s h := by
    obtain ⟨p, hc, hlast⟩ := h.summary.created
    have hp : p.IsOutput := isOutput_summary hlast
    rw [outlet_openSummary_created hc]
    refine h.changed (FileTree.besides_put hp s.files _) (h.plain.put hp []) h.sinks fun q hq => ?_
    cases hq
    exact hp
  sparesNotify text s h := by
    show Orderly root archive types { s with files := s.state.summary.notify text s.files } ∧
      (s.state.summary.notify text s.files).SameClasses archive s.files
    unfold FileSummary.notify
    split
    · next p hp => exact h.appended (h.notices p hp) _
    · exact ⟨h, .refl ..⟩
  sparesCloseSummary s h :=
    ⟨⟨h.plain, h.archive, h.sources, h.summary, h.sinks, fun p hp => by cases hp⟩, .refl ..⟩

end Directory

end ClassSkeleton
