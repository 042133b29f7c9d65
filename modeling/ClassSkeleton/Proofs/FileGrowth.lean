import ClassSkeleton.FileTree
import ClassSkeleton.Proofs.PathNames
import ClassSkeleton.TypeName

/-
  ClassSkeleton.Proofs.FileGrowth — trees of files that only grow.

  Making directories and files never turns a directory into a file or the other way, and removes nothing:
  the tree `Extends` the one before, so a path that led somewhere leads there still (`Extends.place`). Making
  the directories above a path adds directories where nothing was (`Furnishes`); making the file puts it in a
  directory under the last name of its path, which then leads to it (`createFile_ok`).

  Whether a path is free is asked before its directories are made. In a tree where everything lies in a
  directory (`Rooted`) the answer still holds afterwards, so that nothing is overwritten (`created_new`),
  unless the path goes up again from a directory that is missing: a `..` has to stand behind directories
  that are there (`Descends`).
-/

namespace ClassSkeleton

namespace FileTree

variable {t u v : FileTree} {from' p q : Place} {path : Path}

theorem segments_ok {names : List String} (h : segments path = .ok names) : names = path.names := by
  unfold segments at h
  split at h
  · cases h
  split at h
  · cases h
  split at h
  · cases h
  cases h
  rfl

@[simp] theorem node?_nil (t : FileTree) : t.node? [] = some .dir := rfl

theorem node?_put (hp : p ≠ []) (t : FileTree) (n : Node) (q : Place) :
    (t.put p n).node? q = if p = q then some n else t.node? q := by
  unfold node? put
  by_cases hq : q = []
  · subst hq
    rw [if_pos rfl, if_neg hp, if_pos rfl]
  · rw [if_neg hq, if_neg hq]
    exact Table.get?_put ..

/-! ## Trees that extend others -/

/-- Directories and files are still there, as directories and files. -/
structure Extends (t u : FileTree) : Prop where
  cwd : u.cwd = t.cwd
  dirs : ∀ {p}, t.node? p = some .dir → u.node? p = some .dir
  files : ∀ {p bytes}, t.node? p = some (.file bytes) → ∃ bytes', u.node? p = some (.file bytes')

namespace Extends

theorem refl (t : FileTree) : t.Extends t := ⟨rfl, id, fun h => ⟨_, h⟩⟩

theorem trans (h : t.Extends u) (h' : u.Extends v) : t.Extends v := by
  refine ⟨h'.cwd.trans h.cwd, fun hp => h'.dirs (h.dirs hp), fun hp => ?_⟩
  obtain ⟨bytes, hu⟩ := h.files hp
  exact h'.files hu

theorem isSome (h : t.Extends u) (hp : (t.node? p).isSome = true) : (u.node? p).isSome = true := by
  obtain ⟨n, hn⟩ := Option.isSome_iff_exists.1 hp
  cases n with
  | dir => rw [h.dirs hn]; rfl
  | file bytes =>
    obtain ⟨bytes', hu⟩ := h.files hn
    rw [hu]
    rfl

/-- A walk that came somewhere goes the same way. -/
theorem walk (h : t.Extends u) {names : List String} (hw : t.walk from' names = .ok p) :
    u.walk from' names = .ok p := by
  induction names generalizing from' with
  | nil => exact hw
  | cons s rest ih =>
    simp only [FileTree.walk] at hw ⊢
    split at hw
    · cases hw
    next hdir =>
    rw [if_neg (by simpa using h.dirs (by simpa using hdir))]
    split at hw
    · next hs => rw [if_pos hs]; exact ih hw
    next hs =>
    rw [if_neg hs]
    split at hw
    · next hup => rw [if_pos hup]; exact ih hw
    next hup =>
    rw [if_neg hup]
    split at hw
    · cases hw
    next hlen =>
    rw [if_neg hlen]
    split at hw
    · cases hw
    next hnode =>
    have hsome := h.isSome (p := from' ++ [s]) (by simpa [Option.isSome_iff_ne_none] using hnode)
    rw [if_neg (by simpa [Option.isSome_iff_ne_none] using hsome)]
    exact ih hw

theorem place (h : t.Extends u) (hp : t.place path = .ok p) : u.place path = .ok p := by
  unfold FileTree.place at hp ⊢
  cases hs : segments path with
  | error e => rw [hs] at hp; cases hp
  | ok names =>
    rw [hs] at hp
    have hstart : u.start path = t.start path := by simp only [start, h.cwd]
    show u.walk (u.start path) names = .ok p
    rw [hstart]
    exact h.walk hp

end Extends

theorem walk_append (t : FileTree) (from' : Place) (a b : List String) :
    t.walk from' (a ++ b) = (t.walk from' a).bind fun p => t.walk p b := by
  induction a generalizing from' with
  | nil => rfl
  | cons s a ih =>
    simp only [List.cons_append, walk]
    split
    · rfl
    split
    · exact ih _
    split
    · exact ih _
    split
    · rfl
    split
    · rfl
    · exact ih _

theorem stat_eq_ok {n : Node} : t.stat path = .ok n ↔ ∃ p, t.place path = .ok p ∧ t.node? p = some n := by
  unfold stat
  cases hp : t.place path with
  | error e => simp [bind, Except.bind]
  | ok q => cases hn : t.node? q <;> simp [bind, Except.bind, hn]

theorem read_eq_ok {bytes : List UInt8} :
    t.read path = .ok bytes ↔ ∃ p, t.place path = .ok p ∧ t.node? p = some (.file bytes) := by
  rw [← stat_eq_ok]
  unfold read
  cases hs : t.stat path with
  | error e => simp
  | ok n => cases n <;> simp

/-! ## Appending -/

theorem node?_append (t : FileTree) (p : Place) (bytes : List UInt8) (q : Place) :
    (t.append p bytes).node? q = match t.node? q with
      | some (.file old) => if p = q then some (.file (old ++ bytes)) else some (.file old)
      | n => n := by
  unfold append
  cases hp : t.node? p with
  | none =>
    by_cases h : p = q
    · subst h; simp only [hp]
    · simp only [h, if_false]
      rcases t.node? q with _ | (_ | _) <;> rfl
  | some n =>
    cases n with
    | dir =>
      by_cases h : p = q
      · subst h; simp only [hp]
      · simp only [h, if_false]
        rcases t.node? q with _ | (_ | _) <;> rfl
    | file old =>
      have hne : p ≠ [] := by
        rintro rfl
        simp at hp
      simp only [node?_put hne]
      by_cases h : p = q
      · subst h; simp only [hp, if_true]
      · simp only [h, if_false]
        rcases t.node? q with _ | (_ | _) <;> rfl

theorem extends_append (t : FileTree) (p : Place) (bytes : List UInt8) : t.Extends (t.append p bytes) := by
  refine ⟨?_, fun hq => ?_, fun hq => ?_⟩
  · unfold append
    split <;> rfl
  · rw [node?_append, hq]
  · rw [node?_append, hq]
    dsimp only
    split
    · exact ⟨_, rfl⟩
    · exact ⟨_, rfl⟩

/-! ## Making directories -/

/-- Everything lies in a directory. -/
def Rooted (t : FileTree) : Prop := ∀ p n, t.node? p = some n → t.node? p.dropLast = some .dir

/-- `u` has more directories, where nothing was and below directories. -/
structure Furnishes (t u : FileTree) : Prop where
  cwd : u.cwd = t.cwd
  nodes : ∀ p, u.node? p = t.node? p ∨ (t.node? p = none ∧ u.node? p = some .dir)
  rooted : t.Rooted → u.Rooted

namespace Furnishes

theorem refl (t : FileTree) : t.Furnishes t := ⟨rfl, fun _ => .inl rfl, id⟩

theorem trans (h : t.Furnishes u) (h' : u.Furnishes v) : t.Furnishes v := by
  refine ⟨h'.cwd.trans h.cwd, fun p => ?_, fun ht => h'.rooted (h.rooted ht)⟩
  rcases h'.nodes p with hv | ⟨hu, hv⟩
  · rw [hv]
    exact h.nodes p
  · rcases h.nodes p with hp | ⟨-, hp⟩
    · exact .inr ⟨hp.symm.trans hu, hv⟩
    · rw [hu] at hp
      cases hp

theorem node (h : t.Furnishes u) {n : Node} (hp : t.node? p = some n) : u.node? p = some n := by
  rcases h.nodes p with hu | ⟨hn, -⟩
  · rw [hu, hp]
  · rw [hp] at hn
    cases hn

theorem ext (h : t.Furnishes u) : t.Extends u := ⟨h.cwd, h.node, fun hp => ⟨_, h.node hp⟩⟩

/-- What is a file afterwards was one before. -/
theorem file (h : t.Furnishes u) {bytes : List UInt8} (hp : u.node? p = some (.file bytes)) :
    t.node? p = some (.file bytes) := by
  rcases h.nodes p with hu | ⟨-, hu⟩
  · rw [← hu, hp]
  · rw [hp] at hu
    cases hu

end Furnishes

/-- The path ends with a name that a file can have. -/
structure EndsIn (path : Path) (front : List String) (last : String) : Prop where
  taken : segments path = .ok path.names
  names : path.names = front ++ [last]
  nonempty : last ≠ ""
  notHere : last ≠ "."
  notUp : last ≠ ".."
  length : last.utf8ByteSize ≤ maxName

theorem EndsIn.place {front : List String} {dir : Place} {last : String} (h : EndsIn path front last)
    (hw : t.walk (t.start path) front = .ok dir) (hdir : t.node? dir = some .dir)
    (hsome : (t.node? (dir ++ [last])).isSome = true) : t.place path = .ok (dir ++ [last]) := by
  unfold FileTree.place
  rw [h.taken]
  show t.walk (t.start path) path.names = _
  rw [h.names, walk_append, hw]
  show t.walk dir [last] = _
  have hlen : ¬ last.utf8ByteSize > maxName := Nat.not_lt.2 h.length
  have hthere : (t.node? (dir ++ [last])).isNone = false := by simpa [Option.isSome_iff_ne_none] using hsome
  simp only [walk, hdir, ne_eq, not_true_eq_false, if_false, h.nonempty, h.notHere, h.notUp, or_self, hlen, hthere,
    Bool.false_eq_true]

/-- Where a path leads up to its last name. -/
theorem parentPlace_ok {dir : Place} {last : String} {trailing : Bool}
    (h : t.parentPlace path = .ok (dir, some last, trailing)) :
    t.node? dir = some .dir ∧
      (trailing = false → ∃ front, EndsIn path front last ∧ t.walk (t.start path) front = .ok dir) := by
  unfold parentPlace at h
  cases hs : segments path with
  | error e => rw [hs] at h; cases h
  | ok names =>
    obtain rfl := segments_ok hs
    rw [hs] at h
    simp only [bind, Except.bind] at h
    split at h
    · cases h
    next last' front' hback =>
    cases hw : t.walk (t.start path) front'.reverse with
    | error e => rw [hw] at h; cases h
    | ok dir' =>
      rw [hw] at h
      dsimp only at h
      split at h
      · cases h
      next hdir =>
      split at h
      · cases h
      next hdots =>
      split at h
      · cases h
      next hlen =>
      cases h
      have hne : last ≠ "" := by
        rintro rfl
        have hhead := List.head?_dropWhile_not (· == "") path.names.reverse
        rw [hback] at hhead
        simp at hhead
      refine ⟨by simpa using hdir, fun ht => ⟨front'.reverse, ?_, hw⟩⟩
      -- nothing but empty names is dropped behind the last one, and there is none
      have hsplit := List.takeWhile_append_dropWhile (p := (· == "")) (l := path.names.reverse)
      have hempty : path.names.reverse.takeWhile (· == "") = [] := by simpa using ht
      rw [hback, hempty, List.nil_append] at hsplit
      have hrev := congrArg List.reverse hsplit
      rw [List.reverse_reverse, List.reverse_cons] at hrev
      exact ⟨hs, hrev.symm, hne, fun hl => hdots (.inl hl), fun hl => hdots (.inr hl), Nat.not_lt.1 hlen⟩

theorem makeDir_ok (h : t.makeDir path = .ok u) : t.Furnishes u := by
  unfold makeDir at h
  cases hp : t.parentPlace path with
  | error e => rw [hp] at h; cases h
  | ok r =>
    obtain ⟨dir, last, trailing⟩ := r
    rw [hp] at h
    simp only [bind, Except.bind] at h
    cases last with
    | none => cases h
    | some last =>
      dsimp only at h
      split at h
      · cases h
      next hfree =>
      cases h
      have hdir := (parentPlace_ok hp).1
      have hne : dir ++ [last] ≠ [] := by simp
      have hnone : t.node? (dir ++ [last]) = none := by simpa using hfree
      refine ⟨rfl, fun p => ?_, fun ht p n hn => ?_⟩
      · rw [node?_put hne]
        split
        · next he => subst he; exact .inr ⟨hnone, rfl⟩
        · exact .inl rfl
      · rw [node?_put hne] at hn ⊢
        have hparent : t.node? p.dropLast = some .dir := by
          split at hn
          · next he => subst he; rw [List.dropLast_concat]; exact hdir
          · exact ht p n hn
        rw [hparent, ite_self]

theorem makeDirsAlong_furnishes (t : FileTree) (paths : List Path) : t.Furnishes (t.makeDirsAlong paths).2 := by
  induction paths generalizing t with
  | nil => exact .refl t
  | cons p above ih =>
    rw [makeDirsAlong]
    split
    · exact .refl t
    split
    · next hm => exact makeDir_ok hm
    · have ha := ih t
      split
      · next hr => rw [hr] at ha; exact ha
      · next v hr =>
        rw [hr] at ha
        split
        · next hm => exact ha.trans (makeDir_ok hm)
        · split <;> exact ha
    · split <;> exact .refl t

theorem makeDirs_furnishes (t : FileTree) (path : Path) : t.Furnishes (t.makeDirs path).2 :=
  makeDirsAlong_furnishes t _

/-! ## Making files -/

theorem extends_put (hp : p ≠ []) (hnot : t.node? p ≠ some .dir) (bytes : List UInt8) :
    t.Extends (t.put p (.file bytes)) := by
  refine ⟨rfl, fun hq => ?_, fun {q old} hq => ?_⟩
  · rw [node?_put hp, if_neg, hq]
    rintro rfl
    exact hnot hq
  · rw [node?_put hp]
    split
    · exact ⟨_, rfl⟩
    · exact ⟨_, hq⟩

/-- The file lies in a directory under the last name of its path. -/
theorem createFile_ok (h : t.createFile path = .ok (p, u)) :
    ∃ front dir last, EndsIn path front last ∧ t.walk (t.start path) front = .ok dir ∧ p = dir ++ [last] ∧
      t.node? dir = some .dir ∧ t.node? p ≠ some .dir ∧ u = t.put p (.file []) := by
  unfold createFile at h
  cases hp : t.parentPlace path with
  | error e => rw [hp] at h; cases h
  | ok r =>
    obtain ⟨dir, last, trailing⟩ := r
    rw [hp] at h
    simp only [bind, Except.bind] at h
    cases last with
    | none => cases h
    | some last =>
      cases trailing with
      | true => cases h
      | false =>
        dsimp only at h
        split at h
        · cases h
        next hnot =>
        cases h
        obtain ⟨hdir, hnames⟩ := parentPlace_ok hp
        obtain ⟨front, hends, hwalk⟩ := hnames rfl
        exact ⟨front, dir, last, hends, hwalk, rfl, hdir, hnot, rfl⟩

theorem extends_createFile (h : t.createFile path = .ok (p, u)) : t.Extends u := by
  obtain ⟨front, dir, last, -, -, rfl, -, hnot, rfl⟩ := createFile_ok h
  exact extends_put (by simp) hnot []

/-- The path leads to the file it made, which is empty; other places are as they were. -/
theorem createFile_made (h : t.createFile path = .ok (p, u)) :
    u.place path = .ok p ∧ p.getLast? = path.names.getLast? ∧
      ∀ q, u.node? q = if p = q then some (.file []) else t.node? q := by
  have hext := extends_createFile h
  obtain ⟨front, dir, last, hends, hwalk, rfl, hdir, -, rfl⟩ := createFile_ok h
  have hnodes := node?_put (p := dir ++ [last]) (by simp) t (.file [])
  refine ⟨hends.place (hext.walk hwalk) (hext.dirs hdir) ?_, ?_, hnodes⟩
  · rw [hnodes, if_pos rfl]
    rfl
  · rw [hends.names]
    simp

/-- The directories first, then the file; when that fails the directories stay. -/
theorem createWithParents_cases (t : FileTree) (path : Path) :
    (∃ v p u, t.Furnishes v ∧ v.createFile path = .ok (p, u) ∧ t.createWithParents path = (.ok p, u)) ∨
      ∃ e u, t.Furnishes u ∧ t.createWithParents path = (.error e, u) := by
  unfold createWithParents
  cases path.parent with
  | none =>
    dsimp only
    cases hc : t.createFile path with
    | error e => exact .inr ⟨e, t, .refl t, rfl⟩
    | ok r => exact .inl ⟨t, r.1, r.2, .refl t, hc, rfl⟩
  | some dir =>
    have hmade := makeDirs_furnishes t dir
    dsimp only
    rcases hm : t.makeDirs dir with ⟨r, v⟩
    rw [hm] at hmade
    cases r with
    | error e => exact .inr ⟨e, v, hmade, rfl⟩
    | ok a =>
      dsimp only
      cases hc : v.createFile path with
      | error e => exact .inr ⟨e, v, hmade, rfl⟩
      | ok r => exact .inl ⟨v, r.1, r.2, hmade, hc, rfl⟩

/-! ## Changes at one place -/

/-- Files at other places are as they were, and no others are there. -/
structure Touches (t u : FileTree) (q : Place) : Prop where
  ext : t.Extends u
  rooted : t.Rooted → u.Rooted
  files : ∀ p bytes, p ≠ q → (u.node? p = some (.file bytes) ↔ t.node? p = some (.file bytes))

theorem Furnishes.touches (h : t.Furnishes u) (q : Place) : t.Touches u q :=
  ⟨h.ext, h.rooted, fun _ _ _ => ⟨h.file, h.node⟩⟩

theorem Touches.trans (h : t.Touches u q) (h' : u.Touches v q) : t.Touches v q :=
  ⟨h.ext.trans h'.ext, fun ht => h'.rooted (h.rooted ht),
    fun p bytes hp => (h'.files p bytes hp).trans (h.files p bytes hp)⟩

theorem touches_append (t : FileTree) (p : Place) (bytes : List UInt8) : t.Touches (t.append p bytes) p := by
  refine ⟨extends_append t p bytes, fun ht q n hq => ?_, fun q old hq => ?_⟩
  · rw [node?_append] at hq ⊢
    have hsome : ∃ m, t.node? q = some m := by
      cases hn : t.node? q with
      | none => rw [hn] at hq; cases hq
      | some m => exact ⟨m, rfl⟩
    obtain ⟨m, hm⟩ := hsome
    rw [ht q m hm]
  · rw [node?_append]
    cases hn : t.node? q with
    | none => simp
    | some m => cases m <;> simp [Ne.symm hq]

theorem createFile_touches (h : t.createFile path = .ok (p, u)) : t.Touches u p := by
  have hext := extends_createFile h
  have hnodes := (createFile_made h).2.2
  obtain ⟨front, dir, last, -, -, rfl, hdir, -, -⟩ := createFile_ok h
  refine ⟨hext, fun ht q n hq => ?_, fun q bytes hq => ?_⟩
  · rw [hnodes] at hq
    split at hq
    · next he =>
      subst he
      rw [List.dropLast_concat]
      exact hext.dirs hdir
    · exact hext.dirs (ht q n hq)
  · rw [hnodes, if_neg (Ne.symm hq)]

/-! ## Files that are new -/

theorem Rooted.above (h : t.Rooted) {below : Place} {n : Node} (hp : t.node? (p ++ below) = some n) (hb : below ≠ []) :
    t.node? p = some .dir := by
  induction below using List.reverseRecOn generalizing n with
  | nil => exact absurd rfl hb
  | append_singleton below s ih =>
    have hdir := h _ n hp
    rw [← List.append_assoc, List.dropLast_concat] at hdir
    by_cases he : below = []
    · rwa [he, List.append_nil] at hdir
    · exact ih hdir he

theorem walk_down {names : List String} (hw : t.walk from' names = .ok p) (hup : ".." ∉ names) :
    ∃ below, p = from' ++ below := by
  induction names generalizing from' with
  | nil =>
    cases hw
    exact ⟨[], (List.append_nil _).symm⟩
  | cons s rest ih =>
    simp only [List.mem_cons, not_or] at hup
    simp only [walk] at hw
    split at hw
    · cases hw
    split at hw
    · exact ih hw hup.2
    rw [if_neg (Ne.symm hup.1)] at hw
    split at hw
    · cases hw
    split at hw
    · cases hw
    obtain ⟨below, rfl⟩ := ih hw hup.2
    exact ⟨s :: below, by simp⟩

/-- A walk that goes down, in whatever tree, to a directory in which a rooted tree has something, can be gone in
that tree: all places on the way are above what is there. -/
theorem walk_of_down (ht : t.Rooted) {names : List String} {last : String} {n : Node}
    (hw : v.walk from' names = .ok p) (hup : ".." ∉ names) (hp : t.node? (p ++ [last]) = some n) :
    t.walk from' names = .ok p := by
  induction names generalizing from' with
  | nil => exact hw
  | cons s rest ih =>
    obtain ⟨below, hbelow⟩ := walk_down hw hup
    have hdir : t.node? from' = some .dir := by
      rw [hbelow, List.append_assoc] at hp
      exact ht.above hp (by simp)
    simp only [List.mem_cons, not_or] at hup
    simp only [walk] at hw ⊢
    rw [if_neg (by simpa using hdir)]
    split at hw
    · cases hw
    split at hw
    · next hs => rw [if_pos hs]; exact ih hw hup.2
    next hs =>
    rw [if_neg hs, if_neg (Ne.symm hup.1)]
    rw [if_neg (Ne.symm hup.1)] at hw
    split at hw
    · cases hw
    next hlen =>
    rw [if_neg hlen]
    split at hw
    · cases hw
    have hnext : t.node? (from' ++ [s]) = some .dir := by
      obtain ⟨below', hbelow'⟩ := walk_down hw hup.2
      rw [hbelow', List.append_assoc] at hp
      exact ht.above hp (by simp)
    rw [if_neg (by simp [hnext])]
    exact ih hw hup.2

/-- Every `..` of the path stands behind directories that are there. -/
def Descends (t : FileTree) (path : Path) : Prop :=
  ∃ front back, path.names = front ++ back ∧ (∃ d, t.walk (t.start path) front = .ok d) ∧ ".." ∉ back

theorem Descends.extends {path : Path} (h : t.Descends path) (hu : t.Extends u) : u.Descends path := by
  obtain ⟨front, back, hn, ⟨d, hd⟩, hup⟩ := h
  have hstart : u.start path = t.start path := by simp only [start, hu.cwd]
  exact ⟨front, back, hn, ⟨d, by rw [hstart]; exact hu.walk hd⟩, hup⟩

/-- Below such a path, names without `..` lead down. -/
theorem Descends.join {root q : Path} (h : t.Descends root) (hq : q.isAbsolute = false) (hup : ".." ∉ q.names) :
    t.Descends (root.join q) := by
  by_cases hroot : root.chars = []
  · rw [Path.join_of_empty hroot]
    exact ⟨[], q.names, rfl, ⟨_, rfl⟩, hup⟩
  obtain ⟨front, back, hn, ⟨d, hd⟩, hback⟩ := h
  obtain ⟨names, hjoin, hnames⟩ := Path.names_join hq hroot
  have hstart : t.start (root.join q) = t.start root := by simp only [start, Path.isAbsolute_join hq]
  rcases hnames with hnames | hnames
  · refine ⟨front, back ++ q.names, ?_, ⟨d, by rw [hstart]; exact hd⟩, by simp [hback, hup]⟩
    rw [hjoin, ← hnames, hn, List.append_assoc]
  · -- the separator at the end of the root is not walked any more
    rw [hn] at hnames
    rcases List.eq_nil_or_concat back with rfl | ⟨back', s, rfl⟩
    · rw [List.append_nil] at hnames
      rw [hnames, walk_append] at hd
      cases hw : t.walk (t.start root) names with
      | error e => rw [hw] at hd; cases hd
      | ok d' => exact ⟨names, q.names, hjoin, ⟨d', by rw [hstart]; exact hw⟩, hup⟩
    · rw [List.concat_eq_append, ← List.append_assoc] at hnames
      have hfront := List.append_inj_left' hnames rfl
      refine ⟨front, back' ++ q.names, by rw [hjoin, ← hfront, List.append_assoc], ⟨d, by rw [hstart]; exact hd⟩, ?_⟩
      simp only [List.concat_eq_append, List.mem_append, not_or] at hback ⊢
      exact ⟨hback.1, hup⟩

/-- A path that was free before its directories were made is free still: the file that is made there is new. -/
theorem created_new (ht : t.Rooted) (hd : t.Descends path) (hfree : t.exists? path = false) (hv : t.Furnishes v)
    (hc : v.createFile path = .ok (p, u)) : t.node? p = none := by
  obtain ⟨front', dir, last, hends, hwalk, rfl, -, -, -⟩ := createFile_ok hc
  by_contra hsome
  obtain ⟨n, hn⟩ := Option.ne_none_iff_exists'.1 hsome
  have hstart : v.start path = t.start path := by simp only [start, hv.cwd]
  rw [hstart] at hwalk
  obtain ⟨front, back, hnames, ⟨d, hfront⟩, hup⟩ := hd
  -- the tree already had the directories down to the file
  have hreach : t.walk (t.start path) front' = .ok dir := by
    rw [hends.names] at hnames
    rcases List.eq_nil_or_concat back with rfl | ⟨back', s, rfl⟩
    · rw [List.append_nil] at hnames
      rw [← hnames, walk_append] at hfront
      cases hw : t.walk (t.start path) front' with
      | error e => rw [hw] at hfront; cases hfront
      | ok d' =>
        have hsame := hv.ext.walk hw
        rw [hwalk] at hsame
        cases hsame
        rfl
    · rw [List.concat_eq_append, ← List.append_assoc] at hnames
      have hsplit := List.append_inj_left' hnames rfl
      rw [hsplit, walk_append] at hwalk ⊢
      rw [hv.ext.walk hfront] at hwalk
      rw [hfront]
      refine walk_of_down ht hwalk (fun hm => hup ?_) hn
      simp [hm]
  have hplace := hends.place hreach (ht.above hn (by simp)) (by rw [hn]; rfl)
  rw [exists?, stat_eq_ok.2 ⟨_, hplace, hn⟩] at hfree
  cases hfree

end FileTree

end ClassSkeleton
