import Mathlib.Data.String.Basic
import ClassSkeleton.Proofs.FaultlessTurns
import ClassSkeleton.Proofs.SinkRequests
import ClassSkeleton.Proofs.SummaryFile

/-
  ClassSkeleton.Proofs.FileCollisions — notices of files that differ in case only.

  Candidates are put into groups one after another. Whatever their number, a table of groups has for every folded path
  the candidates with that path, in the order they came, and its paths ascend (`Grouped`); adding a candidate keeps that
  (`Grouped.add`). The groups of two or more are the notices, so the groups a batch reports are told by the candidates
  alone (`CollisionGroups`). Only candidates that are `Listed`, that is cached and not nested, take part.

  In the summary of a batch the notices stand right behind the head, and between them and the last line there is nothing
  but what the outlet says when it is asked for sinks (`decompileArchive_lines`). `collision_notices_exact` puts both
  together.
-/

namespace ClassSkeleton

/-! ## Groups -/

section Groups

variable {groups : Table String (List TypeName)} {t u : TypeName} {path : String} {types : List TypeName}

/-- The group of a path, which is empty when there is none. -/
def groupOf (groups : Table String (List TypeName)) (path : String) : List TypeName := (groups.get? path).getD []

/-- The paths of the groups ascend. -/
def Ascending (groups : Table String (List TypeName)) : Prop := groups.Pairwise fun g h => g.1 < h.1

theorem get?_of_lt {key : String} (h : ∀ g ∈ groups, key < g.1) : groups.get? key = none := by
  rcases hg : groups.get? key with _ | group
  · rfl
  · exact absurd (h _ (Table.mem_of_get? hg)) (lt_irrefl key)

theorem get?_of_mem {g : List TypeName} (h : Ascending groups) (hg : (path, g) ∈ groups) : groups.get? path = some g := by
  induction groups with
  | nil => cases hg
  | cons head rest ih =>
    obtain ⟨hhead, hrest⟩ := List.pairwise_cons.1 h
    rw [Table.get?]
    rcases List.mem_cons.1 hg with rfl | hg
    · exact if_pos rfl
    · rw [if_neg (hhead _ hg).ne, ih hrest hg]

theorem mem_addToGroups {g : String × List TypeName} (h : g ∈ addToGroups t groups) :
    g.1 = foldedPath t ∨ ∃ g' ∈ groups, g.1 = g'.1 := by
  induction groups with
  | nil =>
    rw [addToGroups, List.mem_singleton] at h
    exact .inl (by rw [h])
  | cons head rest ih =>
    obtain ⟨key, group⟩ := head
    rw [addToGroups] at h
    split at h
    · next he =>
      rcases List.mem_cons.1 h with rfl | h
      · exact .inl he.symm
      · exact .inr ⟨g, List.mem_cons_of_mem _ h, rfl⟩
    · split at h
      · rcases List.mem_cons.1 h with rfl | h
        · exact .inl rfl
        · exact .inr ⟨g, h, rfl⟩
      · rcases List.mem_cons.1 h with rfl | h
        · exact .inr ⟨_, List.mem_cons_self, rfl⟩
        · rcases ih h with h | ⟨g', hg, he⟩
          · exact .inl h
          · exact .inr ⟨g', List.mem_cons_of_mem _ hg, he⟩

theorem Ascending.add (h : Ascending groups) (t : TypeName) : Ascending (addToGroups t groups) := by
  induction groups with
  | nil => exact List.pairwise_singleton ..
  | cons head rest ih =>
    obtain ⟨key, group⟩ := head
    obtain ⟨hkey, hrest⟩ := List.pairwise_cons.1 h
    rw [addToGroups]
    split
    · exact List.pairwise_cons.2 ⟨hkey, hrest⟩
    next hne =>
    split
    · next hle =>
      have hlt : foldedPath t < key := lt_of_le_of_ne hle hne
      refine List.pairwise_cons.2 ⟨fun g hg => ?_, h⟩
      rcases List.mem_cons.1 hg with rfl | hg
      · exact hlt
      · exact hlt.trans (hkey g hg)
    · next hle =>
      have hlt : key < foldedPath t := not_le.1 hle
      refine List.pairwise_cons.2 ⟨fun g hg => ?_, ih hrest⟩
      rcases mem_addToGroups hg with he | ⟨g', hg', he⟩
      · exact he ▸ hlt
      · exact he ▸ hkey g' hg'

/-- The group of its path gets the type at the end, and no other group changes. -/
theorem get?_addToGroups (h : Ascending groups) (t : TypeName) (path : String) :
    Table.get? (addToGroups t groups) path =
      if foldedPath t = path then some (groupOf groups path ++ [t]) else groups.get? path := by
  induction groups with
  | nil => rfl
  | cons head rest ih =>
    obtain ⟨key, group⟩ := head
    obtain ⟨hkey, hrest⟩ := List.pairwise_cons.1 h
    rw [addToGroups]
    split
    · next he =>
      subst he
      simp only [Table.get?, groupOf]
      split <;> simp_all
    next hne =>
    split
    · next hle =>
      have hlt : foldedPath t < key := lt_of_le_of_ne hle hne
      have hnone : Table.get? ((key, group) :: rest) (foldedPath t) = none := get?_of_lt fun g hg => by
        rcases List.mem_cons.1 hg with rfl | hg
        · exact hlt
        · exact hlt.trans (hkey g hg)
      rw [Table.get?]
      split
      · next he => rw [← he, groupOf, hnone]; rfl
      · rfl
    · simp only [Table.get?, groupOf, ih hrest]
      split
      · next he => rw [if_neg (he ▸ hne)]
      · rfl

/-- The groups of types: for every path those that have it, in their order. -/
structure Grouped (types : List TypeName) (groups : Table String (List TypeName)) : Prop where
  ascending : Ascending groups
  group : ∀ path, groupOf groups path = types.filter (foldedPath · = path)
  nonempty : ∀ path, groups.get? path ≠ some []

theorem Grouped.add (h : Grouped types groups) (t : TypeName) : Grouped (types ++ [t]) (addToGroups t groups) := by
  refine ⟨h.ascending.add t, fun path => ?_, fun path => ?_⟩
  · rw [groupOf, get?_addToGroups h.ascending, List.filter_append, ← h.group]
    by_cases he : foldedPath t = path
    · simp [he]
    · simp [he, groupOf]
  · rw [get?_addToGroups h.ascending]
    split
    · simp
    · exact h.nonempty path

theorem grouped (types : List TypeName) : Grouped types (types.foldl (fun groups t => addToGroups t groups) []) := by
  induction types using List.reverseRecOn with
  | nil => exact ⟨.nil, fun _ => rfl, fun _ h => by cases h⟩
  | append_singleton types t ih =>
    rw [List.foldl_append]
    exact ih.add t

theorem Grouped.mem_iff (h : Grouped types groups) {g : List TypeName} :
    (path, g) ∈ groups ↔ g ≠ [] ∧ g = types.filter (foldedPath · = path) := by
  rw [← h.group path, groupOf]
  constructor
  · intro hg
    have hget := get?_of_mem h.ascending hg
    exact ⟨fun he => h.nonempty path (he ▸ hget), by rw [hget, Option.getD_some]⟩
  · rintro ⟨hne, he⟩
    rcases hget : groups.get? path with _ | group
    · exact absurd (he.trans (by rw [hget, Option.getD_none])) hne
    · rw [hget, Option.getD_some] at he
      exact he ▸ Table.mem_of_get? hget

/-! ## Groups of two or more -/

/-- The groups that notices are made of, as told by the types they are taken from. -/
structure CollisionGroups (types : List TypeName) (groups : List (List TypeName)) : Prop where
  /-- A group is two or more types with one folded path, all that have it and in their order. -/
  exact : ∀ g, g ∈ groups ↔ 2 ≤ g.length ∧ ∃ path, g = types.filter (foldedPath · = path)
  /-- A type that shares its folded path is named as often as it is there, and no other type is named. -/
  once : ∀ t, groups.flatten.count t =
    if 2 ≤ (types.filter (foldedPath · = foldedPath t)).length then types.count t else 0
  together : ∀ g ∈ groups, ∀ h ∈ groups, ∀ t ∈ g, ∀ u ∈ h, g = h ↔ foldedPath t = foldedPath u
  ordered : groups.Pairwise fun g h => ∀ t ∈ g, ∀ u ∈ h, foldedPath t < foldedPath u

theorem mem_group {g : List TypeName} (hg : g = types.filter (foldedPath · = path)) (ht : t ∈ g) :
    foldedPath t = path ∧ t ∈ types := by
  rw [hg, List.mem_filter] at ht
  exact ⟨of_decide_eq_true ht.2, ht.1⟩

/-- In groups whose paths ascend a type is in no group but its own. -/
theorem count_flatten {gs : List (List TypeName)} {g : List TypeName}
    (ho : gs.Pairwise fun g h => ∀ t ∈ g, ∀ u ∈ h, foldedPath t < foldedPath u) (hg : g ∈ gs) (ht : t ∈ g) :
    gs.flatten.count t = g.count t := by
  obtain ⟨before, after, rfl⟩ := List.append_of_mem hg
  obtain ⟨-, hafter, hbefore⟩ := List.pairwise_append.1 ho
  have hb : t ∉ before.flatten := fun hm => by
    obtain ⟨h, hh, hth⟩ := List.mem_flatten.1 hm
    exact lt_irrefl _ (hbefore h hh g List.mem_cons_self t hth t ht)
  have ha : t ∉ after.flatten := fun hm => by
    obtain ⟨h, hh, hth⟩ := List.mem_flatten.1 hm
    exact lt_irrefl _ ((List.pairwise_cons.1 hafter).1 h hh t ht t hth)
  rw [List.flatten_append, List.flatten_cons, List.count_append, List.count_append, List.count_eq_zero.2 hb,
    List.count_eq_zero.2 ha, Nat.zero_add, Nat.add_zero]

theorem mem_collisions {g : List TypeName} :
    g ∈ collisions types ↔ 2 ≤ g.length ∧ ∃ path, g = types.filter (foldedPath · = path) := by
  have hgrouped := grouped types
  simp only [collisions, List.mem_filter, List.mem_map, Prod.exists, exists_eq_right, hgrouped.mem_iff,
    decide_eq_true_eq]
  constructor
  · rintro ⟨⟨path, -, hg⟩, hlen⟩
    exact ⟨hlen, path, hg⟩
  · rintro ⟨hlen, path, hg⟩
    exact ⟨⟨path, List.ne_nil_of_length_pos (Nat.lt_of_succ_lt hlen), hg⟩, hlen⟩

theorem collisions_ordered (types : List TypeName) :
    (collisions types).Pairwise fun g h => ∀ t ∈ g, ∀ u ∈ h, foldedPath t < foldedPath u := by
  have hgrouped := grouped types
  refine List.Pairwise.filter _ (List.pairwise_map.2 (hgrouped.ascending.imp_of_mem ?_))
  intro g h hg hh hlt t ht u hu
  rw [(mem_group (hgrouped.mem_iff.1 hg).2 ht).1, (mem_group (hgrouped.mem_iff.1 hh).2 hu).1]
  exact hlt

theorem collisionGroups (types : List TypeName) : CollisionGroups types (collisions types) := by
  refine ⟨fun g => mem_collisions, fun t => ?_, ?_, collisions_ordered types⟩
  · by_cases ht : t ∈ types
    · split
      · next hlen =>
        have hmem : t ∈ types.filter (foldedPath · = foldedPath t) := List.mem_filter.2 ⟨ht, decide_eq_true rfl⟩
        rw [count_flatten (collisions_ordered types) (mem_collisions.2 ⟨hlen, _, rfl⟩) hmem]
        exact List.count_filter (decide_eq_true rfl)
      · next hlen =>
        refine List.count_eq_zero.2 fun hm => hlen ?_
        obtain ⟨g, hg, htg⟩ := List.mem_flatten.1 hm
        obtain ⟨hglen, path, rfl⟩ := mem_collisions.1 hg
        rwa [(mem_group rfl htg).1]
    · have hnone : t ∉ (collisions types).flatten := fun hm => by
        obtain ⟨g, hg, htg⟩ := List.mem_flatten.1 hm
        obtain ⟨-, path, he⟩ := mem_collisions.1 hg
        exact ht (mem_group he htg).2
      rw [List.count_eq_zero.2 hnone, List.count_eq_zero.2 ht, ite_self]
  · intro g hg h hh t ht u hu
    obtain ⟨-, p, hp⟩ := mem_collisions.1 hg
    obtain ⟨-, q, hq⟩ := mem_collisions.1 hh
    constructor
    · rintro rfl
      rw [(mem_group hp ht).1, (mem_group hp hu).1]
    · intro he
      rw [(mem_group hp ht).1, (mem_group hq hu).1] at he
      rw [hp, hq, he]

/-- Groups of different types name each of them once at most. -/
theorem collisions_nodup (h : types.Nodup) : (collisions types).flatten.Nodup := by
  rw [List.nodup_iff_count_le_one]
  intro t
  rw [(collisionGroups types).once]
  split
  · exact List.nodup_iff_count_le_one.1 h t
  · exact Nat.zero_le 1

end Groups

/-! ## Candidates that take part -/

/-- Cached, and not the class of a nested one. -/
def Session.Listed (s : Session) (t : TypeName) : Prop :=
  ∃ id u, s.cache.get? t = some id ∧ s.cache.unit? id = some u ∧ u.isInner = false

theorem Session.listed_iff {s : Session} {t : TypeName} :
    s.Listed t ↔ ((s.cache.get? t).any fun id => (s.cache.unit? id).any fun u => !u.isInner) = true := by
  simp only [Listed, Option.any_eq_true, Bool.not_eq_true', exists_and_left]

instance (s : Session) : DecidablePred s.Listed := fun _ => decidable_of_iff' _ Session.listed_iff

theorem topLevel_eq (s : Session) (candidates : List TypeName) :
    topLevel s candidates = candidates.filter fun t => s.Listed t :=
  List.filter_congr fun t _ => by rw [Bool.eq_iff_iff, decide_eq_true_eq, Session.listed_iff]

/-! ## The summary of a batch -/

/-- A text the outlet can have for the summary when it is asked for a sink. -/
def Outlet.Says {σ : Type} (o : Outlet σ) (text : String) : Prop :=
  ∃ n t usage policy s, text ∈ (o.acquire n t usage policy s).1.1

namespace World

open SummaryBook

variable {σ : Type} {o : Outlet σ} {w : World σ} {archive : Path}

/-- The notices of classes whose files differ in case only. -/
def clashes (w : World σ) (archive : Path) : List String :=
  (collisions (topLevel (w.loaded archive) (w.candidates archive))).map collisionNotice

theorem notices_book (o : Outlet σ) (texts : List String) {closed : List (List String)} {lines : List String}
    (hw : w.book = ⟨closed, some lines⟩) : (notices o texts w).2.book = ⟨closed, some (lines ++ texts)⟩ := by
  induction texts generalizing w lines with
  | nil => rw [List.append_nil]; exact hw
  | cons text texts ih =>
    have hone : (notice o text w).2.book = ⟨closed, some (lines ++ [text])⟩ := by
      rw [book_event (w := w) (e := .notice text) rfl, hw]
      rfl
    have hrest := ih hone
    rw [List.append_assoc, List.singleton_append] at hrest
    exact hrest

/-- A summary is open, with the given lines and behind them only what the outlet said. -/
def Added (o : Outlet σ) (closed : List (List String)) (lines : List String) (w : World σ) : Prop :=
  ∃ said, w.book = ⟨closed, some (lines ++ said)⟩ ∧ ∀ text ∈ said, o.Says text

theorem Added.noted {closed : List (List String)} {lines : List String} (h : Added o closed lines w) (summary : Bool)
    {texts : List String} (ht : ∀ text ∈ texts, o.Says text) : Added o closed lines (noted o summary texts w) := by
  obtain ⟨said, hbook, hsaid⟩ := h
  cases summary with
  | false => exact ⟨said, hbook, hsaid⟩
  | true =>
    refine ⟨said ++ texts, by rw [← List.append_assoc]; exact notices_book o texts hbook, fun text hm => ?_⟩
    exact (List.mem_append.1 hm).elim (hsaid text) (ht text)

/-- In the work on classes nobody but the outlet adds to the summary. -/
theorem upheldAtWork_added (o : Outlet σ) (closed : List (List String)) (lines : List String) :
    UpheldAtWork o (fun _ => True) (Added o closed lines) := by
  have event {v w : World σ} {e : Event} (hb : e.isBracket = false) (hn : ∀ text, e ≠ .notice text)
      (ht : v.trace = w.trace ++ [e]) (hw : Added o closed lines w) : Added o closed lines v := by
    obtain ⟨said, hbook, hsaid⟩ := hw
    exact ⟨said, by rw [book_event ht, enter_other hb hn, hbook], hsaid⟩
  have hrelease : Keeps (Added o closed lines) (release o) := by
    intro w hw
    rcases hh : w.held with - | n
    · rw [release_none o hh]
      exact hw
    · rw [release_some o hh]
      exact event rfl (fun _ he => by cases he) rfl hw
  refine ⟨fun _ hw => hw, ?_, ?_, ?_, hrelease, ?_⟩
  · intro e he w hw
    refine event ?_ ?_ rfl hw
    · cases e <;> first | rfl | cases he
    · rintro text rfl
      cases he
  · exact fun path context e w hw => event rfl (fun _ he => by cases he) rfl hw
  · intro text w hw
    rcases hh : w.held with - | n
    · rw [print_none o text hh]
      exact hw
    · rw [print_some o text hh]
      exact event rfl (fun _ he => by cases he) rfl hw
  · intro summary t usage policy _ w hw
    rw [acquire_apply]
    have hsays : ∀ text ∈ (o.acquire w.sinks t usage policy w.around).1.1, o.Says text :=
      fun text hm => ⟨_, _, _, _, _, hm⟩
    have hnoted := Added.noted (w := { w with around := (o.acquire w.sinks t usage policy w.around).2 }) hw summary hsays
    dsimp only
    split
    · exact event rfl (fun _ he => by cases he) rfl hnoted
    · exact hrelease _ (event rfl (fun _ he => by cases he) rfl hnoted)

/-- Loading an archive and naming its classes adds the notices of clashes; if it cannot be read there are none. -/
theorem enlist_book (o : Outlet σ) (archive : Path) {closed : List (List String)} {lines : List String}
    (hw : w.book = ⟨closed, some lines⟩) :
    (enlist o archive w).2.book = ⟨closed, some (lines ++ w.clashes archive)⟩ := by
  unfold clashes candidates loaded
  rcases hc : Cache.loadArchive w.around.files archive w.session.cache with ⟨r, c⟩
  cases r with
  | error e =>
    rw [enlist_unread hc]
    exact hw.trans (by rw [show collisions (topLevel _ []) = [] from rfl, List.map_nil, List.append_nil])
  | ok types =>
    rw [enlist_read hc]
    exact notices_book o _ hw

/-- The book after a batch: the open summary has got its last line and is closed. A crash leaves it open. -/
def Concludes (closed : List (List String)) (lines : List String) (r : Except DecompileError BatchReport)
    (w : World σ) : Prop :=
  w.book = if w.crash.isSome then ⟨closed, some lines⟩ else ⟨closed ++ [lines ++ [summaryEnd r]], none⟩

theorem closeBatch_concludes (o : Outlet σ) (archive : Path) (r : Except DecompileError BatchReport)
    {closed : List (List String)} {lines : List String} (hr : (release o w).2.book = ⟨closed, some lines⟩) :
    Concludes closed lines r (closeBatch o archive r w).2 := by
  rw [Concludes, closeBatch_crash]
  split
  · next hc =>
    rw [closeBatch_crashed o archive r hc]
    exact hr
  · next hc =>
    rw [Option.not_isSome_iff_eq_none] at hc
    exact closeBatch_book o archive r hc hr

/-- The summary of a batch: its head, the clashes, what the outlet says and the line for how it ended. -/
theorem decompileArchive_lines (archive : Path) (ho : (o.openSummary w.around).1 = .ok ()) (hw : w.book.current = none) :
    ∃ said, (∀ text ∈ said, o.Says text) ∧
      Concludes w.book.closed (summaryHead archive ++ (headed o archive w).clashes archive ++ said)
        (decompileArchive o archive w).1 (decompileArchive o archive w).2 := by
  have hb : (headBatch o archive (opening o w)).2 = headed o archive w := rfl
  have hlisted := enlist_book o archive (headed_book o archive hw)
  rw [decompileArchive_opening ho, dumpCollection_apply, hb]
  generalize hlines : summaryHead archive ++ (headed o archive w).clashes archive = lines at hlisted
  have hup := upheldAtWork_added o w.book.closed lines
  rcases he : enlist o archive (headed o archive w) with ⟨r, v⟩
  rw [he] at hlisted
  have hv : Added o w.book.closed lines v := ⟨[], by rw [List.append_nil]; exact hlisted, fun _ h => by cases h⟩
  cases r with
  | error e =>
    obtain ⟨said, hbook, hsaid⟩ := hup.release v hv
    exact ⟨said, hsaid, closeBatch_concludes o archive _ hbook⟩
  | ok ts =>
    have hd := (hup.dumpMembers vouches_trivial archive ts v ⟨trivial, hv⟩).2
    obtain ⟨said, hbook, hsaid⟩ := hup.release _ hd
    exact ⟨said, hsaid, closeBatch_concludes o archive _ hbook⟩

/-- Notices of files that differ in case only are exact. In any session and for any candidates the groups are those
of two or more listed candidates with one folded path, each candidate in its place in one of them, and the groups by
their path. A batch has a notice for each group of its candidates, which are different types, right behind the head of
its summary; what else is there up to the last line, which a crash keeps out, the outlet said. -/
theorem collision_notices_exact (o : Outlet σ) (archive : Path) :
    (∀ (s : Session) (candidates : List TypeName),
      CollisionGroups (candidates.filter fun t => s.Listed t) (collisions (topLevel s candidates))) ∧
    ∀ w : World σ, (o.openSummary w.around).1 = .ok () → w.book.current = none →
      let b := headed o archive w
      let groups := collisions (topLevel (b.loaded archive) (b.candidates archive))
      groups.flatten.Nodup ∧ ∃ said, (∀ text ∈ said, o.Says text) ∧
        Concludes w.book.closed (summaryHead archive ++ groups.map collisionNotice ++ said)
          (decompileArchive o archive w).1 (decompileArchive o archive w).2 := by
  refine ⟨fun s candidates => topLevel_eq s candidates ▸ collisionGroups _, fun w ho hw => ⟨?_, ?_⟩⟩
  · exact collisions_nodup ((candidates_nodup _ archive).filter _)
  · exact decompileArchive_lines archive ho hw

end World

/-! ## An archive with such files -/

namespace Memory

/-- An archive of three classes, `B`, `a` and `A`, without members. -/
def caseTwins : List UInt8 :=
  [80, 75, 3, 4, 20, 0, 0, 0, 0, 0, 0, 0, 0, 0, 3, 223, 72, 184, 31, 0, 0, 0, 31, 0, 0, 0, 7, 0, 0, 0, 66, 46, 99,
  108, 97, 115, 115, 202, 254, 186, 190, 0, 0, 0, 52, 0, 3, 1, 0, 1, 66, 7, 0, 1, 0, 33, 0, 2, 0, 0, 0, 0, 0, 0,
  0, 0, 0, 0, 80, 75, 3, 4, 20, 0, 0, 0, 0, 0, 0, 0, 0, 0, 81, 186, 136, 15, 31, 0, 0, 0, 31, 0, 0, 0, 7, 0, 0, 0,
  97, 46, 99, 108, 97, 115, 115, 202, 254, 186, 190, 0, 0, 0, 52, 0, 3, 1, 0, 1, 97, 7, 0, 1, 0, 33, 0, 2, 0, 0,
  0, 0, 0, 0, 0, 0, 0, 0, 80, 75, 3, 4, 20, 0, 0, 0, 0, 0, 0, 0, 0, 0, 97, 2, 206, 82, 31, 0, 0, 0, 31, 0, 0, 0,
  7, 0, 0, 0, 65, 46, 99, 108, 97, 115, 115, 202, 254, 186, 190, 0, 0, 0, 52, 0, 3, 1, 0, 1, 65, 7, 0, 1, 0, 33,
  0, 2, 0, 0, 0, 0, 0, 0, 0, 0, 0, 0, 80, 75, 1, 2, 20, 0, 20, 0, 0, 0, 0, 0, 0, 0, 0, 0, 3, 223, 72, 184, 31, 0,
  0, 0, 31, 0, 0, 0, 7, 0, 0, 0, 0, 0, 0, 0, 0, 0, 0, 0, 0, 0, 0, 0, 0, 0, 66, 46, 99, 108, 97, 115, 115, 80, 75,
  1, 2, 20, 0, 20, 0, 0, 0, 0, 0, 0, 0, 0, 0, 81, 186, 136, 15, 31, 0, 0, 0, 31, 0, 0, 0, 7, 0, 0, 0, 0, 0, 0, 0,
  0, 0, 0, 0, 0, 0, 68, 0, 0, 0, 97, 46, 99, 108, 97, 115, 115, 80, 75, 1, 2, 20, 0, 20, 0, 0, 0, 0, 0, 0, 0, 0,
  0, 97, 2, 206, 82, 31, 0, 0, 0, 31, 0, 0, 0, 7, 0, 0, 0, 0, 0, 0, 0, 0, 0, 0, 0, 0, 0, 136, 0, 0, 0, 65, 46, 99,
  108, 97, 115, 115, 80, 75, 5, 6, 0, 0, 0, 0, 3, 0, 3, 0, 159, 0, 0, 0, 204, 0, 0, 0, 0, 0]

/-- A world in which nothing was loaded, with that archive. Nested classes are left alone. -/
def caseTwinWorld : World State :=
  .start ⟨{ Options.default with decompileInnerClasses := false }, .empty, .empty⟩ ⟨[(["t.jar"], .file caseTwins)], []⟩ []

set_option maxRecDepth 4000 in
theorem caseTwinWorld_clashes :
    (World.headed (outlet .none) ⟨"t.jar"⟩ caseTwinWorld).clashes ⟨"t.jar"⟩ =
        ["Case-insensitive name collision: a, A"] ∧
      (World.decompileArchive (outlet .none) ⟨"t.jar"⟩ caseTwinWorld).2.crash = none := by
  decide +kernel

end Memory

/-- One notice for `a` and `A`, in the order they are in the archive, and none for `B`. -/
theorem World.collision_notices_exact_of_twins :
    let x := decompileArchive (Memory.outlet .none) ⟨"t.jar"⟩ Memory.caseTwinWorld
    ∃ said, (∀ text ∈ said, (Memory.outlet .none).Says text) ∧ x.2.book = ⟨[["Summary for t.jar",
      "Decompiled with " ++ versionLine, "Case-insensitive name collision: a, A"] ++ said ++ [summaryEnd x.1]], none⟩ := by
  obtain ⟨-, said, hsaid, hbook⟩ := (collision_notices_exact (Memory.outlet .none) ⟨"t.jar"⟩).2 Memory.caseTwinWorld
    rfl rfl
  obtain ⟨hclashes, halive⟩ := Memory.caseTwinWorld_clashes
  rw [clashes] at hclashes
  rw [hclashes, Concludes, if_neg (by rw [halive]; simp)] at hbook
  exact ⟨said, hsaid, hbook⟩

end ClassSkeleton
