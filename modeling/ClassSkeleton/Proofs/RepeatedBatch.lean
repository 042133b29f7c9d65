import Mathlib.Data.List.Basic
import ClassSkeleton.Proofs.ArchiveListing
import ClassSkeleton.Proofs.FaultlessTurns
import ClassSkeleton.Proofs.FileCollisions
import ClassSkeleton.Proofs.LastingModels
import ClassSkeleton.Proofs.NamedClasses
import ClassSkeleton.Proofs.NamingPurity
import ClassSkeleton.Proofs.OrderlyDirectory
import ClassSkeleton.Proofs.SinkRequests
import ClassSkeleton.Proofs.SummaryFile

/-
  ClassSkeleton.Proofs.RepeatedBatch — a batch that is run again.

  The first run changes all that the second one reads: classes are cached, nests expanded, states set and members
  named. None of it changes what a candidate finds. The turn of a candidate lets the caches and the names last
  (`dumpMember_lasts`), so in any world that what a batch left lasts to, a candidate takes the turn it took in the
  batch (`turns_again`). The second run loads nothing that is missing, for all candidates are cached, and names
  classes that have their names, which changes nothing when no class is among its own ancestors (`enlist_lasts`). So
  both runs have the turns that their candidates would take in the world at the end (`batch_repeats`), unless the
  first one crashes the program: what came to an end once comes to an end again (`dumpMembers_again`).

  The summary of a batch has its head, the clashes among its candidates and the line for its report, if the outlet
  has nothing to add when it is asked for sinks (`decompileArchive_summary`), so summaries are the same too.
-/

namespace ClassSkeleton

/-! ## Archives whose entries parse -/

/-- The archive can be read, with these class entries, and they all parse. -/
structure FileTree.Parses (files : FileTree) (archive : Path) (entries : List (String × List UInt8)) : Prop where
  read : ∃ a, ClassArchive.load files archive = .ok a ∧ Cache.readEntries a = .ok entries
  parse : ∀ e ∈ entries, ∃ c, ClassFile.parse e.2 = .ok c

/-- The outlet has no notices of its own. -/
def Outlet.Tacit {σ : Type} (o : Outlet σ) : Prop := ∀ n t usage policy s, (o.acquire n t usage policy s).1.1 = []

/-- Nothing is kept from being overwritten, so there is nothing to say. -/
theorem Directory.outlet_tacit (root : Path) : (Directory.outlet root true).Tacit := by
  intro n t usage policy s
  rw [outlet_acquire]
  unfold acquire
  dsimp only
  rw [if_neg (by simp)]
  rcases s.files.createWithParents (root.join t.sourcePath) with ⟨e | p, files⟩ <;> rfl

namespace Cache

/-- The type of an entry that parses is cached once the entry is added. -/
theorem addEntries_cached {entries : List (String × List UInt8)} (hp : ∀ e ∈ entries, ∃ c, ClassFile.parse e.2 = .ok c)
    (path : Path) (c : Cache) {e : String × List UInt8} (he : e ∈ entries) :
    ∃ id, (entries.foldl (addEntry path) c).get? (entryType e) = some id := by
  obtain ⟨new, hadded⟩ := addEntries_added path c entries
  obtain ⟨classFile, hparse⟩ := hp e he
  have hclass : (e.1, classFile) ∈ classesIn entries := List.mem_filterMap.2 ⟨e, he, by simp [hparse, Except.toOption]⟩
  simpa [entryType, hparse] using hadded.cached hclass

theorem loadArchive_parses {files : FileTree} {archive : Path} {entries : List (String × List UInt8)}
    (h : files.Parses archive entries) (c : Cache) :
    (loadArchive files archive c).1 = .ok (firstOccurrences (entries.map entryType)) ∧
      ∀ t ∈ firstOccurrences (entries.map entryType), ∃ id, (loadArchive files archive c).2.get? t = some id := by
  obtain ⟨a, ha, hr⟩ := h.read
  simp only [loadArchive, ha, hr, true_and]
  intro t ht
  obtain ⟨e, he, rfl⟩ := List.mem_map.1 (mem_firstOccurrences.1 ht)
  obtain ⟨id, hid⟩ := addEntries_cached h.parse archive c he
  refine ⟨id, ?_⟩
  split
  · exact hid
  · exact hid

end Cache

theorem FileTree.Parses.congr {f g : FileTree} {archive : Path} {entries : List (String × List UInt8)}
    (h : f.Parses archive entries) (hs : g.SameClasses archive f) : g.Parses archive entries := by
  refine ⟨?_, h.parse⟩
  have hload : ClassArchive.load g archive = ClassArchive.load f archive := by simp only [ClassArchive.load, hs.archive]
  rw [hload]
  exact h.read

/-! ## Names -/

theorem Naming.resolve_again {classes : List ClassFile} (hd : (classes.map (·.thisClass)).Nodup)
    (ha : Acyclic classes) (rules : NamingRules) (n : Naming) :
    (n.resolve classes rules).resolve classes rules = n.resolve classes rules :=
  foldl_of_settled (resolve_settled hd ha rules n) _

namespace Session

variable {s r : Session} {nesting : Bool}

/-- The class files of the types that are cached. -/
def classesOf (s : Session) (ts : List TypeName) : List ClassFile :=
  ts.filterMap fun t => (s.cache.get? t).bind fun id => (s.cache.unit? id).map (·.classFile)

theorem nameBatch_naming (s : Session) (ts : List TypeName) :
    (s.nameBatch ts).naming =
      if s.options.renamesMembers then s.naming.resolve (s.classesOf ts) s.options.namingRules else s.naming := by
  unfold nameBatch
  split
  · rw [resolveNames, List.filterMap_filterMap]
    rfl
  · rfl

/-- Each type once, each class once. -/
theorem classesOf_nodup (hs : s.cache.Sound) {ts : List TypeName} (hd : ts.Nodup) :
    ((s.classesOf ts).map (·.thisClass)).Nodup := by
  refine List.Nodup.sublist ?_ hd
  induction ts with
  | nil => exact .slnil
  | cons t ts ih =>
    have hrest := ih (List.nodup_cons.1 hd).2
    unfold classesOf at hrest ⊢
    rw [List.filterMap_cons]
    split
    · exact .cons t hrest
    · next c hc =>
      obtain ⟨id, hid, hc⟩ := Option.bind_eq_some_iff.1 hc
      obtain ⟨u, hu, rfl⟩ := Option.map_eq_some_iff.1 hc
      obtain ⟨u', hu', rfl⟩ := (hs.index t id).1 hid
      rw [hu] at hu'
      cases hu'
      rw [List.map_cons, (hs.declared id u hu).1]
      exact .cons_cons _ hrest

theorem classesOf_stays (hs : s.cache.Sound) (h : s.cache.Stays nesting r.cache) {ts : List TypeName}
    (hts : ∀ t ∈ ts, ∃ id, s.cache.get? t = some id) : r.classesOf ts = s.classesOf ts := by
  refine List.filterMap_congr fun t ht => ?_
  obtain ⟨id, hid⟩ := hts t ht
  obtain ⟨u, hu, -⟩ := (hs.index t id).1 hid
  obtain ⟨v, hv, huv⟩ := h.units id u hu
  rw [hid, h.index t id hid, Option.bind_some, Option.bind_some, hu, hv, Option.map_some, Option.map_some, huv.classFile]

theorem topLevel_stays (hs : s.cache.Sound) (h : s.cache.Stays nesting r.cache) {ts : List TypeName}
    (hts : ∀ t ∈ ts, ∃ id, s.cache.get? t = some id) : topLevel r ts = topLevel s ts := by
  refine List.filter_congr fun t ht => ?_
  obtain ⟨id, hid⟩ := hts t ht
  obtain ⟨u, hu, -⟩ := (hs.index t id).1 hid
  obtain ⟨v, hv, huv⟩ := h.units id u hu
  rw [hid, h.index t id hid, Option.any_some, Option.any_some, hu, hv, Option.any_some, Option.any_some, huv.isInner]

end Session

namespace World

variable {σ : Type} {o : Outlet σ} {archive : Path} {types : TypeName → Prop} {fit : Surroundings σ → Prop}
  {v w x : World σ} {t : TypeName} {ts : List TypeName}

/-! ## What lasts from world to world -/

/-- What preparations read of the session is in `x` as it was in `w`. -/
structure Lasts (w x : World σ) : Prop where
  cache : w.session.cache.Stays w.session.options.decompileInnerClasses x.session.cache
  naming : x.session.naming = w.session.naming
  options : x.session.options = w.session.options

theorem Lasts.refl (w : World σ) : Lasts w w := ⟨.refl _ _, rfl, rfl⟩

theorem lasts_of_session (h : x.session = w.session) : Lasts w x := by
  refine ⟨?_, by rw [h], by rw [h]⟩
  rw [h]
  exact .refl _ _

theorem Lasts.trans (h : Lasts w v) (h' : Lasts v x) : Lasts w x := by
  have hcache := h'.cache
  rw [h.options] at hcache
  exact ⟨h.cache.trans hcache, h'.naming.trans h.naming, h'.options.trans h.options⟩

/-- All candidates are cached. -/
def Cached (w : World σ) (ts : List TypeName) : Prop := ∀ t ∈ ts, ∃ id, w.session.cache.get? t = some id

theorem Cached.lasts (h : Cached w ts) (hx : Lasts w x) : Cached x ts := by
  intro t ht
  obtain ⟨id, hid⟩ := h t ht
  exact ⟨id, hx.cache.index t id hid⟩

/-- The turn of a candidate lets what its preparation left stay. -/
theorem prepared_stays (o : Outlet σ) (archive : Path) (t : TypeName) (hl : w.session.options.lowMemory = false)
    (nesting : Bool) :
    (w.session.prepare w.around.files t).2.cache.Stays nesting (dumpMember o archive t w).2.session.cache := by
  have ho := w.session.prepare_options w.around.files t
  rcases hp : w.session.prepare w.around.files t with ⟨p, s⟩
  have hd := dumpMember_session o archive t w
  rw [hp] at hd ho
  rcases hd with hd | ⟨id, m, rfl, hd⟩
  · rw [hd]
    exact .refl _ _
  · rw [hd]
    have hfinish : s.finishMember id = s.markDumped id := by
      have hkeep : (s.markDumped id).options.lowMemory = false := by
        show s.options.lowMemory = false
        rw [ho]
        exact hl
      simp only [Session.finishMember, hkeep, Bool.false_eq_true, if_false]
    rw [hfinish]
    -- a unit with a model is not released, and neither is one that is dumped
    refine .modify s.cache fun u hu => ⟨rfl, ?_, rfl, fun h => ⟨rfl, h⟩⟩
    exact (Session.prepare_unreleased hp hu).symm

theorem dumpMember_lasts (o : Outlet σ) (archive : Path) (hs : w.session.Good)
    (hl : w.session.options.lowMemory = false) (ht : ∃ id, w.session.cache.get? t = some id) :
    Lasts w (dumpMember o archive t w).2 := by
  obtain ⟨id, hid⟩ := ht
  exact ⟨(Session.prepare_stays hid _).trans (prepared_stays o archive t hl _),
    (after_steps o archive [t] hs).2, dumpMember_options o archive t w⟩

/-- A session as runs leave it, that keeps what it loads. -/
structure Retaining (w : World σ) : Prop where
  good : w.session.Good
  expanded : w.session.cache.Expanded
  memory : w.session.options.lowMemory = false

theorem Retaining.dumpMember (h : Retaining w) (o : Outlet σ) (archive : Path) (t : TypeName) :
    Retaining (dumpMember o archive t w).2 := by
  obtain ⟨hreach, -⟩ := after_steps o archive [t] h.good
  exact ⟨h.good.reaches hreach, hreach.expanded h.good h.expanded, by rw [dumpMember_options]; exact h.memory⟩

theorem Retaining.after (h : Retaining w) (o : Outlet σ) (archive : Path) (ts : List TypeName) :
    Retaining (after o archive ts w) := by
  induction ts generalizing w with
  | nil => exact h
  | cons t ts ih => exact ih (h.dumpMember o archive t)

theorem Retaining.of_session (h : Retaining w) (hs : x.session = w.session) : Retaining x := by
  obtain ⟨hgood, hexpanded, hmemory⟩ := h
  rw [← hs] at hgood hexpanded hmemory
  exact ⟨hgood, hexpanded, hmemory⟩

theorem after_lasts (o : Outlet σ) (archive : Path) (ts : List TypeName) (h : Retaining w) (hts : Cached w ts) :
    Lasts w (after o archive ts w) := by
  induction ts generalizing w with
  | nil => exact .refl w
  | cons t ts ih =>
    have hone := dumpMember_lasts o archive h.good h.memory (hts t List.mem_cons_self)
    have hrest : Cached w ts := fun s hs => hts s (List.mem_cons_of_mem _ hs)
    exact hone.trans (ih (h.dumpMember o archive t) (hrest.lasts hone))

/-- In a world that what was left of its turn lasts to, and in which the program is running, a candidate takes the
same turn, and the program goes on. -/
theorem turnBy_again (o : Outlet σ) (archive : Path) (h : Retaining w) (ht : ∃ id, w.session.cache.get? t = some id)
    (hdone : (w.session.prepare w.around.files t).2.cache.crash = none) (hx : Lasts (dumpMember o archive t w).2 x)
    (hr : x.crash = none) (script : Script) :
    turnBy script x t = turnBy script w t ∧ (x.session.prepare x.around.files t).2.cache.crash = none := by
  have hall := (dumpMember_lasts o archive h.good h.memory ht).trans hx
  obtain ⟨id, hid⟩ := ht
  have hstay := hx.cache
  rw [dumpMember_options] at hstay
  obtain ⟨hprep, hend⟩ : (x.session.prepare x.around.files t).1 = (w.session.prepare w.around.files t).1 ∧
      (x.session.prepare x.around.files t).2.cache.crash = none :=
    Session.prepare_again h.good h.expanded hid ((prepared_stays o archive t h.memory _).trans hstay) hall.naming
      hall.options hdone hr
  refine ⟨?_, hend⟩
  have hloaded : (w.session.prepare w.around.files t).2.cache.get? t = some id :=
    (Session.prepare_stays hid _).index t id hid
  have hloaded' : (x.session.prepare x.around.files t).2.cache.get? t = some id :=
    (Session.prepare_stays (hall.cache.index t id hid) _).index t id (hall.cache.index t id hid)
  rw [turnBy, turnBy, hprep, hall.options, hloaded, hloaded']

/-! ## The summary -/

/-- What is in the summary of a batch when the outlet has no notices of its own and the program does not crash. -/
theorem decompileArchive_summary (h : o.Tacit) (archive : Path) (ho : (o.openSummary w.around).1 = .ok ())
    (hw : w.book.current = none) (hc : (decompileArchive o archive w).2.crash = none) :
    (decompileArchive o archive w).2.book = ⟨w.book.closed ++ [summaryHead archive ++
      (headed o archive w).clashes archive ++ [summaryEnd (decompileArchive o archive w).1]], none⟩ := by
  obtain ⟨said, hsaid, hbook⟩ := decompileArchive_lines archive ho hw
  have hnone : said = [] := List.eq_nil_iff_forall_not_mem.2 fun text hm => by
    obtain ⟨n, t, usage, policy, s, hsays⟩ := hsaid text hm
    rw [h] at hsays
    cases hsays
  rw [hbook, hc, hnone, List.append_nil]
  rfl

/-! ## The second run -/

theorem candidates_parses {entries : List (String × List UInt8)} (hp : w.around.files.Parses archive entries) :
    w.candidates archive = (Cache.firstOccurrences (entries.map Cache.entryType)).filter
      w.session.options.archiveFilter.accepts := by
  obtain ⟨hl, -⟩ := Cache.loadArchive_parses hp w.session.cache
  unfold candidates
  rcases hc : Cache.loadArchive w.around.files archive w.session.cache with ⟨r, c⟩
  rw [hc] at hl
  cases hl
  rfl

/-- Once the archive is loaded its candidates are cached. -/
theorem loaded_cached {entries : List (String × List UInt8)} (hp : w.around.files.Parses archive entries) :
    ∀ t ∈ w.candidates archive, ∃ id, (w.loaded archive).cache.get? t = some id := by
  intro t ht
  rw [candidates_parses hp] at ht
  exact (Cache.loadArchive_parses hp w.session.cache).2 t (List.mem_filter.1 ht).1

theorem enlist_cached (o : Outlet σ) {entries : List (String × List UInt8)}
    (hp : w.around.files.Parses archive entries) : Cached (enlist o archive w).2 (w.candidates archive) := by
  obtain ⟨hl, -⟩ := Cache.loadArchive_parses hp w.session.cache
  unfold Cached
  rw [(enlist_session o archive w hl).2, Session.nameBatch_cache]
  exact loaded_cached hp

theorem enlist_retaining (o : Outlet σ) (archive : Path) (h : Retaining w) : Retaining (enlist o archive w).2 := by
  have hreach := enlist_reaches o archive w
  exact ⟨h.good.reaches hreach, hreach.expanded h.good h.expanded, by rw [enlist_options]; exact h.memory⟩

theorem enlist_naming (o : Outlet σ) {entries : List (String × List UInt8)}
    (hp : w.around.files.Parses archive entries) :
    (enlist o archive w).2.session.naming =
      if w.session.options.renamesMembers then
        w.session.naming.resolve ((w.loaded archive).classesOf (w.candidates archive)) w.session.options.namingRules
      else w.session.naming := by
  obtain ⟨hl, -⟩ := Cache.loadArchive_parses hp w.session.cache
  rw [(enlist_session o archive w hl).2, Session.nameBatch_naming]
  rfl

/-- Candidates that were listed before, and are named as they were then, are listed without a change. -/
theorem enlist_lasts (o : Outlet σ) {entries : List (String × List UInt8)} (h : Retaining w)
    (hp : w.around.files.Parses archive entries) (hx : Lasts (enlist o archive w).2 x)
    (hpx : x.around.files.Parses archive entries)
    (ha : Naming.Acyclic ((w.loaded archive).classesOf (w.candidates archive))) :
    x.candidates archive = w.candidates archive ∧ x.clashes archive = w.clashes archive ∧
      Lasts x (enlist o archive x).2 := by
  have hoptions : x.session.options = w.session.options := hx.options.trans (enlist_options o archive w)
  have hcands : x.candidates archive = w.candidates archive := by
    rw [candidates_parses hp, candidates_parses hpx, hoptions]
  obtain ⟨hl, -⟩ := Cache.loadArchive_parses hp w.session.cache
  obtain ⟨hlx, -⟩ := Cache.loadArchive_parses hpx x.session.cache
  have hsound : (w.loaded archive).cache.Sound :=
    (Cache.Advances.loadArchive h.good.sound h.good.faithful w.around.files.any archive).sound
  have hgrown (nesting : Bool) : x.session.cache.Stays nesting (x.loaded archive).cache :=
    (Cache.Grows.loadArchive x.around.files archive x.session.cache).stays nesting
  have hstay := hx.cache
  rw [(enlist_session o archive w hl).2, Session.nameBatch_cache] at hstay
  have hloaded := hstay.trans (hgrown _)
  refine ⟨hcands, ?_, ?_, ?_, enlist_options o archive x⟩
  · rw [clashes, clashes, hcands, Session.topLevel_stays hsound hloaded (loaded_cached hp)]
  · rw [(enlist_session o archive x hlx).2, Session.nameBatch_cache]
    exact hgrown _
  · have hclasses : (x.loaded archive).classesOf (w.candidates archive) =
        (w.loaded archive).classesOf (w.candidates archive) :=
      Session.classesOf_stays hsound hloaded (loaded_cached hp)
    have hnaming := hx.naming
    rw [enlist_naming o hp] at hnaming
    rw [enlist_naming o hpx, hcands, hclasses, hoptions]
    split
    · next hr =>
      rw [if_pos hr] at hnaming
      rw [hnaming]
      exact Naming.resolve_again (Session.classesOf_nodup hsound (candidates_nodup w archive)) ha _ _
    · rfl

theorem loaded_congr (hs : v.session = w.session) (hf : v.around.files.SameClasses archive w.around.files) :
    v.loaded archive = w.loaded archive := by
  simp only [loaded, Cache.loadArchive_congr hf, hs]

/-- A running program in front of candidates that are cached. -/
structure Ready (fit : Surroundings σ → Prop) (ts : List TypeName) (w : World σ) : Prop where
  idle : Idle fit w
  retaining : Retaining w
  cached : Cached w ts
  alive : w.crash = none

theorem Ready.lasts (hw : Ready fit ts w) (o : Outlet σ) (archive : Path) : Lasts w (after o archive ts w) :=
  after_lasts o archive ts hw.retaining hw.cached

section Faultless

variable (h : o.Faultless archive types fit)

include h

/-- A turn that does not crash the program leaves it in front of the other candidates. -/
theorem Ready.turn (hw : Ready fit (t :: ts) w) (ht : types t)
    (hc : (w.session.prepare w.around.files t).2.cache.crash = none) :
    ∃ v, dumpMember o archive t w = (.ok (turnBy .sure w t).1, v) ∧ Lasts w v ∧ Ready fit ts v := by
  have hone := dumpMember_lasts o archive hw.retaining.good hw.retaining.memory (hw.cached t List.mem_cons_self)
  have hkeep := hw.retaining.dumpMember o archive t
  have ho := dumpMember_options o archive t w
  obtain ⟨v, hd, hv, -⟩ := dumpMember_scripted h.toFollows ht hw.idle.fits hw.idle.held hw.idle.memory hc
  rw [hd] at hone hkeep ho
  exact ⟨v, hd, hone, hv.idle hw.idle ho, hkeep,
    Cached.lasts (fun s hs => hw.cached s (List.mem_cons_of_mem t hs)) hone, dumpMember_alive hd hw.alive⟩

/-- In a world that what they left lasts to, candidates take the turns they took, in any order, and the program goes
on. -/
theorem turns_again (hts : ∀ t ∈ ts, types t) (hw : Ready fit ts w)
    (hdone : (dumpMembers o archive ts w).2.crash = none) (hx : Lasts (after o archive ts w) x) (hr : x.crash = none) :
    turns o archive ts w = ts.map (turnBy .sure x) ∧
      ∀ t ∈ ts, (x.session.prepare x.around.files t).2.cache.crash = none := by
  induction ts generalizing w with
  | nil => exact ⟨rfl, nofun⟩
  | cons t ts ih =>
    have hprep := prepare_alive_of_dumpMembers hw.alive hdone
    obtain ⟨v, hd, -, hv⟩ := hw.turn h (hts t List.mem_cons_self) hprep
    rw [dumpMembers_cons, hd] at hdone
    rw [after, List.foldl_cons, hd] at hx
    obtain ⟨hturn, hmine⟩ := turnBy_again o archive hw.retaining (hw.cached t List.mem_cons_self) hprep
      (by rw [hd]; exact (hv.lasts o archive).trans hx) hr .sure
    obtain ⟨hturns, hall⟩ := ih (fun s hs => hts s (List.mem_cons_of_mem t hs)) hv hdone hx
    rw [turns, List.map_cons, hturn, hd]
    refine ⟨congrArg _ hturns, fun s hs => ?_⟩
    rcases List.mem_cons.1 hs with rfl | hs
    · exact hmine
    · exact hall s hs

/-- Candidates that can be prepared in every world that `x` lasts to do not crash the program there. -/
theorem dumpMembers_again (hts : ∀ t ∈ ts, types t)
    (hall : ∀ y, Lasts x y → y.crash = none → ∀ t ∈ ts, (y.session.prepare y.around.files t).2.cache.crash = none)
    (hx : Lasts x w) (hw : Ready fit ts w) : (dumpMembers o archive ts w).2.crash = none := by
  induction ts generalizing w with
  | nil => exact hw.alive
  | cons t ts ih =>
    obtain ⟨v, hd, hlasts, hv⟩ := hw.turn h (hts t List.mem_cons_self) (hall w hx hw.alive t List.mem_cons_self)
    rw [dumpMembers_cons, hd]
    exact ih (fun s hs => hts s (List.mem_cons_of_mem t hs))
      (fun y hy hc s hs => hall y hy hc s (List.mem_cons_of_mem t hs)) (hx.trans hlasts) hv

/-- The beginning of a batch: the archive reads as it did before the head of the summary, and its candidates are next. -/
theorem begun_ready (hw : Idle fit w) (hk : Retaining w) (hr : w.crash = none) {entries : List (String × List UInt8)}
    (hp : w.around.files.Parses archive entries) :
    (headed o archive w).around.files.Parses archive entries ∧
      (headed o archive w).candidates archive = w.candidates archive ∧
      (headed o archive w).loaded archive = w.loaded archive ∧
      Ready fit ((headed o archive w).candidates archive) (enlist o archive (headed o archive w)).2 := by
  have hhead : Quietly archive fit w (headed o archive w) := quietly_begun h.sparesOpen h.sparesNotify hw.fits
  have hlist : Quietly archive fit _ (enlist o archive _).2 := quietly_listed h.sparesNotify hhead.fits
  have hsession : (headed o archive w).session = w.session := rfl
  have hparse := hp.congr hhead.files
  have hread := (Cache.loadArchive_parses hparse (headed o archive w).session.cache).1
  have hkeep : Retaining (headed o archive w) := ⟨hk.good, hk.expanded, hk.memory⟩
  exact ⟨hparse, candidates_congr hsession hhead.files, loaded_congr hsession hhead.files,
    hlist.idle (hhead.idle hw rfl) (enlist_options o archive _), enlist_retaining o archive hkeep,
    enlist_cached o hparse, (enlist_crash hread o).trans hr⟩

end Faultless

/-- A batch that came to an end and the same batch again, from a world with nothing in hand. -/
theorem decompileArchive_again (h : o.Faultless archive types fit) (hw : Idle fit w) (hk : Retaining w)
    (hr : w.crash = none) {entries : List (String × List UInt8)} (hp : w.around.files.Parses archive entries)
    (hts : ∀ t ∈ w.candidates archive, types t)
    (ha : Naming.Acyclic ((w.loaded archive).classesOf (w.candidates archive)))
    (hend : (decompileArchive o archive w).2.crash = none) :
    ∃ report v₁ v₂, ∃ texts : TypeName → List String, ∃ lines, decompileArchive o archive w = (.ok report, v₁) ∧
      decompileArchive o archive v₁ = (.ok report, v₂) ∧
      (∀ t, Event.textsFor v₁.trace t = Event.textsFor w.trace t ++ texts t ∧
        Event.textsFor v₂.trace t = Event.textsFor v₁.trace t ++ texts t) ∧
      (o.Tacit → w.book.current = none → v₁.book = ⟨w.book.closed ++ [lines], none⟩ ∧
        v₂.book = ⟨v₁.book.closed ++ [lines], none⟩) := by
  have hopen₁ := h.openSummary _ hw.fits
  obtain ⟨hp₁, hcands₁, hloaded₁, hready₁⟩ := begun_ready h hw hk hr hp
  have hkeep : Retaining (headed o archive w) := ⟨hk.good, hk.expanded, hk.memory⟩
  rw [← hloaded₁, ← hcands₁] at ha
  rw [← hcands₁] at hts
  obtain ⟨v₁, hrun₁, hidle₁, hfiles, hsession₁, htexts₁⟩ :=
    decompileArchive_faultless h hw hr hts (Cache.loadArchive_parses hp _).1 hend
  have hdone₁ := (decompileArchive_crash hopen₁ (Cache.loadArchive_parses hp₁ _).1).symm.trans hend
  rw [hrun₁] at hend
  -- what the first run left lasts to the second one
  have hopen₂ := h.openSummary _ hidle₁.fits
  have hpv : v₁.around.files.Parses archive entries := hp.congr hfiles
  obtain ⟨hp₂, -, -, hready₂⟩ :=
    begun_ready h hidle₁ ((hready₁.retaining.after o archive _).of_session hsession₁) hend hpv
  have hleft : Lasts _ (headed o archive v₁) := lasts_of_session hsession₁
  obtain ⟨hcands, hclashes, hlisted⟩ := enlist_lasts o hkeep hp₁ ((hready₁.lasts o archive).trans hleft) hp₂ ha
  rw [hcands] at hready₂
  -- so no candidate crashes the program there
  have hdone₂ := dumpMembers_again h hts
    (fun y hy hc => (turns_again h hts hready₁ hdone₁ ((hleft.trans hlisted).trans hy) hc).2) (.refl _) hready₂
  have hend₂ : (decompileArchive o archive v₁).2.crash = none := by
    rw [decompileArchive_crash hopen₂ (Cache.loadArchive_parses hp₂ _).1, hcands]
    exact hdone₂
  obtain ⟨v₂, hrun₂, -, -, hsession₂, htexts₂⟩ :=
    decompileArchive_faultless h hidle₁ hend (by rwa [hcands]) (Cache.loadArchive_parses hpv _).1 hend₂
  rw [hcands] at hrun₂ hsession₂ htexts₂
  -- in the world at the end every candidate takes the turn it took in both
  have hrunning : (after o archive ((headed o archive w).candidates archive)
      (enlist o archive (headed o archive v₁)).2).crash = none := by
    rw [hrun₂] at hend₂
    rw [crash, ← hsession₂]
    exact hend₂
  have hturns₁ :=
    (turns_again h hts hready₁ hdone₁ ((hleft.trans hlisted).trans (hready₂.lasts o archive)) hrunning).1
  have hturns₂ := (turns_again h hts hready₂ hdone₂ (.refl _) hrunning).1
  rw [hturns₁] at hrun₁ htexts₁
  rw [hturns₂] at hrun₂ htexts₂
  refine ⟨_, v₁, v₂, _, summaryHead archive ++ (headed o archive w).clashes archive ++
    [summaryEnd (decompileArchive o archive w).1], hrun₁, hrun₂, fun t => ⟨htexts₁ t, htexts₂ t⟩, fun htacit hbook => ?_⟩
  have hlines₁ := decompileArchive_summary htacit archive hopen₁ hbook (by rw [hrun₁]; exact hend)
  rw [hrun₁] at hlines₁
  have hlines₂ := decompileArchive_summary htacit archive hopen₂ (by rw [hlines₁]) hend₂
  rw [hrun₂, hclashes] at hlines₂
  rw [hrun₁]
  exact ⟨hlines₁, hlines₂⟩

/-- A batch that is run again, in a session that keeps what it loads and has whatever was done to it before: with an
outlet without faults, all class entries of the archive parsing and no candidate among its own ancestors, the report
is the same and the sinks take the same texts once more. So does the summary, if the outlet adds nothing to it. That
is, unless the first run crashes the program, of a circle of nested classes or an entry that is too large. -/
theorem batch_repeats {files₀ files : FileTree} {options : Options} {first session : Session} {state : σ}
    (h : o.Faultless archive (· ∈ (start session files state).candidates archive) fit) (hfit : fit ⟨files, state⟩)
    (hstart : Session.start files₀ options = .ok first) (hreach : Session.Reaches FileTree.Any first session)
    (hmemory : session.options.lowMemory = false) (hr : session.cache.crash = none)
    {entries : List (String × List UInt8)} (hparse : files.Parses archive entries)
    (hacyclic : Naming.Acyclic (((start session files state).loaded archive).classesOf
      ((start session files state).candidates archive))) :
    ((decompileArchive o archive (start session files state)).2.crash = none → ∃ report v₁ v₂,
      decompileArchive o archive (start session files state) = (.ok report, v₁) ∧
      decompileArchive o archive v₁ = (.ok report, v₂) ∧
      (∀ t, Event.textsFor v₂.trace t = Event.textsFor v₁.trace t ++ Event.textsFor v₁.trace t) ∧
      (o.Tacit → ∃ lines, v₁.book.closed = [lines] ∧ v₂.book.closed = [lines, lines])) ∧
    ∀ cause, (decompileArchive o archive (start session files state)).2.crash = some cause → ∃ earlier,
      Fell o archive (start session files state) cause earlier
        (decompileArchive o archive (start session files state)).2 := by
  have hgood := Session.start_isGood hstart
  have hkeep : Retaining (start session files state) :=
    ⟨hgood.reaches hreach, hreach.expanded hgood (Session.start_expanded hstart), hmemory⟩
  have hidle : Idle fit (start session files state) := ⟨hfit, hmemory, rfl, fun e he => by cases he⟩
  refine ⟨fun hend => ?_, fun cause hc => ((batch_accounts o archive _).2.2.2 cause hc hr).1⟩
  obtain ⟨report, v₁, v₂, texts, lines, hrun₁, hrun₂, htexts, hlines⟩ :=
    decompileArchive_again h hidle hkeep hr hparse (fun _ ht => ht) hacyclic hend
  refine ⟨report, v₁, v₂, hrun₁, hrun₂, fun t => ?_, fun htacit => ⟨lines, ?_⟩⟩
  · obtain ⟨h₁, h₂⟩ := htexts t
    have hnothing : Event.textsFor (start session files state).trace t = [] := rfl
    rw [h₂, h₁, hnothing, List.nil_append]
  · obtain ⟨h₁, h₂⟩ := hlines htacit rfl
    have hnothing : (start session files state).book.closed = [] := rfl
    rw [h₂, h₁, hnothing]
    exact ⟨rfl, rfl⟩

end World

/-! ## An archive with a nested class -/

/-- Whether the archive can be read and all its class entries parse. -/
def FileTree.parsesAll (files : FileTree) (archive : Path) : Bool :=
  match ClassArchive.load files archive with
  | .error _ => false
  | .ok a =>
    match Cache.readEntries a with
    | .error _ => false
    | .ok entries => entries.all fun e => (ClassFile.parse e.2).toOption.isSome

theorem FileTree.parses_of_parsesAll {files : FileTree} {archive : Path} (h : files.parsesAll archive = true) :
    ∃ entries, files.Parses archive entries := by
  unfold parsesAll at h
  split at h
  · cases h
  next a ha =>
  split at h
  · cases h
  next entries hr =>
  refine ⟨entries, ⟨a, ha, hr⟩, fun e he => ?_⟩
  have hp := List.all_eq_true.1 h e he
  cases hparse : ClassFile.parse e.2 with
  | error e' => rw [hparse] at hp; cases hp
  | ok c => exact ⟨c, rfl⟩

theorem Naming.acyclic_of_rootless {classes : List ClassFile} (h : classes.all (·.supertypes.isEmpty) = true) :
    Acyclic classes := by
  refine acyclic_of_rank (fun _ => 0) fun a b hab => ?_
  obtain ⟨c, hc, -, -, -, -, hm⟩ := hab
  rw [List.isEmpty_iff.1 (List.all_eq_true.1 h c hc)] at hm
  cases hm

namespace Directory

/-- The archive of `A` and `A$B`, and a directory for the sources. -/
def nestFiles : FileTree := ⟨[(["n.jar"], .file Memory.nest), (["out"], .dir)], []⟩

/-- Before the batch over the archive, in a session that renames duplicates and whose filter accepts `A` only. -/
def nestStart : World DirectoryState := .start Memory.nestStart.session nestFiles .start

theorem nestStart_begins : Session.start nestFiles Memory.nestStart.session.options = .ok nestStart.session := rfl

/-- In front of the candidate, with the head of the summary written. -/
def nestListed : World DirectoryState :=
  (World.enlist (outlet ⟨"out"⟩ true) ⟨"n.jar"⟩ (World.headed (outlet ⟨"out"⟩ true) ⟨"n.jar"⟩ nestStart)).2

set_option maxRecDepth 4000 in
/-- What is in the archive, and that the nest of `A` has a bottom. -/
theorem nestFiles_read :
    nestFiles.parsesAll ⟨"n.jar"⟩ = true ∧ nestStart.candidates ⟨"n.jar"⟩ = [⟨"A"⟩] ∧
      ((nestStart.loaded ⟨"n.jar"⟩).classesOf (nestStart.candidates ⟨"n.jar"⟩)).all (·.supertypes.isEmpty) = true ∧
      (nestListed.session.modelWithin nestListed.around.files 3 ⟨"A"⟩).isSome = true := by
  decide +kernel

theorem nestFiles_orderly :
    Orderly ⟨"out"⟩ ⟨"n.jar"⟩ (· ∈ nestStart.candidates ⟨"n.jar"⟩) ⟨nestFiles, DirectoryState.start⟩ where
  plain := FileTree.plain_of_nodes fun p hp => by
    obtain rfl : p = ["out"] := by simpa [nestFiles] using hp
    exact Place.not_isOutput rfl (by decide) (by decide)
  archive := ⟨["n.jar"], .file Memory.nest, by decide +kernel, rfl,
    Place.not_isOutput rfl (by decide) (by decide)⟩
  sources t ht := by
    rw [nestFiles_read.2.1] at ht
    obtain rfl := List.mem_singleton.1 ht
    decide +kernel
  summary := by decide +kernel
  sinks n p hp := by cases hp
  notices p hp := by cases hp

/-- The candidate does not crash the program. -/
theorem nestStart_alive : (World.decompileArchive (outlet ⟨"out"⟩ true) ⟨"n.jar"⟩ nestStart).2.crash = none := by
  obtain ⟨hparses, hsole, -, hmodel⟩ := nestFiles_read
  obtain ⟨entries, hparse⟩ := FileTree.parses_of_parsesAll hparses
  have hfaultless := outlet_faultless ⟨"out"⟩ ⟨"n.jar"⟩ (· ∈ nestStart.candidates ⟨"n.jar"⟩)
  have hidle : World.Idle (Orderly ⟨"out"⟩ ⟨"n.jar"⟩ (· ∈ nestStart.candidates ⟨"n.jar"⟩)) nestStart :=
    ⟨nestFiles_orderly, rfl, rfl, fun e he => by cases he⟩
  have hkeep : World.Retaining nestStart := ⟨Memory.nestStart_good, Session.start_expanded nestStart_begins, rfl⟩
  obtain ⟨hp, hcands, -, hready⟩ := World.begun_ready hfaultless hidle hkeep rfl hparse
  rw [hsole] at hcands
  rw [hcands, ← nestListed] at hready
  obtain ⟨m, hm⟩ := Option.isSome_iff_exists.1 hmodel
  have hnests : nestListed.session.options.decompileInnerClasses = true := by
    rw [nestListed, World.enlist_options]
    rfl
  obtain ⟨id, s, hbuilt⟩ := Session.prepare_of_modelWithin hnests hm
  have hc : (nestListed.session.prepare nestListed.around.files ⟨"A"⟩).2.cache.crash = none := by
    rw [hbuilt]
    exact Session.prepare_alive hbuilt
  obtain ⟨v, hd, -, hv⟩ := hready.turn hfaultless (by rw [hsole]; simp) hc
  rw [World.decompileArchive_crash (hfaultless.openSummary _ hidle.fits) (Cache.loadArchive_parses hp _).1, hcands,
    ← nestListed, World.dumpMembers_cons, hd]
  exact hv.alive

end Directory

/-- The archive of `A` and `A$B` twice, into one directory. -/
theorem World.batch_repeats_of_nest :
    ∃ report v₁ v₂,
      decompileArchive (Directory.outlet ⟨"out"⟩ true) ⟨"n.jar"⟩ Directory.nestStart = (.ok report, v₁) ∧
      decompileArchive (Directory.outlet ⟨"out"⟩ true) ⟨"n.jar"⟩ v₁ = (.ok report, v₂) ∧
      (∀ t, Event.textsFor v₂.trace t = Event.textsFor v₁.trace t ++ Event.textsFor v₁.trace t) ∧
      ∃ lines, v₁.book.closed = [lines] ∧ v₂.book.closed = [lines, lines] := by
  obtain ⟨hparses, -, hrootless, -⟩ := Directory.nestFiles_read
  obtain ⟨entries, hparse⟩ := FileTree.parses_of_parsesAll hparses
  obtain ⟨report, v₁, v₂, hrun₁, hrun₂, htexts, hlines⟩ :=
    (batch_repeats (Directory.outlet_faultless _ _ _) Directory.nestFiles_orderly Directory.nestStart_begins (.refl _)
      rfl rfl hparse (Naming.acyclic_of_rootless hrootless)).1 Directory.nestStart_alive
  exact ⟨report, v₁, v₂, hrun₁, hrun₂, htexts, hlines (Directory.outlet_tacit _)⟩

end ClassSkeleton
