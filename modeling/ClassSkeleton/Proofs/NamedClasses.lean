import ClassSkeleton.Proofs.FaultlessTurns
import ClassSkeleton.Proofs.PrintedTexts

/-
  ClassSkeleton.Proofs.NamedClasses — which of the printed classes were named.

  A batch names the candidates that were loaded, all at once and before the first of them is analysed. From then
  on candidates are prepared and finished, which leaves the names alone (`dumpMember_session`), and each text
  that is printed is a note or a piece of the listing of a model that a candidate was prepared with (`Presents`).

  Classes nested in a candidate are printed with it. They are looked for when the candidate has its turn, so they
  need not be candidates themselves. A class in the listing was named exactly when its type is a candidate that
  was loaded (`printed_classes_named`); one that the filter rejects is printed with the names of its class file
  (`nested_class_unnamed`).
-/

namespace ClassSkeleton

theorem ClassModel.build_type {c : ClassFile} {naming : Naming} {inner : List ClassModel} {m : ClassModel}
    (h : ClassModel.build c naming inner = .ok m) : m.type = c.thisClass := by
  simp only [build, bind, Except.bind] at h
  split at h
  · cases h
  split at h
  · cases h
  cases h
  rfl

/-! ## The session -/

namespace Session

variable {files : FileTree} {s s' : Session} {t : TypeName} {id : UnitId} {m : ClassModel}

/-- The model that comes of a preparation shows the unit of the type, in a session on the way, with the names as
they are. -/
theorem prepare_shows (h : s.prepare files t = (.built id m, s')) :
    ∃ between, Reaches FileTree.Any s between ∧ between.naming = s.naming ∧ between.Shows id m := by
  have hop : Reaches FileTree.Any s { s with cache := (Cache.resolveByIdentity files t s.cache).2 } :=
    (Step.cache files.any (.resolveByIdentity t)).reaches
  simp only [prepare] at h
  rcases hc : Cache.resolveByIdentity files t s.cache with ⟨r, c⟩
  rw [hc] at h hop
  cases r with
  | error e => cases h
  | ok found =>
    dsimp only at h
    split at h
    · cases h
    · rcases hx : ({ s with cache := c : Session }.loadInner files found).build found with ⟨r, s₁⟩
      rw [hx] at h
      cases r with
      | error e => cases h
      | ok built =>
        cases h
        exact ⟨_, hop.trans (loadInner_reaches files.any _ _), loadInner_naming .., (build_ok hx).1⟩

/-- The declaration is that of a class among the units, with the names of the session. -/
def Names (s : Session) (ids : List UnitId) (k : ClassModel) : Prop :=
  ∃ id ∈ ids, ∃ u inner, s.cache.unit? id = some u ∧ ClassModel.build u.classFile s.naming inner = .ok k

/-- A declaration inside a model that is shown later, under the same names, is that of one of the units exactly when
its type has one of them. -/
theorem names_iff {later : Session} (hs : s.Good) (hr : Reaches FileTree.Any s later)
    (hn : later.naming = s.naming) (hm : later.Shows id m) {depth : Nat} {k : ClassModel} (hk : k.Within depth m)
    (types : List TypeName) :
    s.Names (types.filterMap s.cache.get?) k ↔ k.type ∈ types ∧ (s.cache.get? k.type).isSome := by
  have hlater := hs.reaches hr
  have hadv := (hr.advances hs.sound hs.faithful).1
  have declared {s : Session} (hs : s.Good) {j : UnitId} {u : ClassUnit} {n : Naming} {inner : List ClassModel}
      (hu : s.cache.unit? j = some u) (hb : ClassModel.build u.classFile n inner = .ok k) : u.type = k.type := by
    rw [(hs.sound.declared j u hu).1, ClassModel.build_type hb]
  constructor
  · rintro ⟨i, hi, u, inner, hu, hb⟩
    obtain ⟨t, ht, hget⟩ := List.mem_filterMap.1 hi
    obtain ⟨u', hu', rfl⟩ := (hs.sound.index t i).1 hget
    rw [hu] at hu'
    cases hu'
    rw [← declared hs hu hb]
    exact ⟨ht, by rw [hget]; rfl⟩
  · rintro ⟨ht, hcached⟩
    obtain ⟨i, hi⟩ := Option.isSome_iff_exists.1 hcached
    obtain ⟨j, -, hshow⟩ := hm.within hk
    cases hshow with
    | @unit _ v inner _ hv hreleased hinner hb =>
      -- the type had its unit when names were given, and the unit is the one that is shown
      obtain ⟨u, hu, htype⟩ := (hs.sound.index _ _).1 hi
      obtain ⟨v', hv', hev⟩ := hadv.evolves.units i u hu
      obtain rfl : i = j := hlater.sound.unique hv' hv (by rw [hev.type, htype, declared hlater hv hb])
      rw [hv] at hv'
      cases hv'
      refine ⟨i, List.mem_filterMap.2 ⟨_, ht, hi⟩, u, inner, hu, ?_⟩
      rw [← (hev.intact hreleased).2, ← hn]
      exact hb

end Session

namespace World

variable {σ : Type} {o : Outlet σ} {archive : Path} {u v w : World σ}

/-! ## What a candidate prints -/

/-- Between `v` and `w` no texts but the given ones are printed. -/
def Prints (texts : String → Prop) (v w : World σ) : Prop :=
  ∃ more, w.trace = v.trace ++ more ∧ ∀ e ∈ more, ∀ text, e.printedText? = some text → texts text

theorem Prints.trans {texts : String → Prop} (h : Prints texts u v) (h' : Prints texts v w) : Prints texts u w := by
  obtain ⟨more, ht, hm⟩ := h
  obtain ⟨more', ht', hm'⟩ := h'
  refine ⟨more ++ more', by rw [ht', ht, List.append_assoc], fun e he => ?_⟩
  rcases List.mem_append.1 he with he | he
  · exact hm e he
  · exact hm' e he

theorem Prints.mono {texts texts' : String → Prop} (h : Prints texts v w) (hsub : ∀ text, texts text → texts' text) :
    Prints texts' v w := by
  obtain ⟨more, ht, hm⟩ := h
  exact ⟨more, ht, fun e he text hx => hsub text (hm e he text hx)⟩

theorem Speaks.prints {texts : String → Prop} (h : Speaks o texts v w) : Prints texts v w := h.trace

/-- A note of a failure. -/
def IsNote (text : String) : Prop := ∃ note, text = noteText note

/-- What is printed in the turn of a candidate. -/
def TurnText (w : World σ) (t : TypeName) (text : String) : Prop :=
  IsNote text ∨ ∃ id m s, w.session.prepare w.around.files t = (.built id m, s) ∧
    text ∈ memberPieces w.session.options.identifierPolicy m

theorem dumpMember_prints (o : Outlet σ) (archive : Path) (t : TypeName) (w : World σ) :
    Prints (TurnText w t) w (dumpMember o archive t w).2 := by
  have hinto : Prints (TurnText w t) w (dumpMemberInto o t w).2 := by
    have ho := w.session.prepare_options w.around.files t
    have ha : Speaks o (TurnText w t) w (announced w t) := .announced w t
    rw [dumpMemberInto_apply]
    rcases hp : w.session.prepare w.around.files t with ⟨p, s⟩
    rw [hp] at ho
    cases p with
    | unfound e => exact (Speaks.refl (o := o) w).prints
    | nested => exact (Speaks.refl (o := o) w).prints
    | unbuilt e => exact ha.prints
    | built id m =>
      have he : Speaks o (TurnText w t) ((announced w t).withSession s)
          (emitText o true t (Usage.collect m) s.options.identifierPolicy (memberPieces s.options.identifierPolicy m)
            ((announced w t).withSession s)).2 := by
        refine Speaks.emitText _ true t _ _ (fun piece hpiece => .inr ⟨id, m, s, hp, ?_⟩) _ (.refl _)
        rw [← ho]
        exact hpiece
      dsimp only
      rw [emitMember_apply, withSession_session]
      rcases hr : emitText o true t _ _ _ ((announced w t).withSession s) with ⟨r, v⟩
      rw [hr] at he
      have hprints : Prints (TurnText w t) w v := ha.prints.trans he.prints
      cases r <;> exact hprints
  rw [dumpMember_apply]
  rcases hd : dumpMemberInto o t w with ⟨r, v⟩
  rw [hd] at hinto
  cases r with
  | ok outcome => exact hinto
  | error e =>
    dsimp only
    split
    · exact hinto
    · have hx : Speaks o (TurnText w t) v (noteException archive (some (memberContext t)) e v).2 :=
        (Speaks.refl v).noteException archive _ e
      have hn : Speaks o (TurnText w t) _ (writeNote o t e.describe _).2 :=
        Speaks.writeNote _ t (.inl ⟨_, rfl⟩) _ (.refl (noteException archive (some (memberContext t)) e v).2)
      rcases hr : writeNote o t e.describe (noteException archive (some (memberContext t)) e v).2 with ⟨r, u⟩
      rw [hr] at hn
      have hprints := hinto.trans (hx.prints.trans hn.prints)
      cases r <;> exact hprints

/-! ## The candidates of a batch -/

/-- The model a candidate was prepared with when its turn came, after those in front of it. -/
def Presents (o : Outlet σ) (archive : Path) (w : World σ) (t : TypeName) (m : ClassModel) : Prop :=
  ∃ front back id s, w.candidates archive = front ++ t :: back ∧
    (after o archive front (enlist o archive w).2).session.prepare
      (after o archive front (enlist o archive w).2).around.files t = (.built id m, s)

theorem presents_first {t : TypeName} {ts : List TypeName} {id : UnitId} {m : ClassModel} {s : Session}
    (hc : w.candidates archive = t :: ts)
    (hp : (enlist o archive w).2.session.prepare (enlist o archive w).2.around.files t = (.built id m, s)) :
    Presents o archive w t m := ⟨[], ts, id, s, hc, hp⟩

theorem dumpMembers_prints (o : Outlet σ) (archive : Path) (ts : List TypeName) (w : World σ) :
    Prints (fun text => ∃ front t back, ts = front ++ t :: back ∧ TurnText (after o archive front w) t text) w
      (dumpMembers o archive ts w).2 := by
  induction ts generalizing w with
  | nil => exact ⟨[], (List.append_nil _).symm, fun e he => by cases he⟩
  | cons t ts ih =>
    have hone := (dumpMember_prints o archive t w).mono fun text ht =>
      (⟨[], t, ts, rfl, ht⟩ : ∃ front t' back, t :: ts = front ++ t' :: back ∧ TurnText (after o archive front w) t' text)
    rw [dumpMembers_cons]
    rcases hd : dumpMember o archive t w with ⟨r, v⟩
    rw [hd] at hone
    cases r with
    | error e => exact hone
    | ok outcome =>
      refine hone.trans ((ih v).mono fun text => ?_)
      rintro ⟨front, t', back, rfl, ht⟩
      refine ⟨t :: front, t', back, rfl, ?_⟩
      have hafter : after o archive (t :: front) w = after o archive front v := by
        rw [after, List.foldl_cons, hd]
        rfl
      rw [hafter]
      exact ht

theorem enlist_prints (o : Outlet σ) (archive : Path) (w : World σ) :
    Prints (fun _ => False) w (enlist o archive w).2 := by
  rcases hl : Cache.loadArchive w.around.files archive w.session.cache with ⟨r, c⟩
  cases r with
  | error e =>
    rw [enlist_unread hl]
    exact (Speaks.refl (o := o) w).prints
  | ok types =>
    rw [enlist_read hl]
    exact (keeps_notices (Speaks.notice (o := o) _) _ _ (.refl (w.withSession { w.session with cache := c }))).prints

/-- What a batch prints, from the world on in which it loads its archive. -/
def BatchText (o : Outlet σ) (archive : Path) (w : World σ) (text : String) : Prop :=
  IsNote text ∨ ∃ t m, Presents o archive w t m ∧ text ∈ memberPieces w.session.options.identifierPolicy m

theorem dumpCollection_prints (o : Outlet σ) (archive : Path) {w : World σ} (hs : w.session.Good) :
    Prints (BatchText o archive (headBatch o archive w).2) w (dumpCollection o archive w).2 := by
  have hhead : Prints (BatchText o archive (headBatch o archive w).2) w (headBatch o archive w).2 :=
    (Speaks.headBatch (o := o) w archive w (.refl w)).prints
  have hgood : (headBatch o archive w).2.session.Good := hs
  rw [dumpCollection_apply]
  generalize (headBatch o archive w).2 = b at hhead hgood
  have hlist := hhead.trans ((enlist_prints o archive b).mono fun _ h => h.elim)
  have hreach := enlist_reaches o archive b
  rcases he : enlist o archive b with ⟨r, x⟩
  have hx : (enlist o archive b).2 = x := by rw [he]
  rw [he] at hlist hreach
  cases r with
  | error e => exact hlist
  | ok ts =>
    obtain ⟨-, rfl, -⟩ := enlist_ok he
    refine hlist.trans ((dumpMembers_prints o archive _ x).mono fun text => ?_)
    rintro ⟨front, t, back, hts, hnote | ⟨id, m, s, hp, hpiece⟩⟩
    · exact .inl hnote
    · refine .inr ⟨t, m, ⟨front, back, id, s, hts, by rw [hx]; exact hp⟩, ?_⟩
      have hafter := hreach.trans (after_steps o archive front (hgood.reaches hreach)).1
      rw [← (hafter.advances hgood.sound hgood.faithful).2]
      exact hpiece

theorem decompileArchive_prints (o : Outlet σ) (archive : Path) {w : World σ} (hs : w.session.Good) :
    Prints (BatchText o archive (headed o archive w)) w (decompileArchive o archive w).2 := by
  rcases ho : o.openSummary w.around with ⟨r, around⟩
  have hopen : o.Leads w.around around := by
    have h := Outlet.Leads.openSummary (.refl : o.Leads w.around w.around)
    rwa [ho] at h
  have hevent {e : Event} (he : e.printedText? = none) :
      Speaks o (BatchText o archive (headed o archive w)) w { w with around := around, trace := w.trace ++ [e] } :=
    (Speaks.refl w).event hopen w.sinks w.held w.records fun text ht => by rw [he] at ht; cases ht
  cases r with
  | error e =>
    rw [decompileArchive_refused ho]
    exact ((hevent rfl).noteException archive _ _).prints
  | ok a =>
    have hsum : opening o w = { w with around := around, trace := w.trace ++ [.summaryOpened] } := by
      rw [opening, ho]
    have hd := dumpCollection_prints o archive (w := opening o w) hs
    rw [decompileArchive_opening (by rw [ho])]
    rcases hc : dumpCollection o archive (opening o w) with ⟨r, v⟩
    rw [hc] at hd
    have hclose : Speaks o (BatchText o archive (headed o archive w)) v (closeBatch o archive r v).2 :=
      Speaks.closeBatch v archive r v (.refl v)
    have hbegun : Prints (BatchText o archive (headed o archive w)) w (opening o w) := by
      rw [hsum]
      exact (hevent rfl).prints
    exact hbegun.trans (hd.trans hclose.prints)

/-- The session once the loaded candidates are named. -/
def passed (w : World σ) (archive : Path) : Session := (w.loaded archive).resolveNames (w.handed archive)

theorem enlist_passed (o : Outlet σ) (hr : w.session.options.renamesMembers = true) {ts : List TypeName}
    (he : (enlist o archive w).1 = .ok ts) :
    ts = w.candidates archive ∧ (enlist o archive w).2.session = w.passed archive := by
  rcases hx : enlist o archive w with ⟨r, v⟩
  have hr' : r = .ok ts := by rw [hx] at he; exact he
  subst hr'
  obtain ⟨⟨types, hl⟩, rfl, -⟩ := enlist_ok hx
  refine ⟨rfl, ?_⟩
  rw [← hx, (enlist_session o archive w hl).2]
  exact if_pos hr

/-- A class in a listing was handed to naming, and has the names of that pass, exactly when its type is a candidate
that was loaded. -/
theorem presented_named_iff {t : TypeName} {m : ClassModel} (hs : w.session.Good)
    (hr : w.session.options.renamesMembers = true) (hm : Presents o archive w t m) {depth : Nat} {k : ClassModel}
    (hk : k.Within depth m) :
    (w.passed archive).Names (w.handed archive) k ↔
      k.type ∈ w.candidates archive ∧ ((w.loaded archive).cache.get? k.type).isSome := by
  obtain ⟨front, back, id, s, hts, hp⟩ := hm
  obtain ⟨types, hl⟩ := loaded_of_candidate (t := t) (show t ∈ w.candidates archive by rw [hts]; simp)
  obtain ⟨-, hpass⟩ := enlist_passed o hr (enlist_session o archive _ hl).1
  have hnamed : (w.passed archive).Good := by
    rw [← hpass]
    exact hs.reaches (enlist_reaches o archive _)
  obtain ⟨hsteps, hnames⟩ := after_steps o archive front (w := (enlist o archive w).2) (by rw [hpass]; exact hnamed)
  obtain ⟨between, hbetween, hnaming, hshows⟩ := Session.prepare_shows hp
  rw [hpass] at hsteps hnames
  exact Session.names_iff hnamed (hsteps.trans hbetween) (hnaming.trans hnames) hshows hk _

theorem renamesMembers_of_duplicates {options : Options} (h : options.renameDuplicateMembers = true) :
    options.renamesMembers = true := by rw [Options.renamesMembers, h, Bool.true_or]

/-- With members renamed, a batch hands the classes of its loaded candidates to naming before the first candidate
has its turn; all it prints are notes and listings of candidates; and a class in such a listing, at whatever depth,
was among those handed over, and has the names of that pass, exactly when its type is a candidate that was
loaded. -/
theorem printed_classes_named (o : Outlet σ) (archive : Path) {w : World σ} (hs : w.session.Good)
    (hr : w.session.options.renameDuplicateMembers = true) :
    (∀ ts, (enlist o archive (headed o archive w)).1 = .ok ts → ts = (headed o archive w).candidates archive ∧
      (enlist o archive (headed o archive w)).2.session = (headed o archive w).passed archive) ∧
    Prints (BatchText o archive (headed o archive w)) w (decompileArchive o archive w).2 ∧
    ∀ t m, Presents o archive (headed o archive w) t m → ∀ depth k, k.Within depth m →
      (((headed o archive w).passed archive).Names ((headed o archive w).handed archive) k ↔
        k.type ∈ (headed o archive w).candidates archive ∧
          (((headed o archive w).loaded archive).cache.get? k.type).isSome) := by
  have hrename : (headed o archive w).session.options.renamesMembers = true := renamesMembers_of_duplicates hr
  have hgood : (headed o archive w).session.Good := hs
  exact ⟨fun ts => enlist_passed o hrename, decompileArchive_prints o archive hs,
    fun t m hm depth k hk => presented_named_iff hgood hrename hm hk⟩

end World

/-! ## A nested class that the filter rejects -/

/-- The walk in at most so many rounds, to be worked out on examples. -/
def Cache.loadPendingWithin (files : FileTree) : Nat → List UnitId → Cache → Option Cache
  | 0, _, _ => none
  | _ + 1, [], c => some c
  | n + 1, id :: rest, c =>
    match c.unit? id with
    | none => loadPendingWithin files n rest c
    | some u =>
      if u.innerLoaded = true then loadPendingWithin files n rest c
      else
        let resolved := resolveAll files id (u.classFile.declaredInner.map (·.inner)) c
        loadPendingWithin files n (resolved.1 ++ rest) (resolved.2.setInner id resolved.1)

theorem Cache.loadPending_of_within {files : FileTree} {n : Nat} {pending : List UnitId} {c d : Cache}
    (h : loadPendingWithin files n pending c = some d) : loadPending files pending c = d := by
  induction n generalizing pending c with
  | zero => cases h
  | succ n ih =>
    cases pending with
    | nil =>
      cases h
      rw [loadPending]
    | cons id rest =>
      rw [loadPendingWithin] at h
      cases hu : c.unit? id with
      | none =>
        rw [hu] at h
        rw [loadPending_absent hu]
        exact ih h
      | some u =>
        rw [hu] at h
        dsimp only at h
        split at h
        · next hl =>
          rw [loadPending_expanded hu hl]
          exact ih h
        · next hl =>
          rw [loadPending_expand hu hl]
          exact ih h

/-- The model of a cached class, with a walk of at most so many rounds. -/
def Session.modelWithin (s : Session) (files : FileTree) (n : Nat) (t : TypeName) : Option ClassModel := do
  let id ← s.cache.get? t
  let c ← s.cache.loadPendingWithin files n [id]
  if World.isInnerUnit s id then none else ({ s with cache := c : Session }.build id).1.toOption

theorem Session.prepare_of_modelWithin {s : Session} {files : FileTree} {n : Nat} {t : TypeName} {m : ClassModel}
    (hn : s.options.decompileInnerClasses = true) (h : s.modelWithin files n t = some m) :
    ∃ id s', s.prepare files t = (.built id m, s') := by
  obtain ⟨id, hid, h⟩ := Option.bind_eq_some_iff.1 h
  obtain ⟨c, hc, h⟩ := Option.bind_eq_some_iff.1 h
  have hr : Cache.resolveByIdentity files t s.cache = (.ok id, s.cache) := by rw [Cache.resolveByIdentity, hid]
  have hl : s.loadInner files id = { s with cache := c } := by
    rw [loadInner, if_pos hn, Cache.loadInnerClasses, Cache.loadPending_of_within hc]
  split at h
  · cases h
  · next hi =>
    rcases hb : ({ s with cache := c : Session }).build id with ⟨r, s'⟩
    rw [hb] at h
    cases r with
    | error e => cases h
    | ok m' =>
      cases h
      refine ⟨id, s', ?_⟩
      simp only [prepare, hr, hi, hl, hb, Bool.false_eq_true, if_false]

namespace World

/-- The only candidate of a batch without faults is written from the model that it has once names are given. -/
theorem sole_candidate {σ : Type} {o : Outlet σ} {archive : Path} {types : TypeName → Prop}
    {fit : Surroundings σ → Prop} (h : o.Faultless archive types fit) {w : World σ} (hw : Idle fit w)
    (halive : w.crash = none) (hr : w.session.options.renamesMembers = true)
    (hn : w.session.options.decompileInnerClasses = true) {t : TypeName} (ht : types t)
    (hc : (headed o archive w).candidates archive = [t]) {n : Nat} {m : ClassModel}
    (hm : ((headed o archive w).passed archive).modelWithin w.around.files n t = some m) :
    Presents o archive (headed o archive w) t m ∧
      Event.textsFor (decompileArchive o archive w).2.trace t =
        Event.textsFor w.trace t ++ [String.join (memberPieces w.session.options.identifierPolicy m)] := by
  have hhead : Quietly archive fit w (headed o archive w) := quietly_begun h.sparesOpen h.sparesNotify hw.fits
  have hlist : Quietly archive fit _ (enlist o archive _).2 := quietly_listed h.sparesNotify hhead.fits
  obtain ⟨types, hl⟩ := loaded_of_candidate
    (show t ∈ (headed o archive w).candidates archive by rw [hc]; exact List.mem_singleton_self t)
  have hrename : (headed o archive w).session.options.renamesMembers = true := hr
  obtain ⟨-, hpass⟩ := enlist_passed o hrename (enlist_session _ _ _ hl).1
  have hnests : ((headed o archive w).passed archive).options.decompileInnerClasses = true := hn
  obtain ⟨id, s, hp⟩ := Session.prepare_of_modelWithin hnests hm
  -- its turn is the first, so it finds the names just given
  have hturn : (enlist o archive (headed o archive w)).2.session.prepare
      (enlist o archive (headed o archive w)).2.around.files t = (.built id m, s) := by
    rw [hpass, Session.prepare_congr (hlist.files.trans hhead.files)]
    exact hp
  refine ⟨presents_first hc hturn, ?_⟩
  have hread : (Cache.loadArchive w.around.files archive w.session.cache).1 = .ok types := by
    rw [← Cache.loadArchive_congr hhead.files]
    exact hl
  have hend : (decompileArchive o archive w).2.crash = none := by
    have hcrash := (enlist_crash hl o).trans halive
    have hmemory : (enlist o archive (headed o archive w)).2.session.options.lowMemory = false := by
      rw [enlist_options]
      exact hw.memory
    obtain ⟨u, hd, -⟩ := dumpMember_scripted h.toFollows ht hlist.fits (hlist.held.trans (hhead.held.trans hw.held))
      hmemory (by rw [hturn]; exact Session.prepare_alive hturn)
    rw [decompileArchive_crash (h.openSummary _ hw.fits) hl, hc, dumpMembers_cons, hd]
    exact dumpMember_alive hd hcrash
  obtain ⟨v, hrun, -, -, -, htexts⟩ := decompileArchive_faultless h hw halive
    (fun s hs => by rw [hc] at hs; rwa [List.mem_singleton.1 hs]) hread hend
  have hby := turnBy_built hturn
  rw [hpass] at hby
  rw [hrun, htexts, hc, turns, turns, textsOf, hby, List.zip_cons_cons, List.zip_nil_right, List.flatMap_singleton,
    if_pos rfl]
  rfl

end World

namespace Memory

/-- Before the batch over the archive: duplicates are to be renamed, and the filter accepts `A` only. -/
def nestStart : World State :=
  World.start ⟨{ Options.default with
      renameDuplicateMembers := true
      archiveFilter := (NameFilter.ofPattern? (some "^A$")).getD .everything }, .empty, .empty⟩
    ⟨[(["n.jar"], .file nest)], []⟩ []

theorem nestStart_good : nestStart.session.Good := ⟨Cache.empty_sound, Cache.empty_faithful _⟩

set_option maxRecDepth 4000 in
theorem nestStart_passed :
    (World.headed (outlet .none) ⟨"n.jar"⟩ nestStart).candidates ⟨"n.jar"⟩ = [⟨"A"⟩] ∧
      (((World.headed (outlet .none) ⟨"n.jar"⟩ nestStart).passed ⟨"n.jar"⟩).modelWithin nestStart.around.files 3
        ⟨"A"⟩).map (fun m => m.inner.map (·.type)) = some [⟨"A$B"⟩] := by
  decide +kernel

end Memory

namespace World

open Memory

/-- Applied to an archive whose filter rejects a nested class. -/
theorem printed_classes_named_of_nest :
    nestStart.session.Good ∧ nestStart.session.options.renameDuplicateMembers = true ∧
    let b := headed (outlet .none) ⟨"n.jar"⟩ nestStart
    (∀ ts, (enlist (outlet .none) ⟨"n.jar"⟩ b).1 = .ok ts → ts = b.candidates ⟨"n.jar"⟩ ∧
      (enlist (outlet .none) ⟨"n.jar"⟩ b).2.session = b.passed ⟨"n.jar"⟩) ∧
    Prints (BatchText (outlet .none) ⟨"n.jar"⟩ b) nestStart (decompileArchive (outlet .none) ⟨"n.jar"⟩ nestStart).2 ∧
    ∀ t m, Presents (outlet .none) ⟨"n.jar"⟩ b t m → ∀ depth k, k.Within depth m →
      ((b.passed ⟨"n.jar"⟩).Names (b.handed ⟨"n.jar"⟩) k ↔
        k.type ∈ b.candidates ⟨"n.jar"⟩ ∧ ((b.loaded ⟨"n.jar"⟩).cache.get? k.type).isSome) :=
  ⟨nestStart_good, rfl, printed_classes_named (outlet .none) ⟨"n.jar"⟩ nestStart_good rfl⟩

/-- The filter rejects `A$B`, so its class is not handed to naming; it is printed all the same, with `A`. -/
theorem nested_class_unnamed :
    ∃ m k, Presents (outlet .none) ⟨"n.jar"⟩ (headed (outlet .none) ⟨"n.jar"⟩ nestStart) ⟨"A"⟩ m ∧ k.Within 1 m ∧
      k.type = ⟨"A$B"⟩ ∧
      Event.textsFor (decompileArchive (outlet .none) ⟨"n.jar"⟩ nestStart).2.trace ⟨"A"⟩ =
        [String.join (memberPieces .keep m)] ∧
      ¬ ((headed (outlet .none) ⟨"n.jar"⟩ nestStart).passed ⟨"n.jar"⟩).Names
        ((headed (outlet .none) ⟨"n.jar"⟩ nestStart).handed ⟨"n.jar"⟩) k := by
  obtain ⟨hsole, hmodel⟩ := nestStart_passed
  obtain ⟨m, hm, hinner⟩ := Option.map_eq_some_iff.1 hmodel
  obtain ⟨k, hk, htype⟩ := List.mem_map.1 (show (⟨"A$B"⟩ : TypeName) ∈ m.inner.map (·.type) by rw [hinner]; simp)
  obtain ⟨hpresents, htext⟩ := sole_candidate (outlet_faultless _ fun _ => True) ⟨trivial, rfl, rfl, fun e he => by cases he⟩
    rfl rfl rfl trivial hsole hm
  refine ⟨m, k, hpresents, .inner hk (.self k), htype, htext, fun hn => ?_⟩
  have hgood : (headed (outlet .none) ⟨"n.jar"⟩ nestStart).session.Good := nestStart_good
  have hmem := ((presented_named_iff hgood rfl hpresents (.inner hk (.self k))).1 hn).1
  rw [htype, hsole] at hmem
  revert hmem
  decide

end World

end ClassSkeleton
