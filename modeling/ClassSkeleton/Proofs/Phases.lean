import ClassSkeleton.Proofs.Actions

/-
  ClassSkeleton.Proofs.Phases — the work on a class in two phases.

  Before a class has a sink, work on it reads the files and changes the session, and nothing else:
  `Session.prepare` and `Session.prepareUnit` are that phase as functions of the two. What follows, from
  asking for the sink on, is `emitMember` and `emitUnit`. The equations `dumpMemberInto_apply` and
  `dumpOne_apply` put a candidate of an archive and a class file of its own together from the phases;
  `dumpCollection_eq` and `decompileArchive_opened` do the same for a batch, around its candidates.
-/

namespace ClassSkeleton

/-- How far the work on a candidate gets before it needs a sink. -/
inductive Preparation where
  | unfound (cause : LoadError)
  | nested
  | unbuilt (cause : AnalysisError)
  | built (id : UnitId) (model : ClassModel)

/-- What a preparation of a candidate failed with. -/
def Preparation.failure? (t : TypeName) : Preparation → Option DecompileError
  | unfound e => some (.load e)
  | unbuilt e => some (.analysis t e)
  | nested | built .. => none

/-- How far the work on a class file gets: it may fail before or after its type was announced. -/
inductive UnitPreparation where
  | failed (announced : Option TypeName) (cause : DecompileError)
  | nested (type : TypeName)
  | built (type : TypeName) (id : UnitId) (model : ClassModel) (methods : Option (List MethodModel))

namespace Session

def loadInner (s : Session) (files : FileTree) (id : UnitId) : Session :=
  if s.options.decompileInnerClasses then { s with cache := s.cache.loadInnerClasses files id } else s

/-- Analyses a unit and looks its model up, unless the program has crashed. -/
def build (s : Session) (id : UnitId) : Except AnalysisError ClassModel × Session :=
  if s.cache.crash.isSome then (.error .notAnalysed, s)
  else
    match s.analyse id with
    | (.error e, s) => (.error e, s)
    | (.ok (), s) => (s.model id, s)

def prepare (s : Session) (files : FileTree) (t : TypeName) : Preparation × Session :=
  match Cache.resolveByIdentity files t s.cache with
  | (.error e, c) => (.unfound e, { s with cache := c.failed e })
  | (.ok id, c) =>
    let s := { s with cache := c }
    if World.isInnerUnit s id then (.nested, s)
    else
      match (s.loadInner files id).build id with
      | (.error e, s) => (.unbuilt e, s)
      | (.ok m, s) => (.built id m, s)

/-- The session once a candidate is written: what is heavy goes, if memory is to be saved. -/
def finishMember (s : Session) (id : UnitId) : Session :=
  let s := s.markDumped id
  if s.options.lowMemory then { s with cache := s.cache.releaseHeavyState id } else s

theorem finishMember_crash (s : Session) (id : UnitId) : (s.finishMember id).cache.crash = s.cache.crash := by
  unfold finishMember
  dsimp only
  split <;> rfl

/-- The unit of a type, or the one found by path when the type cannot be loaded. -/
def identify (s : Session) (files : FileTree) (t : TypeName) (byPath : UnitId) : Except LoadError UnitId × Session :=
  match Cache.resolveByIdentity files t s.cache with
  | (.ok id, c) => (.ok id, { s with cache := c })
  | (.error e, c) => (if e.isCannotLoad then .ok byPath else .error e, { s with cache := c.failed e })

def nameLoaded (s : Session) : Session :=
  if s.options.renamesMembers then s.resolveNames s.cache.listLoaded else s

/-- The members of the candidates named, if that is asked for. -/
def nameBatch (s : Session) (candidates : List TypeName) : Session :=
  if s.options.renamesMembers then s.resolveNames (candidates.filterMap s.cache.get?) else s

theorem nameBatch_cache (s : Session) (candidates : List TypeName) : (s.nameBatch candidates).cache = s.cache := by
  unfold nameBatch
  split <;> rfl

/-- The methods to print, if only some are asked for. -/
def wantedMethods (s : Session) (m : ClassModel) : Except DecompileError (Option (List MethodModel)) :=
  match s.options.methodFilter with
  | none => .ok none
  | some name =>
    match m.methodsNamed name with
    | [] => .error (.noSuchMethod name)
    | found => .ok (some found)

def prepareUnit (s : Session) (files : FileTree) (path : Path) (skipIfInner : Bool) : UnitPreparation × Session :=
  match Cache.resolveByPath files path s.cache with
  | (.error e, c) => (.failed none (.load e), { s with cache := c.failed e })
  | (.ok byPath, c) =>
    match c.unit? byPath with
    | none => (.failed none (.load (.io path .notFound)), { s with cache := c })
    | some u =>
      if skipIfInner && u.isInner then (.nested u.type, { s with cache := c })
      else
        match { s with cache := c : Session }.identify files u.type byPath with
        | (.error e, s) => (.failed (some u.type) (.load e), s)
        | (.ok id, s) =>
          match (s.loadInner files id).nameLoaded.build id with
          | (.error e, s) => (.failed (some u.type) (.analysis u.type e), s)
          | (.ok m, s) =>
            match s.wantedMethods m with
            | .error e => (.failed (some u.type) e, s)
            | .ok methods => (.built u.type id m methods, s)

/-! A program that has crashed builds nothing. -/

theorem build_alive {s s' : Session} {id : UnitId} {m : ClassModel} (h : s.build id = (.ok m, s')) :
    s'.cache.crash = none := by
  unfold build at h
  split at h
  · cases h
  next hc =>
    simp only [analyse] at h
    rcases hb : s.buildModel (s.cache.units.length + 1) id with (e | _) | m <;> rw [hb] at h
    · cases h
    · cases h
    · simp only [Prod.mk.injEq] at h
      have hs : s.cache.crash = none := by simpa using hc
      rw [← h.2]
      exact hs

theorem prepare_alive {s s' : Session} {files : FileTree} {t : TypeName} {id : UnitId} {m : ClassModel}
    (h : s.prepare files t = (.built id m, s')) : s'.cache.crash = none := by
  simp only [prepare] at h
  rcases hr : Cache.resolveByIdentity files t s.cache with ⟨r, c⟩
  rw [hr] at h
  cases r with
  | error e => cases h
  | ok id =>
    dsimp only at h
    split at h
    · cases h
    · rcases hb : Session.build _ id with ⟨r, s₁⟩
      rw [hb] at h
      cases r <;> cases h
      exact build_alive hb

end Session

namespace World

variable {σ : Type}

/-! ## Candidates -/

/-- The world with a type announced, unless that is not wanted. -/
def announced (w : World σ) (t : TypeName) : World σ :=
  if w.session.options.silent then w else { w with trace := w.trace ++ [.progressType t] }

/-- Acquires a sink, prints on it and closes it. -/
def emitText (o : Outlet σ) (summary : Bool) (t : TypeName) (usage : Usage) (policy : IdentifierPolicy)
    (pieces : List String) : Attempt σ String := do
  acquire o summary t usage policy
  writeAll o t pieces

theorem outputs_emitText (v : World σ) (o : Outlet σ) (summary : Bool) (t : TypeName) (usage : Usage)
    (policy : IdentifierPolicy) (pieces : List String) : Keeps (Outputs v) (emitText o summary t usage policy pieces) :=
  .try_bind (outputs_acquire v o summary t usage policy) fun _ => outputs_writeAll v o t pieces

def memberPieces (policy : IdentifierPolicy) (m : ClassModel) : List String :=
  Listing.source (Usage.collect m) policy m ++ ["\n", "\n"]

/-- Writes the model of a candidate to a sink of its own. -/
def emitMember (o : Outlet σ) (t : TypeName) (id : UnitId) (m : ClassModel) : Attempt σ UnitOutcome := do
  let policy ← up (asks (·.options.identifierPolicy))
  let digest ← emitText o true t (Usage.collect m) policy (memberPieces policy m)
  up (changeSession (·.markDumped id))
  if ← up (asks (·.options.lowMemory)) then
    up (changeSession fun s => { s with cache := s.cache.releaseHeavyState id })
  return .dumped t digest

/-- What a written text comes to: the class is dumped, and the session changes accordingly. -/
def dumpedBy (t : TypeName) (g : Session → Session) :
    Except DecompileError String × World σ → Except DecompileError UnitOutcome × World σ
  | (.error e, v) => (.error e, v)
  | (.ok digest, v) => (.ok (.dumped t digest), v.withSession (g v.session))

theorem emitMember_apply (o : Outlet σ) (t : TypeName) (id : UnitId) (m : ClassModel) (w : World σ) :
    emitMember o t id m w = dumpedBy t (·.finishMember id)
      (emitText o true t (Usage.collect m) w.session.options.identifierPolicy
        (memberPieces w.session.options.identifierPolicy m) w) := by
  simp only [emitMember, attempt_bind, up_apply, asks_apply]
  rcases emitText o true t _ _ _ w with ⟨r, v⟩
  cases r with
  | error e => rfl
  | ok digest =>
    simp only [changeSession_apply, withSession_session, Session.finishMember, dumpedBy]
    split <;> rfl

/-- Writing a candidate is no matter of life and death. -/
theorem emitMember_crash (o : Outlet σ) (t : TypeName) (id : UnitId) (m : ClassModel) (w : World σ) :
    (emitMember o t id m w).2.crash = w.crash := by
  have ho := (outputs_emitText w o true t (Usage.collect m) w.session.options.identifierPolicy
    (memberPieces w.session.options.identifierPolicy m) w (.refl w)).crash
  rw [emitMember_apply]
  rcases hr : emitText o true t (Usage.collect m) w.session.options.identifierPolicy
    (memberPieces w.session.options.identifierPolicy m) w with ⟨r, v⟩
  rw [hr] at ho
  cases r with
  | error e => exact ho
  | ok digest => exact (v.session.finishMember_crash id).trans ho

theorem loadInner_apply (id : UnitId) (w : World σ) :
    loadInner id w = ((), w.withSession (w.session.loadInner w.around.files id)) := by
  simp only [loadInner, act_bind, asks_apply, Session.loadInner]
  split <;> rfl

theorem nameLoaded_apply (w : World σ) : nameLoaded w = ((), w.withSession w.session.nameLoaded) := by
  simp only [nameLoaded, act_bind, asks_apply, Session.nameLoaded]
  split <;> rfl

theorem analyse_apply (t : TypeName) (id : UnitId) (w : World σ) :
    analyse t id w = ((w.session.build id).1.mapError (.analysis t), w.withSession (w.session.build id).2) := by
  simp only [analyse, Session.build, crash]
  by_cases hc : w.session.cache.crash.isSome = true
  · simp only [hc, if_true]; rfl
  simp only [hc]
  rcases w.session.analyse id with ⟨r, s⟩
  cases r with
  | error e => rfl
  | ok a => cases h : s.model id <;> simp only [h] <;> rfl

theorem dumpMemberInto_eq (o : Outlet σ) (t : TypeName) :
    dumpMemberInto o t = (do
      let id ← onCache (Cache.resolveByIdentity · t)
      if ← up (asks (isInnerUnit · id)) then return .skippedInner t
      if !(← up (asks (·.options.silent))) then up (log (.progressType t))
      up (loadInner id)
      let m ← analyse t id
      emitMember o t id m) := by
  simp only [dumpMemberInto, emitMember, emitText, memberPieces, bind_assoc]

theorem dumpMemberInto_apply (o : Outlet σ) (t : TypeName) (w : World σ) :
    dumpMemberInto o t w =
      match w.session.prepare w.around.files t with
      | (.unfound e, s) => (.error (.load e), w.withSession s)
      | (.nested, s) => (.ok (.skippedInner t), w.withSession s)
      | (.unbuilt e, s) => (.error (.analysis t e), (announced w t).withSession s)
      | (.built id m, s) => emitMember o t id m ((announced w t).withSession s) := by
  simp only [dumpMemberInto_eq, attempt_bind, onCache_apply, Session.prepare]
  rcases Cache.resolveByIdentity w.around.files t w.session.cache with ⟨r, c⟩
  cases r with
  | error e => rfl
  | ok id =>
    simp only [mapError_ok, up_apply, asks_apply, withSession_session, Cache.settled_ok]
    by_cases hi : isInnerUnit { w.session with cache := c } id = true
    · simp only [hi, if_true]; rfl
    simp only [hi, if_false, Bool.false_eq_true]
    by_cases hs : w.session.options.silent = true
    · simp only [attempt_bind, up_apply, asks_apply, withSession_session, withSession_around, hs, Bool.not_true,
        Bool.false_eq_true, if_false, loadInner_apply, analyse_apply, announced, if_true]
      rcases Session.build _ _ with ⟨r, s⟩
      cases r <;> rfl
    · simp only [attempt_bind, up_apply, asks_apply, withSession_session, withSession_around, hs, Bool.not_false,
        if_true, log_apply, loadInner_apply, analyse_apply, announced, Bool.false_eq_true, if_false]
      rcases Session.build _ _ with ⟨r, s⟩
      cases r <;> rfl

/-- A candidate at whose turn the program crashes was announced at most. -/
theorem dumpMemberInto_crashed {o : Outlet σ} {t : TypeName} {w v : World σ} {e : DecompileError}
    (h : dumpMemberInto o t w = (.error e, v)) (hc : v.crash.isSome = true) :
    v.session = (w.session.prepare w.around.files t).2 ∧
      (v = w.withSession v.session ∨ v = (announced w t).withSession v.session) := by
  rw [dumpMemberInto_apply] at h
  rcases hp : w.session.prepare w.around.files t with ⟨p, s⟩
  rw [hp] at h
  cases p with
  | unfound e => cases h; exact ⟨rfl, .inl rfl⟩
  | nested => cases h
  | unbuilt e => cases h; exact ⟨rfl, .inr rfl⟩
  | built id m =>
    -- a model was built, so the program is running
    have hv := emitMember_crash o t id m ((announced w t).withSession s)
    dsimp only at h
    rw [h] at hv
    rw [hv, crash, withSession_session, Session.prepare_alive hp] at hc
    cases hc

def noteText (note : String) : String := "/* " ++ note ++ " */\n\n\n"

/-- The world once a note was printed on the sink in hand, if there is one, and the sink closed. -/
def withNote (o : Outlet σ) (note : String) (w : World σ) : World σ := (release o (print o (noteText note) w).2).2

theorem writeNote_apply (o : Outlet σ) (t : TypeName) (note : String) (w : World σ) :
    writeNote o t note w =
      if w.held.isNone && (w.session.cache.get? t).isSome then
        match acquire o true t Usage.empty w.session.options.identifierPolicy w with
        | (.error e, v) => (.error e, v)
        | (.ok (), v) => (.ok (), withNote o note v)
      else (.ok (), withNote o note w) := by
  simp only [writeNote, attempt_bind, up_apply, get_apply, asks_apply]
  split
  · rw [attempt_bind]
    rcases acquire o true t Usage.empty w.session.options.identifierPolicy w with ⟨r, v⟩
    cases r <;> rfl
  · rfl

theorem outputs_withNote (v : World σ) (o : Outlet σ) (note : String) {w : World σ} (h : Outputs v w) :
    Outputs v (withNote o note w) :=
  outputs_release v o _ (outputs_print v o _ w h)

theorem outputs_writeNote (v : World σ) (o : Outlet σ) (t : TypeName) (note : String) :
    Keeps (Outputs v) (writeNote o t note) := by
  intro w h
  rw [writeNote_apply]
  split
  · have ha := outputs_acquire v o true t Usage.empty w.session.options.identifierPolicy w h
    rcases hr : acquire o true t Usage.empty w.session.options.identifierPolicy w with ⟨r, u⟩
    rw [hr] at ha
    cases r with
    | error e => exact ha
    | ok a => exact outputs_withNote v o note ha
  · exact outputs_withNote v o note h

theorem acquire_error (o : Outlet σ) (summary : Bool) (t : TypeName) (usage : Usage) (policy : IdentifierPolicy)
    (w : World σ) (e : DecompileError) (h : (acquire o summary t usage policy w).1 = .error e) : e.isFatal = true := by
  rw [acquire_apply] at h
  dsimp only at h
  split at h <;> cases h
  rfl

/-- The note of a failure can itself fail only when it is refused a sink. -/
theorem writeNote_error (o : Outlet σ) (t : TypeName) (note : String) (w : World σ) (e : DecompileError)
    (h : (writeNote o t note w).1 = .error e) : e.isFatal = true := by
  rw [writeNote_apply] at h
  split at h
  · have ha := acquire_error o true t Usage.empty w.session.options.identifierPolicy w
    rcases hr : acquire o true t Usage.empty w.session.options.identifierPolicy w with ⟨r, v⟩
    rw [hr] at h ha
    cases r <;> cases h
    exact ha e rfl
  · cases h

def memberContext (t : TypeName) : String := "Exception analysing " ++ t.raw ++ " in"

theorem dumpMember_apply (o : Outlet σ) (archive : Path) (t : TypeName) (w : World σ) :
    dumpMember o archive t w =
      match dumpMemberInto o t w with
      | (.ok outcome, v) => (.ok outcome, v)
      | (.error e, v) =>
        if e.isFatal || v.crash.isSome then (.error e, v)
        else
          match writeNote o t e.describe (noteException archive (some (memberContext t)) e v).2 with
          | (.error e', u) => (.error e', u)
          | (.ok (), u) => (.ok (.recovered t e.kind e.describe), u) := by
  simp only [dumpMember, attempt_bind, up_apply, attempt_run]
  rcases dumpMemberInto o t w with ⟨r, v⟩
  cases r with
  | ok outcome => rfl
  | error e =>
    dsimp only
    rw [attempt_bind, up_apply, hasCrashed_apply]
    dsimp only
    by_cases hf : (e.isFatal || v.crash.isSome) = true
    · rw [if_pos hf, if_pos hf]; rfl
    · rw [if_neg hf, if_neg hf, attempt_bind_ok (up_apply _ _), attempt_bind]
      unfold memberContext
      generalize (noteException archive (some ("Exception analysing " ++ t.raw ++ " in")) e v).2 = noted
      rcases writeNote o t e.describe noted with ⟨r, u⟩
      cases r <;> rfl

theorem dumpMembers_cons (o : Outlet σ) (archive : Path) (t : TypeName) (ts : List TypeName) (w : World σ) :
    dumpMembers o archive (t :: ts) w =
      match dumpMember o archive t w with
      | (.error e, v) => (.error e, v)
      | (.ok outcome, v) => ((dumpMembers o archive ts v).1.map (outcome :: ·), (dumpMembers o archive ts v).2) := by
  rw [dumpMembers, attempt_bind]
  rcases dumpMember o archive t w with ⟨r, v⟩
  cases r with
  | error e => rfl
  | ok outcome =>
    dsimp only
    rw [attempt_bind]
    rcases dumpMembers o archive ts v with ⟨r, u⟩
    cases r <;> rfl

/-! ## Class files -/

/-- The pieces printed for a class file: the methods asked for, or the whole class. -/
def unitPieces (policy : IdentifierPolicy) (m : ClassModel) : Option (List MethodModel) → List String
  | some ms => Listing.methods (Usage.collect m) policy m ms
  | none => Listing.source (Usage.collect m) policy m

/-- Writes the model of a class file to a sink of its own. -/
def emitUnit (o : Outlet σ) (t : TypeName) (id : UnitId) (m : ClassModel) (methods : Option (List MethodModel)) :
    Attempt σ UnitOutcome := do
  let policy ← up (asks (·.options.identifierPolicy))
  let digest ← emitText o false t (Usage.collect m) policy (unitPieces policy m methods)
  up (changeSession (·.markDumped id))
  return .dumped t digest

theorem emitUnit_apply (o : Outlet σ) (t : TypeName) (id : UnitId) (m : ClassModel)
    (methods : Option (List MethodModel)) (w : World σ) :
    emitUnit o t id m methods w = dumpedBy t (·.markDumped id)
      (emitText o false t (Usage.collect m) w.session.options.identifierPolicy
        (unitPieces w.session.options.identifierPolicy m methods) w) := by
  simp only [emitUnit, attempt_bind, up_apply, asks_apply]
  rcases emitText o false t _ _ _ w with ⟨r, v⟩
  cases r <;> rfl

theorem preferIdentity_apply (t : TypeName) (byPath : UnitId) (w : World σ) :
    preferIdentity t byPath w = ((w.session.identify w.around.files t byPath).1.mapError .load,
      w.withSession (w.session.identify w.around.files t byPath).2) := by
  simp only [preferIdentity, onCache_apply, Session.identify]
  rcases Cache.resolveByIdentity w.around.files t w.session.cache with ⟨r, c⟩
  cases r with
  | ok id => rfl
  | error e => cases h : e.isCannotLoad <;> simp only [mapError_error, h] <;> rfl

theorem wantedMethods_apply (m : ClassModel) (w : World σ) : wantedMethods m w = (w.session.wantedMethods m, w) := by
  simp only [wantedMethods, attempt_bind, up_apply, asks_apply, Session.wantedMethods]
  rcases w.session.options.methodFilter with _ | name
  · rfl
  · rcases h : m.methodsNamed name with _ | ⟨found, rest⟩ <;> simp only [h] <;> rfl

theorem dumpOne_eq (o : Outlet σ) (path : Path) (skipIfInner : Bool) :
    dumpOne o path skipIfInner = (do
      let byPath ← onCache (Cache.resolveByPath · path)
      match ← up (asks fun s => s.cache.unit? byPath) with
      | none => throw (.load (.io path .notFound))
      | some u =>
        if skipIfInner && u.isInner then return .skippedInner u.type
        up (log (.progressType u.type))
        let id ← preferIdentity u.type byPath
        up (loadInner id)
        up nameLoaded
        let m ← analyse u.type id
        let methods ← wantedMethods m
        emitUnit o u.type id m methods) := by
  simp only [emitUnit, emitText, unitPieces, bind_assoc]
  rfl

theorem dumpOne_apply (o : Outlet σ) (path : Path) (skipIfInner : Bool) (w : World σ) :
    dumpOne o path skipIfInner w =
      match w.session.prepareUnit w.around.files path skipIfInner with
      | (.failed none e, s) => (.error e, w.withSession s)
      | (.failed (some t) e, s) => (.error e, (log (.progressType t) w).2.withSession s)
      | (.nested t, s) => (.ok (.skippedInner t), w.withSession s)
      | (.built t id m methods, s) => emitUnit o t id m methods ((log (.progressType t) w).2.withSession s) := by
  simp only [dumpOne_eq, attempt_bind, onCache_apply, Session.prepareUnit]
  rcases Cache.resolveByPath w.around.files path w.session.cache with ⟨r, c⟩
  cases r with
  | error e => rfl
  | ok byPath =>
    simp only [mapError_ok, up_apply, asks_apply, withSession_session, Cache.settled_ok]
    rcases hu : c.unit? byPath with _ | u
    · rfl
    by_cases hi : (skipIfInner && u.isInner) = true
    · simp only [hi, if_true]; rfl
    simp only [hi, if_false, Bool.false_eq_true, attempt_bind, up_apply, log_apply, preferIdentity_apply,
      withSession_session, withSession_around]
    rcases Session.identify _ _ _ _ with ⟨r, s⟩
    cases r with
    | error e => rfl
    | ok id =>
      simp only [mapError_ok, loadInner_apply, nameLoaded_apply, analyse_apply, withSession_session, withSession_around]
      rcases Session.build _ _ with ⟨r, s⟩
      cases r with
      | error e => rfl
      | ok m =>
        simp only [mapError_ok, wantedMethods_apply, withSession_session]
        cases s.wantedMethods m <;> rfl

theorem decompileUnit_apply (o : Outlet σ) (path : Path) (skipIfInner : Bool) (w : World σ) :
    decompileUnit o path skipIfInner w =
      match dumpOne o path skipIfInner w with
      | (.ok outcome, v) => (outcome, (release o v).2)
      | (.error e, v) => (.failed path e.kind e.describe,
          if v.crash.isSome then (release o v).2 else (noteException path none e (release o v).2).2) := by
  simp only [decompileUnit, act_bind, attempt_run]
  rcases dumpOne o path skipIfInner w with ⟨r, v⟩
  cases r with
  | ok outcome => rfl
  | error e =>
    simp only [act_bind, hasCrashed_apply, crash_release]
    by_cases hc : v.crash.isSome = true <;> simp only [hc] <;> rfl

/-! ## Batches -/

/-- The head of a batch, up to loading the archive. -/
def headBatch (o : Outlet σ) (archive : Path) : Act σ Unit := do
  notice o ("Summary for " ++ archive.text)
  notice o ("Decompiled with " ++ versionLine)
  log (.progressPath archive)

/-- Loads the archive, picks the candidates, notes clashes of their files and names their members. -/
def enlist (o : Outlet σ) (archive : Path) : Attempt σ (List TypeName) := do
  let types ← onCache (Cache.loadArchive · archive)
  let session ← up (asks id)
  let candidates := types.filter session.options.archiveFilter.accepts
  up (notices o ((collisions (topLevel session candidates)).map collisionNotice))
  if session.options.renamesMembers then
    up (changeSession fun s => s.resolveNames (candidates.filterMap s.cache.get?))
  return candidates

theorem session_notices (o : Outlet σ) (texts : List String) (w : World σ) :
    (notices o texts w).2.session = w.session :=
  (keeps_notices (outputs_notice w o) texts w (.refl w)).session

theorem enlist_unread {archive : Path} {w : World σ} {e : LoadError} {c : Cache}
    (h : Cache.loadArchive w.around.files archive w.session.cache = (.error e, c)) (o : Outlet σ) :
    enlist o archive w = (.error (.load e), w.withSession { w.session with cache := c.failed e }) := by
  rw [enlist, attempt_bind_error]
  rw [onCache_apply, h]
  rfl

theorem enlist_read {archive : Path} {w : World σ} {types : List TypeName} {c : Cache}
    (h : Cache.loadArchive w.around.files archive w.session.cache = (.ok types, c)) (o : Outlet σ) :
    enlist o archive w =
      let s := { w.session with cache := c }
      let candidates := types.filter w.session.options.archiveFilter.accepts
      let clashes := (collisions (topLevel s candidates)).map collisionNotice
      (.ok candidates, (notices o clashes (w.withSession s)).2.withSession (s.nameBatch candidates)) := by
  have hc : onCache (Cache.loadArchive · archive) w = (.ok types, w.withSession { w.session with cache := c }) := by
    rw [onCache_apply, h]
    rfl
  rw [enlist, attempt_bind_ok hc]
  simp only [attempt_bind, up_apply, asks_apply, id, withSession_session]
  generalize hv : notices o ((collisions (topLevel _ _)).map collisionNotice) _ = v
  have hs : v.2.session = { w.session with cache := c } := by rw [← hv, session_notices, withSession_session]
  rw [Session.nameBatch]
  split
  · simp only [attempt_bind, up_apply, changeSession_apply, attempt_pure, hs]
  · simp only [attempt_pure, ← hs]
    rfl

theorem closeBatch_apply (o : Outlet σ) (archive : Path) (r : Except DecompileError BatchReport) (w : World σ) :
    (closeBatch o archive r w).2 =
      if w.crash.isSome then (release o w).2 else (sumUp o archive r (release o w).2).2 := by
  simp only [closeBatch, act_bind, hasCrashed_apply, crash_release]
  split <;> rfl

/-- The end of a batch keeps what its parts keep: closing the sink in hand, a last notice behind a record
perhaps, and closing the summary. -/
theorem keeps_closeBatch {P : World σ → Prop} {o : Outlet σ} {archive : Path} (hr : Keeps P (release o))
    (hn : ∀ text, Keeps P (notice o text)) (he : ∀ e, Keeps P (noteException archive (some archiveContext) e))
    (hc : Keeps P (do outside o.closeSummary; log .summaryClosed : Act σ Unit))
    (r : Except DecompileError BatchReport) : Keeps P (closeBatch o archive r) := by
  have hs : Keeps P (sumUp o archive r) := by
    cases r with
    | ok report => exact .bind (hn _) fun _ => hc
    | error e => exact .bind (he e) fun _ => .bind (hn _) fun _ => hc
  intro w h
  rw [closeBatch_apply]
  split
  · exact hr w h
  · exact hs _ (hr w h)

theorem dumpCollection_eq (o : Outlet σ) (archive : Path) :
    dumpCollection o archive = (do
      up (headBatch o archive)
      let candidates ← enlist o archive
      let units ← dumpMembers o archive candidates
      return ⟨archive, candidates.length, units⟩) := by
  funext w
  simp only [dumpCollection, enlist, headBatch, attempt_bind, up_apply, act_bind, onCache_apply]
  rcases Cache.loadArchive _ archive _ with ⟨r, c⟩
  cases r with
  | error e => rfl
  | ok types =>
    simp only [mapError_ok, asks_apply, id]
    split <;> simp only [attempt_bind, up_apply, attempt_pure]

theorem decompileArchive_refused {o : Outlet σ} {w : World σ} {e : SinkError} {around : Surroundings σ}
    (h : o.openSummary w.around = (.error e, around)) (archive : Path) :
    decompileArchive o archive w = (.error (.cannotCreateSink e),
      (noteException archive (some archiveContext) (.cannotCreateSink e)
        { w with around := around, trace := w.trace ++ [.summaryRefused] }).2) := by
  simp only [decompileArchive, act_bind, outside_apply, h]
  rfl

theorem decompileArchive_opened {o : Outlet σ} {w : World σ} {around : Surroundings σ}
    (h : o.openSummary w.around = (.ok (), around)) (archive : Path) :
    decompileArchive o archive w =
      let r := dumpCollection o archive { w with around := around, trace := w.trace ++ [.summaryOpened] }
      (r.1, (closeBatch o archive r.1 r.2).2) := by
  simp only [decompileArchive, act_bind, outside_apply, h, log_apply, attempt_run]
  rfl

/-! ## Paths -/

/-- Class files are looked for in the files as they are when the path has its turn. -/
theorem runFound_apply (o : Outlet σ) (skipLoneInner : Bool) (path : Path) (r : RunReport) (w : World σ) :
    (do
      let files := (← get).around.files
      if files.isDir path then runFiles o true (files.scanClassFiles path) r
      else runFiles o skipLoneInner [path] r : Act σ RunReport) w =
      if w.around.files.isDir path then runFiles o true (w.around.files.scanClassFiles path) r w
      else runFiles o skipLoneInner [path] r w := by
  show (if w.around.files.isDir path then runFiles o true (w.around.files.scanClassFiles path) r
    else runFiles o skipLoneInner [path] r) w = _
  split <;> rfl

theorem runFiles_cons (o : Outlet σ) (skipInner : Bool) (p : Path) (ps : List Path) (r : RunReport) (w : World σ) :
    runFiles o skipInner (p :: ps) r w =
      match decompileUnit o p skipInner w with
      | (outcome, v) =>
        if v.crash.isSome then ({ r with aborted := true }, v)
        else if outcome.isFatal then ({ r with units := r.units ++ [outcome], aborted := outcome.isFatal }, v)
        else runFiles o skipInner ps { r with units := r.units ++ [outcome], aborted := outcome.isFatal } v := by
  rw [runFiles, act_bind]
  rcases decompileUnit o p skipInner w with ⟨outcome, v⟩
  rw [act_bind, hasCrashed_apply]
  dsimp only
  split
  · rfl
  · split <;> rfl

theorem runPath_archive {path : Path} (ha : path.isArchive = true) (o : Outlet σ) (skipLoneInner : Bool)
    (r : RunReport) (w : World σ) :
    runPath o skipLoneInner path r w =
      match decompileArchive o path w with
      | (result, v) =>
        if v.crash.isSome then ({ r with aborted := true }, v)
        else
          match result with
          | .ok batch => ({ r with batches := r.batches ++ [batch] }, v)
          | .error e => ({ r with aborted := e.isFatal }, v) := by
  rw [runPath, if_pos ha, act_bind]
  rcases decompileArchive o path w with ⟨result, v⟩
  rw [act_bind, hasCrashed_apply]
  dsimp only
  split
  · rfl
  · cases result <;> rfl

section Runs

variable {P : World σ → Prop} {o : Outlet σ} (hu : ∀ path skipIfInner, Keeps P (decompileUnit o path skipIfInner))

include hu

/-- What is kept by every class file and by every archive is kept by a run. -/
theorem keeps_runFiles (skipInner : Bool) (paths : List Path) (r : RunReport) :
    Keeps P (runFiles o skipInner paths r) := by
  induction paths generalizing r with
  | nil => exact .pure _
  | cons p ps ih =>
    refine .bind (hu p skipInner) fun outcome => .bind (fun w h => h) fun crashed => ?_
    dsimp only
    split
    · exact .pure _
    · split
      · exact .pure _
      · exact ih _

variable (ha : ∀ path, Keeps P (decompileArchive o path))

include ha

theorem keeps_runPath (skipLoneInner : Bool) (path : Path) (r : RunReport) :
    Keeps P (runPath o skipLoneInner path r) := by
  unfold runPath
  split
  · refine .bind (ha path) fun result => .bind (fun w h => h) fun crashed => ?_
    split
    · exact .pure _
    · split <;> exact .pure _
  · intro w h
    rw [runFound_apply]
    split <;> exact keeps_runFiles hu _ _ r w h

theorem keeps_runAll (skipLoneInner : Bool) (paths : List Path) (r : RunReport) :
    Keeps P (runAll o skipLoneInner paths r) := by
  induction paths generalizing r with
  | nil => exact .pure _
  | cons p ps ih =>
    refine .bind (keeps_runPath hu ha skipLoneInner p r) fun r => ?_
    split
    · exact .pure _
    · exact ih r

theorem keeps_runPaths (paths : List Path) : Keeps P (runPaths o paths) :=
  .bind (keeps_runAll hu ha _ paths .empty) fun _ => .bind (fun _ h => h) fun _ => .pure _

end Runs

/-! ## Calls -/

/-- What is asked of a session from outside. -/
inductive Call where
  | unit (path : Path) (skipIfInner : Bool)
  | archive (path : Path)
  | paths (paths : List Path)
  deriving DecidableEq, Repr

def answer (o : Outlet σ) : Call → Act σ Unit
  | .unit path skipIfInner => do let _ ← decompileUnit o path skipIfInner
  | .archive path => do let _ ← decompileArchive o path
  | .paths paths => do let _ ← runPaths o paths

/-- Answers calls one after another; the session, the files and the outlet's state go on. -/
def answerAll (o : Outlet σ) : List Call → Act σ Unit
  | [] => return ()
  | c :: cs => do
    answer o c
    answerAll o cs

theorem keeps_answer {P : World σ → Prop} {o : Outlet σ}
    (hu : ∀ path skipIfInner, Keeps P (decompileUnit o path skipIfInner)) (ha : ∀ path, Keeps P (decompileArchive o path))
    (c : Call) : Keeps P (answer o c) := by
  cases c with
  | unit path skipIfInner => exact .bind (hu path skipIfInner) fun _ => .pure ()
  | archive path => exact .bind (ha path) fun _ => .pure ()
  | paths paths => exact .bind (keeps_runPaths hu ha paths) fun _ => .pure ()

end World

end ClassSkeleton
