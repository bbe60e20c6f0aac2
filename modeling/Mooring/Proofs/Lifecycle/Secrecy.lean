import Mooring.Lifecycle.Installation
import Mooring.Proofs.Lifecycle.Launching
import Mooring.Proofs.Lifecycle.Lockstep

set_option autoImplicit false

/-!
# What a launch tells of its token

The token is set in the environment of the command before the record is made of that command, and
masked in the record. Two launches that get different tokens are in lockstep: their commands are
the same under a veil, that is with the token masked, and the records are made of what is under the
veil. So, with an engine that does not answer by the environments it is given, nothing that is left
of a launch depends on the token (`launch_hides_token`), whatever fails on the way and whatever
variables the command declares.
-/

namespace Mooring

open Routine

namespace Launcher

variable {l : Launcher} {user : String} {r r' : Resolved}

/-! ## Commands under a veil -/

/-- The command with the token masked. -/
def veil (r : Resolved) : Resolved :=
  { r with environment := r.environment.modify passVariable fun _ => Resolved.mask }

/-- Whether an environment shows a mask for the token. -/
def IsMasked (environment : OrderedMap String) : Prop :=
  environment.get? passVariable = some Resolved.mask

/-- Whether two commands are the same under the veil, with a mask for the token. -/
structure Veiled (r r' : Resolved) : Prop where
  same : veil r = veil r'
  masked : IsMasked (veil r).environment

theorem Veiled.bare (h : Veiled r r') : r.bare = r'.bare := by
  show (veil r).bare = (veil r').bare
  rw [h.same]

theorem Veiled.bindMount (h : Veiled r r') (name host engine : String) :
    Veiled (r.bindMount name host engine) (r'.bindMount name host engine) :=
  ⟨congrArg (fun r => r.bindMount name host engine) h.same, h.masked⟩

/-- Under the veil a command has no token, even if it declares variables with the names that are
set for it. -/
theorem veil_withCredentials (l : Launcher) (user token : String) (r : Resolved) :
    veil (l.withCredentials user token r) = l.withCredentials user Resolved.mask r := by
  have hmask : (l.withCredentials user token r).environment.modify passVariable
      (fun _ => Resolved.mask) = (l.withCredentials user Resolved.mask r).environment :=
    OrderedMap.modify_set ((r.environment.set hostVariable l.siteUrl).set userVariable user)
      passVariable token fun _ => Resolved.mask
  exact congrArg (fun environment => { r with environment }) hmask

theorem veiled_withCredentials (l : Launcher) (user token token' : String) (r : Resolved) :
    Veiled (l.withCredentials user token r) (l.withCredentials user token' r) := by
  constructor
  · rw [veil_withCredentials, veil_withCredentials]
  · rw [veil_withCredentials]
    exact OrderedMap.get?_set_self _ passVariable Resolved.mask

/-- The first record is made of what is under the veil. -/
theorem firstRecord_eq_veil (l : Launcher) (user : String) (r : Resolved) (now : Instant) :
    l.firstRecord user r now =
      { Container.ofResolved now (veil r) user with
        swarm := l.swarm
        history := [Tracker.systemEntry .created none now] } :=
  firstRecord_eq l user r now

/-! ## Launches in lockstep -/

section Lockstep

variable {σ : Type} {E : OrderedMap String → Prop} {R : σ → σ → Prop} {s s' : Surroundings σ}

theorem twins_firstRecord (hE : ∀ environment, IsMasked environment → E environment)
    (h : Veiled r r') (l : Launcher) (user : String) (now now' : Instant) :
    (l.firstRecord user r now).Twins E (l.firstRecord user r' now') := by
  rw [firstRecord_eq_veil, firstRecord_eq_veil, ← h.same]
  exact ⟨rfl, hE _ h.masked⟩

theorem twins_withEngineId (l : Launcher) (external : String) {c c' : Container}
    (h : c.Twins E c') : (l.withEngineId external c).Twins E (l.withEngineId external c') := by
  have htimeless : ∀ d, (l.withEngineId external d).timeless = l.withEngineId external d.timeless ∧
      (l.withEngineId external d).environment = d.environment := by
    intro d
    unfold withEngineId
    cases l.swarm <;> exact ⟨rfl, rfl⟩
  constructor
  · rw [(htimeless c).1, (htimeless c').1, h.alike]
  · rw [(htimeless c).2]
    exact h.environment

variable (hs : s.Matches E R s')
include hs

theorem lockstep_hostPathOf (m : Resolved.Mount) :
    Lockstep E R s s' (Agree Eq) (hostPathOf m).run (hostPathOf m).run := by
  unfold hostPathOf
  cases m.hostPath with
  | some path => exact lockstep_done rfl
  | none => exact (lockstep_makeBuildDirectory hs).attempt .store

theorem lockstep_bindMount (l : Launcher) (h : Veiled r r') (m : Resolved.Mount) :
    Lockstep E R s s' (Agree Veiled) (l.bindMount r m).run (l.bindMount r' m).run := by
  refine Lockstep.bindJob (lockstep_hostPathOf hs m) fun host _ hhost => ?_
  subst hhost
  exact lockstep_done (h.bindMount m.name host (l.translate host))

theorem lockstep_mounts (l : Launcher) (mounts : List Resolved.Mount) (h : Veiled r r') :
    Lockstep E R s s' (Agree Veiled) (mounts.foldlM l.bindMount r : Job Resolved).run
      (mounts.foldlM l.bindMount r' : Job Resolved).run := by
  induction mounts generalizing r r' with
  | nil => exact lockstep_done h
  | cons m rest ih =>
    rw [List.foldlM_cons, List.foldlM_cons]
    exact Lockstep.bindJob (lockstep_bindMount hs l h m) fun _ _ => ih

/-- The commands that are made ready differ in the token alone. -/
theorem lockstep_prepare (l : Launcher) (user : String) (r : Resolved) :
    Lockstep E R s s' (Agree Veiled) (l.prepare user r).run (l.prepare user r).run :=
  Lockstep.bindJob ((lockstep_issueToken hs user).attempt_failAlike _) fun token token' _ =>
    lockstep_mounts hs l r.mounts (veiled_withCredentials l user token token' r)

theorem lockstep_giveUp {α : Type} {V : α → α → Prop} (id : Int) (what : String) (e : Error) :
    Lockstep E R s s' (Agree V) (giveUp id what e).run (giveUp id what e).run := by
  have hentry : ∀ now now', (failure what e now).timeless = (failure what e now').timeless :=
    fun _ _ => rfl
  have happend : Lockstep E R s s' (Agree Eq) (Job.append id (failure what e)).run
      (Job.append id (failure what e)).run :=
    (lockstep_append hs id hentry).attempt .store
  exact Lockstep.bindJob happend fun _ _ _ => lockstep_done rfl

theorem lockstep_orGiveUp {α : Type} {V : α → α → Prop} (id : Int) (what : String)
    {job job' : Job α} (h : Lockstep E R s s' (Agree V) job.run job'.run) :
    Lockstep E R s s' (Agree V) (orGiveUp id what job).run (orGiveUp id what job').run :=
  Lockstep.tryCatch h fun e => lockstep_giveUp hs id what e

theorem lockstep_create (l : Launcher) (h : Veiled r r') :
    Lockstep E R s s' (Agree Eq) (l.create r).run (l.create r').run := by
  unfold create
  cases l.swarm with
  | true => exact (lockstep_createService hs h.bare).attempt .engine
  | false => exact (lockstep_createContainer hs h.bare).attempt .engine

omit hs in
theorem lockstep_need (id : Int) :
    Lockstep E R s s' (Agree (Container.Twins E)) (Job.need id).run (Job.need id).run := by
  refine Lockstep.bindJob (lockstep_get id).ask fun o o' ho => ?_
  cases ho with
  | none => exact lockstep_done rfl
  | some hc => exact lockstep_done hc

theorem lockstep_start (l : Launcher) (id : Int) (external : String) :
    Lockstep E R s s' (Agree (Container.Twins E)) (l.start id external).run
      (l.start id external).run := by
  cases hswarm : l.swarm with
  | true =>
    rw [start_of_swarm hswarm]
    exact lockstep_need id
  | false =>
    rw [start_of_plain hswarm]
    have hcall : Lockstep E R s s' (Agree Eq) (Job.engine (.startContainer external)).run
        (Job.engine (.startContainer external)).run :=
      (lockstep_engine hs (.startContainer external)).attempt .engine
    exact Lockstep.bindJob (lockstep_orGiveUp hs id _ hcall) fun _ _ _ => lockstep_need id

theorem lockstep_proceed (l : Launcher) (id : Int) (external : String) :
    Lockstep E R s s' (Agree (Container.Twins E)) (l.proceed id external).run
      (l.proceed id external).run :=
  Lockstep.bindJob ((lockstep_update hs id fun _ _ => twins_withEngineId l external).attempt_failAlike
    .store) fun _ _ _ => lockstep_start hs l id external

theorem lockstep_complete (l : Launcher) (h : Veiled r r') (id : Int) :
    Lockstep E R s s' (Agree (Container.Twins E)) (l.complete r id).run (l.complete r' id).run := by
  refine Lockstep.bindJob (lockstep_orGiveUp hs id _ (lockstep_create hs l h)) fun external _ he => ?_
  subst he
  exact lockstep_proceed hs l id external

/-- Launches are in lockstep, whatever token they get. -/
theorem lockstep_launch (hE : ∀ environment, IsMasked environment → E environment) (l : Launcher)
    (user : String) (r : Resolved) :
    Lockstep E R s s' (Agree (Container.Twins E)) (l.launch user r).run (l.launch user r).run := by
  rw [launch_eq]
  refine Lockstep.bindJob (lockstep_prepare hs l user r) fun r r' hr => ?_
  refine Lockstep.bindJob ((lockstep_engine hs .ping).attempt .engine) fun _ _ _ => ?_
  -- from here on the token itself is given to the call that creates the container, and to no other
  have hinsert := (lockstep_insert hs (twins_firstRecord hE hr l user)).attempt .store
  refine Lockstep.bindJob hinsert fun id _ hid => ?_
  subst hid
  exact lockstep_complete hs l hr id

end Lockstep

end Launcher

/-! ## Installations -/

section Installation

variable {ε α : Type} {E : OrderedMap String → Prop} {Before : String → Prop} {R : ε → ε → Prop}

/-- Whether two surroundings of launches have related engines and files with the same texts, except
that the records are twins. -/
structure Outside.Twins (E : OrderedMap String → Prop) (Before : String → Prop) (R : ε → ε → Prop)
    (o o' : Outside ε) : Prop where
  engine : R o.engine o'.engine
  files : o.files.Related (Written E Before) o'.files
  drawn : o.drawn = o'.drawn

theorem Outside.Twins.withEngine {o o' : Outside ε} (h : o.Twins E Before R o') {x x' : α × ε}
    (hx : Paired Eq R x x') :
    Paired Eq (Outside.Twins E Before R) (x.1, { o with engine := x.2 })
      (x'.1, { o' with engine := x'.2 }) :=
  ⟨hx.answer, hx.rest, h.files, h.drawn⟩

theorem Outside.Twins.withFiles {o o' : Outside ε} (h : o.Twins E Before R o') {V : α → α → Prop}
    {act act' : FileTree → α × FileTree}
    (hact : Paired V (FileTree.Related (Written E Before)) (act o.files) (act' o'.files)) :
    Paired V (Outside.Twins E Before R) (Installation.withFiles act o)
      (Installation.withFiles act' o') :=
  ⟨hact.answer, h.engine, hact.rest, h.drawn⟩

namespace Installation

variable (i : Installation ε) {tokens : Nat → Except (List String) String}

/-- The installation with other tokens. -/
def issuing (tokens : Nat → Except (List String) String) : Installation ε :=
  { i with tokens }

theorem matches_engine (hengine : Engine.Matches R i.engine i.engine) :
    Engine.Matches (Outside.Twins E Before R) i.surroundings.engine i.surroundings.engine where
  call call _ _ ho := ho.withEngine (hengine.call call _ _ ho.engine)
  createContainer r r' _ _ hr ho := ho.withEngine (hengine.createContainer r r' _ _ hr ho.engine)
  createService r r' _ _ hr ho := ho.withEngine (hengine.createService r r' _ _ hr ho.engine)

theorem matches_shelf :
    i.surroundings.shelf.Matches E (Outside.Twins E Before R) i.surroundings.shelf := by
  intro c c' o o' hc ho
  unfold surroundings
  cases i.storeDir with
  | none => exact ⟨rfl, ho⟩
  | some dir =>
    have hsave := Store.matches_directoryShelf dir Before c c' o.files o'.files hc ho.files
    dsimp only
    exact ho.withFiles hsave

/-- Launches cannot tell an installation from one that issues other tokens. -/
theorem matches_surroundings (hengine : Engine.Matches R i.engine i.engine)
    (htokens : ∀ n, FailAlike (i.tokens n) (tokens n)) (now now' : Outside ε → Instant) :
    Surroundings.Matches E (Outside.Twins E Before R) (i.surroundings.timed now)
      ((i.issuing tokens).surroundings.timed now') where
  shelf := i.matches_shelf
  engine := i.matches_engine hengine
  issueToken user o o' ho := by
    dsimp only [Surroundings.timed, surroundings, issuing]
    rw [ho.drawn]
    exact ⟨htokens o'.drawn, ho.engine, ho.files, rfl⟩
  makeBuildDirectory o o' ho := by
    dsimp only [Surroundings.timed, surroundings, issuing]
    unfold makeBuildDirectory
    rw [ho.drawn]
    have hmade := ho.files.makeDirs? (Files.join i.buildPath (i.directoryNames o'.drawn))
    dsimp only
    generalize o.files.makeDirs? _ = made, o'.files.makeDirs? _ = made' at hmade ⊢
    cases hmade with
    | none => exact ⟨rfl, ho.engine, ho.files, rfl⟩
    | some hfiles => exact ⟨rfl, ho.engine, hfiles, rfl⟩

end Installation

end Installation

/-! ## What is left of a launch -/

/-- Whether the answers of an engine do not depend on the environments it is given from a state
on. -/
def Engine.IgnoresEnvironment {ε : Type} (engine : Engine ε) (state : ε) : Prop :=
  ∃ R : ε → ε → Prop, Engine.Matches R engine engine ∧ R state state

/-- Whether two runs of a launch ended alike and left the same records, in the store and in files,
up to recording times. -/
structure LeftAlike {ε : Type} (x x' : Except Error Container × World (Outside ε)) : Prop where
  result : x.1.map Container.timeless = x'.1.map Container.timeless
  store : x.2.store.timeless = x'.2.store.timeless
  files : x.2.outside.files.Related SameText x'.2.outside.files

/-- Whether an environment shows a mask for the token, or was recorded before. -/
def Store.Hides (before : Store) (environment : OrderedMap String) : Prop :=
  Launcher.IsMasked environment ∨ ∃ c ∈ before.records, c.environment = environment

/-- Whether every record that is kept after a launch, in the store or in a file, hides the token or
was there before. -/
structure World.HidesToken {ε : Type} (before after : World (Outside ε)) : Prop where
  records : ∀ c ∈ after.store.records, before.store.Hides c.environment
  files : ∀ text, after.outside.files.Holds text → before.outside.files.Holds text ∨
    ∃ c : Container, text = c.text ∧ before.store.Hides c.environment

namespace Launcher

variable {ε : Type}

/-- A world is its own twin: what it keeps was there before. -/
theorem twins_self {R : ε → ε → Prop} (w : World (Outside ε))
    (hengine : R w.outside.engine w.outside.engine) :
    w.Twins w.store.Hides (Outside.Twins w.store.Hides w.outside.files.Holds R) w where
  store := ⟨List.forall₂_same.2 fun c hc => ⟨rfl, .inr ⟨c, hc, rfl⟩⟩, rfl, rfl⟩
  outside := ⟨hengine, .refl fun _ htext => .before htext, rfl⟩

/-- Launches that differ in the token alone end alike and leave the same up to recording times, and
the token is in nothing that is kept. -/
theorem launch_hides_token (i : Installation ε) {tokens : Nat → Except (List String) String}
    {w : World (Outside ε)} (hengine : i.engine.IgnoresEnvironment w.outside.engine)
    (htokens : ∀ n, FailAlike (i.tokens n) (tokens n)) (now now' : Outside ε → Instant)
    (l : Launcher) (user : String) (r : Resolved) :
    LeftAlike ((l.launch user r).run.run (i.surroundings.timed now) w)
        ((l.launch user r).run.run ((i.issuing tokens).surroundings.timed now') w) ∧
      w.HidesToken ((l.launch user r).run.run (i.surroundings.timed now) w).2 := by
  obtain ⟨R, hR, hstate⟩ := hengine
  have hs : Surroundings.Matches w.store.Hides
      (Outside.Twins w.store.Hides w.outside.files.Holds R) (i.surroundings.timed now)
      ((i.issuing tokens).surroundings.timed now') := i.matches_surroundings hR htokens now now'
  have hlockstep := lockstep_launch hs (fun _ => .inl) l user r
  obtain ⟨hresult, hworld⟩ := hlockstep w w (twins_self w hstate)
  generalize (l.launch user r).run.run (i.surroundings.timed now) w = x,
    (l.launch user r).run.run ((i.issuing tokens).surroundings.timed now') w = x' at hresult hworld ⊢
  obtain ⟨result, after⟩ := x
  obtain ⟨result', after'⟩ := x'
  constructor
  · refine ⟨?_, hworld.store.timeless, hworld.outside.files.mono fun _ _ h => h.sameText⟩
    cases result <;> cases result'
    · exact congrArg Except.error hresult
    · exact hresult.elim
    · exact hresult.elim
    · exact congrArg Except.ok hresult.alike
  · refine ⟨hworld.store.environments, fun text htext => ?_⟩
    obtain ⟨text', hwritten⟩ := hworld.outside.files.text htext
    cases hwritten with
    | before there => exact .inl there
    | twins h => exact .inr ⟨_, rfl, h.environment⟩

section Declared

/-- An installation that keeps its records in a directory, with an engine that creates containers
and cannot start them. -/
def keeping : Installation Unit where
  now := .epoch
  engine := creating.engine
  storeDir := some "store"
  logDir := "logs"
  serverPath := "server.json"
  buildPath := "build"
  tokens := fun _ => .ok "one"
  directoryNames := toString

/-- Its world with no records yet. -/
def vacant : World (Outside Unit) where
  store := .empty
  outside := { engine := (), files := ⟨[(["store"], .directory)]⟩ }

/-- A command that declares a variable with the name of the one for the token. -/
def declaring : Resolved :=
  { scratching with environment := .ofPairs [(passVariable, "declared")] }

/-- The records are the same for another token, and the declared variable does not show it. -/
theorem launch_hides_token_declared :
    keeping.engine.IgnoresEnvironment vacant.outside.engine ∧
      (∀ n, FailAlike (keeping.tokens n) (.ok "another")) ∧
      LeftAlike
        ((plain.launch "ann" declaring).run.run (keeping.surroundings.timed fun _ => .epoch) vacant)
        ((plain.launch "ann" declaring).run.run
          ((keeping.issuing fun _ => .ok "another").surroundings.timed fun _ => .epoch) vacant) ∧
      vacant.HidesToken ((plain.launch "ann" declaring).run.run
        (keeping.surroundings.timed fun _ => .epoch) vacant).2 := by
  have hengine : keeping.engine.IgnoresEnvironment vacant.outside.engine :=
    ⟨fun _ _ => True, ⟨fun _ _ _ _ => ⟨rfl, trivial⟩, fun _ _ _ _ _ _ => ⟨rfl, trivial⟩,
      fun _ _ _ _ _ _ => ⟨rfl, trivial⟩⟩, trivial⟩
  have htokens : ∀ n, FailAlike (keeping.tokens n) (.ok "another") := fun _ => rfl
  exact ⟨hengine, htokens, launch_hides_token keeping hengine htokens (fun _ => .epoch)
    (fun _ => .epoch) plain "ann" declaring⟩

end Declared

end Launcher

end Mooring
