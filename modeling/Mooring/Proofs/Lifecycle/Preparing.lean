import Mathlib.Data.List.Forall2
import Mooring.Engine.Arguments
import Mooring.Lifecycle.Installation
import Mooring.Lifecycle.Launcher
import Mooring.Proofs.Files.Tree
import Mooring.Proofs.Lifecycle.Redelivery

set_option autoImplicit false

/-!
# What making ready changes

A command is made ready mount by mount, and each result is written back by the name of its mount.
Where no two mounts share a name this is the same as binding each mount on its own
(`foldlM_bindMount`). So a command that was made ready is the command as it was, but for the three
variables of the credentials and for the directories of its mounts (`IsReady`): a mount keeps the
directory it had, and the others get new build directories, one each (`GivesOwn`).
-/

namespace Mooring

/-! ## Variables that are set -/

namespace OrderedMap

variable {α : Type}

/-- Variables keep their places when others are set, and new ones follow in their order. -/
theorem map_fst_setAll (m : OrderedMap α) {pairs : List (String × α)}
    (h : (pairs.map Prod.fst).Nodup) :
    (m.setAll pairs).entries.map Prod.fst =
      m.entries.map Prod.fst ++
        (pairs.map Prod.fst).filter fun name => name ∉ m.entries.map Prod.fst := by
  induction pairs generalizing m with
  | nil => simp [setAll]
  | cons p rest ih =>
    obtain ⟨hp, hrest⟩ := List.nodup_cons.1 h
    show ((m.set p.1 p.2).setAll rest).entries.map Prod.fst = _
    rw [ih _ hrest, List.map_cons]
    by_cases hm : p.1 ∈ m.entries.map Prod.fst
    · have hset : (m.set p.1 p.2).entries.map Prod.fst = m.entries.map Prod.fst :=
        map_fst_setPair_of_mem p.1 p.2 hm
      rw [hset, List.filter_cons_of_neg (by simpa using hm)]
    · have hset : (m.set p.1 p.2).entries.map Prod.fst = m.entries.map Prod.fst ++ [p.1] := by
        show (setPair p.1 p.2 m.entries).map Prod.fst = _
        rw [setPair_of_notMem p.1 p.2 hm, List.map_append]
        rfl
      rw [hset, List.filter_cons_of_pos (by simpa using hm), List.append_assoc]
      refine congrArg (m.entries.map Prod.fst ++ p.1 :: ·) (List.filter_congr fun name hname => ?_)
      have hne : name ≠ p.1 := fun heq => hp (heq ▸ hname)
      simp [hne]

end OrderedMap

/-! ## Mounts bound one after the other -/

namespace Resolved

variable {m : Mount} {mounts done : List Mount}

/-- The first mount of a name is the one that no other of that name stands before. -/
theorem changeFirst_append_cons {f : Mount → Mount} (h : m.name ∉ done.map Mount.name)
    (rest : List Mount) : changeFirst m.name f (done ++ m :: rest) = done ++ f m :: rest := by
  induction done with
  | nil => simp [changeFirst]
  | cons d done ih =>
    simp only [List.map_cons, List.mem_cons, not_or] at h
    simp [changeFirst, Ne.symm h.1, ih h.2]

/-- The place of the directory of a mount. -/
def Mount.place? (m : Mount) : Option (List String) :=
  m.hostPath.map Files.parts

end Resolved

namespace Launcher

open Resolved (Mount)

variable {l : Launcher} {m m' : Mount} {mounts mounts' : List Mount}

/-- The mount bound to a directory and to what the engine sees there. -/
def boundAt (l : Launcher) (m : Mount) (host : String) : Mount :=
  m.boundTo host (l.translate host)

@[simp] theorem name_boundAt (l : Launcher) (m : Mount) (host : String) :
    (l.boundAt m host).name = m.name :=
  rfl

/-- A mount bound to its directory, apart from the command it belongs to. -/
def bindAlone (l : Launcher) (m : Mount) : Job Mount := do
  let host ← hostPathOf m
  return l.boundAt m host

/-- To write back by name is to bind each mount on its own, if no two mounts share a name. -/
theorem foldlM_bindMount (l : Launcher) (r : Resolved) (done : List Mount)
    (h : ((done ++ mounts).map Mount.name).Nodup) :
    (mounts.foldlM l.bindMount { r with mounts := done ++ mounts } : Job Resolved) =
      mounts.mapM l.bindAlone >>= fun mounts' => pure { r with mounts := done ++ mounts' } := by
  induction mounts generalizing done with
  | nil => simp
  | cons m rest ih =>
    rw [List.foldlM_cons, List.mapM_cons]
    simp only [bindMount, bindAlone, bind_assoc, pure_bind]
    refine bind_congr fun host => ?_
    -- the mounts before this one have other names
    have hfirst : m.name ∉ done.map Mount.name := by
      intro hmem
      rw [List.map_append, List.map_cons] at h
      exact (List.nodup_append.1 h).2.2 _ hmem _ List.mem_cons_self rfl
    have hwritten : Resolved.bindMount { r with mounts := done ++ m :: rest } m.name host
        (l.translate host) = { r with mounts := (done ++ [l.boundAt m host]) ++ rest } := by
      unfold Resolved.bindMount
      simp only [Resolved.changeFirst_append_cons hfirst, List.append_assoc]
      rfl
    have hnames : ((done ++ [l.boundAt m host] ++ rest).map Mount.name).Nodup := by
      simpa using h
    rw [hwritten, ih _ hnames]
    simp

/-- To make a command ready is to issue a token and to bind each mount on its own, if no two mounts
share a name. -/
theorem prepare_eq (l : Launcher) (user : String) {r : Resolved}
    (h : (r.mounts.map Mount.name).Nodup) :
    l.prepare user r = do
      let token ← Job.attempt (.noToken user) (Routine.ask (.issueToken user))
      let mounts' ← r.mounts.mapM l.bindAlone
      return { l.withCredentials user token r with mounts := mounts' } :=
  bind_congr fun token => foldlM_bindMount l (l.withCredentials user token r) [] h

end Launcher

/-! ## Directories from the supply -/

namespace Tracker

variable {σ : Type}

theorem run_issueToken (s : Surroundings σ) (w : World σ) (user : String) :
    (Job.attempt (.noToken user) (Routine.ask (.issueToken user)) : Job String).run.run s w =
      let r := w.afterOutside (s.issueToken user w.outside)
      (r.1.mapError (.noToken user), r.2) :=
  rfl

theorem run_makeBuildDirectory (s : Surroundings σ) (w : World σ) :
    (Job.attempt .store (Routine.ask .makeBuildDirectory) : Job String).run.run s w =
      let r := w.afterOutside (s.makeBuildDirectory w.outside)
      (r.1.mapError .store, r.2) :=
  rfl

end Tracker

namespace Installation

open Resolved (Mount)

variable {ε : Type} {i : Installation ε} {l : Launcher} {m : Mount} {mounts mounts' : List Mount}
  {host : String} {o o' : Outside ε} {w w' : World (Outside ε)}

/-- The path of the build directory that a number of the supply names. -/
def directory (i : Installation ε) (n : Nat) : String :=
  Files.join i.buildPath (i.directoryNames n)

/-- What is outside after a token was issued. -/
def afterToken (o : Outside ε) : Outside ε :=
  { o with drawn := o.drawn + 1 }

/-- What is outside after a build directory was made. -/
def afterDirectory (files : FileTree) (o : Outside ε) : Outside ε :=
  { o with files, drawn := o.drawn + 1 }

/-- The mounts that are bound one after the other, with what is outside before and after: to the
directory a mount has, or to the next one of the supply. -/
inductive Binds (i : Installation ε) (l : Launcher) :
    List Mount → Outside ε → List Mount → Outside ε → Prop
  | nil (o : Outside ε) : Binds i l [] o [] o
  | kept {m : Mount} {mounts mounts' : List Mount} {host : String} {o o' : Outside ε}
    (has : m.hostPath = some host) (rest : Binds i l mounts o mounts' o') :
    Binds i l (m :: mounts) o (l.boundAt m host :: mounts') o'
  | made {m : Mount} {mounts mounts' : List Mount} {files : FileTree} {o o' : Outside ε}
    (lacks : m.hostPath = none) (made : o.files.makeDirs? (i.directory o.drawn) = some files)
    (rest : Binds i l mounts (afterDirectory files o) mounts' o') :
    Binds i l (m :: mounts) o (l.boundAt m (i.directory o.drawn) :: mounts') o'

theorem token_of_run {user token : String}
    (h : (Job.attempt (.noToken user) (Routine.ask (.issueToken user)) : Job String).run.run
      i.surroundings w = (.ok token, w')) :
    i.tokens w.outside.drawn = .ok token ∧ w' = { w with outside := afterToken w.outside } := by
  rw [Tracker.run_issueToken] at h
  have hissue : i.surroundings.issueToken user w.outside =
      (i.tokens w.outside.drawn, afterToken w.outside) := rfl
  rw [hissue] at h
  cases htoken : i.tokens w.outside.drawn <;> rw [htoken] at h <;> cases h
  exact ⟨rfl, rfl⟩

theorem makeBuildDirectory_surroundings (i : Installation ε) :
    i.surroundings.makeBuildDirectory = i.makeBuildDirectory := by
  rw [surroundings]

theorem makeBuildDirectory_eq_ok (h : i.makeBuildDirectory o = (.ok host, o')) :
    host = i.directory o.drawn ∧
      ∃ files, o.files.makeDirs? host = some files ∧ o' = afterDirectory files o := by
  unfold makeBuildDirectory at h
  simp only at h
  split at h
  · cases h
  · next files hmade =>
    cases h
    exact ⟨rfl, files, hmade, rfl⟩

/-- A mount has its directory, or it is given the next one of the supply. -/
theorem run_hostPathOf_cases
    (h : (Launcher.hostPathOf m).run.run i.surroundings w = (.ok host, w')) :
    (m.hostPath = some host ∧ w' = w) ∨
      (m.hostPath = none ∧ host = i.directory w.outside.drawn ∧
        ∃ files, w.outside.files.makeDirs? host = some files ∧
          w' = { w with outside := afterDirectory files w.outside }) := by
  unfold Launcher.hostPathOf at h
  cases hpath : m.hostPath with
  | some path =>
    rw [hpath] at h
    cases h
    exact .inl ⟨rfl, rfl⟩
  | none =>
    simp only [hpath, Tracker.run_makeBuildDirectory, makeBuildDirectory_surroundings] at h
    rcases hmake : i.makeBuildDirectory w.outside with ⟨_ | path, o⟩ <;> rw [hmake] at h <;> cases h
    obtain ⟨hhost, files, hmade, rfl⟩ := makeBuildDirectory_eq_ok hmake
    exact .inr ⟨rfl, hhost, files, hmade, rfl⟩

/-- Mounts that were bound one after the other took their directories in turn. -/
theorem binds_of_run (h : (mounts.mapM l.bindAlone : Job (List Mount)).run.run i.surroundings w =
    (.ok mounts', w')) : Binds i l mounts w.outside mounts' w'.outside := by
  induction mounts generalizing w mounts' with
  | nil =>
    cases h
    exact .nil _
  | cons m rest ih =>
    rw [List.mapM_cons] at h
    obtain ⟨m', w₁, hfirst, h⟩ := Tracker.exists_of_run_bindJob h
    obtain ⟨rest', w₂, hrest, h⟩ := Tracker.exists_of_run_bindJob h
    obtain ⟨host, w₀, hhost, hbound⟩ := Tracker.exists_of_run_bindJob hfirst
    cases h
    cases hbound
    rcases run_hostPathOf_cases hhost with ⟨hhas, rfl⟩ | ⟨hlacks, rfl, files, hmade, rfl⟩
    · exact .kept hhas (ih hrest)
    · exact .made hlacks hmade (ih hrest)

/-- What stands somewhere still stands there when all mounts are bound. -/
theorem Binds.at? {place : List String} {node : FileNode} (h : Binds i l mounts o mounts' o')
    (hplace : o.files.at? place = some node) : o'.files.at? place = some node := by
  induction h with
  | nil o => exact hplace
  | kept has rest ih => exact ih hplace
  | made lacks made rest ih => exact ih (FileTree.at?_makeDirs?_of_eq_some made hplace)

/-- Where the directory of a mount comes from: the mount had it, or it was made for a number. -/
theorem Binds.origin (h : Binds i l mounts o mounts' o') : ∀ p ∈ mounts.zip mounts',
    (∃ path, p.1.hostPath = some path ∧ p.2 = l.boundAt p.1 path) ∨
      (p.1.hostPath = none ∧ ∃ n, o.drawn ≤ n ∧ n < o.drawn + mounts.length ∧
        p.2 = l.boundAt p.1 (i.directory n) ∧ o'.files.isDirectory (i.directory n) = true) := by
  induction h with
  | nil o =>
    intro p hp
    cases hp
  | @kept m mounts mounts' host o o' has rest ih =>
    intro p hp
    rcases List.mem_cons.1 hp with rfl | hp
    · exact .inl ⟨host, has, rfl⟩
    · refine (ih p hp).imp_right fun ⟨hlacks, n, hle, hlt, hrest⟩ => ⟨hlacks, n, hle, ?_, hrest⟩
      simp only [List.length_cons]
      omega
  | @made m mounts mounts' files o o' lacks made rest ih =>
    intro p hp
    rcases List.mem_cons.1 hp with rfl | hp
    · refine .inr ⟨lacks, o.drawn, Nat.le_refl _, by simp, rfl, decide_eq_true ?_⟩
      exact rest.at? (FileTree.stands_of_makeDirs? made).at?
    · refine (ih p hp).imp_right fun ⟨hlacks, n, hle, hlt, hrest⟩ => ⟨hlacks, n, ?_, ?_, hrest⟩
      · exact Nat.le_of_succ_le hle
      · simp only [afterDirectory, List.length_cons] at hlt ⊢
        omega

theorem Binds.length_eq (h : Binds i l mounts o mounts' o') : mounts'.length = mounts.length := by
  induction h with
  | nil o => rfl
  | kept has rest ih => simp [ih]
  | made lacks made rest ih => simp [ih]

/-- Whether the names of a range of numbers are new: they name directories below the build
directory that differ, are not there yet and are no directory of a mount. -/
structure NamesNew (i : Installation ε) (files : FileTree) (mounts : List Mount)
    (first past : Nat) : Prop where
  isName : ∀ n, first ≤ n → n < past → Files.IsName (i.directoryNames n)
  distinct : ∀ n n', first ≤ n → n < n' → n' < past → i.directoryNames n ≠ i.directoryNames n'
  unused : ∀ n, first ≤ n → n < past → files.exists? (i.directory n) = false
  apart : ∀ n, first ≤ n → n < past →
    ∀ m ∈ mounts, m.place? ≠ some (Files.parts (i.directory n))

section

variable {files : FileTree} {first past n n' : Nat}

theorem NamesNew.tail (h : NamesNew i files (m :: mounts) first past) (k : Nat) :
    NamesNew i files mounts (first + k) past where
  isName _ hle := h.isName _ (Nat.le_of_add_right_le hle)
  distinct _ _ hle := h.distinct _ _ (Nat.le_of_add_right_le hle)
  unused _ hle := h.unused _ (Nat.le_of_add_right_le hle)
  apart _ hle hlt _ hm := h.apart _ (Nat.le_of_add_right_le hle) hlt _ (List.mem_cons_of_mem _ hm)

/-- Different numbers name different places. -/
theorem NamesNew.parts_ne (h : NamesNew i files mounts first past) (hle : first ≤ n) (hlt : n < n')
    (hlt' : n' < past) : Files.parts (i.directory n) ≠ Files.parts (i.directory n') := by
  unfold directory
  rw [Files.parts_join _ (h.isName n hle (Nat.lt_trans hlt hlt')),
    Files.parts_join _ (h.isName n' (Nat.le_trans hle (Nat.le_of_lt hlt)) hlt')]
  intro heq
  have hlast := List.append_inj_right heq rfl
  exact h.distinct n n' hle hlt hlt' (List.singleton_inj.1 hlast)

/-- No mount is bound to the place of another one, if either of them had no directory. -/
theorem Binds.own (h : Binds i l mounts o mounts' o')
    (hnew : NamesNew i files mounts o.drawn past) (hpast : o.drawn + mounts.length ≤ past) :
    (mounts.zip mounts').Pairwise fun p q =>
      p.1.hostPath = none ∨ q.1.hostPath = none → p.2.place? ≠ q.2.place? := by
  induction h with
  | nil o => exact .nil
  | @kept m mounts mounts' host o o' has rest ih =>
    simp only [List.length_cons] at hpast
    -- this mount has a directory, so the other one has a new one
    refine List.pairwise_cons.2 ⟨fun q hq hlacks => ?_, ih (hnew.tail 0) (by omega)⟩
    rcases rest.origin q hq with ⟨path, hpath, -⟩ | ⟨-, n, hle, hlt, hbound, -⟩
    · simp [has, hpath] at hlacks
    · have hapart := hnew.apart n hle (by omega) m List.mem_cons_self
      rw [hbound]
      rwa [Mount.place?, has] at hapart
  | @made m mounts mounts' tree o o' lacks made rest ih =>
    simp only [List.length_cons] at hpast
    have hrange : (afterDirectory tree o).drawn + mounts.length ≤ past := by
      simp only [afterDirectory]
      omega
    -- the new directory is none that a mount had, and none of a later number
    refine List.pairwise_cons.2 ⟨fun q hq _ => ?_, ih (hnew.tail 1) hrange⟩
    rcases rest.origin q hq with ⟨path, hpath, hbound⟩ | ⟨-, n, hle, hlt, hbound, -⟩
    · have hapart := hnew.apart o.drawn (Nat.le_refl _) (by omega) q.1
        (List.mem_cons_of_mem _ (List.of_mem_zip hq).1)
      rw [hbound]
      rw [Mount.place?, hpath] at hapart
      exact hapart.symm
    · rw [hbound]
      intro heq
      have hnext : o.drawn < n := hle
      exact hnew.parts_ne (Nat.le_refl _) hnext (by omega) (Option.some.inj heq)

end

end Installation

/-! ## The binds of a command line -/

namespace Engine

open Resolved (Mount)

/-- Whether a text binds a mount: to what the engine sees, at its path in the container, for reading
only unless it is writable. -/
def IsBindOf (m : Mount) (bind : String) : Prop :=
  ∃ source, m.enginePath = some source ∧
    bind = "type=bind,source=" ++ source ++ ",target=" ++ m.containerPath ++
      (if m.writable then "" else ",readonly")

theorem forall₂_isBindOf {mounts : List Mount} (h : ∀ m ∈ mounts, m.enginePath.isSome = true) :
    List.Forall₂ IsBindOf mounts (mounts.filterMap mountArgument?) := by
  induction mounts with
  | nil => exact .nil
  | cons m rest ih =>
    obtain ⟨hm, hrest⟩ := List.forall_mem_cons.1 h
    obtain ⟨source, hsource⟩ := Option.isSome_iff_exists.1 hm
    have hargument : mountArgument? m = some ("type=bind,source=" ++ source ++ ",target=" ++
        m.containerPath ++ (if m.writable then "" else ",readonly")) := by
      simp [mountArgument?, Mount.bindSource?, hsource]
    rw [List.filterMap_cons_some hargument]
    exact .cons ⟨source, hsource, rfl⟩ (ih hrest)

/-- The arguments of a command whose mounts are bound are those it has without mounts, and one more
flag for each mount. -/
theorem launchArguments_of_bound (service : Bool) {r : Resolved}
    (h : ∀ m ∈ r.mounts, m.enginePath.isSome = true) : ∃ front binds back,
      List.Forall₂ IsBindOf r.mounts binds ∧
      launchArguments service { r with mounts := [] } = front ++ back ∧
      launchArguments service r = front ++ binds.flatMap (fun bind => ["--mount", bind]) ++ back := by
  refine ⟨flagged "--workdir" id r.workingDirectory ++
      r.environment.entries.flatMap fun e => ["--env", e.1 ++ "=" ++ e.2],
    r.mounts.filterMap mountArgument?,
    ((r.ports.entries.filterMap portArgument?).flatMap fun p => ["--publish", p]) ++
      limitArguments service r, forall₂_isBindOf h, ?_, ?_⟩
  · simp [launchArguments, limitArguments]
  · simp [launchArguments]

end Engine

/-! ## Commands that are ready -/

namespace Launcher

open Resolved (Mount)

variable {ε : Type}

/-- The variables of the credentials. -/
def credentialNames : List String :=
  [hostVariable, userVariable, passVariable]

/-- Whether a mount is bound as it was declared: all but its directories is as it was, a directory
that it had too, and the engine sees the translation of its directory. -/
structure IsBound (l : Launcher) (m m' : Mount) : Prop where
  name : m'.name = m.name
  containerPath : m'.containerPath = m.containerPath
  writable : m'.writable = m.writable
  sourceInput : m'.sourceInput = m.sourceInput
  directory : ∃ host, m'.hostPath = some host ∧ m'.enginePath = some (l.translate host)
  kept : ∀ path, m.hostPath = some path → m'.hostPath = some path

/-- Whether a command is ready for the engine as it was declared, but for the credentials and the
directories of its mounts. -/
structure IsReady (l : Launcher) (user token : String) (r r' : Resolved) : Prop where
  rest : { r' with environment := r.environment, mounts := r.mounts } = r
  mounts : List.Forall₂ l.IsBound r.mounts r'.mounts
  arguments : ∀ service, ∃ front binds back,
    List.Forall₂ Engine.IsBindOf r'.mounts binds ∧
    Engine.launchArguments service { r' with mounts := [] } = front ++ back ∧
    Engine.launchArguments service r' =
      front ++ binds.flatMap (fun bind => ["--mount", bind]) ++ back
  host : r'.environment.get? hostVariable = some l.siteUrl
  user : r'.environment.get? userVariable = some user
  pass : r'.environment.get? passVariable = some token
  others : ∀ name, name ∉ credentialNames → r'.environment.get? name = r.environment.get? name
  places : r'.environment.entries.map Prod.fst = r.environment.entries.map Prod.fst ++
    credentialNames.filter fun name => name ∉ r.environment.entries.map Prod.fst

/-- Whether the mounts without a directory were given new ones, one each, by what the files were
before and after. -/
structure GivesOwn (i : Installation ε) (before after : FileTree) (mounts mounts' : List Mount) :
    Prop where
  made : ∀ p ∈ mounts.zip mounts', p.1.hostPath = none → ∃ name, Files.IsName name ∧
    p.2.hostPath = some (Files.join i.buildPath name) ∧
    before.exists? (Files.join i.buildPath name) = false ∧
    after.isDirectory (Files.join i.buildPath name) = true
  own : (mounts.zip mounts').Pairwise fun p q =>
    p.1.hostPath = none ∨ q.1.hostPath = none → p.2.place? ≠ q.2.place?

end Launcher

namespace Installation

open Resolved (Mount)

variable {ε : Type} {i : Installation ε} {l : Launcher} {mounts mounts' : List Mount}
  {o o' : Outside ε}

theorem Binds.isBound (h : Binds i l mounts o mounts' o') :
    List.Forall₂ l.IsBound mounts mounts' := by
  refine List.forall₂_iff_zip.2 ⟨h.length_eq.symm, fun {m m'} hp => ?_⟩
  rcases h.origin _ hp with ⟨path, hpath, hbound⟩ | ⟨hnone, n, -, -, hbound, -⟩
  · obtain rfl : m' = l.boundAt m path := hbound
    refine ⟨rfl, rfl, rfl, rfl, ⟨path, rfl, rfl⟩, fun other hother => ?_⟩
    exact hpath.symm.trans hother ▸ rfl
  · obtain rfl : m' = l.boundAt m (i.directory n) := hbound
    refine ⟨rfl, rfl, rfl, rfl, ⟨_, rfl, rfl⟩, fun other hother => ?_⟩
    cases hnone.symm.trans hother

theorem Binds.givesOwn {files : FileTree} {past : Nat} (h : Binds i l mounts o mounts' o')
    (hnew : NamesNew i files mounts o.drawn past) (hpast : o.drawn + mounts.length ≤ past) :
    Launcher.GivesOwn i files o'.files mounts mounts' where
  made p hp hlacks := by
    rcases h.origin p hp with ⟨path, hpath, -⟩ | ⟨-, n, hle, hlt, hbound, hthere⟩
    · cases hlacks.symm.trans hpath
    · have hlt' : n < past := Nat.lt_of_lt_of_le hlt hpast
      exact ⟨i.directoryNames n, hnew.isName n hle hlt', congrArg Mount.hostPath hbound,
        hnew.unused n hle hlt', hthere⟩
  own := h.own hnew hpast

end Installation

namespace Launcher

open Resolved (Mount)

variable {ε : Type} {i : Installation ε} {l : Launcher} {user token : String} {r r' : Resolved}
  {mounts mounts' : List Mount} {w w' : World (Outside ε)}

theorem isSome_enginePath_of_isBound (h : List.Forall₂ l.IsBound mounts mounts') :
    ∀ m' ∈ mounts', m'.enginePath.isSome = true := by
  induction h with
  | nil => exact nofun
  | cons hbound _ ih =>
    obtain ⟨host, -, hengine⟩ := hbound.directory
    exact List.forall_mem_cons.2 ⟨Option.isSome_iff_exists.2 ⟨_, hengine⟩, ih⟩

theorem environment_withCredentials (l : Launcher) (user token : String) (r : Resolved) :
    (l.withCredentials user token r).environment =
      ((r.environment.set hostVariable l.siteUrl).set userVariable user).set passVariable token :=
  rfl

theorem isReady_withCredentials (user token : String)
    (hbound : List.Forall₂ l.IsBound r.mounts mounts') :
    l.IsReady user token r { l.withCredentials user token r with mounts := mounts' } where
  rest := rfl
  mounts := hbound
  arguments service := Engine.launchArguments_of_bound service (isSome_enginePath_of_isBound hbound)
  host := by
    rw [environment_withCredentials, OrderedMap.get?_set_of_ne _ _ (by decide),
      OrderedMap.get?_set_of_ne _ _ (by decide), OrderedMap.get?_set_self]
  user := by
    rw [environment_withCredentials, OrderedMap.get?_set_of_ne _ _ (by decide),
      OrderedMap.get?_set_self]
  pass := by
    rw [environment_withCredentials, OrderedMap.get?_set_self]
  others name hname := by
    simp only [credentialNames, List.mem_cons, List.not_mem_nil, or_false, not_or] at hname
    rw [environment_withCredentials, OrderedMap.get?_set_of_ne _ _ hname.2.2,
      OrderedMap.get?_set_of_ne _ _ hname.2.1, OrderedMap.get?_set_of_ne _ _ hname.1]
  places := by
    have hdistinct : credentialNames.Nodup := by decide
    exact OrderedMap.map_fst_setAll r.environment hdistinct

/-- A command that was made ready is as it was declared, but for the variables of the credentials
and the directories of its mounts; the mounts that had none were given new ones, one each, if the
names of the supply are new. -/
theorem isReady_of_prepare (hnames : (r.mounts.map Mount.name).Nodup)
    (hrun : (l.prepare user r).run.run i.surroundings w = (.ok r', w')) :
    ∃ token, i.tokens w.outside.drawn = .ok token ∧ l.IsReady user token r r' ∧
      (i.NamesNew w.outside.files r.mounts (w.outside.drawn + 1)
          (w.outside.drawn + 1 + r.mounts.length) →
        GivesOwn i w.outside.files w'.outside.files r.mounts r'.mounts) := by
  -- the token takes one number of the supply, and the mounts take the ones after it
  rw [prepare_eq l user hnames] at hrun
  obtain ⟨token, w₁, htoken, hloop⟩ := Tracker.exists_of_run_bindJob hrun
  obtain ⟨hissued, rfl⟩ := Installation.token_of_run htoken
  obtain ⟨mounts', w₂, hmounts, hready⟩ := Tracker.exists_of_run_bindJob hloop
  cases hready
  have hbinds := Installation.binds_of_run hmounts
  exact ⟨token, hissued, isReady_withCredentials user token hbinds.isBound,
    fun hnew => hbinds.givesOwn hnew (Nat.le_refl _)⟩

section Yard

/-- An installation that names its build directories by number. -/
def yard : Installation Unit where
  now := .epoch
  engine := fun _ o => (.error .notConfigured, o)
  storeDir := none
  logDir := "logs"
  serverPath := "server.json"
  buildPath := "/build"
  tokens := fun _ => .ok "token"
  directoryNames := fun n => "b" ++ toString n

/-- Its world before anything was made. -/
def cleared : World (Outside Unit) where
  store := .empty
  outside := { engine := (), files := ⟨[]⟩ }

/-- A launcher for an engine that sees the directories somewhere else. -/
def overseas : Launcher where
  siteUrl := "https://site"
  translate := fun path => "/far" ++ path

/-- A command with a mount that has a directory and two that have none, and with a variable of the
name of the one for the token. -/
def threefold : Resolved where
  commandId := 1
  commandName := "sort"
  image := "i"
  commandLine := "l"
  environment := .ofPairs [(passVariable, "declared"), ("LANG", "C")]
  mounts := [⟨"in", "/in", false, some "/data/s1", none, some "session"⟩,
    ⟨"out", "/out", true, none, none, none⟩, ⟨"scratch", "/scratch", true, none, none, none⟩]

/-- What becomes of it. -/
def threefoldReady : Resolved :=
  { threefold with
    environment := .ofPairs [(passVariable, "token"), ("LANG", "C"), (hostVariable, "https://site"),
      (userVariable, "ann")]
    mounts := [⟨"in", "/in", false, some "/data/s1", some "/far/data/s1", some "session"⟩,
      ⟨"out", "/out", true, some "/build/b1", some "/far/build/b1", none⟩,
      ⟨"scratch", "/scratch", true, some "/build/b2", some "/far/build/b2", none⟩] }

theorem namesNew_yard : yard.NamesNew cleared.outside.files threefold.mounts 1 4 := by
  have hrange : ∀ n, 1 ≤ n → n < 4 → n = 1 ∨ n = 2 ∨ n = 3 := by omega
  refine ⟨fun n hle hlt => ?_, fun n n' hle hlt hlt' => ?_, fun n hle hlt => ?_,
    fun n hle hlt => ?_⟩
  · rcases hrange n hle hlt with rfl | rfl | rfl <;>
      exact ⟨by decide +kernel, by decide +kernel, by decide +kernel, by decide +kernel⟩
  · rcases hrange n hle (by omega) with rfl | rfl | rfl <;>
      rcases hrange n' (by omega) hlt' with rfl | rfl | rfl <;>
      first | omega | decide +kernel
  · rcases hrange n hle hlt with rfl | rfl | rfl <;> decide +kernel
  · rcases hrange n hle hlt with rfl | rfl | rfl <;> decide +kernel

theorem run_threefold : ∃ w', (overseas.prepare "ann" threefold).run.run yard.surroundings cleared =
    (.ok threefoldReady, w') :=
  ⟨_, rfl⟩

/-- The mount with a directory keeps it, the others get one each, and the declared variable is the
token. -/
theorem isReady_of_prepare_threefold : ∃ w',
    (threefold.mounts.map Mount.name).Nodup ∧
      yard.NamesNew cleared.outside.files threefold.mounts 1 4 ∧
      (overseas.prepare "ann" threefold).run.run yard.surroundings cleared =
        (.ok threefoldReady, w') ∧
      overseas.IsReady "ann" "token" threefold threefoldReady ∧
      GivesOwn yard cleared.outside.files w'.outside.files threefold.mounts threefoldReady.mounts := by
  have hnames : (threefold.mounts.map Mount.name).Nodup := by decide
  obtain ⟨w', hrun⟩ := run_threefold
  obtain ⟨token, htoken, hready, hown⟩ := isReady_of_prepare hnames hrun
  cases htoken
  exact ⟨w', hnames, namesNew_yard, hrun, hready, hown namesNew_yard⟩

end Yard

end Launcher

end Mooring
