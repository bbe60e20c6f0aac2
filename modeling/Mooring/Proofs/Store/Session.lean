import Mathlib.Data.List.Induction
import Mathlib.Data.List.Nodup
import Mooring.Proofs.Store.Mirror

set_option autoImplicit false

/-!
# A store at work in its directory

A session makes calls on a store whose records are kept in a directory. Each call may go wrong in
its own way (`Fault`), and the directory may be opened again in between.

From an empty directory, opening it after any calls gives the records of the store, a call that
fails leaves records and index alone, and no identifier is handed out twice, as long as the counter
has not come round: that takes as many insertions as there are positive identifiers
(`Session.reopens_as_held`).
-/

namespace Mooring.Store

/-- A change of a record that leaves its identifier alone. -/
structure Change where
  apply : Container → Container
  keepsId : ∀ c, (apply c).databaseId = c.databaseId

/-- What may be asked of a store. -/
inductive Call where
  | insert (c : Container)
  | update (id : Int) (change : Change)
  | append (id : Int) (entry : HistoryEntry)

/-- Whether a call adds a record, or tries to. -/
def Call.isInsert : Call → Bool
  | .insert _ => true
  | .update _ _ | .append _ _ => false

/-- What may happen to a store in a directory: a call, with what goes wrong in it, or that the
directory is opened again. -/
inductive Step where
  | call (fault : Fault) (call : Call)
  | reopen

/-- How many of the steps add a record, or try to. -/
def insertions (steps : List Step) : Nat :=
  steps.countP fun
    | .call _ call => call.isInsert
    | .reopen => false

/-- A store, the files it works on, and the identifiers that it handed out, oldest first. -/
structure Session where
  store : Store
  files : FileTree
  issued : List Int := []

namespace Session

/-- The session of a directory without records. -/
def blank (files : FileTree) : Session :=
  { store := empty, files }

/-- Whether a call on the store succeeded, and the session after it. -/
def after {α : Type} (issued : List Int) (r : Except StoreError α × Store × FileTree) :
    Except StoreError Unit × Session :=
  (r.1.map fun _ => (), { store := r.2.1, files := r.2.2, issued })

@[simp] theorem store_after {α : Type} (issued : List Int)
    (r : Except StoreError α × Store × FileTree) : (after issued r).2.store = r.2.1 :=
  rfl

/-- Whether a call succeeded, and the session after it. -/
def act (dir : String) (fault : Fault) (p : Session) : Call → Except StoreError Unit × Session
  | .insert c =>
    let r := p.store.insert (faultyShelf dir fault) c p.files
    after (p.issued ++ r.1.toOption.toList) r
  | .update id change =>
    after p.issued (p.store.update (faultyShelf dir fault) id change.apply p.files)
  | .append id entry => after p.issued (p.store.append (faultyShelf dir fault) id entry p.files)

/-- Whether a step succeeded, and the session after it. -/
def step [FileTree.Listing] (dir : String) (p : Session) : Step → Except StoreError Unit × Session
  | .call fault call => p.act dir fault call
  | .reopen =>
    match openIn dir p.files with
    | (.ok store, files) => (.ok (), { p with store, files })
    | (.error e, files) => (.error e, { p with files })

/-- The session after steps. -/
def run [FileTree.Listing] (dir : String) (p : Session) (steps : List Step) : Session :=
  steps.foldl (fun p step => (p.step dir step).2) p

theorem run_concat [FileTree.Listing] (dir : String) (p : Session) (steps : List Step)
    (last : Step) :
    p.run dir (steps ++ [last]) = ((p.run dir steps).step dir last).2 := by
  unfold run
  rw [List.foldl_append]
  rfl

section Acting

variable {dir : String} {fault : Fault} {p : Session} {call : Call}

theorem act_insert (c : Container) :
    p.act dir fault (.insert c) =
      after (p.issued ++ (p.store.insert (faultyShelf dir fault) c p.files).1.toOption.toList)
        (p.store.insert (faultyShelf dir fault) c p.files) :=
  rfl

theorem act_update (id : Int) (change : Change) :
    p.act dir fault (.update id change) =
      after p.issued (p.store.update (faultyShelf dir fault) id change.apply p.files) :=
  rfl

theorem act_append (id : Int) (entry : HistoryEntry) :
    p.act dir fault (.append id entry) =
      after p.issued (p.store.append (faultyShelf dir fault) id entry p.files) :=
  rfl

theorem step_reopen_of_ok [FileTree.Listing] {store : Store} {files : FileTree}
    (h : openIn dir p.files = (.ok store, files)) :
    p.step dir .reopen = (.ok (), { p with store, files }) := by
  unfold step
  simp only [h]

/-- A call that fails leaves the records and the index as they were. -/
theorem unchanged_of_error {e : StoreError} (h : (p.act dir fault call).1 = .error e) :
    (p.act dir fault call).2.store.records = p.store.records ∧
      (p.act dir fault call).2.store.index = p.store.index := by
  cases call with
  | insert c =>
    rw [act_insert] at h ⊢
    rcases insert_cases (faultyShelf dir fault) p.store p.files c with ⟨-, hr⟩ | ⟨err, -, hr⟩
    · rw [hr] at h
      cases h
    · rw [hr]
      exact ⟨rfl, rfl⟩
  | update id change =>
    rw [act_update] at h ⊢
    rcases update_cases (faultyShelf dir fault) id p.store p.files change.apply with
      ⟨-, hr⟩ | ⟨c, -, -, hr⟩ | ⟨c, err, -, -, hr⟩
    · rw [hr]
      exact ⟨rfl, rfl⟩
    · rw [hr] at h
      cases h
    · rw [hr]
      exact ⟨rfl, rfl⟩
  | append id entry =>
    rw [act_append] at h ⊢
    rcases append_cases (faultyShelf dir fault) id p.store p.files entry with
      ⟨-, hr⟩ | ⟨c, -, -, hr⟩ | ⟨c, d, -, -, -, hr⟩ | ⟨c, d, err, -, -, -, hr⟩
    · rw [hr]
      exact ⟨rfl, rfl⟩
    · rw [hr]
      exact ⟨rfl, rfl⟩
    · rw [hr] at h
      cases h
    · rw [hr]
      exact ⟨rfl, rfl⟩

/-- A step that fails leaves the records and the index as they were. -/
theorem unchanged_of_step_error [FileTree.Listing] {step : Step} {e : StoreError}
    (h : (p.step dir step).1 = .error e) :
    (p.step dir step).2.store.records = p.store.records ∧
      (p.step dir step).2.store.index = p.store.index := by
  cases step with
  | call fault call => exact unchanged_of_error h
  | reopen =>
    unfold Session.step at h ⊢
    cases hopen : openIn dir p.files with
    | mk r files =>
      cases r with
      | ok store =>
        simp only [hopen] at h
        cases h
      | error e => exact ⟨rfl, rfl⟩

/-! ## What a call keeps -/

/-- Each call keeps the directory a mirror of the store. -/
theorem mirrors_act (h : Mirrors dir p.store p.files) (fault : Fault) (call : Call) :
    Mirrors dir (p.act dir fault call).2.store (p.act dir fault call).2.files := by
  have hshelf := faultyShelf_keepsIn dir fault
  have hbefore : Mirrors dir p.store (id p.files) := h
  cases call with
  | insert c => exact hbefore.insert hshelf c
  | update id change => exact hbefore.update hshelf id change.apply
  | append id entry => exact hbefore.append hshelf id entry

/-- After `n` insertions: the next identifier is beyond those of the records and at most `n` are
before it, and those that were handed out are different and lead to records. -/
structure Counts (p : Session) (n : Nat) : Prop where
  fresh : ∀ c ∈ p.store.records, c.databaseId < p.store.nextId
  next : p.store.nextId ≤ n + 1
  issued : ∀ id ∈ p.issued, (p.store.get? id).isSome = true
  nodup : p.issued.Nodup

theorem counts_blank (files : FileTree) : (blank files).Counts 0 where
  fresh := List.forall_mem_nil _
  next := Int.le_refl 1
  issued := List.forall_mem_nil _
  nodup := List.nodup_nil

/-- A record that is put in a store hides none. -/
theorem isSome_get?_put {s : Store} {id : Int} (h : (s.get? id).isSome = true) (c : Container) :
    ((s.put c).get? id).isSome = true := by
  rw [get?_put]
  split
  · rfl
  · exact h

/-- The next identifier was not handed out. -/
theorem Counts.nextId_notMem {n : Nat} (h : p.Counts n) : p.store.nextId ∉ p.issued := by
  intro hid
  obtain ⟨c, hc⟩ := Option.isSome_iff_exists.1 (h.issued _ hid)
  have hlt := h.fresh c (mem_of_get? hc)
  rw [databaseId_of_get? hc] at hlt
  omega

/-- A record that is put in the place of one that was there changes no count. -/
theorem Counts.put {n : Nat} (h : p.Counts n) {id : Int} {c d : Container} {q : Session}
    (hc : p.store.get? id = some c) (hid : d.databaseId = c.databaseId)
    (hstore : q.store.records = (p.store.put d).records) (hnext : q.store.nextId = p.store.nextId)
    (hissued : q.issued = p.issued) : q.Counts n where
  fresh := by
    intro e he
    rw [hstore] at he
    rw [hnext]
    rcases mem_place he with rfl | he
    · rw [hid]
      exact h.fresh c (mem_of_get? hc)
    · exact h.fresh e he
  next := by
    rw [hnext]
    exact h.next
  issued := by
    intro other hother
    rw [hissued] at hother
    have hput := isSome_get?_put (h.issued other hother) d
    unfold get? at hput ⊢
    rwa [hstore]
  nodup := by
    rw [hissued]
    exact h.nodup

/-- An insertion is counted, as long as there is an identifier after the next. -/
theorem Counts.insert {n : Nat} (h : p.Counts n) (hn : (n : Int) + 1 < lastId) (fault : Fault)
    (c : Container) : (p.act dir fault (.insert c)).2.Counts (n + 1) := by
  have hskipped : p.store.skipped.nextId = p.store.nextId + 1 := by
    have hbefore := h.next
    exact nextAfter_of_ne (by omega)
  have hnext : p.store.skipped.nextId ≤ ((n + 1 : Nat) : Int) + 1 := by
    have hbefore := h.next
    rw [hskipped]
    omega
  have hfresh : ∀ d ∈ p.store.records, d.databaseId < p.store.skipped.nextId := by
    intro d hd
    have hbefore := h.fresh d hd
    rw [hskipped]
    omega
  rw [act_insert]
  rcases insert_cases (faultyShelf dir fault) p.store p.files c with ⟨-, hr⟩ | ⟨err, -, hr⟩
  · rw [hr]
    refine ⟨fun d hd => ?_, hnext, fun id hid => ?_, ?_⟩
    · show d.databaseId < p.store.skipped.nextId
      rcases mem_place hd with rfl | hd
      · show p.store.nextId < _
        omega
      · exact hfresh d hd
    · rcases List.mem_append.1 hid with hid | hid
      · exact isSome_get?_put (h.issued id hid) _
      · obtain rfl : id = p.store.nextId := List.mem_singleton.1 hid
        exact Option.isSome_iff_exists.2 ⟨p.store.numbered c, get?_put_of_eq rfl⟩
    · show (p.issued ++ [p.store.nextId]).Nodup
      rw [← List.concat_eq_append]
      exact h.nodup.concat h.nextId_notMem
  · have hsame : p.issued ++ (Except.error err : Except StoreError Int).toOption.toList =
        p.issued := List.append_nil _
    rw [hr, hsame]
    exact ⟨hfresh, hnext, h.issued, h.nodup⟩

/-- Other calls change no count. -/
theorem Counts.act {n : Nat} (h : p.Counts n) (hcall : call.isInsert = false) (fault : Fault) :
    (p.act dir fault call).2.Counts n := by
  cases call with
  | insert c => cases hcall
  | update id change =>
    rw [act_update]
    rcases update_cases (faultyShelf dir fault) id p.store p.files change.apply with
      ⟨-, hr⟩ | ⟨c, hc, -, hr⟩ | ⟨c, err, -, -, hr⟩
    · rw [hr]
      exact h
    · rw [hr]
      exact h.put hc (change.keepsId c) rfl rfl rfl
    · rw [hr]
      exact ⟨h.fresh, h.next, h.issued, h.nodup⟩
  | append id entry =>
    rw [act_append]
    rcases append_cases (faultyShelf dir fault) id p.store p.files entry with
      ⟨-, hr⟩ | ⟨c, -, -, hr⟩ | ⟨c, d, hc, hd, -, hr⟩ | ⟨c, d, err, -, -, -, hr⟩
    · rw [hr]
      exact h
    · rw [hr]
      exact h
    · rw [hr]
      exact h.put hc (Container.databaseId_of_append? hd) rfl rfl rfl
    · rw [hr]
      exact ⟨h.fresh, h.next, h.issued, h.nodup⟩

/-- In an opened store the next identifier follows those of the records. -/
theorem nextId_of_openIn [FileTree.Listing] {files files' : FileTree} {store : Store}
    (hopen : openIn dir files = (.ok store, files')) : store.nextId = store.followingId := by
  obtain ⟨-, -, rfl⟩ := openIn_eq_ok_iff.1 hopen
  rfl

theorem get?_of_records_eq_map {s t : Store}
    (h : t.records = s.records.map Container.unmemoized) (id : Int) :
    t.get? id = (s.get? id).map Container.unmemoized := by
  unfold get?
  rw [h, List.find?_map]
  rfl

/-- Opening the directory again changes no count, as long as there is an identifier after the
next. -/
theorem Counts.reopen [FileTree.Listing] {n : Nat} (h : p.Counts n) (hn : (n : Int) < lastId)
    {files : FileTree} {store : Store} (hordered : store.Ordered)
    (hopen : openIn dir p.files = (.ok store, files))
    (hrecords : store.records = p.store.records.map Container.unmemoized) :
    Counts { p with store, files } n := by
  have hbefore : ∀ c ∈ store.records, c.databaseId < p.store.nextId := by
    intro c hc
    rw [hrecords, List.mem_map] at hc
    obtain ⟨d, hd, rfl⟩ := hc
    exact h.fresh d hd
  have hnext := h.next
  refine ⟨?_, ?_, ?_, h.nodup⟩
  · intro c hc
    show c.databaseId < store.nextId
    rw [nextId_of_openIn hopen]
    refine databaseId_lt_followingId hordered ?_ hc
    -- the last identifier is beyond the next one, and so no record has it
    refine List.find?_eq_none.2 fun d hd hid => ?_
    have hlt := hbefore d hd
    have hlast : d.databaseId = lastId := of_decide_eq_true hid
    omega
  · show store.nextId ≤ _
    rw [nextId_of_openIn hopen]
    rcases followingId_cases hordered with ⟨-, hfirst⟩ | ⟨last, hlast, -, hafter⟩
    · rw [hfirst]
      omega
    · have hlt := hbefore last hlast
      rw [hafter, nextAfter_of_ne (by omega)]
      omega
  · intro id hid
    show (store.get? id).isSome = true
    rw [get?_of_records_eq_map hrecords, Option.isSome_map]
    exact h.issued id hid

end Acting

section Running

variable [FileTree.Listing] {dir : String} {files : FileTree} {steps : List Step} {p : Session}

/-- Whether every record that is held at any time in a run reads back from its text. -/
def ReadBack (dir : String) (p : Session) (steps : List Step) : Prop :=
  ∀ front, front <+: steps → ∀ c ∈ (p.run dir front).store.records, c.ReadsBack

theorem ReadBack.front {front : List Step} (h : ReadBack dir p steps)
    (hfront : front <+: steps) : ReadBack dir p front :=
  fun _ h₁ => h _ (h₁.trans hfront)

/-- Each step keeps the directory a mirror of the store, if the records that are held read back. -/
theorem mirrors_step (h : Mirrors dir p.store p.files) (step : Step)
    (hread : ∀ c ∈ p.store.records, c.ReadsBack) :
    Mirrors dir (p.step dir step).2.store (p.step dir step).2.files := by
  cases step with
  | call fault call => exact mirrors_act h fault call
  | reopen =>
    obtain ⟨t, hopen, -, hmirrors⟩ := h.openIn hread
    rw [step_reopen_of_ok hopen]
    exact hmirrors

theorem mirrors_run (h : Mirrors dir p.store p.files) (hread : ReadBack dir p steps) :
    Mirrors dir (p.run dir steps).store (p.run dir steps).files := by
  induction steps using List.reverseRecOn with
  | nil => exact h
  | append_singleton steps last ih =>
    have hfront : steps <+: steps ++ [last] := List.prefix_append steps [last]
    rw [run_concat]
    exact mirrors_step (ih (hread.front hfront)) last (hread _ hfront)

/-- Each step is counted. -/
theorem Counts.step {n : Nat} (h : p.Counts n) (hmirrors : Mirrors dir p.store p.files)
    (hread : ∀ c ∈ p.store.records, c.ReadsBack) (step : Step)
    (hn : ((n + insertions [step] : Nat) : Int) < lastId) :
    (p.step dir step).2.Counts (n + insertions [step]) := by
  cases step with
  | call fault call =>
    cases hcall : call.isInsert with
    | false =>
      have hnone : insertions [.call fault call] = 0 := by simp [insertions, hcall]
      rw [hnone]
      exact h.act hcall fault
    | true =>
      cases call with
      | insert c => exact h.insert (by exact_mod_cast hn) fault c
      | update | append => cases hcall
  | reopen =>
    obtain ⟨t, hopen, hrecords, ht⟩ := hmirrors.openIn hread
    rw [step_reopen_of_ok hopen]
    exact h.reopen (by exact_mod_cast hn) ht.ordered hopen hrecords

theorem counts_run {n : Nat} (h : p.Counts n) (hmirrors : Mirrors dir p.store p.files)
    (hread : ReadBack dir p steps) (hn : ((n + insertions steps : Nat) : Int) < lastId) :
    (p.run dir steps).Counts (n + insertions steps) := by
  induction steps using List.reverseRecOn with
  | nil => exact h
  | append_singleton steps last ih =>
    have hfront : steps <+: steps ++ [last] := List.prefix_append steps [last]
    have hsum : n + insertions (steps ++ [last]) = n + insertions steps + insertions [last] := by
      unfold insertions
      rw [List.countP_append, Nat.add_assoc]
    rw [hsum] at hn ⊢
    rw [run_concat]
    exact (ih (hread.front hfront) (by omega)).step (mirrors_run hmirrors (hread.front hfront))
      (hread _ hfront) last hn

/-- After any steps of a store that started from an empty directory, whatever went wrong in them,
opening the directory again succeeds, changes no file and gives the records of the store; a further
step that fails leaves records and index as they are; and no identifier was handed out twice, if
there were fewer insertions than there are positive identifiers. -/
theorem reopens_as_held (hdir : files.Stands dir) (hnames : files.entries dir = [])
    (hread : ReadBack dir (blank files) steps) :
    (∃ store, openIn dir ((blank files).run dir steps).files =
        (.ok store, ((blank files).run dir steps).files) ∧
      store.records = ((blank files).run dir steps).store.records.map Container.unmemoized) ∧
    ((insertions steps : Int) < lastId → ((blank files).run dir steps).issued.Nodup) ∧
    ∀ (step : Step) (e : StoreError),
      (((blank files).run dir steps).step dir step).1 = .error e →
        (((blank files).run dir steps).step dir step).2.store.records =
          ((blank files).run dir steps).store.records ∧
        (((blank files).run dir steps).step dir step).2.store.index =
          ((blank files).run dir steps).store.index := by
  have hblank : Mirrors dir (blank files).store (blank files).files := mirrors_empty hdir hnames
  obtain ⟨store, hopen, hrecords, -⟩ :=
    (mirrors_run hblank hread).openIn (hread _ List.prefix_rfl)
  refine ⟨⟨store, hopen, hrecords⟩, fun hfew => ?_, fun _ _ h => unchanged_of_step_error h⟩
  exact (counts_run (counts_blank files) hblank hread (by rwa [Nat.zero_add])).nodup

end Running

/-- A directory without files. -/
def bareFiles : FileTree :=
  ⟨[(["records"], .directory)]⟩

/-- The record of a container. -/
def plainRecord : Container :=
  { commandId := 1, userId := "u", image := "i", commandLine := "l", statusTime := ⟨0, 0⟩ }

/-- A record is added, and an entry of it is not saved, since the draft cannot be moved. -/
def briefly : List Step :=
  [.call .none (.insert plainRecord), .call .move (.append 1 (.ofSystem ⟨1, 0⟩ "Waiting"))]

theorem records_briefly :
    ((blank bareFiles).run "records" (briefly.take 1)).store.records = [numbered empty plainRecord] ∧
      ((blank bareFiles).run "records" briefly).store.records = [numbered empty plainRecord] := by
  decide +kernel

theorem readsBack_plainRecord : (numbered empty plainRecord).ReadsBack :=
  Container.readsBack_of_toJson (by decide) (by decide +kernel)

theorem readBack_briefly : ReadBack "records" (blank bareFiles) briefly := by
  intro front hfront c hc
  have hcases : front = [] ∨ front = briefly.take 1 ∨ front = briefly := by
    rw [List.prefix_iff_eq_take] at hfront
    have hlength : front.length = 0 ∨ front.length = 1 ∨ 2 ≤ front.length := by omega
    rcases hlength with h | h | h
    · exact .inl (List.eq_nil_of_length_eq_zero h)
    · exact .inr (.inl (h ▸ hfront))
    · exact .inr (.inr (hfront.trans (List.take_of_length_le h)))
  rcases hcases with rfl | rfl | rfl
  · cases hc
  · rw [records_briefly.1] at hc
    rw [List.mem_singleton.1 hc]
    exact readsBack_plainRecord
  · rw [records_briefly.2] at hc
    rw [List.mem_singleton.1 hc]
    exact readsBack_plainRecord

theorem reopens_as_held_briefly :
    ∃ store, openIn "records" ((blank bareFiles).run "records" briefly).files =
        (.ok store, ((blank bareFiles).run "records" briefly).files) ∧
      store.records = [numbered empty plainRecord] := by
  have hdir : bareFiles.Stands "records" := FileTree.stands_of_makeDirs? (t := bareFiles) rfl
  obtain ⟨store, hopen, hrecords⟩ :=
    (reopens_as_held hdir (by decide +kernel) readBack_briefly).1
  rw [records_briefly.2] at hrecords
  exact ⟨store, hopen, hrecords⟩

end Session

end Mooring.Store
