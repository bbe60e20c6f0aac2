import Mathlib.Logic.Function.Iterate
import Mooring.Proofs.Store.Session

set_option autoImplicit false

/-!
# Files that were not loaded

Opening a directory passes over the files that do not read as records, and the next identifier
follows the greatest of the records that were loaded. A record is saved by the name of its
identifier, so that a file which was passed over can stand where a record goes. Identifiers come
round, so that which names can be written depends on how many insertions there are.

Which directories are safe for a number of insertions is said exactly: calls leave every file alone
that was not loaded, and an identifier is handed out only where no file has its name, if and only if
nothing stands in the way of the records that can be saved (`spares_iff_inOrder`). A directory with
an unreadable `1.json` and no record is not safe for one: the first record takes its place
(`insert_replaces_unreadable`).
-/

namespace Mooring.Store

open FileTree

/-! ## What is promised, and where it holds -/

/-- The session after calls, each with what goes wrong in it. -/
def Session.serve (dir : String) (p : Session) (calls : List (Fault × Call)) : Session :=
  calls.foldl (fun p call => (p.act dir call.1 call.2).2) p

/-- How many of the calls add a record, or try to. -/
def insertionsAmong (calls : List (Fault × Call)) : Nat :=
  calls.countP fun call => call.2.isInsert

/-- Whether a name in a directory is that of a file that was not loaded. -/
def PassedOver (dir : String) (files : FileTree) (name : String) : Prop :=
  (∃ text, files.below? dir name = some (.file text)) ∧ recordIn? dir files name = none

/-- After any calls on a store in a directory with that many insertions at most, the files that were
not loaded are as they were, and each of these insertions succeeds only under an identifier whose
file was not there before. -/
structure Spares (n : Nat) (dir : String) (s : Store) (files : FileTree) : Prop where
  passedOver : ∀ (calls : List (Fault × Call)) (name : String), insertionsAmong calls ≤ n →
    PassedOver dir files name →
      (Session.serve dir ⟨s, files, []⟩ calls).files.below? dir name = files.below? dir name
  unused : ∀ (calls : List (Fault × Call)) (fault : Fault) (c : Container) (id : Int)
    (p : Session), insertionsAmong calls < n → p = Session.serve dir ⟨s, files, []⟩ calls →
    (p.store.insert (faultyShelf dir fault) c p.files).1 = .ok id →
      p.files.below? dir (recordName id) = none

/-- The identifier that is handed out after some others. -/
def upcoming (s : Store) (k : Nat) : Int :=
  nextAfter^[k] s.nextId

/-- Whether a record may be saved under an identifier by calls with that many insertions: one of
them is given it, or a record that was loaded has it. -/
def MaySave (n : Nat) (s : Store) (id : Int) : Prop :=
  (∃ k < n, id = s.upcoming k) ∨ (s.get? id).isSome = true

/-- Nothing stands where calls with that many insertions can save records, but the files that were
loaded, and no identifier comes round to where one was saved. No record can be saved where a
directory stands in the place of its draft. -/
structure InOrder (n : Nat) (dir : String) (s : Store) (files : FileTree) : Prop where
  draft : ∀ id, MaySave n s id → files.below? dir (draftName id) ≠ some .directory →
    files.below? dir (draftName id) = none
  ahead : ∀ k < n, files.below? dir (draftName (s.upcoming k)) ≠ some .directory →
    files.below? dir (recordName (s.upcoming k)) = none ∧ ¬ MaySave k s (s.upcoming k)
  loaded : ∀ id, (s.get? id).isSome = true → files.below? dir (draftName id) ≠ some .directory →
    ¬ PassedOver dir files (recordName id)

section Serving

variable {dir : String} {s : Store} {files : FileTree} {p : Session} {n k : Nat} {id : Int}

theorem serve_append (p : Session) (calls more : List (Fault × Call)) :
    p.serve dir (calls ++ more) = (p.serve dir calls).serve dir more :=
  List.foldl_append

theorem insertionsAmong_append (calls more : List (Fault × Call)) :
    insertionsAmong (calls ++ more) = insertionsAmong calls + insertionsAmong more :=
  List.countP_append

theorem upcoming_succ (s : Store) (k : Nat) : s.upcoming (k + 1) = nextAfter (s.upcoming k) :=
  Function.iterate_succ_apply' nextAfter k s.nextId

theorem MaySave.mono (h : MaySave k s id) (hkn : k ≤ n) : MaySave n s id :=
  h.imp_left fun ⟨j, hj, hid⟩ => ⟨j, Nat.lt_of_lt_of_le hj hkn, hid⟩

/-! ## What calls leave alone -/

/-- Whether records are saved at a place: it belongs to an identifier under which one may be saved,
and no directory stands in the place of its draft. -/
def IsUsed (n : Nat) (dir : String) (s : Store) (files : FileTree) (place : List String) : Prop :=
  ∃ id, MaySave n s id ∧ files.below? dir (draftName id) ≠ some .directory ∧
    (place = recordPlace dir id ∨ place = draftPlace dir id)

theorem IsUsed.mono {place : List String} (h : IsUsed k dir s files place) (hkn : k ≤ n) :
    IsUsed n dir s files place :=
  let ⟨id, hid, hplace⟩ := h
  ⟨id, hid.mono hkn, hplace⟩

/-- What holds after calls on a store `s` in the directory of `files`, with that many insertions. -/
structure Serves (n : Nat) (dir : String) (s : Store) (files : FileTree) (p : Session) : Prop where
  stands : p.files.Stands dir
  next : p.store.nextId = s.upcoming n
  known : ∀ c ∈ p.store.records, MaySave n s c.databaseId
  others : ∀ place, ¬ IsUsed n dir s files place →
    p.files.nodes.lookup place = files.nodes.lookup place

theorem draftPlace_inj {id other : Int} :
    draftPlace dir id = draftPlace dir other ↔ id = other := by
  constructor
  · intro h
    have hname : draftName id = draftName other := by simpa [draftPlace] using h
    exact draftName_inj.1 hname
  · exact congrArg (draftPlace dir)

/-- A directory in the place of a draft stays there. -/
theorem Serves.draft (h : Serves n dir s files p)
    (hdirectory : files.below? dir (draftName id) = some .directory) :
    p.files.below? dir (draftName id) = some .directory := by
  rw [below?_eq_lookup (isName_draftName id)] at hdirectory ⊢
  rw [← hdirectory]
  apply h.others
  rintro ⟨other, -, hfree, hplace | hplace⟩
  · exact recordPlace_ne_draftPlace dir other id hplace.symm
  · obtain rfl := draftPlace_inj.1 hplace
    rw [below?_eq_lookup (isName_draftName id)] at hfree
    exact hfree hdirectory

/-- A save under an identifier that may be used touches no other places. -/
theorem Serves.lookup_save (h : Serves k dir s files p) (hkn : k ≤ n) (fault : Fault)
    {c : Container} (hc : MaySave n s c.databaseId) {place : List String}
    (hplace : ¬ IsUsed n dir s files place) :
    (saveWith dir fault c p.files).2.nodes.lookup place = files.nodes.lookup place := by
  have hbefore : p.files.nodes.lookup place = files.nodes.lookup place :=
    h.others place fun hused => hplace (hused.mono hkn)
  have hdraft : place = draftPlace dir c.databaseId →
      files.below? dir (draftName c.databaseId) = some .directory := by
    intro hp
    by_contra hfree
    exact hplace ⟨c.databaseId, hc, hfree, .inr hp⟩
  rcases saveWith_cases h.stands fault c with ⟨files', hr, hsaved⟩ | ⟨e, files', hr, honly⟩
  · have hfree : files.below? dir (draftName c.databaseId) ≠ some .directory := by
      intro hdirectory
      exact hsaved.draft (h.draft hdirectory)
    rw [hr, hsaved.lookup, if_neg, if_neg]
    · exact hbefore
    · exact fun hp => hfree (hdraft hp)
    · exact fun hp => hplace ⟨c.databaseId, hc, hfree, .inl hp⟩
  · rw [hr, ← hbefore]
    by_cases hp : place = draftPlace dir c.databaseId
    · -- a directory stands there, and is not replaced
      subst hp
      exact honly.directory (h.draft (hdraft rfl))
    · exact honly.others place hp

theorem stands_saveWith (hdir : files.Stands dir) (fault : Fault) (c : Container) :
    (saveWith dir fault c files).2.Stands dir := by
  rcases saveWith_cases hdir fault c with ⟨files', hr, hsaved⟩ | ⟨e, files', hr, honly⟩
  · rw [hr]
    exact hsaved.stands hdir
  · rw [hr]
    exact honly.stands hdir

/-- What a save leaves, whether its record is put in the store or not. -/
theorem Serves.save (h : Serves k dir s files p) (hkn : k ≤ n) (fault : Fault) {c : Container}
    {q : Session} (hc : MaySave n s c.databaseId)
    (hfiles : q.files = (saveWith dir fault c p.files).2)
    (hrecords : ∀ d ∈ q.store.records, d = c ∨ d ∈ p.store.records)
    (hnext : q.store.nextId = s.upcoming n) : Serves n dir s files q where
  stands := hfiles ▸ stands_saveWith h.stands fault c
  next := hnext
  known := by
    intro d hd
    rcases hrecords d hd with rfl | hd
    · exact hc
    · exact (h.known d hd).mono hkn
  others := by
    intro place hplace
    rw [hfiles]
    exact h.lookup_save hkn fault hc hplace

/-- What a save leaves when it is of a record that was there. -/
theorem Serves.resave (h : Serves n dir s files p) (fault : Fault) {c d : Container}
    {q : Session} (hc : p.store.get? id = some c) (hid : d.databaseId = c.databaseId)
    (hfiles : q.files = (saveWith dir fault d p.files).2)
    (hrecords : ∀ e ∈ q.store.records, e = d ∨ e ∈ p.store.records)
    (hnext : q.store.nextId = p.store.nextId) : Serves n dir s files q := by
  refine h.save (Nat.le_refl n) fault ?_ hfiles hrecords (hnext.trans h.next)
  rw [hid]
  exact h.known c (mem_of_get? hc)

theorem serves_start (hdir : files.Stands dir) (hordered : s.Ordered) :
    Serves 0 dir s files ⟨s, files, []⟩ where
  stands := hdir
  next := rfl
  known := by
    intro c hc
    exact .inr (Option.isSome_iff_exists.2 ⟨c, hordered.get?_of_mem hc⟩)
  others := fun _ _ => rfl

/-- An insertion hands out the next identifier, whether it succeeds or not. -/
theorem Serves.insert (h : Serves n dir s files p) (fault : Fault) (c : Container) :
    Serves (n + 1) dir s files (p.act dir fault (.insert c)).2 := by
  have hc : MaySave (n + 1) s (p.store.numbered c).databaseId :=
    .inl ⟨n, Nat.lt_succ_self n, h.next⟩
  have hnext : p.store.skipped.nextId = s.upcoming (n + 1) := by
    rw [upcoming_succ, ← h.next]
    rfl
  rw [Session.act_insert]
  rcases insert_cases (faultyShelf dir fault) p.store p.files c with ⟨-, hr⟩ | ⟨err, -, hr⟩
  · rw [hr]
    exact h.save (Nat.le_succ n) fault hc rfl (fun d hd => mem_place hd) hnext
  · rw [hr]
    exact h.save (Nat.le_succ n) fault hc rfl (fun d hd => .inr hd) hnext

/-- Each call keeps to the places of the identifiers that may be used. -/
theorem Serves.act (h : Serves n dir s files p) (fault : Fault) (call : Call) :
    Serves (n + insertionsAmong [(fault, call)]) dir s files (p.act dir fault call).2 := by
  cases call with
  | insert c => exact h.insert fault c
  | update id change =>
    show Serves n dir s files _
    rw [Session.act_update]
    rcases update_cases (faultyShelf dir fault) id p.store p.files change.apply with
      ⟨-, hr⟩ | ⟨c, hc, -, hr⟩ | ⟨c, err, hc, -, hr⟩
    · rw [hr]
      exact ⟨h.stands, h.next, h.known, h.others⟩
    · rw [hr]
      exact h.resave fault hc (change.keepsId c) rfl (fun d hd => mem_place hd) rfl
    · rw [hr]
      exact h.resave fault hc (change.keepsId c) rfl (fun d hd => .inr hd) rfl
  | append id entry =>
    show Serves n dir s files _
    rw [Session.act_append]
    rcases append_cases (faultyShelf dir fault) id p.store p.files entry with
      ⟨-, hr⟩ | ⟨c, -, -, hr⟩ | ⟨c, d, hc, hd, -, hr⟩ | ⟨c, d, err, hc, hd, -, hr⟩
    · rw [hr]
      exact ⟨h.stands, h.next, h.known, h.others⟩
    · rw [hr]
      exact ⟨h.stands, h.next, h.known, h.others⟩
    · have hid : d.databaseId = c.databaseId := Container.databaseId_of_append? hd
      rw [hr]
      exact h.resave fault hc hid rfl (fun e he => mem_place he) rfl
    · have hid : d.databaseId = c.databaseId := Container.databaseId_of_append? hd
      rw [hr]
      exact h.resave fault hc hid rfl (fun e he => .inr he) rfl

theorem Serves.serve (h : Serves 0 dir s files p) (calls : List (Fault × Call)) :
    Serves (insertionsAmong calls) dir s files (p.serve dir calls) := by
  induction calls using List.reverseRecOn with
  | nil => exact h
  | append_singleton calls call ih =>
    rw [serve_append, insertionsAmong_append]
    exact ih.act call.1 call.2

/-- In a directory that is in order, no file that was not loaded stands where records are saved. -/
theorem InOrder.not_isUsed (h : InOrder n dir s files) {name : String}
    (hname : PassedOver dir files name) : ¬ IsUsed n dir s files (Files.parts dir ++ [name]) := by
  obtain ⟨text, htext⟩ := hname.1
  rintro ⟨id, hid, hfree, hplace | hplace⟩
  · obtain rfl : name = recordName id := by simpa [recordPlace] using hplace
    rcases hid with ⟨k, hk, rfl⟩ | hold
    · have hnone := (h.ahead k hk hfree).1
      rw [htext] at hnone
      cases hnone
    · exact h.loaded id hold hfree hname
  · obtain rfl : name = draftName id := by simpa [draftPlace] using hplace
    have hnone := h.draft id hid hfree
    rw [htext] at hnone
    cases hnone

/-- In a directory that is in order, calls spare what was not loaded. -/
theorem InOrder.spares (h : InOrder n dir s files) (hstart : Serves 0 dir s files ⟨s, files, []⟩) :
    Spares n dir s files where
  passedOver := by
    intro calls name hcalls hname
    obtain ⟨text, htext⟩ := hname.1
    -- a file stands there, so it is not the root
    have hroot : ¬ IsRoot (Files.parts dir ++ [name]) := by
      intro hroot
      have hdirectory : files.below? dir name = some .directory := at?_of_isRoot files hroot
      rw [htext] at hdirectory
      cases hdirectory
    show FileTree.at? _ _ = FileTree.at? _ _
    rw [at?_of_not_isRoot _ hroot, at?_of_not_isRoot _ hroot]
    exact (hstart.serve calls).others _ fun hused => h.not_isUsed hname (hused.mono hcalls)
  unused := by
    intro calls fault c id p hcalls hp hinsert
    have hserves : Serves (insertionsAmong calls) dir s files p := hp ▸ hstart.serve calls
    rcases insert_cases (faultyShelf dir fault) p.store p.files c with
      ⟨hsave, hr⟩ | ⟨err, -, hr⟩
    · rw [hr] at hinsert
      obtain rfl : p.store.nextId = id := Except.ok.inj hinsert
      have hkeeps : KeepsIn dir (fun files => files) (faultyShelf dir fault) :=
        faultyShelf_keepsIn dir fault
      have hsaved := hkeeps.saved hserves.stands hsave
      -- the save has written its draft, so no directory was in the way
      have hfree : files.below? dir (draftName p.store.nextId) ≠ some .directory := by
        intro hdirectory
        exact hsaved.draft (hserves.draft hdirectory)
      rw [hserves.next] at hfree ⊢
      obtain ⟨hnone, hunused⟩ := h.ahead _ hcalls hfree
      rw [below?_eq_lookup (isName_recordName _)] at hnone ⊢
      refine (hserves.others _ ?_).trans hnone
      rintro ⟨other, hother, -, hplace | hplace⟩
      · rw [recordPlace_inj.1 hplace] at hunused
        exact hunused hother
      · exact recordPlace_ne_draftPlace dir _ other hplace
    · rw [hr] at hinsert
      cases hinsert

/-! ## Calls that save under a given identifier -/

/-- An insertion that fails before anything is written. -/
def wasted : Fault × Call :=
  (.write none, .insert Session.plainRecord)

theorem insertionsAmong_wasted (n : Nat) : insertionsAmong (List.replicate n wasted) = n := by
  simp [insertionsAmong, List.countP_replicate, wasted, Call.isInsert]

/-- Insertions that fail use up as many identifiers and change nothing else. -/
theorem files_serve_wasted (p : Session) (n : Nat) :
    (p.serve dir (List.replicate n wasted)).files = p.files := by
  induction n with
  | zero => rfl
  | succ n ih =>
    rw [List.replicate_succ', serve_append]
    exact ih

/-- After so many insertions that fail, the next identifier is as many further, and nothing else is
different. -/
theorem serves_wasted (hstart : Serves 0 dir s files ⟨s, files, []⟩) (k : Nat) :
    ∃ p, p = Session.serve dir ⟨s, files, []⟩ (List.replicate k wasted) ∧
      Serves k dir s files p ∧ p.files = files := by
  have hserves := hstart.serve (List.replicate k wasted)
  rw [insertionsAmong_wasted] at hserves
  exact ⟨_, rfl, hserves, files_serve_wasted _ k⟩

/-- There are calls with so many insertions that save any given record under an identifier that may
be used by then. -/
theorem exists_save (hstart : Serves 0 dir s files ⟨s, files, []⟩) (c : Container)
    (hc : MaySave n s c.databaseId) (fault : Fault) :
    ∃ calls, insertionsAmong calls = n ∧
      (Session.serve dir ⟨s, files, []⟩ calls).files = (saveWith dir fault c files).2 := by
  rcases hc with ⟨k, hk, hid⟩ | hold
  · -- the record is inserted when its identifier comes, and the other insertions fail
    obtain ⟨rest, rfl⟩ := Nat.exists_eq_add_of_lt hk
    refine ⟨List.replicate k wasted ++ [(fault, .insert c)] ++ List.replicate rest wasted, ?_, ?_⟩
    · rw [insertionsAmong_append, insertionsAmong_append, insertionsAmong_wasted,
        insertionsAmong_wasted]
      exact Nat.add_right_comm k 1 rest
    · obtain ⟨p, hp, hserves, hfiles⟩ := serves_wasted hstart k
      rw [serve_append, files_serve_wasted, serve_append, ← hp]
      have hnumbered : p.store.numbered c = c := by
        show ({ c with databaseId := p.store.nextId } : Container) = c
        rw [hserves.next, ← hid]
      show (p.act dir fault (.insert c)).2.files = _
      rw [Session.act_insert]
      rcases insert_cases (faultyShelf dir fault) p.store p.files c with ⟨-, hr⟩ | ⟨err, -, hr⟩
      · rw [hr, hnumbered, hfiles]
        rfl
      · rw [hr, hnumbered, hfiles]
        rfl
  · obtain ⟨d, hd⟩ := Option.isSome_iff_exists.1 hold
    -- the change puts the given record in the place of the old one
    let change : Change := ⟨fun e => { c with databaseId := e.databaseId }, fun _ => rfl⟩
    have hchange : change.apply d = c := by
      show ({ c with databaseId := d.databaseId } : Container) = c
      rw [databaseId_of_get? hd]
    refine ⟨[(fault, .update c.databaseId change)] ++ List.replicate n wasted, ?_, ?_⟩
    · rw [insertionsAmong_append, insertionsAmong_wasted]
      exact Nat.zero_add n
    · rw [serve_append, files_serve_wasted]
      show (Session.act dir fault ⟨s, files, []⟩ (.update c.databaseId change)).2.files = _
      rw [Session.act_update]
      rcases update_cases_of_get? (faultyShelf dir fault) files hd change.apply with
        ⟨-, hr⟩ | ⟨err, -, hr⟩
      · rw [hr, hchange]
        rfl
      · rw [hr, hchange]
        rfl

/-! ## What calls can destroy -/

/-- Records that differ in one flag have different texts. -/
theorem text_swarm_ne (c : Container) :
    ({ c with swarm := true } : Container).text ≠ ({ c with swarm := false } : Container).text := by
  intro h
  have hlength := congrArg String.length h
  simp [Container.text, Container.toJson, Json.pretty, Json.prettyAt, Json.bracketed,
    Json.prettyMembers, Json.prettyMember, String.intercalate_cons_cons] at hlength
  exact absurd hlength (by decide)

theorem below?_saveWith_none {c : Container} (hdir : files.Stands dir)
    (hdraft : files.below? dir (draftName c.databaseId) ≠ some .directory)
    (hrecord : files.below? dir (recordName c.databaseId) ≠ some .directory) :
    (saveWith dir .none c files).2.below? dir (recordName c.databaseId) = some (.file c.text) := by
  rw [saveWith_none, saveIn_of_free hdir hdraft hrecord, below?_eq_lookup (isName_recordName _)]
  exact (lookup_movedIn ..).trans (if_pos rfl)

theorem below?_saveWith_write {c : Container} (hdir : files.Stands dir)
    (hdraft : files.below? dir (draftName c.databaseId) ≠ some .directory) (text : String) :
    (saveWith dir (.write (some text)) c files).2.below? dir (draftName c.databaseId) =
      some (.file text) := by
  rw [snd_saveWith_write, tornDraft_some hdir hdraft, below?_eq_lookup (isName_draftName _)]
  exact (lookup_put ..).trans (if_pos rfl)

/-- No directory stands where the file of a record goes, if the directory can be opened. -/
theorem ne_directory_of_isReadable (hnames : ∀ name ∈ files.entries dir, IsReadable dir files name)
    (id : Int) : files.below? dir (recordName id) ≠ some .directory := by
  intro hdirectory
  have hname : recordName id ∈ files.entries dir := by
    rw [mem_entries_iff_below? (isName_recordName id), hdirectory]
    rfl
  obtain ⟨text, htext⟩ :=
    Option.isSome_iff_exists.1 (hnames _ hname (hasExtension_recordName id))
  rw [read?_join (isName_recordName id), hdirectory] at htext
  cases htext

/-- A draft is moved, so that nothing stands in its place afterwards. -/
theorem below?_draftName_saveWith_none {c : Container} (hdir : files.Stands dir)
    (hdraft : files.below? dir (draftName c.databaseId) ≠ some .directory)
    (hrecord : files.below? dir (recordName c.databaseId) ≠ some .directory) :
    (saveWith dir .none c files).2.below? dir (draftName c.databaseId) = none := by
  rw [saveWith_none, saveIn_of_free hdir hdraft hrecord, below?_eq_lookup (isName_draftName _)]
  refine (lookup_movedIn ..).trans ((if_neg ?_).trans (if_pos rfl))
  exact (recordPlace_ne_draftPlace dir _ _).symm

/-- Where calls spare what was not loaded, an insertion that nothing prevents finds no file of the
next identifier. -/
theorem Spares.below?_next (h : Spares n dir s files) {calls : List (Fault × Call)}
    (hcalls : insertionsAmong calls < n) (hp : p = Session.serve dir ⟨s, files, []⟩ calls)
    (hdir : p.files.Stands dir)
    (hdraft : p.files.below? dir (draftName p.store.nextId) ≠ some .directory)
    (hrecord : p.files.below? dir (recordName p.store.nextId) ≠ some .directory) :
    p.files.below? dir (recordName p.store.nextId) = none := by
  refine h.unused calls .none Session.plainRecord _ p hcalls hp ?_
  have hsave := saveIn_of_free (c := p.store.numbered Session.plainRecord) hdir hdraft hrecord
  rcases insert_cases (faultyShelf dir .none) p.store p.files Session.plainRecord with
    ⟨-, hr⟩ | ⟨err, herr, -⟩
  · rw [hr]
  · rw [save_faultyShelf, saveWith_none, hsave] at herr
    cases herr

/-- Where calls spare what was not loaded, nothing stands in the way of an identifier that is handed
out, and it comes round to no record. -/
theorem Spares.ahead (h : Spares n dir s files) (hstart : Serves 0 dir s files ⟨s, files, []⟩)
    (hnames : ∀ name ∈ files.entries dir, IsReadable dir files name) (hk : k < n)
    (hfree : files.below? dir (draftName (s.upcoming k)) ≠ some .directory) :
    files.below? dir (recordName (s.upcoming k)) = none ∧ ¬ MaySave k s (s.upcoming k) := by
  have hrecord := ne_directory_of_isReadable hnames (s.upcoming k)
  constructor
  · -- the insertions before it fail, and leave the files as they are
    obtain ⟨p, hp, hserves, hfiles⟩ := serves_wasted hstart k
    have hcalls : insertionsAmong (List.replicate k wasted) < n := by
      rw [insertionsAmong_wasted]
      exact hk
    have hnone := h.below?_next hcalls hp hserves.stands
    rw [hserves.next, hfiles] at hnone
    exact hnone hfree hrecord
  · -- a record is saved under it first
    intro hmay
    let c : Container := { Session.plainRecord with databaseId := s.upcoming k }
    obtain ⟨calls, hcalls, hfiles⟩ := exists_save hstart c hmay .none
    have hserves := hstart.serve calls
    rw [hcalls] at hserves
    have hnone := h.below?_next (hcalls ▸ hk) rfl hserves.stands
    have hdraft := below?_draftName_saveWith_none (c := c) hstart.stands hfree hrecord
    have hsaved := below?_saveWith_none (c := c) hstart.stands hfree hrecord
    rw [hserves.next, hfiles, hdraft, hsaved] at hnone
    cases hnone (by simp) (by simp)

/-- Where calls spare what was not loaded, the directory is in order. -/
theorem Spares.inOrder (h : Spares n dir s files) (hstart : Serves 0 dir s files ⟨s, files, []⟩)
    (hnames : ∀ name ∈ files.entries dir, IsReadable dir files name) : InOrder n dir s files where
  draft := by
    intro id hid hfree
    cases hdraft : files.below? dir (draftName id) with
    | none => rfl
    | some node =>
      cases node with
      | directory => exact absurd hdraft hfree
      | file text =>
        -- a draft that is written in part takes the place of the file
        have hpassed : PassedOver dir files (draftName id) :=
          ⟨⟨text, hdraft⟩, recordIn?_draftName dir files id⟩
        obtain ⟨calls, hcalls, hfiles⟩ := exists_save hstart
          { Session.plainRecord with databaseId := id } hid (.write (some (text ++ " ")))
        have hkept := h.passedOver calls _ (Nat.le_of_eq hcalls) hpassed
        rw [hfiles, hdraft] at hkept
        have htorn := below?_saveWith_write (c := { Session.plainRecord with databaseId := id })
          hstart.stands hfree (text ++ " ")
        have hsame : text ++ " " = text := by simpa using htorn.symm.trans hkept
        have hlength := congrArg String.length hsame
        simp at hlength
  ahead := fun _ hk hfree => h.ahead hstart hnames hk hfree
  loaded := by
    intro id hid hfree hpassed
    obtain ⟨text, htext⟩ := hpassed.1
    have hwritten : ∀ swarm,
        ({ Session.plainRecord with databaseId := id, swarm } : Container).text = text := by
      intro swarm
      obtain ⟨calls, hcalls, hfiles⟩ := exists_save hstart
        { Session.plainRecord with databaseId := id, swarm } (.inr hid) .none
      have hkept := h.passedOver calls _ (Nat.le_of_eq hcalls) hpassed
      have hsaved := below?_saveWith_none
        (c := { Session.plainRecord with databaseId := id, swarm }) hstart.stands hfree
        (ne_directory_of_isReadable hnames id)
      rw [hfiles, htext] at hkept
      simpa using hsaved.symm.trans hkept
    exact text_swarm_ne { Session.plainRecord with databaseId := id }
      ((hwritten true).trans (hwritten false).symm)

/-- Calls on the store of an opened directory with any number of insertions spare what was not
loaded if and only if the directory is in order for them. -/
theorem spares_iff_inOrder [FileTree.Listing] {before : FileTree}
    (h : openIn dir before = (.ok s, files)) (n : Nat) :
    Spares n dir s files ↔ InOrder n dir s files := by
  obtain ⟨hmade, hnames, rfl⟩ := openIn_eq_ok_iff.1 h
  have hstart : Serves 0 dir (ofLoaded (recordsIn dir files)) files
      ⟨ofLoaded (recordsIn dir files), files, []⟩ :=
    serves_start (stands_of_makeDirs? hmade) (ordered_ofLoaded _)
  constructor
  · intro hspares
    exact hspares.inOrder hstart hnames
  · intro horder
    exact horder.spares hstart

end Serving

/-! ## An unreadable file -/

/-- A directory with the file of a first record that does not read as one. -/
def unreadableFiles : FileTree :=
  ⟨[(["records"], .directory), (["records", "1.json"], .file "\x7b")]⟩

theorem openIn_unreadableFiles :
    openIn "records" unreadableFiles = (.ok empty, unreadableFiles) := by
  decide +kernel

/-- The file of the first identifier was not loaded, and the first record takes its place. -/
theorem insert_replaces_unreadable :
    openIn "records" unreadableFiles = (.ok empty, unreadableFiles) ∧
      PassedOver "records" unreadableFiles (recordName 1) ∧
      (empty.insert (directoryShelf "records") Session.plainRecord unreadableFiles).1 = .ok 1 ∧
      (empty.insert (directoryShelf "records") Session.plainRecord unreadableFiles).2.2.below?
        "records" (recordName 1) ≠ unreadableFiles.below? "records" (recordName 1) := by
  have hfile : unreadableFiles.below? "records" (recordName 1) = some (.file "\x7b") := by
    decide +kernel
  have hdir : unreadableFiles.Stands "records" :=
    stands_of_makeDirs? (t := unreadableFiles) rfl
  have hsaved := below?_saveWith_none (c := numbered empty Session.plainRecord) hdir
    (by decide +kernel) (by decide +kernel)
  refine ⟨openIn_unreadableFiles, ⟨⟨_, hfile⟩, by decide +kernel⟩, by decide +kernel, ?_⟩
  rcases insert_cases (directoryShelf "records") empty unreadableFiles Session.plainRecord with
    ⟨-, hr⟩ | ⟨err, -, hr⟩
  · rw [hr]
    show (saveWith "records" .none (numbered empty Session.plainRecord) unreadableFiles).2.below?
      "records" (recordName (numbered empty Session.plainRecord).databaseId) ≠ _
    rw [hsaved, hfile]
    -- the text of the record reads as one, and that of the old file does not
    intro htext
    have hread := Session.readsBack_plainRecord
    unfold Container.ReadsBack at hread
    rw [FileNode.file.inj (Option.some.inj htext)] at hread
    revert hread
    decide +kernel
  · have hok : (empty.insert (directoryShelf "records") Session.plainRecord unreadableFiles).1 =
        .ok 1 := by decide +kernel
    rw [hr] at hok
    cases hok

theorem not_spares_unreadable : ¬ Spares 1 "records" empty unreadableFiles := by
  intro h
  have horder := (spares_iff_inOrder openIn_unreadableFiles 1).1 h
  obtain ⟨hnone, -⟩ := horder.ahead 0 (by decide) (by decide +kernel)
  revert hnone
  decide +kernel

end Mooring.Store
