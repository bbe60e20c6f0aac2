import Mooring.Proofs.Files.Replacement
import Mooring.Proofs.Store.Order
import Mooring.Proofs.Text.Numeral

set_option autoImplicit false

/-!
# Saving to a directory and opening it

The files of different records have different names, none of them the name of a draft, and only
files whose names end like those of records are looked at when a directory is opened.

A save can go wrong in three places (`Fault`). One that succeeds puts a file in its place and takes
the draft away, one that fails leaves everything but the draft alone (`saveWith_cases`). An opened
directory holds the records of the files that read as records, later names before earlier ones
(`openIn_eq_ok_iff`, `get?_foldl_load`).
-/

namespace Mooring.Store

open FileTree

/-! ## Names of files -/

/-- The name of the file of a record. -/
def recordName (id : Int) : String :=
  s!"{id}.json"

/-- The name of the file a record is written to first. -/
def draftName (id : Int) : String :=
  s!"{id}.json.tmp"

theorem toList_recordName (id : Int) :
    (recordName id).toList = id.repr.toList ++ '.' :: ['j', 's', 'o', 'n'] := by
  show (id.repr ++ ".json").toList = _
  simp

theorem toList_draftName (id : Int) :
    (draftName id).toList = (recordName id).toList ++ '.' :: ['t', 'm', 'p'] := by
  show (id.repr ++ ".json.tmp").toList = (id.repr ++ ".json").toList ++ _
  simp

theorem recordName_inj {id other : Int} : recordName id = recordName other ↔ id = other := by
  constructor
  · intro h
    have hlist := congrArg String.toList h
    rw [toList_recordName, toList_recordName, List.append_cancel_right_eq] at hlist
    exact Text.repr_inj.1 (String.toList_inj.1 hlist)
  · exact congrArg recordName

theorem draftName_inj {id other : Int} : draftName id = draftName other ↔ id = other := by
  constructor
  · intro h
    have hlist := congrArg String.toList h
    rw [toList_draftName, toList_draftName, List.append_cancel_right_eq] at hlist
    exact recordName_inj.1 (String.toList_inj.1 hlist)
  · exact congrArg draftName

/-- No record has the name of a draft. -/
theorem recordName_ne_draftName (id other : Int) : recordName id ≠ draftName other := by
  intro h
  have hlast := congrArg (fun s => s.toList.getLast?) h
  simp [toList_recordName, toList_draftName] at hlast

theorem slash_notMem_recordName (id : Int) : '/' ∉ (recordName id).toList := by
  have hrepr : '/' ∉ id.repr.toList := Text.notMem_repr (by decide) (by decide)
  simp [toList_recordName, hrepr]

theorem slash_notMem_draftName (id : Int) : '/' ∉ (draftName id).toList := by
  simp [toList_draftName, slash_notMem_recordName id]

/-- A longer name than the other steps of a path is a step down, if it has no slash. -/
theorem isName_of_length {name : String} (hlong : 3 ≤ name.toList.length)
    (hslash : '/' ∉ name.toList) : Files.IsName name := by
  constructor
  · exact hslash
  · rintro rfl
    simp at hlong
  · rintro rfl
    simp at hlong
  · rintro rfl
    simp at hlong

theorem isName_recordName (id : Int) : Files.IsName (recordName id) := by
  apply isName_of_length
  · simp only [toList_recordName, List.length_append, List.length_cons]
    omega
  · exact slash_notMem_recordName id

theorem isName_draftName (id : Int) : Files.IsName (draftName id) := by
  apply isName_of_length
  · simp only [toList_draftName, List.length_append, List.length_cons]
    omega
  · exact slash_notMem_draftName id

theorem splitAt_recordName (id : Int) :
    Text.splitAt '.' (recordName id).toList = [id.repr.toList, ['j', 's', 'o', 'n']] := by
  have hrepr : Text.splitAt '.' id.repr.toList = [id.repr.toList] :=
    Text.splitFrom_of_notMem (Text.notMem_repr (by decide) (by decide)) []
  rw [toList_recordName, Text.splitAt_append_cons _ (by simp), hrepr]
  rfl

/-- The files of records are looked at when a directory is opened. -/
theorem hasExtension_recordName (id : Int) :
    Files.hasExtension "json" (recordName id) = true := by
  unfold Files.hasExtension
  rw [splitAt_recordName]
  cases hrepr : id.repr.toList with
  | nil => exact absurd hrepr (Text.toList_repr_ne_nil id)
  | cons c rest => simp

/-- Drafts are passed over. -/
theorem hasExtension_draftName (id : Int) :
    Files.hasExtension "json" (draftName id) = false := by
  have hsplit : Text.splitAt '.' (draftName id).toList =
      [id.repr.toList, ['j', 's', 'o', 'n'], ['t', 'm', 'p']] := by
    rw [toList_draftName, Text.splitAt_append_cons _ (by simp), splitAt_recordName]
    rfl
  unfold Files.hasExtension
  rw [hsplit]
  simp

/-! ## Saves that go wrong -/

/-- What goes wrong while a record is saved. -/
inductive Fault where
  /-- nothing goes wrong -/
  | none
  /-- the draft cannot be written, and what was written of it may be left -/
  | write (left : Option String)
  /-- the draft is written and cannot be moved -/
  | move

/-- The files after the draft of a record could not be written. -/
def tornDraft (dir : String) (id : Int) (left : Option String) (files : FileTree) : FileTree :=
  match left with
  | some text => (files.write? (draftPath dir id) text).getD files
  | none => files

/-- Save a record in a directory, except that its draft cannot be moved. -/
def leaveDraft (dir : String) (c : Container) (files : FileTree) :
    Except StoreError Unit × FileTree :=
  match files.write? (draftPath dir c.databaseId) c.text with
  | none => (.error (.unusable (draftPath dir c.databaseId)), files)
  | some files => (.error (.unusable (recordPath dir c.databaseId)), files)

/-- Save a record in a directory while something goes wrong. -/
def saveWith (dir : String) (fault : Fault) (c : Container) (files : FileTree) :
    Except StoreError Unit × FileTree :=
  match fault with
  | .none => saveIn dir c files
  | .write left =>
    (.error (.unusable (draftPath dir c.databaseId)), tornDraft dir c.databaseId left files)
  | .move => leaveDraft dir c files

section Saving

variable {dir : String} {fault : Fault} {c : Container} {files files' : FileTree}

theorem saveWith_none : saveWith dir .none c files = saveIn dir c files :=
  rfl

theorem snd_saveWith_write (left : Option String) :
    (saveWith dir (.write left) c files).2 = tornDraft dir c.databaseId left files :=
  rfl

theorem saveWith_move : saveWith dir .move c files = leaveDraft dir c files :=
  rfl

/-- The place of the file of a record. -/
def recordPlace (dir : String) (id : Int) : List String :=
  Files.parts dir ++ [recordName id]

/-- The place of the file a record is written to first. -/
def draftPlace (dir : String) (id : Int) : List String :=
  Files.parts dir ++ [draftName id]

/-- Nothing but the draft of a record may have changed, and no directory in its place. -/
structure OnlyDraft (dir : String) (id : Int) (files files' : FileTree) : Prop where
  others : ∀ place, place ≠ draftPlace dir id →
    files'.nodes.lookup place = files.nodes.lookup place
  directory : files.below? dir (draftName id) = some .directory →
    files'.nodes.lookup (draftPlace dir id) = files.nodes.lookup (draftPlace dir id)

/-- A record stands in its place, its draft is gone, and nothing else has changed. -/
structure Saved (dir : String) (c : Container) (files files' : FileTree) : Prop where
  lookup : ∀ place, files'.nodes.lookup place =
    if place = recordPlace dir c.databaseId then some (.file c.text)
    else if place = draftPlace dir c.databaseId then none
    else files.nodes.lookup place
  record : files.below? dir (recordName c.databaseId) ≠ some .directory
  draft : files.below? dir (draftName c.databaseId) ≠ some .directory

theorem OnlyDraft.refl (dir : String) (id : Int) (files : FileTree) :
    OnlyDraft dir id files files :=
  ⟨fun _ _ => rfl, fun _ => rfl⟩

theorem onlyDraft_put {id : Int} (hdraft : files.below? dir (draftName id) ≠ some .directory)
    (text : String) : OnlyDraft dir id files (files.put (draftPlace dir id) (.file text)) := by
  constructor
  · intro place hne
    rw [lookup_put, if_neg hne]
  · intro hdirectory
    exact absurd hdirectory hdraft

theorem write?_draft (hdir : files.Stands dir) (id : Int) (text : String) :
    files.write? (draftPath dir id) text =
      if files.below? dir (draftName id) = some .directory then none
      else some (files.put (draftPlace dir id) (.file text)) :=
  write?_join (isName_draftName id) hdir.at? text

theorem onlyDraft_tornDraft (hdir : files.Stands dir) (id : Int) (left : Option String) :
    OnlyDraft dir id files (tornDraft dir id left files) := by
  cases left with
  | none => exact .refl ..
  | some text =>
    unfold tornDraft
    simp only [write?_draft hdir]
    split
    · exact .refl ..
    · next hdraft => exact onlyDraft_put hdraft text

/-- The files after the draft of a record was written and moved to its place. -/
def movedIn (dir : String) (id : Int) (text : String) (files : FileTree) : FileTree :=
  replaced dir (draftName id) (recordName id) text files

theorem lookup_movedIn (dir : String) (id : Int) (text : String) (files : FileTree)
    (place : List String) :
    (movedIn dir id text files).nodes.lookup place =
      if place = recordPlace dir id then some (.file text)
      else if place = draftPlace dir id then none
      else files.nodes.lookup place :=
  lookup_replaced ..

theorem rename?_draft (hdir : files.Stands dir) (id : Int) (text : String) :
    (files.put (draftPlace dir id) (.file text)).rename? (draftPath dir id) (recordPath dir id) =
      if files.below? dir (recordName id) = some .directory then none
      else some (movedIn dir id text files) :=
  rename?_put (isName_draftName id) (isName_recordName id) (recordName_ne_draftName id id) hdir text

/-- A record is saved, unless a directory stands in its place or in that of its draft. -/
theorem saveIn_of_free (hdir : files.Stands dir)
    (hdraft : files.below? dir (draftName c.databaseId) ≠ some .directory)
    (hrecord : files.below? dir (recordName c.databaseId) ≠ some .directory) :
    saveIn dir c files = (.ok (), movedIn dir c.databaseId c.text files) := by
  have hwrite := write?_draft hdir c.databaseId c.text
  have hrename := rename?_draft hdir c.databaseId c.text
  rw [if_neg hdraft] at hwrite
  rw [if_neg hrecord] at hrename
  unfold saveIn
  simp only [hwrite, hrename]

theorem tornDraft_some (hdir : files.Stands dir) {id : Int}
    (hdraft : files.below? dir (draftName id) ≠ some .directory) (text : String) :
    tornDraft dir id (some text) files = files.put (draftPlace dir id) (.file text) := by
  unfold tornDraft
  simp only [write?_draft hdir, if_neg hdraft]
  rfl

theorem parts_draftPath (dir : String) (id : Int) :
    Files.parts (draftPath dir id) = draftPlace dir id :=
  Files.parts_join dir (isName_draftName id)

theorem parts_recordPath (dir : String) (id : Int) :
    Files.parts (recordPath dir id) = recordPlace dir id :=
  Files.parts_join dir (isName_recordName id)

/-- A save changes no place but those of the record and its draft. -/
theorem lookup_saveWith_of_ne (fault : Fault) {place : List String}
    (hrecord : place ≠ recordPlace dir c.databaseId)
    (hdraft : place ≠ draftPlace dir c.databaseId) :
    (saveWith dir fault c files).2.nodes.lookup place = files.nodes.lookup place := by
  rw [← parts_recordPath] at hrecord
  rw [← parts_draftPath] at hdraft
  -- whatever is written or moved is at the place of the draft or of the record
  cases fault with
  | write left =>
    rw [snd_saveWith_write]
    cases left with
    | none => rfl
    | some text =>
      show ((files.write? (draftPath dir c.databaseId) text).getD files).nodes.lookup place = _
      cases hwrite : files.write? (draftPath dir c.databaseId) text with
      | none => rfl
      | some written =>
        have hwritten := lookup_write?_of_ne hwrite hdraft
        exact hwritten
  | move =>
    rw [saveWith_move]
    unfold leaveDraft
    cases hwrite : files.write? (draftPath dir c.databaseId) c.text with
    | none => rfl
    | some written =>
      have hwritten := lookup_write?_of_ne hwrite hdraft
      exact hwritten
  | none =>
    rw [saveWith_none]
    unfold saveIn
    cases hwrite : files.write? (draftPath dir c.databaseId) c.text with
    | none => rfl
    | some written =>
      have hwritten := lookup_write?_of_ne hwrite hdraft
      dsimp only
      split
      · exact hwritten
      · next moved hmove => exact (lookup_rename?_of_ne hmove hdraft hrecord).trans hwritten

/-- A save puts the record in its place, or fails and changes nothing but the draft. -/
theorem saveWith_cases (hdir : files.Stands dir) (fault : Fault) (c : Container) :
    (∃ files', saveWith dir fault c files = (.ok (), files') ∧ Saved dir c files files') ∨
    (∃ e files', saveWith dir fault c files = (.error e, files') ∧
      OnlyDraft dir c.databaseId files files') := by
  have hwrite := write?_draft hdir c.databaseId c.text
  have hrename := rename?_draft hdir c.databaseId c.text
  by_cases hdraft : files.below? dir (draftName c.databaseId) = some .directory
  · -- a directory stands in the place of the draft, and nothing is written
    rw [if_pos hdraft] at hwrite
    right
    cases fault with
    | none =>
      refine ⟨.unusable (draftPath dir c.databaseId), files, ?_, .refl ..⟩
      rw [saveWith_none]
      unfold saveIn
      rw [hwrite]
    | write left => exact ⟨_, _, rfl, onlyDraft_tornDraft hdir _ left⟩
    | move =>
      refine ⟨.unusable (draftPath dir c.databaseId), files, ?_, .refl ..⟩
      rw [saveWith_move]
      unfold leaveDraft
      rw [hwrite]
  · rw [if_neg hdraft] at hwrite
    cases fault with
    | write left => exact .inr ⟨_, _, rfl, onlyDraft_tornDraft hdir _ left⟩
    | move =>
      refine .inr ⟨.unusable (recordPath dir c.databaseId), _, ?_, onlyDraft_put hdraft c.text⟩
      rw [saveWith_move]
      unfold leaveDraft
      rw [hwrite]
    | none =>
      by_cases hrecord : files.below? dir (recordName c.databaseId) = some .directory
      · rw [if_pos hrecord] at hrename
        refine .inr ⟨.unusable (recordPath dir c.databaseId), _, ?_, onlyDraft_put hdraft c.text⟩
        rw [saveWith_none]
        unfold saveIn
        simp only [hwrite, hrename]
      · left
        rw [saveWith_none]
        exact ⟨_, saveIn_of_free hdir hdraft hrecord,
          lookup_movedIn dir c.databaseId c.text files, hrecord, hdraft⟩

/-- A save that fails names the file that cannot be used. -/
theorem unusable_of_saveWith {e : StoreError} (h : (saveWith dir fault c files).1 = .error e) :
    ∃ path, e = .unusable path := by
  cases fault with
  | none =>
    rw [saveWith_none] at h
    unfold saveIn at h
    split at h
    · cases h
      exact ⟨_, rfl⟩
    · split at h
      · cases h
        exact ⟨_, rfl⟩
      · cases h
  | write left =>
    cases h
    exact ⟨_, rfl⟩
  | move =>
    rw [saveWith_move] at h
    unfold leaveDraft at h
    split at h
    · cases h
      exact ⟨_, rfl⟩
    · cases h
      exact ⟨_, rfl⟩

theorem ne_place_of_length {place : List String} {name : String}
    (hshort : place.length ≤ (Files.parts dir).length) : place ≠ Files.parts dir ++ [name] := by
  rintro rfl
  simp only [List.length_append, List.length_singleton] at hshort
  omega

theorem ne_place_of_ne {name other : String} (h : name ≠ other) :
    Files.parts dir ++ [name] ≠ Files.parts dir ++ [other] := by
  intro hplace
  exact h (by simpa using hplace)

theorem Saved.lookup_of_ne (h : Saved dir c files files') {name : String}
    (hrecord : name ≠ recordName c.databaseId) (hdraft : name ≠ draftName c.databaseId) :
    files'.nodes.lookup (Files.parts dir ++ [name]) =
      files.nodes.lookup (Files.parts dir ++ [name]) := by
  have hrecord' : Files.parts dir ++ [name] ≠ recordPlace dir c.databaseId := ne_place_of_ne hrecord
  have hdraft' : Files.parts dir ++ [name] ≠ draftPlace dir c.databaseId := ne_place_of_ne hdraft
  rw [h.lookup, if_neg hrecord', if_neg hdraft']

/-- What stands in the place of a record is read under its name. -/
theorem read?_recordName {id : Int} {text : String}
    (h : files.nodes.lookup (recordPlace dir id) = some (.file text)) :
    files.read? (Files.join dir (recordName id)) = some text :=
  (read?_join (isName_recordName id)).2 ((below?_eq_lookup (isName_recordName id)).trans h)

theorem Saved.stands (h : Saved dir c files files') (hdir : files.Stands dir) :
    files'.Stands dir := by
  refine hdir.of_at? fun place hshort => at?_congr ?_
  have hrecord : place ≠ recordPlace dir c.databaseId := ne_place_of_length hshort
  have hdraft : place ≠ draftPlace dir c.databaseId := ne_place_of_length hshort
  rw [h.lookup, if_neg hrecord, if_neg hdraft]

theorem OnlyDraft.stands {id : Int} (h : OnlyDraft dir id files files') (hdir : files.Stands dir) :
    files'.Stands dir :=
  hdir.of_at? fun _ hshort => at?_congr (h.others _ (ne_place_of_length hshort))

end Saving

/-! ## Opening a directory -/

section Opening

variable {dir : String} {files opened : FileTree} {s t : Store} {names : List String}

/-- Whether a name that is looked at is that of a file. -/
def IsReadable (dir : String) (files : FileTree) (name : String) : Prop :=
  Files.hasExtension "json" name = true → (files.read? (Files.join dir name)).isSome = true

/-- The record of a file that is looked at, if it reads as one. -/
def recordIn? (dir : String) (files : FileTree) (name : String) : Option Container :=
  if Files.hasExtension "json" name then
    (files.read? (Files.join dir name)).bind Container.ofText?
  else none

theorem recordIn?_eq_some_iff {name : String} {c : Container} :
    recordIn? dir files name = some c ↔ Files.hasExtension "json" name = true ∧
      ∃ text, files.read? (Files.join dir name) = some text ∧ Container.ofText? text = some c := by
  unfold recordIn?
  cases Files.hasExtension "json" name with
  | false => simp
  | true => simp [Option.bind_eq_some_iff]

/-- A draft reads as no record. -/
theorem recordIn?_draftName (dir : String) (files : FileTree) (id : Int) :
    recordIn? dir files (draftName id) = none := by
  unfold recordIn?
  rw [hasExtension_draftName]
  rfl

theorem isReadable_draftName (dir : String) (files : FileTree) (id : Int) :
    IsReadable dir files (draftName id) := by
  intro hext
  rw [hasExtension_draftName] at hext
  cases hext

theorem loadFile_eq_ok_iff {name : String} :
    loadFile dir files s name = .ok t ↔
      IsReadable dir files name ∧ t = (recordIn? dir files name).toList.foldl load s := by
  unfold loadFile IsReadable recordIn?
  cases hext : Files.hasExtension "json" name with
  | false => simp [@eq_comm _ s t]
  | true =>
    cases hread : files.read? (Files.join dir name) with
    | none => simp
    | some text =>
      cases hrecord : Container.ofText? text with
      | none => simp [hrecord, @eq_comm _ s t]
      | some c => simp [hrecord, @eq_comm _ (s.load c) t]

theorem foldlM_loadFile_eq_ok_iff :
    names.foldlM (loadFile dir files) s = .ok t ↔
      (∀ name ∈ names, IsReadable dir files name) ∧
        t = (names.filterMap (recordIn? dir files)).foldl load s := by
  induction names generalizing s with
  | nil => simp [pure, Except.pure, eq_comm]
  | cons name rest ih =>
    rw [List.foldlM_cons]
    constructor
    · intro h
      cases hfile : loadFile dir files s name with
      | error e =>
        rw [hfile] at h
        cases h
      | ok u =>
        rw [hfile] at h
        obtain ⟨hrest, rfl⟩ := ih.1 h
        obtain ⟨hname, rfl⟩ := loadFile_eq_ok_iff.1 hfile
        refine ⟨List.forall_mem_cons.2 ⟨hname, hrest⟩, ?_⟩
        cases hrecord : recordIn? dir files name with
        | none => simp [hrecord]
        | some c => simp [hrecord]
    · rintro ⟨hnames, rfl⟩
      obtain ⟨hname, hrest⟩ := List.forall_mem_cons.1 hnames
      rw [loadFile_eq_ok_iff.2 ⟨hname, rfl⟩]
      refine ih.2 ⟨hrest, ?_⟩
      cases hrecord : recordIn? dir files name with
      | none => simp [hrecord]
      | some c => simp [hrecord]

/-- The records of the files that read as records, in the order in which the names are told. -/
def recordsIn [FileTree.Listing] (dir : String) (files : FileTree) : List Container :=
  (files.names dir).filterMap (recordIn? dir files)

theorem mem_recordsIn_iff [FileTree.Listing] {c : Container} :
    c ∈ recordsIn dir files ↔ ∃ name ∈ files.entries dir, recordIn? dir files name = some c := by
  simp only [recordsIn, List.mem_filterMap, mem_names_iff]

/-- The store over records that were loaded one after the other. -/
def ofLoaded (cs : List Container) : Store :=
  { cs.foldl load empty with nextId := (cs.foldl load empty).followingId }

/-- A directory can be opened if it can be made and whatever looks like the file of a record is a
file; the records are those of the files that read as records. -/
theorem openIn_eq_ok_iff [FileTree.Listing] :
    openIn dir files = (.ok s, opened) ↔
      files.makeDirs? dir = some opened ∧
        (∀ name ∈ opened.entries dir, IsReadable dir opened name) ∧
        s = ofLoaded (recordsIn dir opened) := by
  simp only [← mem_names_iff]
  unfold openIn
  cases hmade : files.makeDirs? dir with
  | none => simp
  | some made =>
    cases hload : (made.names dir).foldlM (loadFile dir made) empty with
    | error e =>
      simp only [hload, Prod.mk.injEq, reduceCtorEq, false_and, Option.some.injEq, false_iff]
      rintro ⟨rfl, hnames, -⟩
      rw [foldlM_loadFile_eq_ok_iff.2 ⟨hnames, rfl⟩] at hload
      cases hload
    | ok u =>
      simp only [hload, Prod.mk.injEq, Except.ok.injEq, Option.some.injEq]
      obtain ⟨hnames, rfl⟩ := foldlM_loadFile_eq_ok_iff.1 hload
      constructor
      · rintro ⟨rfl, rfl⟩
        exact ⟨rfl, hnames, rfl⟩
      · rintro ⟨rfl, -, rfl⟩
        exact ⟨rfl, rfl⟩

theorem ordered_foldl_load (cs : List Container) (h : s.Ordered) :
    (cs.foldl load s).Ordered := by
  induction cs generalizing s with
  | nil => exact h
  | cons c rest ih => exact ih (h.load c)

theorem ordered_ofLoaded (cs : List Container) : (ofLoaded cs).Ordered :=
  ordered_foldl_load cs ordered_empty

/-- Of loaded records with one identifier the last counts. -/
theorem get?_foldl_load (cs : List Container) (s : Store) (id : Int) :
    (cs.foldl load s).get? id =
      (cs.reverse.find? fun c => c.databaseId = id).or (s.get? id) := by
  induction cs generalizing s with
  | nil => rfl
  | cons c rest ih =>
    rw [List.foldl_cons, ih, List.reverse_cons, List.find?_append, Option.or_assoc]
    congr 1
    show (s.load c).get? id = _
    have hload : (s.load c).get? id = if c.databaseId = id then some c else s.get? id :=
      get?_put (s.indexed c) c id
    rw [hload]
    by_cases hid : c.databaseId = id
    · simp [hid]
    · simp [hid]

theorem get?_ofLoaded (cs : List Container) (id : Int) :
    (ofLoaded cs).get? id = cs.reverse.find? fun c => c.databaseId = id := by
  have hload : (cs.foldl load empty).get? id = _ := get?_foldl_load cs empty id
  have hempty : empty.get? id = none := rfl
  rw [hempty, Option.or_none] at hload
  exact hload

theorem exists_of_get?_ofLoaded {cs : List Container} {id : Int} {c : Container}
    (h : (ofLoaded cs).get? id = some c) : c ∈ cs ∧ c.databaseId = id := by
  rw [get?_ofLoaded] at h
  exact ⟨List.mem_reverse.1 (List.mem_of_find?_eq_some h), by simpa using List.find?_some h⟩

/-- Every identifier of a loaded record leads to one. -/
theorem isSome_get?_ofLoaded {cs : List Container} {c : Container} (h : c ∈ cs) :
    ((ofLoaded cs).get? c.databaseId).isSome = true := by
  rw [get?_ofLoaded, List.find?_isSome]
  exact ⟨c, List.mem_reverse.2 h, by simp⟩

end Opening

end Mooring.Store
