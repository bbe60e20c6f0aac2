import Mooring.Proofs.Json.RoundTrip
import Mooring.Proofs.Store.Directory

set_option autoImplicit false

/-!
# Records and their files

A store mirrors its directory (`Mirrors`): every record stands in its file, and the directory holds
no other file that looks like that of a record. Each change of the store keeps this, wherever it
goes wrong, so that opening the directory again gives the records of the store (`Mirrors.openIn`).
-/

namespace Mooring

namespace Container

/-- The record without the exit code that was looked up. -/
def unmemoized (c : Container) : Container :=
  { c with exitMemo := none }

/-- Whether the text of a record reads back as the record, the exit code that was looked up aside. -/
def ReadsBack (c : Container) : Prop :=
  ofText? c.text = some c.unmemoized

@[simp] theorem databaseId_unmemoized (c : Container) : c.unmemoized.databaseId = c.databaseId :=
  rfl

/-- What was looked up is not written. -/
@[simp] theorem text_unmemoized (c : Container) : c.unmemoized.text = c.text :=
  rfl

/-- A record reads back from its text if it does from its document. -/
theorem readsBack_of_toJson {c : Container} (hfits : c.toJson.fits = true)
    (h : ofJson? c.toJson = some c.unmemoized) : c.ReadsBack := by
  unfold ReadsBack ofText? text
  rw [Json.readAll?_pretty hfits, Option.bind_some, h]

end Container

namespace Store

open FileTree

/-! ## The mirror -/

/-- Every record stands in its file, and nothing else in the directory looks like the file of a
record. -/
structure Mirrors (dir : String) (s : Store) (files : FileTree) : Prop where
  stands : files.Stands dir
  ordered : s.Ordered
  saved : ∀ c ∈ s.records,
    files.nodes.lookup (recordPlace dir c.databaseId) = some (.file c.text)
  names : ∀ name ∈ files.entries dir,
    (∃ id, name = draftName id) ∨ ∃ c ∈ s.records, name = recordName c.databaseId

section Keeping

variable {dir : String} {s t : Store} {files files' : FileTree} {c : Container} {id : Int}

/-- An empty directory mirrors the empty store. -/
theorem mirrors_empty (hdir : files.Stands dir) (hnames : files.entries dir = []) :
    Mirrors dir empty files where
  stands := hdir
  ordered := ordered_empty
  saved := by
    intro c hc
    cases hc
  names := by
    intro name hname
    rw [hnames] at hname
    cases hname

/-- A mirror is about the directory and what stands in it. -/
theorem Mirrors.congr (h : Mirrors dir s files) (hstands : files'.Stands dir)
    (hlookup : ∀ name, files'.nodes.lookup (Files.parts dir ++ [name]) =
      files.nodes.lookup (Files.parts dir ++ [name])) : Mirrors dir s files' where
  stands := hstands
  ordered := h.ordered
  saved := by
    intro c hc
    exact (hlookup _).trans (h.saved c hc)
  names := by
    intro name hname
    apply h.names
    rw [mem_entries_iff] at hname ⊢
    rw [← hlookup]
    exact hname

theorem recordPlace_inj {id other : Int} : recordPlace dir id = recordPlace dir other ↔ id = other := by
  constructor
  · intro h
    have hname : recordName id = recordName other := by simpa [recordPlace] using h
    exact recordName_inj.1 hname
  · exact congrArg (recordPlace dir)

theorem recordPlace_ne_draftPlace (dir : String) (id other : Int) :
    recordPlace dir id ≠ draftPlace dir other := by
  intro h
  exact recordName_ne_draftName id other (by simpa [recordPlace, draftPlace] using h)

/-- A draft is none of the files that a mirror is about. -/
theorem Mirrors.onlyDraft (h : Mirrors dir s files) (hdraft : OnlyDraft dir id files files')
    (hrecords : t.records = s.records) : Mirrors dir t files' where
  stands := hdraft.stands h.stands
  ordered := h.ordered.congr hrecords
  saved := by
    intro c hc
    rw [hrecords] at hc
    rw [hdraft.others _ (recordPlace_ne_draftPlace dir c.databaseId id)]
    exact h.saved c hc
  names := by
    intro name hname
    rw [hrecords]
    by_cases hdraftName : name = draftName id
    · exact .inl ⟨id, hdraftName⟩
    · apply h.names
      rw [mem_entries_iff] at hname ⊢
      rw [hdraft.others] at hname
      · exact hname
      · exact ne_place_of_ne hdraftName

/-- A record that is saved and put in its place is mirrored. -/
theorem Mirrors.saving (h : Mirrors dir s files) (hsaved : Saved dir c files files')
    (hrecords : t.records = (s.put c).records) : Mirrors dir t files' := by
  have hmem : ∀ d, d ∈ t.records ↔ d = c ∨ d ∈ s.records ∧ d.databaseId ≠ c.databaseId := by
    rw [hrecords]
    exact fun d => h.ordered.mem_put_iff
  refine ⟨hsaved.stands h.stands, (h.ordered.put c).congr hrecords, ?_, ?_⟩
  · intro d hd
    rw [hsaved.lookup]
    rcases (hmem d).1 hd with rfl | ⟨hd, hid⟩
    · rw [if_pos rfl]
    · rw [if_neg (fun hp => hid (recordPlace_inj.1 hp)),
        if_neg (recordPlace_ne_draftPlace dir d.databaseId c.databaseId)]
      exact h.saved d hd
  · intro name hname
    by_cases hrecord : name = recordName c.databaseId
    · exact .inr ⟨c, (hmem c).2 (.inl rfl), hrecord⟩
    · by_cases hdraft : name = draftName c.databaseId
      · exact .inl ⟨_, hdraft⟩
      · rw [mem_entries_iff, hsaved.lookup_of_ne hrecord hdraft, ← mem_entries_iff] at hname
        rcases h.names name hname with hother | ⟨d, hd, rfl⟩
        · exact .inl hother
        · -- a record keeps its file, unless the saved one takes its place
          have hid : d.databaseId ≠ c.databaseId := fun he => hrecord (congrArg recordName he)
          exact .inr ⟨d, (hmem d).2 (.inr ⟨hd, hid⟩), rfl⟩

end Keeping

/-! ## Changing records -/

/-- Whether a shelf keeps records as files in a directory: a save puts the record in its place, and
one that fails leaves everything but the draft alone. -/
def KeepsIn {σ : Type} (dir : String) (view : σ → FileTree) (shelf : Shelf σ) : Prop :=
  ∀ (c : Container) (disk : σ), (view disk).Stands dir →
    (∃ disk', shelf.save c disk = (.ok (), disk') ∧ Saved dir c (view disk) (view disk')) ∨
    (∃ e disk', shelf.save c disk = (.error e, disk') ∧
      OnlyDraft dir c.databaseId (view disk) (view disk'))

/-- The shelf of a directory while something goes wrong. -/
def faultyShelf (dir : String) (fault : Fault) : Shelf FileTree :=
  ⟨saveWith dir fault⟩

theorem save_faultyShelf (dir : String) (fault : Fault) (c : Container) (files : FileTree) :
    (faultyShelf dir fault).save c files = saveWith dir fault c files :=
  rfl

theorem faultyShelf_keepsIn (dir : String) (fault : Fault) :
    KeepsIn dir id (faultyShelf dir fault) :=
  fun c _ hdir => saveWith_cases hdir fault c

section Changing

variable {σ : Type} {dir : String} {view : σ → FileTree} {shelf : Shelf σ} {s : Store} {disk : σ}
  {c : Container}

theorem KeepsIn.saved (h : KeepsIn dir view shelf) (hdir : (view disk).Stands dir)
    (hsave : (shelf.save c disk).1 = .ok ()) :
    Saved dir c (view disk) (view (shelf.save c disk).2) := by
  rcases h c disk hdir with ⟨disk', hr, hsaved⟩ | ⟨e, disk', hr, -⟩
  · rw [hr]
    exact hsaved
  · rw [hr] at hsave
    cases hsave

theorem KeepsIn.onlyDraft (h : KeepsIn dir view shelf) (hdir : (view disk).Stands dir)
    {e : StoreError} (hsave : (shelf.save c disk).1 = .error e) :
    OnlyDraft dir c.databaseId (view disk) (view (shelf.save c disk).2) := by
  rcases h c disk hdir with ⟨disk', hr, -⟩ | ⟨e', disk', hr, hdraft⟩
  · rw [hr] at hsave
    cases hsave
  · rw [hr]
    exact hdraft

theorem Mirrors.insert (h : Mirrors dir s (view disk)) (hshelf : KeepsIn dir view shelf)
    (c : Container) :
    Mirrors dir (s.insert shelf c disk).2.1 (view (s.insert shelf c disk).2.2) := by
  rcases insert_cases shelf s disk c with ⟨hsave, hr⟩ | ⟨err, hsave, hr⟩
  · rw [hr]
    exact h.saving (hshelf.saved h.stands hsave) rfl
  · rw [hr]
    exact h.onlyDraft (hshelf.onlyDraft h.stands hsave) rfl

theorem Mirrors.update (h : Mirrors dir s (view disk)) (hshelf : KeepsIn dir view shelf) (id : Int)
    (f : Container → Container) :
    Mirrors dir (s.update shelf id f disk).2.1 (view (s.update shelf id f disk).2.2) := by
  rcases update_cases shelf id s disk f with ⟨-, hr⟩ | ⟨c, hc, hsave, hr⟩ | ⟨c, err, hc, hsave, hr⟩
  · rw [hr]
    exact h
  · rw [hr]
    exact h.saving (hshelf.saved h.stands hsave) rfl
  · rw [hr]
    exact h.onlyDraft (hshelf.onlyDraft h.stands hsave) rfl

theorem Mirrors.append (h : Mirrors dir s (view disk)) (hshelf : KeepsIn dir view shelf) (id : Int)
    (e : HistoryEntry) :
    Mirrors dir (s.append shelf id e disk).2.1 (view (s.append shelf id e disk).2.2) := by
  rcases append_cases shelf id s disk e with
    ⟨-, hr⟩ | ⟨c, -, -, hr⟩ | ⟨c, d, hc, hd, hsave, hr⟩ | ⟨c, d, err, hc, hd, hsave, hr⟩
  · rw [hr]
    exact h
  · rw [hr]
    exact h
  · rw [hr]
    exact h.saving (hshelf.saved h.stands hsave) rfl
  · rw [hr]
    exact h.onlyDraft (hshelf.onlyDraft h.stands hsave) rfl

end Changing

/-! ## Opening what was saved -/

section Reopening

variable {dir : String} {s : Store} {files : FileTree}

theorem Mirrors.isReadable (h : Mirrors dir s files) {name : String}
    (hname : name ∈ files.entries dir) :
    IsReadable dir files name := by
  rcases h.names name hname with ⟨id, rfl⟩ | ⟨c, hc, rfl⟩
  · exact isReadable_draftName dir files id
  · intro _
    rw [read?_recordName (h.saved c hc)]
    rfl

theorem Mirrors.recordIn? (h : Mirrors dir s files) {c : Container} (hc : c ∈ s.records)
    (hread : c.ReadsBack) :
    recordIn? dir files (recordName c.databaseId) = some c.unmemoized :=
  recordIn?_eq_some_iff.2
    ⟨hasExtension_recordName c.databaseId, c.text, read?_recordName (h.saved c hc), hread⟩

variable [FileTree.Listing]

/-- The files of the directory read as the records of the store. -/
theorem Mirrors.mem_recordsIn (h : Mirrors dir s files) (hback : ∀ c ∈ s.records, c.ReadsBack)
    {c : Container} :
    c ∈ recordsIn dir files ↔ ∃ d ∈ s.records, c = d.unmemoized := by
  rw [mem_recordsIn_iff]
  constructor
  · rintro ⟨name, hname, hread⟩
    rcases h.names name hname with ⟨id, rfl⟩ | ⟨d, hd, rfl⟩
    · rw [recordIn?_draftName] at hread
      cases hread
    · rw [h.recordIn? hd (hback d hd)] at hread
      exact ⟨d, hd, (Option.some.inj hread).symm⟩
  · rintro ⟨d, hd, rfl⟩
    refine ⟨recordName d.databaseId, ?_, h.recordIn? hd (hback d hd)⟩
    rw [mem_entries_iff, show Files.parts dir ++ _ = recordPlace dir d.databaseId from rfl,
      h.saved d hd]
    rfl

/-- Opening the directory of a store whose records read back gives its records again, and changes
no file. -/
theorem Mirrors.openIn (h : Mirrors dir s files) (hback : ∀ c ∈ s.records, c.ReadsBack) :
    ∃ t, openIn dir files = (.ok t, files) ∧ t.records = s.records.map Container.unmemoized ∧
      Mirrors dir t files := by
  have hopen : Store.openIn dir files = (.ok (ofLoaded (recordsIn dir files)), files) :=
    openIn_eq_ok_iff.2 ⟨h.stands.makeDirs?, fun _ hname => h.isReadable hname, rfl⟩
  have hordered : Ordered { s with records := s.records.map Container.unmemoized } := by
    unfold Ordered
    rw [List.pairwise_map]
    exact h.ordered
  have hrecords : (ofLoaded (recordsIn dir files)).records = s.records.map Container.unmemoized := by
    refine (ordered_ofLoaded _).records_eq hordered fun c => ?_
    rw [List.mem_map]
    constructor
    · intro hc
      have hloaded := exists_of_get?_ofLoaded ((ordered_ofLoaded _).get?_of_mem hc)
      obtain ⟨d, hd, rfl⟩ := (h.mem_recordsIn hback).1 hloaded.1
      exact ⟨d, hd, rfl⟩
    · rintro ⟨d, hd, rfl⟩
      -- the identifier of a loaded record leads to a loaded record, and only one has it
      have hloaded := isSome_get?_ofLoaded ((h.mem_recordsIn hback).2 ⟨d, hd, rfl⟩)
      obtain ⟨e, he⟩ := Option.isSome_iff_exists.1 hloaded
      obtain ⟨hmem, hid⟩ := exists_of_get?_ofLoaded he
      obtain ⟨d', hd', rfl⟩ := (h.mem_recordsIn hback).1 hmem
      obtain rfl : d' = d := h.ordered.eq_of_databaseId hd' hd hid
      exact mem_of_get? he
  refine ⟨_, hopen, hrecords, h.stands, ordered_ofLoaded _, ?_, ?_⟩
  · intro c hc
    rw [hrecords, List.mem_map] at hc
    obtain ⟨d, hd, rfl⟩ := hc
    exact h.saved d hd
  · intro name hname
    rcases h.names name hname with hdraft | ⟨d, hd, rfl⟩
    · exact .inl hdraft
    · refine .inr ⟨d.unmemoized, ?_, rfl⟩
      rw [hrecords]
      exact List.mem_map_of_mem hd

end Reopening

end Store

end Mooring
