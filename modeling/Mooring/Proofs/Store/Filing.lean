import Mooring.Proofs.Store.Mirror

set_option autoImplicit false

/-!
# A store and any directory

A directory that was not made by the store may hold files that read as no record, and several that
read as records with one identifier. Whatever it holds, a property of all its records and of all that
is saved stays one of all records, in the store and in its files (`Filing`); the directory can be
opened again (`Filing.openIn`); and a record whose identifier names the only file that it was read
from is then the record of the store.
-/

namespace Mooring.Store

open FileTree

variable {dir name : String} {files files' opened : FileTree} {s t : Store} {c : Container}
  {id : Int}

/-! ## What files read as -/

/-- Whether the names in a directory are names of one step, and whatever looks like the file of a
record is a file. -/
def Legible (dir : String) (files : FileTree) : Prop :=
  ∀ name ∈ files.entries dir, Files.IsName name ∧ IsReadable dir files name

theorem read?_congr (hname : Files.IsName name)
    (h : files'.nodes.lookup (Files.parts dir ++ [name]) =
      files.nodes.lookup (Files.parts dir ++ [name])) :
    files'.read? (Files.join dir name) = files.read? (Files.join dir name) := by
  have hbelow : files'.below? dir name = files.below? dir name := by
    rw [below?_eq_lookup hname, below?_eq_lookup hname, h]
  refine Option.ext fun text => ?_
  rw [read?_join hname, read?_join hname, hbelow]

theorem recordIn?_congr (hname : Files.IsName name)
    (h : files'.nodes.lookup (Files.parts dir ++ [name]) =
      files.nodes.lookup (Files.parts dir ++ [name])) :
    recordIn? dir files' name = recordIn? dir files name := by
  unfold recordIn?
  rw [read?_congr hname h]

theorem isReadable_congr (hname : Files.IsName name)
    (h : files'.nodes.lookup (Files.parts dir ++ [name]) =
      files.nodes.lookup (Files.parts dir ++ [name])) :
    IsReadable dir files' name ↔ IsReadable dir files name := by
  unfold IsReadable
  rw [read?_congr hname h]

/-- What reads as a record is there. -/
theorem mem_entries_of_recordIn? (hname : Files.IsName name)
    (h : recordIn? dir files name = some c) : name ∈ files.entries dir := by
  obtain ⟨-, text, htext, -⟩ := recordIn?_eq_some_iff.1 h
  rw [mem_entries_iff_below? hname, (read?_join hname).1 htext]
  rfl

/-! ## Changes of files -/

/-- Whether what happened to the files happened beside a directory. -/
structure Beside (dir : String) (files files' : FileTree) : Prop where
  stands : files.Stands dir → files'.Stands dir
  lookup : ∀ name, files'.nodes.lookup (Files.parts dir ++ [name]) =
    files.nodes.lookup (Files.parts dir ++ [name])

/-- Whether a directory stands and reads as it did. -/
structure ReadsAlike (dir : String) (files files' : FileTree) : Prop where
  stands : files'.Stands dir
  legible : Legible dir files'
  record : ∀ name, Files.IsName name → recordIn? dir files' name = recordIn? dir files name

theorem Beside.readsAlike (h : Beside dir files files') (hdir : files.Stands dir)
    (hlegible : Legible dir files) : ReadsAlike dir files files' where
  stands := h.stands hdir
  legible name hname := by
    have hbefore : name ∈ files.entries dir := by
      rw [mem_entries_iff] at hname ⊢
      rwa [← h.lookup]
    obtain ⟨hisName, hreadable⟩ := hlegible name hbefore
    exact ⟨hisName, (isReadable_congr hisName (h.lookup name)).2 hreadable⟩
  record name hname := recordIn?_congr hname (h.lookup name)

theorem OnlyDraft.readsAlike (h : OnlyDraft dir id files files') (hdir : files.Stands dir)
    (hlegible : Legible dir files) : ReadsAlike dir files files' where
  stands := h.stands hdir
  legible name hname := by
    by_cases hdraft : name = draftName id
    · rw [hdraft]
      exact ⟨isName_draftName id, isReadable_draftName dir files' id⟩
    · have hplace : Files.parts dir ++ [name] ≠ draftPlace dir id := ne_place_of_ne hdraft
      have hlookup := h.others _ hplace
      rw [mem_entries_iff, hlookup, ← mem_entries_iff] at hname
      obtain ⟨hisName, hreadable⟩ := hlegible name hname
      exact ⟨hisName, (isReadable_congr hisName hlookup).2 hreadable⟩
  record name hname := by
    by_cases hdraft : name = draftName id
    · rw [hdraft, recordIn?_draftName, recordIn?_draftName]
    · exact recordIn?_congr hname (h.others _ (ne_place_of_ne hdraft))

theorem Saved.read?_recordName (h : Saved dir c files files') :
    files'.read? (Files.join dir (recordName c.databaseId)) = some c.text :=
  Store.read?_recordName ((h.lookup _).trans (if_pos rfl))

theorem Saved.legible (h : Saved dir c files files') (hlegible : Legible dir files) :
    Legible dir files' := by
  intro name hname
  by_cases hrecord : name = recordName c.databaseId
  · rw [hrecord]
    refine ⟨isName_recordName _, fun _ => ?_⟩
    rw [h.read?_recordName]
    rfl
  · by_cases hdraft : name = draftName c.databaseId
    · rw [hdraft]
      exact ⟨isName_draftName _, isReadable_draftName dir files' _⟩
    · have hlookup := h.lookup_of_ne hrecord hdraft
      rw [mem_entries_iff, hlookup, ← mem_entries_iff] at hname
      obtain ⟨hisName, hreadable⟩ := hlegible name hname
      exact ⟨hisName, (isReadable_congr hisName hlookup).2 hreadable⟩

/-- A record that reads back from its text is read from the file it was saved to. -/
theorem Saved.recordIn? (h : Saved dir c files files') (hread : Container.ofText? c.text = some c)
    (hname : Files.IsName name) :
    Store.recordIn? dir files' name =
      if name = recordName c.databaseId then some c else Store.recordIn? dir files name := by
  split
  · next hrecord =>
    rw [hrecord]
    exact recordIn?_eq_some_iff.2
      ⟨hasExtension_recordName _, c.text, h.read?_recordName, hread⟩
  · next hrecord =>
    by_cases hdraft : name = draftName c.databaseId
    · rw [hdraft, recordIn?_draftName, recordIn?_draftName]
    · exact recordIn?_congr hname (h.lookup_of_ne hrecord hdraft)

/-! ## Filings -/

/-- Whether the records with an identifier are read from the one file that is named by it. -/
def IsFiled (dir : String) (files : FileTree) (id : Int) : Prop :=
  ∀ name, Files.IsName name → ∀ c, recordIn? dir files name = some c → c.databaseId = id →
    name = recordName id

/-- A store whose records have a property, with a directory whose records have it too. The
identifiers of some records name their files, from which these records read back. -/
structure Filing (dir : String) (home : Int → Prop) (P : Container → Prop) (s : Store)
    (files : FileTree) : Prop where
  stands : files.Stands dir
  legible : Legible dir files
  ordered : s.Ordered
  held : ∀ c ∈ s.records, P c
  read : ∀ name, Files.IsName name → ∀ c, recordIn? dir files name = some c → P c
  filed : ∀ id, home id → IsFiled dir files id
  kept : ∀ c ∈ s.records, home c.databaseId →
    recordIn? dir files (recordName c.databaseId) = some c

variable {home : Int → Prop} {P : Container → Prop}

theorem Filing.recordsIn [Listing] (h : Filing dir home P s files) :
    ∀ c ∈ recordsIn dir files, P c := by
  intro c hc
  obtain ⟨name, hname, hread⟩ := mem_recordsIn_iff.1 hc
  exact h.read name (h.legible name hname).1 c hread

/-- An empty directory is filed with the empty store, whatever the property. -/
theorem filing_empty (hdir : files.Stands dir) (hnames : files.entries dir = []) :
    Filing dir home P empty files := by
  have hnone : ∀ name, Files.IsName name → recordIn? dir files name = none := by
    intro name hname
    refine Option.eq_none_iff_forall_ne_some.2 fun c hc => ?_
    have hmem := mem_entries_of_recordIn? hname hc
    rw [hnames] at hmem
    cases hmem
  refine ⟨hdir, ?_, ordered_empty, List.forall_mem_nil _, ?_, ?_, List.forall_mem_nil _⟩
  · intro name hname
    rw [hnames] at hname
    cases hname
  · intro name hname c hc
    rw [hnone name hname] at hc
    cases hc
  · intro id _ name hname c hc
    rw [hnone name hname] at hc
    cases hc

/-- A filing is about the records and what the directory reads as. -/
theorem Filing.congr (h : Filing dir home P s files) (halike : ReadsAlike dir files files')
    (hrecords : t.records = s.records) : Filing dir home P t files' where
  stands := halike.stands
  legible := halike.legible
  ordered := h.ordered.congr hrecords
  held c hc := h.held c (hrecords ▸ hc)
  read name hname c hread := h.read name hname c ((halike.record name hname).symm.trans hread)
  filed id hid name hname c hread := by
    rw [halike.record name hname] at hread
    exact h.filed id hid name hname c hread
  kept c hc hid := by
    rw [halike.record _ (isName_recordName _)]
    exact h.kept c (hrecords ▸ hc) hid

/-- A record that has the property can be saved and put in its place. -/
theorem Filing.saving (h : Filing dir home P s files) (hsaved : Saved dir c files files')
    (hrecords : t.records = (s.put c).records) (hc : P c)
    (hread : Container.ofText? c.text = some c) : Filing dir home P t files' := by
  have hmem : ∀ d ∈ t.records, d = c ∨ d ∈ s.records ∧ d.databaseId ≠ c.databaseId := by
    rw [hrecords]
    exact fun d => h.ordered.mem_put_iff.1
  have hrecord : ∀ name, Files.IsName name → recordIn? dir files' name =
      if name = recordName c.databaseId then some c else recordIn? dir files name :=
    fun name hname => hsaved.recordIn? hread hname
  -- a field of the filing is about the saved record, or about one that is as it was
  refine ⟨hsaved.stands h.stands, hsaved.legible h.legible, (h.ordered.put c).congr hrecords,
    ?_, ?_, ?_, ?_⟩
  · intro d hd
    rcases hmem d hd with rfl | ⟨hd, -⟩
    · exact hc
    · exact h.held d hd
  · intro name hname d hd
    rw [hrecord name hname] at hd
    split at hd
    · cases hd
      exact hc
    · exact h.read name hname d hd
  · intro id hid name hname d hd hdid
    rw [hrecord name hname] at hd
    split at hd
    · next heq =>
      cases hd
      rw [heq, hdid]
    · exact h.filed id hid name hname d hd hdid
  · intro d hd hid
    rw [hrecord _ (isName_recordName _)]
    rcases hmem d hd with rfl | ⟨hd, hne⟩
    · rw [if_pos rfl]
    · rw [if_neg fun heq => hne (recordName_inj.1 heq)]
      exact h.kept d hd hid

section Changing

variable {σ : Type} {view : σ → FileTree} {shelf : Shelf σ} {disk : σ}

theorem Filing.append (h : Filing dir home P s (view disk)) (hshelf : KeepsIn dir view shelf)
    {e : HistoryEntry}
    (hP : ∀ c d, s.get? id = some c → c.append? e = some d →
      P d ∧ Container.ofText? d.text = some d) :
    Filing dir home P (s.append shelf id e disk).2.1 (view (s.append shelf id e disk).2.2) := by
  rcases append_cases shelf id s disk e with
    ⟨-, hr⟩ | ⟨c, -, -, hr⟩ | ⟨c, d, hc, hd, hsave, hr⟩ | ⟨c, d, err, hc, hd, hsave, hr⟩
  · rw [hr]
    exact h
  · rw [hr]
    exact h
  · obtain ⟨hd, hread⟩ := hP c d hc hd
    rw [hr]
    exact h.saving (hshelf.saved h.stands hsave) rfl hd hread
  · rw [hr]
    exact h.congr ((hshelf.onlyDraft h.stands hsave).readsAlike h.stands h.legible) rfl

theorem Filing.update (h : Filing dir home P s (view disk)) (hshelf : KeepsIn dir view shelf)
    {f : Container → Container}
    (hP : ∀ c, P c → P (f c) ∧ Container.ofText? (f c).text = some (f c)) :
    Filing dir home P (s.update shelf id f disk).2.1 (view (s.update shelf id f disk).2.2) := by
  rcases update_cases shelf id s disk f with ⟨-, hr⟩ | ⟨c, hc, hsave, hr⟩ | ⟨c, err, hc, hsave, hr⟩
  · rw [hr]
    exact h
  · obtain ⟨hd, hread⟩ := hP c (h.held c (mem_of_get? hc))
    rw [hr]
    exact h.saving (hshelf.saved h.stands hsave) rfl hd hread
  · rw [hr]
    exact h.congr ((hshelf.onlyDraft h.stands hsave).readsAlike h.stands h.legible) rfl

end Changing

/-! ## Opening -/

section Opening

variable [Listing]

/-- An opened directory is filed with the store, if its records have the property. -/
theorem filing_of_openIn (hopen : openIn dir files = (.ok s, opened))
    (hnames : ∀ name ∈ files.entries dir, Files.IsName name)
    (hP : ∀ c ∈ recordsIn dir files, P c) : Filing dir (IsFiled dir files) P s opened := by
  obtain ⟨hmade, hreadable, rfl⟩ := openIn_eq_ok_iff.1 hopen
  have hlookup := lookup_makeDirs?_below hmade
  have hrecord : ∀ name, Files.IsName name →
      recordIn? dir opened name = recordIn? dir files name :=
    fun name hname => recordIn?_congr hname (hlookup name)
  have hlegible : Legible dir opened := by
    intro name hname
    refine ⟨hnames name ?_, hreadable name hname⟩
    rw [mem_entries_iff] at hname ⊢
    rwa [← hlookup]
  have hread : ∀ name, Files.IsName name → ∀ c, recordIn? dir opened name = some c → P c := by
    intro name hname c hc
    rw [hrecord name hname] at hc
    exact hP c (mem_recordsIn_iff.2 ⟨name, mem_entries_of_recordIn? hname hc, hc⟩)
  -- a record of the opened store was read from some file
  have hmem : ∀ c ∈ (ofLoaded (recordsIn dir opened)).records,
      ∃ name, Files.IsName name ∧ recordIn? dir opened name = some c := by
    intro c hc
    have hloaded := exists_of_get?_ofLoaded ((ordered_ofLoaded _).get?_of_mem hc)
    obtain ⟨name, hname, hrecord⟩ := mem_recordsIn_iff.1 hloaded.1
    exact ⟨name, (hlegible name hname).1, hrecord⟩
  refine ⟨stands_of_makeDirs? hmade, hlegible, ordered_ofLoaded _, ?_, hread, ?_, ?_⟩
  · intro c hc
    obtain ⟨name, hname, hc⟩ := hmem c hc
    exact hread name hname c hc
  · intro id hid name hname c hc
    rw [hrecord name hname] at hc
    exact hid name hname c hc
  · intro c hc hid
    obtain ⟨name, hname, hc⟩ := hmem c hc
    rw [← hid name hname c ((hrecord name hname).symm.trans hc) rfl]
    exact hc

/-- The directory can be opened again, and records whose identifiers name their files are then the
records of the store. -/
theorem Filing.openIn (h : Filing dir home P s files) :
    ∃ t, openIn dir files = (.ok t, files) ∧ Filing dir home P t files ∧
      ∀ id c, home id → s.get? id = some c → t.get? id = some c := by
  have hopen : Store.openIn dir files = (.ok (ofLoaded (Store.recordsIn dir files)), files) :=
    openIn_eq_ok_iff.2 ⟨h.stands.makeDirs?, fun name hname => (h.legible name hname).2, rfl⟩
  have hnames : ∀ name ∈ files.entries dir, Files.IsName name :=
    fun name hname => (h.legible name hname).1
  obtain ⟨hstands, hlegible, hordered, hheld, hread, -, hkept⟩ :=
    filing_of_openIn hopen hnames h.recordsIn
  refine ⟨_, hopen, ⟨hstands, hlegible, hordered, hheld, hread, h.filed, fun c hc hid =>
    hkept c hc (h.filed _ hid)⟩, fun id c hid hc => ?_⟩
  obtain rfl : c.databaseId = id := databaseId_of_get? hc
  -- its file is the only one that the identifier was read from
  have hfile := h.kept c (mem_of_get? hc) hid
  have hmem : c ∈ Store.recordsIn dir files := mem_recordsIn_iff.2
    ⟨_, mem_entries_of_recordIn? (isName_recordName _) hfile, hfile⟩
  obtain ⟨d, hd⟩ := Option.isSome_iff_exists.1 (isSome_get?_ofLoaded hmem)
  have hloaded := exists_of_get?_ofLoaded hd
  obtain ⟨name, hname, hrecord⟩ := mem_recordsIn_iff.1 hloaded.1
  obtain rfl := h.filed _ hid name (hlegible name hname).1 d hrecord hloaded.2
  rw [hd, ← hrecord, hfile]

end Opening

/-! ## Directories in which saves succeed -/

/-- A directory that is there and holds files alone. -/
structure HoldsFiles (dir : String) (files : FileTree) : Prop where
  stands : files.Stands dir
  plain : ∀ name, Files.IsName name → files.below? dir name ≠ some .directory

/-- A record is saved in such a directory, which stays one. -/
theorem HoldsFiles.saveIn (h : HoldsFiles dir files) (c : Container) :
    ∃ files', Store.saveIn dir c files = (.ok (), files') ∧ Saved dir c files files' ∧
      HoldsFiles dir files' := by
  have hdraft := h.plain _ (isName_draftName c.databaseId)
  have hrecord := h.plain _ (isName_recordName c.databaseId)
  have hsaved : Saved dir c files (movedIn dir c.databaseId c.text files) :=
    ⟨lookup_movedIn dir c.databaseId c.text files, hrecord, hdraft⟩
  refine ⟨_, saveIn_of_free h.stands hdraft hrecord, hsaved, hsaved.stands h.stands, ?_⟩
  intro name hname
  rw [below?_eq_lookup hname, hsaved.lookup]
  split
  · nofun
  · split
    · nofun
    · rw [← below?_eq_lookup hname]
      exact h.plain name hname

/-- The shelf of a directory that holds files alone. -/
def plainShelf (dir : String) : Shelf { files : FileTree // HoldsFiles dir files } :=
  ⟨fun c disk => ((Store.saveIn dir c disk.1).1, ⟨(Store.saveIn dir c disk.1).2, by
    obtain ⟨files', hsave, -, hfiles⟩ := disk.2.saveIn c
    rw [hsave]
    exact hfiles⟩)⟩

theorem plainShelf_saves (dir : String) : (plainShelf dir).Saves := by
  intro c disk
  obtain ⟨files', hsave, -, -⟩ := disk.2.saveIn c
  unfold plainShelf
  dsimp only
  rw [hsave]

theorem plainShelf_keepsIn (dir : String) : KeepsIn dir Subtype.val (plainShelf dir) := by
  intro c disk _
  obtain ⟨files', hsave, hsaved, -⟩ := disk.2.saveIn c
  refine .inl ⟨((plainShelf dir).save c disk).2, Prod.ext (plainShelf_saves dir c disk) rfl, ?_⟩
  unfold plainShelf
  dsimp only
  rw [hsave]
  exact hsaved

end Mooring.Store
