import Mathlib.Data.List.Infix
import Mooring.Lifecycle.Tracker
import Mooring.Proofs.Store.Growth
import Mooring.Proofs.Store.Session

set_option autoImplicit false

/-!
# Which record an identifier of the engine leads to

The index is written to and never cleared while a store is in use, so that an identifier of the
engine leads to the record that bore it at some time since the directory was opened
(`find?_eq_some_iff_bore`). Look-up tells who bears an identifier as long as no record loses one,
and opening the directory again brings it back to that (`findsBearers_iff`).
-/

namespace Mooring.Store

/-- Whether the record of an identifier bears an identifier of the engine. -/
def Bears (s : Store) (id : Int) (external : String) : Prop :=
  ∃ c, s.get? id = some c ∧ external ∈ c.externalIds

/-- Whether look-up leads to the record that bears an identifier of the engine, and to none where
no record does. -/
def FindsBearers (s : Store) : Prop :=
  ∀ external id, s.find? external = some id ↔ s.Bears id external

/-! ## Changes -/

section Changing

variable {s t : Store} {c d : Container} {id : Int} {external : String}

/-- Whether a change of a store gave a record the identifiers of the engine that it now bears, and
left the other records and what leads to them as they were. -/
structure Names (s : Store) (d : Container) (t : Store) : Prop where
  find? : ∀ external,
    t.find? external = if external ∈ d.externalIds then some d.databaseId else s.find? external
  bears : ∀ id external, t.Bears id external ↔
    if id = d.databaseId then external ∈ d.externalIds else s.Bears id external

/-- Whether two stores cannot be told apart by identifiers of the engine. -/
structure SameNames (s t : Store) : Prop where
  find? : ∀ external, t.find? external = s.find? external
  bears : ∀ id external, t.Bears id external ↔ s.Bears id external

theorem SameNames.refl (s : Store) : s.SameNames s :=
  ⟨fun _ => rfl, fun _ _ => Iff.rfl⟩

theorem bears_put_iff : (s.put d).Bears id external ↔
    if id = d.databaseId then external ∈ d.externalIds else s.Bears id external := by
  unfold Bears
  rw [get?_put]
  by_cases hid : id = d.databaseId
  · rw [if_pos hid.symm, if_pos hid]
    simp
  · rw [if_neg (Ne.symm hid), if_neg hid]

/-- A record that is put in its place and indexed bears its identifiers from then on. -/
theorem names_indexed_put (s : Store) (d : Container) : s.Names d ((s.indexed d).put d) where
  find? := find?_indexed s d
  bears _ _ := bears_put_iff

theorem SameNames.find?_eq_some_iff (h : s.SameNames t)
    (hfound : s.Bears id external → s.find? external = some id) :
    t.find? external = some id ↔ s.find? external = some id ∨ t.Bears id external := by
  rw [h.find?, h.bears]
  exact ⟨.inl, fun hor => hor.elim (fun hfind => hfind) hfound⟩

/-- An identifier of the engine leads to where it led before or to the record that bears it, unless
it is given to another record. -/
theorem Names.find?_eq_some_iff (h : s.Names d t)
    (hfound : s.Bears id external → s.find? external = some id)
    (honce : ∀ other, s.find? external = some id → t.Bears other external → id = other) :
    t.find? external = some id ↔ s.find? external = some id ∨ t.Bears id external := by
  rw [h.find?, h.bears]
  by_cases hnamed : external ∈ d.externalIds
  · have hbears : t.Bears d.databaseId external := (h.bears _ _).2 (by rwa [if_pos rfl])
    rw [if_pos hnamed]
    constructor
    · intro hid
      right
      rwa [if_pos (Option.some.inj hid).symm]
    · rintro (hfind | hother)
      · rw [honce d.databaseId hfind hbears]
      · split at hother
        · next hid => rw [hid]
        · rw [honce d.databaseId (hfound hother) hbears]
  · rw [if_neg hnamed]
    refine ⟨.inl, fun hor => hor.elim (fun hfind => hfind) fun hother => ?_⟩
    split at hother
    · exact absurd hother hnamed
    · exact hfound hother

/-- A record with another entry bears what it bore. -/
theorem sameNames_put_of_append? {e : HistoryEntry} (hc : s.get? id = some c)
    (hd : c.append? e = some d) : s.SameNames (s.put d) where
  find? _ := rfl
  bears other external := by
    rw [bears_put_iff, Container.databaseId_of_append? hd, databaseId_of_get? hc,
      Container.externalIds_of_append? hd]
    split
    · next h =>
      subst h
      unfold Bears
      rw [hc]
      simp
    · rfl

end Changing

/-! ## Records that were loaded -/

section Loading

variable {s : Store} {cs : List Container} {external : String} {id : Int}

theorem find?_load (s : Store) (c : Container) (external : String) :
    (s.load c).find? external =
      if external ∈ c.externalIds then some c.databaseId else s.find? external :=
  find?_indexed s c external

theorem exists_of_find?_foldl_load (h : (cs.foldl load s).find? external = some id) :
    (∃ c ∈ cs, c.databaseId = id ∧ external ∈ c.externalIds) ∨ s.find? external = some id := by
  induction cs generalizing s with
  | nil => exact .inr h
  | cons c rest ih =>
    rcases ih h with ⟨d, hd, hid, hbears⟩ | hfind
    · exact .inl ⟨d, List.mem_cons_of_mem c hd, hid, hbears⟩
    · rw [find?_load] at hfind
      split at hfind
      · next hbears => exact .inl ⟨c, List.mem_cons_self, Option.some.inj hfind, hbears⟩
      · exact .inr hfind

/-- An identifier that only one loaded record bears leads to it. -/
theorem find?_foldl_load (hid : ∀ c ∈ cs, external ∈ c.externalIds → c.databaseId = id)
    (h : (∃ c ∈ cs, external ∈ c.externalIds) ∨ s.find? external = some id) :
    (cs.foldl load s).find? external = some id := by
  induction cs generalizing s with
  | nil => exact h.resolve_left (by simp)
  | cons c rest ih =>
    refine ih (fun d hd => hid d (List.mem_cons_of_mem c hd)) ?_
    by_cases hbears : external ∈ c.externalIds
    · right
      rw [find?_load, if_pos hbears, hid c List.mem_cons_self hbears]
    · rcases h with ⟨d, hd, hd'⟩ | hfind
      · rcases List.mem_cons.1 hd with rfl | hd
        · exact absurd hd' hbears
        · exact .inl ⟨d, hd, hd'⟩
      · right
        rw [find?_load, if_neg hbears, hfind]

/-- Where loaded records differ in their identifiers and bear different ones of the engine, look-up
leads to those that bear them. -/
theorem findsBearers_ofLoaded
    (hids : ∀ c ∈ cs, ∀ d ∈ cs, c.databaseId = d.databaseId → c = d)
    (honce : ∀ c ∈ cs, ∀ d ∈ cs, ∀ external ∈ c.externalIds, external ∈ d.externalIds →
      c.databaseId = d.databaseId) : (ofLoaded cs).FindsBearers := by
  intro external id
  constructor
  · intro hfind
    rcases exists_of_find?_foldl_load hfind with ⟨c, hc, rfl, hbears⟩ | hempty
    · obtain ⟨d, hd⟩ := Option.isSome_iff_exists.1 (isSome_get?_ofLoaded hc)
      obtain ⟨hmem, hid⟩ := exists_of_get?_ofLoaded hd
      obtain rfl := hids d hmem c hc hid
      exact ⟨d, hd, hbears⟩
    · cases hempty
  · rintro ⟨c, hget, hbears⟩
    obtain ⟨hc, rfl⟩ := exists_of_get?_ofLoaded hget
    exact find?_foldl_load (fun d hd hd' => honce d hd c hc external hd' hbears)
      (.inl ⟨c, hc, hbears⟩)

end Loading

/-! ## Opening a directory -/

section Opening

variable {dir : String} {s : Store} {files : FileTree} {c : Container} {id : Int}
  {external : String}

/-- Whether no identifier of the engine is borne by two records. -/
def BearsOnce (s : Store) : Prop :=
  ∀ id other external, s.Bears id external → s.Bears other external → id = other

theorem Ordered.bears_of_mem (h : s.Ordered) (hc : c ∈ s.records)
    (hbears : external ∈ c.externalIds) : s.Bears c.databaseId external :=
  ⟨c, h.get?_of_mem hc, hbears⟩

/-- The records of an opened directory that mirrors a store bear what those of the store bear. -/
theorem bears_iff_of_records {t : Store} (h : t.records = s.records.map Container.unmemoized) :
    t.Bears id external ↔ s.Bears id external := by
  unfold Bears
  rw [Session.get?_of_records_eq_map h]
  constructor
  · rintro ⟨c, hc, hbears⟩
    obtain ⟨d, hd, rfl⟩ := Option.map_eq_some_iff.1 hc
    exact ⟨d, hd, hbears⟩
  · rintro ⟨c, hc, hbears⟩
    exact ⟨c.unmemoized, by rw [hc]; rfl, hbears⟩

/-- Opening the directory of a store gives one in which look-up leads to the bearers. -/
theorem Mirrors.openIn_findsBearers [FileTree.Listing] (h : Mirrors dir s files)
    (hread : ∀ c ∈ s.records, c.ReadsBack) (honce : s.BearsOnce) :
    ∃ t, Store.openIn dir files = (.ok t, files) ∧ Mirrors dir t files ∧ t.FindsBearers ∧
      ∀ id external, t.Bears id external ↔ s.Bears id external := by
  obtain ⟨t, hopen, hrecords, hmirrors⟩ := h.openIn hread
  refine ⟨t, hopen, hmirrors, ?_, fun id external => bears_iff_of_records hrecords⟩
  obtain ⟨-, -, rfl⟩ := openIn_eq_ok_iff.1 hopen
  apply findsBearers_ofLoaded
  · intro c hc d hd hid
    obtain ⟨c', hc', rfl⟩ := (h.mem_recordsIn hread).1 hc
    obtain ⟨d', hd', rfl⟩ := (h.mem_recordsIn hread).1 hd
    rw [h.ordered.eq_of_databaseId hc' hd' hid]
  · intro c hc d hd external hcbears hdbears
    obtain ⟨c', hc', rfl⟩ := (h.mem_recordsIn hread).1 hc
    obtain ⟨d', hd', rfl⟩ := (h.mem_recordsIn hread).1 hd
    exact honce c'.databaseId d'.databaseId external (h.ordered.bears_of_mem hc' hcbears)
      (h.ordered.bears_of_mem hd' hdbears)

end Opening

/-! ## A session -/

namespace Session

section Sessions

variable [FileTree.Listing] {dir : String} {p : Session} {steps : List Step} {id : Int}
  {external : String}

/-- Whether the record of an identifier bore an identifier of the engine at some time since the
directory was opened last. -/
def Bore (dir : String) (p : Session) (steps : List Step) (id : Int) (external : String) : Prop :=
  ∃ front rest, steps = front ++ rest ∧ Step.reopen ∉ rest ∧
    (p.run dir front).store.Bears id external

/-- Whether no identifier of the engine is ever given to two records, not even one after the
other. -/
def GivesOnce (dir : String) (p : Session) (steps : List Step) : Prop :=
  ∀ front front', front <+: steps → front' <+: steps → ∀ id other external,
    (p.run dir front).store.Bears id external → (p.run dir front').store.Bears other external →
      id = other

theorem GivesOnce.front {front : List Step} (h : GivesOnce dir p steps)
    (hfront : front <+: steps) : GivesOnce dir p front :=
  fun _ _ h₁ h₂ => h _ _ (h₁.trans hfront) (h₂.trans hfront)

omit [FileTree.Listing] in
/-- Each call gives identifiers of the engine to one record, or to none. -/
theorem names_act (p : Session) (dir : String) (fault : Fault) (call : Call) :
    p.store.SameNames (p.act dir fault call).2.store ∨
      ∃ d, p.store.Names d (p.act dir fault call).2.store := by
  cases call with
  | insert c =>
    rw [act_insert]
    rcases insert_cases (faultyShelf dir fault) p.store p.files c with ⟨-, hr⟩ | ⟨err, -, hr⟩
    · have hnames := names_indexed_put p.store.skipped (p.store.numbered c)
      rw [hr]
      exact .inr ⟨p.store.numbered c, hnames.find?, hnames.bears⟩
    · rw [hr]
      exact .inl ⟨fun _ => rfl, fun _ _ => Iff.rfl⟩
  | update id change =>
    rw [act_update, store_after]
    rcases store_update_cases (faultyShelf dir fault) id p.store p.files change.apply with
      hr | ⟨c, -, hr⟩
    · rw [hr]
      exact .inl (.refl p.store)
    · rw [hr]
      exact .inr ⟨change.apply c, names_indexed_put p.store (change.apply c)⟩
  | append id entry =>
    rw [act_append, store_after]
    rcases store_append_cases (faultyShelf dir fault) id p.store p.files entry with
      hr | ⟨c, d, hc, hd, hr⟩
    · rw [hr]
      exact .inl (.refl p.store)
    · rw [hr]
      exact .inl (sameNames_put_of_append? hc hd)

/-! ### What was borne -/

theorem bore_of_bears (h : (p.run dir steps).store.Bears id external) :
    Bore dir p steps id external :=
  ⟨steps, [], (List.append_nil steps).symm, List.not_mem_nil, h⟩

theorem bore_reopen_iff : Bore dir p (steps ++ [.reopen]) id external ↔
    (p.run dir (steps ++ [.reopen])).store.Bears id external := by
  refine ⟨?_, bore_of_bears⟩
  rintro ⟨front, rest, hsteps, hrest, hbears⟩
  rcases List.eq_nil_or_concat rest with rfl | ⟨rest, last, rfl⟩
  · rwa [hsteps, List.append_nil]
  · -- the last step is the opening, which is none of the rest
    rw [List.concat_eq_append, ← List.append_assoc] at hsteps
    obtain rfl : Step.reopen = last := by simpa using (List.append_inj' hsteps rfl).2
    exact absurd (by simp) hrest

theorem bore_call_iff {fault : Fault} {call : Call} :
    Bore dir p (steps ++ [.call fault call]) id external ↔
      Bore dir p steps id external ∨
        (p.run dir (steps ++ [.call fault call])).store.Bears id external := by
  constructor
  · rintro ⟨front, rest, hsteps, hrest, hbears⟩
    rcases List.eq_nil_or_concat rest with rfl | ⟨rest, last, rfl⟩
    · right
      rwa [hsteps, List.append_nil]
    · left
      rw [List.concat_eq_append, ← List.append_assoc] at hsteps
      refine ⟨front, rest, (List.append_inj' hsteps rfl).1, fun h => hrest ?_, hbears⟩
      rw [List.concat_eq_append]
      exact List.mem_append_left _ h
  · rintro (⟨front, rest, rfl, hrest, hbears⟩ | hbears)
    · refine ⟨front, rest ++ [.call fault call], List.append_assoc .., ?_, hbears⟩
      simpa using hrest
    · exact bore_of_bears hbears

/-! ### Look-up along a session -/

/-- An identifier of the engine leads to the record that bore it at some time since the directory
was opened last. -/
theorem find?_eq_some_iff_bore (hmirrors : Mirrors dir p.store p.files)
    (hfinds : p.store.FindsBearers) (hread : ReadBack dir p steps) (honce : GivesOnce dir p steps)
    (external : String) (id : Int) :
    (p.run dir steps).store.find? external = some id ↔ Bore dir p steps id external := by
  induction steps using List.reverseRecOn generalizing external id with
  | nil =>
    refine (hfinds external id).trans ⟨fun hbears => bore_of_bears hbears, ?_⟩
    rintro ⟨front, rest, hsteps, -, hbears⟩
    rwa [(List.append_eq_nil_iff.1 hsteps.symm).1] at hbears
  | append_singleton steps last ih =>
    have hfront : steps <+: steps ++ [last] := List.prefix_append steps [last]
    have hbefore := ih (hread.front hfront) (honce.front hfront)
    cases last with
    | reopen =>
      rw [bore_reopen_iff, run_concat]
      have hrun := mirrors_run hmirrors (hread.front hfront)
      obtain ⟨t, hopen, -, ht, -⟩ := hrun.openIn_findsBearers (hread _ hfront)
        fun id other external => honce steps steps hfront hfront id other external
      rw [step_reopen_of_ok hopen]
      exact ht external id
    | call fault call =>
      -- what was borne before by another record would have been given twice
      have hsame : ∀ id other, Bore dir p steps id external →
          (p.run dir (steps ++ [.call fault call])).store.Bears other external → id = other := by
        rintro id other ⟨front, rest, hsteps, -, hbears⟩ hother
        have hearly : front <+: steps := ⟨rest, hsteps.symm⟩
        exact honce _ _ (hearly.trans hfront) List.prefix_rfl id other external hbears hother
      have hfound : (p.run dir steps).store.Bears id external →
          (p.run dir steps).store.find? external = some id :=
        fun hbears => (hbefore external id).2 (bore_of_bears hbears)
      have hborn : ∀ other, (p.run dir steps).store.find? external = some id →
          ((p.run dir steps).act dir fault call).2.store.Bears other external → id = other := by
        intro other hfind hother
        apply hsame id other ((hbefore external id).1 hfind)
        rw [run_concat]
        exact hother
      rw [bore_call_iff, ← hbefore, run_concat]
      rcases names_act (p.run dir steps) dir fault call with hnames | ⟨d, hnames⟩
      · exact hnames.find?_eq_some_iff hfound
      · exact hnames.find?_eq_some_iff hfound hborn

/-- The session of a directory that was opened. -/
def opened (store : Store) (files : FileTree) : Session :=
  { store, files }

/-- What look-up tells after a session: which record bore an identifier of the engine since the
directory was opened. That is the record that bears it just if none that bore it lost it, and just
then opening the directory again changes no look-up. -/
structure TellsBearers (dir : String) (p : Session) (steps : List Step) : Prop where
  find? : ∀ external id,
    (p.run dir steps).store.find? external = some id ↔ Bore dir p steps id external
  exact : (p.run dir steps).store.FindsBearers ↔
    ∀ id external, Bore dir p steps id external → (p.run dir steps).store.Bears id external
  reopened : ∃ t, openIn dir (p.run dir steps).files = (.ok t, (p.run dir steps).files) ∧
    t.FindsBearers ∧
    (∀ id external, t.Bears id external ↔ (p.run dir steps).store.Bears id external) ∧
    ((∀ external, t.find? external = (p.run dir steps).store.find? external) ↔
      (p.run dir steps).store.FindsBearers)

section Telling

variable {s : Store} {files files' : FileTree}

/-- In a directory that was opened look-up leads to the bearers. -/
theorem findsBearers_of_openIn (hopen : openIn dir files = (.ok s, files'))
    (hmirrors : Mirrors dir s files') (hread : ∀ c ∈ s.records, c.ReadsBack)
    (honce : s.BearsOnce) : s.FindsBearers := by
  obtain ⟨t, hagain, -, ht, -⟩ := hmirrors.openIn_findsBearers hread honce
  obtain ⟨-, -, hs⟩ := openIn_eq_ok_iff.1 hopen
  obtain ⟨-, -, ht'⟩ := openIn_eq_ok_iff.1 hagain
  rwa [hs, ← ht']

/-- After any calls and openings, whatever went wrong in them, look-up leads to the record that
bore an identifier of the engine since the directory was opened, if none is ever given to two
records. -/
theorem tellsBearers (hopen : openIn dir files = (.ok s, files')) (hmirrors : Mirrors dir s files')
    (hread : ReadBack dir (opened s files') steps)
    (honce : GivesOnce dir (opened s files') steps) :
    TellsBearers dir (opened s files') steps := by
  have hnil : [] <+: steps := List.nil_prefix
  have hfinds : s.FindsBearers := findsBearers_of_openIn hopen hmirrors (hread [] hnil)
    fun id other external => honce [] [] hnil hnil id other external
  have hbore := find?_eq_some_iff_bore hmirrors hfinds hread honce
  obtain ⟨t, hagain, -, ht, hbears⟩ :=
    (mirrors_run hmirrors hread).openIn_findsBearers (hread _ List.prefix_rfl)
      fun id other external => honce _ _ List.prefix_rfl List.prefix_rfl id other external
  refine ⟨hbore, ⟨fun hexact id external h => ?_, fun hkept external id => ?_⟩,
    t, hagain, ht, hbears, ⟨fun hsame external id => ?_, fun hexact external => ?_⟩⟩
  · exact (hexact external id).1 ((hbore external id).2 h)
  · exact (hbore external id).trans ⟨hkept id external, bore_of_bears⟩
  · rw [← hsame, ht external id, hbears]
  · refine Option.ext fun id => ?_
    rw [ht external id, hbears, hexact external id]

end Telling

end Sessions

/-! ### A task that moves -/

/-- The record of a service. -/
def swarmService : Container :=
  { commandId := 1, serviceId := some "s1", userId := "u", image := "i", commandLine := "l",
    swarm := true, statusTime := ⟨0, 0⟩ }

/-- What a running task says about the place of its service. -/
def placing (task container : String) : Change where
  apply := Tracker.withTask
    { serviceId := "s1", taskId := task, nodeId := "n1", status := "running",
      containerId := some container }
  keepsId _ := rfl

/-- A service is added, runs in a container, and then in another one. -/
def moving : List Step :=
  [.call .none (.insert swarmService), .call .none (.update 1 (placing "t1" "c1")),
    .call .none (.update 1 (placing "t2" "c2"))]

theorem openIn_bareFiles : openIn "records" bareFiles = (.ok empty, bareFiles) := by
  decide +kernel

/-- The first container still leads to the service, which has left it. -/
theorem not_findsBearers_moving :
    ¬ ((opened empty bareFiles).run "records" moving).store.FindsBearers := by
  intro h
  have hfind : ((opened empty bareFiles).run "records" moving).store.find? "c1" = some 1 := by
    decide +kernel
  have hborne : (((opened empty bareFiles).run "records" moving).store.get? 1).map
      Container.externalIds = some ["c2", "s1"] := by
    decide +kernel
  obtain ⟨c, hc, hbears⟩ := (h "c1" 1).1 hfind
  rw [hc, Option.map_some, Option.some.injEq] at hborne
  rw [hborne] at hbears
  revert hbears
  decide

theorem records_moving : ∀ front ∈ moving.inits,
    ∀ c ∈ ((opened empty bareFiles).run "records" front).store.records, c.databaseId = 1 ∧
      c.toJson.fits = true ∧ Container.ofJson? c.toJson = some c.unmemoized := by
  decide +kernel

theorem tellsBearers_moving :
    openIn "records" bareFiles = (.ok empty, bareFiles) ∧ Mirrors "records" empty bareFiles ∧
      ReadBack "records" (opened empty bareFiles) moving ∧
      GivesOnce "records" (opened empty bareFiles) moving ∧
      TellsBearers "records" (opened empty bareFiles) moving := by
  have hmirrors : Mirrors "records" empty bareFiles :=
    mirrors_empty (FileTree.stands_of_makeDirs? (t := bareFiles) rfl) (by decide +kernel)
  have hread : ReadBack "records" (opened empty bareFiles) moving := by
    intro front hfront c hc
    obtain ⟨-, hfits, hback⟩ := records_moving front ((List.mem_inits front moving).2 hfront) c hc
    exact Container.readsBack_of_toJson hfits hback
  have honce : GivesOnce "records" (opened empty bareFiles) moving := by
    have hfirst : ∀ front, front <+: moving → ∀ id external,
        ((opened empty bareFiles).run "records" front).store.Bears id external → id = 1 := by
      rintro front hfront id external ⟨c, hc, -⟩
      rw [← databaseId_of_get? hc]
      exact (records_moving front ((List.mem_inits front moving).2 hfront) c (mem_of_get? hc)).1
    intro front front' hfront hfront' id other external hid hother
    rw [hfirst front hfront id external hid, hfirst front' hfront' other external hother]
  exact ⟨openIn_bareFiles, hmirrors, hread, honce,
    tellsBearers openIn_bareFiles hmirrors hread honce⟩

end Session

end Mooring.Store
