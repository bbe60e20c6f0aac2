import Mooring.Proofs.Container.Document
import Mooring.Proofs.Container.Noting

set_option autoImplicit false

/-!
# Records in circulation

A store hands out copies of its records, and its directory can be read again. Each copy goes its own
way from then on: entries are appended to it, its fields change, and its exit code is looked up,
which leaves the code in the copy. A copy is up to date if the code left in it, if any, is the first
one of its history (`Container.IsUpToDate`). Each step keeps all records and copies up to date
(`Circulation.IsUpToDate.step`), so whatever was done before, a look at an exit code gives the first
one of the history of that moment (`Circulation.looks_are_first`).
-/

namespace Mooring

/-! ## Looking up exit codes -/

/-- The exit code that a history has: that of the first entry with one. -/
inductive IsFirstCode : List HistoryEntry → Option String → Prop where
  | found {before rest : List HistoryEntry} {e : HistoryEntry} {code : String}
      (hcode : e.exitCode = some code) (hbefore : ∀ f ∈ before, f.exitCode = none) :
      IsFirstCode (before ++ e :: rest) (some code)
  | none {history : List HistoryEntry} (h : ∀ e ∈ history, e.exitCode = none) :
      IsFirstCode history none

/-- A look at the exit code of a record: what it gave, and the history of the record then. -/
structure Look where
  code : Option String
  history : List HistoryEntry

/-- Whether a look gave the first exit code. -/
def Look.IsRight (l : Look) : Prop :=
  IsFirstCode l.history l.code

/-- A change of a record that has no part in its history and looks nothing up. -/
structure Revision where
  apply : Container → Container
  keepsHistory : ∀ c, (apply c).history = c.history
  keepsMemo : ∀ c, (apply c).exitMemo = c.exitMemo

/-- What may be done with a record at hand. -/
inductive Use where
  | append (e : HistoryEntry)
  | look
  | revise (r : Revision)

namespace Container

/-- The record after a use. -/
def use (c : Container) : Use → Container
  | .append e => (c.append? e).getD c
  | .look => c.memoized
  | .revise r => r.apply c

/-- The record after uses, one after the other. -/
def used (c : Container) (uses : List Use) : Container :=
  uses.foldl use c

/-- The looks among uses of a record. -/
def looks (c : Container) : List Use → List Look
  | [] => []
  | .look :: rest => ⟨c.exitCode?, c.history⟩ :: c.memoized.looks rest
  | .append e :: rest => (c.use (.append e)).looks rest
  | .revise r :: rest => (r.apply c).looks rest

/-- Whether an exit code that was looked up in a record is the first of its history. -/
def IsUpToDate (c : Container) : Prop :=
  ∀ code, c.exitMemo = some code → firstExitCode? c.history = some code

variable {c d : Container} {e : HistoryEntry}

theorem isFirstCode_firstExitCode? (history : List HistoryEntry) :
    IsFirstCode history (firstExitCode? history) := by
  cases hcode : firstExitCode? history with
  | none => exact .none (List.findSome?_eq_none_iff.1 hcode)
  | some code =>
    obtain ⟨before, e, rest, rfl, hcode, hbefore⟩ := List.findSome?_eq_some_iff.1 hcode
    exact .found hcode hbefore

theorem isUpToDate_of_exitMemo_none (h : c.exitMemo = none) : c.IsUpToDate := by
  intro code hcode
  rw [h] at hcode
  cases hcode

theorem IsUpToDate.exitCode?_eq (h : c.IsUpToDate) : c.exitCode? = firstExitCode? c.history := by
  unfold exitCode?
  cases hmemo : c.exitMemo with
  | none => rfl
  | some code => exact (h code hmemo).symm

theorem IsUpToDate.isFirstCode (h : c.IsUpToDate) : IsFirstCode c.history c.exitCode? := by
  rw [h.exitCode?_eq]
  exact isFirstCode_firstExitCode? c.history

/-- What was the first code stays it when the history grows. -/
theorem IsUpToDate.append? (h : c.IsUpToDate) (hd : c.append? e = some d) : d.IsUpToDate := by
  intro code hcode
  rw [exitMemo_of_append? hd] at hcode
  -- the new entry comes last, behind the one with the code
  have hfirst : c.history.findSome? HistoryEntry.exitCode = some code := h code hcode
  rw [firstExitCode?, history_of_append? hd, List.findSome?_append, hfirst]
  rfl

theorem IsUpToDate.memoized (h : c.IsUpToDate) : c.memoized.IsUpToDate := by
  intro code hcode
  have hlooked : c.exitCode? = some code := hcode
  rw [h.exitCode?_eq] at hlooked
  exact hlooked

theorem IsUpToDate.revise (h : c.IsUpToDate) (r : Revision) : (r.apply c).IsUpToDate := by
  intro code hcode
  rw [r.keepsMemo] at hcode
  rw [r.keepsHistory]
  exact h code hcode

theorem IsUpToDate.use (h : c.IsUpToDate) (u : Use) : (c.use u).IsUpToDate := by
  cases u with
  | append e =>
    show ((c.append? e).getD c).IsUpToDate
    cases hd : c.append? e with
    | none => exact h
    | some d => exact h.append? hd
  | look => exact h.memoized
  | revise r => exact h.revise r

theorem IsUpToDate.used (h : c.IsUpToDate) (uses : List Use) : (c.used uses).IsUpToDate := by
  induction uses generalizing c with
  | nil => exact h
  | cons u rest ih => exact ih (h.use u)

theorem IsUpToDate.looks (h : c.IsUpToDate) (uses : List Use) :
    ∀ l ∈ c.looks uses, l.IsRight := by
  induction uses generalizing c with
  | nil =>
    intro l hl
    cases hl
  | cons u rest ih =>
    cases u with
    | look =>
      rw [Container.looks, List.forall_mem_cons]
      exact ⟨h.isFirstCode, ih h.memoized⟩
    | append e => exact ih (h.use (.append e))
    | revise r => exact ih (h.revise r)

/-- Nothing is looked up in a record that is read from a text. -/
theorem isUpToDate_of_ofText? {text : String} (h : ofText? text = some c) : c.IsUpToDate :=
  isUpToDate_of_exitMemo_none (isRepresentable_of_ofText? h).2

end Container

namespace Store

/-! ## Records of a store -/

/-- Whether every record is up to date. -/
def IsUpToDate (s : Store) : Prop :=
  ∀ c ∈ s.records, c.IsUpToDate

section Keeping

variable {σ : Type} {shelf : Shelf σ} {s : Store} {disk : σ} {c : Container} {id : Int}

theorem isUpToDate_empty : empty.IsUpToDate := by
  intro c hc
  cases hc

theorem IsUpToDate.put (h : s.IsUpToDate) (hc : c.IsUpToDate) : (s.put c).IsUpToDate := by
  intro d hd
  rcases mem_place hd with rfl | hd
  · exact hc
  · exact h d hd

theorem IsUpToDate.get? (h : s.IsUpToDate) (hc : s.get? id = some c) : c.IsUpToDate :=
  h c (mem_of_get? hc)

theorem IsUpToDate.insert (h : s.IsUpToDate) (hc : c.IsUpToDate) :
    (s.insert shelf c disk).2.1.IsUpToDate := by
  rcases insert_cases shelf s disk c with ⟨-, hr⟩ | ⟨err, -, hr⟩
  · rw [hr]
    exact IsUpToDate.put (s := s.skipped.indexed (s.numbered c)) h hc
  · rw [hr]
    exact h

theorem IsUpToDate.update {f : Container → Container} (h : s.IsUpToDate)
    (hf : ∀ c, c.IsUpToDate → (f c).IsUpToDate) (id : Int) :
    (s.update shelf id f disk).2.1.IsUpToDate := by
  rcases store_update_cases shelf id s disk f with hr | ⟨c, hc, hr⟩
  · rw [hr]
    exact h
  · rw [hr]
    exact IsUpToDate.put (s := s.indexed (f c)) h (hf c (h.get? hc))

theorem IsUpToDate.append (h : s.IsUpToDate) (id : Int) (e : HistoryEntry) :
    (s.append shelf id e disk).2.1.IsUpToDate := by
  rcases store_append_cases shelf id s disk e with hr | ⟨c, d, hc, hd, hr⟩
  · rw [hr]
    exact h
  · rw [hr]
    exact h.put ((h.get? hc).append? hd)

theorem isUpToDate_of_recordIn? {dir name : String} {files : FileTree}
    (h : recordIn? dir files name = some c) : c.IsUpToDate := by
  obtain ⟨-, text, -, hread⟩ := recordIn?_eq_some_iff.1 h
  exact Container.isUpToDate_of_ofText? hread

theorem isUpToDate_of_openIn [FileTree.Listing] {dir : String} {files opened : FileTree}
    (h : openIn dir files = (.ok s, opened)) : s.IsUpToDate := by
  obtain ⟨-, -, rfl⟩ := openIn_eq_ok_iff.1 h
  intro c hc
  have hloaded := exists_of_get?_ofLoaded ((ordered_ofLoaded _).get?_of_mem hc)
  obtain ⟨name, -, hrecord⟩ := mem_recordsIn_iff.1 hloaded.1
  exact isUpToDate_of_recordIn? hrecord

end Keeping

end Store

/-! ## Copies -/

/-- A store with its files, the copies of records that were handed out, and the looks at exit codes
so far. -/
structure Circulation where
  store : Store
  files : FileTree
  copies : List Container := []
  looks : List Look := []

namespace Circulation

/-- What may happen. A call that saves comes with the shelf that it saves on, so that any of them may
go wrong in its own way. -/
inductive Step where
  | record (now : Instant) (r : Resolved) (user : String)
  | insert (shelf : Shelf FileTree) (k : Nat)
  | append (shelf : Shelf FileTree) (id : Int) (e : HistoryEntry)
  | update (shelf : Shelf FileTree) (id : Int) (uses : List Use)
  | get (id : Int)
  | list
  | clone (k : Nat)
  | use (k : Nat) (uses : List Use)
  | read (name : String)
  | reopen

/-- The copies with some more. -/
def handOut (p : Circulation) (more : List Container) : Circulation :=
  { p with copies := p.copies ++ more }

/-- The store and its files after a call. -/
def after {α : Type} (p : Circulation) (r : Except StoreError α × Store × FileTree) : Circulation :=
  { p with store := r.2.1, files := r.2.2 }

/-- The looks with some more. -/
def see (p : Circulation) (more : List Look) : Circulation :=
  { p with looks := p.looks ++ more }

/-- What a step leads to, in the directory of the store. -/
def step [FileTree.Listing] (dir : String) (p : Circulation) : Step → Circulation
  | .record now r user => p.handOut [.ofResolved now r user]
  | .insert shelf k =>
    match p.copies[k]? with
    | some c => p.after (p.store.insert shelf c p.files)
    | none => p
  | .append shelf id e => p.after (p.store.append shelf id e p.files)
  | .update shelf id uses =>
    (p.see ((p.store.get? id).elim [] (·.looks uses))).after
      (p.store.update shelf id (·.used uses) p.files)
  | .get id => p.handOut (p.store.get? id).toList
  | .list => p.handOut p.store.records
  | .clone k => p.handOut p.copies[k]?.toList
  | .use k uses =>
    match p.copies[k]? with
    | some c => { p.see (c.looks uses) with copies := p.copies.set k (c.used uses) }
    | none => p
  | .read name => p.handOut (Store.recordIn? dir p.files name).toList
  | .reopen =>
    match Store.openIn dir p.files with
    | (.ok store, files) => { p with store, files }
    | (.error _, files) => { p with files }

/-- What steps lead to, one after the other. -/
def run [FileTree.Listing] (dir : String) (p : Circulation) (steps : List Step) : Circulation :=
  steps.foldl (step dir) p

/-- The start, without records and copies, over any files. -/
def start (files : FileTree) : Circulation :=
  { store := .empty, files }

/-- Whether all records and copies are up to date, and all looks gave the first exit code. -/
structure IsUpToDate (p : Circulation) : Prop where
  store : p.store.IsUpToDate
  copies : ∀ c ∈ p.copies, c.IsUpToDate
  looks : ∀ l ∈ p.looks, l.IsRight

variable {p : Circulation} {dir : String}

theorem isUpToDate_start (files : FileTree) : (start files).IsUpToDate where
  store := Store.isUpToDate_empty
  copies := by
    intro c hc
    cases hc
  looks := by
    intro l hl
    cases hl

theorem IsUpToDate.handOut (h : p.IsUpToDate) {more : List Container}
    (hmore : ∀ c ∈ more, c.IsUpToDate) : (p.handOut more).IsUpToDate where
  store := h.store
  copies := List.forall_mem_append.2 ⟨h.copies, hmore⟩
  looks := h.looks

theorem IsUpToDate.after (h : p.IsUpToDate) {α : Type}
    {r : Except StoreError α × Store × FileTree} (hr : r.2.1.IsUpToDate) :
    (p.after r).IsUpToDate where
  store := hr
  copies := h.copies
  looks := h.looks

theorem IsUpToDate.see (h : p.IsUpToDate) {more : List Look} (hmore : ∀ l ∈ more, l.IsRight) :
    (p.see more).IsUpToDate where
  store := h.store
  copies := h.copies
  looks := List.forall_mem_append.2 ⟨h.looks, hmore⟩

theorem IsUpToDate.copy (h : p.IsUpToDate) {k : Nat} {c : Container} (hc : p.copies[k]? = some c) :
    c.IsUpToDate :=
  h.copies c (List.mem_of_getElem? hc)

/-- Each step keeps all records and copies up to date. -/
theorem IsUpToDate.step [FileTree.Listing] (h : p.IsUpToDate) (step : Step) :
    (p.step dir step).IsUpToDate := by
  cases step with
  | record now r user =>
    apply h.handOut
    rw [List.forall_mem_singleton]
    exact Container.isUpToDate_of_exitMemo_none rfl
  | insert shelf k =>
    simp only [Circulation.step]
    cases hc : p.copies[k]? with
    | none => exact h
    | some c => exact h.after (h.store.insert (h.copy hc))
  | append shelf id e => exact h.after (h.store.append id e)
  | update shelf id uses =>
    -- the looks are right also if the record is not saved afterwards
    have hlooks : ∀ l ∈ (p.store.get? id).elim [] (·.looks uses), l.IsRight := by
      cases hc : p.store.get? id with
      | none => nofun
      | some c => exact (h.store.get? hc).looks uses
    apply (h.see hlooks).after
    apply h.store.update
    intro c hc
    exact hc.used uses
  | get id =>
    apply h.handOut
    intro c hc
    exact h.store.get? (Option.mem_toList.1 hc)
  | list => exact h.handOut h.store
  | clone k =>
    apply h.handOut
    intro c hc
    exact h.copy (Option.mem_toList.1 hc)
  | use k uses =>
    simp only [Circulation.step]
    cases hc : p.copies[k]? with
    | none => exact h
    | some c =>
      -- only the copy that is used changes
      refine ⟨h.store, ?_, (h.see ((h.copy hc).looks uses)).looks⟩
      intro d hd
      rcases List.mem_or_eq_of_mem_set hd with hd | rfl
      · exact h.copies d hd
      · exact (h.copy hc).used uses
  | read name =>
    apply h.handOut
    intro c hc
    exact Store.isUpToDate_of_recordIn? (Option.mem_toList.1 hc)
  | reopen =>
    simp only [Circulation.step]
    cases hopen : Store.openIn dir p.files with
    | mk r files =>
      cases r with
      | ok store => exact ⟨Store.isUpToDate_of_openIn hopen, h.copies, h.looks⟩
      | error e => exact ⟨h.store, h.copies, h.looks⟩

theorem IsUpToDate.run [FileTree.Listing] (h : p.IsUpToDate) (steps : List Step) :
    (p.run dir steps).IsUpToDate := by
  induction steps generalizing p with
  | nil => exact h
  | cons s rest ih => exact ih (h.step s)

/-- Whatever is done with the store, its directory and the copies of its records, in any order, each
look at the exit code of a record gave the first one of its history at that moment, or none if there
was none, and so does a look at any record or copy now. -/
theorem looks_are_first [FileTree.Listing] (dir : String) (files : FileTree) (steps : List Step) :
    (∀ l ∈ ((start files).run dir steps).looks, IsFirstCode l.history l.code) ∧
      ∀ c, c ∈ ((start files).run dir steps).store.records ∨
        c ∈ ((start files).run dir steps).copies → IsFirstCode c.history c.exitCode? := by
  have h : ((start files).run dir steps).IsUpToDate := (isUpToDate_start files).run steps
  refine ⟨h.looks, ?_⟩
  rintro c (hc | hc)
  · exact (h.store c hc).isFirstCode
  · exact (h.copies c hc).isFirstCode

/-- The entry of a container that ended with a code. -/
def ended (code : String) : HistoryEntry :=
  { status := "die", origin := .event, recorded := ⟨1, 0⟩, exitCode := some code }

example :
    ((start ⟨[]⟩).run "records"
      [.record ⟨0, 0⟩ { commandId := 1, commandName := "c", image := "i", commandLine := "l" } "u",
        .use 0 [.look], .insert .none 0, .update .none 1 [.append (ended "3"), .look],
        .append .none 1 (ended "0"), .get 1, .use 0 [.append (ended "5"), .look],
        .use 1 [.look]]).looks.map Look.code = [none, some "3", some "5", some "3"] := by
  decide

end Circulation

end Mooring
