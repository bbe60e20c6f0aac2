import Mooring.Container.Document

set_option autoImplicit false

/-!
# The store of containers

Records by identifier, each saved before it becomes visible, so that a save that fails changes
nothing that can be seen; an identifier once handed out is not handed out again, until the counter
comes round. An index leads from the identifiers of the engine to records.

How records are saved is a parameter: a `Shelf` saves a record in a state of its own, and may fail.
-/

namespace Mooring

/-- Why the store could not do what it was asked. -/
inductive StoreError where
  | notFound (id : Int)
  | unusable (path : String)
  deriving DecidableEq, Repr

/-- The wording of a store error. -/
def StoreError.message : StoreError → String
  | notFound id => s!"Container {id} not found"
  | unusable path => s!"Container store I/O error at {path}"

/-- Saves records in a state `σ`. -/
structure Shelf (σ : Type) where
  save : Container → σ → Except StoreError Unit × σ

/-- The shelf that keeps nothing. -/
def Shelf.none {σ : Type} : Shelf σ :=
  ⟨fun _ s => (.ok (), s)⟩

/-- What an entry did to the status of a container. -/
structure StatusChange where
  before : Status
  after : Status
  deriving DecidableEq, Repr

/-- Whether the status moved. -/
def StatusChange.moved (c : StatusChange) : Bool :=
  c.before ≠ c.after

/-- Records in the order of their identifiers, the index of engine identifiers, and the next
identifier to hand out. -/
structure Store where
  records : List Container := []
  index : OrderedMap Int := .empty
  nextId : Int := 1
  deriving DecidableEq

namespace Store

/-- The store without records. -/
def empty : Store := {}

/-- The greatest identifier: identifiers have 64 bits, one of them the sign. -/
def lastId : Int :=
  Int.pow 2 63 - 1

/-- The identifier after another. The least follows the greatest. -/
def nextAfter (id : Int) : Int :=
  if id = lastId then -lastId - 1 else id + 1

/-! ## Looking up -/

/-- The record of an identifier. -/
def get? (s : Store) (id : Int) : Option Container :=
  s.records.find? fun c => c.databaseId = id

/-- The identifier of the record that an identifier of the engine belongs to. -/
def find? (s : Store) (external : String) : Option Int :=
  s.index.get? external

/-- The records in a status. -/
def withStatus (s : Store) (status : Status) : List Container :=
  s.records.filter fun c => c.status = status

/-- Whether a container is a service that has not come to its end. -/
def isOpenService (c : Container) : Bool :=
  c.swarm && c.serviceId.isSome && !c.isFinalized

/-- The services that have not come to their end. -/
def openServices (s : Store) : List Container :=
  s.records.filter isOpenService

/-! ## Changing -/

/-- The records with one put in its place. -/
def place (c : Container) : List Container → List Container
  | [] => [c]
  | d :: rest =>
    if c.databaseId = d.databaseId then c :: rest
    else if c.databaseId < d.databaseId then c :: d :: rest
    else d :: place c rest

/-- Put a record in its place. -/
def put (s : Store) (c : Container) : Store :=
  { s with records := place c s.records }

/-- Lead the identifiers of a record to it. -/
def indexed (s : Store) (c : Container) : Store :=
  { s with index := s.index.setAll (c.externalIds.map fun e => (e, c.databaseId)) }

section Saving

variable {σ : Type} (shelf : Shelf σ)

/-- Add a record under a new identifier. -/
def insert (c : Container) (s : Store) (disk : σ) : Except StoreError Int × Store × σ :=
  let c := { c with databaseId := s.nextId }
  let s := { s with nextId := nextAfter s.nextId }
  match shelf.save c disk with
  | (.ok (), disk) => (.ok c.databaseId, (s.indexed c).put c, disk)
  | (.error e, disk) => (.error e, s, disk)

/-- Change a record. -/
def update (id : Int) (f : Container → Container) (s : Store) (disk : σ) :
    Except StoreError Unit × Store × σ :=
  match s.get? id with
  | none => (.error (.notFound id), s, disk)
  | some c =>
    match shelf.save (f c) disk with
    | (.ok (), disk) => (.ok (), (s.indexed (f c)).put (f c), disk)
    | (.error e, disk) => (.error e, s, disk)

/-- Append an entry to the history of a record. A repeated entry is no change and is not saved. -/
def append (id : Int) (e : HistoryEntry) (s : Store) (disk : σ) :
    Except StoreError (Option StatusChange) × Store × σ :=
  match s.get? id with
  | none => (.error (.notFound id), s, disk)
  | some c =>
    match c.append? e with
    | none => (.ok none, s, disk)
    | some d =>
      match shelf.save d disk with
      | (.ok (), disk) => (.ok (some ⟨c.status, d.status⟩), s.put d, disk)
      | (.error e, disk) => (.error e, s, disk)

/-- A save that fails leaves the records as they were. -/
theorem records_of_update_error {id : Int} {f : Container → Container} {s s' : Store}
    {disk disk' : σ} {e : StoreError} (h : update shelf id f s disk = (.error e, s', disk')) :
    s' = s := by
  unfold update at h
  split at h
  · simp only [Prod.mk.injEq] at h
    exact h.2.1.symm
  · split at h
    · simp at h
    · simp only [Prod.mk.injEq] at h
      exact h.2.1.symm

end Saving

end Store

end Mooring
