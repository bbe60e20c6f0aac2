import Mooring.Container.Report

set_option autoImplicit false

/-!
# History of a container

Each entry is one observation about a container and is never changed. The status of a container is
a projection of its history: `statusOf` takes the entries in order, and an entry that implies a
status moves to it, except that what the engine reports counts no more once a terminal status is
reached.
-/

namespace Mooring

/-- One observation about a container. -/
structure HistoryEntry where
  status : String
  origin : Origin
  author : Option String := none
  recorded : Instant
  externalTime : Option String := none
  message : Option String := none
  exitCode : Option String := none
  deriving DecidableEq

namespace HistoryEntry

/-- The entry of a container event. -/
def ofEvent (now : Instant) (e : ContainerEvent) : HistoryEntry :=
  { status := e.status, origin := .event, recorded := now,
    externalTime := some (toString e.timeNano), exitCode := e.exitCode? }

/-- The entry of a service task. -/
def ofTask (now : Instant) (t : ServiceTask) : HistoryEntry :=
  { status := t.status, origin := .service, recorded := now,
    externalTime := t.statusTime.map fun i => toString i.toMillis, message := t.message,
    exitCode := t.exitCode.map toString }

/-- An entry of this system. -/
def ofSystem (now : Instant) (status : String) (message : Option String := none) : HistoryEntry :=
  { status, origin := .system, recorded := now, message }

/-- An entry for the action of a user. -/
def ofUser (now : Instant) (status user : String) : HistoryEntry :=
  { status, origin := .user, author := some user, recorded := now }

/-- Whether two entries record the same notification of the engine. Entries without its time never
do. -/
def sameEvent (a b : HistoryEntry) : Bool :=
  match a.externalTime, b.externalTime with
  | some s, some t => s = t && a.status = b.status
  | _, _ => false

/-- The status a container event implies. -/
def statusOfEvent? (event : String) : Option Status :=
  if event = "create" then some .created
  else if ["start", "restart", "unpause"].contains event then some .running
  else if ["kill", "die", "oom"].contains event then some .finalizing
  else none

/-- The status a phase of a task implies. -/
def statusOfPhase? : TaskPhase → Option Status
  | .notStarted => some .starting
  | .running => some .running
  | .exited => some .finalizing
  | .unknown => none

/-- The status an entry implies. What a user asks for implies none, the report of the engine that
follows it does. -/
def status? (e : HistoryEntry) : Option Status :=
  match e.origin with
  | .event => statusOfEvent? e.status
  | .service => statusOfPhase? (.ofState e.status)
  | .system => Status.ofName? e.status
  | .user => none

/-- Whether a container event says that the container stopped. -/
def eventEnds (event : String) : Bool :=
  statusOfEvent? event = some .finalizing

/-- Whether an entry reports that the container stopped. -/
def signalsExit (e : HistoryEntry) : Bool :=
  match e.origin with
  | .event => eventEnds e.status
  | .service => TaskPhase.ofState e.status = .exited
  | .system | .user => false

/-- The document of an entry. -/
def toJson (e : HistoryEntry) : Json :=
  .obj [("status", .str e.status), ("entityType", .str e.origin.name),
    ("entityId", Json.ofOption .str e.author), ("timeRecorded", e.recorded.toJson),
    ("externalTimestamp", Json.ofOption .str e.externalTime),
    ("message", Json.ofOption .str e.message), ("exitCode", Json.ofOption .str e.exitCode)]

/-- The entry of a document. -/
def ofJson? (v : Json) : Option HistoryEntry := do
  let r ← Record.ofJson? ["status", "entityType", "entityId", "timeRecorded", "externalTimestamp",
    "message", "exitCode"] v
  return {
    status := ← r.need "status" Json.asString?
    origin := ← r.need "entityType" (Json.asNamed? Origin.names)
    author := ← r.optional "entityId" Json.asString?
    recorded := ← r.need "timeRecorded" Instant.ofJson?
    externalTime := ← r.optional "externalTimestamp" Json.asString?
    message := ← r.optional "message" Json.asString?
    exitCode := ← r.optional "exitCode" Json.asString? }

end HistoryEntry

/-! ## Status of a history -/

/-- A status with the time at which it was reached. -/
abbrev StatusReached : Type :=
  Status × Instant

/-- Where an entry leads from the status reached before it. -/
def nextStatus (current : Option StatusReached) (e : HistoryEntry) : Option StatusReached :=
  if current.any (fun s => s.1.isTerminal) && e.origin.isEngine then current
  else
    match e.status? with
    | some s => some (s, e.recorded)
    | none => current

/-- The status that a history leads to, if any entry implies one. -/
def statusOf (history : List HistoryEntry) : Option StatusReached :=
  history.foldl nextStatus none

/-- One more entry leads one step further. -/
@[simp] theorem statusOf_append_singleton (history : List HistoryEntry) (e : HistoryEntry) :
    statusOf (history ++ [e]) = nextStatus (statusOf history) e := by
  simp [statusOf]

/-- What the engine reports does not move a terminal status. -/
theorem nextStatus_of_terminal {s : Status} {t : Instant} {e : HistoryEntry}
    (hs : s.isTerminal = true) (he : e.origin.isEngine = true) :
    nextStatus (some (s, t)) e = some (s, t) := by
  simp [nextStatus, hs, he]

end Mooring
