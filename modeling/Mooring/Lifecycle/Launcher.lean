import Mooring.Lifecycle.Tracker

set_option autoImplicit false

/-!
# Launching commands

A resolved command is made ready for the engine and handed to it. The record of the container is
kept before the engine creates anything, and stays when the engine fails.
-/

namespace Mooring

/-- How commands are launched: where the containers find the site, how the engine sees the
directories of the site, and whether commands run as services. -/
structure Launcher where
  siteUrl : String
  translate : String → String := id
  swarm : Bool := false

namespace Launcher

/-- The variable with the address of the site. -/
def hostVariable : String := "BERTH_HOST"

/-- The variable with the user. -/
def userVariable : String := "BERTH_USER"

/-- The variable with the token. -/
def passVariable : String := "BERTH_PASS"

/-- The command with the credentials a container needs to reach the site. -/
def withCredentials (l : Launcher) (user token : String) (r : Resolved) : Resolved :=
  r.setEnvironment [(hostVariable, l.siteUrl), (userVariable, user), (passVariable, token)]

/-- The directory of a mount; one without a directory gets a new one. -/
def hostPathOf (m : Resolved.Mount) : Job String :=
  match m.hostPath with
  | some path => return path
  | none => Job.attempt .store (Routine.ask .makeBuildDirectory)

/-- The command with a mount bound to its directory, as seen from the site and from the engine. -/
def bindMount (l : Launcher) (r : Resolved) (m : Resolved.Mount) : Job Resolved := do
  let host ← hostPathOf m
  return r.bindMount m.name host (l.translate host)

/-- Make a command ready for the engine. -/
def prepare (l : Launcher) (user : String) (r : Resolved) : Job Resolved := do
  let token ← Job.attempt (.noToken user) (Routine.ask (.issueToken user))
  r.mounts.foldlM l.bindMount (l.withCredentials user token r)

/-- The first record of a launch, in which the token is masked. -/
def firstRecord (l : Launcher) (user : String) (r : Resolved) (now : Instant) : Container :=
  let c := Container.ofResolved now r user
  let c := { c with
    swarm := l.swarm, environment := c.environment.modify passVariable fun _ => Resolved.mask }
  (c.append? (Tracker.systemEntry .created none now)).getD c

/-- Record why a launch failed, and fail. -/
def giveUp {α : Type} (id : Int) (what : String) (e : Error) : Job α := do
  let _ ← Job.append id (Tracker.systemEntry .failed s!"{what}: {e.message}")
  throw e

/-- A job whose failure is recorded. -/
def orGiveUp {α : Type} (id : Int) (what : String) (job : Job α) : Job α :=
  tryCatch job (giveUp id what)

/-- Have the engine create what a command asks for. -/
def create (l : Launcher) (r : Resolved) : Job String :=
  if l.swarm then Job.engine (.createService r) else Job.engine (.createContainer r)

/-- The record with the identifier the engine gave. -/
def withEngineId (l : Launcher) (external : String) (c : Container) : Container :=
  if l.swarm then { c with serviceId := some external }
  else { c with containerId := some external }

/-- Launch a command for a user. The value is the record of the container. -/
def launch (l : Launcher) (user : String) (r : Resolved) : Job Container := do
  let r ← l.prepare user r
  Job.engine .ping
  let id ← Job.attempt .store (Routine.ask (.insert (l.firstRecord user r)))
  let external ← orGiveUp id "Failed to create" (l.create r)
  let _ ← Job.update id (l.withEngineId external)
  if !l.swarm then
    orGiveUp id "Failed to start" (Job.engine (.startContainer external))
  Job.need id

end Launcher

end Mooring
