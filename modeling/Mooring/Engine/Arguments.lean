import Mooring.Double.Text
import Mooring.Engine.Basic
import Mooring.Server.Basic
import Mooring.Text.ShellWords

set_option autoImplicit false

/-!
# Arguments of the engine's command line

What each call says to the program that speaks to the engine: first how the server is reached, then
the command. A container and a service are described by the same arguments but for their limits.
-/

namespace Mooring.Engine

/-- The certificate files in the directory of a server, with the flags that name them. -/
def certificateFiles : List (String × String) :=
  [("--tlscacert", "ca.pem"), ("--tlscert", "cert.pem"), ("--tlskey", "key.pem")]

/-- How the server is reached; a server without a host is none. -/
def connectionArguments (server : Option Server) : Except EngineError (List String) :=
  match server with
  | none => .error .notConfigured
  | some s =>
    if Text.isBlankText s.host then .error .notConfigured
    else
      let certificates := match s.certPath with
        | some dir =>
          if dir.isEmpty then []
          else "--tlsverify" :: certificateFiles.flatMap fun f => [f.1, Files.join dir f.2]
        | none => []
      .ok (["-H", s.host] ++ certificates)

/-- The bind of a mount that has a directory. -/
def mountArgument? (m : Resolved.Mount) : Option String :=
  m.bindSource?.map fun source =>
    "type=bind,source=" ++ source ++ ",target=" ++ m.containerPath ++
      (if m.writable then "" else ",readonly")

/-- A container port and the host port it is published on, unless that is empty. -/
def portArgument? (port : String × String) : Option String :=
  if port.2.isEmpty then none else some (port.2 ++ ":" ++ port.1)

/-- An amount of memory in mebibytes. -/
def memoryText (n : Nat) : String :=
  toString n ++ "m"

/-- A flag with the text of a value, if there is one. -/
def flagged {α : Type} (flag : String) (text : α → String) (v : Option α) : List String :=
  match v with
  | some v => [flag, text v]
  | none => []

/-- The limits of a container or of a service. -/
def limitArguments (service : Bool) (r : Resolved) : List String :=
  let flags := if service then ("--reserve-memory", "--limit-memory", "--limit-cpu")
    else ("--memory-reservation", "--memory", "--cpus")
  flagged flags.1 memoryText r.reserveMemory ++ flagged flags.2.1 memoryText r.limitMemory ++
    flagged flags.2.2 Double.plainText r.limitCpu

/-- The arguments that describe a container or a service. -/
def launchArguments (service : Bool) (r : Resolved) : List String :=
  flagged "--workdir" id r.workingDirectory ++
    (r.environment.entries.flatMap fun e => ["--env", e.1 ++ "=" ++ e.2]) ++
    ((r.mounts.filterMap mountArgument?).flatMap fun m => ["--mount", m]) ++
    ((r.ports.entries.filterMap portArgument?).flatMap fun p => ["--publish", p]) ++
    limitArguments service r

/-- The image and the words of the command line. -/
def commandWords (r : Resolved) : Except EngineError (List String) :=
  if Text.isBlankText r.commandLine then .ok [r.image]
  else
    match Text.shellWords? r.commandLine with
    | some words => .ok (r.image :: words)
    | none => .error (.failed (.openQuote r.commandLine))

/-- What is asked of the engine for one event or image: its document on a line. -/
def asDocument : List String :=
  ["--format", "\x7b\x7bjson .\x7d\x7d"]

/-- The arguments to create a container. -/
def createArguments (r : Resolved) : Except EngineError (List String) := do
  return "create" :: launchArguments false r ++ (← commandWords r)

/-- The arguments to create a service that runs once. -/
def createServiceArguments (r : Resolved) : Except EngineError (List String) := do
  return ["service", "create", "--detach", "--quiet", "--restart-condition", "none"] ++
    launchArguments true r ++ (← commandWords r)

/-- The arguments for the events between two instants, in whole seconds. -/
def eventsArguments (since til : Instant) : List String :=
  ["events", "--since", toString since.seconds, "--until", toString til.seconds, "--filter",
    "type=container"] ++ asDocument

/-- The arguments for all events from now on. -/
def listenArguments : List String :=
  ["events", "--filter", "type=container"] ++ asDocument

end Mooring.Engine
