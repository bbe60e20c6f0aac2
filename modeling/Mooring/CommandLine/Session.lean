import Mooring.Command.Reader
import Mooring.CommandLine.Invocation
import Mooring.Engine.Client
import Mooring.Lifecycle.Installation
import Mooring.Lifecycle.Launcher
import Mooring.Lifecycle.Poller
import Mooring.Lifecycle.Recovery
import Mooring.Resolution.Basic
import Mooring.Settings.Reader
import Mooring.Site.Directory

set_option autoImplicit false

/-!
# Sessions

A session carries out one invocation: it reads the settings, works on the files and the engine, and
ends with an exit code, the text it printed, and the error it ended with, if it failed.
-/

namespace Mooring.CommandLine

/-- Why a session failed. -/
inductive SessionError where
  | system (error : Error)
  | server (error : ServerError)
  | noContainer (id : Int)
  | unreadableInputs (path : String)
  | malformedInputs (path : String)
  | notPair (text : String)
  | unnamedPair (text : String)

namespace SessionError

/-- The wording of a session error. -/
def message : SessionError → String
  | system e => e.message
  | server e => e.message
  | noContainer id => (StoreError.notFound id).message
  | unreadableInputs path => s!"Failed to read inputs file: {path}"
  | malformedInputs path => s!"Failed to parse inputs file: {path}"
  | notPair text => s!"Invalid input '{text}': expected NAME=VALUE"
  | unnamedPair text => s!"Invalid input '{text}': name must not be empty"

/-- The exit code of a failed session: commands that cannot be resolved and engines that cannot be
used have codes of their own. -/
def exitCode : SessionError → Nat
  | system (.resolution _) => 2
  | system e => if e.isOutage then 3 else 1
  | _ => 1

/-- The text of an error as it is printed; an error with a code of its own is printed with its
causes. -/
def shown (e : SessionError) : String :=
  match e with
  | system inner => if e.exitCode = 1 then inner.message else inner.fullMessage
  | e => e.message

end SessionError

/-- What a session finds where it runs: the time, the environment, a way to run the program that
speaks to the engine, and names for what is new. -/
structure Host (ε : Type) where
  now : Instant
  environment : Settings.Environment
  runProgram : List String → StateM ε Engine.Outcome
  program : String := "docker"
  directoryNames : Nat → String
  tokens : Nat → String

/-- A part of a session. -/
abbrev Session (ε : Type) : Type → Type :=
  ExceptT SessionError (StateM (Outside ε))

/-- What every invocation works with: the settings, and the host. -/
structure Context (ε : Type) where
  host : Host ε
  settings : Settings

/-- What is being watched: the engine of a server, the failures that are outstanding, and the
world. -/
structure Watch (ε : Type) where
  server : Option Server
  failures : Failures := {}
  world : World (Outside ε)

namespace Session

variable {ε : Type} {α : Type}

/-- The value of a result, or the end of the session. -/
def check {β : Type} (wrap : β → SessionError) (r : Except β α) : Session ε α :=
  match r with
  | .ok a => return a
  | .error e => throw (wrap e)

/-- The files as they are. -/
def files : Session ε FileTree := do
  return (← get).files

/-- A line of output. -/
def line (s : String) : String :=
  s ++ "\n"

/-- A document as output. -/
def document (v : Json) : String :=
  line v.pretty

end Session

namespace Context

variable {ε : Type} {α : Type} (ctx : Context ε)

/-- The configured server. -/
def server : Session ε (Option Server) := do
  Session.check .server (Server.load ctx.settings.serverPath (← Session.files))

/-- The engine of a server. -/
def engine (server : Option Server) : Engine ε := fun call s =>
  (Engine.Client.call ctx.host.runProgram { program := ctx.host.program, server } call).run s

/-- The installation that the settings describe, over the engine of a server. -/
def installation (server : Option Server) : Installation ε where
  now := ctx.host.now
  engine := ctx.engine server
  storeDir := some ctx.settings.containersDir
  logDir := ctx.settings.logDir
  serverPath := ctx.settings.serverPath
  buildPath := ctx.settings.buildPath
  tokens n := .ok (ctx.settings.token.getD (ctx.host.tokens n))
  directoryNames := ctx.host.directoryNames

/-- Open the store. -/
def openStore : Session ε (World (Outside ε)) := do
  let (r, s) := (ctx.installation none).start (← get)
  set s
  Session.check (.system ∘ .store) r

/-- Run a routine in a world that shares what lies outside with the session. -/
def run (server : Option Server) (w : World (Outside ε)) (r : Routine α) :
    Session ε (α × World (Outside ε)) := do
  let (a, w) := r.run (ctx.installation server).surroundings { w with outside := ← get }
  set w.outside
  return (a, w)

/-- Run a job whose failure ends the session. -/
def runJob (server : Option Server) (w : World (Outside ε)) (j : Job α) :
    Session ε (α × World (Outside ε)) := do
  let (r, w) ← ctx.run server w j.run
  return (← Session.check .system r, w)

/-- The site that the settings name. -/
def site (files : FileTree) : SiteLookup :=
  match ctx.settings.siteDataDir with
  | some dir => .inDirectory dir files
  | none => .nothing

end Context

/-! ## Inputs -/

/-- The name and value in an argument. -/
def pairOf (text : String) : Except SessionError (String × String) :=
  let cs := text.toList
  let name := Text.trim (cs.takeWhile (· != '='))
  if !cs.contains '=' then .error (.notPair text)
  else if name.isEmpty then .error (.unnamedPair text)
  else .ok (String.ofList name, String.ofList (cs.dropWhile (· != '=')).tail)

/-- The values in a file: strings as they are, other values as their text. -/
def valuesIn (path : String) (files : FileTree) : Except SessionError (List (String × String)) :=
  match files.read? path with
  | none => .error (.unreadableInputs path)
  | some text =>
    match Json.read? text with
    | some (.obj members) => .ok (members.map fun m => (m.1, m.2.display))
    | _ => .error (.malformedInputs path)

/-- The command and the values of its inputs; values given one by one win over those in a file. -/
def inputsOf (source : InputSource) (files : FileTree) :
    Except SessionError (Command × OrderedMap String) := do
  let command ← (Command.load source.commandFile files).mapError (.system ∘ .command)
  let fromFile ← match source.inputsFile with
    | some path => valuesIn path files
    | none => .ok []
  let pairs ← source.pairs.mapM pairOf
  return (command, .ofPairs (fromFile ++ pairs))

namespace Context

variable {ε : Type} (ctx : Context ε)

/-- The resolved form of the command of a source. -/
def resolved (source : InputSource) : Session ε Resolved := do
  let files ← Session.files
  let (command, values) ← Session.check id (inputsOf source files)
  Session.check (.system ∘ .resolution)
    (Resolution.resolve { site := ctx.site files, values := values.get? } command)

/-! ## Invocations -/

/-- Launch the command of a source. -/
def launch (source : InputSource) (user : Option String) (form : OutputForm) :
    Session ε String := do
  let r ← ctx.resolved source
  let server ← ctx.server
  let w ← ctx.openStore
  let s := server.getD {}
  let launcher : Launcher :=
    { siteUrl := ctx.settings.siteUrl, translate := PathMapping.apply s.mapping,
      swarm := s.swarmMode }
  let (c, _) ← ctx.runJob server w (launcher.launch (user.getD ctx.settings.user) r)
  match form with
  | .json => return Session.document c.toJson
  | .text => return Session.line s!"Launched container {c.databaseId} ({c.shownExternalId})"

/-- A lifecycle event as a line of output. -/
def eventLine : LifecycleEvent → String
  | .statusChanged id before after _ => Session.line s!"{id}: {before.name} -> {after.name}"
  | .taskChanged id task status _ => Session.line s!"{id}: task {task} {status}"

/-- Start to watch: recover interrupted finalizations, and finalize what waits. -/
def startWatching : Session ε (Watch ε) := do
  let w ← ctx.openStore
  let (_, w) ← ctx.run none w Recovery.run
  let server ← ctx.server
  let (_, w) ← ctx.run server w Tracker.refinalizeWaiting
  return { server, world := { w with published := [] } }

/-- Poll once and handle what was found. The value is what is printed, and what to go on with. -/
def watchRound (watch : Watch ε) : Session ε (String × Watch ε) := do
  let (failures, w) ← ctx.run watch.server watch.world (Poller.tick watch.failures)
  let (_, w) ← ctx.run watch.server { w with queue := [] } (Tracker.drain w.queue)
  let text := String.join (w.published.map eventLine)
  return (text, { watch with failures, world := { w with published := [] } })

/-- Watch for one round. -/
def watch : Session ε String := do
  return (← ctx.watchRound (← ctx.startWatching)).1

/-- Recover interrupted finalizations. -/
def recover (form : OutputForm) : Session ε String := do
  let (r, _) ← ctx.run none (← ctx.openStore) Recovery.run
  let lines (ids : List Int) (what : String) : String :=
    String.join (ids.map fun id => Session.line s!"{id}: {what}")
  match form with
  | .json => return Session.document r.toJson
  | .text =>
    if r.isEmpty then return Session.line "Nothing to recover"
    return lines r.retried "Waiting" ++ lines r.failed "Failed" ++ lines r.errors "error (see log)"

/-- A container in one line. -/
def summaryLine (c : Container) : String :=
  Session.line ("\t".intercalate [toString c.databaseId, c.status.name, c.image,
    c.shownExternalId, c.statusTime.offsetText])

/-- An entry of a history in one line. -/
def entryLine (e : HistoryEntry) : String :=
  Session.line ("  " ++ "\t".intercalate [e.recorded.offsetText, e.origin.name, e.status,
    e.message.getD ""])

/-- List containers. -/
def listContainers (status : Option Status) (form : OutputForm) : Session ε String := do
  let w ← ctx.openStore
  let found := match status with
    | some status => w.store.withStatus status
    | none => w.store.records
  match form with
  | .json => return Session.document (Json.ofList Container.toJson found)
  | .text => return String.join (found.map summaryLine)

/-- Show one container with its history. -/
def showContainer (id : Int) (form : OutputForm) : Session ε String := do
  let w ← ctx.openStore
  match w.store.get? id with
  | none => throw (.noContainer id)
  | some c =>
    match form with
    | .json => return Session.document c.toJson
    | .text => return summaryLine c ++ String.join (c.history.map entryLine)

/-- Kill a container. -/
def kill (id : Int) (user : Option String) : Session ε String := do
  let w ← ctx.openStore
  let server ← ctx.server
  let (status, _) ← ctx.runJob server w (Tracker.kill id (user.getD ctx.settings.user))
  if status.isTerminal then return Session.line s!"{id}: {status.name}"
  return Session.line s!"{id}: kill requested ({status.name})"

/-- Show the server. -/
def showServer : Session ε String := do
  match ← ctx.server with
  | some s => return Session.document s.toJson
  | none => return Session.line "No server is configured"

/-- Set the server; the time of the last check for events stays. -/
def setServer (s : Server) : Session ε String := do
  let before ← ctx.server
  let s := { s with lastEventCheck := before.bind Server.lastEventCheck }
  let (r, files) := s.save ctx.settings.serverPath (← Session.files)
  modify fun outside => { outside with files }
  Session.check .server r
  return Session.document s.toJson

/-- An image in one line. -/
def imageLine (i : ImageSummary) : String :=
  Session.line ("\t".intercalate [i.repository ++ ":" ++ i.tag, i.id, i.size, i.created])

/-- List the images of the engine. -/
def images (form : OutputForm) : Session ε String := do
  let server ← ctx.server
  let outside ← get
  let (r, state) := ctx.engine server .listImages outside.engine
  set { outside with engine := state }
  let found ← Session.check (.system ∘ .engine) r
  match form with
  | .json => return Session.document (Json.ofList ImageSummary.toJson found)
  | .text => return String.join (found.map imageLine)

/-- Carry out an invocation. The value is what it prints. -/
def perform : Invocation → Session ε String
  | .overview => return Session.line "Resolve command definitions and track their containers" ++
      Session.line "Run 'berth --help' to see available commands."
  | .resolve source => do return Session.document (← ctx.resolved source).toJson
  | .launch source user form => ctx.launch source user form
  | .watch _ _ => ctx.watch
  | .recover form => ctx.recover form
  | .listContainers status form => ctx.listContainers status form
  | .showContainer id form => ctx.showContainer id form
  | .kill id user => ctx.kill id user
  | .showServer => ctx.showServer
  | .setServer s => ctx.setServer s
  | .images form => ctx.images form

end Context

/-! ## Whole sessions -/

/-- How a session ended. -/
structure Ending where
  code : Nat := 0
  printed : String := ""
  error : Option String := none
  deriving DecidableEq, Repr

/-- The context of a request. -/
def contextOf {ε : Type} (host : Host ε) (config : Option String) : Session ε (Context ε) := do
  let settings ← Session.check (.system ∘ .settings)
    (Settings.load config host.environment (← Session.files))
  return ⟨host, settings⟩

/-- Carry out a request. The settings are not read for an overview. -/
def carryOut {ε : Type} (host : Host ε) (request : Request) : Session ε String := do
  match request.invocation with
  | .overview => Context.perform ⟨host, {}⟩ .overview
  | invocation => (← contextOf host request.config).perform invocation

/-- The ending of a session. -/
def Ending.ofResult : Except SessionError String → Ending
  | .ok printed => { printed }
  | .error e => { code := e.exitCode, error := some e.shown }

/-- The ending of arguments that are not carried out. -/
def Ending.ofRefusal : Refusal → Ending
  | .help => {}
  | .version => { printed := Session.line "berth 0.1.0" }
  | .misused => { code := 2 }

/-- Carry out the arguments of a command line. -/
def run {ε : Type} (host : Host ε) (args : List String) (s : Outside ε) : Ending × Outside ε :=
  match Request.ofArguments args with
  | .error refusal => (.ofRefusal refusal, s)
  | .ok request =>
    let (r, s) := (carryOut host request).run.run s
    (.ofResult r, s)

end Mooring.CommandLine
