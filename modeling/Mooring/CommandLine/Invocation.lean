import Mooring.CommandLine.Arguments
import Mooring.Container.Status
import Mooring.Server.Basic
import Mooring.Text.Whole

set_option autoImplicit false

/-!
# Invocations

What the program can be asked to do, and how it is asked on the command line. The log options
and the settings file may be given on every level; the innermost counts.
-/

namespace Mooring.CommandLine

/-- The form of an output. -/
inductive OutputForm where
  | text
  | json
  deriving DecidableEq, Repr

/-- Where a command and the values of its inputs come from. -/
structure InputSource where
  commandFile : String
  pairs : List String := []
  inputsFile : Option String := none
  deriving DecidableEq, Repr

/-- What the program is asked to do. -/
inductive Invocation where
  | overview
  | resolve (source : InputSource)
  | launch (source : InputSource) (user : Option String) (form : OutputForm)
  | watch (listen once : Bool)
  | recover (form : OutputForm)
  | listContainers (status : Option Status) (form : OutputForm)
  | showContainer (id : Int) (form : OutputForm)
  | kill (id : Int) (user : Option String)
  | showServer
  | setServer (server : Server)
  | images (form : OutputForm)
  deriving DecidableEq

/-! ## Levels -/

/-- Whether a text can be a path. -/
def isPath (s : String) : Bool :=
  !s.isEmpty

/-- Whether a text writes an identifier. -/
def isIdentifier (s : String) : Bool :=
  (Text.signedNumber? s.toList).isSome

/-- The options of every level. -/
def globalOptions : List Opt :=
  [{ name := "log-format", admits := ["text", "json"].contains },
    { name := "log-level", admits := ["error", "warn", "info", "debug", "trace"].contains },
    { name := "config", admits := isPath }]

/-- The option for the form of an output. -/
def outputOption : Opt :=
  { name := "output", admits := ["text", "json"].contains }

/-- The option for the user. -/
def userOption : Opt :=
  { name := "user" }

/-- A level with branches. -/
def branching (branches : List String) : Level :=
  { options := globalOptions, branches := branches ++ ["help"] }

/-- A level without branches. -/
def leaf (options : List Opt) : Level :=
  { options := globalOptions ++ options }

/-- The outermost level. -/
def topLevel : Level :=
  { branching ["resolve", "launch", "watch", "recover", "containers", "kill", "server", "images"]
    with hasVersion := true }

/-- A level for a command file with the values of its inputs. -/
def inputLevel (options : List Opt) : Level :=
  { leaf ([{ name := "input", short := some 'i', repeats := true },
      { name := "inputs-file", admits := isPath }] ++ options) with
    operands := 1, admitsOperand := isPath }

/-- A level for the identifier of a container. -/
def identifierLevel (options : List Opt) : Level :=
  { leaf options with operands := 1, admitsOperand := isIdentifier }

/-- The level that sets the server. -/
def serverLevel : Level :=
  leaf [{ name := "host" }, { name := "name" }, { name := "cert-path" },
    { name := "swarm", takesValue := false }, { name := "site-prefix" },
    { name := "engine-prefix" }]

/-! ## Reading -/

/-- The form that is asked for. -/
def Given.form (g : Given) (default : OutputForm) : OutputForm :=
  match g.value? "output" with
  | some "json" => .json
  | some _ => .text
  | none => default

/-- The source that is named. -/
def Given.source (g : Given) : InputSource :=
  { commandFile := g.operands.headD "", pairs := g.values "input",
    inputsFile := g.value? "inputs-file" }

/-- The identifier that is named. -/
def Given.identifier (g : Given) : Int :=
  (Text.signedNumber? (g.operands.headD "").toList).getD 0

/-- The server that is described: the two prefixes come together, and the host is needed. -/
def Given.server? (g : Given) : Option Server := do
  let host ← g.value? "host"
  let mapping ← match g.value? "site-prefix", g.value? "engine-prefix" with
    | some sitePrefix, some enginePrefix => some (some ⟨sitePrefix, enginePrefix⟩)
    | none, none => some none
    | _, _ => none
  return { name := (g.value? "name").getD "default", host, certPath := g.value? "cert-path",
           swarmMode := g.flag "swarm", mapping }

/-- An invocation with the settings file that is named for it. -/
structure Request where
  config : Option String
  invocation : Invocation
  deriving DecidableEq

/-- The request of a level without branches. -/
def requestOf (l : Level) (above : Given) (args : List String)
    (invocation : Given → Option Invocation) : Except Refusal Request := do
  let g ← l.readLast above args
  match invocation g with
  | some i => return ⟨g.value? "config", i⟩
  | none => throw .misused

/-- The request about container records. -/
def containersRequest (above : Given) (args : List String) : Except Refusal Request := do
  let (g, branch) ← (branching ["list", "show"]).read args
  let above := g.under above
  match branch with
  | some ("list", args) =>
    let status : Opt := { name := "status", admits := fun s => (Status.ofAnyCase? s).isSome }
    requestOf (leaf [status, outputOption]) above args fun g =>
      some (.listContainers ((g.value? "status").bind Status.ofAnyCase?) (g.form .text))
  | some ("show", args) =>
    requestOf (identifierLevel [outputOption]) above args fun g =>
      some (.showContainer g.identifier (g.form .json))
  | some _ => throw .help
  | none => throw .misused

/-- The request about the server. -/
def serverRequest (above : Given) (args : List String) : Except Refusal Request := do
  let (g, branch) ← (branching ["show", "set"]).read args
  let above := g.under above
  match branch with
  | some ("show", args) => requestOf (leaf []) above args fun _ => some .showServer
  | some ("set", args) => requestOf serverLevel above args fun g => g.server?.map .setServer
  | some _ => throw .help
  | none => throw .misused

/-- The request that arguments make. -/
def Request.ofArguments (args : List String) : Except Refusal Request := do
  let (g, branch) ← topLevel.read args
  match branch with
  | none => return ⟨g.value? "config", .overview⟩
  | some ("resolve", args) => requestOf (inputLevel []) g args fun g => some (.resolve g.source)
  | some ("launch", args) =>
    requestOf (inputLevel [userOption, outputOption]) g args fun g =>
      some (.launch g.source (g.value? "user") (g.form .text))
  | some ("watch", args) =>
    let flags : List Opt :=
      [{ name := "listen", takesValue := false }, { name := "once", takesValue := false }]
    requestOf (leaf flags) g args fun g => some (.watch (g.flag "listen") (g.flag "once"))
  | some ("recover", args) =>
    requestOf (leaf [outputOption]) g args fun g => some (.recover (g.form .text))
  | some ("containers", args) => containersRequest g args
  | some ("kill", args) =>
    requestOf (identifierLevel [userOption]) g args fun g =>
      some (.kill g.identifier (g.value? "user"))
  | some ("server", args) => serverRequest g args
  | some ("images", args) =>
    requestOf (leaf [outputOption]) g args fun g => some (.images (g.form .text))
  | some _ => throw .help

end Mooring.CommandLine
