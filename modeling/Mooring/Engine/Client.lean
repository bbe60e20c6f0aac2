import Mooring.Engine.Arguments
import Mooring.Text.Utf8

set_option autoImplicit false

/-!
# The engine behind a program

Each call runs a program once or twice and reads what it prints. How the program is run is a
parameter, so that the client can be followed without one. A failing program is judged by what it
writes to its error output.
-/

namespace Mooring.Engine

/-- What came of running the program. -/
inductive Outcome where
  | notRun
  | exited (code : Int) (stdout stderr : List UInt8)
  deriving DecidableEq, Repr

/-- What an error output says. -/
def failureOf (stderr : String) : EngineError :=
  let reports (phrase : String) : Bool := Text.holdsPhrase phrase stderr
  let lastWord := String.ofList (Text.afterLast ' ' stderr.toList)
  if reports "cannot connect to the docker daemon" || reports "error during connect" ||
      reports "connection refused" then .unavailable (.reported stderr)
  else if reports "no such service" then .serviceNotFound lastWord
  else if reports "no such container" then .containerNotFound lastWord
  else .failed (.reported stderr)

/-- The outputs of a run that succeeded. -/
def succeeded (program : String) : Outcome → Except EngineError (List UInt8 × List UInt8)
  | .notRun => .error (.unavailable (.notRun program))
  | .exited code stdout stderr =>
    if code = 0 then .ok (stdout, stderr)
    else .error (failureOf (Text.trimmed (Text.Utf8.decode stderr)))

/-- The output of a run that succeeded, as text. -/
def outputText (program : String) (o : Outcome) : Except EngineError String := do
  match Text.Utf8.decode? (← succeeded program o).1 with
  | some text => return text
  | none => throw (.failed .notText)

/-- The documents on the lines of a text, blank lines aside. -/
def documents (text : String) : Except EngineError (List Json) :=
  (((Text.lines text).map Text.trimmed).filter (!·.isEmpty)).mapM fun line =>
    match Json.read? line with
    | some v => .ok v
    | none => .error (.failed .notJson)

/-- The order of tasks by their time, a task without one last. -/
def taskNotAfter (a b : ServiceTask) : Bool :=
  match a.statusTime, b.statusTime with
  | _, none => true
  | none, some _ => false
  | some s, some t => s.compare t != .lt

/-- The tasks in the output of an inspection, the latest first. -/
def tasksOf (text : String) : Except EngineError (List ServiceTask) :=
  match Json.read? (Text.trimmed text) with
  | none => .error (.failed .notTasks)
  | some (.arr items) => .ok ((items.filterMap ServiceTask.ofEngine?).mergeSort taskNotAfter)
  | some _ => .ok []

/-- A program that speaks to the engine of a server. -/
structure Client where
  program : String := "docker"
  server : Option Server

namespace Client

section Calls

variable {m : Type → Type} [Monad m] (run : List String → m Outcome) (c : Client)

/-- Run the program with arguments, once it is known how the server is reached. -/
def invoke {α : Type} (read : Outcome → Except EngineError α) (arguments : List String) :
    m (Except EngineError α) :=
  match connectionArguments c.server with
  | .error e => return .error e
  | .ok connection => return read (← run (connection ++ arguments))

/-- The output of a command as text. -/
def text (arguments : List String) : m (Except EngineError String) :=
  c.invoke run (outputText c.program) arguments

/-- Run a command for its effect. -/
def effect (arguments : List String) : m (Except EngineError Unit) := do
  return (← c.text run arguments).map fun _ => ()

/-- The identifier that a command prints. -/
def identifier (arguments : Except EngineError (List String)) : m (Except EngineError String) := do
  match arguments with
  | .error e => return .error e
  | .ok arguments => return (← c.text run arguments).map Text.trimmed

/-- What a container has written. -/
def logs (arguments : List String) : m (Except EngineError ContainerLogs) :=
  c.invoke run (fun o => do
    let (stdout, stderr) ← succeeded c.program o
    return ⟨Text.Utf8.decode stdout, Text.Utf8.decode stderr⟩) arguments

/-- The tasks of a service: their identifiers first, then the tasks. -/
def tasks (service : String) : m (Except EngineError (List ServiceTask)) := do
  match ← c.text run ["service", "ps", "--quiet", "--no-trunc", service] with
  | .error (.serviceNotFound _) => return .error (.serviceNotFound service)
  | .error e => return .error e
  | .ok listed =>
    match Text.words listed with
    | [] => return .ok []
    | ids => return (← c.text run ("inspect" :: ids)).bind tasksOf

/-- The answer to a call. -/
def call : (call : EngineCall) → m (Except EngineError call.Answer)
  | .ping => c.effect run ["version", "--format", "json"]
  | .createContainer r => c.identifier run (createArguments r)
  | .startContainer id => c.effect run ["start", id]
  | .createService r => c.identifier run (createServiceArguments r)
  | .serviceTasks service => c.tasks run service
  | .listImages => do
    return (← c.text run ("images" :: asDocument)).bind fun text => do
      return (← documents text).map ImageSummary.ofEngine
  | .events since til => do
    return (← c.text run (eventsArguments since til)).bind fun text => do
      return (← documents text).filterMap ContainerEvent.ofEngine?
  | .killContainer id => c.effect run ["kill", id]
  | .removeService service => c.effect run ["service", "rm", service]
  | .containerLogs id => c.logs run ["logs", id]
  | .serviceLogs service => c.logs run ["service", "logs", service]

end Calls

end Client

end Mooring.Engine
