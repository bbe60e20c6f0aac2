import Mooring.Engine.Client

set_option autoImplicit false

/-!
# Listening for events

The program can be left running and prints every event as it happens. Each line that is an event is
passed on, until the output ends or nobody takes the events any more.
-/

namespace Mooring.Engine

/-- The texts of the lines of an output, up to the first that is not text. -/
def readableLines (stdout : List UInt8) : List String :=
  let whole := (stdout.splitBy fun a _ => a != 10)
  let lines := whole.map fun l => if l.getLast? = some 10 then l.dropLast else l
  let lines := lines.map fun l => if l.getLast? = some 13 then l.dropLast else l
  (lines.map Text.Utf8.decode?).takeWhile Option.isSome |>.filterMap id

/-- What listening came to: the number of events passed on and the events. -/
structure Listening where
  result : Except EngineError Nat
  events : List ContainerEvent

/-- Pass on the events of an output; with nobody to take them, listening ends at the first. -/
def listen (program : String) (taken : Bool) : Outcome → Listening
  | .notRun => ⟨.error (.unavailable (.notRun program)), []⟩
  | .exited code stdout _ =>
    let events := (readableLines stdout).filterMap ContainerEvent.ofLine?
    if !taken && !events.isEmpty then ⟨.ok 0, []⟩
    else if code = 0 then ⟨.ok events.length, events⟩
    else ⟨.error (.unavailable (.streamEnded code)), events⟩

/-- Listen for the events of the engine of a server. -/
def Client.listen {m : Type → Type} [Monad m] (run : List String → m Outcome) (c : Client)
    (taken : Bool) : m Listening :=
  match connectionArguments c.server with
  | .error e => return ⟨.error e, []⟩
  | .ok connection =>
    return Engine.listen c.program taken (← run (connection ++ listenArguments))

end Mooring.Engine
