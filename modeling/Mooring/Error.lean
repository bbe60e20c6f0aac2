import Mooring.Command.Check
import Mooring.Engine.Basic
import Mooring.Resolution.Error
import Mooring.Server.Basic
import Mooring.Settings.Basic
import Mooring.Store.Basic

set_option autoImplicit false

/-!
# Errors

Every way in which an operation of the system can fail. An error that comes from one part of the
system says so in front of the wording of that part, and `Error.causes` names the part's own wording
once more as the cause.
-/

namespace Mooring

/-- Why an operation failed. -/
inductive Error where
  | command (error : CommandError)
  | resolution (error : ResolutionError)
  | engine (error : EngineError)
  | store (error : StoreError)
  | settings (error : SettingsError)
  | noToken (user : String) (causes : List String)
  | server (error : ServerError)
  | channelClosed

namespace Error

/-- Texts of causes in one line, the outermost first. -/
def joined (causes : List String) : String :=
  ": ".intercalate causes

/-- The part of the system an error comes from, and its own wording. -/
def parts : Error → String × String
  | command e => ("Command error", e.message)
  | resolution e => ("Resolution error", e.message)
  | engine e => ("Engine error", e.message)
  | store e => ("Store error", e.message)
  | settings e => ("Configuration error", e.message)
  | noToken user causes => ("Launch error", s!"Failed to issue a token for {user}: {joined causes}")
  | server e => ("Internal error", e.message)
  | channelClosed => ("Internal error", "Engine event channel closed")

/-- The wording of an error. -/
def message (e : Error) : String :=
  joined [e.parts.1, e.parts.2]

/-- Whether an error has the error of a part as its cause. -/
def hasCause : Error → Bool
  | noToken _ _ | server _ | channelClosed => false
  | _ => true

/-- The causes of an error, the outermost first. -/
def causes (e : Error) : List String :=
  if e.hasCause then [e.message, e.parts.2] else [e.message]

/-- The wording of an error with its causes. -/
def fullMessage (e : Error) : String :=
  joined e.causes

/-- Whether the engine could not be used at all. -/
def isOutage : Error → Bool
  | engine e => e.isOutage
  | _ => false

end Error

end Mooring
