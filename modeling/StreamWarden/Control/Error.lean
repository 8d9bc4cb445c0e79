import StreamWarden.Config.Profile
import StreamWarden.Files.Error

/-!
# Why a supervisor could not run

Either its configuration is refused, or the signals of the system cannot be
received.
-/

namespace StreamWarden

/-- Why a supervisor could not run. -/
inductive SupervisorError where
  /-- Its configuration is refused. -/
  | config (cause : ConfigError)
  /-- Signals cannot be received. -/
  | signals (reason : Files.Error)
  deriving DecidableEq, Repr

namespace SupervisorError

/-- The label of the failure. -/
def label : SupervisorError → String
  | .config cause => cause.label
  | .signals _ => "supervisor_signals"

/-- The message of the failure. -/
def message : SupervisorError → String
  | .config cause => cause.message
  | .signals reason => "signal registration failed: " ++ reason.message

/-- The failure of the system behind it. -/
def reason? : SupervisorError → Option Files.Error
  | .config _ => none
  | .signals reason => some reason

end SupervisorError

end StreamWarden
