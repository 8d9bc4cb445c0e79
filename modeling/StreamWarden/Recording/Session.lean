import StreamWarden.Graph.Backend

/-!
# Recording sessions

A session is one recording, from the moment its branch is attached to the moment
the branch is detached.

* `ToggleOutcome.isRefusal` holds when a recording that was asked for did not
  start.
-/

namespace StreamWarden

/-- The state of the recording. -/
inductive RecordingState where
  /-- No session. -/
  | idle
  /-- The branch is attached, and does not run yet. -/
  | attaching
  /-- The branch writes. -/
  | active
  /-- The branch writes out what it holds. -/
  | draining
  /-- The branch is gone, and the session is about to end. -/
  | detached
  deriving DecidableEq, Repr, Inhabited

/-- The name of a recording state. -/
def RecordingState.tag : RecordingState → String
  | .idle => "Idle"
  | .attaching => "Attaching"
  | .active => "Active"
  | .draining => "Draining"
  | .detached => "Detached"

/-- Every recording state. -/
def RecordingState.all : List RecordingState :=
  [.idle, .attaching, .active, .draining, .detached]

/-- A recording. -/
structure Session where
  /-- Its number; no two sessions of a run have the same. -/
  id : Nat
  /-- The file to which it writes. -/
  path : String
  branch : Branch
  state : RecordingState
  /-- When a drain is over. -/
  drainDeadline : Option Nat := none
  deriving DecidableEq, Repr

/-- What came of asking for a recording to start or stop. -/
inductive ToggleOutcome where
  /-- A recording is written to this file. -/
  | started (path : String)
  /-- The recording drains. -/
  | draining
  /-- It was already as wanted. -/
  | unchanged
  /-- The recording before is not over yet. -/
  | busy
  /-- No graph plays. -/
  | disarmed
  /-- The recording could not start. -/
  | refused (cause : BranchError)
  deriving DecidableEq, Repr

namespace ToggleOutcome

/-- A recording was asked for and did not start. -/
def isRefusal : ToggleOutcome → Bool
  | .busy | .disarmed | .refused _ => true
  | .started _ | .draining | .unchanged => false

/-- The name of an outcome. -/
def label : ToggleOutcome → String
  | .started _ => "started"
  | .draining => "draining"
  | .unchanged => "unchanged"
  | .busy => "busy"
  | .disarmed => "disarmed"
  | .refused _ => "refused"

/-- An outcome in full. -/
def detail : ToggleOutcome → String
  | .started path => Text.showWrapped "Started" (Text.quote path)
  | .draining => "Draining"
  | .unchanged => "Unchanged"
  | .busy => "Busy"
  | .disarmed => "Disarmed"
  | .refused cause => Text.showWrapped "Refused" cause.detail

end ToggleOutcome

end StreamWarden
