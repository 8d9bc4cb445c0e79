import StreamWarden.Phase
import StreamWarden.Time

/-!
# Events

What the supervisor tells the outside: a kind, and whatever details go with it.
Events are built from their kind by adding details one at a time.

* `Event.isTransitionTo` recognises the change to a given phase.
* `Event.issue` numbers the events in the order in which they are made; `seq_issue_succ`:
  each number is followed by the next.
-/

namespace StreamWarden

/-- The kind of an event. -/
inductive EventKind where
  /-- The stream went from one phase to another. -/
  | phaseChanged
  /-- A graph reached its playing state. -/
  | graphPlaying
  /-- An attempt to build a graph failed. -/
  | buildFailed
  /-- The next attempt is fixed. -/
  | backoffScheduled
  /-- A graph was torn down and its resources released. -/
  | graphTornDown
  /-- No frame came for too long. -/
  | watchdogTimeout
  /-- A restart begins. -/
  | restartRequested
  /-- A restart is folded into a rebuild that is already on its way. -/
  | restartCoalesced
  /-- A stage of the main graph failed. -/
  | graphError
  /-- A stage of the main graph had a problem from which it recovered. -/
  | graphWarning
  /-- A stage was late or dropped buffers. -/
  | graphQos
  /-- The main graph ran out of data. -/
  | graphEndOfStream
  /-- A recording is being written. -/
  | recordingStarted
  /-- A recording could not be started. -/
  | recordingRefused
  /-- A recording writes out what it still holds. -/
  | recordingDraining
  /-- A recording is over. -/
  | recordingStopped
  /-- A stage of the recording branch failed. -/
  | recordingFailed
  /-- A request arrived. -/
  | controlRequested
  deriving DecidableEq, Repr

namespace EventKind

/-- Every kind. -/
def all : List EventKind :=
  [.phaseChanged, .graphPlaying, .buildFailed, .backoffScheduled, .graphTornDown,
    .watchdogTimeout, .restartRequested, .restartCoalesced, .graphError, .graphWarning,
    .graphQos, .graphEndOfStream, .recordingStarted, .recordingRefused,
    .recordingDraining, .recordingStopped, .recordingFailed, .controlRequested]

/-- The name of a kind. -/
def tag : EventKind → String
  | .phaseChanged => "PhaseChanged"
  | .graphPlaying => "GraphPlaying"
  | .buildFailed => "BuildFailed"
  | .backoffScheduled => "BackoffScheduled"
  | .graphTornDown => "GraphTornDown"
  | .watchdogTimeout => "WatchdogTimeout"
  | .restartRequested => "RestartRequested"
  | .restartCoalesced => "RestartCoalesced"
  | .graphError => "GraphError"
  | .graphWarning => "GraphWarning"
  | .graphQos => "GraphQos"
  | .graphEndOfStream => "GraphEndOfStream"
  | .recordingStarted => "RecordingStarted"
  | .recordingRefused => "RecordingRefused"
  | .recordingDraining => "RecordingDraining"
  | .recordingStopped => "RecordingStopped"
  | .recordingFailed => "RecordingFailed"
  | .controlRequested => "ControlRequested"

end EventKind

/-- An event: its kind and the details it carries. -/
structure Event where
  kind : EventKind
  /-- The phase that was left. -/
  source? : Option Phase := none
  /-- The phase that was entered. -/
  target? : Option Phase := none
  cause? : Option RestartCause := none
  generation? : Option Nat := none
  /-- The stage, or the attach point, that the event is about. -/
  stage? : Option String := none
  reason? : Option String := none
  path? : Option String := none
  /-- A delay or an age in whole milliseconds. -/
  delayMillis? : Option Nat := none
  attempt? : Option Nat := none
  deriving DecidableEq, Repr

namespace Event

/-- The most that a count of 32 bits can be. -/
def maxShortCount : Nat := 4294967295

/-- An event without details. -/
def of (kind : EventKind) : Event := { kind := kind }

/-- Adds the two phases of a transition. -/
def withTransition (e : Event) (source target : Phase) : Event :=
  { e with source? := some source, target? := some target }

/-- Adds the cause of a restart. -/
def withCause (e : Event) (cause : RestartCause) : Event := { e with cause? := some cause }

/-- Adds the number of a graph. -/
def withGeneration (e : Event) (generation : Nat) : Event :=
  { e with generation? := some generation }

/-- Adds the name of a stage or an attach point. -/
def withStage (e : Event) (stage : String) : Event := { e with stage? := some stage }

/-- Adds a reason. -/
def withReason (e : Event) (reason : String) : Event := { e with reason? := some reason }

/-- Adds the path of a recording. -/
def withPath (e : Event) (path : String) : Event := { e with path? := some path }

/-- Adds a span of time, cut to whole milliseconds and to 32 bits. -/
def withDelay (e : Event) (delay : Nat) : Event :=
  { e with delayMillis? := some (min (Time.wholeMillis delay) maxShortCount) }

/-- Adds the number of an attempt. -/
def withAttempt (e : Event) (attempt : Nat) : Event := { e with attempt? := some attempt }

/-- The event is the change to this phase. -/
def isTransitionTo (e : Event) (phase : Phase) : Bool :=
  e.kind == .phaseChanged && e.target? == some phase

/-! ### Numbers -/

/-- An event with its number among all that were made. -/
structure Issued where
  seq : Nat
  event : Event
  deriving DecidableEq, Repr

/-- Makes an event of a kind when this many were made before. -/
def issue (made : Nat) (kind : EventKind) : Issued :=
  { seq := made % (Time.maxCount + 1), event := of kind }

/-- Each event has the number after that of the event made before it. -/
theorem seq_issue_succ {made : Nat} (h : made < Time.maxCount) (kind kind' : EventKind) :
    (issue (made + 1) kind').seq = (issue made kind).seq + 1 := by
  simp only [issue]
  rw [Nat.mod_eq_of_lt (Nat.succ_lt_succ h), Nat.mod_eq_of_lt (Nat.lt_succ_of_lt h)]

end Event

end StreamWarden
