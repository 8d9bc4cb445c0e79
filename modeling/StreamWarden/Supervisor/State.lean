import StreamWarden.Config.Settings
import StreamWarden.Liveness.Watchdog
import StreamWarden.Monitor
import StreamWarden.Recording.Studio

/-!
# The state of a supervisor

A supervisor keeps one stream alive: it holds at most one graph, builds a new
one when that fails, stalls or ends, and records from it on request. Its state
is a recording studio together with the graph, the phase, the watchdog, and the
counts and deadlines of builds and restarts.

* `State.nextWake` is the earliest of the three deadlines.
* `State.status` is what the outside may know of the state.
-/

namespace StreamWarden

/-- What a supervisor can be asked for. -/
inductive Request where
  | start
  | stop
  | restart
  | toggleRecording
  deriving DecidableEq, Repr

namespace Request

/-- Every request. -/
def all : List Request := [.start, .stop, .restart, .toggleRecording]

/-- The name of a request in events and logs. -/
def label : Request → String
  | .start => "start"
  | .stop => "stop"
  | .restart => "restart"
  | .toggleRecording => "toggle_recording"

/-- The name of a request where a log shows a whole value. -/
def tag : Request → String
  | .start => "Start"
  | .stop => "Stop"
  | .restart => "Restart"
  | .toggleRecording => "ToggleRecording"

end Request

namespace Supervisor

/-- What the outside may know of a supervisor. -/
structure Status where
  phase : Phase := .stopped
  generation : Option Nat := none
  recording : RecordingState := .idle
  deriving DecidableEq, Repr

/-- The state of a supervisor. -/
structure State extends Studio where
  profile : Profile
  retry : Backoff
  settleDelay : Nat
  /-- The random number for the wait after each attempt, by its generation. -/
  draws : Nat → Nat := fun _ => 0
  watchdog : Watchdog
  phase : Phase := .stopped
  /-- The live graph. -/
  graph : Option Graph := none
  /-- The number of the probe at which the watchdog looks. -/
  watched : Nat := 0
  /-- The number of the latest attempt to build a graph. -/
  generation : Nat := 0
  /-- The failures since a graph was last built. -/
  buildFailures : Nat := 0
  restartPending : Option RestartCause := none
  /-- When the retry delay or the settle delay is over. -/
  wakeAt : Option Nat := none
  /-- The run is over. -/
  exited : Bool := false

namespace State

/-- A supervisor that has not started, on a host and with settings and a profile
that are in order. -/
def new (host : Host) (settings : Settings) (profile : Profile) (region : Option Region)
    (indicator : Indicator) : State :=
  { host.newProbe with
    helper := settings.mountHelperPath
    region := region
    indicator := indicator
    drainGrace := settings.drainGrace
    profile := profile
    retry := settings.retry
    settleDelay := settings.settleDelay
    watchdog :=
      { interval := settings.watchdogInterval, threshold := settings.stallThreshold } }

/-- A supervisor with a changed studio. -/
def onStudio (s : State) (f : Studio → Studio) : State := { s with toStudio := f s.toStudio }

/-- A supervisor on a changed host. -/
def onHost (s : State) (f : Host → Host) : State := s.onStudio (Studio.onHost · f)

/-- Publishes an event. -/
def emit (s : State) (e : Event) : State := s.onStudio (Studio.emit · e)

/-- Writes a record of the supervisor to the log. -/
def log (s : State) (level : Log.Level) (message : String)
    (fields : List (String × Log.Value)) : State :=
  s.onStudio (Studio.log · { level, origin := .supervisor, message, fields })

/-- The number of the live graph. -/
def liveGeneration (s : State) : Option Nat := s.graph.map fun _ => s.generation

/-- What the outside may know of the state. -/
def status (s : State) : Status :=
  { phase := s.phase, generation := s.liveGeneration, recording := s.recordingState }

/-- What the monitor has to know. -/
def view (s : State) : Monitor.View :=
  { generation := s.liveGeneration, session := s.session.map (·.id) }

/-- The earlier of two deadlines. -/
def earlier : Option Nat → Option Nat → Option Nat
  | some a, some b => some (min a b)
  | some a, none => some a
  | none, b => b

/-- The earliest deadline: of a delay, of the watchdog, or of a drain. -/
def nextWake (s : State) : Option Nat :=
  earlier s.wakeAt (earlier s.watchdog.deadline s.drainDeadline)

end State

end Supervisor

end StreamWarden
