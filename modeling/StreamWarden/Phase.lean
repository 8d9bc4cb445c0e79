/-!
# Phases

A supervised stream is always in one of six phases, and a table says which
input leads from which phase to which. An input that the table does not list
for a phase does not apply there.

* `Phase.next?` is the table.
* `Phase.rebuildPending` holds in the phases from which a new graph comes
  without a further request.
-/

namespace StreamWarden

/-- The phase of a supervised stream. -/
inductive Phase where
  /-- No graph, nothing asked for: the first phase and the last. -/
  | stopped
  /-- A graph is being built and set playing. -/
  | starting
  /-- The graph plays. -/
  | running
  /-- The graph is gone; a rebuild follows when the settle delay is over. -/
  | restarting
  /-- The graph is being torn down for good. -/
  | stopping
  /-- A build failed; the next attempt follows when the retry delay is over. -/
  | backoffWait
  deriving DecidableEq, Repr, Inhabited

namespace Phase

/-- Every phase, in the order of a stream's life. -/
def all : List Phase := [.stopped, .starting, .running, .restarting, .stopping, .backoffWait]

/-- The name of a phase in events and logs. -/
def label : Phase → String
  | .stopped => "stopped"
  | .starting => "starting"
  | .running => "running"
  | .restarting => "restarting"
  | .stopping => "stopping"
  | .backoffWait => "backoff_wait"

/-- The name of a phase where a log shows a whole value. -/
def tag : Phase → String
  | .stopped => "Stopped"
  | .starting => "Starting"
  | .running => "Running"
  | .restarting => "Restarting"
  | .stopping => "Stopping"
  | .backoffWait => "BackoffWait"

/-- A new graph is on its way, so a restart asked for now is already served. -/
def rebuildPending : Phase → Bool
  | .starting | .restarting | .backoffWait => true
  | .stopped | .running | .stopping => false

end Phase

/-- Why a playing graph is replaced. -/
inductive RestartCause where
  /-- No frame came within the stall threshold. -/
  | watchdog
  /-- A stage of the main graph failed. -/
  | graphError
  /-- The main graph ran out of data. -/
  | endOfStream
  /-- Somebody asked for it. -/
  | external
  deriving DecidableEq, Repr

namespace RestartCause

/-- Every cause. -/
def all : List RestartCause := [.watchdog, .graphError, .endOfStream, .external]

/-- The name of a cause in events and logs. -/
def label : RestartCause → String
  | .watchdog => "watchdog"
  | .graphError => "graph_error"
  | .endOfStream => "end_of_stream"
  | .external => "external"

/-- The name of a cause where a log shows a whole value. -/
def tag : RestartCause → String
  | .watchdog => "Watchdog"
  | .graphError => "GraphError"
  | .endOfStream => "EndOfStream"
  | .external => "External"

end RestartCause

namespace Phase

/-- What moves a stream from one phase to another. -/
inductive Input where
  | start
  | buildOk
  | buildFailed
  | retryElapsed
  | restart (cause : RestartCause)
  | settleElapsed
  | stop
  | teardownDone
  deriving DecidableEq, Repr

/-- Every input. -/
def Input.all : List Input :=
  [.start, .buildOk, .buildFailed, .retryElapsed, .settleElapsed, .stop, .teardownDone] ++
    RestartCause.all.map .restart

/-- The name of an input; a restart goes by its cause. -/
def Input.label : Input → String
  | .start => "start"
  | .buildOk => "build_ok"
  | .buildFailed => "build_failed"
  | .retryElapsed => "retry_elapsed"
  | .restart cause => cause.label
  | .settleElapsed => "settle_elapsed"
  | .stop => "stop"
  | .teardownDone => "teardown_done"

/-- The phase to which an input leads, if it applies. -/
def next? : Phase → Input → Option Phase
  | .stopped, .start => some .starting
  | .starting, .buildOk => some .running
  | .starting, .buildFailed => some .backoffWait
  | .backoffWait, .retryElapsed => some .starting
  | .running, .restart _ => some .restarting
  | .restarting, .settleElapsed => some .starting
  | .running, .stop => some .stopping
  | .backoffWait, .stop => some .stopping
  | .restarting, .stop => some .stopping
  | .stopping, .teardownDone => some .stopped
  | _, _ => none

/-- The phase after an input; one that does not apply changes nothing. -/
def after (p : Phase) (input : Input) : Phase := (p.next? input).getD p

end Phase

end StreamWarden
