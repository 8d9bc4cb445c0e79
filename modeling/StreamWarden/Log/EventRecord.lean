import StreamWarden.Event
import StreamWarden.Graph.Status
import StreamWarden.Log.Record

/-!
# Events as log records

The record that an event leaves in the log: the level and message of its kind
and those of its details that matter to that kind.
-/

namespace StreamWarden.Log

/-- The name under which events are written to the log. -/
def eventWriterName : String := "log-writer"

/-- The text of a phase that may be missing. -/
def showPhase : Option Phase → Value := fun p => .shown (showOption Phase.tag p)

/-- The text of a cause that may be missing. -/
def showCause : Option RestartCause → Value := fun c => .shown (showOption RestartCause.tag c)

/-- The record of an event. -/
def ofEvent (e : Event) : Record :=
  let reason := ("reason", Value.text (e.reason?.getD ""))
  let source := ("source", Value.text (e.stage?.getD ""))
  let path := ("path", Value.text (e.path?.getD ""))
  let generation := optionalCount "generation" e.generation?
  let attempt := optionalCount "attempt" e.attempt?
  let record (level : Level) (message : String) (fields : List (String × Value)) : Record :=
    { level, origin := .eventWriter, message, fields }
  match e.kind with
  | .phaseChanged =>
    record .info "phase changed"
      [("from", showPhase e.source?), ("to", showPhase e.target?), reason]
  | .graphPlaying => record .info "graph playing" generation
  | .buildFailed => record .error "failed to create pipeline" (attempt ++ [reason])
  | .backoffScheduled =>
    record .warn "retrying build after delay"
      (attempt ++ optionalCount "delay_ms" e.delayMillis?)
  | .graphTornDown => record .info "graph stopped and resources released" generation
  | .watchdogTimeout =>
    record .warn "no new frames detected"
      (generation ++ optionalCount "age_ms" e.delayMillis?)
  | .restartRequested =>
    record .info "restart requested" [("cause", showCause e.cause?), reason]
  | .restartCoalesced =>
    record .debug "restart already pending" [("cause", showCause e.cause?)]
  | .graphError => record .error "graph error" (generation ++ [source, reason])
  | .graphWarning => record .warn "graph warning" (generation ++ [source, reason])
  | .graphQos => record .debug "qos" (generation ++ [source, reason])
  | .graphEndOfStream =>
    record .warn "end of stream on main graph" (generation ++ [source])
  | .recordingStarted =>
    record .info "recording started" [path, ("attach_point", .text (e.stage?.getD ""))]
  | .recordingRefused => record .warn "recording refused" [reason]
  | .recordingDraining => record .info "recording draining" [path]
  | .recordingStopped => record .info "recording stopped" [path, reason]
  | .recordingFailed => record .error "recording branch failed" [source, reason]
  | .controlRequested =>
    record .info "control request" [("request", .text (e.reason?.getD ""))]

end StreamWarden.Log
