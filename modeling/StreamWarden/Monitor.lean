import StreamWarden.Event
import StreamWarden.Graph.Stage
import StreamWarden.Graph.Status
import StreamWarden.Log.Record

/-!
# The monitor

What a status message calls for. A message of any graph but the live one calls
for nothing, whatever it says. A failure or an end of data in a stage of a
recording branch is told from one of the main graph by the name of the stage:
the first concerns a recording, the second the graph.

* `judge` is the whole rule.
* `judge_of_stale`: a message of another graph publishes nothing and asks for
  nothing.
-/

namespace StreamWarden.Monitor

/-- What the monitor knows: the number of the live graph and of the session
whose branch it carries. -/
structure View where
  generation : Option Nat := none
  session : Option Nat := none
  deriving DecidableEq, Repr

/-- What is to be done. -/
inductive Reaction where
  /-- Replace the graph. -/
  | restart (cause : RestartCause)
  /-- End the recording. -/
  | stopRecording (stage message : String)
  /-- Nothing. -/
  | ignore
  deriving DecidableEq, Repr

/-- What is to be done, and what is told about it. -/
structure Finding where
  reaction : Reaction
  event? : Option Event := none
  record? : Option Log.Record := none
  deriving DecidableEq, Repr

/-- The event that reports a message. -/
def report (kind : EventKind) (m : StatusMessage) : Event :=
  ((Event.of kind).withGeneration m.generation).withStage m.source

/-- A record of the monitor. -/
def record (level : Log.Level) (message : String) (fields : List (String × Log.Value)) :
    Log.Record :=
  { level, origin := .monitor, message, fields }

/-- The message of a failure together with its details. -/
def failureText (message : String) : Option String → String
  | some detail => message ++ " (" ++ detail ++ ")"
  | none => message

/-- What a message of the live graph calls for. -/
def judgeLive (view : View) (m : StatusMessage) : Finding :=
  match m.kind, Stage.session? m.source with
  | .error message _, some session =>
    if view.session = some session then
      { reaction := .stopRecording m.source message }
    else
      { reaction := .ignore
        record? := record .warn "error from a detached recording branch"
          [("session", .count session), ("source", .shown m.source),
            ("error", .shown message)] }
  | .error message detail, none =>
    { reaction := .restart .graphError
      event? := (report .graphError m).withReason (failureText message detail) }
  | .endOfStream, some _ =>
    { reaction := .ignore
      record? := record .debug "end-of-stream from recording branch"
        [("source", .shown m.source)] }
  | .endOfStream, none =>
    { reaction := .restart .endOfStream
      event? := report .graphEndOfStream m }
  | .warning message _, _ =>
    { reaction := .ignore
      event? := (report .graphWarning m).withReason message }
  | .qos qos, _ =>
    { reaction := .ignore
      event? := (report .graphQos m).withReason qos.line }
  | .stateChanged old new, _ =>
    { reaction := .ignore
      record? := record .debug "state changed"
        [("source", .shown m.source), ("old", .shown old.tag), ("new", .shown new.tag)] }

/-- What a message calls for. -/
def judge (view : View) (m : StatusMessage) : Finding :=
  if view.generation = some m.generation then judgeLive view m
  else
    { reaction := .ignore
      record? := record .debug "discarding status message from a torn-down graph"
        [("generation", .count m.generation), ("live", .shown (showCount view.generation)),
          ("source", .shown m.source)] }

theorem judge_of_stale {view : View} {m : StatusMessage}
    (h : view.generation ≠ some m.generation) :
    (judge view m).reaction = .ignore ∧ (judge view m).event? = none := by
  simp [judge, h]

theorem judge_of_live {view : View} {m : StatusMessage}
    (h : view.generation = some m.generation) : judge view m = judgeLive view m := by
  simp [judge, h]

end StreamWarden.Monitor
