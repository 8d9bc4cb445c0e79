import StreamWarden.Graph.State

/-!
# Status messages of a graph

What the stages of a graph report, and the stamp that says which graph it was.
-/

namespace StreamWarden

/-- A report on late or dropped buffers; times are in nanoseconds. -/
structure QosReport where
  live : Bool := false
  runningTime : Option Nat := none
  streamTime : Option Nat := none
  timestamp : Option Nat := none
  duration : Option Nat := none
  processed : Nat := 0
  dropped : Nat := 0
  deriving DecidableEq, Repr

/-- What a stage reports. -/
inductive StatusKind where
  /-- It ran out of data. -/
  | endOfStream
  /-- It failed. -/
  | error (message : String) (detail : Option String)
  /-- It had a problem from which it recovered. -/
  | warning (message : String) (detail : Option String)
  /-- It changed its run state. -/
  | stateChanged (old new : GraphState)
  /-- It was late or dropped buffers. -/
  | qos (report : QosReport)
  deriving DecidableEq, Repr

/-- A report together with the number of the graph and the name of the stage
from which it comes. -/
structure StatusMessage where
  generation : Nat
  source : String
  kind : StatusKind
  deriving DecidableEq, Repr

/-- The text of a value that may be missing, as logs show it. -/
def showOption (text : α → String) : Option α → String
  | none => "None"
  | some a => "Some(" ++ text a ++ ")"

/-- The text of a natural number that may be missing. -/
def showCount : Option Nat → String := showOption fun n => toString n

/-- The numbers of a report in one line. -/
def QosReport.line (r : QosReport) : String :=
  "live=" ++ (if r.live then "true" else "false") ++
    " processed=" ++ toString r.processed ++
    " dropped=" ++ toString r.dropped ++
    " running_time=" ++ showCount r.runningTime ++
    " stream_time=" ++ showCount r.streamTime ++
    " timestamp=" ++ showCount r.timestamp ++
    " duration=" ++ showCount r.duration

end StreamWarden
