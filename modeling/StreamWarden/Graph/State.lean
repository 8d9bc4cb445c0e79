/-!
# Run states of a graph

A media graph is built in `null` and driven up to `playing`.
-/

namespace StreamWarden

/-- The run state of a media graph. -/
inductive GraphState where
  | null
  | ready
  | paused
  | playing
  deriving DecidableEq, Repr

namespace GraphState

/-- Every run state, upwards. -/
def all : List GraphState := [.null, .ready, .paused, .playing]

/-- The name of a run state. -/
def tag : GraphState → String
  | .null => "Null"
  | .ready => "Ready"
  | .paused => "Paused"
  | .playing => "Playing"

end GraphState

end StreamWarden
