import StreamWarden.Supervisor.State

/-!
# Control signals

Four signals of the system reach the supervisor as requests. What the two user
signals mean depends on the profile and can be chosen; the other two always mean
stop.

* `Bindings.request` is the request of a signal, `Signal.record` what the log says
  about it.
-/

namespace StreamWarden

/-- A signal of the system. -/
inductive Signal where
  | user1
  | user2
  | interrupt
  | terminate
  deriving DecidableEq, Repr

namespace Signal

/-- Every signal. -/
def all : List Signal := [.user1, .user2, .interrupt, .terminate]

/-- The name of a signal in the log. -/
def label : Signal → String
  | .user1 => "SIGUSR1"
  | .user2 => "SIGUSR2"
  | .interrupt => "SIGINT"
  | .terminate => "SIGTERM"

/-- The name of a signal where a log shows a whole value. -/
def tag : Signal → String
  | .user1 => "User1"
  | .user2 => "User2"
  | .interrupt => "Interrupt"
  | .terminate => "Terminate"

/-- What the two user signals ask for. -/
structure Bindings where
  user1 : Request
  user2 : Request
  deriving DecidableEq, Repr

namespace Bindings

/-- A sender restarts and stops, a receiver toggles its recording and restarts. -/
def ofProfile : Profile → Bindings
  | .sender .. => { user1 := .restart, user2 := .stop }
  | .receiver .. => { user1 := .toggleRecording, user2 := .restart }

/-- The same bindings where nothing else is chosen. -/
def choose (b : Bindings) (user1 user2 : Option Request) : Bindings :=
  { user1 := user1.getD b.user1, user2 := user2.getD b.user2 }

/-- The request of a signal. -/
def request (b : Bindings) : Signal → Request
  | .user1 => b.user1
  | .user2 => b.user2
  | .interrupt | .terminate => .stop

end Bindings

/-- The record of a signal. -/
def record (b : Bindings) (s : Signal) : Log.Record :=
  { level := .info
    origin := .signals
    message := "control signal"
    fields := [("signal", .text s.label), ("request", .text (b.request s).label)] }

end Signal

end StreamWarden
