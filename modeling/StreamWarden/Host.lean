import StreamWarden.Event
import StreamWarden.Excess
import StreamWarden.Files.Tree
import StreamWarden.Graph.Backend
import StreamWarden.Liveness.FrameProbe
import StreamWarden.Log.Record

/-!
# The host

What a supervisor acts on: a clock, a file tree, a media backend with its frame
probes, and a journal of all that was put out, the newest entry first.

* `schedule` tells of a deadline, which may lie beyond the end of the clock; `schedule_cases`:
  it changes nothing, or puts out that this is so.
* `events_emit`, `events_log`, `events_schedule`: an event enters the journal, all
  else leaves the events alone.
-/

namespace StreamWarden

/-- Something that was put out. -/
inductive Output where
  /-- An event. -/
  | event (e : Event)
  /-- A record of the log. -/
  | record (r : Log.Record)
  /-- A level of the recording lamp. -/
  | level (on : Bool)
  /-- That a limit of the machine was met; what follows never comes out. -/
  | excess (e : Excess)
  deriving DecidableEq, Repr

namespace Output

/-- The event of an entry. -/
def event? : Output → Option Event
  | .event e => some e
  | _ => none

/-- The log record of an entry. -/
def record? : Output → Option Log.Record
  | .record r => some r
  | _ => none

/-- The lamp level of an entry. -/
def level? : Output → Option Bool
  | .level on => some on
  | _ => none

/-- The limit that an entry tells of. -/
def excess? : Output → Option Excess
  | .excess e => some e
  | _ => none

end Output

/-- The surroundings of a supervisor. -/
structure Host where
  /-- The monotonic clock. -/
  now : Nat := 0
  /-- The end of the clock. -/
  horizon : Nat := Time.horizon
  /-- The nanoseconds from the start of 1970 to the zero of the clock. -/
  wallOrigin : Int := 0
  files : Files.Tree := Files.Tree.fresh
  backend : Backend := {}
  /-- The frame probes, by number. -/
  probes : List FrameProbe := []
  /-- All that was put out, the newest first. -/
  journal : List Output := []
  deriving Repr

namespace Host

/-- Enters something into the journal. -/
def put (h : Host) (o : Output) : Host := { h with journal := o :: h.journal }

/-- A host with an empty journal. -/
def clear (h : Host) : Host := { h with journal := [] }

/-- Publishes an event. -/
def emit (h : Host) (e : Event) : Host := h.put (.event e)

/-- Writes a record to the log. -/
def log (h : Host) (r : Log.Record) : Host := h.put (.record r)

/-- The events put out so far, the oldest first. -/
def events (h : Host) : List Event := (h.journal.filterMap Output.event?).reverse

/-- The log records put out so far, the oldest first. -/
def records (h : Host) : List Log.Record := (h.journal.filterMap Output.record?).reverse

/-- The lamp levels put out so far, the oldest first. -/
def levels (h : Host) : List Bool := (h.journal.filterMap Output.level?).reverse

/-- The first limit that was met. -/
def excess? (h : Host) : Option Excess := h.journal.reverse.findSome? Output.excess?

/-- A host with nothing in its journal that came after a limit was met. -/
def cut (h : Host) : Host :=
  { h with journal := (h.journal.reverse.takeWhile (·.excess?.isNone)).reverse }

/-- Meets a limit if a deadline lies beyond the end of the clock. -/
def schedule (h : Host) (deadline : Option Nat) : Host :=
  if deadline.any (h.horizon ≤ ·) then h.put (.excess .instant) else h

/-- The time of day, in seconds since the start of 1970. -/
def unixSeconds (h : Host) : Int := Int.fdiv (h.wallOrigin + h.now) 1000000000

/-- The probe with a number; one that was never made has seen no frame. -/
def probe (h : Host) (number : Nat) : FrameProbe := h.probes.getD number (FrameProbe.new 0)

/-- Makes a new probe; its number is that of the probes before it. -/
def newProbe (h : Host) : Host := { h with probes := h.probes ++ [FrameProbe.new h.now] }

/-- A frame passes the probe with a number. -/
def markProbe (h : Host) (number : Nat) : Host :=
  { h with probes := h.probes.modify number fun p => p.mark h.now }

/-- A frame passes the graph built last, if that is alive. -/
def frame (h : Host) : Host × Bool :=
  match h.backend.current with
  | some context => (h.markProbe context.probe, true)
  | none => (h, false)

/-- Builds a graph, which gets a probe of its own. -/
def build (h : Host) (profile : Profile) (generation : Nat) : Host × Except BuildError Graph :=
  let context : GraphContext := { generation, probe := h.probes.length }
  let (backend, result) := h.backend.build profile context
  ({ h.newProbe with backend }, result)

/-- Builds a graph and sets it playing; a graph that refuses is torn down. -/
def raise (h : Host) (profile : Profile) (generation : Nat) : Host × Except BuildError Graph :=
  match h.build profile generation with
  | (h, .error e) => (h, .error e)
  | (h, .ok graph) =>
    match h.backend.setState graph .playing with
    | (backend, .ok graph) => ({ h with backend }, .ok graph)
    | (backend, .error e) => ({ h with backend := backend.teardown graph }, .error e)

theorem events_emit (h : Host) (e : Event) : (h.emit e).events = h.events ++ [e] := by
  simp [events, emit, put, Output.event?]

theorem schedule_of_lt {h : Host} {deadline : Option Nat} (hd : ∀ d ∈ deadline, d < h.horizon) :
    h.schedule deadline = h := by
  cases deadline with
  | none => rfl
  | some d => exact if_neg (by simpa using hd d rfl)

theorem schedule_of_le {h : Host} {deadline : Option Nat} (hd : ∃ d ∈ deadline, h.horizon ≤ d) :
    h.schedule deadline = h.put (.excess .instant) := by
  obtain ⟨d, rfl, hle⟩ := hd
  exact if_pos (decide_eq_true hle)

/-- To tell of a deadline changes nothing, or tells that it lies beyond the end of the
clock. -/
theorem schedule_cases (h : Host) (deadline : Option Nat) :
    (∀ d ∈ deadline, d < h.horizon) ∧ h.schedule deadline = h ∨
      (∃ d ∈ deadline, h.horizon ≤ d) ∧ h.schedule deadline = h.put (.excess .instant) := by
  by_cases hd : ∃ d ∈ deadline, h.horizon ≤ d
  · exact .inr ⟨hd, schedule_of_le hd⟩
  · have hlt : ∀ d ∈ deadline, d < h.horizon :=
      fun d hm => Nat.lt_of_not_le fun hle => hd ⟨d, hm, hle⟩
    exact .inl ⟨hlt, schedule_of_lt hlt⟩

@[simp] theorem events_schedule (h : Host) (deadline : Option Nat) :
    (h.schedule deadline).events = h.events := by
  rcases h.schedule_cases deadline with ⟨-, hs⟩ | ⟨-, hs⟩ <;> rw [hs]
  rfl

theorem events_log (h : Host) (r : Log.Record) : (h.log r).events = h.events := rfl

end Host

end StreamWarden
