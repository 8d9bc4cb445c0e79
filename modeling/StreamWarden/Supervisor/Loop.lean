import StreamWarden.Control.Signal
import StreamWarden.Subscriber.Fanout
import StreamWarden.Supervisor.Step

/-!
# The loop of a supervisor

Requests and status messages wait in queues, and a supervisor takes one thing at
a time: a request if there is one, the end of all handles, a status message, and
only then what its deadlines ask for. After each of these steps it publishes its
status. It shares the processor with a listener, which passes the events on the
bus on to the subscribers, with the workers of these, and with a bridge for the
signals of the system.

* `step?` is one step of the supervisor, or nothing when there is nothing to do.
* `turn` is the turn of one task, `round` lets the tasks take their turns, and
  `settle` lets rounds pass until nothing more happens at the present instant.
* `advance` and `await` let time pass from one deadline to the next; a deadline
  between two milliseconds fires at the later one.
-/

namespace StreamWarden.Supervisor

/-- What shares the processor. -/
inductive Task where
  | supervisor
  /-- The worker of the subscriber with this number. -/
  | worker (number : Nat)
  /-- Passes events on to the subscribers. -/
  | listener
  /-- Passes signals on to the supervisor. -/
  | bridge
  deriving DecidableEq, Repr

/-- A supervisor with all that waits for it. -/
structure Loop where
  state : State
  requests : List Request := []
  statuses : List StatusMessage := []
  /-- Somebody outside can still post requests. -/
  handles : Bool := true
  /-- What the bridge takes signals for, as long as there is a bridge. -/
  bridge : Option Signal.Bindings := none
  /-- The signals that the bridge has not seen yet. -/
  signals : List Signal := []
  /-- The status published last. -/
  status : Status := {}
  /-- The limit of the machine at which the supervisor broke down. -/
  excess : Option Excess := none
  bus : Bus Event
  /-- The position of the listener on the bus. -/
  listener : Nat := 0
  subscribers : SubscriberSet
  roster : Roster Task
  /-- The log so far, the newest records first. -/
  log : List Log.Record := []
  /-- The levels of the lamp so far, the newest first. -/
  levels : List Bool := []

namespace Loop

/-- A loop that has not begun. -/
def new (state : State) (busCapacity : Nat) (subscribers : List Subscriber) : Loop :=
  { state := state
    bus := Bus.ofCapacity busCapacity
    subscribers := SubscriberSet.of subscribers
    roster :=
      { ready := .supervisor :: (List.range subscribers.length).map .worker ++ [.listener] } }

/-- The supervisor is done. -/
def isOver (l : Loop) : Bool := l.state.exited || l.excess.isSome

/-- A loop on a changed host. -/
def onHost (l : Loop) (f : Host → Host) : Loop := { l with state := l.state.onHost f }

/-- A loop whose log and lamp levels have been read. -/
def clear (l : Loop) : Loop := { l with log := [], levels := [] }

/-- Appends records to the log. -/
def write (l : Loop) (records : List Log.Record) : Loop :=
  { l with log := records.reverse ++ l.log }

/-- Puts a task on the roster. -/
def wake (l : Loop) (t : Task) : Loop := { l with roster := l.roster.wake t }

/-- Lets a task rest if its turn was used up. -/
def restIf (l : Loop) (more : Bool) (t : Task) : Loop :=
  if more then { l with roster := l.roster.rest t } else l

/-! ### Posting -/

/-- Posts a request. -/
def post (l : Loop) (r : Request) : Loop × Bool :=
  if l.isOver then (l, false)
  else (wake { l with requests := l.requests ++ [r] } .supervisor, true)

/-- Posts a status message. -/
def postStatus (l : Loop) (m : StatusMessage) : Loop × Bool :=
  if l.isOver then (l, false)
  else (wake { l with statuses := l.statuses ++ [m] } .supervisor, true)

/-- Posts a status message on behalf of the graph built last, if that is alive. -/
def report (l : Loop) (source : String) (kind : StatusKind) : Loop × Bool :=
  match l.state.backend.current with
  | some context => l.postStatus { generation := context.generation, source, kind }
  | none => (l, false)

/-- Lets a frame pass the graph built last, if that is alive. -/
def frame (l : Loop) : Loop × Bool :=
  let (host, alive) := l.state.toHost.frame
  (l.onHost fun _ => host, alive)

/-- Drops all handles outside. -/
def dropHandles (l : Loop) : Loop := wake { l with handles := false } .supervisor

/-- Notes a signal in the log and posts its request. -/
def signal (l : Loop) (b : Signal.Bindings) (s : Signal) : Loop × Bool :=
  (l.write [Signal.record b s]).post (b.request s)

/-- The system raises a signal; the bridge will see it, but not how often it was
raised. -/
def raise (l : Loop) (s : Signal) : Loop :=
  if l.bridge.isNone || l.signals.contains s then l else { l with signals := l.signals ++ [s] }

/-! ### The supervisor -/

/-- Publishes the status of a new state. -/
def enter (l : Loop) (s : State) : Loop := { l with state := s, status := s.status }

/-- Breaks down at a limit of the machine: the graph goes, and nothing comes out
any more. -/
def breakDown (l : Loop) (s : State) (e : Excess) : Loop :=
  { l with
    excess := some e
    state := s.onHost fun h =>
      { h.cut with
        backend := (s.graph.map h.backend.teardown).getD h.backend } }

/-- Goes on with a new state, unless a limit was met on the way to it. -/
def proceed (l : Loop) (s : State) : Loop :=
  match s.excess? with
  | none => l.enter s
  | some e => l.breakDown s e

/-- A deadline is due. -/
def isDue (s : State) : Bool := s.nextWake.any (· ≤ s.now)

/-- Takes one step, if there is something to do. -/
def step? (l : Loop) : Option Loop :=
  if l.isOver then none
  else
    match l.requests with
    | r :: rest => some (proceed { l with requests := rest } (l.state.onRequest r))
    | [] =>
      if l.handles || l.bridge.isSome then
        match l.statuses with
        | m :: rest => some (proceed { l with statuses := rest } (l.state.onStatus m))
        | [] => if isDue l.state then some (l.proceed l.state.onWake) else none
      else
        some (l.proceed ((l.state.log .debug "all supervisor handles dropped" []).onRequest .stop))

/-- Takes up to `n` steps; the truth value tells whether all were taken. -/
def steps : Nat → Loop → Loop × Bool
  | 0, l => (l, true)
  | n + 1, l =>
    match l.step? with
    | some l' => steps n l'
    | none => (l, false)

/-- Passes what the supervisor has put out on to the bus and the log. -/
def publish (l : Loop) : Loop :=
  let events := l.state.events
  let l := { l with
    bus := events.foldl Bus.publish l.bus
    levels := l.state.levels.reverse ++ l.levels }
  let l := (l.write l.state.records).onHost Host.clear
  if events.isEmpty then l else l.wake .listener

/-! ### Turns -/

/-- The turn of the supervisor. -/
def supervise (l : Loop) : Loop :=
  let (l, more) := steps turnLength l
  l.publish.restIf more .supervisor

/-- The turn of the listener. -/
def listen (l : Loop) : Loop :=
  let (readings, position) := l.bus.readUpTo turnLength l.listener
  let (set, records) := l.subscribers.hear readings
  let l := { l with
    listener := position
    subscribers := set
    roster := l.roster.wakeAll (set.wanting.map .worker) }
  (l.write records).restIf (readings.length == turnLength) .listener

/-- The turn of a worker. -/
def work (l : Loop) (number : Nat) : Loop :=
  let (set, records, more) := l.subscribers.turn number
  (write { l with subscribers := set } records).restIf more (.worker number)

/-- Passes some signals on; a bridge that finds the supervisor gone is gone itself. -/
def forwardAll (b : Signal.Bindings) : List Signal → Loop → Loop
  | [], l => l
  | s :: rest, l =>
    match l.signal b s with
    | (l, true) => forwardAll b rest l
    | (l, false) => { l with bridge := none }

/-- The turn of the bridge. -/
def forward (l : Loop) : Loop :=
  let signals := Signal.all.filter l.signals.contains
  let l := { l with signals := [] }
  match l.bridge with
  | some b => forwardAll b signals l
  | none => l

/-- The turn of a task. -/
def turn (l : Loop) : Task → Loop
  | .supervisor => l.supervise
  | .worker number => l.work number
  | .listener => l.listen
  | .bridge => l.forward

/-- Lets the tasks take up to `n` turns. -/
def turns : Nat → Loop → Loop
  | 0, l => l
  | n + 1, l =>
    match l.roster.next? with
    | none => l
    | some (t, roster) => turns n (turn { l with roster := roster } t)

/-- Lets one round pass; at its end the bridge learns of the signals. -/
def round (l : Loop) : Loop :=
  let l := turns roundLength l
  let l := if l.signals.isEmpty then l else l.wake .bridge
  { l with roster := l.roster.renew }

/-- Nothing more happens at this instant. -/
def isQuiet (l : Loop) : Bool := l.roster.isQuiet && l.signals.isEmpty

/-- More steps than a supervisor can take without time passing: one for each
thing that waits, and for each of these, and each build that will be refused, a
rebuild. -/
def patience (l : Loop) : Nat :=
  4 * (l.requests.length + l.statuses.length + l.signals.length +
    l.state.backend.buildRefusals.length + l.state.backend.playRefusals.length) + 16

/-- More rounds than can follow one another without time passing: each step puts
out a few events, and each of these takes a step of the listener and of each
worker. -/
def rounds (l : Loop) : Nat :=
  16 * (l.patience + 1) * (l.subscribers.workers.length + 2)

/-- Lets up to `n` rounds pass, until nothing more happens at this instant. -/
def settleIn : Nat → Loop → Loop
  | 0, l => l
  | n + 1, l => if l.isQuiet then l else settleIn n l.round

/-- Lets rounds pass until nothing more happens at this instant. -/
def settle (l : Loop) : Loop := settleIn l.rounds l

/-! ### Time -/

/-- Sets the clock. -/
def clock (l : Loop) (t : Nat) : Loop := l.onHost fun h => { h with now := t }

/-- The next instant at which something is to be done. -/
def nextFiring (l : Loop) : Option Nat :=
  if l.isOver then none
  else l.state.nextWake.map fun t => Time.nextMilli (max t l.state.now)

/-- Lets time pass up to an instant at which something is to be done. -/
def fire (l : Loop) (t : Nat) : Loop := (l.clock t).wake .supervisor

/-- What became of a wait. -/
inductive WaitResult where
  /-- The wanted status was published. -/
  | reached
  /-- The run ended before. -/
  | ended
  /-- The time ran out before. -/
  | timedOut
  deriving DecidableEq, Repr

/-- Looks at the status at once and after each of up to `n` rounds, until nothing
more happens at this instant. -/
def awaitHere (p : Status → Bool) : Nat → Loop → Loop × Option WaitResult
  | 0, l => (l, none)
  | n + 1, l =>
    if p l.status then (l, some .reached)
    else if l.isOver then (l, some .ended)
    else if l.isQuiet then (l, none)
    else awaitHere p n l.round

/-- Lets time pass until a status satisfies `p`, the run ends, or `limit` comes,
with at most `fuel` deadlines in between. At the limit itself it is too late. -/
def awaitLoop (p : Status → Bool) (limit : Nat) : Nat → Loop → Loop × WaitResult
  | 0, l => (l.clock limit, .timedOut)
  | fuel + 1, l =>
    match awaitHere p l.rounds l with
    | (l, some result) => (l.settle, result)
    | (l, none) =>
      match l.nextFiring with
      | some t =>
        if t < limit then awaitLoop p limit fuel (l.fire t)
        else if t = limit then ((l.fire t).settle, .timedOut)
        else (l.clock limit, .timedOut)
      | none => (l.clock limit, .timedOut)

/-- More deadlines than can fire within a span: at each millisecond one for each
of the three and for each build that will be refused. -/
def firings (l : Loop) (span : Nat) : Nat := (Time.wholeMillis span + 2) * l.patience

/-- Lets time pass until a status satisfies `p`, the run ends, or the span is
over. -/
def await (l : Loop) (p : Status → Bool) (span : Nat) : Loop × WaitResult :=
  awaitLoop p (l.state.now + span) (l.firings span) l

/-- Lets a span of time pass, with all deadlines in it. -/
def advance (l : Loop) (span : Nat) : Loop :=
  (l.await (fun _ => false) span).1.clock (l.state.now + span)

/-! ### The end -/

/-- Ends the fan-out when the run is over: the listener passes on what is left on
the bus, and the workers finish. -/
def close (l : Loop) : Loop :=
  let (set, heard) := l.subscribers.hear (l.bus.readAll l.listener)
  let (fanout, records) := Fanout.shutdown { set := set }
  write { l with listener := l.bus.subscribe, subscribers := fanout.set } (heard ++ records)

end Loop

end StreamWarden.Supervisor
