import StreamWarden.Event.Bus
import StreamWarden.Subscriber.Worker

/-!
# Sets of subscribers

Every event goes to every subscriber of a set, none of which waits for another.

* `emit` offers an event to all; `hear` passes on what a listener reads from the
  bus.
* `turn` lets one worker take a turn, and `wanting` names those that want one.
-/

namespace StreamWarden

/-- The workers of a set of subscribers. -/
structure SubscriberSet where
  workers : List Worker

namespace SubscriberSet

/-- A set of subscribers for which no event waits yet. -/
def of (subscribers : List Subscriber) : SubscriberSet :=
  { workers := subscribers.map fun s => { subscriber := s } }

/-- Offers an event to each of some workers. -/
def offerAll (e : Event) : List Worker → List Worker × List Log.Record
  | [] => ([], [])
  | w :: rest =>
    let (w, records) := w.offer e
    let (rest, later) := offerAll e rest
    (w :: rest, records ++ later)

/-- Offers an event to every subscriber. -/
def emit (s : SubscriberSet) (e : Event) : SubscriberSet × List Log.Record :=
  let (workers, records) := offerAll e s.workers
  ({ workers }, records)

/-- The events that were dropped for the subscribers of this name. -/
def dropped (s : SubscriberSet) (name : String) : Nat :=
  (s.workers.filter (·.subscriber.name == name)).foldl (fun n w => n + w.dropped) 0

/-- Lets the worker with a number take a turn; the truth value tells whether it
could go on. -/
def turn (s : SubscriberSet) (number : Nat) : SubscriberSet × List Log.Record × Bool :=
  match s.workers[number]? with
  | some w =>
    let (w, records, more) := w.turn
    ({ workers := s.workers.set number w }, records, more)
  | none => (s, [], false)

/-- The numbers of the workers that satisfy `p`. -/
def numbers (s : SubscriberSet) (p : Worker → Bool) : List Nat :=
  (List.range s.workers.length).filter fun i => (s.workers[i]?).any p

/-- The numbers of the workers that can take a step. -/
def wanting (s : SubscriberSet) : List Nat := s.numbers Worker.isReady

/-- Passes on what a listener has read from the bus; what it has missed is noted
in the log. -/
def hear (s : SubscriberSet) : List (Bus.Reading Event) → SubscriberSet × List Log.Record
  | [] => (s, [])
  | reading :: rest =>
    let (s, records) :=
      match reading with
      | .item e => s.emit e
      | .missed n =>
        (s, [{ level := .warn
               origin := .supervisor
               message := "subscriber listener lagged behind the bus"
               fields := [("skipped", .count n)] }])
      | _ => (s, [])
    let (s, later) := s.hear rest
    (s, records ++ later)

end SubscriberSet

end StreamWarden
