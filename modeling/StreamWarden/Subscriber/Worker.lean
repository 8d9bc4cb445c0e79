import StreamWarden.Event
import StreamWarden.Excess
import StreamWarden.Log.EventRecord
import StreamWarden.Log.Record
import StreamWarden.Turns

/-!
# Subscribers and their workers

A subscriber handles events at its own pace. Its worker keeps the events that
wait in a queue of bounded length; an event that finds the queue full is dropped
for this subscriber and counted. A worker catches what a handler throws while it
runs, notes it in the log, and goes on with the next event. It does not catch
what is thrown beside that: before the handler runs at all, while the failure is
reported, or when what was thrown is let go. Then it breaks down itself, and
what was queued is lost.

* `queue_offer_le`: the queue never exceeds its capacity.
* `accepted_offer`: an event that is offered is queued or counted as dropped,
  as long as the worker is alive.
-/

namespace StreamWarden

/-- What comes of handing an event to a subscriber. -/
inductive Handling where
  /-- The subscriber keeps the event. -/
  | kept
  /-- The subscriber writes to the log. -/
  | logged (records : List Log.Record)
  /-- The handler fails with a text. -/
  | failed (text : String)
  /-- The subscriber fails where no worker catches it; before that, a failure of its
  handler may have been reported with a text. -/
  | fatal (reported? : Option String)
  /-- The handler never returns. -/
  | endless
  deriving DecidableEq, Repr

/-- The worker breaks down over the event. -/
def Handling.isFatal : Handling → Bool
  | .fatal _ => true
  | _ => false

/-- A subscriber to events. -/
structure Subscriber where
  name : String
  /-- The events that may wait for it. -/
  capacity : Nat := 256
  handle : Event → Handling

namespace Subscriber

/-- The events that may wait for a subscriber, at least one. -/
def room (s : Subscriber) : Nat := Nat.max s.capacity 1

/-- Why no worker can serve a subscriber, if none can. -/
def excess? (s : Subscriber) : Option Excess :=
  if Excess.queueLimit < s.capacity then some .queue else none

/-- The subscriber that writes events to the log. -/
def logWriter : Subscriber :=
  { name := Log.eventWriterName, handle := fun e => .logged [Log.ofEvent e] }

/-- The text of a failure that has none of its own. -/
def unknownFailure : String := "non-string panic payload"

/-- A record about the fan-out of events. -/
def record (level : Log.Level) (message : String) (fields : List (String × Log.Value)) :
    Log.Record :=
  { level, origin := .subscribers, message, fields }

/-- The record of a failure. -/
def failureRecord (s : Subscriber) (text : String) : Log.Record :=
  record .error "subscriber panicked; event skipped"
    [("subscriber", .text s.name), ("panic", .shown text)]

/-- The record of an event that comes when the worker has broken down. -/
def goneRecord (s : Subscriber) : Log.Record :=
  record .warn "subscriber worker is gone" [("subscriber", .text s.name)]

/-- The record of an event that finds the queue full, with the number of those so far. -/
def fullRecord (s : Subscriber) (e : Event) (dropped : Nat) : Log.Record :=
  record .warn "subscriber queue full, event dropped"
    [("subscriber", .text s.name), ("kind", .shown e.kind.tag), ("dropped", .count dropped)]

end Subscriber

/-- What a worker is doing. -/
inductive WorkerState where
  /-- It takes the next event as soon as there is one. -/
  | ready
  /-- A handler has this event and does not return it. -/
  | busy (event : Event)
  /-- It has broken down. -/
  | gone
  deriving DecidableEq, Repr

/-- A subscriber at work. -/
structure Worker where
  subscriber : Subscriber
  /-- The waiting events, the oldest first. -/
  queue : List Event := []
  state : WorkerState := .ready
  /-- The events that were handled, the oldest first. -/
  handled : List Event := []
  /-- Those of them that the subscriber kept. -/
  kept : List Event := []
  /-- How many events found the queue full. -/
  dropped : Nat := 0

namespace Worker

/-- The queue takes no further event. -/
def isFull (w : Worker) : Bool := w.subscriber.room ≤ w.queue.length

/-- Offers an event; a record tells when it is not taken. -/
def offer (w : Worker) (e : Event) : Worker × List Log.Record :=
  if w.state = .gone then (w, [w.subscriber.goneRecord])
  else if w.isFull then
    ({ w with dropped := w.dropped + 1 }, [w.subscriber.fullRecord e (w.dropped + 1)])
  else ({ w with queue := w.queue ++ [e] }, [])

/-- Takes the next event and handles it. -/
def step (w : Worker) : Worker × List Log.Record :=
  match w.state, w.queue with
  | .ready, e :: rest =>
    let w := { w with queue := rest }
    let done := { w with handled := w.handled ++ [e] }
    match w.subscriber.handle e with
    | .kept => ({ done with kept := w.kept ++ [e] }, [])
    | .logged records => (done, records)
    | .failed text => (done, [w.subscriber.failureRecord text])
    | .fatal reported? =>
      ({ done with state := .gone, queue := [] },
        (reported?.map w.subscriber.failureRecord).toList)
    | .endless => ({ w with state := .busy e }, [])
  | _, _ => (w, [])

/-- Takes up to `n` steps. -/
def steps : Nat → Worker → Worker × List Log.Record
  | 0, w => (w, [])
  | n + 1, w =>
    let (w, records) := w.step
    let (w, later) := steps n w
    (w, records ++ later)

/-- The worker can take a step. -/
def isReady (w : Worker) : Bool := w.state == .ready && !w.queue.isEmpty

/-- The worker does nothing, and takes the next event as soon as there is one. -/
def isIdle (w : Worker) : Bool := w.state == .ready && w.queue.isEmpty

/-- Takes a turn; the truth value tells whether all of it was used, and the worker
could go on. -/
def turn (w : Worker) : Worker × List Log.Record × Bool :=
  let (w', records) := w.steps turnLength
  (w', records, turnLength ≤ w.queue.length && w'.state == .ready)

/-- The event that is being handled. -/
def inHand (w : Worker) : List Event :=
  match w.state with
  | .busy e => [e]
  | _ => []

/-- All events that were accepted and not lost with a broken worker, the oldest
first. -/
def accepted (w : Worker) : List Event := w.handled ++ w.inHand ++ w.queue

theorem accepted_offer {w : Worker} {e : Event} (h : w.state ≠ .gone) :
    ((w.offer e).1.accepted = w.accepted ++ [e] ∧ (w.offer e).1.dropped = w.dropped) ∨
      ((w.offer e).1.accepted = w.accepted ∧ (w.offer e).1.dropped = w.dropped + 1) := by
  simp only [offer, if_neg h]
  split
  · exact .inr ⟨rfl, rfl⟩
  · exact .inl ⟨by simp [accepted, inHand], rfl⟩

theorem queue_offer_le {w : Worker} {e : Event} (h : w.queue.length ≤ w.subscriber.room) :
    (w.offer e).1.queue.length ≤ (w.offer e).1.subscriber.room := by
  by_cases hg : w.state = .gone
  · simpa [offer, hg] using h
  · by_cases hf : w.subscriber.room ≤ w.queue.length
    · simpa [offer, hg, isFull, hf] using h
    · simp only [offer, hg, isFull, hf, if_false, decide_false, Bool.false_eq_true,
        List.length_append, List.length_cons, List.length_nil]
      omega

end Worker

end StreamWarden
