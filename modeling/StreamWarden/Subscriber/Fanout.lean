import StreamWarden.Subscriber.Set

/-!
# A set of subscribers on its own

A set of subscribers whose workers take turns among themselves. Events are
offered from outside, and no worker runs until it is let run.

* `settle` lets the workers run until nothing moves.
* `shutdown` closes the queues and waits for the workers, one after the other in
  the order of their subscribers; that a worker has broken down is noticed when
  it is waited for.
-/

namespace StreamWarden

/-- A set of subscribers with the roster of its workers. -/
structure Fanout where
  set : SubscriberSet
  roster : Roster Nat := {}
  /-- No further event will come. -/
  closed : Bool := false
  /-- The workers that have come to their end, by number. -/
  ended : List Nat := []

namespace Fanout

/-- A set of subscribers for which no event waits yet. -/
def of (subscribers : List Subscriber) : Fanout := { set := SubscriberSet.of subscribers }

/-- Offers an event to every subscriber. -/
def emit (f : Fanout) (e : Event) : Fanout × List Log.Record :=
  let (set, records) := f.set.emit e
  ({ f with set := set, roster := f.roster.wakeAll set.wanting }, records)

/-- Offers an event several times. -/
def emitTimes (f : Fanout) (e : Event) : Nat → Fanout × List Log.Record
  | 0 => (f, [])
  | n + 1 =>
    let (f, records) := f.emit e
    let (f, later) := f.emitTimes e n
    (f, records ++ later)

/-! ### Rounds -/

/-- Lets a worker take a turn. Once no event can come, it ends with a turn that
leaves its queue empty. -/
def turn (f : Fanout) (number : Nat) : Fanout × List Log.Record :=
  let (set, records, more) := f.set.turn number
  let idle := (set.workers[number]?).any Worker.isIdle
  ({ f with
      set := set
      roster := if more then f.roster.rest number else f.roster
      ended := if f.closed && idle && !more then number :: f.ended else f.ended },
    records)

/-- Lets the workers take up to `n` turns. -/
def turns : Nat → Fanout → Fanout × List Log.Record
  | 0, f => (f, [])
  | n + 1, f =>
    match f.roster.next? with
    | none => (f, [])
    | some (number, roster) =>
      let (f, records) := turn { f with roster := roster } number
      let (f, later) := turns n f
      (f, records ++ later)

/-- Lets one round pass. -/
def round (f : Fanout) : Fanout × List Log.Record :=
  let (f, records) := turns roundLength f
  ({ f with roster := f.roster.renew }, records)

/-- Lets up to `n` rounds pass, until nothing moves. -/
def rounds : Nat → Fanout → Fanout × List Log.Record
  | 0, f => (f, [])
  | n + 1, f =>
    if f.roster.isQuiet then (f, [])
    else
      let (f, records) := f.round
      let (f, later) := rounds n f
      (f, records ++ later)

/-- More turns than the workers can take before they have nothing left to do. -/
def patience (f : Fanout) : Nat :=
  f.set.workers.foldl (fun n w => n + (w.queue.length / turnLength + 2)) 0

/-- Lets the workers run until nothing moves. -/
def settle (f : Fanout) : Fanout × List Log.Record := rounds f.patience f

/-! ### The end -/

/-- Closes the queues; a worker that waits for an event is told so. -/
def close (f : Fanout) : Fanout :=
  { f with closed := true, roster := f.roster.wakeAll (f.set.numbers (·.state == .ready)) }

/-- Waits for some workers, one after the other, with at most `fuel` rounds and
workers in between. -/
def awaitAll : Nat → List Nat → Fanout → Fanout × List Log.Record
  | 0, _, f => (f, [])
  | _, [], f => (f, [])
  | fuel + 1, number :: others, f =>
    if (f.set.workers[number]?).any (·.state == .gone) then
      let (f, later) := awaitAll fuel others f
      (f, Subscriber.record .warn "subscriber worker did not finish cleanly" [] :: later)
    else if f.ended.contains number then awaitAll fuel others f
    else
      let (f, records) := f.round
      let (f, later) := awaitAll fuel (number :: others) f
      (f, records ++ later)

/-- Closes the queues and waits for all workers. -/
def shutdown (f : Fanout) : Fanout × List Log.Record :=
  awaitAll (f.patience + f.set.workers.length) (List.range f.set.workers.length) f.close

end Fanout

end StreamWarden
