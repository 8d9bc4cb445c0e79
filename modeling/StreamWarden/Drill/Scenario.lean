import StreamWarden.Files.Edit
import StreamWarden.Supervisor.Loop

/-!
# Scenarios

A scripted run of a supervisor on a simulated backend: requests, signals, frames,
messages and failures are posted, files change, and time passes.

* `Scenario.perform` carries out one action and lets the loop run until it rests.
-/

namespace StreamWarden.Drill

open Supervisor (Loop Status)

/-- A supervisor's loop, and what signals mean to it. -/
structure Scenario where
  loop : Loop
  bindings : Signal.Bindings
  /-- Signals come from the system, which does not tell what became of them. -/
  fromSystem : Bool := false

namespace Scenario

/-- A scenario with a loop; signals of the system need a bridge. -/
def of (loop : Loop) (bindings : Signal.Bindings) (fromSystem : Bool) : Scenario :=
  { loop := { loop with bridge := if fromSystem then some bindings else none }
    bindings := bindings
    fromSystem := fromSystem }

/-- What can be posted to a loop, or changed around it, without time passing. -/
inductive Post where
  | request (r : Request)
  | signal (s : Signal)
  | dropHandles
  | frame
  | report (source : String) (kind : StatusKind)
  | reportAs (generation : Nat) (source : String) (kind : StatusKind)
  | frameAs (generation : Nat)
  | refuseBuild (e : BuildError)
  | refusePlay (e : BuildError)
  | refuseAttach (e : BranchError)
  | refuseActivate (e : BranchError)
  | edit (edits : List Files.Edit)

/-- What can be done in a scenario. -/
inductive Action where
  | post (p : Post)
  /-- Posts several things before the loop runs. -/
  | batch (posts : List Post)
  /-- Waits until the status has the wanted parts. -/
  | wait (span : Nat) (phase : Option Phase) (generation : Option (Option Nat))
    (recording : Option RecordingState)
  /-- Lets time pass. -/
  | pass (span : Nat)
  /-- Lets frames come, one after each span of time. -/
  | frames (span count : Nat)

/-- What comes of it. -/
inductive Reply where
  | nothing
  | answer (yes : Bool)
  | count (n : Nat)
  | timedOut
  | each (replies : List Reply)

/-- A scenario with a changed backend. -/
def onBackend (s : Scenario) (f : Backend → Backend) : Scenario :=
  { s with loop := s.loop.onHost fun h => { h with backend := f h.backend } }

/-- A scenario whose loop was asked something. -/
def answer (s : Scenario) (l : Loop × Bool) : Scenario × Reply :=
  ({ s with loop := l.1 }, .answer l.2)

/-- There was an attempt to build a graph with this number. -/
def wasBuilt (s : Scenario) (generation : Nat) : Bool :=
  0 < generation && generation ≤ s.loop.state.generation

/-- Posts something. -/
def post (s : Scenario) : Post → Scenario × Reply
  | .request r => if s.loop.handles then s.answer (s.loop.post r) else (s, .nothing)
  | .signal signal =>
    if s.fromSystem then ({ s with loop := s.loop.raise signal }, .nothing)
    else if s.loop.handles then s.answer (s.loop.signal s.bindings signal)
    else (s, .nothing)
  | .dropHandles => ({ s with loop := s.loop.dropHandles }, .nothing)
  | .frame => s.answer s.loop.frame
  | .report source kind => s.answer (s.loop.report source kind)
  | .reportAs generation source kind =>
    if s.wasBuilt generation then s.answer (s.loop.postStatus { generation, source, kind })
    else (s, .nothing)
  | .frameAs generation =>
    if s.wasBuilt generation then
      ({ s with loop := s.loop.onHost (Host.markProbe · generation) }, .nothing)
    else (s, .nothing)
  | .refuseBuild e => (s.onBackend (·.refuseBuild e), .nothing)
  | .refusePlay e => (s.onBackend (·.refusePlay e), .nothing)
  | .refuseAttach e => (s.onBackend (·.refuseAttach e), .nothing)
  | .refuseActivate e => (s.onBackend (·.refuseActivate e), .nothing)
  | .edit edits =>
    ({ s with loop := s.loop.onHost fun h => { h with files := h.files.editAll edits } }, .nothing)

/-- Posts several things. -/
def postAll (s : Scenario) : List Post → Scenario × List Reply
  | [] => (s, [])
  | p :: rest =>
    let (s, reply) := s.post p
    let (s, later) := s.postAll rest
    (s, reply :: later)

/-- Lets the loop run until it rests. -/
def settle (s : Scenario) : Scenario := { s with loop := s.loop.settle }

/-- Lets frames come; the count is of those that a graph received. -/
def frames (span : Nat) : Nat → Loop → Loop × Nat
  | 0, l => (l, 0)
  | n + 1, l =>
    let (l, alive) := (l.advance span).frame
    let (l, count) := frames span n l
    (l, if alive then count + 1 else count)

/-- A status has the wanted parts. -/
def isWanted (phase : Option Phase) (generation : Option (Option Nat))
    (recording : Option RecordingState) (s : Status) : Bool :=
  phase.all (· == s.phase) && generation.all (· == s.generation) &&
    recording.all (· == s.recording)

/-- Carries out an action. -/
def perform (s : Scenario) : Action → Scenario × Reply
  | .post p =>
    let (s, reply) := s.post p
    (s.settle, reply)
  | .batch posts =>
    let (s, replies) := s.postAll posts
    (s.settle, .each replies)
  | .wait span phase generation recording =>
    if s.loop.handles then
      match s.loop.await (isWanted phase generation recording) span with
      | (loop, .reached) => ({ s with loop := loop }, .answer true)
      | (loop, .ended) => ({ s with loop := loop }, .answer false)
      | (loop, .timedOut) => ({ s with loop := loop }, .timedOut)
    else (s, .nothing)
  | .pass span => ({ s with loop := s.loop.advance span }, .nothing)
  | .frames span count =>
    let (loop, n) := frames span count s.loop
    ({ s with loop := loop }, .count n)

end Scenario

end StreamWarden.Drill
