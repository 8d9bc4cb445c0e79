import StreamWarden.Host

/-!
# The bench

A host on which graphs and branches are made and taken apart by hand, and found
again by their numbers.

* `Bench.perform` carries out one action.
-/

namespace StreamWarden.Drill

/-- A host with the graphs and branches made on it. -/
structure Bench where
  host : Host := {}
  /-- The number given to each attempt to build a graph. -/
  attempts : List Nat := []
  /-- The graphs, as long as they are alive. -/
  graphs : List (Option Graph) := []
  /-- The branches, as long as they are attached. -/
  branches : List (Option Branch) := []

namespace Bench

/-- What can be done on a bench. -/
inductive Action where
  | build (generation : Nat) (profile : Profile)
  | refuseBuild (e : BuildError)
  | refusePlay (e : BuildError)
  | setState (graph : Nat) (state : GraphState)
  | attach (graph : Nat) (spec : BranchSpec)
  | teardown (graph : Nat)
  | activate
  | drain
  | detach (branch : Nat)
  | frame
  | report

/-- What comes of it. -/
inductive Reply where
  | nothing
  | done
  | answer (yes : Bool)
  | attached (branch : Branch)
  | buildFailed (e : BuildError)
  | branchFailed (e : BranchError)

/-- A bench with a changed backend. -/
def onBackend (b : Bench) (f : Backend → Backend) : Bench :=
  { b with host := { b.host with backend := f b.host.backend } }

/-- The graph with a number, if it is alive. -/
def graph? (b : Bench) (number : Nat) : Option Graph := (b.graphs[number]?).join

/-- The branch with a number, if it is attached. -/
def branch? (b : Bench) (number : Nat) : Option Branch := (b.branches[number]?).join

/-- Carries out an action; one on a graph or branch that is gone does nothing. -/
def perform (b : Bench) : Action → Bench × Reply
  | .build generation profile =>
    let (host, result) := b.host.build profile generation
    let b := { b with host := host, attempts := b.attempts ++ [generation] }
    match result with
    | .ok g => ({ b with graphs := b.graphs ++ [some g] }, .done)
    | .error e => (b, .buildFailed e)
  | .refuseBuild e => (b.onBackend (·.refuseBuild e), .nothing)
  | .refusePlay e => (b.onBackend (·.refusePlay e), .nothing)
  | .setState number state =>
    match b.graph? number with
    | none => (b, .nothing)
    | some g =>
      match b.host.backend.setState g state with
      | (backend, .ok g) =>
        ({ b.onBackend fun _ => backend with graphs := b.graphs.set number (some g) }, .done)
      | (backend, .error e) => (b.onBackend fun _ => backend, .buildFailed e)
  | .attach number spec =>
    match b.graph? number with
    | none => (b, .nothing)
    | some g =>
      match b.host.backend.attach g spec with
      | (backend, .ok branch) =>
        ({ b.onBackend fun _ => backend with branches := b.branches ++ [some branch] },
          .attached branch)
      | (backend, .error e) => (b.onBackend fun _ => backend, .branchFailed e)
  | .teardown number =>
    match b.graph? number with
    | none => (b, .nothing)
    | some g =>
      ({ b.onBackend (·.teardown g) with graphs := b.graphs.set number none }, .nothing)
  | .activate =>
    match b.host.backend.activate with
    | (backend, .ok ()) => (b.onBackend fun _ => backend, .done)
    | (backend, .error e) => (b.onBackend fun _ => backend, .branchFailed e)
  | .drain => (b.onBackend (·.beginDrain), .nothing)
  | .detach number =>
    match b.branch? number with
    | none => (b, .nothing)
    | some branch =>
      ({ b.onBackend (·.detach branch) with branches := b.branches.set number none }, .nothing)
  | .frame =>
    let (host, alive) := b.host.frame
    ({ b with host := host }, .answer alive)
  | .report => (b, .answer b.host.backend.current.isSome)

/-- The numbers of the attempts whose probe has seen a frame, upwards and without
repetition. -/
def framed (b : Bench) : List Nat :=
  let seen := (b.attempts.zip b.host.probes).filter fun a => a.2.lastFrame?.isSome
  (seen.map (·.1)).mergeSort.eraseDups

end Bench

end StreamWarden.Drill
