import StreamWarden.Config.Profile
import StreamWarden.Graph.Error
import StreamWarden.Graph.Stage

/-!
# The simulated media backend

A backend whose graphs are bookkeeping only: it counts what is built, torn down,
attached and released, and can be told to refuse the next operations. A graph
that is torn down gives up its place; the attach points of its branches are
given up only when the branches are detached. The ledger keeps what was done in
its order, and so tells what was alive at any moment, not only when somebody looks.

* `build`, `setState` and `teardown` act on graphs; `attach`, `activate`,
  `beginDrain` and `detach` on the branches of one.
* `stats_build_ok` and its companion, and `of_attach_ok` and its own, say what each
  counts.
-/

namespace StreamWarden

/-- What a backend has counted. -/
structure BackendStats where
  builds : Nat := 0
  failedBuilds : Nat := 0
  liveGraphs : Nat := 0
  teardowns : Nat := 0
  attachPointsIssued : Nat := 0
  attachPointsLive : Nat := 0
  branchesLive : Nat := 0
  drains : Nat := 0
  deriving DecidableEq, Repr

/-- What a graph reports with: its number, and the number of its frame probe. -/
structure GraphContext where
  generation : Nat
  probe : Nat
  deriving DecidableEq, Repr

/-- A graph; `duplicates` tells whether its data can also be recorded. -/
structure Graph where
  generation : Nat
  state : GraphState
  duplicates : Bool
  deriving DecidableEq, Repr

/-- What a recording branch is made for. -/
structure BranchSpec where
  session : Nat
  location : String
  deriving DecidableEq, Repr

/-- A recording branch of a graph. -/
structure Branch where
  attachPoint : String
  sinkName : String
  location : String
  deriving DecidableEq, Repr

/-- Something that was done on a backend; graphs go by their numbers, branches by
their sessions and attach points. -/
inductive Deed where
  /-- A graph was built. -/
  | built (generation : Nat)
  /-- A build was refused. -/
  | buildRefused (generation : Nat)
  /-- A graph was driven to a run state. -/
  | driven (generation : Nat) (state : GraphState)
  /-- A graph refused to play. -/
  | playRefused (generation : Nat)
  /-- A graph was torn down. -/
  | toreDown (generation : Nat)
  /-- A branch was attached. -/
  | attached (session : Nat) (attachPoint : String)
  /-- A branch was not attached. -/
  | attachRefused (session : Nat)
  /-- A branch was set running. -/
  | activated
  /-- A branch refused to run. -/
  | activateRefused
  /-- A branch was told that its data end. -/
  | drained
  /-- A branch was detached. -/
  | detached (attachPoint : String)
  deriving DecidableEq, Repr

/-- A backend: its counts, the refusals that are queued for it, the context of
the graph built last while that is alive, the attach points in use, and what was
done on it so far, the newest first. -/
structure Backend where
  stats : BackendStats := {}
  buildRefusals : List BuildError := []
  playRefusals : List BuildError := []
  attachRefusals : List BranchError := []
  activateRefusals : List BranchError := []
  current : Option GraphContext := none
  attachPoints : List String := []
  ledger : List Deed := []
  deriving DecidableEq, Repr

namespace Backend

/-- Lets the next build fail, after those already told to. -/
def refuseBuild (b : Backend) (e : BuildError) : Backend :=
  { b with buildRefusals := b.buildRefusals ++ [e] }

/-- Lets the next change to `playing` fail, after those already told to. -/
def refusePlay (b : Backend) (e : BuildError) : Backend :=
  { b with playRefusals := b.playRefusals ++ [e] }

/-- Lets the next attaching fail, after those already told to. -/
def refuseAttach (b : Backend) (e : BranchError) : Backend :=
  { b with attachRefusals := b.attachRefusals ++ [e] }

/-- Lets the next activation fail, after those already told to. -/
def refuseActivate (b : Backend) (e : BranchError) : Backend :=
  { b with activateRefusals := b.activateRefusals ++ [e] }

/-- Builds a graph, in the state `null`. -/
def build (b : Backend) (profile : Profile) (context : GraphContext) :
    Backend × Except BuildError Graph :=
  match b.buildRefusals with
  | e :: rest =>
    ({ b with
        buildRefusals := rest
        stats := { b.stats with failedBuilds := b.stats.failedBuilds + 1 }
        ledger := .buildRefused context.generation :: b.ledger },
      .error e)
  | [] =>
    ({ b with
        stats := { b.stats with
          builds := b.stats.builds + 1
          liveGraphs := b.stats.liveGraphs + 1 }
        current := some context
        ledger := .built context.generation :: b.ledger },
      .ok { generation := context.generation, state := .null, duplicates := profile.isReceiver })

/-- Drives a graph to a run state. -/
def setState (b : Backend) (g : Graph) (state : GraphState) :
    Backend × Except BuildError Graph :=
  match state, b.playRefusals with
  | .playing, e :: rest =>
    ({ b with playRefusals := rest, ledger := .playRefused g.generation :: b.ledger }, .error e)
  | _, _ =>
    ({ b with ledger := .driven g.generation state :: b.ledger }, .ok { g with state := state })

/-- Tears a graph down and releases its place. -/
def teardown (b : Backend) (g : Graph) : Backend :=
  { b with
    stats := { b.stats with
      liveGraphs := b.stats.liveGraphs - 1
      teardowns := b.stats.teardowns + 1 }
    current := if b.current.any (·.generation == g.generation) then none else b.current
    ledger := .toreDown g.generation :: b.ledger }

/-- The name of the attach point that is given out next. -/
def nextAttachPoint (b : Backend) : String :=
  "tee.src_" ++ String.ofList (Text.Decimal.print b.stats.attachPointsIssued)

/-- Attaches a branch at a fresh attach point. -/
def attach (b : Backend) (g : Graph) (spec : BranchSpec) : Backend × Except BranchError Branch :=
  match b.attachRefusals with
  | e :: rest =>
    ({ b with attachRefusals := rest, ledger := .attachRefused spec.session :: b.ledger },
      .error e)
  | [] =>
    if g.duplicates then
      ({ b with
          stats := { b.stats with
            attachPointsIssued := b.stats.attachPointsIssued + 1
            attachPointsLive := b.stats.attachPointsLive + 1
            branchesLive := b.stats.branchesLive + 1 }
          attachPoints := b.attachPoints ++ [b.nextAttachPoint]
          ledger := .attached spec.session b.nextAttachPoint :: b.ledger },
        .ok {
          attachPoint := b.nextAttachPoint
          sinkName := Stage.name Stage.sinkStem spec.session
          location := spec.location })
    else
      ({ b with ledger := .attachRefused spec.session :: b.ledger }, .error .noDuplicationPoint)

/-- Lets a branch run with its graph. -/
def activate (b : Backend) : Backend × Except BranchError Unit :=
  match b.activateRefusals with
  | e :: rest =>
    ({ b with activateRefusals := rest, ledger := .activateRefused :: b.ledger }, .error e)
  | [] => ({ b with ledger := .activated :: b.ledger }, .ok ())

/-- Tells a branch that its data end here. -/
def beginDrain (b : Backend) : Backend :=
  { b with
    stats := { b.stats with drains := b.stats.drains + 1 }
    ledger := .drained :: b.ledger }

/-- Detaches a branch and gives up its attach point. -/
def detach (b : Backend) (branch : Branch) : Backend :=
  { b with
    stats := { b.stats with
      branchesLive := b.stats.branchesLive - 1
      attachPointsLive := b.stats.attachPointsLive - 1 }
    attachPoints := b.attachPoints.filter (· ≠ branch.attachPoint)
    ledger := .detached branch.attachPoint :: b.ledger }

/-! ### What is counted -/

theorem stats_build_ok {b b' : Backend} {p : Profile} {c : GraphContext} {g : Graph}
    (h : b.build p c = (b', .ok g)) :
    b'.stats.builds = b.stats.builds + 1 ∧
      b'.stats.liveGraphs = b.stats.liveGraphs + 1 ∧ b'.current = some c := by
  simp only [build] at h
  split at h
  · simp at h
  · obtain ⟨rfl, _⟩ := Prod.mk.inj h
    exact ⟨rfl, rfl, rfl⟩

theorem stats_build_error {b b' : Backend} {p : Profile} {c : GraphContext} {e : BuildError}
    (h : b.build p c = (b', .error e)) :
    b'.stats = { b.stats with failedBuilds := b.stats.failedBuilds + 1 } ∧
      b'.current = b.current := by
  simp only [build] at h
  split at h
  · obtain ⟨rfl, _⟩ := Prod.mk.inj h
    exact ⟨rfl, rfl⟩
  · simp at h

/-- A branch that is attached gets the attach point that is next. -/
theorem of_attach_ok {b b' : Backend} {g : Graph} {spec : BranchSpec} {branch : Branch}
    (h : b.attach g spec = (b', .ok branch)) :
    branch.attachPoint = b.nextAttachPoint ∧
      b' = { b with
        stats := { b.stats with
          attachPointsIssued := b.stats.attachPointsIssued + 1
          attachPointsLive := b.stats.attachPointsLive + 1
          branchesLive := b.stats.branchesLive + 1 }
        attachPoints := b.attachPoints ++ [branch.attachPoint]
        ledger := .attached spec.session branch.attachPoint :: b.ledger } := by
  rw [attach] at h
  split at h
  · cases h
  · split at h <;> cases h
    exact ⟨rfl, rfl⟩

/-- To be refused a branch counts nothing. -/
theorem of_attach_error {b b' : Backend} {g : Graph} {spec : BranchSpec} {e : BranchError}
    (h : b.attach g spec = (b', .error e)) :
    ∃ rest, b' = { b with
      attachRefusals := rest
      ledger := .attachRefused spec.session :: b.ledger } := by
  rw [attach] at h
  split at h
  · cases h
    exact ⟨_, rfl⟩
  · split at h <;> cases h
    exact ⟨b.attachRefusals, rfl⟩

end Backend

end StreamWarden
