import StreamWarden.Host
import StreamWarden.Recording.FileName
import StreamWarden.Recording.Region
import StreamWarden.Recording.Session
import StreamWarden.Recording.Storage

/-!
# The recording studio

The recorder together with the host on which it works. It writes at most one
recording at a time, and only while it is armed, that is while a graph plays.
What the outside sees of a recording, the flag in the status region and the
lamp, is switched on when the branch runs and off whenever the session ends.

* `toggle` starts or stops a recording; `finishDrain`, `forceStop` and
  `branchError` end one; `finish` and `force` also tell whether there was one to end.
* `detach_session`: after a detach there is no session.
* `toggle_off_idle`: without a session there is nothing to stop.
-/

namespace StreamWarden

/-- What shows that a recording is being written. -/
inductive Indicator where
  /-- Nothing. -/
  | none
  /-- A lamp, whose levels are told to the outside. -/
  | lamp
  /-- A lamp that is driven by the contents of a file. -/
  | file (path : String)
  deriving DecidableEq, Repr

/-- A host with a recorder. -/
structure Studio extends Host where
  /-- The file that names the mount point of the storage. -/
  helper : String
  region : Option Region := none
  indicator : Indicator := .none
  /-- The time between the end of the data and the end of the session. -/
  drainGrace : Nat
  armed : Bool := false
  session : Option Session := none
  sessionsStarted : Nat := 0
  deriving Repr

namespace Studio

/-- A studio on a changed host. -/
def onHost (s : Studio) (f : Host → Host) : Studio := { s with toHost := f s.toHost }

/-- Publishes an event. -/
def emit (s : Studio) (e : Event) : Studio := s.onHost (Host.emit · e)

/-- Writes a record to the log. -/
def log (s : Studio) (r : Log.Record) : Studio := s.onHost (Host.log · r)

/-- Allows recordings. -/
def arm (s : Studio) : Studio := { s with armed := true }

/-- Forbids recordings. -/
def disarm (s : Studio) : Studio := { s with armed := false }

/-- The state of the recording. -/
def recordingState (s : Studio) : RecordingState := (s.session.map (·.state)).getD .idle

/-- A recording is being written. -/
def isActive (s : Studio) : Bool := s.recordingState == .active

/-- When the drain of the recording is over. -/
def drainDeadline (s : Studio) : Option Nat := s.session.bind (·.drainDeadline)

/-- The stage belongs to the branch of the present session. -/
def ownsStage (s : Studio) (stage : String) : Bool :=
  s.session.any fun session => Stage.session? stage == some session.id

/-- The flag in the status region; without a region it is off. -/
def flag (s : Studio) : Bool := s.region.any fun r => r.isSet s.files

/-- The text by which a file drives the lamp. -/
def levelText (on : Bool) : List UInt8 := [if on then 49 else 48]

/-- Drives the indicator. -/
def drive (s : Studio) (on : Bool) : Studio :=
  match s.indicator with
  | .none => s
  | .lamp => s.onHost (Host.put · (.level on))
  | .file path =>
    match s.files.write path (levelText on) with
    | .ok files => { s with files := files }
    | .error e =>
      s.log
        { level := .warn
          origin := .indicator
          message := "cannot drive recording led"
          fields := [("path", .shown path), ("error", .shown e.message)] }

/-- Shows to the outside whether a recording is being written. -/
def announce (s : Studio) (on : Bool) : Studio :=
  match s.region with
  | some r => drive { s with files := r.set s.files on } on
  | none => s.drive on

/-- Ends the session: its branch is taken off the graph, if that is still there,
and nothing is shown any more. -/
def detach (s : Studio) (graph : Option Graph) (reason : String) : Studio :=
  match s.session with
  | none => s
  | some session =>
    let backend := if graph.isSome then s.backend.detach session.branch else s.backend
    (announce { s with session := none, backend := backend } false).emit
      (((Event.of .recordingStopped).withPath session.path).withReason reason)

/-- Ends the session at once. -/
def forceStop (s : Studio) (graph : Option Graph) : Studio := s.detach graph "forced"

/-- The drain of the recording is over at `now`. -/
def isDrained (s : Studio) (now : Nat) : Bool := s.drainDeadline.any (· ≤ now)

/-- Ends a session whose drain is over. -/
def finishDrain (s : Studio) (now : Nat) (graph : Option Graph) : Studio :=
  if s.isDrained now then s.detach graph "drained" else s

/-- Ends the session at once, and tells whether there was one. -/
def force (s : Studio) (graph : Option Graph) : Studio × Bool :=
  (s.forceStop graph, s.session.isSome)

/-- Ends a session whose drain is over, and tells whether there was one. -/
def finish (s : Studio) (now : Nat) (graph : Option Graph) : Studio × Bool :=
  (s.finishDrain now graph, s.isDrained now)

/-- A stage of the branch has failed: the session ends, the graph goes on. -/
def branchError (s : Studio) (stage message : String) (graph : Option Graph) : Studio :=
  (s.emit (((Event.of .recordingFailed).withStage stage).withReason message)).forceStop graph

/-- Reports that no recording can be started. -/
def refuse (s : Studio) (e : BranchError) : Studio × ToggleOutcome :=
  (s.emit ((Event.of .recordingRefused).withReason (e.label ++ ": " ++ e.message)), .refused e)

/-- Attaches a branch that writes to a path, and lets it run. -/
def record (s : Studio) (graph : Graph) (path : String) : Studio × ToggleOutcome :=
  let id := s.sessionsStarted + 1
  let s := { s with sessionsStarted := id }
  match s.backend.attach graph { session := id, location := path } with
  | (backend, .error e) => refuse { s with backend := backend } e
  | (backend, .ok branch) =>
    match backend.activate with
    | (backend, .error e) => refuse { s with backend := backend.detach branch } e
    | (backend, .ok ()) =>
      let session : Session := { id, path, branch, state := .active }
      ((announce { s with backend := backend, session := some session } true).emit
          (((Event.of .recordingStarted).withPath path).withStage branch.attachPoint),
        .started path)

/-- Starts a recording on a playing graph. -/
def startOn (s : Studio) (graph : Graph) : Studio × ToggleOutcome :=
  match Storage.locate s.files s.helper with
  | .error e => s.refuse (.storage e)
  | .ok mount => s.record graph (Files.join mount (Recording.fileName s.unixSeconds))

/-- Reports that no graph plays. -/
def refuseDisarmed (s : Studio) : Studio × ToggleOutcome :=
  (s.emit ((Event.of .recordingRefused).withReason "pipeline not playing"), .disarmed)

/-- Starts a recording. -/
def start (s : Studio) (graph : Option Graph) : Studio × ToggleOutcome :=
  match s.recordingState with
  | .active | .attaching => (s, .unchanged)
  | .draining | .detached => (s, .busy)
  | .idle =>
    match graph with
    | some g => if s.armed then s.startOn g else s.refuseDisarmed
    | none => s.refuseDisarmed

/-- Lets the session write out what it holds. -/
def drain (s : Studio) (session : Session) : Studio :=
  let draining := { session with
    state := .draining
    drainDeadline := some (s.now + s.drainGrace) }
  let s := { s with backend := s.backend.beginDrain, session := some draining }
  (s.onHost (Host.schedule · s.drainDeadline)).emit
    ((Event.of .recordingDraining).withPath session.path)

/-- Stops a recording. -/
def stop (s : Studio) (graph : Option Graph) : Studio × ToggleOutcome :=
  match s.session with
  | none => (s, .unchanged)
  | some session =>
    if session.state = .active then
      match graph with
      | some _ => (s.drain session, .draining)
      | none => (s.forceStop none, .unchanged)
    else (s, .unchanged)

/-- Starts or stops a recording. -/
def toggle (s : Studio) (on : Bool) (graph : Option Graph) : Studio × ToggleOutcome :=
  if on then s.start graph else s.stop graph

/-! ### Sessions end -/

@[simp] theorem emit_session (s : Studio) (e : Event) : (s.emit e).session = s.session := rfl

@[simp] theorem drive_session (s : Studio) (on : Bool) : (s.drive on).session = s.session := by
  simp only [drive]
  split
  · rfl
  · rfl
  · split <;> rfl

@[simp] theorem announce_session (s : Studio) (on : Bool) :
    (s.announce on).session = s.session := by
  simp only [announce]
  split <;> simp

theorem detach_session (s : Studio) (graph : Option Graph) (reason : String) :
    (s.detach graph reason).session = none := by
  simp only [detach]
  split <;> simp_all

theorem toggle_off_idle {s : Studio} (h : s.session = none) (graph : Option Graph) :
    s.toggle false graph = (s, .unchanged) := by
  simp [toggle, stop, h]

end Studio

end StreamWarden
