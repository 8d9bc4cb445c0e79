import StreamWarden.Supervisor.State

/-!
# The steps of a supervisor

How a supervisor answers a request, a status message and the passing of time.
Each step is a function of the state; what it puts out goes into the journal.

* `onRequest`, `onStatus` and `onWake` are the three steps.
* `phase_transition`: a transition moves the phase as the table says.
-/

namespace StreamWarden.Supervisor.State

/-- Moves to the next phase; an input that does not apply is noted in the log. -/
def transition (s : State) (input : Phase.Input) : State :=
  match s.phase.next? input with
  | none =>
    s.log .debug "input does not apply"
      [("phase", .shown s.phase.label), ("input", .text input.label)]
  | some target =>
    let event := ((Event.of .phaseChanged).withTransition s.phase target).withReason input.label
    emit { s with phase := target }
      (match input with
        | .restart cause => event.withCause cause
        | _ => event)

/-- An input applies in the present phase. -/
def applies (s : State) (input : Phase.Input) : Bool := (s.phase.next? input).isSome

/-- Tells the host of a deadline. -/
def schedule (s : State) (deadline : Option Nat) : State :=
  s.onHost (Host.schedule · deadline)

theorem schedule_of_lt {s : State} {deadline : Option Nat} (hd : ∀ d ∈ deadline, d < s.horizon) :
    s.schedule deadline = s :=
  congrArg (fun h => s.onHost fun _ => h) (Host.schedule_of_lt hd)

theorem schedule_of_le {s : State} {deadline : Option Nat} (hd : ∃ d ∈ deadline, s.horizon ≤ d) :
    s.schedule deadline = s.onHost (Host.put · (.excess .instant)) :=
  congrArg (fun h => s.onHost fun _ => h) (Host.schedule_of_le hd)

theorem schedule_cases (s : State) (deadline : Option Nat) :
    (∀ d ∈ deadline, d < s.horizon) ∧ s.schedule deadline = s ∨
      (∃ d ∈ deadline, s.horizon ≤ d) ∧
        s.schedule deadline = s.onHost (Host.put · (.excess .instant)) := by
  rcases s.toHost.schedule_cases deadline with ⟨hd, -⟩ | ⟨hd, -⟩
  · exact .inl ⟨hd, schedule_of_lt hd⟩
  · exact .inr ⟨hd, schedule_of_le hd⟩

/-! ### Building -/

/-- A graph plays: failures are forgotten, and the watchdog and the recorder are
armed. -/
def enterPlaying (s : State) (graph : Graph) : State :=
  let s := { s with
    graph := some graph
    watched := s.generation
    buildFailures := 0
    restartPending := none }
  let s := (s.emit ((Event.of .graphPlaying).withGeneration s.generation)).transition .buildOk
  let s := { s with watchdog := s.watchdog.arm s.now }
  (s.schedule s.watchdog.deadline).onStudio Studio.arm

/-- An attempt has failed: the next one follows after the retry delay. -/
def enterBackoff (s : State) (e : BuildError) : State :=
  let attempt := min (s.buildFailures + 1) Event.maxShortCount
  let draw := s.draws s.generation
  let s :=
    if (s.retry.next? (attempt - 1) draw).isSome then s
    else s.onHost (Host.put · (.excess .wait))
  let delay := s.retry.next (attempt - 1) draw
  let s := { s with buildFailures := attempt }
  let s := s.emit ((((Event.of .buildFailed).withGeneration s.generation).withAttempt
    attempt).withReason (e.label ++ ": " ++ e.message))
  let s := s.transition .buildFailed
  let s := { s with wakeAt := some (s.now + delay) }
  (s.schedule s.wakeAt).emit (((Event.of .backoffScheduled).withAttempt attempt).withDelay delay)

/-- Builds a graph and sets it playing. -/
def attempt (s : State) : State :=
  let s := { s with generation := s.generation + 1 }
  let (host, result) := s.toHost.raise s.profile s.generation
  let s := s.onHost fun _ => host
  match result with
  | .ok graph => s.enterPlaying graph
  | .error e => s.enterBackoff e

/-! ### Tearing down -/

/-- Ends the recording and tears the graph down. -/
def teardown (s : State) : State :=
  let s := { s with watchdog := s.watchdog.disarm }
  let s := s.onStudio fun studio => (studio.forceStop s.graph).disarm
  match s.graph with
  | none => s
  | some graph =>
    let s := onHost { s with graph := none } fun h =>
      { h with backend := h.backend.teardown graph }
    s.emit ((Event.of .graphTornDown).withGeneration s.generation)

/-- Replaces the graph; while a rebuild is on its way, there is nothing to do. -/
def restart (s : State) (cause : RestartCause) : State :=
  if s.phase = .running then
    let s := s.emit (((Event.of .restartRequested).withCause cause).withGeneration s.generation)
    let s := { s with restartPending := some cause }
    let s := (s.transition (.restart cause)).teardown
    let s := { s with wakeAt := some (s.now + s.settleDelay) }
    s.schedule s.wakeAt
  else if s.restartPending.isSome || s.phase.rebuildPending then
    s.emit ((Event.of .restartCoalesced).withCause cause)
  else
    s.log .debug "restart ignored"
      [("phase", .shown s.phase.label), ("cause", .shown cause.label)]

/-- Ends the run, as soon as nothing is left to be torn down. -/
def stop (s : State) : State :=
  let applies := s.applies .stop
  let s := s.transition .stop
  let s :=
    if applies then
      (teardown { s with wakeAt := none, restartPending := none }).transition .teardownDone
    else s
  if s.phase = .stopped then { s with exited := true } else s

/-! ### The three steps -/

/-- Whether a toggle is to start a recording. -/
def wantsRecording (s : State) : Bool :=
  match s.recordingState with
  | .active | .attaching => false
  | _ => true

/-- Starts or stops the recording. -/
def toggleRecording (s : State) : State :=
  let on := s.wantsRecording
  let (studio, outcome) := s.toStudio.toggle on s.graph
  (s.onStudio fun _ => studio).log .debug "recording toggled"
    [("on", .flag on), ("outcome", .shown outcome.detail)]

/-- Answers a request. -/
def onRequest (s : State) (r : Request) : State :=
  let s := s.emit ((Event.of .controlRequested).withReason r.label)
  match r with
  | .start =>
    let applies := s.applies .start
    let s := s.transition .start
    if applies then s.attempt else s
  | .stop => s.stop
  | .restart => s.restart .external
  | .toggleRecording => s.toggleRecording

/-- Puts out what the monitor has to tell. -/
def tell (s : State) (f : Monitor.Finding) : State :=
  s.onHost fun h =>
    let h := (f.event?.map h.emit).getD h
    (f.record?.map h.log).getD h

/-- Answers a status message. -/
def onStatus (s : State) (m : StatusMessage) : State :=
  let finding := Monitor.judge s.view m
  let s := s.tell finding
  match finding.reaction with
  | .restart cause => s.restart cause
  | .stopRecording stage message =>
    s.onStudio fun studio => studio.branchError stage message s.graph
  | .ignore => s

/-- The input that the end of a delay stands for. -/
def delayInput? : Phase → Option Phase.Input
  | .backoffWait => some .retryElapsed
  | .restarting => some .settleElapsed
  | _ => none

/-- Ends a retry delay or a settle delay that is over. -/
def endDelay (s : State) : State :=
  if s.wakeAt.any (· ≤ s.now) then
    let s := { s with wakeAt := none }
    match delayInput? s.phase with
    | none => s
    | some input =>
      let applies := s.applies input
      let s := s.transition input
      if applies then s.attempt else s
  else s

/-- Looks after the frames. -/
def watch (s : State) : State :=
  let (watchdog, verdict) := s.watchdog.check s.now (s.probe s.watched)
  let s := { s with watchdog := watchdog }
  let s := if verdict.isSome then s.schedule watchdog.deadline else s
  match verdict with
  | some (.stalled age) =>
    (s.emit (((Event.of .watchdogTimeout).withGeneration s.generation).withDelay age)).restart
      .watchdog
  | some .noFrameYet =>
    s.log .trace "no frame observed yet" [("generation", .count s.generation)]
  | _ => s

/-- Does what is due: ends a drain, then a delay, and then looks after the
frames. -/
def onWake (s : State) : State :=
  let s := s.onStudio fun studio => studio.finishDrain s.now s.graph
  s.endDelay.watch

/-! ### The phase follows the table -/

@[simp] theorem phase_emit (s : State) (e : Event) : (s.emit e).phase = s.phase := rfl

@[simp] theorem phase_log (s : State) (level : Log.Level) (message : String)
    (fields : List (String × Log.Value)) : (s.log level message fields).phase = s.phase := rfl

@[simp] theorem phase_schedule (s : State) (deadline : Option Nat) :
    (s.schedule deadline).phase = s.phase := rfl

theorem phase_transition (s : State) (input : Phase.Input) :
    (s.transition input).phase = s.phase.after input := by
  simp only [transition, Phase.after]
  split <;> simp_all

end StreamWarden.Supervisor.State
