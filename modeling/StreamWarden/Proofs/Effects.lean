import Mathlib.Tactic
import StreamWarden.Supervisor.Step

/-!
# What the operations put out

Most of what an operation does besides telling events leaves no trace in the rest of
the state: it writes records to the log, drives the lamp, sets the flag in the shared
file, notes that a deadline is beyond the clock.  `Told s es t` forgets all of that: `t`
is `s` but for the events `es`, for other output, and for the files.  An operation is
then described by one state in record notation and the list of its events.

* `Studio.Told`, `State.Told`: the relation, and its rules (`refl`, `trans`, `events`).
* `Event.change`, `Event.tornDown`, …: the events by their contents.
* `Studio.Act`: all that the recorder can do, as a relation with one constructor for
  each thing; `act_toggle`, `act_detach` and their companions say that its operations
  do nothing else.
-/

namespace StreamWarden

/-! ### The events by their contents -/

namespace Event

/-- The change of phase that an input brings about. -/
def change (source target : Phase) (input : Phase.Input) : Event :=
  match input with
  | .restart cause =>
    (((of .phaseChanged).withTransition source target).withReason input.label).withCause cause
  | _ => ((of .phaseChanged).withTransition source target).withReason input.label

/-- A graph plays. -/
def playing (generation : Nat) : Event := (of .graphPlaying).withGeneration generation

/-- A graph was torn down. -/
def tornDown (generation : Nat) : Event := (of .graphTornDown).withGeneration generation

/-- An attempt failed. -/
def missed (generation attempt : Nat) (e : BuildError) : Event :=
  (((of .buildFailed).withGeneration generation).withAttempt attempt).withReason
    (e.label ++ ": " ++ e.message)

/-- The next attempt follows after a delay. -/
def delayed (attempt delay : Nat) : Event :=
  ((of .backoffScheduled).withAttempt attempt).withDelay delay

/-- A restart begins. -/
def restarting (cause : RestartCause) (generation : Nat) : Event :=
  ((of .restartRequested).withCause cause).withGeneration generation

/-- A restart is folded into another. -/
def coalesced (cause : RestartCause) : Event := (of .restartCoalesced).withCause cause

/-- No frame came for too long. -/
def stalled (generation age : Nat) : Event :=
  ((of .watchdogTimeout).withGeneration generation).withDelay age

/-- A recording is being written. -/
def recording (session : Session) : Event :=
  ((of .recordingStarted).withPath session.path).withStage session.branch.attachPoint

/-- A recording writes out what it holds. -/
def draining (session : Session) : Event := (of .recordingDraining).withPath session.path

/-- A recording is over. -/
def ended (session : Session) (reason : String) : Event :=
  ((of .recordingStopped).withPath session.path).withReason reason

/-- A stage of a recording branch failed. -/
def failed (stage message : String) : Event :=
  ((of .recordingFailed).withStage stage).withReason message

/-- A recording was refused. -/
def refused (e : BranchError) : Event :=
  (of .recordingRefused).withReason (e.label ++ ": " ++ e.message)

/-- A recording was refused because no graph plays. -/
def disarmed : Event := (of .recordingRefused).withReason "pipeline not playing"

/-- A request arrived. -/
def asked (label : String) : Event := (of .controlRequested).withReason label

/-- The event tells of something that changes nothing: neither the phase, nor the
graph, nor the recording.  Only a restart that was asked for is ever folded into
another. -/
def isRemark (e : Event) : Bool :=
  match e.kind with
  | .restartCoalesced => e.cause? == some .external
  | .watchdogTimeout | .graphError | .graphWarning | .graphQos | .graphEndOfStream
  | .recordingRefused | .controlRequested => true
  | _ => false

end Event

/-- Builds a graph and sets it playing; a graph that refuses is torn down. -/
def Backend.raise (b : Backend) (profile : Profile) (context : GraphContext) :
    Backend × Except BuildError Graph :=
  match b.build profile context with
  | (b, .error e) => (b, .error e)
  | (b, .ok graph) =>
    match b.setState graph .playing with
    | (b, .ok graph) => (b, .ok graph)
    | (b, .error e) => (b.teardown graph, .error e)

namespace Host

/-- An attempt to raise a graph makes a probe, and is else a matter of the backend. -/
lemma raise_eq (h : Host) (profile : Profile) (generation : Nat) :
    h.raise profile generation =
      ({ h with
          probes := h.probes ++ [FrameProbe.new h.now]
          backend := (h.backend.raise profile ⟨generation, h.probes.length⟩).1 },
        (h.backend.raise profile ⟨generation, h.probes.length⟩).2) := by
  simp only [raise, build, Backend.raise]
  rcases h.backend.build profile ⟨generation, h.probes.length⟩ with ⟨b, e | graph⟩
  · rfl
  · simp only [newProbe]
    rcases b.setState graph .playing with ⟨b', e | graph'⟩ <;> rfl

end Host

/-! ### The relation on studios -/

namespace Studio

/-- `t` is `s` but for the events `es`, for other output, and for the files. -/
def Told (s : Studio) (es : List Event) (t : Studio) : Prop :=
  ∃ files outs, t = { s with files := files, journal := outs ++ s.journal } ∧
    (outs.filterMap Output.event?).reverse = es

namespace Told

variable {s t u : Studio} {es fs : List Event}

lemma refl (s : Studio) : Told s [] s := ⟨s.files, [], rfl, rfl⟩

lemma events (h : Told s es t) : t.events = s.events ++ es := by
  obtain ⟨files, outs, rfl, rfl⟩ := h
  rw [Host.events, Host.events, List.filterMap_append, List.reverse_append]

lemma trans (h : Told s es t) (h' : Told t fs u) : Told s (es ++ fs) u := by
  obtain ⟨f, os, rfl, rfl⟩ := h
  obtain ⟨f', os', rfl, rfl⟩ := h'
  exact ⟨f', os' ++ os, by rw [List.append_assoc],
    by rw [List.filterMap_append, List.reverse_append]⟩

/-- A quiet operation adds nothing to what was told before. -/
lemma quiet (h : Told s es t) (h' : Told t [] u) : Told s es u := by
  simpa using h.trans h'

end Told

lemma told_emit (s : Studio) (e : Event) : Told s [e] (s.emit e) :=
  ⟨s.files, [.event e], rfl, rfl⟩

lemma told_log (s : Studio) (r : Log.Record) : Told s [] (s.log r) :=
  ⟨s.files, [.record r], rfl, rfl⟩

lemma told_put (s : Studio) {o : Output} (ho : o.event? = none) :
    Told s [] (s.onHost (Host.put · o)) :=
  ⟨s.files, [o], rfl, by rw [List.filterMap_cons_none ho]; rfl⟩

lemma told_schedule (s : Studio) (deadline : Option Nat) :
    Told s [] (s.onHost (Host.schedule · deadline)) := by
  rcases s.schedule_cases deadline with ⟨-, hs⟩ | ⟨-, hs⟩ <;> rw [onHost, hs]
  · exact .refl s
  · exact told_put s rfl

lemma told_files (s : Studio) (tree : Files.Tree) : Told s [] { s with files := tree } :=
  ⟨tree, [], rfl, rfl⟩

lemma told_drive (s : Studio) (on : Bool) : Told s [] (s.drive on) := by
  rw [drive]
  split
  · exact .refl s
  · exact told_put s rfl
  · split
    · exact told_files s _
    · exact told_log s _

lemma told_announce (s : Studio) (on : Bool) : Told s [] (s.announce on) := by
  rw [announce]
  split
  · exact (told_files s _).quiet (told_drive _ on)
  · exact told_drive s on

/-! ### What the recorder can do -/

/-- A session writes or drains; the other states pass within an operation. -/
def Proper (s : Studio) : Prop :=
  ∀ session, s.session = some session → session.state = .active ∨ session.state = .draining

lemma Proper.session_of_idle {s : Studio} (hs : s.Proper) (hi : s.recordingState = .idle) :
    s.session = none := by
  cases hx : s.session with
  | none => rfl
  | some session =>
      have hst : session.state = .idle := by simpa [recordingState, hx] using hi
      rcases hs session hx with h | h <;> simp [h] at hst

/-- The backend when the session has ended on a graph: its branch is detached, if the
graph is still there. -/
def freed (s : Studio) (graph : Option Graph) : Backend :=
  match s.session with
  | some session => if graph.isSome then s.backend.detach session.branch else s.backend
  | none => s.backend

/-- What is told when the session ends. -/
def lastWords (s : Studio) (reason : String) : List Event :=
  s.session.toList.map (Event.ended · reason)

/-- A session ends by itself at `now` for this reason: its drain is over, or it is forced to
because its graph is gone. -/
def EndsFor (s : Studio) (graph : Option Graph) (now : Nat) (reason : String) : Prop :=
  reason = "forced" ∧ graph = none ∨ reason = "drained" ∧ s.isDrained now = true

/-- What the recorder can do at once on a graph, at an instant, and what it tells
thereby. -/
inductive Act (graph : Option Graph) (now : Nat) : Studio → List Event → Studio → Prop where
  /-- It only says something. -/
  | remark {s t : Studio} {es : List Event} (hes : ∀ e ∈ es, e.kind = .recordingRefused)
      (h : Told s es t) : Act graph now s es t
  /-- It asks for a branch in vain. -/
  | refuse {s t : Studio} {g : Graph} {path : String} {b : Backend} {e : BranchError}
      (hg : graph = some g) (ha : s.armed = true) (hs : s.session = none)
      (hb : s.backend.attach g { session := s.sessionsStarted + 1, location := path }
        = (b, .error e))
      (h : Told { s with sessionsStarted := s.sessionsStarted + 1, backend := b }
        [.refused e] t) :
      Act graph now s [.refused e] t
  /-- It is given a branch that does not run, and gives it back. -/
  | giveBack {s t : Studio} {g : Graph} {path : String} {b b' : Backend}
      {branch : Branch} {e : BranchError}
      (hg : graph = some g) (ha : s.armed = true) (hs : s.session = none)
      (hb : s.backend.attach g { session := s.sessionsStarted + 1, location := path }
        = (b, .ok branch))
      (hb' : b.activate = (b', .error e))
      (h : Told { s with
          sessionsStarted := s.sessionsStarted + 1
          backend := b'.detach branch } [.refused e] t) :
      Act graph now s [.refused e] t
  /-- It begins a session. -/
  | begin {s t : Studio} {g : Graph} {path : String} {b b' : Backend} {branch : Branch}
      {session : Session} (hg : graph = some g) (ha : s.armed = true) (hs : s.session = none)
      (hb : s.backend.attach g { session := s.sessionsStarted + 1, location := path }
        = (b, .ok branch))
      (hb' : b.activate = (b', .ok ()))
      (hn : session = { id := s.sessionsStarted + 1, path, branch, state := .active })
      (h : Told { s with
          sessionsStarted := s.sessionsStarted + 1
          backend := b'
          session := some session } [.recording session] t) :
      Act graph now s [.recording session] t
  /-- It drains a session. -/
  | drain {s t : Studio} {session : Session} (hg : graph.isSome = true)
      (hs : s.session = some session) (ha : session.state = .active)
      (h : Told { s with
          backend := s.backend.beginDrain
          session := some { session with
            state := .draining
            drainDeadline := some (s.now + s.drainGrace) } } [.draining session] t) :
      Act graph now s [.draining session] t
  /-- A stage of the branch has failed, which ends the session. -/
  | fail {s t : Studio} {session : Session} {stage message : String}
      (hs : s.session = some session)
      (h : Told { s with
          session := none
          backend := s.freed graph } [.failed stage message, .ended session "forced"] t) :
      Act graph now s [.failed stage message, .ended session "forced"] t
  /-- It ends a session. -/
  | finish {s t : Studio} {session : Session} {reason : String}
      (hs : s.session = some session) (hr : s.EndsFor graph now reason)
      (h : Told { s with
          session := none
          backend := s.freed graph } [.ended session reason] t) :
      Act graph now s [.ended session reason] t

namespace Act

variable {graph : Option Graph} {now : Nat} {s t u : Studio} {es : List Event}

lemma idle (h : Told s [] t) : Act graph now s [] t := .remark (by simp) h

/-- What an act tells comes after all that was told before. -/
lemma events (h : Act graph now s es t) : t.events = s.events ++ es := by
  cases h with
  | remark _ h | refuse _ _ _ _ h | giveBack _ _ _ _ _ h | begin _ _ _ _ _ _ h
  | drain _ _ _ h | fail _ h | finish _ _ h =>
      have he := h.events
      exact he

/-- No act arms or disarms the recorder. -/
lemma armed_eq (h : Act graph now s es t) : t.armed = s.armed := by
  cases h with
  | remark _ h | refuse _ _ _ _ h | giveBack _ _ _ _ _ h | begin _ _ _ _ _ _ h
  | drain _ _ _ h | fail _ h | finish _ _ h =>
      obtain ⟨files, outs, rfl, -⟩ := h
      rfl

/-- No act touches the frame probes. -/
lemma probes_eq (h : Act graph now s es t) : t.probes = s.probes := by
  cases h with
  | remark _ h | refuse _ _ _ _ h | giveBack _ _ _ _ _ h | begin _ _ _ _ _ _ h
  | drain _ _ _ h | fail _ h | finish _ _ h =>
      obtain ⟨files, outs, rfl, -⟩ := h
      rfl

/-- No act takes time. -/
lemma now_eq (h : Act graph now s es t) : t.now = s.now := by
  cases h with
  | remark _ h | refuse _ _ _ _ h | giveBack _ _ _ _ _ h | begin _ _ _ _ _ _ h
  | drain _ _ _ h | fail _ h | finish _ _ h =>
      obtain ⟨files, outs, rfl, -⟩ := h
      rfl

/-- Sessions write or drain after every act. -/
lemma proper (h : Act graph now s es t) (hs : s.Proper) : t.Proper := by
  cases h with
  | remark _ h | refuse _ _ _ _ h | giveBack _ _ _ _ _ h =>
      obtain ⟨files, outs, rfl, -⟩ := h
      exact hs
  | begin _ _ _ _ _ hn h =>
      obtain ⟨files, outs, rfl, -⟩ := h
      rintro _ ⟨⟩
      exact .inl (by rw [hn])
  | drain _ _ _ h =>
      obtain ⟨files, outs, rfl, -⟩ := h
      rintro _ ⟨⟩
      exact .inr rfl
  | fail _ h | finish _ _ h =>
      obtain ⟨files, outs, rfl, -⟩ := h
      rintro _ ⟨⟩

/-- A session that was not there before needs a graph. -/
lemma session_or (h : Act graph now s es t) (ht : t.session.isSome = true) :
    s.session.isSome = true ∨ graph.isSome = true := by
  cases h with
  | remark _ h | refuse _ _ _ _ h | giveBack _ _ _ _ _ h =>
      obtain ⟨files, outs, rfl, -⟩ := h
      exact .inl ht
  | begin hg _ _ _ _ _ h => exact .inr (by rw [hg]; rfl)
  | drain _ hs _ h => exact .inl (by rw [hs]; rfl)
  | fail _ h | finish _ _ h =>
      obtain ⟨files, outs, rfl, -⟩ := h
      simp at ht

end Act

/-! ### The operations of the recorder -/

section Operations

variable {graph : Option Graph} {now : Nat} {s : Studio} {session : Session}

lemma detach_of_none (hs : s.session = none) (graph : Option Graph) (reason : String) :
    s.detach graph reason = s := by
  simp [detach, hs]

lemma told_detach (hs : s.session = some session) (graph : Option Graph) (reason : String) :
    Told { s with session := none, backend := s.freed graph } [.ended session reason]
      (s.detach graph reason) := by
  have hb : s.freed graph
      = if graph.isSome then s.backend.detach session.branch else s.backend := by
    rw [freed, hs]
  rw [hb, detach, hs]
  exact (told_announce _ false).trans (told_emit _ _)

lemma without_session (hs : s.session = none) : { s with session := none } = s := by
  cases s
  cases hs
  rfl

/-- To force the session to its end is the same with and without one. -/
lemma told_forceStop (s : Studio) (graph : Option Graph) :
    Told { s with session := none, backend := s.freed graph } (s.lastWords "forced")
      (s.forceStop graph) := by
  cases hs : s.session with
  | none =>
      have hf : s.forceStop graph = s := detach_of_none hs graph "forced"
      have hb : s.freed graph = s.backend := by rw [freed, hs]
      rw [hf, hb, without_session hs, lastWords, hs]
      exact .refl s
  | some session =>
      rw [lastWords, hs]
      exact told_detach hs graph "forced"

lemma act_detach (hs : s.session = some session) {reason : String}
    (hr : s.EndsFor graph now reason) :
    Act graph now s [.ended session reason] (s.detach graph reason) :=
  .finish hs hr (told_detach hs graph reason)

/-- A failure in a branch is told, and then the session ends. -/
lemma told_branchError (hs : s.session = some session) (stage message : String)
    (graph : Option Graph) :
    Told { s with session := none, backend := s.freed graph }
      [.failed stage message, .ended session "forced"] (s.branchError stage message graph) :=
  (told_emit { s with session := none, backend := s.freed graph } _).trans
    (told_detach (s := s.emit (.failed stage message)) hs graph "forced")

lemma act_branchError (hs : s.session = some session) (stage message : String)
    (graph : Option Graph) (now : Nat) :
    Act graph now s [.failed stage message, .ended session "forced"]
      (s.branchError stage message graph) :=
  .fail hs (told_branchError hs stage message graph)

/-- The end of a drain is the end of a session or nothing at all. -/
lemma act_finishDrain (s : Studio) (now : Nat) (graph : Option Graph) :
    ∃ es, Act graph now s es (s.finishDrain now graph) := by
  rw [finishDrain]
  split
  case isTrue h =>
    cases hs : s.session with
    | none => exact ⟨[], by rw [detach_of_none hs]; exact .idle (.refl s)⟩
    | some session => exact ⟨_, act_detach hs (.inr ⟨rfl, h⟩)⟩
  case isFalse => exact ⟨[], .idle (.refl s)⟩

lemma act_refuse (s : Studio) (e : BranchError) :
    Act graph now s [.refused e] (s.refuse e).1 :=
  .remark (by simp [Event.refused, Event.of, Event.withReason]) (told_emit _ _)

lemma act_refuseDisarmed (s : Studio) : Act graph now s [.disarmed] s.refuseDisarmed.1 :=
  .remark (by simp [Event.disarmed, Event.of, Event.withReason]) (told_emit _ _)

/-- To record is to begin a session, or to ask for a branch in vain. -/
lemma act_record {g : Graph} (hg : graph = some g) (ha : s.armed = true)
    (hs : s.session = none) (path : String) :
    ∃ es, Act graph now s es (s.record g path).1 := by
  rcases hb : s.backend.attach g { session := s.sessionsStarted + 1, location := path }
    with ⟨b, e | branch⟩
  · refine ⟨_, .refuse hg ha hs hb ?_⟩
    simp only [record, hb]
    exact told_emit _ _
  · rcases hb' : b.activate with ⟨b', e | ⟨⟩⟩
    · refine ⟨_, .giveBack hg ha hs hb hb' ?_⟩
      simp only [record, hb, hb']
      exact told_emit _ _
    · refine ⟨_, .begin hg ha hs hb hb' rfl ?_⟩
      simp only [record, hb, hb']
      exact (told_announce _ true).trans (told_emit _ _)

lemma act_startOn {g : Graph} (hg : graph = some g) (ha : s.armed = true)
    (hs : s.session = none) : ∃ es, Act graph now s es (s.startOn g).1 := by
  rw [startOn]
  split
  · exact ⟨_, act_refuse s _⟩
  · exact act_record hg ha hs _

lemma act_start (hs : s.Proper) (graph : Option Graph) (now : Nat) :
    ∃ es, Act graph now s es (s.start graph).1 := by
  simp only [start]
  split
  case h_5 hi =>
    have hn := hs.session_of_idle hi
    cases graph with
    | none => exact ⟨_, act_refuseDisarmed s⟩
    | some g =>
        cases ha : s.armed with
        | true => exact act_startOn rfl ha hn
        | false => exact ⟨_, act_refuseDisarmed s⟩
  all_goals exact ⟨[], .idle (.refl s)⟩

lemma told_drain (s : Studio) (session : Session) :
    Told { s with
        backend := s.backend.beginDrain
        session := some { session with
          state := .draining
          drainDeadline := some (s.now + s.drainGrace) } } [.draining session]
      (s.drain session) :=
  (told_schedule _ _).trans (told_emit _ _)

lemma act_stop (s : Studio) (graph : Option Graph) (now : Nat) :
    ∃ es, Act graph now s es (s.stop graph).1 := by
  rw [stop]
  cases hs : s.session with
  | none => exact ⟨[], .idle (.refl s)⟩
  | some session =>
      by_cases ha : session.state = .active
      · cases graph with
        | none =>
            simp only [ha, if_true]
            exact ⟨_, act_detach hs (.inl ⟨rfl, rfl⟩)⟩
        | some g =>
            simp only [ha, if_true]
            exact ⟨_, .drain rfl hs ha (told_drain s session)⟩
      · simp only [ha, if_false]
        exact ⟨[], .idle (.refl s)⟩

/-- A toggle is one act of the recorder. -/
lemma act_toggle (hs : s.Proper) (on : Bool) (graph : Option Graph) (now : Nat) :
    ∃ es, Act graph now s es (s.toggle on graph).1 := by
  cases on with
  | true => exact act_start hs graph now
  | false => exact act_stop s graph now

end Operations

end Studio

end StreamWarden
