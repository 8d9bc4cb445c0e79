import StreamWarden.Proofs.Run
import StreamWarden.Proofs.Steps

/-!
# What a supervisor can do

A supervisor does one of a few things at a time.  They are the constructors of `Move`,
each with the state to which it leads and the events that it tells.  No move takes time,
and an answer to a stimulus other than the passing of time is a sequence of moves
(`moves_react`).  What time and every move keep is therefore kept by every run, and has to
be looked at once for each kind of move.

* `Move`, `Moves`: one move, and several in a row with all their events.
* `Settled`: how the pieces of the state hang together between two moves
  (`Move.settled`); the recorder and the restarts rely on it, so that it comes before
  `moves_react`.
* `run_settled`: every run stays settled; `run_keeps`: so does all that moves keep.
-/

namespace StreamWarden.Supervisor

open State

/-! ### Moves -/

/-- One thing that a supervisor can do, with the events that it tells, or that its
surroundings can do to it. -/
inductive Move : State → List Event → State → Prop where
  /-- It only says something. -/
  | remark {s t : State} {es : List Event} (hes : ∀ e ∈ es, e.isRemark = true)
      (h : Told s es t) : Move s es t
  /-- Its recorder does something. -/
  | record {s : State} {es : List Event} {a : Studio}
      (h : Studio.Act s.graph s.now s.toStudio es a) : Move s es (s.onStudio fun _ => a)
  /-- It has looked after the frames, as it was time to, and will look again. -/
  | look {s t : State} (hd : s.watchdog.isDue s.now = true)
      (h : Told { s with watchdog := s.watchdog.arm s.now } [] t) : Move s [] t
  /-- It builds a graph, which plays; the delay before the attempt is over. -/
  | launch {s t : State} {input : Phase.Input} {b : Backend} {graph : Graph}
      (hx : s.exited = false) (hn : s.phase.next? input = some .starting)
      (ha : s.answerOf = (b, .ok graph))
      (h : Told { s.launched b graph with wakeAt := none }
        [.change s.phase .starting input, .playing (s.generation + 1),
          .change .starting .running .buildOk] t)
      (hw : ∀ d ∈ s.wakeAt, d ≤ s.now) :
      Move s [.change s.phase .starting input, .playing (s.generation + 1),
        .change .starting .running .buildOk] t
  /-- It tries to build a graph in vain; the delay before the attempt is over. -/
  | miss {s t : State} {input : Phase.Input} {b : Backend} {e : BuildError}
      (hx : s.exited = false) (hn : s.phase.next? input = some .starting)
      (ha : s.answerOf = (b, .error e))
      (h : Told (s.parked b) [.change s.phase .starting input, .missed (s.generation + 1) s.tries e,
        .change .starting .backoffWait .buildFailed, .delayed s.tries (s.tried b).pause] t)
      (hw : ∀ d ∈ s.wakeAt, d ≤ s.now) :
      Move s [.change s.phase .starting input, .missed (s.generation + 1) s.tries e,
        .change .starting .backoffWait .buildFailed, .delayed s.tries (s.tried b).pause] t
  /-- It takes its graph down to build another. -/
  | restart {s t : State} {cause : RestartCause} (hp : s.phase = .running)
      (h : Told (s.replacing cause) ([.restarting cause s.generation,
        .change .running .restarting (.restart cause)] ++ s.parting) t) :
      Move s ([.restarting cause s.generation,
        .change .running .restarting (.restart cause)] ++ s.parting) t
  /-- It takes all down. -/
  | stop {s t : State} (hn : s.phase.next? .stop = some .stopping)
      (h : Told s.ended ([.change s.phase .stopping .stop] ++ s.parting ++
        [.change .stopping .stopped .teardownDone]) t) :
      Move s ([.change s.phase .stopping .stop] ++ s.parting ++
        [.change .stopping .stopped .teardownDone]) t
  /-- It ends without having begun. -/
  | leave {s t : State} (hp : s.phase = .stopped)
      (h : Told { s with exited := true } [] t) : Move s [] t
  /-- A frame passes a probe. -/
  | frame (s : State) (number : Nat) : Move s [] (s.onHost (Host.markProbe · number))
  /-- Other calls of the backend will be refused. -/
  | script (s : State) (script : Script) : Move s [] (s.follow script)

/-- Several moves in a row, with all events. -/
inductive Moves : State → List Event → State → Prop where
  | none (s : State) : Moves s [] s
  | cons {s t u : State} {es fs : List Event} (h : Move s es t) (h' : Moves t fs u) :
      Moves s (es ++ fs) u

namespace Moves

variable {s t u : State} {es fs : List Event}

lemma one (h : Move s es t) : Moves s es t := by simpa using cons h (none t)

lemma trans (h : Moves s es t) (h' : Moves t fs u) : Moves s (es ++ fs) u := by
  induction h with
  | none => exact h'
  | cons h _ ih =>
      rw [List.append_assoc]
      exact .cons h (ih h')

end Moves

/-! ### The pieces of a state hang together -/

/-- **A settled state**: no build and no teardown is under way; a graph is held, the
watchdog is armed and the recorder is armed exactly while the stream runs; there is a
deadline for the next build exactly while the stream waits for one; a restart is pending
only in a wait, and always after a restart; a session writes or drains, and that only
while the stream runs; and a run that is over is stopped. -/
structure Settled (s : State) : Prop where
  phase : s.phase = .stopped ∨ s.phase = .running ∨ s.phase = .restarting ∨
    s.phase = .backoffWait
  graph : s.graph.isSome = true ↔ s.phase = .running
  watchdog : s.watchdog.isArmed = true ↔ s.phase = .running
  armed : s.armed = true ↔ s.phase = .running
  wakeAt : s.wakeAt.isSome = true ↔ s.phase = .restarting ∨ s.phase = .backoffWait
  pending : s.phase = .restarting → s.restartPending.isSome = true
  waiting : s.restartPending.isSome = true → s.phase = .restarting ∨ s.phase = .backoffWait
  session : s.session.isSome = true → s.phase = .running
  proper : s.toStudio.Proper
  exited : s.exited = true → s.phase = .stopped

namespace Settled

variable {s t : State} {es : List Event}

/-- What is told does not matter. -/
lemma told (hs : Settled s) (h : Told s es t) : Settled t := by
  obtain ⟨files, outs, rfl, -⟩ := h
  exact ⟨hs.phase, hs.graph, hs.watchdog, hs.armed, hs.wakeAt, hs.pending, hs.waiting,
    hs.session, hs.proper, hs.exited⟩

lemma graph_eq_none (hs : Settled s) (hp : s.phase ≠ .running) : s.graph = none := by
  rw [← Option.not_isSome_iff_eq_none, hs.graph]
  exact hp

lemma session_eq_none (hs : Settled s) (hp : s.phase ≠ .running) : s.session = none := by
  rw [← Option.not_isSome_iff_eq_none]
  exact fun h => hp (hs.session h)

lemma armed_eq_false (hs : Settled s) (hp : s.phase ≠ .running) : s.armed = false :=
  Bool.eq_false_iff.2 fun h => hp (hs.armed.1 h)

lemma deadline_eq_none (hs : Settled s) (hp : s.phase ≠ .running) :
    s.watchdog.deadline = none := by
  rw [← Option.not_isSome_iff_eq_none]
  exact fun h => hp (hs.watchdog.1 h)

/-- No build is due unless the stream waits for one. -/
lemma wakeAt_eq_none (hs : Settled s) (hp : s.phase = .stopped ∨ s.phase = .running) :
    s.wakeAt = none := by
  rw [← Option.not_isSome_iff_eq_none, hs.wakeAt]
  rcases hp with hp | hp <;> simp [hp]

/-- No restart is pending unless the stream waits for a build. -/
lemma restartPending_eq_none (hs : Settled s) (hp : s.phase = .stopped ∨ s.phase = .running) :
    s.restartPending = none := by
  rw [← Option.not_isSome_iff_eq_none]
  intro h
  rcases hs.waiting h with h | h <;> rcases hp with hp | hp <;> simp [hp] at h

lemma exited_eq_false (hs : Settled s) (hp : s.phase ≠ .stopped) : s.exited = false :=
  Bool.eq_false_iff.2 fun hx => hp (hs.exited hx)

/-- Only what is stopped can start. -/
lemma next_start (hs : Settled s) (hp : s.phase ≠ .stopped) : s.phase.next? .start = none := by
  rcases hs.phase with h | h | h | h
  · exact absurd h hp
  all_goals rw [h]; rfl

/-- All else can stop. -/
lemma next_stop (hs : Settled s) (hp : s.phase ≠ .stopped) :
    s.phase.next? .stop = some .stopping := by
  rcases hs.phase with h | h | h | h
  · exact absurd h hp
  all_goals rw [h]; rfl

/-- A graph that is alive plays. -/
lemma running_of_live (hs : Settled s) {g : Nat} (hg : s.liveGeneration = some g) :
    s.phase = .running := by
  obtain ⟨graph, h, -⟩ := Option.map_eq_some_iff.1 hg
  exact hs.graph.1 (by rw [h]; rfl)

/-- While the stream runs, its latest graph is alive. -/
lemma live_of_running (hs : Settled s) (hp : s.phase = .running) :
    s.liveGeneration = some s.generation := by
  obtain ⟨graph, h⟩ := Option.isSome_iff_exists.1 (hs.graph.2 hp)
  rw [liveGeneration, h]
  rfl

/-- Another studio, with the recorder armed as before and a proper session on a graph. -/
lemma studio (hs : Settled s) {a : Studio} (ha : a.armed = s.armed) (hp : a.Proper)
    (hr : a.session.isSome = true → s.phase = .running) :
    Settled (s.onStudio fun _ => a) :=
  ⟨hs.phase, hs.graph, hs.watchdog, ha ▸ hs.armed, hs.wakeAt, hs.pending, hs.waiting, hr, hp,
    hs.exited⟩

/-- Another clock, other probes, another backend. -/
lemma host (hs : Settled s) (f : Host → Host) : Settled (s.onHost f) :=
  hs.studio rfl hs.proper hs.session

lemma act (hs : Settled s) {a : Studio} (h : Studio.Act s.graph s.now s.toStudio es a) :
    Settled (s.onStudio fun _ => a) := by
  refine hs.studio h.armed_eq (h.proper hs.proper) fun hn => ?_
  rcases h.session_or hn with hn | hg
  · exact hs.session hn
  · exact hs.graph.1 hg

lemma look (hs : Settled s) (hw : s.watchdog.isArmed = true) :
    Settled { s with watchdog := s.watchdog.arm s.now } :=
  { hs with watchdog := by simpa [Watchdog.isArmed, Watchdog.arm] using hs.watchdog.1 hw }

lemma launched (hs : Settled s) (hx : s.exited = false) (b : Backend) (graph : Graph) :
    Settled { s.launched b graph with wakeAt := none } where
  phase := .inr (.inl rfl)
  graph := by simp [State.launched]
  watchdog := by simp [State.launched, Watchdog.isArmed, Watchdog.arm]
  armed := by simp [State.launched]
  wakeAt := by simp [State.launched]
  pending := by simp [State.launched]
  waiting := by simp [State.launched]
  session := by simp [State.launched]
  proper := hs.proper
  exited := by simp [State.launched, State.tried, hx]

lemma parked (hs : Settled s) (hx : s.exited = false) (hp : s.phase ≠ .running)
    (b : Backend) : Settled (s.parked b) where
  phase := .inr (.inr (.inr rfl))
  graph := by simp [State.parked, State.tried, hs.graph_eq_none hp]
  watchdog := by simpa [State.parked, State.tried] using fun h => hp (hs.watchdog.1 h)
  armed := by simpa [State.parked, State.tried] using fun h => hp (hs.armed.1 h)
  wakeAt := by simp [State.parked]
  pending := by simp [State.parked]
  waiting := by simp [State.parked]
  session := by simp [State.parked, State.tried, hs.session_eq_none hp]
  proper := hs.proper
  exited := by simp [State.parked, State.tried, hx]

lemma replacing (hs : Settled s) (hp : s.phase = .running) (cause : RestartCause) :
    Settled (s.replacing cause) where
  phase := .inr (.inr (.inl rfl))
  graph := by simp [State.replacing, dismantled]
  watchdog := by simp [State.replacing, dismantled, Watchdog.isArmed, Watchdog.disarm]
  armed := by simp [State.replacing, dismantled]
  wakeAt := by simp [State.replacing]
  pending := by simp [State.replacing]
  waiting := by simp [State.replacing]
  session := by simp [State.replacing, dismantled]
  proper := by simp [State.replacing, dismantled, Studio.Proper]
  exited := by
    intro h
    have hx : s.phase = .stopped := hs.exited h
    simp [hp] at hx

lemma ended (s : State) : Settled s.ended where
  phase := .inl rfl
  graph := by simp [State.ended, dismantled]
  watchdog := by simp [State.ended, dismantled, Watchdog.isArmed, Watchdog.disarm]
  armed := by simp [State.ended, dismantled]
  wakeAt := by simp [State.ended]
  pending := by simp [State.ended]
  waiting := by simp [State.ended]
  session := by simp [State.ended, dismantled]
  proper := by simp [State.ended, dismantled, Studio.Proper]
  exited := fun _ => rfl

end Settled

/-- **Every move leads from a settled state to a settled state.** -/
theorem Move.settled {s t : State} {es : List Event} (h : Move s es t) (hs : Settled s) :
    Settled t := by
  cases h with
  | remark _ h => exact hs.told h
  | record h => exact hs.act h
  | look hd h => exact (hs.look (Watchdog.isArmed_of_isDue hd)).told h
  | launch hx _ _ h => exact (hs.launched hx _ _).told h
  | miss hx hn _ h => exact (hs.parked hx (Phase.ne_running_of_next hn) _).told h
  | restart hp h => exact (hs.replacing hp _).told h
  | stop _ h => exact (Settled.ended s).told h
  | leave hp h =>
      have hl : Settled { s with exited := true } := { hs with exited := fun _ => hp }
      exact hl.told h
  | frame => exact hs.host _
  | script => exact hs.host _

theorem Moves.settled {s t : State} {es : List Event} (h : Moves s es t) (hs : Settled s) :
    Settled t := by
  induction h with
  | none => exact hs
  | cons h _ ih => exact ih (h.settled hs)

/-! ### The operations are moves -/

section Operations

variable {s : State}

/-- Where no graph plays, a restart has been asked for. -/
lemma moves_restart {cause : RestartCause} (hc : s.phase = .running ∨ cause = .external) :
    ∃ es, Moves s es (s.restart cause) := by
  by_cases hp : s.phase = .running
  · exact ⟨_, .one (.restart hp (told_restart hp cause))⟩
  · obtain rfl := hc.resolve_left hp
    by_cases hr : (s.restartPending.isSome || s.phase.rebuildPending) = true
    · exact ⟨_, .one (.remark (by decide) (told_restart_of_pending hp hr .external))⟩
    · exact ⟨_, .one (.remark (by simp) (told_restart_of_idle hp hr .external))⟩

/-- In a settled state nothing is in the way of a stop. -/
lemma moves_stop (hs : Settled s) : ∃ es, Moves s es s.stop := by
  by_cases hp : s.phase = .stopped
  · exact ⟨_, .one (.leave hp (told_stop_of_stopped hp))⟩
  · exact ⟨_, .one (.stop (hs.next_stop hp) (told_stop (hs.next_stop hp)))⟩

/-- An attempt that an input allows, when no delay is left to wait for. -/
lemma moves_attempt (hx : s.exited = false) {input : Phase.Input}
    (hn : s.phase.next? input = some .starting) (hw : ∀ d ∈ s.wakeAt, d ≤ s.now) :
    ∃ es, Moves s es ({ s with wakeAt := none }.transition input).attempt := by
  rcases ha : s.answerOf with ⟨b, e | graph⟩
  · exact ⟨_, .one (.miss hx hn ha (told_miss (s := { s with wakeAt := none }) hn ha) hw)⟩
  · exact ⟨_, .one (.launch hx hn ha (told_launch (s := { s with wakeAt := none }) hn ha) hw)⟩

lemma moves_start (hs : Settled s) (hx : s.exited = false) :
    ∃ es, Moves s es
      (if s.applies .start then (s.transition .start).attempt else s.transition .start) := by
  by_cases hp : s.phase = .stopped
  · have hn : s.phase.next? .start = some .starting := by rw [hp]; rfl
    have hw : s.wakeAt = none := hs.wakeAt_eq_none (.inl hp)
    have he : { s with wakeAt := none } = s := by
      cases s
      cases hw
      rfl
    have h := moves_attempt hx hn (by simp [hw])
    rw [he] at h
    rwa [applies, hn, Option.isSome_some, if_pos rfl]
  · have hn := hs.next_start hp
    rw [applies, hn, Option.isSome_none, if_neg Bool.false_ne_true]
    exact ⟨_, .one (.remark (by simp) (told_transition_of_none hn))⟩

lemma moves_toggle (hs : Settled s) : ∃ es, Moves s es s.toggleRecording := by
  obtain ⟨es, h⟩ := Studio.act_toggle hs.proper s.wantsRecording s.graph s.now
  exact ⟨_, .cons (.record h) (.one (.remark (by simp) (told_log _ _ _ _)))⟩

lemma moves_onRequest (hs : Settled s) (hx : s.exited = false) (r : Request) :
    ∃ es, Moves s es (s.onRequest r) := by
  have h : Moves s [.asked r.label] (s.emit (.asked r.label)) :=
    .one (.remark (by simp [Event.asked, Event.isRemark, Event.of, Event.withReason])
      (told_emit s _))
  have hs' := h.settled hs
  have hr : ∃ es, Moves (s.emit (.asked r.label)) es (s.onRequest r) := by
    cases r with
    | start => exact moves_start hs' hx
    | stop => exact moves_stop hs'
    | restart => exact moves_restart (.inr rfl)
    | toggleRecording => exact moves_toggle hs'
  obtain ⟨es, hr⟩ := hr
  exact ⟨_, h.trans hr⟩

/-- What the monitor publishes changes nothing by itself. -/
lemma isRemark_of_judge {view : Monitor.View} {m : StatusMessage} {e : Event}
    (he : (Monitor.judge view m).event? = some e) : e.isRemark = true := by
  rw [Monitor.judge] at he
  split at he
  · rw [Monitor.judgeLive] at he
    split at he
    · split at he <;> cases he
    all_goals cases he <;> rfl
  · cases he

/-- The monitor asks for a restart only on behalf of the live graph. -/
lemma generation_of_judge {view : Monitor.View} {m : StatusMessage} {cause : RestartCause}
    (hr : (Monitor.judge view m).reaction = .restart cause) :
    view.generation = some m.generation := by
  by_contra h
  rw [(Monitor.judge_of_stale h).1] at hr
  cases hr

/-- The monitor ends a recording only while there is one. -/
lemma session_of_judge {view : Monitor.View} {m : StatusMessage} {stage message : String}
    (hr : (Monitor.judge view m).reaction = .stopRecording stage message) :
    view.session.isSome = true := by
  rw [Monitor.judge] at hr
  split at hr
  · rw [Monitor.judgeLive] at hr
    split at hr
    · split at hr
      case isTrue h => rw [h]; rfl
      case isFalse => cases hr
    all_goals cases hr
  · cases hr

lemma told_tell (s : State) (f : Monitor.Finding) : Told s f.event?.toList (s.tell f) := by
  obtain ⟨reaction, event?, record?⟩ := f
  cases event? with
  | none =>
      cases record? with
      | none => exact .refl s
      | some r => exact Told.onStudio s (Studio.told_log s.toStudio r)
  | some e =>
      cases record? with
      | none => exact told_emit s e
      | some r =>
          exact (told_emit s e).quiet (Told.onStudio _ (Studio.told_log _ r))

lemma moves_branchError {session : Session} (hs : s.session = some session)
    (stage message : String) : ∃ es, Moves s es
      (s.onStudio fun studio => studio.branchError stage message s.graph) :=
  ⟨_, .one (.record (Studio.act_branchError hs stage message s.graph s.now))⟩

lemma moves_onStatus (hs : Settled s) (m : StatusMessage) : ∃ es, Moves s es (s.onStatus m) := by
  have ht : Moves s _ (s.tell (Monitor.judge s.view m)) := .one
    (.remark (fun e he => isRemark_of_judge (Option.mem_toList.1 he)) (told_tell s _))
  simp only [onStatus]
  split
  case h_1 hr =>
    have hp : (s.tell (Monitor.judge s.view m)).phase = .running :=
      (told_tell s _).phase.trans (hs.running_of_live (generation_of_judge hr))
    obtain ⟨es, h⟩ := moves_restart (.inl hp)
    exact ⟨_, ht.trans h⟩
  case h_2 hr =>
    obtain ⟨session, hs⟩ := Option.isSome_iff_exists.1 (session_of_judge hr)
    obtain ⟨x, hx, -⟩ := Option.map_eq_some_iff.1 hs
    obtain ⟨es, h⟩ := moves_branchError (s := s.tell (Monitor.judge s.view m)) hx _ _
    exact ⟨_, ht.trans h⟩
  case h_3 => exact ⟨_, ht⟩

/-- A delay that is over is the end of a wait: an attempt follows. -/
lemma endDelay_of_due (hs : Settled s) {d : Nat} (hw : s.wakeAt = some d) (hd : d ≤ s.now) :
    s.exited = false ∧ ∃ input, s.phase.next? input = some .starting ∧
      s.endDelay = ({ s with wakeAt := none }.transition input).attempt := by
  have hp : s.phase = .restarting ∨ s.phase = .backoffWait := hs.wakeAt.1 (by rw [hw]; rfl)
  have hx : s.exited = false :=
    hs.exited_eq_false (by rcases hp with hp | hp <;> simp [hp])
  have ha : s.wakeAt.any (· ≤ s.now) = true := by rw [hw]; simpa using hd
  obtain ⟨input, hn, hi⟩ : ∃ input, s.phase.next? input = some .starting ∧
      delayInput? s.phase = some input := by
    rcases hp with hp | hp
    · exact ⟨.settleElapsed, by rw [hp]; rfl, by rw [hp]; rfl⟩
    · exact ⟨.retryElapsed, by rw [hp]; rfl, by rw [hp]; rfl⟩
  have hb : ({ s with wakeAt := none } : State).applies input = true := by
    rw [applies, hn]
    rfl
  exact ⟨hx, input, hn, by simp only [endDelay, ha, hi, hb, if_true]⟩

/-- A wait goes on, or its end is the beginning of an attempt. -/
lemma endDelay_cases (hs : Settled s) : s.endDelay = s ∨
    s.exited = false ∧ (∀ d ∈ s.wakeAt, d ≤ s.now) ∧ ∃ input,
      s.phase.next? input = some .starting ∧
        s.endDelay = ({ s with wakeAt := none }.transition input).attempt := by
  by_cases h : s.wakeAt.any (· ≤ s.now) = true
  · obtain ⟨d, hw, hd⟩ := (Option.any_eq_true _ _).1 h
    have hd : d ≤ s.now := of_decide_eq_true hd
    obtain ⟨hx, h⟩ := endDelay_of_due hs hw hd
    refine .inr ⟨hx, ?_, h⟩
    rw [hw]
    rintro _ ⟨⟩
    exact hd
  · exact .inl (by rw [endDelay, if_neg h])

lemma moves_endDelay (hs : Settled s) : ∃ es, Moves s es s.endDelay := by
  rcases endDelay_cases hs with he | ⟨hx, hw, input, hn, he⟩ <;> rw [he]
  · exact ⟨_, .none s⟩
  · exact moves_attempt hx hn hw

/-- A stalled graph is replaced; that the watchdog has disarmed itself before makes no
difference. -/
lemma moves_stalled (hp : s.phase = .running) (age : Nat) : ∃ es, Moves s es
    ((State.emit { s with watchdog := s.watchdog.disarm }
      (.stalled s.generation age)).restart .watchdog) := by
  obtain ⟨files, outs, ht, he⟩ :=
    told_emit { s with watchdog := s.watchdog.disarm } (.stalled s.generation age)
  rw [ht]
  have h₁ : Move s [.stalled s.generation age]
      { s with files := files, journal := outs ++ s.journal } :=
    .remark (by simp [Event.stalled, Event.isRemark, Event.of, Event.withGeneration,
      Event.withDelay]) ⟨files, outs, rfl, he⟩
  have h₂ := told_restart (s := { s with
    watchdog := s.watchdog.disarm, files := files, journal := outs ++ s.journal }) hp .watchdog
  exact ⟨_, .cons h₁ (.one (.restart hp h₂))⟩

/-- A look that finds no stall puts the next one off. -/
lemma told_look (s : State) : Told { s with watchdog := s.watchdog.arm s.now } []
    (({ s with watchdog := s.watchdog.arm s.now } : State).schedule
      (s.watchdog.arm s.now).deadline) :=
  told_schedule _ _

lemma moves_watch (hs : Settled s) : ∃ es, Moves s es s.watch := by
  by_cases hd : s.watchdog.isDue s.now = true
  · simp only [watch, Watchdog.check, hd, if_true]
    cases s.watchdog.judge s.now (s.probe s.watched) with
    | noFrameYet => exact ⟨_, .one (.look hd ((told_look s).quiet (told_log _ _ _ _)))⟩
    | healthy => exact ⟨_, .one (.look hd (told_look s))⟩
    | stalled age => exact moves_stalled (hs.watchdog.1 (Watchdog.isArmed_of_isDue hd)) age
  · simp only [watch, Watchdog.check, hd, if_false, Bool.false_eq_true]
    exact ⟨_, .none s⟩

lemma moves_onWake (hs : Settled s) : ∃ es, Moves s es s.onWake := by
  obtain ⟨es, ha⟩ := Studio.act_finishDrain s.toStudio s.now s.graph
  have h₁ : Moves s es (s.onStudio fun studio => studio.finishDrain s.now s.graph) :=
    .one (.record ha)
  obtain ⟨fs, h₂⟩ := moves_endDelay (h₁.settled hs)
  obtain ⟨gs, h₃⟩ := moves_watch (h₂.settled (h₁.settled hs))
  exact ⟨_, (h₁.trans h₂).trans h₃⟩

/-- The files may change at any time. -/
lemma told_files (s : State) (tree : Files.Tree) :
    Told s [] (s.onHost fun h => { h with files := tree }) :=
  Told.onStudio s (Studio.told_files s.toStudio tree)

/-- **An answer to a stimulus is a sequence of moves**, unless time passes. -/
theorem moves_react (hs : Settled s) {x : Stimulus} (ht : x.isTime = false) :
    ∃ es, Moves s es (s.react x) := by
  rw [react]
  split
  case isTrue => exact ⟨_, .none s⟩
  case isFalse h =>
    have hx : x.isIteration = true → s.exited = false := by
      intro hi
      simpa [hi] using h
    cases x with
    | request r => exact moves_onRequest hs (hx rfl) r
    | abandoned =>
        have h₁ : Moves s [] (s.log .debug "all supervisor handles dropped" []) :=
          .one (.remark (by simp) (told_log _ _ _ _))
        obtain ⟨es, h₂⟩ := moves_onRequest (h₁.settled hs) (hx rfl) .stop
        exact ⟨_, h₁.trans h₂⟩
    | status m => exact moves_onStatus hs m
    | wake => exact moves_onWake hs
    | pass => cases ht
    | frame number => exact ⟨_, .one (.frame s number)⟩
    | files tree => exact ⟨_, .one (.remark (by simp) (told_files s tree))⟩
    | script script => exact ⟨_, .one (.script s script)⟩

end Operations

/-! ### Runs -/

lemma settled_begin (u : Setup) : Settled u.begin := by
  refine ⟨.inl rfl, ?_, ?_, ?_, ?_, ?_, ?_, ?_, ?_, ?_⟩ <;>
    simp [Setup.begin, State.new, Watchdog.isArmed, Studio.Proper]

lemma settled_react {s : State} (hs : Settled s) (x : Stimulus) : Settled (s.react x) := by
  cases ht : x.isTime with
  | true =>
      obtain ⟨span, rfl⟩ := x.exists_of_isTime ht
      rw [react_pass]
      exact hs.host _
  | false =>
      obtain ⟨es, h⟩ := moves_react hs ht
      exact h.settled hs

/-- **Every run stays settled.** -/
theorem run_settled (u : Setup) (xs : List Stimulus) : Settled (u.begin.run xs) :=
  run_invariant (P := Settled) (fun _ x hs => settled_react hs x) (settled_begin u) xs

/-- What every move keeps, all moves keep. -/
lemma Moves.keep {P : State → Prop}
    (hP : ∀ {s t : State} {es : List Event}, Settled s → P s → Move s es t → P t)
    {s t : State} {es : List Event} (h : Moves s es t) (hs : Settled s) (hp : P s) : P t := by
  induction h with
  | none => exact hp
  | cons h _ ih => exact ih (h.settled hs) (hP hs hp h)

/-- What every move keeps, and the passing of time, every answer keeps. -/
lemma react_keeps {P : State → Prop}
    (hP : ∀ {s t : State} {es : List Event}, Settled s → P s → Move s es t → P t)
    (hT : ∀ {s : State} (span : Nat), P s → P (s.pass span)) {s : State} (hs : Settled s)
    (hp : P s) (x : Stimulus) : P (s.react x) := by
  cases ht : x.isTime with
  | true =>
      obtain ⟨span, rfl⟩ := x.exists_of_isTime ht
      rw [react_pass]
      exact hT span hp
  | false =>
      obtain ⟨es, h⟩ := moves_react hs ht
      exact h.keep hP hs hp

/-- What every move keeps, and the passing of time, every run keeps. -/
theorem run_keeps {P : State → Prop}
    (hP : ∀ {s t : State} {es : List Event}, Settled s → P s → Move s es t → P t)
    (hT : ∀ {s : State} (span : Nat), P s → P (s.pass span)) (u : Setup) (hu : P u.begin)
    (xs : List Stimulus) : P (u.begin.run xs) := by
  refine (run_invariant (P := fun s => Settled s ∧ P s) ?_ ⟨settled_begin u, hu⟩ xs).2
  intro s x hs
  exact ⟨settled_react hs.1 x, react_keeps hP hT hs.1 hs.2 x⟩

end StreamWarden.Supervisor
