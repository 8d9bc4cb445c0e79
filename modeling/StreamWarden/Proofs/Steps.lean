import StreamWarden.Proofs.Effects
import StreamWarden.Proofs.Run

/-!
# What the steps of a supervisor come to

The operations of which the steps are made, each as one state in record notation and
the list of the events that it tells.

* `Told`: a state is another one but for the events told, other output and files.
* `told_attempt_ok`, `told_attempt_error`: an attempt to raise a graph.
* `told_teardown`, `told_restart`, `told_stop`: the ends of a graph.
-/

namespace StreamWarden

/-- Where an attempt can begin, nothing runs. -/
lemma Phase.ne_running_of_next {p : Phase} {input : Phase.Input}
    (hn : p.next? input = some .starting) : p ≠ .running := by
  rintro rfl
  cases input <;> simp [Phase.next?] at hn

namespace Supervisor

namespace State

/-- `t` is `s` but for the events `es`, for other output, and for the files. -/
def Told (s : State) (es : List Event) (t : State) : Prop :=
  ∃ files outs, t = { s with files := files, journal := outs ++ s.journal } ∧
    (outs.filterMap Output.event?).reverse = es

namespace Told

variable {s t u : State} {es fs : List Event}

lemma refl (s : State) : Told s [] s := ⟨s.files, [], rfl, rfl⟩

lemma events (h : Told s es t) : t.events = s.events ++ es := by
  obtain ⟨files, outs, rfl, rfl⟩ := h
  rw [Host.events, Host.events, List.filterMap_append, List.reverse_append]

lemma phase (h : Told s es t) : t.phase = s.phase := by
  obtain ⟨files, outs, rfl, -⟩ := h
  rfl

lemma status (h : Told s es t) : t.status = s.status := by
  obtain ⟨files, outs, rfl, -⟩ := h
  rfl

lemma generation (h : Told s es t) : t.generation = s.generation := by
  obtain ⟨files, outs, rfl, -⟩ := h
  rfl

lemma trans (h : Told s es t) (h' : Told t fs u) : Told s (es ++ fs) u := by
  obtain ⟨f, os, rfl, rfl⟩ := h
  obtain ⟨f', os', rfl, rfl⟩ := h'
  exact ⟨f', os' ++ os, by rw [List.append_assoc],
    by rw [List.filterMap_append, List.reverse_append]⟩

/-- A quiet operation adds nothing to what was told before. -/
lemma quiet (h : Told s es t) (h' : Told t [] u) : Told s es u := by
  simpa using h.trans h'

/-- An operation that looks at neither the files nor the journal, and touches neither,
keeps the relation. -/
lemma map (h : Told s es t) (f : State → State)
    (hf : ∀ (s : State) files journal, f { s with files := files, journal := journal }
      = { f s with files := files, journal := journal }) : Told (f s) es (f t) := by
  obtain ⟨files, outs, rfl, he⟩ := h
  have hj : (f s).journal = s.journal := by
    conv_lhs => rw [show s = { s with files := s.files, journal := s.journal } from rfl, hf]
  refine ⟨files, outs, ?_, he⟩
  rw [hf, hj]

/-- What the studio of a supervisor tells, the supervisor tells. -/
lemma onStudio (s : State) {a b : Studio} (h : Studio.Told a es b) :
    Told (s.onStudio fun _ => a) es (s.onStudio fun _ => b) := by
  obtain ⟨files, outs, rfl, he⟩ := h
  exact ⟨files, outs, rfl, he⟩

end Told

lemma told_emit (s : State) (e : Event) : Told s [e] (s.emit e) :=
  Told.onStudio s (Studio.told_emit s.toStudio e)

lemma told_log (s : State) (level : Log.Level) (message : String)
    (fields : List (String × Log.Value)) : Told s [] (s.log level message fields) :=
  Told.onStudio s (Studio.told_log s.toStudio _)

lemma told_schedule (s : State) (deadline : Option Nat) : Told s [] (s.schedule deadline) :=
  Told.onStudio s (Studio.told_schedule s.toStudio deadline)

lemma told_transition {s : State} {input : Phase.Input} {source target : Phase}
    (hs : s.phase = source) (hn : source.next? input = some target) :
    Told { s with phase := target } [.change source target input] (s.transition input) := by
  subst hs
  rw [transition, hn]
  cases input <;> exact told_emit _ _

lemma told_transition_of_none {s : State} {input : Phase.Input}
    (h : s.phase.next? input = none) : Told s [] (s.transition input) := by
  rw [transition, h]
  exact told_log s _ _ _

/-- A change of phase after other things were told. -/
lemma Told.transition {s t : State} {es : List Event} (h : Told s es t)
    {input : Phase.Input} {source target : Phase} (hs : s.phase = source)
    (hn : source.next? input = some target) :
    Told { s with phase := target } (es ++ [.change source target input])
      (t.transition input) := by
  obtain ⟨files, outs, rfl, he⟩ := h
  exact Told.trans ⟨files, outs, rfl, he⟩ (told_transition hs hn)

/-- The backend after a teardown: the branch is detached, and the graph torn down. -/
def cleared (s : State) : Backend :=
  match s.graph with
  | none => s.freed none
  | some graph => (s.freed (some graph)).teardown graph

/-- The state after a teardown. -/
def dismantled (s : State) : State :=
  { s with
    watchdog := s.watchdog.disarm
    session := none
    armed := false
    graph := none
    backend := s.cleared }

/-- What a teardown tells. -/
def parting (s : State) : List Event :=
  s.lastWords "forced" ++ s.graph.toList.map fun _ => .tornDown s.generation

/-- The recorder goes first. -/
lemma told_silence (s : State) :
    Told { s with
        watchdog := s.watchdog.disarm
        session := none
        armed := false
        backend := s.freed s.graph } (s.lastWords "forced")
      ({ s with watchdog := s.watchdog.disarm }.onStudio
        fun studio => (studio.forceStop s.graph).disarm) := by
  obtain ⟨files, outs, hf, he⟩ := Studio.told_forceStop s.toStudio s.graph
  refine ⟨files, outs, ?_, he⟩
  exact congrArg (fun a : Studio =>
    { s with watchdog := s.watchdog.disarm, toStudio := a.disarm }) hf

/-- Then the graph goes. -/
lemma Told.release {s t : State} {es : List Event} (h : Told s es t) (graph : Graph) :
    Told { s with graph := none, backend := s.backend.teardown graph }
      (es ++ [.tornDown s.generation])
      ((onHost { t with graph := none } fun h =>
        { h with backend := h.backend.teardown graph }).emit (.tornDown t.generation)) := by
  obtain ⟨files, outs, rfl, he⟩ := h
  exact Told.trans ⟨files, outs, rfl, he⟩ (told_emit _ _)

lemma told_teardown (s : State) : Told s.dismantled s.parting s.teardown := by
  have h := told_silence s
  rw [dismantled, parting, cleared]
  cases hg : s.graph with
  | none =>
      have ht : s.teardown = { s with watchdog := s.watchdog.disarm }.onStudio
          fun studio => (studio.forceStop s.graph).disarm := by
        simp only [teardown, onStudio, hg]
      rw [ht, Option.toList_none, List.map_nil, List.append_nil]
      rw [hg] at h ⊢
      exact h
  | some graph =>
      rw [hg] at h
      have h' := h.release graph
      simp only [teardown, onStudio, hg]
      exact h'

/-- A teardown after other things were told. -/
lemma Told.teardown {s t : State} {es : List Event} (h : Told s es t) :
    Told s.dismantled (es ++ s.parting) t.teardown := by
  obtain ⟨files, outs, rfl, he⟩ := h
  exact Told.trans ⟨files, outs, rfl, he⟩ (told_teardown _)

/-! ### Attempts -/

/-- The number of the next failure in a row, as far as 32 bits count. -/
def tries (s : State) : Nat := min (s.buildFailures + 1) Event.maxShortCount

/-- The delay after the next failure. -/
def pause (s : State) : Nat := s.retry.next (s.tries - 1) (s.draws s.generation)

lemma told_enterPlaying {s : State} (hp : s.phase = .starting) (graph : Graph) :
    Told { s with
        graph := some graph
        watched := s.generation
        buildFailures := 0
        restartPending := none
        phase := .running
        watchdog := s.watchdog.arm s.now
        armed := true }
      [.playing s.generation, .change .starting .running .buildOk] (s.enterPlaying graph) := by
  have h := (told_emit { s with
    graph := some graph
    watched := s.generation
    buildFailures := 0
    restartPending := none } (.playing s.generation)).transition hp
      (rfl : Phase.starting.next? .buildOk = some .running)
  have h' := h.map (fun t => { t with watchdog := t.watchdog.arm t.now }) fun _ _ _ => rfl
  exact (h'.quiet (told_schedule _ _)).map (onStudio · Studio.arm) fun _ _ _ => rfl

/-- The state in which the next delay has been worked out: no span of time may be so long. -/
def measured (s : State) : State :=
  if (s.retry.next? (s.tries - 1) (s.draws s.generation)).isSome then s
  else s.onHost (Host.put · (.excess .wait))

lemma told_measured (s : State) : Told s [] s.measured := by
  rw [measured]
  split
  · exact .refl s
  · exact Told.onStudio s (Studio.told_put s.toStudio rfl)

/-- The delay is worked out first of all. -/
lemma enterBackoff_eq (s : State) (e : BuildError) : s.enterBackoff e =
    (let t := { s.measured with buildFailures := s.tries }
    let t := (t.emit (.missed s.generation s.tries e)).transition .buildFailed
    let t := { t with wakeAt := some (t.now + s.pause) }
    (t.schedule t.wakeAt).emit (.delayed s.tries s.pause)) := by
  by_cases hx : (s.retry.next? (min (s.buildFailures + 1) Event.maxShortCount - 1)
      (s.draws s.generation)).isSome = true
  · rw [measured, tries, if_pos hx]
    simp only [enterBackoff, hx, if_true]
    rfl
  · rw [measured, tries, if_neg hx]
    simp only [enterBackoff, hx]
    rfl

lemma told_enterBackoff {s : State} (hp : s.phase = .starting) (e : BuildError) :
    Told { s with
        buildFailures := s.tries
        phase := .backoffWait
        wakeAt := some (s.now + s.pause) }
      [.missed s.generation s.tries e, .change .starting .backoffWait .buildFailed,
        .delayed s.tries s.pause] (s.enterBackoff e) := by
  rw [enterBackoff_eq]
  have h₁ := ((told_measured s).map (fun t => { t with buildFailures := s.tries })
    fun _ _ _ => rfl).trans (told_emit _ (.missed s.generation s.tries e))
  have h₂ := h₁.transition hp (rfl : Phase.starting.next? .buildFailed = some .backoffWait)
  have h₃ := h₂.map (fun t => { t with wakeAt := some (t.now + s.pause) }) fun _ _ _ => rfl
  exact (h₃.quiet (told_schedule _ _)).trans (told_emit _ (.delayed s.tries s.pause))

/-- The state in which the backend has answered to one more attempt: it is as it may be,
and there is a new probe. -/
def tried (s : State) (b : Backend) : State :=
  { s with
    generation := s.generation + 1
    probes := s.probes ++ [FrameProbe.new s.now]
    backend := b }

/-- What the backend answers to the next attempt. -/
def answerOf (s : State) : Backend × Except BuildError Graph :=
  s.backend.raise s.profile ⟨s.generation + 1, s.probes.length⟩

lemma attempt_eq (s : State) : s.attempt =
    match s.answerOf with
    | (b, .ok graph) => (s.tried b).enterPlaying graph
    | (b, .error e) => (s.tried b).enterBackoff e := by
  simp only [attempt, Host.raise_eq, answerOf]
  rcases s.backend.raise s.profile ⟨s.generation + 1, s.probes.length⟩ with ⟨b, e | graph⟩ <;> rfl

/-- The state in which a graph plays at last. -/
def launched (s : State) (b : Backend) (graph : Graph) : State :=
  { s.tried b with
    graph := some graph
    watched := s.generation + 1
    buildFailures := 0
    restartPending := none
    phase := .running
    watchdog := s.watchdog.arm s.now
    armed := true }

/-- The state in which an attempt has failed. -/
def parked (s : State) (b : Backend) : State :=
  { s.tried b with
    buildFailures := s.tries
    phase := .backoffWait
    wakeAt := some (s.now + (s.tried b).pause) }

variable {s : State} {b : Backend}

lemma told_attempt_ok {graph : Graph} (hp : s.phase = .starting)
    (ha : s.answerOf = (b, .ok graph)) :
    Told (s.launched b graph) [.playing (s.generation + 1), .change .starting .running .buildOk]
      s.attempt := by
  rw [attempt_eq, ha]
  exact told_enterPlaying (s := s.tried b) hp graph

lemma told_attempt_error {e : BuildError} (hp : s.phase = .starting)
    (ha : s.answerOf = (b, .error e)) :
    Told (s.parked b) [.missed (s.generation + 1) s.tries e,
        .change .starting .backoffWait .buildFailed, .delayed s.tries (s.tried b).pause]
      s.attempt := by
  rw [attempt_eq, ha]
  exact told_enterBackoff (s := s.tried b) hp e

/-- The way from a phase without a graph to one with a graph. -/
lemma told_launch {input : Phase.Input} {graph : Graph}
    (hn : s.phase.next? input = some .starting) (ha : s.answerOf = (b, .ok graph)) :
    Told (s.launched b graph) [.change s.phase .starting input, .playing (s.generation + 1),
      .change .starting .running .buildOk] (s.transition input).attempt := by
  have h := told_transition rfl hn
  have h' := h.map (·.launched b graph) fun _ _ _ => rfl
  obtain ⟨files, outs, ht, -⟩ := h
  rw [ht] at h' ⊢
  exact h'.trans (told_attempt_ok rfl ha)

/-- The way from a phase without a graph to the wait for the next attempt. -/
lemma told_miss {input : Phase.Input} {e : BuildError}
    (hn : s.phase.next? input = some .starting) (ha : s.answerOf = (b, .error e)) :
    Told (s.parked b) [.change s.phase .starting input, .missed (s.generation + 1) s.tries e,
        .change .starting .backoffWait .buildFailed, .delayed s.tries (s.tried b).pause]
      (s.transition input).attempt := by
  have h := told_transition rfl hn
  have h' := h.map (·.parked b) fun _ _ _ => rfl
  obtain ⟨files, outs, ht, -⟩ := h
  rw [ht] at h' ⊢
  exact h'.trans (told_attempt_error rfl ha)

/-! ### Restarts and the end -/

/-- The state in which a graph is to be replaced. -/
def replacing (s : State) (cause : RestartCause) : State :=
  { s.dismantled with
    restartPending := some cause
    phase := .restarting
    wakeAt := some (s.now + s.settleDelay) }

/-- The state in which all is over. -/
def ended (s : State) : State :=
  { s.dismantled with
    phase := .stopped
    wakeAt := none
    restartPending := none
    exited := true }

lemma told_restart (hp : s.phase = .running) (cause : RestartCause) :
    Told (s.replacing cause)
      ([.restarting cause s.generation, .change .running .restarting (.restart cause)] ++
        s.parting) (s.restart cause) := by
  have h₁ := (told_emit s (.restarting cause s.generation)).map
    (fun t => { t with restartPending := some cause }) fun _ _ _ => rfl
  have h₂ := (h₁.transition hp
    (rfl : Phase.running.next? (.restart cause) = some .restarting)).teardown
  have h₃ := h₂.map (fun t => { t with wakeAt := some (t.now + t.settleDelay) }) fun _ _ _ => rfl
  rw [restart, if_pos hp]
  exact h₃.quiet (told_schedule _ _)

lemma told_restart_of_pending (hp : s.phase ≠ .running)
    (hr : s.restartPending.isSome || s.phase.rebuildPending) (cause : RestartCause) :
    Told s [.coalesced cause] (s.restart cause) := by
  rw [restart, if_neg hp, if_pos hr]
  exact told_emit s _

lemma told_restart_of_idle (hp : s.phase ≠ .running)
    (hr : ¬(s.restartPending.isSome || s.phase.rebuildPending) = true) (cause : RestartCause) :
    Told s [] (s.restart cause) := by
  rw [restart, if_neg hp, if_neg hr]
  exact told_log s _ _ _

lemma told_stop (hn : s.phase.next? .stop = some .stopping) :
    Told s.ended ([.change s.phase .stopping .stop] ++ s.parting ++
      [.change .stopping .stopped .teardownDone]) s.stop := by
  have h₁ := (told_transition rfl hn).map
    (fun t => { t with wakeAt := none, restartPending := none }) fun _ _ _ => rfl
  have h₂ := h₁.teardown.transition rfl
    (rfl : Phase.stopping.next? .teardownDone = some .stopped)
  have ha : s.applies .stop = true := by rw [applies, hn]; rfl
  simp only [stop, ha, if_true]
  rw [if_pos h₂.phase]
  exact h₂.map (fun t => { t with exited := true }) fun _ _ _ => rfl

lemma told_stop_of_stopped (hp : s.phase = .stopped) :
    Told { s with exited := true } [] s.stop := by
  have hn : s.phase.next? .stop = none := by rw [hp]; rfl
  have ha : s.applies .stop = false := by rw [applies, hn]; rfl
  have h := told_transition_of_none hn
  simp only [stop, ha, Bool.false_eq_true, if_false]
  rw [if_pos (h.phase.trans hp)]
  exact h.map (fun t => { t with exited := true }) fun _ _ _ => rfl

end State

end Supervisor

end StreamWarden
