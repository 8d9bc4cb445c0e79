import StreamWarden.Proofs.Pace

/-!
# What every operation keeps to

Whatever a supervisor does, it does by a few pieces: it puts something into the journal,
moves the stream on, arms or disarms its recorder, asks its backend, and ends a session.
A relation between what was and what is that holds of each of these pieces, and from
piece to piece, holds of every operation made of them.

Some operations do something else as well.  A request is told before it is answered, a
toggle may begin a session, or a drain, and a stop is the end of the run; what is needed
about those is asked for where they come in.

* `Bond`: what is asked of the relation.
* `Bond.attempt`, `Bond.restart`, `Bond.onStatus`, `Bond.onWake`: the operations.
* `Bond.stop`, `Bond.onRequest`: those that need more.
-/

namespace StreamWarden

/-- The event tells that a request has come. -/
def Event.isAsked (e : Event) : Bool := e.kind == .controlRequested

/-- The entry tells that a request has come. -/
def Output.isAsking : Output → Bool
  | .event e => e.isAsked
  | .record _ | .level _ | .excess _ => false

/-- What the monitor publishes is no request. -/
lemma Monitor.isAsking_of_judge {view : View} {m : StatusMessage} {e : Event}
    (he : (judge view m).event? = some e) : (Output.event e).isAsking = false := by
  rw [judge] at he
  split at he
  · rw [judgeLive] at he
    split at he
    · split at he <;> cases he
    all_goals cases he <;> rfl
  · cases he

namespace Supervisor

open State

/-- A relation that holds of every piece of what a supervisor does. -/
class Bond (R : State → State → Prop) : Prop where
  refl (s : State) : R s s
  trans {s t u : State} (h : R s t) (h' : R t u) : R s u
  put (s : State) (o : Output) (ho : o.isAsking = false) (hx : o.excess? = none) :
    R s (s.onHost (Host.put · o))
  /-- A delay meets a limit of the machine. -/
  exceed (s : State) (e : Excess) (he : s.pace.Exceeds e) :
    R s (s.onHost (Host.put · (.excess e)))
  /-- The stream moves on. -/
  stream (s : State) (f : State → State) (hs : (f s).toStudio = s.toStudio)
    (hx : (f s).exited = s.exited) (hp : (f s).pace = s.pace) : R s (f s)
  armed (s : State) (armed : Bool) : R s (s.onStudio fun a => { a with armed := armed })
  /-- The backend is asked for something, and there are other probes. -/
  engine (s : State) (ps : List FrameProbe) (b : Backend) :
    R s (s.onHost fun h => { h with probes := ps, backend := b })
  detach (s : State) (graph : Option Graph) (reason : String) :
    R s (s.onStudio fun a => a.detach graph reason)

namespace Bond

variable {R : State → State → Prop} [Bond R] (s : State)

lemma emit (e : Event) (he : (Output.event e).isAsking = false) : R s (s.emit e) :=
  put s _ he rfl

lemma log (level : Log.Level) (message : String) (fields : List (String × Log.Value)) :
    R s (s.log level message fields) :=
  put s _ rfl rfl

/-- A deadline is that of a delay which begins now. -/
lemma schedule (deadline : Option Nat) (hd : ∀ t ∈ deadline, s.pace.Ends t) :
    R s (s.schedule deadline) := by
  rcases s.schedule_cases deadline with ⟨-, hs⟩ | ⟨⟨t, ht, hh⟩, hs⟩ <;> rw [hs]
  · exact refl s
  · exact exceed s _ (.instant (hd t ht) hh)

lemma transition (input : Phase.Input) : R s (s.transition input) := by
  rw [State.transition]
  split
  · exact log s _ _ _
  · rename_i target _
    have h : R s _ := stream s (fun t => { t with phase := target }) rfl rfl rfl
    exact trans h (emit _ _ (by cases input <;> rfl))

/-! ### Builds -/

lemma enterPlaying (graph : Graph) : R s (s.enterPlaying graph) := by
  have h₁ : R s _ := stream s (fun t => { t with
    graph := some graph
    watched := t.generation
    buildFailures := 0
    restartPending := none }) rfl rfl rfl
  have h₂ := trans (trans h₁ (emit _ (.playing s.generation) rfl)) (transition _ .buildOk)
  have h₃ := trans h₂ (stream _ (fun t => { t with watchdog := t.watchdog.arm t.now }) rfl rfl rfl)
  refine trans (trans h₃ (schedule _ _ ?_)) (armed _ true)
  rintro _ ⟨⟩
  exact .look

lemma measured : R s s.measured := by
  rw [State.measured]
  split
  · exact refl s
  · rename_i h
    exact exceed s _ (.wait (Option.not_isSome_iff_eq_none.1 h))

lemma enterBackoff (e : BuildError) : R s (s.enterBackoff e) := by
  rw [enterBackoff_eq]
  have h₁ : R s _ := trans (measured s)
    (stream _ (fun t => { t with buildFailures := s.tries }) rfl rfl rfl)
  have h₂ := trans (trans h₁ (emit _ (.missed s.generation s.tries e) rfl))
    (transition _ .buildFailed)
  have hp := (pace_transition (State.emit { s.measured with buildFailures := s.tries }
    (.missed s.generation s.tries e)) .buildFailed).trans s.pace_measured
  have h₃ := trans h₂
    (stream _ (fun t => { t with wakeAt := some (t.now + s.pause) }) rfl rfl rfl)
  exact trans (trans h₃ (schedule _ _ (ends_pause hp))) (emit _ (.delayed s.tries s.pause) rfl)

lemma tried (b : Backend) : R s (s.tried b) := by
  have h : R s _ := stream s (fun t => { t with generation := t.generation + 1 }) rfl rfl rfl
  have h' := trans h (engine _ (s.probes ++ [FrameProbe.new s.now]) b)
  exact h'

lemma attempt : R s s.attempt := by
  rw [attempt_eq]
  split
  · exact trans (tried s _) (enterPlaying _ _)
  · exact trans (tried s _) (enterBackoff _ _)

lemma start (input : Phase.Input) :
    R s (if s.applies input then (s.transition input).attempt else s.transition input) := by
  split
  · exact trans (transition s input) (attempt _)
  · exact transition s input

/-! ### The end of a graph -/

lemma teardown : R s s.teardown := by
  have h₁ : R s _ := stream s (fun t => { t with watchdog := t.watchdog.disarm }) rfl rfl rfl
  have h₂ := trans (trans h₁ (detach _ s.graph "forced")) (armed _ false)
  cases hg : s.graph with
  | none =>
      rw [hg] at h₂
      simp only [State.teardown, onStudio, hg]
      exact h₂
  | some graph =>
      rw [hg] at h₂
      simp only [State.teardown, onStudio, hg]
      have h₃ := trans h₂ (stream _ (fun t => { t with graph := none }) rfl rfl rfl)
      exact trans (trans h₃ (engine _ _ _)) (emit _ (.tornDown s.generation) rfl)

lemma restart (cause : RestartCause) : R s (s.restart cause) := by
  rw [State.restart]
  split
  · have h₁ : R s _ := trans (emit s (.restarting cause s.generation) rfl)
      (stream _ (fun t => { t with restartPending := some cause }) rfl rfl rfl)
    have h₂ := trans (trans h₁ (transition _ (.restart cause))) (teardown _)
    have h₃ := trans h₂
      (stream _ (fun t => { t with wakeAt := some (t.now + t.settleDelay) }) rfl rfl rfl)
    refine trans h₃ (schedule _ _ ?_)
    rintro _ ⟨⟩
    exact .settle
  · split
    · exact emit s (.coalesced cause) rfl
    · exact log s _ _ _

/-- A stop, for a relation that does not mind the end of a run. -/
lemma stop (hx : ∀ t : State, R t { t with exited := true }) : R s s.stop := by
  have h₁ := transition (R := R) s .stop
  have leave : ∀ t : State, R t (if t.phase = .stopped then { t with exited := true } else t) := by
    intro t
    split
    · exact hx t
    · exact refl t
  simp only [State.stop]
  refine trans ?_ (leave _)
  split
  · have h₂ := trans h₁
      (stream _ (fun t => { t with wakeAt := none, restartPending := none }) rfl rfl rfl)
    exact trans (trans h₂ (teardown _)) (transition _ .teardownDone)
  · exact h₁

/-! ### The steps -/

/-- A request, after it was told, for a relation that minds neither the end of a run nor a
toggle, where these come in. -/
lemma onRequest (r : Request) (hx : r = .stop → ∀ t : State, R t { t with exited := true })
    (ht : r = .toggleRecording →
      R (s.emit (.asked r.label)) (s.emit (.asked r.label)).toggleRecording) :
    R (s.emit (.asked r.label)) (s.onRequest r) := by
  cases r with
  | start => exact start _ .start
  | stop => exact stop _ (hx rfl)
  | restart => exact restart _ .external
  | toggleRecording => exact ht rfl

lemma tell {f : Monitor.Finding}
    (hf : ∀ e, f.event? = some e → (Output.event e).isAsking = false) : R s (s.tell f) := by
  obtain ⟨reaction, event?, record?⟩ := f
  have h : ∀ t : State, R t (t.tell ⟨reaction, none, record?⟩) := by
    intro t
    cases record? with
    | none => exact refl t
    | some r => exact put t (.record r) rfl rfl
  cases event? with
  | none => exact h s
  | some e => exact trans (emit s e (hf e rfl)) (h _)

lemma onStatus (m : StatusMessage) : R s (s.onStatus m) := by
  have h : R s (s.tell (Monitor.judge s.view m)) :=
    tell s fun _ he => Monitor.isAsking_of_judge he
  simp only [State.onStatus]
  cases (Monitor.judge s.view m).reaction with
  | restart cause => exact trans h (restart _ cause)
  | stopRecording stage message =>
      have h' := trans (trans h (emit _ (.failed stage message) rfl))
        (detach _ (s.tell (Monitor.judge s.view m)).graph "forced")
      exact h'
  | ignore => exact h

lemma finishDrain (now : Nat) (graph : Option Graph) :
    R s (s.onStudio fun a => a.finishDrain now graph) := by
  by_cases hd : s.isDrained now = true
  · have hs : (s.onStudio fun a => a.finishDrain now graph) =
        s.onStudio fun a => a.detach graph "drained" :=
      congrArg (fun a => s.onStudio fun _ => a) (if_pos hd)
    rw [hs]
    exact detach s _ _
  · have hs : (s.onStudio fun a => a.finishDrain now graph) = s :=
      congrArg (fun a => s.onStudio fun _ => a) (if_neg hd)
    rw [hs]
    exact refl s

lemma endDelay : R s s.endDelay := by
  have h : R s _ := stream s (fun t => { t with wakeAt := none }) rfl rfl rfl
  simp only [State.endDelay]
  split
  · split
    · exact h
    · exact trans h (start _ _)
  · exact refl s

lemma watch : R s s.watch := by
  rw [State.watch]
  have hi := s.watchdog.interval_check s.now (s.probe s.watched)
  have hd := @Watchdog.deadline_of_check s.watchdog s.now (s.probe s.watched)
  rcases hc : s.watchdog.check s.now (s.probe s.watched) with ⟨w, verdict⟩
  rw [hc] at hi hd
  have hp : State.pace { s with watchdog := w } = s.pace :=
    congrArg (fun interval => { s.pace with interval := interval }) hi
  have h : R s _ := stream s (fun t => { t with watchdog := w }) rfl rfl hp
  cases verdict with
  | none => exact h
  | some verdict =>
      have h' := trans h (schedule _ w.deadline fun t ht => by
        rw [hp]
        rcases hd rfl with hn | hn <;> rw [hn] at ht <;> cases ht
        exact .look)
      cases verdict with
      | healthy => exact h'
      | noFrameYet => exact trans h' (log _ _ _ _)
      | stalled age =>
          exact trans (trans h' (emit _ (.stalled s.generation age) rfl)) (restart _ .watchdog)

lemma onWake : R s s.onWake :=
  trans (trans (finishDrain s s.now s.graph) (endDelay _)) (watch _)

end Bond

end Supervisor

end StreamWarden
