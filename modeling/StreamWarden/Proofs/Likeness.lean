import StreamWarden.Proofs.Moves

/-!
# Two supervisors that are alike

To see that one thing has no effect on another, two supervisors are driven side by side
that differ in the first alone.  What they differ in is forgotten by a function on
studios, of each side its own, and they are matched when these make them the same.  If
such erasers can be followed through what the stream does with its studio, then
supervisors that are matched stay so, whatever the stream does.

* `Eraser`: what is asked of the functions; `Matched`: the relation, and its rules
  (`Matched.map`, `Matched.studio`, `Matched.emit`); `Alike`: one function serves both sides.
* `Matched.attempt`, `Matched.restart`, `Matched.stop`: the operations of the stream.
* `Matched.endDelay`, `Matched.watch`, `Matched.onStatus`: its steps, the last two as long as
  both judge the same.
-/

namespace StreamWarden

/-- What forgets a part of each of two studios, so that what the stream does with the rest can
still be followed in both. -/
class Eraser (φ ψ : Studio → Studio) : Prop where
  now {a b : Studio} (h : φ a = ψ b) : a.now = b.now
  horizon {a b : Studio} (h : φ a = ψ b) : a.horizon = b.horizon
  put {a b : Studio} (h : φ a = ψ b) (o : Output) :
    φ (a.onHost (Host.put · o)) = ψ (b.onHost (Host.put · o))
  armed {a b : Studio} (h : φ a = ψ b) (armed : Bool) :
    φ { a with armed := armed } = ψ { b with armed := armed }
  detach {a b : Studio} (h : φ a = ψ b) (graph : Option Graph) (reason : String) :
    φ (a.detach graph reason) = ψ (b.detach graph reason)
  finishDrain {a b : Studio} (h : φ a = ψ b) (now : Nat) (graph : Option Graph) :
    φ (a.finishDrain now graph) = ψ (b.finishDrain now graph)
  branchError {a b : Studio} (h : φ a = ψ b) (stage message : String) (graph : Option Graph) :
    φ (a.branchError stage message graph) = ψ (b.branchError stage message graph)
  teardown {a b : Studio} (h : φ a = ψ b) (graph : Graph) :
    φ (a.onHost fun k => { k with backend := k.backend.teardown graph }) =
      ψ (b.onHost fun k => { k with backend := k.backend.teardown graph })
  raise {a b : Studio} (h : φ a = ψ b) (profile : Profile) (generation : Nat) :
    φ (a.onHost fun k => (k.raise profile generation).1) =
        ψ (b.onHost fun k => (k.raise profile generation).1) ∧
      (a.toHost.raise profile generation).2 = (b.toHost.raise profile generation).2

namespace Supervisor

open State

/-- What two erasers leave of two supervisors is the same. -/
def Matched (φ ψ : Studio → Studio) (p s : State) : Prop := p.onStudio φ = s.onStudio ψ

/-- What an eraser leaves of the two is the same. -/
abbrev Alike (φ : Studio → Studio) (p s : State) : Prop := Matched φ φ p s

namespace Alike

variable {φ : Studio → Studio} {p s t : State}

lemma refl (s : State) : Alike φ s s := rfl

lemma symm (h : Alike φ p s) : Alike φ s p := Eq.symm h

lemma trans (h : Alike φ p s) (h' : Alike φ s t) : Alike φ p t := Eq.trans h h'

/-- They agree in all that is left of them. -/
lemma agree {β : Type} (h : Alike φ p s) (f : State → β)
    (hf : ∀ t : State, f (t.onStudio φ) = f t) : f p = f s := by
  rw [← hf p, ← hf s]
  exact congrArg f h

/-- Something that is done to what is left as to the whole. -/
lemma map (h : Alike φ p s) (f : State → State)
    (hf : ∀ t : State, (f t).onStudio φ = f (t.onStudio φ)) : Alike φ (f p) (f s) := by
  rw [Alike, Matched, hf, hf]
  exact congrArg f h

end Alike

namespace Matched

variable {φ ψ : Studio → Studio} {p s : State}

/-! ### What the two have in common -/

/-- They agree in all but their studios. -/
lemma agree {β : Type} (h : Matched φ ψ p s) (f : State → β)
    (hf : ∀ (χ : Studio → Studio) (t : State), f (t.onStudio χ) = f t) : f p = f s := by
  rw [← hf φ p, ← hf ψ s]
  exact congrArg f h

lemma phase (h : Matched φ ψ p s) : p.phase = s.phase := h.agree (·.phase) fun _ _ => rfl

lemma graph (h : Matched φ ψ p s) : p.graph = s.graph := h.agree (·.graph) fun _ _ => rfl

lemma generation (h : Matched φ ψ p s) : p.generation = s.generation :=
  h.agree (·.generation) fun _ _ => rfl

lemma restartPending (h : Matched φ ψ p s) : p.restartPending = s.restartPending :=
  h.agree (·.restartPending) fun _ _ => rfl

lemma wakeAt (h : Matched φ ψ p s) : p.wakeAt = s.wakeAt := h.agree (·.wakeAt) fun _ _ => rfl

lemma watchdog (h : Matched φ ψ p s) : p.watchdog = s.watchdog :=
  h.agree (·.watchdog) fun _ _ => rfl

lemma watched (h : Matched φ ψ p s) : p.watched = s.watched := h.agree (·.watched) fun _ _ => rfl

lemma exited (h : Matched φ ψ p s) : p.exited = s.exited := h.agree (·.exited) fun _ _ => rfl

lemma retry (h : Matched φ ψ p s) : p.retry = s.retry := h.agree (·.retry) fun _ _ => rfl

lemma profile (h : Matched φ ψ p s) : p.profile = s.profile := h.agree (·.profile) fun _ _ => rfl

lemma draw (h : Matched φ ψ p s) : p.draws p.generation = s.draws s.generation :=
  h.agree (fun t => t.draws t.generation) fun _ _ => rfl

lemma liveGeneration (h : Matched φ ψ p s) : p.liveGeneration = s.liveGeneration :=
  h.agree State.liveGeneration fun _ _ => rfl

lemma applies (h : Matched φ ψ p s) (input : Phase.Input) : p.applies input = s.applies input :=
  h.agree (State.applies · input) fun _ _ => rfl

lemma tries (h : Matched φ ψ p s) : p.tries = s.tries := h.agree State.tries fun _ _ => rfl

lemma pause (h : Matched φ ψ p s) : p.pause = s.pause := h.agree State.pause fun _ _ => rfl

lemma toStudio (h : Matched φ ψ p s) : φ p.toStudio = ψ s.toStudio :=
  congrArg (fun t : State => t.toStudio) h

lemma now [Eraser φ ψ] (h : Matched φ ψ p s) : p.now = s.now := Eraser.now h.toStudio

lemma horizon [Eraser φ ψ] (h : Matched φ ψ p s) : p.horizon = s.horizon :=
  Eraser.horizon h.toStudio

/-! ### What the two do alike -/

/-- Something outside of the studio. -/
lemma map (h : Matched φ ψ p s) (f : State → State)
    (hf : ∀ (χ : Studio → Studio) (t : State), (f t).onStudio χ = f (t.onStudio χ)) :
    Matched φ ψ (f p) (f s) := by
  rw [Matched, hf, hf]
  exact congrArg f h

/-- Other studios that agree in what is left of them. -/
lemma studio (h : Matched φ ψ p s) {a b : Studio} (hab : φ a = ψ b) :
    Matched φ ψ (p.onStudio fun _ => a) (s.onStudio fun _ => b) := by
  have ht := congrArg₂ (fun (t : State) (c : Studio) => t.onStudio fun _ => c) h hab
  exact ht

variable [Eraser φ ψ]

lemma put (h : Matched φ ψ p s) (o : Output) :
    Matched φ ψ (p.onHost (Host.put · o)) (s.onHost (Host.put · o)) :=
  h.studio (Eraser.put h.toStudio o)

lemma emit (h : Matched φ ψ p s) {e e' : Event} (he : e = e') :
    Matched φ ψ (p.emit e) (s.emit e') := he ▸ h.put (.event e)

lemma log (h : Matched φ ψ p s) (level : Log.Level) (message : String)
    {fields fields' : List (String × Log.Value)} (hf : fields = fields') :
    Matched φ ψ (p.log level message fields) (s.log level message fields') :=
  hf ▸ h.put (.record { level, origin := .supervisor, message, fields })

lemma schedule (h : Matched φ ψ p s) {d d' : Option Nat} (hd : d = d') :
    Matched φ ψ (p.schedule d) (s.schedule d') := by
  subst hd
  have hh := h.horizon
  rcases s.schedule_cases d with ⟨hx, hs⟩ | ⟨hx, hs⟩ <;> rw [hs]
  · rw [schedule_of_lt (by rwa [hh])]
    exact h
  · rw [schedule_of_le (by rwa [hh])]
    exact h.put _

lemma transition (h : Matched φ ψ p s) (input : Phase.Input) :
    Matched φ ψ (p.transition input) (s.transition input) := by
  rw [State.transition, State.transition, h.phase]
  cases s.phase.next? input with
  | none => exact h.log _ _ rfl
  | some target =>
      exact (h.map (fun t => { t with phase := target }) fun _ _ => rfl).emit rfl

/-- A deadline that is reckoned from the present. -/
lemma arm (h : Matched φ ψ p s) :
    Matched φ ψ { p with watchdog := p.watchdog.arm p.now }
      { s with watchdog := s.watchdog.arm s.now } := by
  rw [h.watchdog, h.now]
  exact h.map (fun t => { t with watchdog := s.watchdog.arm s.now }) fun _ _ => rfl

lemma wait (h : Matched φ ψ p s) {d d' : Nat} (hd : d = d') :
    Matched φ ψ { p with wakeAt := some (p.now + d) } { s with wakeAt := some (s.now + d') } := by
  rw [h.now, hd]
  exact h.map (fun t => { t with wakeAt := some (s.now + d') }) fun _ _ => rfl

/-! ### Builds -/

lemma enterPlaying (h : Matched φ ψ p s) (graph : Graph) :
    Matched φ ψ (p.enterPlaying graph) (s.enterPlaying graph) := by
  have h₁ := (h.map (fun t => { t with
    graph := some graph
    watched := t.generation
    buildFailures := 0
    restartPending := none }) fun _ _ => rfl).emit (congrArg Event.playing h.generation)
  have h₂ := (h₁.transition .buildOk).arm
  have h₃ := h₂.schedule (congrArg Watchdog.deadline h₂.watchdog)
  exact h₃.studio (Eraser.armed h₃.toStudio true)

lemma measured (h : Matched φ ψ p s) : Matched φ ψ p.measured s.measured := by
  rw [State.measured, State.measured, h.retry, h.tries, h.draw]
  split
  · exact h
  · exact h.put _

lemma enterBackoff (h : Matched φ ψ p s) (e : BuildError) :
    Matched φ ψ (p.enterBackoff e) (s.enterBackoff e) := by
  rw [enterBackoff_eq, enterBackoff_eq, h.generation, h.tries, h.pause]
  have h₁ := (h.measured.map (fun t => { t with buildFailures := s.tries }) fun _ _ => rfl).emit
    (rfl : Event.missed s.generation s.tries e = _)
  have h₂ := (h₁.transition .buildFailed).wait (rfl : s.pause = _)
  exact (h₂.schedule h₂.wakeAt).emit rfl

lemma attempt (h : Matched φ ψ p s) : Matched φ ψ p.attempt s.attempt := by
  have h₁ := h.map (fun t => { t with generation := t.generation + 1 }) fun _ _ => rfl
  obtain ⟨ha, hr⟩ := Eraser.raise h₁.toStudio s.profile (s.generation + 1)
  have h₂ := h₁.studio ha
  simp only [State.attempt, h.profile, h.generation]
  rw [h.generation, h.profile] at h₂
  have hr' : (p.toHost.raise s.profile (s.generation + 1)).2 =
      (s.toHost.raise s.profile (s.generation + 1)).2 := hr
  rw [hr']
  cases (s.toHost.raise s.profile (s.generation + 1)).2 with
  | ok graph => exact h₂.enterPlaying graph
  | error e => exact h₂.enterBackoff e

/-! ### The end of a graph -/

lemma teardown (h : Matched φ ψ p s) : Matched φ ψ p.teardown s.teardown := by
  have h₁ := h.map (fun t => { t with watchdog := t.watchdog.disarm }) fun _ _ => rfl
  have h₂ := h₁.studio (Eraser.armed (Eraser.detach h₁.toStudio s.graph "forced") false)
  have hg := h.graph
  cases hs : s.graph with
  | none =>
      rw [hs] at hg
      rw [hs, hg] at h₂
      simp only [State.teardown, onStudio, hs, hg]
      exact h₂
  | some graph =>
      rw [hs] at hg
      rw [hs, hg] at h₂
      have h₃ := h₂.map (fun t => { t with graph := none }) fun _ _ => rfl
      simp only [State.teardown, onStudio, hs, hg]
      exact (h₃.studio (Eraser.teardown h₃.toStudio graph)).emit
        (congrArg Event.tornDown h₃.generation)

lemma restart (h : Matched φ ψ p s) (cause : RestartCause) :
    Matched φ ψ (p.restart cause) (s.restart cause) := by
  have hd : p.settleDelay = s.settleDelay := h.agree (·.settleDelay) fun _ _ => rfl
  rw [State.restart, State.restart, h.phase, h.restartPending]
  split
  · have h₁ := (h.emit (congrArg (Event.restarting cause) h.generation)).map
      (fun t => { t with restartPending := some cause }) fun _ _ => rfl
    have h₂ := (h₁.transition (.restart cause)).teardown
    have h₃ := h₂.wait (h₂.agree (·.settleDelay) fun _ _ => rfl)
    exact h₃.schedule h₃.wakeAt
  · split
    · exact h.emit rfl
    · exact h.log _ _ rfl

omit [Eraser φ ψ] in
lemma leave (h : Matched φ ψ p s) :
    Matched φ ψ (if p.phase = .stopped then { p with exited := true } else p)
      (if s.phase = .stopped then { s with exited := true } else s) := by
  by_cases hs : s.phase = .stopped
  · rw [if_pos (h.phase.trans hs), if_pos hs]
    exact h.map (fun t => { t with exited := true }) fun _ _ => rfl
  · rw [if_neg fun hp => hs (h.phase.symm.trans hp), if_neg hs]
    exact h

lemma stop (h : Matched φ ψ p s) : Matched φ ψ p.stop s.stop := by
  have h₁ := h.transition .stop
  simp only [State.stop, h.applies]
  refine leave ?_
  split
  · exact (h₁.map (fun t => { t with wakeAt := none, restartPending := none })
      fun _ _ => rfl).teardown.transition .teardownDone
  · exact h₁

/-! ### The steps -/

lemma start (h : Matched φ ψ p s) (input : Phase.Input) :
    Matched φ ψ (if p.applies input then (p.transition input).attempt else p.transition input)
      (if s.applies input then (s.transition input).attempt else s.transition input) := by
  rw [h.applies]
  split
  · exact (h.transition input).attempt
  · exact h.transition input

/-- The requests but those to the recorder. -/
lemma onRequest (h : Matched φ ψ p s) {r : Request} (hr : r ≠ .toggleRecording) :
    Matched φ ψ (p.onRequest r) (s.onRequest r) := by
  have h₁ : Matched φ ψ (p.emit (.asked r.label)) (s.emit (.asked r.label)) := h.emit rfl
  cases r with
  | start => exact h₁.start .start
  | stop => exact h₁.stop
  | restart => exact h₁.restart .external
  | toggleRecording => exact absurd rfl hr

lemma endDelay (h : Matched φ ψ p s) : Matched φ ψ p.endDelay s.endDelay := by
  rw [State.endDelay, State.endDelay, h.wakeAt, h.now]
  split
  · have h₁ := h.map (fun t => { t with wakeAt := none }) fun _ _ => rfl
    have hi : delayInput? p.phase = delayInput? s.phase := by rw [h.phase]
    cases hs : delayInput? s.phase with
    | none =>
        rw [hs] at hi
        simp only [hi, hs]
        exact h₁
    | some input =>
        rw [hs] at hi
        simp only [hi, hs]
        exact h₁.start input
  · exact h

/-- A look at the frames, when both see the same. -/
lemma watch (h : Matched φ ψ p s) (hc : p.watchdog.check p.now (p.probe p.watched) =
    s.watchdog.check s.now (s.probe s.watched)) : Matched φ ψ p.watch s.watch := by
  simp only [State.watch, hc]
  rcases s.watchdog.check s.now (s.probe s.watched) with ⟨w, verdict⟩
  have h₁ := h.map (fun t => { t with watchdog := w }) fun _ _ => rfl
  cases verdict with
  | none => exact h₁
  | some verdict =>
      have h₂ := h₁.schedule (rfl : w.deadline = _)
      cases verdict with
      | healthy => exact h₂
      | noFrameYet =>
          exact h₂.log _ _ (congrArg (fun n => [("generation", Log.Value.count n)]) h.generation)
      | stalled age =>
          exact (h₂.emit (congrArg (Event.stalled · age) h.generation)).restart .watchdog

/-- The end of a drain. -/
lemma finishDrain (h : Matched φ ψ p s) :
    Matched φ ψ (p.onStudio fun a => a.finishDrain p.now p.graph)
      (s.onStudio fun a => a.finishDrain s.now s.graph) := by
  rw [h.now, h.graph]
  exact h.studio (Eraser.finishDrain h.toStudio s.now s.graph)

lemma tell (h : Matched φ ψ p s) (f : Monitor.Finding) : Matched φ ψ (p.tell f) (s.tell f) := by
  obtain ⟨reaction, event?, record?⟩ := f
  have h₁ : ∀ {q t : State}, Matched φ ψ q t →
      Matched φ ψ (q.tell ⟨reaction, none, record?⟩) (t.tell ⟨reaction, none, record?⟩) := by
    intro q t ht
    cases record? with
    | none => exact ht
    | some r => exact ht.put (.record r)
  cases event? with
  | none => exact h₁ h
  | some e => exact h₁ (h.emit (rfl : e = e))

/-- A status message, when both judge the same. -/
lemma onStatus (h : Matched φ ψ p s) {m : StatusMessage}
    (hj : Monitor.judge p.view m = Monitor.judge s.view m) :
    Matched φ ψ (p.onStatus m) (s.onStatus m) := by
  have h₁ := h.tell (Monitor.judge s.view m)
  simp only [State.onStatus, hj]
  cases hr : (Monitor.judge s.view m).reaction with
  | restart cause => exact h₁.restart cause
  | stopRecording stage message =>
      rw [h₁.graph]
      exact h₁.studio (Eraser.branchError h₁.toStudio stage message _)
  | ignore => exact h₁

end Matched

end Supervisor

end StreamWarden
