import StreamWarden.Proofs.Moves

/-!
# Between two iterations

The state of a supervisor is in several pieces, and each handler updates them by hand:
the phase, the graph, the watchdog, the recorder, the deadline of a delay, the restart
that is pending.  At every boundary between two iterations they agree with one another.
In particular the loop, which sleeps until the earliest of its deadlines, never sleeps
without one while the stream is not stopped.

* `isSome_nextWake_iff`: in a settled state there is a deadline exactly while the stream
  is not stopped.
* `Awake`: what the first request to start makes true for good.
* **`boundary_of_run`**: all the pieces at every boundary of every run.
-/

namespace StreamWarden.Supervisor

open State

/-! ### Deadlines -/

lemma isSome_earlier (a b : Option Nat) :
    (earlier a b).isSome = true ↔ a.isSome = true ∨ b.isSome = true := by
  cases a <;> cases b <;> simp [earlier]

/-- A drain has a deadline only while there is a session. -/
lemma session_of_drainDeadline {s : State} (h : s.drainDeadline.isSome = true) :
    s.session.isSome = true := by
  cases hs : s.session with
  | none => simp [Studio.drainDeadline, hs] at h
  | some session => rfl

/-- **A settled loop has a deadline exactly while the stream is not stopped.** -/
theorem isSome_nextWake_iff {s : State} (hs : Settled s) :
    s.nextWake.isSome = true ↔ s.phase ≠ .stopped := by
  rw [nextWake, isSome_earlier, isSome_earlier]
  constructor
  · rintro (h | h | h)
    · rcases hs.wakeAt.1 h with hp | hp <;> simp [hp]
    · simp [hs.watchdog.1 h]
    · simp [hs.session (session_of_drainDeadline h)]
  · intro hp
    rcases hs.phase with h | h | h | h
    · exact absurd h hp
    · exact .inr (.inl (hs.watchdog.2 h))
    · exact .inl (hs.wakeAt.2 (.inl h))
    · exact .inl (hs.wakeAt.2 (.inr h))

/-! ### After the first start -/

/-- The stream has been started: it is not stopped any more, or it is over. -/
def Awake (s : State) : Prop := s.phase ≠ .stopped ∨ s.exited = true

lemma Awake.told {s t : State} {es : List Event} (h : Told s es t) (hs : Awake s) :
    Awake t := by
  obtain ⟨files, outs, rfl, -⟩ := h
  exact hs

/-- No move puts a stream to sleep that was started. -/
lemma Awake.move {s t : State} {es : List Event} (hs : Awake s) (h : Move s es t) :
    Awake t := by
  cases h with
  | remark _ h | look _ h => exact Awake.told h hs
  | launch _ _ _ h => exact Awake.told h (.inl (by simp [launched]))
  | miss _ _ _ h => exact Awake.told h (.inl (by simp [parked]))
  | restart _ h => exact Awake.told h (.inl (by simp [replacing]))
  | stop _ h => exact Awake.told h (.inr rfl)
  | leave _ h => exact Awake.told h (.inr rfl)
  | record | frame | script => exact hs

lemma Awake.react {s : State} (hs : Awake s) (hi : Settled s) (x : Stimulus) :
    Awake (s.react x) :=
  react_keeps (P := Awake) (fun _ ha h => ha.move h) (fun _ ha => ha) hi hs x

/-- A request to start a stream that is stopped: the first attempt follows at once. -/
lemma onRequest_start {s : State} (hp : s.phase = .stopped) :
    s.onRequest .start = ((s.emit (.asked "start")).transition .start).attempt := by
  have ha : (s.emit (.asked "start")).applies .start = true := by
    rw [applies, phase_emit, hp]
    rfl
  exact if_pos ha

/-- Whatever comes of the first attempt, the stream is started. -/
lemma awake_start {s : State} (hs : Settled s) (hx : s.exited = false) :
    Awake (s.onRequest .start) := by
  by_cases hp : s.phase = .stopped
  · have hn : s.phase.next? .start = some .starting := by rw [hp]; rfl
    rw [onRequest_start hp]
    rcases ha : (s.emit (.asked "start")).answerOf with ⟨b, e | graph⟩
    · exact Awake.told (told_miss (s := s.emit (.asked "start")) hn ha) (.inl (by simp [parked]))
    · exact Awake.told (told_launch (s := s.emit (.asked "start")) hn ha)
        (.inl (by simp [launched]))
  · obtain ⟨es, h⟩ := moves_onRequest hs hx .start
    exact h.keep (P := Awake) (fun _ ha h => ha.move h) hs (.inl hp)

/-- A loop that is over answers no request. -/
lemma awake_of_start_mem (u : Setup) {xs : List Stimulus} (h : .request .start ∈ xs) :
    Awake (u.begin.run xs) := by
  induction xs using List.reverseRecOn with
  | nil => simp at h
  | append_singleton xs x ih =>
      have hs := run_settled u xs
      rw [run_concat]
      rcases List.mem_append.1 h with h | h
      · exact (ih h).react hs x
      · obtain rfl := List.mem_singleton.1 h
        cases hx : (u.begin.run xs).exited with
        | true => exact Awake.react (.inr hx) hs _
        | false =>
            rw [react_of_not_exited hx]
            exact awake_start hs hx

/-! ### All the pieces -/

/-- **At every boundary between two iterations**: the phase is one of the four in which a
supervisor can rest; a graph is held, the watchdog is armed and the recorder is armed
exactly in `running`; there is a deadline for the next build exactly in the two phases
that wait for one; a restart is pending in `restarting`, and nowhere but in these two; a
session exists only in `running`, and writes or drains; the stream is stopped without
being over only before the first start, and a stream that is over is stopped; and the
loop has a deadline exactly while the stream is not stopped. -/
theorem boundary_of_run (u : Setup) (xs : List Stimulus) :
    let s := u.begin.run xs
    (s.phase = .stopped ∨ s.phase = .running ∨ s.phase = .restarting ∨
        s.phase = .backoffWait) ∧
      ((s.graph.isSome = true ↔ s.phase = .running) ∧
        (s.watchdog.isArmed = true ↔ s.phase = .running) ∧
        (s.armed = true ↔ s.phase = .running)) ∧
      (s.wakeAt.isSome = true ↔ s.phase = .restarting ∨ s.phase = .backoffWait) ∧
      ((s.phase = .restarting → s.restartPending.isSome = true) ∧
        (s.restartPending.isSome = true → s.phase = .restarting ∨ s.phase = .backoffWait)) ∧
      (∀ session, s.session = some session → s.phase = .running ∧
        (session.state = .active ∨ session.state = .draining)) ∧
      ((s.phase = .stopped ∧ s.exited = false → .request .start ∉ xs) ∧
        (s.exited = true → s.phase = .stopped)) ∧
      (s.nextWake.isSome = true ↔ s.phase ≠ .stopped) := by
  intro s
  have hs : Settled s := run_settled u xs
  refine ⟨hs.phase, ⟨hs.graph, hs.watchdog, hs.armed⟩, hs.wakeAt, ⟨hs.pending, hs.waiting⟩,
    fun session h => ⟨hs.session (by rw [h]; rfl), hs.proper session h⟩, ⟨?_, hs.exited⟩,
    isSome_nextWake_iff hs⟩
  rintro ⟨hp, hx⟩ hm
  rcases awake_of_start_mem u hm with h | h
  · exact h hp
  · exact absurd (hx.symm.trans h) Bool.false_ne_true

end StreamWarden.Supervisor
