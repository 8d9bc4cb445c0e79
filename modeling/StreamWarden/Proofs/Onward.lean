import StreamWarden.Proofs.Limits
import StreamWarden.Proofs.Milestones
import StreamWarden.Proofs.Timed

/-!
# A stream that runs goes on

While a stream runs, its watchdog looks after the frames once an interval, and each look
either sets the next one or finds that the stream has stalled.  So there is always
something more to be seen of a course that runs, as long as no limit of the machine is
met; and nothing that leaves all pieces as they are meets one.

* `Bare`: a course without recordings, and what its steps keep.
* `lifecycle_onWake_ne`: a wake-up of the watchdog is to be seen.
* `excess_of_eq`: what is not to be seen meets no limit.
* `Bare.exists_change`: there is always something more to be seen.
-/

namespace StreamWarden.Supervisor

open State

/-! ### Courses without recordings -/

/-- A course without recordings, whose watchdog looks once in this interval. -/
structure Bare (interval : Nat) (c : Course) : Prop where
  settled : Settled c.state
  spared : c.state.drainDeadline = none
  cues : ∀ x ∈ c.cues, x.stimulus.lifecycle? = some x.stimulus
  still : ∀ x ∈ c.cues, x.stimulus.isTime = false
  interval_eq : c.state.watchdog.interval = interval

/-- No answer changes how often the watchdog looks. -/
lemma interval_react {s : State} (hs : Settled s) (x : Stimulus) :
    (s.react x).watchdog.interval = s.watchdog.interval :=
  react_keeps (P := fun t => t.watchdog.interval = s.watchdog.interval)
    (fun _ ht h => h.steady.interval.trans ht) (fun _ ht => ht) hs rfl x

namespace Bare

variable {interval : Nat} {c : Course}

/-- A stimulus that concerns the stream keeps a course bare. -/
lemma react (h : Bare interval c) (t : Nat) {x : Stimulus} (hx : x.lifecycle? = some x)
    {xs : List Cue} (hxs : xs.Sublist c.cues) :
    Bare interval ⟨(c.state.waitTill t).react x, xs⟩ := by
  have hs : Settled (c.state.waitTill t) := h.settled.host _
  refine ⟨settled_react hs x, ?_, fun y hy => h.cues y (hxs.subset hy),
    fun y hy => h.still y (hxs.subset hy), (interval_react hs x).trans h.interval_eq⟩
  rcases (spares_react (c.state.waitTill t) hx).deadline with hd | hd
  · exact hd.trans h.spared
  · exact hd

lemma step (h : Bare interval c) : Bare interval c.step := by
  cases hb : c.isBroken with
  | true => rwa [Course.step_of_broken hb]
  | false =>
      cases hd : c.due? with
      | some t =>
          rw [Course.step_of_due hb hd]
          exact h.react t rfl (List.Sublist.refl _)
      | none =>
          cases hc : c.cues with
          | nil => rwa [Course.step_of_nil hb hd hc]
          | cons x xs =>
              have hx := h.cues x (by rw [hc]; exact List.mem_cons_self)
              rw [Course.step_of_cons hb hd hc]
              refine h.react x.instant hx ?_
              rw [hc]
              exact List.sublist_cons_self x xs

lemma after (h : Bare interval c) (n : Nat) : Bare interval (c.after n) := by
  induction n with
  | zero => exact h
  | succ n ih => exact ih.step

end Bare

lemma bare_begin (u : Setup) (y : Schedule) :
    Bare u.settings.watchdogInterval (u.lifecycle.course y.lifecycle) where
  settled := settled_begin _
  spared := rfl
  cues := by
    intro x hx
    obtain ⟨a, -, ha⟩ := List.mem_filterMap.1 hx
    obtain ⟨stimulus, hs, rfl⟩ := Option.map_eq_some_iff.1 ha
    exact Stimulus.lifecycle?_idem hs
  still := y.lifecycle.still
  interval_eq := rfl

/-! ### What is to be seen of an answer -/

section Answers

variable {s : State}

lemma Settled.exited_of_running (hs : Settled s) (hp : s.phase = .running) :
    s.exited = false := by
  refine Bool.eq_false_iff.2 fun hx => ?_
  have h := hs.exited hx
  rw [hp] at h
  cases h

lemma phase_restart (hp : s.phase = .running) (cause : RestartCause) :
    (s.restart cause).phase = .restarting := (told_restart hp cause).phase

lemma phase_stop (hp : s.phase = .running) : s.stop.phase = .stopped := by
  have hn : s.phase.next? .stop = some .stopping := by rw [hp]; rfl
  exact (told_stop hn).phase

/-- A look of the watchdog is to be seen: it sets the next one, or finds a stall. -/
lemma lifecycle_watch_ne (hi : 0 < s.watchdog.interval) (hp : s.phase = .running)
    (hd : s.watchdog.isDue s.now = true) : s.watch.lifecycle ≠ s.lifecycle := by
  obtain ⟨t, ht, hn⟩ : ∃ t, s.watchdog.deadline = some t ∧ t ≤ s.now := by
    cases hw : s.watchdog.deadline with
    | none => simp [Watchdog.isDue, hw] at hd
    | some t => exact ⟨t, rfl, by simpa [Watchdog.isDue, hw] using hd⟩
  have hne : some (s.now + s.watchdog.interval) ≠ s.watchdog.deadline := by
    rw [ht]
    intro h
    have hs := Option.some.inj h
    omega
  simp only [watch, Watchdog.check, hd, if_true]
  cases s.watchdog.judge s.now (s.probe s.watched) with
  | noFrameYet => exact fun h => hne (congrArg Lifecycle.watchdogDeadline h)
  | healthy => exact fun h => hne (congrArg Lifecycle.watchdogDeadline h)
  | stalled age =>
      intro h
      have h₁ : s.phase = .restarting :=
        (congrArg Lifecycle.phase h).symm.trans (phase_restart (s := State.emit (State.schedule
          { s with watchdog := s.watchdog.disarm } none) (.stalled s.generation age)) hp _)
      rw [hp] at h₁
      cases h₁

/-- While the stream runs without a recording, a wake-up is a look of the watchdog. -/
lemma onWake_of_running (hs : Settled s) (hp : s.phase = .running)
    (hd : s.drainDeadline = none) : s.onWake = s.watch := by
  have hw : s.wakeAt = none := hs.wakeAt_eq_none (.inr hp)
  have hf : s.toStudio.finishDrain s.now s.graph = s.toStudio := by
    rw [Studio.finishDrain, Studio.isDrained, hd]
    rfl
  have he : (s.onStudio fun a => a.finishDrain s.now s.graph) = s :=
    congrArg (fun a => s.onStudio fun _ => a) hf
  rw [onWake]
  refine congrArg watch ((congrArg endDelay he).trans (endDelay_of_early ?_))
  rw [hw]
  rintro _ ⟨⟩

lemma excess_onStatus (hp : s.phase = .running) (m : StatusMessage)
    (he : (s.onStatus m).phase = s.phase) : (s.onStatus m).excess? = s.excess? := by
  have ht := excess_tell s (Monitor.judge s.view m)
  simp only [onStatus] at he ⊢
  cases hr : (Monitor.judge s.view m).reaction with
  | restart cause =>
      simp only [hr] at he
      have h₁ := phase_restart (s := s.tell (Monitor.judge s.view m)) hp cause
      rw [he, hp] at h₁
      cases h₁
  | stopRecording stage message =>
      have hb := Studio.plain_branchError (s.tell (Monitor.judge s.view m)).toStudio stage message
        (s.tell (Monitor.judge s.view m)).graph
      exact (Twin.unseen _ hb).excess.trans ht
  | ignore => exact ht

lemma excess_onRequest (hp : s.phase = .running) {r : Request}
    (hr : r ≠ .toggleRecording) (he : (s.onRequest r).phase = s.phase) :
    (s.onRequest r).excess? = s.excess? := by
  cases r with
  | start =>
      have hn : s.phase.next? .start = none := by rw [hp]; rfl
      have ha : (s.emit (.asked "start")).applies .start = false := by
        rw [applies, phase_emit, hn]; rfl
      have ho : s.onRequest .start = (s.emit (.asked "start")).transition .start := by
        exact if_neg fun h => Bool.false_ne_true (ha.symm.trans h)
      rw [ho, transition, phase_emit, hn]
      exact (excess_put (s.emit (.asked "start")) rfl).trans (excess_put s rfl)
  | stop =>
      have h₁ : (s.onRequest .stop).phase = .stopped := phase_stop (s := s.emit _) hp
      rw [he, hp] at h₁
      cases h₁
  | restart =>
      have h₁ : (s.onRequest .restart).phase = .restarting := phase_restart (s := s.emit _) hp _
      rw [he, hp] at h₁
      cases h₁
  | toggleRecording => exact absurd rfl hr

/-- **What is not to be seen meets no limit.** -/
theorem excess_of_eq (hs : Settled s) (hp : s.phase = .running)
    (hd : s.drainDeadline = none) (hi : 0 < s.watchdog.interval) {x : Stimulus}
    (hx : x.lifecycle? = some x) (ht : x.isTime = false)
    (he : (s.react x).lifecycle = s.lifecycle) :
    (s.react x).excess? = s.excess? := by
  have hph : (s.react x).phase = s.phase := congrArg Lifecycle.phase he
  have hxe := hs.exited_of_running hp
  have hr : s.react x = s.answer x := by
    rw [react, hxe]
    rfl
  rw [hr] at he hph ⊢
  cases x with
  | request r => exact excess_onRequest hp (by rintro rfl; cases hx) hph
  | abandoned =>
      have h₁ : (s.answer .abandoned).phase = .stopped := phase_stop (s := (s.log _ _ _).emit _) hp
      rw [hph, hp] at h₁
      cases h₁
  | status m => exact excess_onStatus hp m hph
  | wake =>
      have hw : s.answer .wake = s.watch := onWake_of_running hs hp hd
      rw [hw] at he ⊢
      cases hdue : s.watchdog.isDue s.now with
      | true => exact absurd he (lifecycle_watch_ne hi hp hdue)
      | false =>
          rw [watch, Watchdog.check, hdue]
          rfl
  | pass => cases ht
  | frame | script => rfl
  | files => cases hx

end Answers

/-! ### There is always more to be seen -/

namespace Course

lemma after_add (c : Course) (m n : Nat) : (c.after m).after n = c.after (m + n) := by
  induction n with
  | zero => rfl
  | succ n ih => exact congrArg step ih

end Course

namespace Bare

variable {interval : Nat} {c : Course}

/-- A course that runs wakes up when nothing else is left to be met. -/
lemma exists_due (h : Bare interval c) (hp : c.state.phase = .running) (hc : c.cues = []) :
    ∃ t, c.due? = some t := by
  have hn : c.state.nextWake.isSome = true := by
    rw [isSome_nextWake_iff h.settled, hp]
    simp
  obtain ⟨t, ht⟩ := Option.isSome_iff_exists.1 hn
  refine ⟨t, Course.due?_eq_some_iff.2 ⟨h.settled.exited_of_running hp, ht, ?_⟩⟩
  rw [hc]
  rintro _ ⟨⟩

/-- A wake-up is to be seen. -/
lemma lifecycle_step_ne (h : Bare interval c) (hi : 0 < interval) (hb : c.isBroken = false)
    (hp : c.state.phase = .running) {t : Nat} (ht : c.due? = some t) :
    c.step.state.lifecycle ≠ c.state.lifecycle := by
  obtain ⟨hx, hn, -⟩ := Course.due?_eq_some_iff.1 ht
  have hd : c.state.watchdog.deadline = some t := by
    rcases nextWake_cases hn with hw | hw | hw
    · have hw' : c.state.wakeAt.isSome = true := by rw [hw]; rfl
      rcases h.settled.wakeAt.1 hw' with h' | h' <;> simp [hp] at h'
    · exact hw
    · rw [h.spared] at hw
      cases hw
  have hr : (c.state.waitTill t).react .wake = (c.state.waitTill t).watch := by
    have hxw : (c.state.waitTill t).exited = false := hx
    rw [react_of_not_exited hxw]
    exact onWake_of_running (h.settled.host _) hp h.spared
  have hdue : (c.state.waitTill t).watchdog.isDue (c.state.waitTill t).now = true := by
    have hdw : (c.state.waitTill t).watchdog.deadline = some t := hd
    rw [Watchdog.isDue, hdw, now_waitTill]
    simp
  have hiw : 0 < (c.state.waitTill t).watchdog.interval := hi.trans_eq h.interval_eq.symm
  rw [Course.step_of_due hb ht, hr]
  exact lifecycle_watch_ne hiw hp hdue

/-- **A course that runs shows something more**, sooner or later. -/
theorem exists_change (h : Bare interval c) (hi : 0 < interval) (hb : c.isBroken = false)
    (hp : c.state.phase = .running) :
    ∃ k, (c.after (k + 1)).state.lifecycle ≠ (c.after k).state.lifecycle := by
  induction hc : c.cues generalizing c with
  | nil =>
      obtain ⟨t, ht⟩ := h.exists_due hp hc
      exact ⟨0, h.lifecycle_step_ne hi hb hp ht⟩
  | cons x xs ih =>
      cases hd : c.due? with
      | some t => exact ⟨0, h.lifecycle_step_ne hi hb hp hd⟩
      | none =>
          by_cases he : c.step.state.lifecycle = c.state.lifecycle
          · have hm : x ∈ c.cues := by
              rw [hc]
              exact List.mem_cons_self
            have hs := Course.step_of_cons hb hd hc
            have hb' : c.step.isBroken = false := by
              rw [hs] at he ⊢
              have hx := excess_of_eq (s := c.state.waitTill x.instant)
                (h.settled.host _) hp h.spared (hi.trans_eq h.interval_eq.symm) (h.cues x hm)
                (h.still x hm) he
              exact (congrArg Option.isSome hx).trans hb
            obtain ⟨k, hk⟩ := ih h.step hb' ((congrArg Lifecycle.phase he).trans hp) (by rw [hs])
            refine ⟨k + 1, ?_⟩
            have ha : ∀ m, c.step.after m = c.after (m + 1) := fun m => by
              rw [add_comm]
              exact c.after_add 1 m
            rwa [ha, ha] at hk
          · exact ⟨0, he⟩

end Bare

end StreamWarden.Supervisor
