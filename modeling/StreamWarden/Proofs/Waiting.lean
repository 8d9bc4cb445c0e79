import StreamWarden.Proofs.Conservation
import StreamWarden.Proofs.Inert
import StreamWarden.Proofs.Milestones
import StreamWarden.Proofs.Timed

/-!
# Waits are neither cut short nor extended

Before it builds a graph anew, a supervisor waits: for the settle delay when it has taken
a graph down, for the retry delay when an attempt has failed.  Until then it hears
requests, messages of graphs that are gone, and wake-ups that come early.  None of them
may touch the deadline, or a steady stream of them would put the rebuild off for ever.

* `Lapsed`: nothing has changed but the time and the words that were said.
* `lapsed_run`: so it is as long as nobody stops the stream and no wake-up comes late.
* `Rests`: after an attempt no other is made before an instant; `rests_run` says that this
  holds until then.
* `streak`: the failures in a row that the events tell of.
* **`wait_of_run`**: the waits of every run.
-/

namespace StreamWarden

/-- The failures in a row after one more event. -/
def Event.streak (n : Nat) (e : Event) : Nat :=
  match e.kind with
  | .buildFailed => n + 1
  | .graphPlaying => 0
  | _ => n

/-- The attempts that have failed in a row at the end of some events. -/
def streak (es : List Event) : Nat := es.foldl Event.streak 0

lemma Event.streak_of_not_isMilestone (n : Nat) {e : Event} (he : e.isMilestone = false) :
    e.streak n = n := by
  revert he
  simp only [isMilestone, streak]
  cases e.kind <;> simp

section Streak

variable (n g : Nat)

@[simp] lemma Event.streak_change (p q : Phase) (input : Phase.Input) :
    streak n (.change p q input) = n := by cases input <;> rfl

@[simp] lemma Event.streak_playing : streak n (.playing g) = 0 := rfl

@[simp] lemma Event.streak_missed (attempt : Nat) (e : BuildError) :
    streak n (.missed g attempt e) = n + 1 := rfl

@[simp] lemma Event.streak_delayed (attempt delay : Nat) :
    streak n (.delayed attempt delay) = n := rfl

@[simp] lemma Event.streak_restarting (cause : RestartCause) :
    streak n (.restarting cause g) = n := rfl

@[simp] lemma Event.streak_tornDown : streak n (.tornDown g) = n := rfl

end Streak

/-- The milestones alone tell of the failures. -/
lemma streak_append (es fs : List Event) :
    streak (es ++ fs) = (fs.filter Event.isMilestone).foldl Event.streak (streak es) := by
  rw [streak, List.foldl_append, List.foldl_filter]
  congr 1
  funext n e
  cases he : e.isMilestone with
  | true => rfl
  | false => exact e.streak_of_not_isMilestone n he

namespace Supervisor

open State

/-- The stimulus leaves a wait alone: neither is it a request to stop, nor does it alter
what the supervisor works on. -/
def Stimulus.bides : Stimulus → Bool
  | .request .stop | .abandoned | .files _ | .script _ => false
  | .request _ | .status _ | .wake | .pass _ | .frame _ => true

/-- What is said to a stimulus in a wait. -/
def Stimulus.remarks : Stimulus → List Event
  | .request .restart => [.asked "restart", .coalesced .external]
  | .request .toggleRecording => [.asked "toggle_recording", .disarmed]
  | .request r => [.asked r.label]
  | _ => []

/-- `t` is `s` but for the clock and the frame probes, and for words: the events `es`, and
records of the log. -/
def Lapsed (s : State) (es : List Event) (t : State) : Prop :=
  ∃ now probes outs,
    t = { s with now := now, probes := probes, journal := outs ++ s.journal } ∧
      (outs.filterMap Output.event?).reverse = es ∧ ∀ o ∈ outs, o.isWord = true

namespace Lapsed

variable {s t u : State} {es fs : List Event}

lemma refl (s : State) : Lapsed s [] s := ⟨s.now, s.probes, [], rfl, rfl, by simp⟩

lemma trans (h : Lapsed s es t) (h' : Lapsed t fs u) : Lapsed s (es ++ fs) u := by
  obtain ⟨_, _, os, rfl, rfl, hw⟩ := h
  obtain ⟨n, ps, os', rfl, rfl, hw'⟩ := h'
  exact ⟨n, ps, os' ++ os, by rw [List.append_assoc],
    by rw [List.filterMap_append, List.reverse_append],
    fun o ho => (List.mem_append.1 ho).elim (hw' o) (hw o)⟩

lemma said (h : Said s es t) : Lapsed s es t := by
  obtain ⟨outs, rfl, he⟩ := h
  exact ⟨s.now, s.probes, outs, rfl, he⟩

lemma wakeAt (h : Lapsed s es t) : t.wakeAt = s.wakeAt := by
  obtain ⟨_, _, _, rfl, -⟩ := h
  rfl

lemma generation (h : Lapsed s es t) : t.generation = s.generation := by
  obtain ⟨_, _, _, rfl, -⟩ := h
  rfl

end Lapsed

/-! ### Nothing touches a wait -/

section Wait

variable {s : State} {d : Nat}

/-- Without a session, a wake-up has no drain to look after. -/
lemma onWake_of_none (hs : s.session = none) : s.onWake = s.endDelay.watch := by
  have hf : s.toStudio.finishDrain s.now s.graph = s.toStudio := by
    rw [Studio.finishDrain]
    split
    · exact Studio.detach_of_none hs _ _
    · rfl
  have ho : (s.onStudio fun studio => studio.finishDrain s.now s.graph) = s :=
    congrArg (fun a => { s with toStudio := a }) hf
  rw [onWake, ho]

/-- A wake-up before the end of a wait finds nothing to do. -/
lemma onWake_of_waiting (hs : Settled s) (hp : s.phase ≠ .running)
    (hw : ∀ t ∈ s.wakeAt, s.now < t) : s.onWake = s := by
  rw [onWake_of_none (hs.session_eq_none hp), endDelay_of_early hw, watch_of_early]
  simp [hs.deadline_eq_none hp]

/-- **In a wait nothing but words comes of a stimulus.** -/
theorem lapsed_react (hs : Settled s) (hw : s.wakeAt = some d) {x : Stimulus}
    (hx : x.bides = true) (he : x = .wake → s.now < d) : Lapsed s x.remarks (s.react x) := by
  have hp : s.phase = .restarting ∨ s.phase = .backoffWait := hs.wakeAt.1 (by rw [hw]; rfl)
  have hr : s.phase ≠ .running := by rcases hp with hp | hp <;> simp [hp]
  rw [react_of_not_exited (hs.exited_eq_false (by rcases hp with hp | hp <;> simp [hp]))]
  cases x with
  | request r =>
      cases r with
      | start =>
          refine .said (said_start ?_)
          rcases hp with hp | hp <;> rw [hp] <;> rfl
      | stop => cases hx
      | restart =>
          refine .said (said_restart hr ?_)
          rcases hp with hp | hp <;> rw [hp] <;> rfl
      | toggleRecording =>
          exact .said (said_toggle (hs.session_eq_none hr) (hs.armed_eq_false hr))
  | status m =>
      refine .said (said_onStatus_of_stale ?_)
      simp [liveGeneration, hs.graph_eq_none hr]
  | wake =>
      have ho : s.onWake = s := by
        refine onWake_of_waiting hs hr ?_
        rw [hw]
        rintro _ ⟨⟩
        exact he rfl
      change Lapsed s [] s.onWake
      rw [ho]
      exact .refl s
  | pass span => exact ⟨s.now + span, s.probes, [], rfl, rfl, by simp⟩
  | frame number => exact ⟨s.now, _, [], rfl, rfl, by simp⟩
  | abandoned | files | script => cases hx

/-- **Nothing touches a wait** but a stop and a wake-up at its end. -/
theorem lapsed_run (hs : Settled s) (hw : s.wakeAt = some d) {ys : List Stimulus}
    (hb : ∀ y ∈ ys, y.bides = true) (he : ∀ zs, zs ++ [.wake] <+: ys → (s.run zs).now < d) :
    Lapsed s (ys.flatMap Stimulus.remarks) (s.run ys) := by
  induction ys using List.reverseRecOn with
  | nil => exact .refl s
  | append_singleton ys y ih =>
      have hl := ih (fun z hz => hb z (List.mem_append_left _ hz))
        fun zs hz => he zs (hz.trans (List.prefix_append _ _))
      have hs' : Settled (s.run ys) :=
        run_invariant (P := Settled) (fun _ x hs => settled_react hs x) hs ys
      have hr := lapsed_react hs' (hl.wakeAt.trans hw) (hb y (by simp)) ?_
      · rw [run_concat, List.flatMap_append, List.flatMap_singleton]
        exact hl.trans hr
      · rintro rfl
        exact he ys (List.prefix_refl _)

/-- A restart builds nothing. -/
lemma generation_restart (s : State) (cause : RestartCause) :
    (s.restart cause).generation = s.generation := by
  by_cases hp : s.phase = .running
  · exact (told_restart hp cause).generation
  · by_cases hr : (s.restartPending.isSome || s.phase.rebuildPending) = true
    · exact (told_restart_of_pending hp hr cause).generation
    · exact (told_restart_of_idle hp hr cause).generation

/-- Nor does the watchdog. -/
lemma generation_watch (s : State) : s.watch.generation = s.generation := by
  have hq : ∀ (w : Watchdog) (b : Bool),
      (if b then ({ s with watchdog := w } : State).schedule w.deadline
        else { s with watchdog := w }).generation = s.generation := by
    intro w b
    cases b <;> rfl
  simp only [watch]
  split
  · exact (generation_restart _ _).trans (hq _ _)
  · exact hq _ _
  · exact hq _ _

/-- **A wake-up at the end of a wait makes one attempt.** -/
theorem generation_onWake_of_due (hs : Settled s) (hw : s.wakeAt = some d) (hd : d ≤ s.now) :
    s.onWake.generation = s.generation + 1 := by
  obtain ⟨hx, input, hn, he⟩ := endDelay_of_due hs hw hd
  have hp : s.phase ≠ .running := Phase.ne_running_of_next hn
  rw [onWake_of_none (hs.session_eq_none hp), generation_watch, he]
  rcases ha : s.answerOf with ⟨b, e | graph⟩
  · exact (told_miss (s := { s with wakeAt := none }) hn ha).generation
  · exact (told_launch (s := { s with wakeAt := none }) hn ha).generation

end Wait

/-! ### No attempt comes too soon -/

/-- After the attempt with number `g`, no other is made before the instant `due`. -/
def Rests (g due now : Nat) (p : Standing) : Prop :=
  due ≤ now ∨ p.generation = g ∧ p.phase ≠ .running ∧
    (p.exited = true ∨ ∃ d, p.wakeAt = some d ∧ due ≤ d)

section Rest

variable {s t : State} {ms es : List Event} {p : Standing} {g due : Nat}

/-- The next attempt comes at the end of a wait that was not cut short. -/
lemma Leg.rests (h : Leg s ms p) (hr : Rests g due s.now s.standing) :
    Rests g due s.now p := by
  rcases hr with hr | ⟨hg, hp, hr⟩
  · exact .inl hr
  cases h with
  | stay => exact .inr ⟨hg, hp, hr⟩
  | launch hx _ hw | miss hx _ hw _ =>
      rcases hr with hr | ⟨d, hd, hr⟩
      · exact absurd (hx.symm.trans hr) Bool.false_ne_true
      · exact .inl (hr.trans (hw d hd))
  | restart hn => exact absurd hn hp
  | stop => exact .inr ⟨hg, by simp, .inl rfl⟩
  | leave => exact .inr ⟨hg, hp, .inl rfl⟩

lemma Move.rests (h : Move s es t) (hs : Settled s) (hr : Rests g due s.now s.standing) :
    Rests g due t.now t.standing := by
  rw [h.steady.now]
  exact (h.leg hs).rests hr

/-- **Until it is due, no other attempt is made.** -/
theorem rests_run (hs : Settled s) (hr : Rests g due s.now s.standing) (ys : List Stimulus) :
    Rests g due (s.run ys).now (s.run ys).standing := by
  refine (run_invariant (P := fun t => Settled t ∧ Rests g due t.now t.standing) ?_ ⟨hs, hr⟩ ys).2
  intro t y ht
  refine ⟨settled_react ht.1 y, react_keeps (P := fun t => Rests g due t.now t.standing)
    (fun hs hr h => h.rests hs hr) ?_ ht.1 ht.2 y⟩
  intro t span hr
  exact hr.imp_left fun h => h.trans (Nat.le_add_right _ _)

/-- What comes of a rest that began in the middle of an answer. -/
lemma due_le_of_rests (h : Moves t es s) (ht : Settled t) {now : Nat} (hn : t.now = now)
    (hr : Rests g due now t.standing) (ys : List Stimulus)
    (hg : (s.run ys).generation ≠ g) : due ≤ (s.run ys).now := by
  subst hn
  have hs : Rests g due s.now s.standing :=
    h.keep (P := fun t => Rests g due t.now t.standing) (fun hs hr h => h.rests hs hr) ht hr
  exact (rests_run (h.settled ht) hs ys).resolve_right fun hn => hg hn.1

/-- A graph is taken down for a rebuild after the settle delay, or for good. -/
lemma Leg.rests_of_tornDown (h : Leg s ms p) (hg : .tornDown g ∈ ms) :
    g = s.generation ∧ Rests g (s.now + s.settleDelay) s.now p := by
  have hm : ms.any (Event.isOf .graphTornDown g) = true :=
    List.any_eq_true.2 ⟨_, hg, Event.isOf_eq_true_iff.2 ⟨rfl, rfl⟩⟩
  cases h with
  | stay | leave => cases hg
  | launch | miss => simp at hm
  | restart =>
      obtain rfl : s.generation = g := by simpa using hm
      exact ⟨rfl, .inr ⟨rfl, by simp, .inr ⟨_, rfl, le_rfl⟩⟩⟩
  | stop =>
      obtain rfl : s.generation = g := by
        revert hm
        split <;> simp
      exact ⟨rfl, .inr ⟨rfl, by simp, .inl rfl⟩⟩

/-- **A rebuild after a teardown waits for the settle delay.** -/
theorem settleDelay_le (hs : Settled s) {x : Stimulus}
    (h : (s.react x).events = s.events ++ es) (hg : .tornDown g ∈ es) (ys : List Stimulus)
    (hy : ((s.react x).run ys).generation ≠ g) :
    s.now + s.settleDelay ≤ ((s.react x).run ys).now := by
  obtain ⟨s', t', pre, mid, post, hpre, -, ht, hst, hl, hpost, -, hm⟩ :=
    exists_leg_of_mem hs h hg rfl
  obtain ⟨-, hr⟩ := hl.rests_of_tornDown hm
  have hd := hpre.steady
  rw [hd.now, hd.settleDelay] at hr
  exact due_le_of_rests hpost ht (hst.now.trans hd.now) hr ys hy

/-! ### The failures in a row -/

/-- A failure is one more in a row, as far as 32 bits count; a graph that plays ends the
row. -/
lemma Leg.failures (h : Leg s ms p) {n : Nat} (hn : s.buildFailures = min n Event.maxShortCount) :
    p.failures = min (ms.foldl Event.streak n) Event.maxShortCount := by
  cases h with
  | stay | leave => exact hn
  | launch => simp
  | miss =>
      simp only [List.foldl_cons, List.foldl_nil, Event.streak_change, Event.streak_missed,
        Event.streak_delayed, tries, hn]
      omega
  | restart => simpa using hn
  | stop => split <;> simpa using hn

/-- The count of failures is that of which the events tell. -/
def Counted (s : State) : Prop := s.buildFailures = min (streak s.events) Event.maxShortCount

lemma Move.counted (h : Move s es t) (hs : Settled s) (hc : Counted s) : Counted t := by
  rw [Counted, h.events, streak_append]
  exact (h.leg hs).failures hc

/-- **In every run the failures are counted as the events tell of them.** -/
theorem run_counted (u : Setup) (xs : List Stimulus) : Counted (u.begin.run xs) :=
  run_keeps (P := Counted) (fun hs hc h => h.counted hs hc) (fun _ hc => hc) u rfl xs

/-- An attempt that has failed is the next in the row, and the next one follows after the
retry delay. -/
lemma Leg.rests_of_missed (h : Leg s ms p) {k : Nat} {e : BuildError}
    (hg : .missed g k e ∈ ms) :
    ∃ c c' pause, ms = [c, .missed g k e, c', .delayed k pause] ∧
      (∀ n, Event.streak n c = n) ∧ k = s.tries ∧
      pause = s.retry.next (k - 1) (s.draws g) ∧ Rests g (s.now + pause) s.now p := by
  have hm : ms.any (Event.isOf .buildFailed g) = true :=
    List.any_eq_true.2 ⟨_, hg, Event.isOf_eq_true_iff.2 ⟨rfl, rfl⟩⟩
  cases h with
  | stay | leave => cases hg
  | launch | restart => simp at hm
  | stop =>
      revert hm
      split <;> simp
  | @miss input e' pause _ _ _ hd =>
      have hq : Event.missed g k e = .missed (s.generation + 1) s.tries e' := by
        have hi : (Event.missed g k e).isOf .buildFailed g = true := by simp
        rcases List.mem_cons.1 hg with h | hg
        · simp [h] at hi
        rcases List.mem_cons.1 hg with h | hg
        · exact h
        rcases List.mem_pair.1 hg with h | h <;> simp [h] at hi
      obtain rfl : g = s.generation + 1 := Option.some.inj (congrArg Event.generation? hq)
      obtain rfl : k = s.tries := Option.some.inj (congrArg Event.attempt? hq)
      exact ⟨_, _, pause, by rw [hq], fun n => Event.streak_change n _ _ _, rfl, hd,
        .inr ⟨rfl, by simp, .inr ⟨_, rfl, le_rfl⟩⟩⟩

/-- **The attempt after a failure waits for the retry delay**, which is worked out from the
number of the failures in a row and told at once. -/
theorem retryDelay_le (hs : Settled s) (hc : Counted s) {x : Stimulus}
    (h : (s.react x).events = s.events ++ es) {k : Nat} {e : BuildError}
    (hg : .missed g k e ∈ es) :
    ∃ pre post, es = pre ++ .missed g k e :: post ∧
      k = min (streak (s.events ++ pre) + 1) Event.maxShortCount ∧
      .delayed k (s.retry.next (k - 1) (s.draws g)) ∈ post ∧
      ∀ ys, ((s.react x).run ys).generation ≠ g →
        s.now + s.retry.next (k - 1) (s.draws g) ≤ ((s.react x).run ys).now := by
  obtain ⟨s', t', pre, mid, post, hpre, -, ht, hst, hl, hpost, rfl, hm⟩ :=
    exists_leg_of_mem hs h hg rfl
  obtain ⟨c, c', pause, hf, hq, hk, rfl, hr⟩ := hl.rests_of_missed hm
  have hd := hpre.steady
  rw [hd.retry, hd.draws] at hf hr
  obtain ⟨l₁, l₂, rfl, h₁, h₂⟩ := exists_of_filter_eq (a := [c]) hf
  refine ⟨pre ++ l₁, l₂ ++ post, by simp, ?_, ?_, ?_⟩
  · have hc' : Counted s' := hpre.keep (P := Counted) (fun hs hc h => h.counted hs hc) hs hc
    have hn : streak (s.events ++ (pre ++ l₁)) = streak s'.events := by
      rw [← List.append_assoc, ← hpre.events, streak_append, h₁]
      exact hq _
    rw [hk, tries, hc', hn]
    omega
  · refine List.mem_append_left _ (List.mem_of_mem_filter (p := Event.isMilestone) ?_)
    rw [h₂]
    simp
  · intro ys hy
    rw [hd.now] at hr
    exact due_le_of_rests hpost ht (hst.now.trans hd.now) hr ys hy

end Rest

/-! ### The waits of a run -/

/-- **Waits are neither cut short nor extended.**  Whenever a run waits until `d`, that is
in `restarting` and in `backoffWait`, then after any requests to start, to restart and to
record, any status messages, frames and passing of time, and any wake-ups before `d`,
nothing has changed but the clock, the frame probes and the words that were said; and the
first wake-up that does not come before `d` makes exactly one attempt.  So no other attempt
is made before the settle delay is over after a teardown; and none is made, after the
`k`-th failure in a row, before the retry delay is over, which was told then if no limit of
the machine was met. -/
theorem wait_of_run (u : Setup) (xs : List Stimulus) :
    let s := u.begin.run xs
    (∀ d ys, s.wakeAt = some d → (∀ y ∈ ys, y.bides = true) →
        (∀ zs, zs ++ [.wake] <+: ys → (s.run zs).now < d) →
        Lapsed s (ys.flatMap Stimulus.remarks) (s.run ys) ∧
          (d ≤ (s.run ys).now →
            let t := (s.run ys).react .wake
            t.generation = s.generation + 1 ∧
              t.backend.stats.builds + t.backend.stats.failedBuilds =
                s.backend.stats.builds + s.backend.stats.failedBuilds + 1)) ∧
      (∀ x es g, (s.react x).events = s.events ++ es → .tornDown g ∈ es →
        ∀ ys, ((s.react x).run ys).generation ≠ g →
          s.now + u.settings.settleDelay ≤ ((s.react x).run ys).now) ∧
      ∀ x es g k e, (s.react x).events = s.events ++ es → .missed g k e ∈ es →
        ∃ pre post, es = pre ++ .missed g k e :: post ∧
          k = min (streak (s.events ++ pre) + 1) Event.maxShortCount ∧
          let delay := u.settings.retry.next (k - 1) (u.draws g)
          ((s.react x).excess? = none → .delayed k delay ∈ post) ∧
            ∀ ys, ((s.react x).run ys).generation ≠ g →
              s.now + delay ≤ ((s.react x).run ys).now := by
  intro s
  have hs : Settled s := run_settled u xs
  have hu : Configured u s := run_configured u xs
  refine ⟨fun d ys hw hb he => ?_, fun x es g h hg ys hy => ?_, fun x es g k e h hg => ?_⟩
  · have hl := lapsed_run hs hw hb he
    refine ⟨hl, fun hd => ?_⟩
    have hr : s.run ys = u.begin.run (xs ++ ys) := (List.foldl_append ..).symm
    have hs' : Settled (s.run ys) := hr ▸ run_settled u _
    have hx : (s.run ys).exited = false := (endDelay_of_due hs' (hl.wakeAt.trans hw) hd).1
    have ht : ((s.run ys).react .wake).generation = s.generation + 1 := by
      rw [react_of_not_exited hx, ← hl.generation]
      exact generation_onWake_of_due hs' (hl.wakeAt.trans hw) hd
    refine ⟨ht, ?_⟩
    have hb' : Booked ((s.run ys).react .wake) := by
      rw [hr, ← run_concat]
      exact run_booked u _
    rw [hb'.attempts_eq, ht, (run_booked u xs).attempts_eq]
  · rw [← hu.settleDelay]
    exact settleDelay_le hs h hg ys hy
  · rw [← hu.retry, ← hu.draws]
    obtain ⟨pre, post, he, hk, hd, hy⟩ := retryDelay_le hs (run_counted u xs) h hg
    exact ⟨pre, post, he, hk, fun _ => hd, hy⟩

end Supervisor

end StreamWarden
