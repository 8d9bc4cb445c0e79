import StreamWarden.Proofs.Limits
import StreamWarden.Proofs.Vigil
import StreamWarden.Supervisor.Loop

/-!
# When a supervisor comes to rest

A wake-up does all that is due, and sets new deadlines on the way.  One that is set to the
present instant is due at once, and if that went on, the loop would never sleep again.  The
watchdog and a drain keep it awake no longer than one wake-up, and a rebuild no longer than
two; only a retry delay of nothing can do so for ever, as long as the backend refuses.

* `State.woken`: wake-ups in a row, at one instant; `State.Falters`: a wake-up makes an
  attempt in vain, and the next one is to follow at once.
* `isDue_wake_iff`: what keeps the loop awake after a wake-up; `isDue_watchdog_wake`: it is
  not the watchdog.
* `woken_of_refused`: how a loop spins.
* **`isDue_of_run`**: when the loop has something to do after two wake-ups in a row.
-/

namespace StreamWarden.Supervisor

open State

/-- The state after wake-ups in a row, between which no time passes. -/
def State.woken (s : State) (n : Nat) : State := s.run (List.replicate n .wake)

/-- The next wake-up makes an attempt in vain, and the delay before the one after it is
nothing. -/
def State.Falters (s : State) : Prop :=
  (s.react .wake).generation = s.generation + 1 ∧ (s.react .wake).phase = .backoffWait ∧
    s.retry.next ((s.react .wake).buildFailures - 1) (s.draws (s.generation + 1)) = 0

section Wake

variable {s t : State} {es : List Event}

/-- Nothing is due as long as each deadline is to come. -/
lemma isDue_eq_false_iff : Loop.isDue s = false ↔ (∀ d ∈ s.wakeAt, s.now < d) ∧
    (∀ d ∈ s.watchdog.deadline, s.now < d) ∧ ∀ d ∈ s.drainDeadline, s.now < d := by
  have hd : Loop.isDue s = false ↔ ∀ d ∈ s.nextWake, s.now + 1 ≤ d := by
    rw [Loop.isDue]
    cases s.nextWake with
    | none => simp
    | some w => simp
  rw [hd, nextWake, forall_mem_earlier, forall_mem_earlier]
  rfl

/-- What is told makes nothing due. -/
lemma isDue_of_told (h : Told s es t) : Loop.isDue t = Loop.isDue s := by
  obtain ⟨files, outs, rfl, -⟩ := h
  rfl

/-- A delay that begins now is over at once when it is nothing. -/
lemma isDue_of_delay {d : Nat} (hw : s.wakeAt = some (s.now + d))
    (hl : s.watchdog.deadline = none) (hn : s.session = none) :
    Loop.isDue s = decide (d = 0) := by
  have hd : s.drainDeadline = none := by rw [Studio.drainDeadline, hn]; rfl
  rw [Loop.isDue, nextWake, hw, hl, hd]
  exact decide_eq_decide.2 ⟨by omega, by omega⟩

/-- A drain that is due is over after the first part of a wake-up. -/
lemma lt_of_drained : ∀ d ∈ s.drained.drainDeadline, s.now < d := by
  intro d hd
  by_cases h : s.isDrained s.now = true
  · have hs : s.drained.session = none := by
      have he : s.drained = s.onStudio fun a => a.detach s.graph "drained" :=
        congrArg (fun a => s.onStudio fun _ => a) (if_pos h)
      rw [he]
      exact s.toStudio.detach_session _ _
    rw [Studio.drainDeadline, hs] at hd
    cases hd
  · have he : s.drained = s := congrArg (fun a => s.onStudio fun _ => a) (if_neg h)
    rw [he] at hd
    rw [Studio.isDrained, Option.mem_def.1 hd] at h
    simpa using h

/-! ### What comes of a wake-up -/

/-- What becomes of a supervisor that is woken: nothing is due any more, or its graph was
taken down, or it has made an attempt in vain. -/
inductive Wakes (s t : State) : Prop where
  | rest (hd : Loop.isDue t = false) (hp : t.phase = .running ∨ t = s ∧ s.phase ≠ .running)
  | replace (hp : s.phase = .running) (hq : t.phase = .restarting)
      (hd : Loop.isDue t = decide (s.settleDelay = 0))
  | miss (hp : s.phase ≠ .running) (hq : t.phase = .backoffWait)
      (hg : t.generation = s.generation + 1)
      (hd : Loop.isDue t =
        decide (s.retry.next (t.buildFailures - 1) (s.draws (s.generation + 1)) = 0))

lemma wakes_of_stalled (hs : Settled s) {age : Nat} (hv : s.verdict = some (.stalled age)) :
    Wakes s (s.react .wake) := by
  obtain ⟨ds, es, -, -, ht, -⟩ := wake_of_stalled hs hv
  refine .replace (hs.watchdog.1 (isArmed_of_verdict hv)) ht.phase ?_
  rw [isDue_of_told ht]
  exact isDue_of_delay rfl rfl rfl

/-- A look that finds no stall leaves nothing that is due. -/
lemma isDue_watch (hi : 0 < s.watchdog.interval) (hw : s.wakeAt = none)
    (hd : ∀ d ∈ s.drainDeadline, s.now < d) (hv : ∀ age, s.verdict ≠ some (.stalled age)) :
    Loop.isDue s.watch = false := by
  cases h : s.verdict with
  | none =>
      rw [watch_of_none h]
      refine isDue_eq_false_iff.2 ⟨by simp [hw], fun d hl => ?_, hd⟩
      refine Nat.lt_of_not_le fun hle => ?_
      have hx : s.watchdog.isDue s.now = true := by
        rw [Watchdog.isDue, Option.mem_def.1 hl]
        exact decide_eq_true hle
      rw [verdict_eq, if_pos hx] at h
      cases h
  | some v =>
      obtain ⟨files, outs, ht, -⟩ := told_watch h fun age hn => hv age (h.trans (congrArg some hn))
      rw [ht]
      refine isDue_eq_false_iff.2 ⟨by simp [hw], ?_, hd⟩
      rintro _ ⟨⟩
      exact Nat.lt_add_of_pos_right hi

/-- While the stream runs, a wake-up leaves nothing that is due, unless it finds a stall. -/
lemma rest_of_running (hs : Settled s) (hi : 0 < s.watchdog.interval) (hp : s.phase = .running)
    (hv : ∀ age, s.verdict ≠ some (.stalled age)) :
    Loop.isDue (s.react .wake) = false ∧ (s.react .wake).phase = .running := by
  have hx : s.exited = false := hs.exited_eq_false (by rw [hp]; exact nofun)
  have hr : s.react .wake = s.drained.watch := by
    rw [react_of_not_exited hx, State.answer, onWake_eq_watch hs hp]
  have hw : s.drained.wakeAt = none := hs.wakeAt_eq_none (.inr hp)
  have hn : s.drained.now = s.now := (calm_drained s).now
  have hv' : ∀ age, s.drained.verdict ≠ some (.stalled age) := by
    rw [verdict_drained]
    exact hv
  rw [hr]
  refine ⟨isDue_watch hi hw (hn ▸ lt_of_drained) hv', ?_⟩
  cases h : s.drained.verdict with
  | none => rw [watch_of_none h]; exact hp
  | some v => exact (told_watch h fun age he => hv' age (h.trans (congrArg some he))).phase.trans hp

/-- A wake-up at the end of a delay ends it, makes an attempt, and then looks. -/
lemma wake_of_due (hs : Settled s) {d : Nat} (hw : s.wakeAt = some d) (hd : d ≤ s.now) :
    ∃ input, s.phase.next? input = some .starting ∧
      s.react .wake = (({ s with wakeAt := none }.transition input).attempt).watch := by
  obtain ⟨hx, input, hn, he⟩ := endDelay_of_due hs hw hd
  have hp : s.phase ≠ .running := Phase.ne_running_of_next hn
  refine ⟨input, hn, ?_⟩
  rw [react_of_not_exited hx, State.answer, onWake_of_none (hs.session_eq_none hp), he]

/-- After an attempt that has failed there is nothing to look at. -/
lemma told_wake_of_miss (hs : Settled s) {d : Nat} (hw : s.wakeAt = some d) (hd : d ≤ s.now)
    {b : Backend} {e : BuildError} (ha : s.answerOf = (b, .error e)) :
    ∃ es, Told (State.parked { s with wakeAt := none } b) es (s.react .wake) := by
  obtain ⟨input, hn, hr⟩ := wake_of_due hs hw hd
  have hl : s.watchdog.deadline = none := hs.deadline_eq_none (Phase.ne_running_of_next hn)
  have ht := told_miss (s := { s with wakeAt := none }) hn ha
  have hv : ((State.transition { s with wakeAt := none } input).attempt).verdict = none := by
    obtain ⟨files, outs, ht, -⟩ := ht
    rw [ht]
    exact congrArg Prod.snd (Watchdog.check_of_disarmed hl _ _)
  rw [hr, watch_of_none hv]
  exact ⟨_, ht⟩

/-- After an attempt that has succeeded it is too early to look. -/
lemma told_wake_of_launch (hs : Settled s) (hi : 0 < s.watchdog.interval) {d : Nat}
    (hw : s.wakeAt = some d) (hd : d ≤ s.now) {b : Backend} {graph : Graph}
    (ha : s.answerOf = (b, .ok graph)) :
    ∃ es, Told (State.launched { s with wakeAt := none } b graph) es (s.react .wake) := by
  obtain ⟨input, hn, hr⟩ := wake_of_due hs hw hd
  have ht := told_launch (s := { s with wakeAt := none }) hn ha
  have hv : ((State.transition { s with wakeAt := none } input).attempt).verdict = none := by
    obtain ⟨files, outs, ht, -⟩ := ht
    rw [ht]
    exact congrArg Prod.snd (Watchdog.check_of_early rfl (Nat.lt_add_of_pos_right hi) _)
  rw [hr, watch_of_none hv]
  exact ⟨_, ht⟩

/-- An attempt leaves nothing that is due, unless it fails and the next one is to follow at
once. -/
lemma wakes_of_attempt (hs : Settled s) (hi : 0 < s.watchdog.interval) {d : Nat}
    (hw : s.wakeAt = some d) (hd : d ≤ s.now) : Wakes s (s.react .wake) := by
  have hp : s.phase ≠ .running := by
    obtain ⟨input, hn, -⟩ := wake_of_due hs hw hd
    exact Phase.ne_running_of_next hn
  have hn : s.session = none := hs.session_eq_none hp
  rcases ha : s.answerOf with ⟨b, e | graph⟩
  · obtain ⟨es, ht⟩ := told_wake_of_miss hs hw hd ha
    refine .miss hp ht.phase ht.generation ?_
    have hf : (s.react .wake).buildFailures = s.tries := by
      obtain ⟨files, outs, ht, -⟩ := ht
      rw [ht]
      rfl
    rw [isDue_of_told ht, hf]
    exact isDue_of_delay (s := State.parked { s with wakeAt := none } b) rfl
      (hs.deadline_eq_none hp) hn
  · obtain ⟨es, ht⟩ := told_wake_of_launch hs hi hw hd ha
    refine .rest ?_ (.inl ht.phase)
    have hd : (State.launched { s with wakeAt := none } b graph).drainDeadline = none :=
      congrArg (Option.bind · _) hn
    rw [isDue_of_told ht, isDue_eq_false_iff, hd]
    refine ⟨nofun, ?_, nofun⟩
    rintro _ ⟨⟩
    exact Nat.lt_add_of_pos_right hi

/-- **What comes of a wake-up.** -/
theorem wakes_react (hs : Settled s) (hi : 0 < s.watchdog.interval) :
    Wakes s (s.react .wake) := by
  by_cases hp : s.phase = .running
  · by_cases hv : ∃ age, s.verdict = some (.stalled age)
    · obtain ⟨age, hv⟩ := hv
      exact wakes_of_stalled hs hv
    · obtain ⟨hd, hr⟩ := rest_of_running hs hi hp fun age h => hv ⟨age, h⟩
      exact .rest hd (.inl hr)
  · by_cases hw : ∃ d, s.wakeAt = some d ∧ d ≤ s.now
    · obtain ⟨d, hw, hd⟩ := hw
      exact wakes_of_attempt hs hi hw hd
    · have hw' : ∀ d ∈ s.wakeAt, s.now < d := fun d hd => by
        by_contra hle
        exact hw ⟨d, hd, Nat.le_of_not_lt hle⟩
      have hr : s.react .wake = s := by
        rw [react]
        split
        · rfl
        · exact onWake_of_waiting hs hp hw'
      rw [hr]
      refine .rest (isDue_eq_false_iff.2 ⟨hw', ?_, ?_⟩) (.inr ⟨rfl, hp⟩)
      · rw [hs.deadline_eq_none hp]
        rintro _ ⟨⟩
      · have hd : s.drainDeadline = none := congrArg (Option.bind · _) (hs.session_eq_none hp)
        rw [hd]
        rintro _ ⟨⟩

/-- A wake-up takes no time. -/
lemma now_wake (hs : Settled s) : (s.react .wake).now = s.now := (moves_tells hs rfl).steady.now

/-- **What keeps the loop awake after a wake-up** is a settle delay or a retry delay that is
nothing. -/
theorem isDue_wake_iff (hs : Settled s) (hi : 0 < s.watchdog.interval) :
    Loop.isDue (s.react .wake) = true ↔
      (s.phase = .running ∧ (s.react .wake).phase = .restarting ∧ s.settleDelay = 0) ∨
        s.Falters := by
  cases wakes_react hs hi with
  | rest hd hp =>
      rw [hd]
      refine iff_of_false nofun ?_
      rintro (⟨hr, hq, -⟩ | ⟨hg, hq, -⟩) <;> rcases hp with hp | ⟨ht, hp⟩
      · rw [hp] at hq
        cases hq
      · exact hp hr
      · rw [hp] at hq
        cases hq
      · rw [ht] at hg
        omega
  | replace hp hq hd =>
      rw [hd, decide_eq_true_iff]
      refine ⟨fun h => .inl ⟨hp, hq, h⟩, ?_⟩
      rintro (⟨-, -, h⟩ | ⟨-, h, -⟩)
      · exact h
      · rw [hq] at h
        cases h
  | miss hp hq hg hd =>
      rw [hd, decide_eq_true_iff]
      refine ⟨fun h => .inr ⟨hg, hq, h⟩, ?_⟩
      rintro (⟨h, -, -⟩ | ⟨-, -, h⟩)
      · exact absurd h hp
      · exact h

/-- No look is due after a wake-up. -/
lemma isDue_watchdog_wake (hs : Settled s) (hi : 0 < s.watchdog.interval) :
    (s.react .wake).watchdog.isDue (s.react .wake).now = false := by
  have hn : (s.react .wake).phase ≠ .running →
      (s.react .wake).watchdog.isDue (s.react .wake).now = false := fun hp => by
    rw [Watchdog.isDue, (settled_react hs .wake).deadline_eq_none hp]
    rfl
  cases wakes_react hs hi with
  | rest hd =>
      have hl := (isDue_eq_false_iff.1 hd).2.1
      refine Bool.eq_false_iff.2 fun h => ?_
      obtain ⟨d, hd, hle⟩ := (Option.any_eq_true _ _).1 h
      exact Nat.not_le.2 (hl d hd) (of_decide_eq_true hle)
  | replace _ hq => exact hn (by rw [hq]; decide)
  | miss _ hq => exact hn (by rw [hq]; decide)

/-- Without a look that is due, a wake-up takes no graph down. -/
lemma phase_wake_of_running (hs : Settled s) (hi : 0 < s.watchdog.interval)
    (hp : s.phase = .running) (hd : s.watchdog.isDue s.now = false) :
    (s.react .wake).phase = .running := by
  have hv : s.verdict = none := by
    rw [verdict_eq, hd]
    rfl
  exact (rest_of_running hs hi hp (by rw [hv]; exact nofun)).2

end Wake

/-! ### Wake-ups in a row -/

section Row

variable {s : State}

lemma woken_succ (s : State) (n : Nat) : s.woken (n + 1) = (s.woken n).react .wake := by
  rw [woken, woken, List.replicate_succ', run_concat]

lemma settled_woken (hs : Settled s) (n : Nat) : Settled (s.woken n) :=
  run_invariant (P := Settled) (fun _ x hs => settled_react hs x) hs _

lemma now_woken (hs : Settled s) (n : Nat) : (s.woken n).now = s.now := by
  induction n with
  | zero => rfl
  | succ n ih => rw [woken_succ, now_wake (settled_woken hs n), ih]

/-- **After two wake-ups in a row only a retry delay of nothing keeps the loop awake.** -/
theorem isDue_woken_iff (hs : Settled s) (hi : ∀ n, 0 < (s.woken n).watchdog.interval) (n : Nat) :
    Loop.isDue (s.woken (n + 2)) = true ↔ (s.woken (n + 1)).Falters := by
  have hs' := settled_woken hs (n + 1)
  rw [woken_succ s (n + 1), isDue_wake_iff hs' (hi (n + 1))]
  refine or_iff_right fun ⟨hp, hq, _⟩ => ?_
  have hd : (s.woken (n + 1)).watchdog.isDue (s.woken (n + 1)).now = false := by
    rw [woken_succ]
    exact isDue_watchdog_wake (settled_woken hs n) (hi n)
  rw [phase_wake_of_running hs' (hi (n + 1)) hp hd] at hq
  cases hq

/-- A backend that refuses to build has one refusal less. -/
lemma answerOf_of_refused {e : BuildError} {es : List BuildError}
    (h : s.backend.buildRefusals = e :: es) :
    ∃ b, s.answerOf = (b, .error e) ∧ b.buildRefusals = es := by
  rw [answerOf, Backend.raise, Backend.build, h]
  exact ⟨_, rfl, rfl⟩

/-- **How the loop spins**: where every retry delay is nothing, each wake-up makes an attempt,
and is followed by another at the same instant, as long as the backend refuses. -/
theorem woken_of_refused (hs : Settled s) (hz : ∀ k draw, s.retry.next k draw = 0) {d : Nat}
    (hw : s.wakeAt = some d) (hd : d ≤ s.now) {n : Nat} (hn : n ≤ s.backend.buildRefusals.length) :
    Loop.isDue (s.woken n) = true ∧ (s.woken n).generation = s.generation + n := by
  induction n generalizing s d with
  | zero =>
      refine ⟨?_, rfl⟩
      obtain ⟨w, hle, hx⟩ := exists_nextWake_le (.inl hw)
      have he : (s.woken 0).nextWake = some w := hx
      rw [Loop.isDue, he]
      exact decide_eq_true (hle.trans hd)
  | succ n ih =>
      obtain ⟨e, es, hb⟩ := List.exists_cons_of_length_pos (Nat.zero_lt_of_lt hn)
      obtain ⟨b, ha, hb'⟩ := answerOf_of_refused hb
      obtain ⟨_, files, outs, ht, -⟩ := told_wake_of_miss hs hw hd ha
      have hl : (s.react .wake).backend.buildRefusals = es := by rw [ht]; exact hb'
      have hg : (s.react .wake).generation = s.generation + 1 := by rw [ht]; rfl
      have hr : (s.react .wake).retry = s.retry := by rw [ht]; rfl
      have hq : (s.react .wake).wakeAt = some (s.now + s.retry.next (s.tries - 1)
          (s.draws (s.generation + 1))) := by rw [ht]; rfl
      rw [hb, List.length_cons] at hn
      obtain ⟨hi, hi'⟩ := ih (settled_react hs .wake) (by rw [hr]; exact hz) hq
        (by rw [hz, now_wake hs]; exact le_rfl) (by rw [hl]; exact Nat.le_of_succ_le_succ hn)
      refine ⟨hi, hi'.trans ?_⟩
      rw [hg]
      omega

end Row

/-- A delay of nothing stays nothing, however often it is repeated. -/
lemma next_fixed_zero (failures draw : Nat) : (Backoff.fixed 0).next failures draw = 0 := by
  have hg : (Backoff.fixed 0).grown failures =
      (Backoff.inSeconds 0).mul Numeric.Binary64.one :=
    congrArg _ (Numeric.Binary64.powLoop_one _ _)
  have hb : (Backoff.fixed 0).base? failures = some 0 := by
    rw [Backoff.base?, hg]
    decide +kernel
  rw [Backoff.next, Backoff.next?, hb]
  rfl

/-- **When a supervisor comes to rest.**  With settings that are in order, wake-ups in a row
at one instant have something to do after the second only if the one before made an attempt
in vain and its retry delay is nothing.  So a schedule without such a delay keeps no loop
awake for longer than two wake-ups, whatever the backend answers.  A schedule of nothing but
such delays keeps it awake as long as the backend refuses, with one attempt to each wake-up
and no time between them. -/
theorem isDue_of_run (u : Setup) (hu : u.settings.check = .ok ()) (xs : List Stimulus) :
    let s := u.begin.run xs
    (∀ n, (s.woken n).now = s.now) ∧
      (∀ n, Loop.isDue (s.woken (n + 2)) = true ↔ (s.woken (n + 1)).Falters) ∧
      ((∀ k draw, u.settings.retry.next k draw ≠ 0) →
        ∀ n, Loop.isDue (s.woken (n + 2)) = false) ∧
      ((∀ k draw, u.settings.retry.next k draw = 0) → (∃ d, s.wakeAt = some d ∧ d ≤ s.now) →
        ∀ n ≤ s.backend.buildRefusals.length,
          Loop.isDue (s.woken n) = true ∧ (s.woken n).generation = s.generation + n) := by
  intro s
  have hs : Settled s := run_settled u xs
  have hc : ∀ n, Configured u (s.woken n) := fun n => by
    have h := run_configured u (xs ++ List.replicate n .wake)
    rwa [State.run, List.foldl_append] at h
  have hi : ∀ n, 0 < (s.woken n).watchdog.interval := fun n => by
    rw [(hc n).interval]
    exact (Settings.check_eq_ok_iff.1 hu).1
  refine ⟨now_woken hs, isDue_woken_iff hs hi, fun hz n => ?_, fun hz hw n hn => ?_⟩
  · refine Bool.eq_false_iff.2 fun hd => ?_
    obtain ⟨-, -, h⟩ := (isDue_woken_iff hs hi n).1 hd
    rw [(hc (n + 1)).retry] at h
    exact hz _ _ h
  · obtain ⟨d, hw, hd⟩ := hw
    have hr : s.retry = u.settings.retry := (hc 0).retry
    exact woken_of_refused hs (by rw [hr]; exact hz) hw hd hn

/-- Settings that are in order and let the loop spin: a backend that refuses four times is
asked four times in a row, before any time has passed. -/
theorem isDue_of_run_at_once :
    let u : Setup :=
      { profile := .receiver 5600 96 .h264
        settings := { retry := .fixed 0 }
        script := { builds := List.replicate 4 (.capabilityMissing "tee") } }
    let s := u.begin.run [.request .start]
    u.settings.check = .ok () ∧
      (s.woken 3).now = 0 ∧ (s.woken 2).Falters ∧
      Loop.isDue (s.woken 3) = true ∧ (s.woken 3).generation = 4 := by
  intro u s
  obtain ⟨hn, hf, -, hr⟩ := isDue_of_run u rfl [.request .start]
  have hw : s.wakeAt = some 0 ∧ s.now = 0 ∧ s.generation = 1 ∧
      s.backend.buildRefusals.length = 3 := by decide +kernel
  obtain ⟨hw, h₀, hg, hl⟩ := hw
  obtain ⟨hd, hg'⟩ := hr next_fixed_zero ⟨0, hw, Nat.zero_le _⟩ 3 hl.ge
  refine ⟨rfl, (hn 3).trans h₀, (hf 1).1 hd, hd, ?_⟩
  rw [hg', hg]

end StreamWarden.Supervisor
