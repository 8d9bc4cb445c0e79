import StreamWarden.Proofs.Calm
import StreamWarden.Proofs.Chronicle
import StreamWarden.Proofs.Limits
import StreamWarden.Proofs.Waiting

/-!
# What the watchdog does when it is woken

A wake-up ends with a look of the watchdog.  While the stream runs, the parts of the wake-up
before it change nothing that the watchdog looks at, so that what it finds can be read off
the state before.  Where the stream does not run, a graph may be built in the same wake-up;
its probe is new, and no alarm comes of it.

* `verdict_eq`, `told_watch`, `told_watch_of_stalled`: a look, and what comes of it.
* `State.alarms`: the alarm that an answer raises; **`alarms_tells`**: no answer raises
  another.
* `wake_of_stalled`, `excess_of_stalled`: what comes of a wake-up that finds a stall, and which
  limit it meets.
-/

namespace StreamWarden.Supervisor

open State

section Look

variable {s t : State}

/-! ### A look -/

lemma verdict_eq (s : State) : s.verdict =
    if s.watchdog.isDue s.now then some (s.watchdog.judge s.now (s.probe s.watched))
    else none := by
  rw [State.verdict, Watchdog.check]
  split
  · cases s.watchdog.judge s.now (s.probe s.watched) <;> rfl
  · rfl

/-- Only an armed watchdog finds anything. -/
lemma isArmed_of_verdict {v : Verdict} (hv : s.verdict = some v) : s.watchdog.isArmed = true := by
  rw [verdict_eq] at hv
  split at hv
  case isTrue hd => exact Watchdog.isArmed_of_isDue hd
  case isFalse => cases hv

lemma verdict_eq_none (hs : Settled s) (hp : s.phase ≠ .running) : s.verdict = none := by
  cases hv : s.verdict with
  | none => rfl
  | some v => exact absurd (hs.watchdog.1 (isArmed_of_verdict hv)) hp

lemma watch_of_none (hv : s.verdict = none) : s.watch = s := by
  refine watch_of_early fun d hd => Nat.lt_of_not_le fun hle => ?_
  have hdue : s.watchdog.isDue s.now = true := by
    rw [Watchdog.isDue, Option.mem_def.1 hd]
    exact decide_eq_true hle
  rw [verdict_eq, if_pos hdue] at hv
  cases hv

/-- A look that finds no stall puts the next one off. -/
lemma told_watch {v : Verdict} (hv : s.verdict = some v) (hn : ∀ age, v ≠ .stalled age) :
    Told { s with watchdog := s.watchdog.arm s.now } [] s.watch := by
  rw [verdict_eq] at hv
  split at hv
  case isFalse => cases hv
  case isTrue hd =>
    have hj := Option.some.inj hv
    simp only [watch, Watchdog.check, hd, if_true, hj]
    cases v with
    | stalled age => exact absurd rfl (hn age)
    | noFrameYet => exact (told_look s).quiet (told_log _ _ _ _)
    | healthy => exact told_look s

/-- A look that finds a stall disarms the watchdog, tells of the stall and replaces the graph. -/
lemma watch_of_stalled {age : Nat} (hv : s.verdict = some (.stalled age)) : s.watch =
    (State.emit { s with watchdog := s.watchdog.disarm } (.stalled s.generation age)).restart
      .watchdog := by
  rw [verdict_eq] at hv
  split at hv
  case isFalse => cases hv
  case isTrue hd =>
    simp only [watch, Watchdog.check, hd, if_true, Option.some.inj hv]
    rfl

/-- A look that finds a stall raises an alarm. -/
lemma told_watch_of_stalled (hp : s.phase = .running) {age : Nat}
    (hv : s.verdict = some (.stalled age)) :
    Told (s.replacing .watchdog) ([.stalled s.generation age] ++
      ([.restarting .watchdog s.generation,
        .change .running .restarting (.restart .watchdog)] ++ s.parting)) s.watch := by
  have h : Told (s.replacing .watchdog) [.stalled s.generation age]
      ((State.emit { s with watchdog := s.watchdog.disarm }
        (.stalled s.generation age)).replacing .watchdog) :=
    told_emit (s.replacing .watchdog) (.stalled s.generation age)
  rw [watch_of_stalled hv]
  exact h.trans (told_restart (s := State.emit { s with watchdog := s.watchdog.disarm }
    (.stalled s.generation age)) hp .watchdog)

/-! ### A wake-up -/

/-- While the stream runs, a wake-up ends a drain and then looks. -/
lemma onWake_eq_watch (hs : Settled s) (hp : s.phase = .running) :
    s.onWake = s.drained.watch := by
  have hw : s.drained.wakeAt = none := hs.wakeAt_eq_none (.inr hp)
  have he : s.drained.endDelay = s.drained := endDelay_of_early (by rw [hw]; exact nofun)
  rw [onWake]
  exact congrArg watch he

lemma react_wake_of_running (hs : Settled s) (hp : s.phase = .running) :
    s.react .wake = s.drained.watch := by
  have hx : s.exited = false := hs.exited_eq_false (by rw [hp]; exact nofun)
  rw [react_of_not_exited hx, State.answer, onWake_eq_watch hs hp]

/-- To end a drain meets no limit. -/
lemma excess_drained (s : State) : s.drained.excess? = s.excess? := by
  by_cases hd : s.isDrained s.now = true
  · have he : s.drained = s.onStudio fun a => a.detach s.graph "drained" :=
      congrArg (fun a => s.onStudio fun _ => a) (if_pos hd)
    rw [he, excess_detach]
  · have he : s.drained = s := congrArg (fun a => s.onStudio fun _ => a) (if_neg hd)
    rw [he]

/-- To end a drain changes nothing at which the watchdog looks. -/
lemma verdict_drained (s : State) : s.drained.verdict = s.verdict := by
  obtain ⟨es, h⟩ := Studio.act_finishDrain s.toStudio s.now s.graph
  have hp : s.drained.probe s.watched = s.probe s.watched :=
    congrArg (fun ps => ps.getD s.watched (FrameProbe.new 0)) h.probes_eq
  have hn : s.drained.now = s.now := h.now_eq
  have hd : s.drained.verdict =
      (s.watchdog.check s.drained.now (s.drained.probe s.watched)).2 := rfl
  rw [hd, hn, hp, State.verdict]

/-- Where no graph plays, a wake-up finds no stall: a graph that is built in it has a new
probe. -/
lemma verdict_endDelay (hs : Settled s) (hn : Numbered s) (hp : s.phase ≠ .running) (age : Nat) :
    s.endDelay.verdict ≠ some (.stalled age) := by
  rcases endDelay_cases hs with he | ⟨-, -, input, hx, he⟩ <;> rw [he]
  · rw [verdict_eq_none hs hp]
    exact nofun
  · rcases ha : s.answerOf with ⟨b, e | graph⟩
    · obtain ⟨files, outs, ht, -⟩ := told_miss (s := { s with wakeAt := none }) hx ha
      have hd := hs.deadline_eq_none hp
      rw [ht, State.verdict]
      refine ne_of_eq_of_ne (congrArg Prod.snd (Watchdog.check_of_disarmed hd _ _)) nofun
    · obtain ⟨files, outs, ht, -⟩ := told_launch (s := { s with wakeAt := none }) hx ha
      have hq : (s.probes ++ [FrameProbe.new s.now]).getD (s.generation + 1) (FrameProbe.new 0) =
          FrameProbe.new s.now := by
        rw [← hn.probes]
        simp
      rw [ht, verdict_eq]
      split
      · have hj : (s.watchdog.arm s.now).judge s.now
            ((s.probes ++ [FrameProbe.new s.now]).getD (s.generation + 1) (FrameProbe.new 0)) =
              .noFrameYet := by
          rw [hq]
          rfl
        exact ne_of_eq_of_ne (congrArg some hj) nofun
      · exact nofun

/-- What is told after an alarm, when the graph is replaced. -/
def State.aftermath (s : State) : List Event :=
  .change .running .restarting (.restart .watchdog) :: s.parting

lemma isAlarm_aftermath : ∀ e ∈ s.aftermath, e.isAlarm = false :=
  List.forall_mem_cons.2 ⟨rfl, isAlarm_parting⟩

/-- **A wake-up that finds a stall ends a drain, raises an alarm and replaces the graph.** -/
theorem wake_of_stalled (hs : Settled s) {age : Nat} (hv : s.verdict = some (.stalled age)) :
    ∃ ds es, Move s ds s.drained ∧ (∀ e ∈ ds, e.isAlarm = false) ∧
      Told (s.drained.replacing .watchdog) es (s.react .wake) ∧
      s.tells .wake = ds ++ (.stalled s.generation age ::
        .restarting .watchdog s.generation :: s.drained.aftermath) := by
  obtain ⟨ds, ha⟩ := Studio.act_finishDrain s.toStudio s.now s.graph
  have hm : Move s ds s.drained := .record ha
  have hp : s.phase = .running := hs.watchdog.1 (isArmed_of_verdict hv)
  have ht := told_watch_of_stalled (s := s.drained) hp ((verdict_drained s).trans hv)
  have hr := react_wake_of_running hs hp
  refine ⟨ds, _, hm, ?_, hr ▸ ht, tells_eq ?_⟩
  · obtain ⟨-, es, he, hes⟩ := calm_drained s
    rwa [List.append_cancel_left (he.symm.trans hm.events)] at hes
  · have hd : (s.drained.replacing .watchdog).events = s.events ++ ds := hm.events
    rw [hr, ht.events, hd, List.append_assoc]
    rfl

/-- All that such a wake-up tells comes out, and it meets a limit only if the settle delay ends
beyond the end of the clock. -/
lemma excess_of_stalled (hs : Settled s) (hx : s.excess? = none) {age : Nat}
    (hv : s.verdict = some (.stalled age)) :
    ((s.react .wake).onHost Host.cut).events = (s.react .wake).events ∧
      (s.react .wake).excess? =
        if s.now + s.settleDelay < s.horizon then none else some .instant := by
  have hp : s.phase = .running := hs.watchdog.1 (isArmed_of_verdict hv)
  rw [react_wake_of_running hs hp, watch_of_stalled ((verdict_drained s).trans hv)]
  obtain ⟨t, ht⟩ : ∃ t : State, t = State.emit { s.drained with
    watchdog := s.drained.watchdog.disarm } (.stalled s.drained.generation age) := ⟨_, rfl⟩
  have htp : t.phase = .running := by rw [ht]; exact hp
  have htx : t.excess? = none := by
    rw [ht]
    exact (excess_put { s.drained with watchdog := s.drained.watchdog.disarm } rfl).trans
      ((excess_drained s).trans hx)
  have hpace : t.pace = s.pace := by
    rw [ht]
    exact (Bond.finishDrain (R := Within) s s.now s.graph).1
  have hn : t.now + t.settleDelay = s.now + s.settleDelay :=
    congrArg (fun p : Pace => p.now + p.settleDelay) hpace
  have hh : t.horizon = s.horizon := congrArg Pace.horizon hpace
  rw [← ht]
  refine ⟨events_cut_restart htx htp _, ?_⟩
  rw [excess_restart htp, htx, hn, hh, Option.none_or]

/-- The alarm that an answer raises. -/
def State.alarms (s : State) : Stimulus → List Event
  | .wake =>
    match s.verdict with
    | some (.stalled age) => [.stalled s.generation age, .restarting .watchdog s.generation]
    | _ => []
  | _ => []

/-- A look that finds no stall is calm. -/
lemma calm_watch (hv : ∀ age, s.verdict ≠ some (.stalled age)) : Calm s s.watch := by
  cases h : s.verdict with
  | none =>
      rw [watch_of_none h]
      exact .refl s
  | some v =>
      exact .of_told (told_watch h fun age hn => hv age (h.trans (congrArg some hn))) rfl
        (.of_eq rfl rfl) (List.forall_mem_nil _)

/-- So is a wake-up. -/
lemma calm_onWake (hs : Settled s) (hn : Numbered s) (hv : ∀ age, s.verdict ≠ some (.stalled age)) :
    Calm s s.onWake := by
  by_cases hp : s.phase = .running
  · rw [onWake_eq_watch hs hp]
    exact (calm_drained s).trans (calm_watch fun age => by rw [verdict_drained]; exact hv age)
  · rw [onWake_of_none (hs.session_eq_none hp)]
    exact (calm_endDelay hs).trans (calm_watch (verdict_endDelay hs hn hp))

lemma filter_isAlarm {es : List Event} (h : ∀ e ∈ es, e.isAlarm = false) :
    es.filter Event.isAlarm = [] :=
  List.filter_eq_nil_iff.2 fun e he => Bool.eq_false_iff.1 (h e he)

lemma Calm.tells {x : Stimulus} (h : Calm s (s.react x)) :
    (s.tells x).filter Event.isAlarm = [] := by
  obtain ⟨-, es, he, hes⟩ := h
  rw [tells_eq he, filter_isAlarm hes]

/-- **No answer raises another alarm** than the one for a graph that has stalled. -/
theorem alarms_tells (hs : Settled s) (hn : Numbered s) (x : Stimulus) :
    (s.tells x).filter Event.isAlarm = s.alarms x := by
  cases x with
  | wake =>
      rw [State.alarms]
      split
      case h_1 age hv =>
        obtain ⟨ds, es, -, hds, -, ht⟩ := wake_of_stalled hs hv
        rw [ht, List.filter_append, filter_isAlarm hds, List.filter_cons_of_pos rfl,
          List.filter_cons_of_pos rfl, filter_isAlarm isAlarm_aftermath]
        rfl
      case h_2 hv =>
        refine Calm.tells ?_
        rw [react]
        split
        · exact .refl s
        · exact calm_onWake hs hn hv
  | pass span => rw [tells_pass]; rfl
  | frame number =>
      have he : (s.react (.frame number)).events = s.events ++ [] := by
        rw [react_of_not_isIteration s rfl, List.append_nil]
        rfl
      rw [tells_eq he]
      rfl
  | request | abandoned | status | files | script =>
      exact Calm.tells (calm_react hs rfl (by simp) (by simp))

end Look

end StreamWarden.Supervisor
