import StreamWarden.Proofs.Boundary
import StreamWarden.Proofs.Departed
import StreamWarden.Proofs.Respite

/-!
# Attempts in vain

A graph that cannot be built, or refuses to play, is tried again after a delay, and the delay
depends on how many attempts have failed in a row.  Nothing remembers the row but a counter of
32 bits, which one branch sets back and another moves on, and what was told of it.

* `Event.isOutcome`: the event tells how an attempt has come out.
* `State.poised`: the state in which an attempt is made; `State.Attempts`: what comes of one;
  `react_cases`: an answer makes one attempt, or none.
* `Idle`, `Played`, `Missed`: what comes of an answer in each case; `Moves.idle`,
  `played_of_poised` and `missed_of_poised` are the laws for them.
* `Rowed`: where the stream stands when the counter is at zero, and where it is not.
* **`retries_of_run`**: the attempts of every run.
-/

namespace StreamWarden

namespace Event

/-- The event tells how an attempt has come out, or when the next one is due. -/
def isOutcome (e : Event) : Bool :=
  match e.kind with
  | .graphPlaying | .buildFailed | .backoffScheduled => true
  | _ => false

lemma isMilestone_of_isOutcome {e : Event} (he : e.isOutcome = true) : e.isMilestone = true := by
  revert he
  simp only [isOutcome, isMilestone]
  cases e.kind <;> simp

@[simp] lemma isOutcome_change (p q : Phase) (input : Phase.Input) :
    (change p q input).isOutcome = false := by cases input <;> rfl

lemma streak_of_not_isOutcome (n : Nat) {e : Event} (he : e.isOutcome = false) :
    e.streak n = n := by
  revert he
  simp only [isOutcome, streak]
  cases e.kind <;> simp

end Event

/-- A row of failures goes on as long as no outcome is told. -/
lemma streak_append_of_forall (es : List Event) {fs : List Event}
    (h : ∀ e ∈ fs, e.isOutcome = false) : streak (es ++ fs) = streak es := by
  rw [streak, List.foldl_append]
  refine List.foldlRecOn fs Event.streak (motive := fun n => n = streak es) rfl ?_
  intro n hn e he
  rw [Event.streak_of_not_isOutcome n (h e he)]
  exact hn

namespace Supervisor

open State

/-! ### Answers without an attempt -/

/-- **No attempt was made**: none has got a number, the row of failures is as long as before,
and no outcome was told. -/
structure Idle (s t : State) : Prop where
  generation : t.generation = s.generation
  failures : t.buildFailures = s.buildFailures
  streak : streak t.events = streak s.events
  events : ∃ es, t.events = s.events ++ es ∧ ∀ e ∈ es, e.isOutcome = false

section Attempts

variable {s t : State} {ms es : List Event} {p : Standing} {x : Stimulus}

/-- A leg without an attempt leaves the count alone; every attempt has the next number. -/
lemma Leg.idle_or (h : Leg s ms p) :
    (p.generation = s.generation ∧ p.failures = s.buildFailures ∧
        ∀ e ∈ ms, e.isOutcome = false) ∨
      p.generation = s.generation + 1 := by
  cases h with
  | stay | leave => exact .inl ⟨rfl, rfl, List.forall_mem_nil _⟩
  | launch | miss => exact .inr rfl
  | restart =>
      refine .inl ⟨rfl, rfl, List.forall_mem_cons.2 ⟨rfl, List.forall_mem_cons.2 ⟨?_, ?_⟩⟩⟩
      · exact Event.isOutcome_change _ _ _
      · exact List.forall_mem_singleton.2 rfl
  | stop =>
      refine .inl ⟨rfl, rfl, List.forall_mem_cons.2 ⟨Event.isOutcome_change _ _ _, ?_⟩⟩
      intro e he
      rcases List.mem_append.1 he with he | he
      · split at he
        · rw [List.mem_singleton.1 he]
          rfl
        · cases he
      · rw [List.mem_singleton.1 he]
        exact Event.isOutcome_change _ _ _

/-- Outcomes are told by milestones. -/
lemma forall_of_filter (h : ∀ e ∈ es.filter Event.isMilestone, e.isOutcome = false) :
    ∀ e ∈ es, e.isOutcome = false := by
  intro e he
  by_contra ho
  have ho' : e.isOutcome = true := Bool.eq_true_of_not_eq_false ho
  exact ho (h e (List.mem_filter.2 ⟨he, Event.isMilestone_of_isOutcome ho'⟩))

/-- **Where no number was given out, no attempt was made.** -/
lemma Moves.idle (h : Moves s es t) (hs : Settled s) : s.generation ≤ t.generation ∧
    (t.generation = s.generation →
      t.buildFailures = s.buildFailures ∧ ∀ e ∈ es, e.isOutcome = false) := by
  induction h with
  | none => exact ⟨le_rfl, fun _ => ⟨rfl, List.forall_mem_nil _⟩⟩
  | @cons s t u es fs h _ ih =>
      obtain ⟨hle, hi⟩ := ih (h.settled hs)
      rcases (h.leg hs).idle_or with ⟨hg, hf, ho⟩ | hg
      · have hg : t.generation = s.generation := hg
        have hf : t.buildFailures = s.buildFailures := hf
        refine ⟨hg ▸ hle, fun hu => ?_⟩
        obtain ⟨hf', ho'⟩ := hi (hu.trans hg.symm)
        refine ⟨hf'.trans hf, fun e he => ?_⟩
        rcases List.mem_append.1 he with he | he
        · exact forall_of_filter ho e he
        · exact ho' e he
      · have hg : t.generation = s.generation + 1 := hg
        refine ⟨by omega, fun hu => ?_⟩
        omega

lemma idle_react (hs : Settled s) (hg : (s.react x).generation = s.generation) :
    Idle s (s.react x) := by
  cases ht : x.isTime with
  | true =>
      obtain ⟨span, rfl⟩ := x.exists_of_isTime ht
      rw [react_pass]
      exact ⟨rfl, rfl, rfl, [], (List.append_nil _).symm, List.forall_mem_nil _⟩
  | false =>
      obtain ⟨es, hm⟩ := moves_react hs ht
      obtain ⟨hf, ho⟩ := (hm.idle hs).2 hg
      refine ⟨hg, hf, ?_, es, hm.events, ho⟩
      rw [hm.events]
      exact streak_append_of_forall _ ho

/-! ### Answers with an attempt -/

lemma generation_stop (hs : Settled s) : s.stop.generation = s.generation := by
  by_cases hp : s.phase = .stopped
  · exact (told_stop_of_stopped hp).generation
  · exact (told_stop (hs.next_stop hp)).generation

/-- A request makes no attempt, unless it starts a stream that is stopped. -/
lemma generation_onRequest (hs : Settled s) {r : Request} (hr : r = .start → s.phase ≠ .stopped) :
    (s.onRequest r).generation = s.generation := by
  have ha := told_emit s (.asked r.label)
  cases r with
  | start => exact (said_start (hs.next_start (hr rfl))).told.generation
  | stop => exact generation_stop (hs.told ha)
  | restart => exact generation_restart _ _
  | toggleRecording => rfl

/-- Nor does a status message. -/
lemma generation_onStatus (s : State) (m : StatusMessage) :
    (s.onStatus m).generation = s.generation := by
  have ht := (told_tell s (Monitor.judge s.view m)).generation
  simp only [onStatus]
  cases (Monitor.judge s.view m).reaction with
  | restart cause => exact (generation_restart _ cause).trans ht
  | stopRecording | ignore => exact ht

/-- **An attempt is made only on a request to start, and when the loop is woken.** -/
lemma generation_react (hs : Settled s) (hr : x ≠ .request .start) (hw : x ≠ .wake) :
    (s.react x).generation = s.generation := by
  rw [react]
  split
  · rfl
  cases x with
  | request r => exact generation_onRequest hs fun h => absurd (congrArg Stimulus.request h) hr
  | abandoned =>
      have hl := told_log s .debug "all supervisor handles dropped" []
      exact generation_onRequest (r := .stop) (hs.told hl) fun h => absurd h (by decide)
  | status m => exact generation_onStatus s m
  | wake => exact absurd rfl hw
  | pass | frame | files | script => rfl

/-- The state in which an attempt is made, after these events were told. -/
def State.poised (s : State) (before : List Event) : State :=
  { s with
    phase := .starting
    wakeAt := none
    journal := (before.map .event).reverse ++ s.journal }

/-- The way to an attempt is told, and no deadline is left. -/
lemma transition_eq_poised {input : Phase.Input} (hn : s.phase.next? input = some .starting)
    (hw : s.wakeAt = none) : s.transition input = s.poised [.change s.phase .starting input] := by
  have hj : s.poised [.change s.phase .starting input] =
      emit { s with phase := .starting } (.change s.phase .starting input) := by
    rw [poised, ← hw]
    rfl
  rw [transition, hn, hj]
  cases input <;> rfl

/-- `t` comes of an attempt that was made after these events.  A look after the frames may have
followed, which found no stall of the graph that had just been built. -/
def State.Attempts (s : State) (before : List Event) (t : State) : Prop :=
  t = (s.poised before).attempt ∨ t = (s.poised before).attempt.watch ∧
    ∀ age, (s.poised before).attempt.verdict ≠ some (.stalled age)

/-- A request to start makes an attempt where the stream is stopped. -/
lemma react_start_cases (hs : Settled s) :
    (s.react (.request .start)).generation = s.generation ∨ s.phase = .stopped ∧
      s.Attempts [.asked "start", .change .stopped .starting .start]
        (s.react (.request .start)) := by
  cases hx : s.exited with
  | true =>
      left
      rw [react, hx]
      rfl
  | false =>
      rw [react_of_not_exited hx, State.answer]
      by_cases hp : s.phase = .stopped
      · refine .inr ⟨hp, .inl ?_⟩
        have hi : s.phase.next? .start = some .starting := by rw [hp]; rfl
        have ht := transition_eq_poised (s := s.emit (.asked "start")) hi
          (hs.wakeAt_eq_none (.inl hp))
        rw [onRequest_start hp, ht, phase_emit, hp]
        rfl
      · exact .inl (generation_onRequest hs fun _ => hp)

/-- A wake-up makes an attempt where a delay is over. -/
lemma react_wake_cases (hs : Settled s) (hn : Numbered s) :
    (s.react .wake).generation = s.generation ∨ s.phase ≠ .running ∧
      ∃ input, s.Attempts [.change s.phase .starting input] (s.react .wake) := by
  by_cases hd : ∃ d, s.wakeAt = some d ∧ d ≤ s.now
  · obtain ⟨d, hw, hd⟩ := hd
    obtain ⟨hx, input, hi, he⟩ := endDelay_of_due hs hw hd
    have hp : s.phase ≠ .running := Phase.ne_running_of_next hi
    have ht := transition_eq_poised (s := { s with wakeAt := none }) hi rfl
    have ha : s.endDelay = (s.poised [.change s.phase .starting input]).attempt := by
      rw [he, ht]
      rfl
    refine .inr ⟨hp, input, .inr ⟨?_, fun age => ?_⟩⟩
    · rw [react_of_not_exited hx, State.answer, onWake_of_none (hs.session_eq_none hp), ha]
    · rw [← ha]
      exact verdict_endDelay hs hn hp age
  · left
    rw [react]
    split
    · rfl
    · have he : s.drained.endDelay = s.drained := by
        refine endDelay_of_early fun d hw => Nat.lt_of_not_le fun hle => hd ⟨d, hw, ?_⟩
        rwa [(calm_drained s).now] at hle
      have hg : s.drained.endDelay.watch.generation = s.generation := by
        rw [generation_watch, he]
        rfl
      exact hg

/-- **An answer makes one attempt or none.** -/
lemma react_cases (hs : Settled s) (hn : Numbered s) (x : Stimulus) :
    (s.react x).generation = s.generation ∨
      ∃ before, s.phase ≠ .running ∧ (∀ e ∈ before, e.isOutcome = false) ∧
        s.Attempts before (s.react x) := by
  by_cases hr : x = .request .start
  · subst hr
    rcases react_start_cases hs with hg | ⟨hp, ha⟩
    · exact .inl hg
    · exact .inr ⟨_, by simp [hp],
        List.forall_mem_cons.2 ⟨rfl, List.forall_mem_singleton.2 rfl⟩, ha⟩
  by_cases hw : x = .wake
  · subst hw
    rcases react_wake_cases hs hn with hg | ⟨hp, input, ha⟩
    · exact .inl hg
    · exact .inr ⟨_, hp, List.forall_mem_singleton.2 (Event.isOutcome_change _ _ _), ha⟩
  · exact .inl (generation_react hs hr hw)

/-- A look that finds no stall changes nothing but the watchdog. -/
lemma exists_told_watch (hv : ∀ age, s.verdict ≠ some (.stalled age)) :
    ∃ w, Told { s with watchdog := w } [] s.watch := by
  cases h : s.verdict with
  | none =>
      rw [watch_of_none h]
      exact ⟨s.watchdog, .refl s⟩
  | some v => exact ⟨_, told_watch h fun age hn => hv age (h.trans (congrArg some hn))⟩

/-- **An attempt has succeeded**: its graph plays, which is told after other things, and no row
of failures is left. -/
structure Played (s t : State) : Prop where
  generation : t.generation = s.generation + 1
  phase : t.phase = .running
  failures : t.buildFailures = 0
  streak : streak t.events = 0
  events : ∃ before, (∀ e ∈ before, e.isOutcome = false) ∧ t.events = s.events ++ before ++
    [.playing (s.generation + 1), .change .starting .running .buildOk]

lemma events_poised (s : State) (before : List Event) :
    (s.poised before).events = s.events ++ before := by
  have hf : (before.map Output.event).filterMap Output.event? = before := by
    rw [List.filterMap_map]
    exact List.filterMap_some
  rw [Host.events, poised, List.filterMap_append, List.reverse_append, List.filterMap_reverse,
    List.reverse_reverse, hf]
  rfl

lemma played_of_poised {before : List Event} (hb : ∀ e ∈ before, e.isOutcome = false)
    {b : Backend} {graph : Graph} (ha : s.answerOf = (b, .ok graph)) (hr : s.Attempts before t) :
    Played s t := by
  have ht := told_attempt_ok (s := s.poised before) rfl ha
  have hw : ∃ w, Told { (s.poised before).launched b graph with watchdog := w }
      [.playing (s.generation + 1), .change .starting .running .buildOk] t := by
    rcases hr with rfl | ⟨rfl, hv⟩
    · exact ⟨_, ht⟩
    · obtain ⟨w, hw⟩ := exists_told_watch hv
      exact ⟨w, (ht.map (fun r => { r with watchdog := w }) fun _ _ _ => rfl).quiet hw⟩
  obtain ⟨w, hw⟩ := hw
  have he : t.events = s.events ++ before ++
      [.playing (s.generation + 1), .change .starting .running .buildOk] := by
    rw [hw.events]
    exact congrArg (· ++ _) (events_poised s before)
  obtain ⟨files, outs, rfl, -⟩ := hw
  refine ⟨rfl, rfl, rfl, ?_, before, hb, he⟩
  rw [he, streak_append]
  rfl

/-- Events alone meet no limit. -/
lemma excess_map_event (before : List Event) (outs : List Output) :
    (before.map Output.event ++ outs).findSome? Output.excess? = outs.findSome? Output.excess? := by
  rw [List.findSome?_append, List.findSome?_map]
  have hn : before.findSome? (Output.excess? ∘ Output.event) = none :=
    List.findSome?_eq_none_iff.2 fun _ _ => rfl
  rw [hn]
  rfl

/-- A look that finds no stall meets a limit at most where it puts the next one off. -/
lemma excess_watch (hv : ∀ age, s.verdict ≠ some (.stalled age)) :
    s.watch.excess? = s.excess? ∨ s.watch.excess? = s.excess?.or
      (if s.now + s.watchdog.interval < s.horizon then none else some .instant) := by
  cases h : s.verdict with
  | none => exact .inl (congrArg (fun t : State => t.excess?) (watch_of_none h))
  | some v =>
      right
      rw [verdict_eq] at h
      split at h
      case isFalse => cases h
      case isTrue hd =>
        have hj := Option.some.inj h
        have hs := excess_schedule { s with watchdog := s.watchdog.arm s.now }
          (s.now + s.watchdog.interval)
        cases v with
        | stalled age => exact absurd (by rw [verdict_eq, if_pos hd, hj]) (hv age)
        | noFrameYet =>
            simp only [watch, Watchdog.check, hd, if_true, hj]
            exact (excess_put _ rfl).trans hs
        | healthy =>
            simp only [watch, Watchdog.check, hd, if_true, hj]
            exact hs

/-- **An attempt that succeeds meets a limit** only if the first look at the graph would come
beyond the end of the clock. -/
lemma excess_of_poised {before : List Event} (hx : s.excess? = none) {b : Backend} {graph : Graph}
    (ha : s.answerOf = (b, .ok graph)) (hr : s.Attempts before t) :
    t.pace = s.pace ∧
      t.excess? = if s.now + s.watchdog.interval < s.horizon then none else some .instant := by
  have hw : Within (s.poised before) (s.poised before).attempt := Bond.attempt _
  have hp : (s.poised before).attempt.pace = s.pace := hw.1
  have he : (s.poised before).attempt.excess? =
      if s.now + s.watchdog.interval < s.horizon then none else some .instant := by
    have hb : (s.poised before).answerOf = (b, .ok graph) := ha
    have hn : ((s.poised before).tried b).excess? = none := by
      have hj : ((s.poised before).tried b).journal =
          (before.map Output.event).reverse ++ s.journal := rfl
      have hm := excess_map_event before []
      rw [List.append_nil] at hm
      rw [Host.excess_of_append hx hj, List.reverse_reverse, hm]
      rfl
    rw [attempt_eq, hb]
    refine (excess_enterPlaying _ graph).trans ?_
    rw [hn, Option.none_or]
    rfl
  rcases hr with rfl | ⟨rfl, hv⟩
  · exact ⟨hp, he⟩
  · have hw' : Within (s.poised before).attempt (s.poised before).attempt.watch := Bond.watch _
    refine ⟨hw'.1.trans hp, ?_⟩
    have hn : (s.poised before).attempt.now + (s.poised before).attempt.watchdog.interval =
        s.now + s.watchdog.interval := congrArg (fun p : Pace => p.now + p.interval) hp
    have hh : (s.poised before).attempt.horizon = s.horizon := congrArg Pace.horizon hp
    rcases excess_watch hv with h | h
    · exact h.trans he
    · rw [h, he, hn, hh]
      split <;> rfl

/-- The limit that is met when a delay has been worked out, if no span of time is so long. -/
def State.overlong (s : State) : List Output :=
  if (s.retry.next? (s.tries - 1) (s.draws s.generation)).isSome then [] else [.excess .wait]

/-- The limit that is met when a deadline has been set, if it lies beyond the end of the clock. -/
def overdue (horizon d : Nat) : List Output :=
  if horizon ≤ d then [.excess .instant] else []

/-- What is put out when an attempt has failed, the oldest first.  The delay is worked out before
the failure is told, and its end is set before it is told itself. -/
def State.setback (s : State) (e : BuildError) : List Output :=
  s.overlong ++ .event (.missed s.generation s.tries e) ::
    .event (.change .starting .backoffWait .buildFailed) ::
      (overdue s.horizon (s.now + s.pause) ++ [.event (.delayed s.tries s.pause)])

lemma reverse_overlong (s : State) : s.overlong.reverse = s.overlong := by
  rw [overlong]
  split <;> rfl

lemma reverse_overdue (horizon d : Nat) : (overdue horizon d).reverse = overdue horizon d := by
  rw [overdue]
  split <;> rfl

/-- All is told of a failure whose delay ends in time. -/
lemma setback_of_lt (e : BuildError)
    (hd : (s.retry.next? (s.tries - 1) (s.draws s.generation)).isSome = true)
    (hl : s.now + s.pause < s.horizon) :
    s.setback e = [.event (.missed s.generation s.tries e),
      .event (.change .starting .backoffWait .buildFailed), .event (.delayed s.tries s.pause)] := by
  rw [setback, overlong, if_pos hd, overdue, if_neg (Nat.not_le.2 hl)]
  rfl

lemma setback_of_le (e : BuildError)
    (hd : (s.retry.next? (s.tries - 1) (s.draws s.generation)).isSome = true)
    (hl : s.horizon ≤ s.now + s.pause) :
    s.setback e = [.event (.missed s.generation s.tries e),
      .event (.change .starting .backoffWait .buildFailed), .excess .instant,
      .event (.delayed s.tries s.pause)] := by
  rw [setback, overlong, if_pos hd, overdue, if_pos hl]
  rfl

lemma setback_of_none (e : BuildError)
    (hd : s.retry.next? (s.tries - 1) (s.draws s.generation) = none) :
    ∃ outs, s.setback e = .excess .wait :: outs := by
  rw [setback, overlong, hd]
  exact ⟨_, rfl⟩

/-- To work out a delay changes nothing but the journal. -/
lemma measured_eq (s : State) : s.measured = { s with journal := s.overlong ++ s.journal } := by
  rw [measured, overlong]
  split <;> rfl

lemma journal_transition {input : Phase.Input} {p q : Phase} (hp : s.phase = p)
    (hn : p.next? input = some q) :
    (s.transition input).journal = .event (.change p q input) :: s.journal := by
  subst hp
  rw [transition, hn]
  cases input <;> rfl

lemma journal_schedule (s : State) (d : Nat) :
    (s.schedule (some d)).journal = overdue s.horizon d ++ s.journal := by
  rw [overdue]
  rcases s.schedule_cases (some d) with ⟨hd, hs⟩ | ⟨⟨_, ⟨⟩, hd⟩, hs⟩ <;> rw [hs]
  · rw [if_neg (Nat.not_le.2 (hd d rfl))]
    rfl
  · rw [if_pos hd]
    rfl

lemma journal_enterBackoff (hp : s.phase = .starting) (e : BuildError) :
    (s.enterBackoff e).journal = (s.setback e).reverse ++ s.journal := by
  obtain ⟨r, hr⟩ : ∃ r, r = State.emit { s.measured with buildFailures := s.tries }
      (.missed s.generation s.tries e) := ⟨_, rfl⟩
  have hrp : r.phase = .starting := by
    rw [hr, measured_eq]
    exact hp
  have hn : (r.transition .buildFailed).now = s.now := by
    rw [transition, hrp, hr, measured_eq]
    rfl
  have hh : (r.transition .buildFailed).horizon = s.horizon := by
    rw [transition, hrp, hr, measured_eq]
    rfl
  have hj : (s.enterBackoff e).journal = .event (.delayed s.tries s.pause) ::
      (overdue s.horizon (s.now + s.pause) ++ (r.transition .buildFailed).journal) := by
    rw [enterBackoff_eq, ← hn, ← hh, hr]
    exact congrArg (_ :: ·) (journal_schedule _ _)
  have hm : r.journal = .event (.missed s.generation s.tries e) :: s.measured.journal := by
    rw [hr]
    rfl
  rw [hj, journal_transition hrp rfl, hm, measured_eq, setback]
  simp only [List.reverse_append, List.reverse_cons, List.reverse_nil, List.nil_append,
    List.cons_append, List.append_assoc, reverse_overlong, reverse_overdue]

/-- **An attempt has failed**, the `k`th in a row: this is told after other things, and the next
attempt is to follow after the retry delay.  All that is told comes out, but for two limits: a
delay that no span of time holds breaks the loop before the failure is told, and one that ends
beyond the clock breaks it before the delay is told. -/
structure Missed (s : State) (before : List Event) (e : BuildError) (k draw : Nat) (t : State) :
    Prop where
  generation : t.generation = s.generation + 1
  phase : t.phase = .backoffWait
  failures : t.buildFailures = k
  wakeAt : t.wakeAt = some (s.now + s.retry.next (k - 1) draw)
  streak : streak t.events = streak s.events + 1
  events : t.events = s.events ++ before ++ [.missed (s.generation + 1) k e,
    .change .starting .backoffWait .buildFailed, .delayed k (s.retry.next (k - 1) draw)]
  whole : s.excess? = none → (s.retry.next? (k - 1) draw).isSome = true →
    s.now + s.retry.next (k - 1) draw < s.horizon → t.excess? = none
  late : s.excess? = none → (s.retry.next? (k - 1) draw).isSome = true →
    s.horizon ≤ s.now + s.retry.next (k - 1) draw → t.excess? = some .instant ∧
      (t.onHost Host.cut).events = s.events ++ before ++ [.missed (s.generation + 1) k e,
        .change .starting .backoffWait .buildFailed]
  long : s.excess? = none → s.retry.next? (k - 1) draw = none → t.excess? = some .wait ∧
    (t.onHost Host.cut).events = s.events ++ before

/-- What comes out of events, and of what follows them. -/
lemma events_map_event (before : List Event) (outs : List Output) :
    ((before.map Output.event ++ outs).takeWhile (·.excess?.isNone)).filterMap Output.event? =
      before ++ (outs.takeWhile (·.excess?.isNone)).filterMap Output.event? := by
  rw [List.takeWhile_append_of_pos fun o ho => ?_, List.filterMap_append, List.filterMap_map]
  · exact congrArg (· ++ _) List.filterMap_some
  · obtain ⟨e, -, rfl⟩ := List.mem_map.1 ho
    rfl

/-- The journal of an attempt that has failed. -/
lemma journal_attempt (before : List Event) {b : Backend} {e : BuildError}
    (ha : s.answerOf = (b, .error e)) : (s.poised before).attempt.journal =
      (before.map Output.event ++ ((s.poised before).tried b).setback e).reverse ++ s.journal := by
  have hb : (s.poised before).answerOf = (b, .error e) := ha
  rw [attempt_eq, hb, List.reverse_append, List.append_assoc]
  exact journal_enterBackoff rfl e

lemma missed_attempt {before : List Event} (hb : ∀ e ∈ before, e.isOutcome = false) {b : Backend}
    {e : BuildError} (ha : s.answerOf = (b, .error e)) :
    Missed s before e s.tries (s.draws (s.generation + 1)) (s.poised before).attempt := by
  have ht := told_attempt_error (s := s.poised before) rfl ha
  have he : (s.poised before).attempt.events = _ := ht.events.trans
    (congrArg (· ++ _) (events_poised s before))
  -- what comes out depends on what is put out of the failure
  have hx (h : s.excess? = none) : (s.poised before).attempt.excess? =
      (((s.poised before).tried b).setback e).findSome? Output.excess? := by
    rw [Host.excess_of_append h (journal_attempt before ha), List.reverse_reverse, excess_map_event]
  have hc (h : s.excess? = none) : ((s.poised before).attempt.onHost Host.cut).events =
      s.events ++ before ++ ((((s.poised before).tried b).setback e).takeWhile
        (·.excess?.isNone)).filterMap Output.event? := by
    have hc' := Host.events_cut_of_append h (journal_attempt before ha)
    rw [List.reverse_reverse, events_map_event, ← List.append_assoc] at hc'
    exact hc'
  obtain ⟨files, outs, ht, -⟩ := ht
  refine ⟨by rw [ht]; rfl, by rw [ht]; rfl, by rw [ht]; rfl, by rw [ht]; rfl, ?_, he, ?_, ?_, ?_⟩
  · rw [he, streak_append, streak_append_of_forall s.events hb]
    rfl
  · intro h hd hl
    rw [hx h, setback_of_lt (s := (s.poised before).tried b) e hd hl]
    rfl
  · intro h hd hl
    rw [hx h, hc h, setback_of_le (s := (s.poised before).tried b) e hd hl]
    exact ⟨rfl, rfl⟩
  · intro h hd
    obtain ⟨outs, ho⟩ := setback_of_none (s := (s.poised before).tried b) e hd
    rw [hx h, hc h, ho]
    exact ⟨rfl, List.append_nil _⟩

lemma missed_of_poised (hs : Settled s) (hp : s.phase ≠ .running) {before : List Event}
    (hb : ∀ e ∈ before, e.isOutcome = false) {b : Backend} {e : BuildError}
    (ha : s.answerOf = (b, .error e)) (hr : s.Attempts before t) :
    Missed s before e s.tries (s.draws (s.generation + 1)) t := by
  rcases hr with rfl | ⟨rfl, -⟩
  · exact missed_attempt hb ha
  -- there is no graph to look after
  have hv : (s.poised before).attempt.verdict = none := by
    obtain ⟨files, outs, ht, -⟩ := told_attempt_error (s := s.poised before) rfl ha
    rw [ht]
    exact congrArg Prod.snd (Watchdog.check_of_disarmed (hs.deadline_eq_none hp) _ _)
  rw [watch_of_none hv]
  exact missed_attempt hb ha

/-! ### Where the stream stands -/

/-- No failure is counted while a graph plays or is being replaced, and at least one while the
stream waits to try again. -/
structure Rowed (s : State) : Prop where
  playing : s.phase = .running ∨ s.phase = .restarting → s.buildFailures = 0
  waiting : s.phase = .backoffWait → 1 ≤ s.buildFailures

lemma Leg.rowed (h : Leg s ms p) (hr : Rowed s) :
    (p.phase = .running ∨ p.phase = .restarting → p.failures = 0) ∧
      (p.phase = .backoffWait → 1 ≤ p.failures) := by
  cases h with
  | stay | leave => exact ⟨hr.playing, hr.waiting⟩
  | launch =>
      refine ⟨fun _ => rfl, fun h => ?_⟩
      cases h
  | miss =>
      refine ⟨fun h => ?_, fun _ => le_min (Nat.le_add_left 1 _) (by decide)⟩
      rcases h with h | h <;> cases h
  | restart hp =>
      refine ⟨fun _ => hr.playing (.inl hp), fun h => ?_⟩
      cases h
  | stop =>
      refine ⟨fun h => ?_, fun h => ?_⟩
      · rcases h with h | h <;> cases h
      · cases h

lemma Move.rowed (h : Move s es t) (hs : Settled s) (hr : Rowed s) : Rowed t :=
  ⟨((h.leg hs).rowed hr).1, ((h.leg hs).rowed hr).2⟩

end Attempts

lemma run_rowed (u : Setup) (xs : List Stimulus) : Rowed (u.begin.run xs) := by
  refine run_keeps (P := Rowed) (fun hs hr h => h.rowed hs hr)
    (fun _ hr => ⟨hr.playing, hr.waiting⟩) u ⟨fun h => ?_, fun h => ?_⟩ xs
  · rcases h with h | h <;> cases h
  · cases h

/-- **The attempts of every run.**  The counter of failures has the length of the row of failures
since a graph played last, as far as 32 bits go; it is at zero where a graph plays or is being
replaced, and not where the stream waits to try again.  No answer but to a request to start and
to a wake-up makes an attempt, and one that makes none neither counts nor forgets a failure.  An
attempt plays, which ends the row, or fails as the next one in the row, and is then followed by
another after the delay that the schedule has for its number.

The schedule counts from zero.  Its delay may lie beyond the clock, or be longer than any span
of time: then the loop breaks before the delay is told, or before the failure is. -/
theorem retries_of_run (u : Setup) (xs : List Stimulus) :
    let s := u.begin.run xs
    s.retry = u.settings.retry ∧
      s.buildFailures = min (streak s.events) Event.maxShortCount ∧ Rowed s ∧
      (∀ x, x ≠ .request .start → x ≠ .wake → Idle s (s.react x)) ∧
      ∀ x, Idle s (s.react x) ∨
        (∃ b graph, s.answerOf = (b, .ok graph) ∧ Played s (s.react x)) ∨
        ∃ b e before, s.answerOf = (b, .error e) ∧ (∀ e ∈ before, e.isOutcome = false) ∧
          let k := min (streak s.events + 1) Event.maxShortCount
          let draw := u.draws (s.generation + 1)
          let delay := u.settings.retry.next (k - 1) draw
          1 ≤ k ∧ Missed s before e k draw (s.react x) ∧
            (Event.missed (s.generation + 1) k e).attempt? = some k ∧
            (Event.missed (s.generation + 1) k e).generation? = some (s.generation + 1) ∧
            (Event.delayed k delay).attempt? = some k ∧
            (Event.delayed k delay).delayMillis? =
              some (min (Time.wholeMillis delay) Event.maxShortCount) := by
  intro s
  have hs : Settled s := run_settled u xs
  have hc : s.buildFailures = min (streak s.events) Event.maxShortCount := run_counted u xs
  have hu : Configured u s := run_configured u xs
  refine ⟨hu.retry, hc, run_rowed u xs,
    fun x hr hw => idle_react hs (generation_react hs hr hw), fun x => ?_⟩
  rcases react_cases hs (run_numbered u xs) x with hg | ⟨before, hp, hb, hx⟩
  · exact .inl (idle_react hs hg)
  right
  rcases ha : s.answerOf with ⟨b, e | graph⟩
  · right
    have hk : s.tries = min (streak s.events + 1) Event.maxShortCount := by
      rw [tries, hc]
      omega
    have hm := missed_of_poised hs hp hb ha hx
    rw [hk, hu.draws] at hm
    exact ⟨b, e, before, rfl, hb, le_min (Nat.le_add_left 1 _) (by decide), hm, rfl, rfl, rfl, rfl⟩
  · exact .inl ⟨b, graph, rfl, played_of_poised hb ha hx⟩

/-- A delay of more than three hundred thousand million years ends beyond the clock: that the
attempt has failed comes out, and the delay does not. -/
example :
    let u : Setup :=
      { profile := .receiver 5600 96 .h264
        settings := { retry := .fixed (10 ^ 28) }
        script := { builds := [.capabilityMissing "tee"] } }
    let t := (u.begin.run [.request .start]).onHost Host.cut
    t.events = [.asked "start", .change .stopped .starting .start,
      .missed 1 1 (.capabilityMissing "tee"), .change .starting .backoffWait .buildFailed] := by
  decide +kernel

end Supervisor

end StreamWarden
