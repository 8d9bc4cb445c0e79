import StreamWarden.Proofs.Moves

/-!
# The milestones of a stream

Of all that a supervisor tells, the milestones say where the stream stands: that the
phase has changed, that a graph plays, that an attempt has failed and when the next one
is due, that a restart begins, that a graph is gone.  A move that tells none of them
leaves the stream where it stood, so that a law on milestones has six cases and not one
for each kind of move.

* `Standing`: where a stream stands; `Leg`: the six ways on, each with its milestones.
* `Move.leg`: every move is a leg of the way.
* `Moves.exists_of_mem`: each event that is told has its move.
* `run_configured`: no run changes the settings.
-/

namespace StreamWarden

namespace Event

/-- The event tells where the stream stands. -/
def isMilestone (e : Event) : Bool :=
  match e.kind with
  | .phaseChanged | .graphPlaying | .buildFailed | .backoffScheduled | .graphTornDown
  | .restartRequested => true
  | _ => false

lemma isMilestone_of_isRemark {e : Event} (he : e.isRemark = true) : e.isMilestone = false := by
  revert he
  simp only [isRemark, isMilestone]
  cases e.kind <;> simp

@[simp] lemma isMilestone_change (p q : Phase) (input : Phase.Input) :
    (change p q input).isMilestone = true := by cases input <;> rfl

/-- The event is of this kind and tells of this graph, or of this attempt. -/
def isOf (kind : EventKind) (g : Nat) (e : Event) : Bool :=
  e.kind == kind && e.generation? == some g

lemma isOf_eq_true_iff {kind : EventKind} {g : Nat} {e : Event} :
    e.isOf kind g = true ↔ e.kind = kind ∧ e.generation? = some g := by simp [isOf]

section Kinds

variable (kind : EventKind) (g n : Nat)

@[simp] lemma isOf_change (p q : Phase) (input : Phase.Input) :
    (change p q input).isOf kind g = false := by cases input <;> simp [isOf, change, of,
      withTransition, withReason, withCause]

@[simp] lemma isOf_playing : (playing n).isOf kind g = (.graphPlaying == kind && n == g) := rfl

@[simp] lemma isOf_tornDown : (tornDown n).isOf kind g = (.graphTornDown == kind && n == g) := rfl

@[simp] lemma isOf_missed (attempt : Nat) (e : BuildError) :
    (missed n attempt e).isOf kind g = (.buildFailed == kind && n == g) := rfl

@[simp] lemma isOf_delayed (attempt delay : Nat) : (delayed attempt delay).isOf kind g = false := by
  simp [isOf, delayed, of, withAttempt, withDelay]

@[simp] lemma isOf_restarting (cause : RestartCause) :
    (restarting cause n).isOf kind g = (.restartRequested == kind && n == g) := rfl

end Kinds

end Event

namespace Supervisor

open State

/-! ### Where a stream stands -/

/-- Where a stream stands. -/
structure Standing where
  phase : Phase
  generation : Nat
  failures : Nat
  wakeAt : Option Nat
  exited : Bool

/-- Where the stream stands at present. -/
def State.standing (s : State) : Standing :=
  { phase := s.phase
    generation := s.generation
    failures := s.buildFailures
    wakeAt := s.wakeAt
    exited := s.exited }

/-- A leg of the way of a stream from a state, with its milestones. -/
inductive Leg (s : State) : List Event → Standing → Prop where
  /-- The stream stays where it stands. -/
  | stay : Leg s [] s.standing
  /-- A graph plays. -/
  | launch {input : Phase.Input} (hx : s.exited = false)
      (hn : s.phase.next? input = some .starting) (hw : ∀ d ∈ s.wakeAt, d ≤ s.now) :
      Leg s [.change s.phase .starting input, .playing (s.generation + 1),
        .change .starting .running .buildOk] ⟨.running, s.generation + 1, 0, none, s.exited⟩
  /-- An attempt has failed. -/
  | miss {input : Phase.Input} {e : BuildError} {pause : Nat} (hx : s.exited = false)
      (hn : s.phase.next? input = some .starting) (hw : ∀ d ∈ s.wakeAt, d ≤ s.now)
      (hd : pause = s.retry.next (s.tries - 1) (s.draws (s.generation + 1))) :
      Leg s [.change s.phase .starting input, .missed (s.generation + 1) s.tries e,
          .change .starting .backoffWait .buildFailed, .delayed s.tries pause]
        ⟨.backoffWait, s.generation + 1, s.tries, some (s.now + pause), s.exited⟩
  /-- A graph is to be replaced. -/
  | restart {cause : RestartCause} (hp : s.phase = .running) :
      Leg s [.restarting cause s.generation, .change .running .restarting (.restart cause),
          .tornDown s.generation]
        ⟨.restarting, s.generation, s.buildFailures, some (s.now + s.settleDelay), s.exited⟩
  /-- All is taken down. -/
  | stop (hn : s.phase.next? .stop = some .stopping) :
      Leg s (.change s.phase .stopping .stop ::
          ((if s.phase = .running then [.tornDown s.generation] else []) ++
            [.change .stopping .stopped .teardownDone]))
        ⟨.stopped, s.generation, s.buildFailures, none, true⟩
  /-- The stream ends without having begun. -/
  | leave (hp : s.phase = .stopped) : Leg s [] { s.standing with exited := true }

section Milestones

variable {s t : State} {es fs : List Event}

lemma filter_isMilestone_of_isRemark (hes : ∀ e ∈ es, e.isRemark = true) :
    es.filter Event.isMilestone = [] :=
  List.filter_eq_nil_iff.2 fun e he =>
    Bool.eq_false_iff.1 (Event.isMilestone_of_isRemark (hes e he))

/-- What the recorder does is no milestone. -/
lemma filter_isMilestone_of_act {graph : Option Graph} {now : Nat} {a b : Studio}
    (h : Studio.Act graph now a es b) : es.filter Event.isMilestone = [] := by
  cases h with
  | remark hes =>
      refine List.filter_eq_nil_iff.2 fun e he => ?_
      simp [Event.isMilestone, hes e he]
  | refuse | giveBack | begin | drain | fail | finish => rfl

/-- Of a teardown, the end of the graph is the milestone. -/
lemma filter_isMilestone_parting (hs : Settled s) : s.parting.filter Event.isMilestone =
    if s.phase = .running then [.tornDown s.generation] else [] := by
  have hl : (s.lastWords "forced").filter Event.isMilestone = [] := by
    rw [Studio.lastWords]
    cases s.session <;> rfl
  rw [parting, List.filter_append, hl, List.nil_append]
  by_cases hp : s.phase = .running
  · obtain ⟨graph, hg⟩ := Option.isSome_iff_exists.1 (hs.graph.2 hp)
    rw [if_pos hp, hg]
    rfl
  · rw [if_neg hp, hs.graph_eq_none hp]
    rfl

lemma State.Told.standing (h : Told s es t) : t.standing = s.standing := by
  obtain ⟨files, outs, rfl, -⟩ := h
  rfl

/-- **Every move is a leg of the way.** -/
theorem Move.leg (h : Move s es t) (hs : Settled s) :
    Leg s (es.filter Event.isMilestone) t.standing := by
  cases h with
  | remark hes h =>
      rw [filter_isMilestone_of_isRemark hes, h.standing]
      exact .stay
  | record h =>
      rw [filter_isMilestone_of_act h]
      exact .stay
  | look _ h =>
      rw [h.standing]
      exact .stay
  | launch hx hn _ h hw =>
      rw [h.standing]
      simp only [List.filter_cons, Event.isMilestone_change]
      exact .launch hx hn hw
  | miss hx hn _ h hw =>
      rw [h.standing]
      simp only [List.filter_cons, Event.isMilestone_change]
      exact .miss hx hn hw rfl
  | restart hp h =>
      rw [h.standing, List.filter_append, filter_isMilestone_parting hs, if_pos hp]
      exact .restart hp
  | stop hn h =>
      rw [h.standing, List.filter_append, List.filter_append, filter_isMilestone_parting hs]
      simp only [List.filter_cons, Event.isMilestone_change, if_true, List.filter_nil,
        List.cons_append, List.append_assoc]
      exact .stop hn
  | leave hp h =>
      rw [h.standing]
      exact .leave hp
  | frame | script => exact .stay

/-! ### What stays -/

/-- The settings of a run, and its instant. -/
structure Steady (s t : State) : Prop where
  now : t.now = s.now
  settleDelay : t.settleDelay = s.settleDelay
  retry : t.retry = s.retry
  draws : t.draws = s.draws
  interval : t.watchdog.interval = s.watchdog.interval
  threshold : t.watchdog.threshold = s.watchdog.threshold

/-- No move takes time, or changes the settings. -/
lemma Move.steady (h : Move s es t) : Steady s t := by
  cases h with
  | remark _ h | look _ h | launch _ _ _ h | miss _ _ _ h | restart _ h | stop _ h | leave _ h =>
      obtain ⟨files, outs, rfl, -⟩ := h
      exact ⟨rfl, rfl, rfl, rfl, rfl, rfl⟩
  | record h =>
      cases h with
      | remark _ h | refuse _ _ _ _ h | giveBack _ _ _ _ _ h | begin _ _ _ _ _ _ h
      | drain _ _ _ h | fail _ h | finish _ _ h =>
          obtain ⟨files, outs, rfl, -⟩ := h
          exact ⟨rfl, rfl, rfl, rfl, rfl, rfl⟩
  | frame | script => exact ⟨rfl, rfl, rfl, rfl, rfl, rfl⟩

lemma Moves.steady (h : Moves s es t) : Steady s t := by
  induction h with
  | none => exact ⟨rfl, rfl, rfl, rfl, rfl, rfl⟩
  | cons h _ ih =>
      have hm := h.steady
      exact ⟨ih.now.trans hm.now, ih.settleDelay.trans hm.settleDelay, ih.retry.trans hm.retry,
        ih.draws.trans hm.draws, ih.interval.trans hm.interval, ih.threshold.trans hm.threshold⟩

/-! ### The events of several moves -/

/-- What a move tells comes after all that was told before. -/
lemma Move.events (h : Move s es t) : t.events = s.events ++ es := by
  cases h with
  | remark _ h | look _ h | launch _ _ _ h | miss _ _ _ h | restart _ h | stop _ h | leave _ h =>
      exact h.events
  | record h => exact h.events
  | frame | script => exact (List.append_nil _).symm

lemma Moves.events (h : Moves s es t) : t.events = s.events ++ es := by
  induction h with
  | none => exact (List.append_nil _).symm
  | cons h _ ih => rw [ih, h.events, List.append_assoc]

/-- The events that an answer adds are those of its moves. -/
lemma moves_of_events (hs : Settled s) {x : Stimulus}
    (h : (s.react x).events = s.events ++ es) : es = [] ∨ Moves s es (s.react x) := by
  cases ht : x.isTime with
  | true =>
      obtain ⟨span, rfl⟩ := x.exists_of_isTime ht
      rw [react_pass] at h
      exact .inl (List.self_eq_append_right.1 h)
  | false =>
      obtain ⟨fs, hm⟩ := moves_react hs ht
      rw [hm.events] at h
      exact .inr (List.append_cancel_left h ▸ hm)

/-- **Each event that is told has its move**, which comes between others. -/
theorem Moves.exists_of_mem (h : Moves s es t) (hs : Settled s) {e : Event} (he : e ∈ es) :
    ∃ s' t' pre mid post, Moves s pre s' ∧ Settled s' ∧ Move s' mid t' ∧ Moves t' post t ∧
      es = pre ++ (mid ++ post) ∧ e ∈ mid := by
  induction h with
  | none => cases he
  | @cons s t u es fs h h' ih =>
      rcases List.mem_append.1 he with he | he
      · exact ⟨s, t, [], es, fs, .none s, hs, h, h', rfl, he⟩
      · obtain ⟨s', t', pre, mid, post, hpre, hs', hmid, hpost, rfl, hm⟩ := ih (h.settled hs) he
        exact ⟨s', t', es ++ pre, mid, post, .cons h hpre, hs', hmid, hpost,
          (List.append_assoc _ _ _).symm, hm⟩

/-- **Each milestone of an answer has its leg.** -/
theorem exists_leg_of_mem (hs : Settled s) {x : Stimulus}
    (h : (s.react x).events = s.events ++ es) {e : Event} (he : e ∈ es)
    (hm : e.isMilestone = true) :
    ∃ s' t' pre mid post, Moves s pre s' ∧ Settled s' ∧ Settled t' ∧ Steady s' t' ∧
      Leg s' (mid.filter Event.isMilestone) t'.standing ∧ Moves t' post (s.react x) ∧
      es = pre ++ (mid ++ post) ∧ e ∈ mid.filter Event.isMilestone := by
  rcases moves_of_events hs h with rfl | hr
  · cases he
  obtain ⟨s', t', pre, mid, post, hpre, hs', hmid, hpost, hes, hmem⟩ := hr.exists_of_mem hs he
  exact ⟨s', t', pre, mid, post, hpre, hs', hmid.settled hs', hmid.steady, hmid.leg hs', hpost,
    hes, List.mem_filter.2 ⟨hmem, hm⟩⟩

/-- Where a milestone stands among the milestones, it stands among all events. -/
lemma exists_of_filter_eq {p : Event → Bool} {e : Event} {l a b : List Event}
    (h : l.filter p = a ++ e :: b) :
    ∃ l₁ l₂, l = l₁ ++ e :: l₂ ∧ l₁.filter p = a ∧ l₂.filter p = b := by
  obtain ⟨k₁, k₂, rfl, rfl, hk⟩ := List.filter_eq_append_iff.1 h
  obtain ⟨l₁, l₂, rfl, hl, -, rfl⟩ := List.filter_eq_cons_iff.1 hk
  exact ⟨k₁ ++ l₁, l₂, (List.append_assoc _ _ _).symm,
    by rw [List.filter_append, List.filter_eq_nil_iff.2 hl, List.append_nil], rfl⟩

end Milestones

/-- The settings are those with which a run has begun. -/
structure Configured (u : Setup) (s : State) : Prop where
  settleDelay : s.settleDelay = u.settings.settleDelay
  retry : s.retry = u.settings.retry
  draws : s.draws = u.draws
  interval : s.watchdog.interval = u.settings.watchdogInterval
  threshold : s.watchdog.threshold = u.settings.stallThreshold

/-- **No run changes the settings.** -/
theorem run_configured (u : Setup) (xs : List Stimulus) : Configured u (u.begin.run xs) := by
  refine run_keeps (P := Configured u) ?_ ?_ u ⟨rfl, rfl, rfl, rfl, rfl⟩ xs
  · intro s t es _ hc h
    have hm := h.steady
    exact ⟨hm.settleDelay.trans hc.settleDelay, hm.retry.trans hc.retry, hm.draws.trans hc.draws,
      hm.interval.trans hc.interval, hm.threshold.trans hc.threshold⟩
  · exact fun _ hc => ⟨hc.settleDelay, hc.retry, hc.draws, hc.interval, hc.threshold⟩

end Supervisor

end StreamWarden
