import StreamWarden.Proofs.Account
import StreamWarden.Proofs.Boundary
import StreamWarden.Proofs.Waiting

/-!
# A graph is replaced once

Requests, failures, an end of data and the watchdog may all call for the same restart, and
messages of a graph may still wait when it is gone.  Whatever comes together, each graph is
replaced once: the first call takes it down, and the later ones find a rebuild on its way.

* `Once`: no two milestones of a kind tell of the same graph; `run_once`.
* `Leg.attempts`: each attempt follows a start or the end of a delay.
* `State.starts`: the requests to start that find the stream stopped; `starts_of_run` says
  that each of them, and nothing else, is told as a start.
* **`restarts_of_run`**: the restarts of every run.
-/

namespace StreamWarden

namespace Event

/-- The event answers to a request to restart. -/
def answersRestart (e : Event) : Bool :=
  e.kind == .restartRequested || e.kind == .restartCoalesced

/-- The event is the change of phase that an input brings about. -/
def isChangeBy (input : Phase.Input) (e : Event) : Bool :=
  e.isChange && e.reason? == some input.label

@[simp] lemma isChangeBy_change (input : Phase.Input) (p q : Phase) (input' : Phase.Input) :
    (change p q input').isChangeBy input = (input'.label == input.label) := by
  simp [isChangeBy, isChange]

section Kinds

variable (input : Phase.Input) (g : Nat)

@[simp] lemma isChangeBy_playing : (playing g).isChangeBy input = false := rfl

@[simp] lemma isChangeBy_tornDown : (tornDown g).isChangeBy input = false := rfl

@[simp] lemma isChangeBy_missed (attempt : Nat) (e : BuildError) :
    (missed g attempt e).isChangeBy input = false := rfl

@[simp] lemma isChangeBy_delayed (attempt delay : Nat) :
    (delayed attempt delay).isChangeBy input = false := rfl

@[simp] lemma isChangeBy_restarting (cause : RestartCause) :
    (restarting cause g).isChangeBy input = false := rfl

end Kinds

/-- A change of phase is a milestone. -/
lemma isMilestone_of_isChange {e : Event} (he : e.isChange = true) : e.isMilestone = true := by
  rw [isChange, beq_iff_eq] at he
  simp [isMilestone, he]

lemma isMilestone_of_isOf {kind : EventKind} (hk : (of kind).isMilestone = true) {g : Nat}
    {e : Event} (he : e.isOf kind g = true) : e.isMilestone = true := by
  obtain ⟨rfl, -⟩ := isOf_eq_true_iff.1 he
  exact hk

end Event

/-- Milestones are counted among the milestones. -/
lemma countP_filter_isMilestone {p : Event → Bool}
    (hp : ∀ e, p e = true → e.isMilestone = true) (es : List Event) :
    (es.filter Event.isMilestone).countP p = es.countP p := by
  rw [List.countP_filter]
  refine List.countP_congr fun e _ => ?_
  simpa using hp e

/-- The inputs after which an attempt is made. -/
lemma Phase.input_of_next {p : Phase} {input : Phase.Input}
    (hn : p.next? input = some .starting) : input = .start ∧ p = .stopped ∨
      input = .retryElapsed ∧ p = .backoffWait ∨ input = .settleElapsed ∧ p = .restarting := by
  cases p <;> cases input <;> simp_all [Phase.next?]

namespace Supervisor

open State

section Once

variable {s t : State} {ms es : List Event} {p : Standing}

/-! ### Each graph once -/

/-- The milestones of a kind tell of different graphs, and of none that plays. -/
def Once (kind : EventKind) (es : List Event) (p : Standing) : Prop :=
  ∀ g, es.countP (Event.isOf kind g) ≤ 1 ∧
    (p.generation < g ∨ p.generation = g ∧ p.phase = .running →
      es.countP (Event.isOf kind g) = 0)

/-- The end of a graph is told while it plays, and by a leg after which it does not. -/
lemma Leg.countP_le {kind : EventKind} (hk : kind = .restartRequested ∨ kind = .graphTornDown)
    (h : Leg s ms p) (g : Nat) :
    ms.countP (Event.isOf kind g) = 0 ∧ s.generation ≤ p.generation ∧
        (p.phase = .running → s.phase = .running ∨ s.generation < p.generation) ∨
      ms.countP (Event.isOf kind g) = 1 ∧ s.generation = g ∧ s.phase = .running ∧
        p.generation = g ∧ p.phase ≠ .running := by
  cases h with
  | stay | leave => exact .inl ⟨rfl, le_rfl, .inl⟩
  | launch | miss =>
      refine .inl ⟨?_, Nat.le_succ _, fun _ => .inr (Nat.lt_succ_self _)⟩
      rcases hk with rfl | rfl <;> simp
  | restart hp =>
      by_cases hg : s.generation = g
      · refine .inr ⟨?_, hg, hp, hg, by simp⟩
        rcases hk with rfl | rfl <;> simp [hg]
      · refine .inl ⟨?_, le_rfl, fun _ => .inl hp⟩
        rcases hk with rfl | rfl <;> simp [hg]
  | stop =>
      by_cases hg : kind = .graphTornDown ∧ s.phase = .running ∧ s.generation = g
      · obtain ⟨rfl, hp, hg⟩ := hg
        exact .inr ⟨by simp [hp, hg], hg, hp, hg, by simp⟩
      · refine .inl ⟨?_, le_rfl, nofun⟩
        rcases hk with rfl | rfl
        · split <;> simp
        · split <;> simp_all

lemma Leg.once {kind : EventKind} (hk : kind = .restartRequested ∨ kind = .graphTornDown)
    (h : Leg s ms p) (ho : Once kind es s.standing) : Once kind (es ++ ms) p := by
  intro g
  obtain ⟨h₁, h₀⟩ := ho g
  rw [List.countP_append]
  rcases h.countP_le hk g with ⟨hm, hg, hp⟩ | ⟨hm, hg, hp, hg', hp'⟩
  · rw [hm]
    refine ⟨h₁, fun hn => h₀ ?_⟩
    rcases hn with hn | ⟨hn, hr⟩
    · exact .inl (hg.trans_lt hn)
    · rcases hp hr with hp | hp
      · rcases hg.lt_or_eq with hg | hg
        · exact .inl (hn ▸ hg)
        · exact .inr ⟨hg.trans hn, hp⟩
      · exact .inl (hn ▸ hp)
  · rw [hm, h₀ (.inr ⟨hg, hp⟩)]
    refine ⟨le_rfl, fun hn => ?_⟩
    rcases hn with hn | ⟨-, hr⟩
    · exact absurd hg' hn.ne
    · exact absurd hr hp'

/-- **In every run each graph is replaced once, and torn down once.** -/
theorem run_once {kind : EventKind} (hk : kind = .restartRequested ∨ kind = .graphTornDown)
    (u : Setup) (xs : List Stimulus) (g : Nat) :
    (u.begin.run xs).events.countP (Event.isOf kind g) ≤ 1 := by
  have hm : (Event.of kind).isMilestone = true := by rcases hk with rfl | rfl <;> rfl
  rw [← countP_filter_isMilestone fun e => Event.isMilestone_of_isOf hm]
  refine (run_keeps (P := fun s => Once kind (s.events.filter Event.isMilestone) s.standing)
    ?_ (fun _ ho => ho) u (fun g => ⟨Nat.zero_le _, fun _ => rfl⟩) xs g).1
  intro s t es hs ho h
  rw [h.events, List.filter_append]
  exact (h.leg hs).once hk ho

/-- A restart is followed by the end of the graph. -/
lemma Leg.restart_of_mem {cause : RestartCause} {g : Nat} (h : Leg s ms p)
    (hg : .restarting cause g ∈ ms) :
    ∃ c, ms = [.restarting cause g, c, .tornDown g] := by
  have hi : (Event.restarting cause g).isOf .restartRequested g = true := by simp
  have hm : ms.any (Event.isOf .restartRequested g) = true := List.any_eq_true.2 ⟨_, hg, hi⟩
  cases h with
  | stay | leave => cases hg
  | launch | miss => simp at hm
  | stop =>
      revert hm
      split <;> simp
  | @restart cause' hp =>
      rcases List.mem_cons.1 hg with h | hg
      · obtain rfl : g = s.generation := Option.some.inj (congrArg Event.generation? h)
        exact ⟨_, by rw [h]⟩
      · rcases List.mem_pair.1 hg with h | h <;> simp [h] at hi

/-- **A restart tears its graph down** in the same answer. -/
theorem tornDown_of_restarting (hs : Settled s) {x : Stimulus}
    (h : (s.react x).events = s.events ++ es) {cause : RestartCause} {g : Nat}
    (hg : .restarting cause g ∈ es) :
    ∃ pre post, es = pre ++ .restarting cause g :: post ∧ .tornDown g ∈ post := by
  obtain ⟨s', t', pre, mid, post, -, -, -, -, hl, -, rfl, hm⟩ := exists_leg_of_mem hs h hg rfl
  obtain ⟨c, hf⟩ := hl.restart_of_mem hm
  obtain ⟨l₁, l₂, rfl, -, h₂⟩ := exists_of_filter_eq (a := []) hf
  refine ⟨pre ++ l₁, l₂ ++ post, by simp, List.mem_append_left _ ?_⟩
  refine List.mem_of_mem_filter (p := Event.isMilestone) ?_
  rw [h₂]
  simp

/-! ### Attempts -/

/-- Each attempt follows a start or the end of a delay. -/
lemma Leg.attempts (h : Leg s ms p) :
    p.generation = s.generation + (ms.countP (Event.isChangeBy .start) +
      ms.countP (Event.isChangeBy .settleElapsed) +
      ms.countP (Event.isChangeBy .retryElapsed)) := by
  cases h with
  | stay | leave => rfl
  | launch _ hn | miss _ hn =>
      rcases Phase.input_of_next hn with ⟨rfl, -⟩ | ⟨rfl, -⟩ | ⟨rfl, -⟩ <;>
        simp [Phase.Input.label]
  | @restart cause => cases cause <;> simp [Phase.Input.label, RestartCause.label]
  | stop => split <;> simp [Phase.Input.label]

/-- A stream that has been started is not started again. -/
lemma Leg.countP_start (h : Leg s ms p) (ha : Awake s) :
    ms.countP (Event.isChangeBy .start) = 0 := by
  cases h with
  | stay | leave => rfl
  | launch hx hn | miss hx hn =>
      rcases Phase.input_of_next hn with ⟨-, hp⟩ | ⟨rfl, -⟩ | ⟨rfl, -⟩
      · rcases ha with ha | ha
        · exact absurd hp ha
        · exact absurd (hx.symm.trans ha) Bool.false_ne_true
      · simp [Phase.Input.label]
      · simp [Phase.Input.label]
  | @restart cause => cases cause <;> simp [Phase.Input.label, RestartCause.label]
  | stop => split <;> simp [Phase.Input.label]

/-- The stimulus is a request to start that finds the stream stopped. -/
def State.isStartedBy (s : State) : Stimulus → Bool
  | .request .start => s.phase == .stopped && !s.exited
  | _ => false

/-- How many requests to start find the stream stopped, when some stimuli are met. -/
def State.starts (s : State) : List Stimulus → Nat
  | [] => 0
  | x :: xs => (s.isStartedBy x).toNat + (s.react x).starts xs

lemma starts_concat (s : State) (xs : List Stimulus) (x : Stimulus) :
    s.starts (xs ++ [x]) = s.starts xs + ((s.run xs).isStartedBy x).toNat := by
  induction xs generalizing s with
  | nil => exact (Nat.add_zero _).trans (Nat.zero_add _).symm
  | cons y ys ih =>
      rw [List.cons_append, State.starts, ih, State.starts, Nat.add_assoc]
      rfl

/-- A start that is asked for is told once. -/
lemma countP_onRequest_start (hp : s.phase = .stopped) :
    (s.onRequest .start).events.countP (Event.isChangeBy .start) =
      s.events.countP (Event.isChangeBy .start) + 1 := by
  have hn : (s.emit (.asked "start")).phase.next? .start = some .starting := by
    rw [phase_emit, hp]
    rfl
  have hb : (s.emit (.asked "start")).events.countP (Event.isChangeBy .start) =
      s.events.countP (Event.isChangeBy .start) := by
    have he : (s.emit (.asked "start")).events = s.events ++ [.asked "start"] := s.events_emit _
    rw [he, List.countP_append]
    rfl
  rw [onRequest_start hp, ← hb]
  rcases ha : (s.emit (.asked "start")).answerOf with ⟨b, e | graph⟩
  · rw [(told_miss hn ha).events, List.countP_append]
    rfl
  · rw [(told_launch hn ha).events, List.countP_append]
    rfl

/-- A stream that is stopped already says no more to a stop than that it was asked. -/
lemma events_onRequest_stop (hp : s.phase = .stopped) :
    (s.onRequest .stop).events = s.events ++ [.asked "stop"] := by
  have h := (told_stop_of_stopped (s := s.emit (.asked "stop")) hp).events
  rw [List.append_nil] at h
  exact h.trans (s.events_emit _)

/-- What a stream says to a stimulus before it is started. -/
lemma exists_remarks_react (hs : Settled s) (hp : s.phase = .stopped) (hx : s.exited = false)
    {x : Stimulus} (hn : x ≠ .request .start) :
    ∃ es, (s.react x).events = s.events ++ es ∧ ∀ e ∈ es, e.isRemark = true := by
  have hr : s.phase ≠ .running := by simp [hp]
  rw [react_of_not_exited hx]
  cases x with
  | request r =>
      cases r with
      | start => exact absurd rfl hn
      | stop => exact ⟨_, events_onRequest_stop hp, by decide⟩
      | restart =>
          have hw : ¬(s.restartPending.isSome || s.phase.rebuildPending) = true := by
            simp [hs.restartPending_eq_none (.inl hp), hp, Phase.rebuildPending]
          have h := (told_emit s (.asked "restart")).quiet
            (told_restart_of_idle (s := s.emit (.asked "restart")) hr hw .external)
          exact ⟨_, h.events, by decide⟩
      | toggleRecording =>
          have h := said_toggle (hs.session_eq_none hr) (hs.armed_eq_false hr)
          exact ⟨_, h.told.events, by decide⟩
  | abandoned =>
      have h := events_onRequest_stop
        (s := s.log .debug "all supervisor handles dropped" []) hp
      exact ⟨_, h, by decide⟩
  | status m =>
      have h : Said s [] (s.onStatus m) := by
        refine said_onStatus_of_stale ?_
        simp [liveGeneration, hs.graph_eq_none hr]
      exact ⟨_, h.told.events, by simp⟩
  | wake =>
      have ho : s.onWake = s :=
        onWake_of_waiting hs hr (by simp [hs.wakeAt_eq_none (.inl hp)])
      refine ⟨[], ?_, by simp⟩
      change s.onWake.events = _
      rw [ho, List.append_nil]
  | pass | frame | files | script => exact ⟨[], (List.append_nil _).symm, by simp⟩

/-- Each request to start that finds the stream stopped is told as a start, and nothing
else is. -/
lemma countP_start_react (hs : Settled s) (x : Stimulus) :
    (s.react x).events.countP (Event.isChangeBy .start) =
      s.events.countP (Event.isChangeBy .start) + (s.isStartedBy x).toNat := by
  have hm : ∀ e : Event, e.isChangeBy .start = true → e.isMilestone = true := fun e he =>
    Event.isMilestone_of_isChange (Bool.and_eq_true_iff.1 he).1
  by_cases ha : Awake s
  · have hi : s.isStartedBy x = false := by
      unfold State.isStartedBy
      split
      · rcases ha with ha | ha <;> simp [ha]
      · rfl
    rw [hi]
    refine (react_keeps (P := fun t => Awake t ∧ t.events.countP (Event.isChangeBy .start) =
      s.events.countP (Event.isChangeBy .start)) ?_ (fun _ ht => ht) hs ⟨ha, rfl⟩ x).2
    intro t v es ht ha h
    refine ⟨ha.1.move h, ?_⟩
    rw [h.events, List.countP_append, ← countP_filter_isMilestone hm es,
      (h.leg ht).countP_start ha.1, ha.2]
    rfl
  · obtain ⟨hp, hx⟩ : s.phase = .stopped ∧ s.exited = false := by
      simpa [Awake] using ha
    by_cases hn : x = .request .start
    · subst hn
      have hi : s.isStartedBy (.request .start) = true := by
        simp [State.isStartedBy, hp, hx]
      rw [react_of_not_exited hx, hi]
      exact countP_onRequest_start hp
    · have hi : s.isStartedBy x = false := by
        unfold State.isStartedBy
        split
        · exact absurd rfl hn
        · rfl
      obtain ⟨es, he, hr⟩ := exists_remarks_react hs hp hx hn
      rw [he, hi, List.countP_append, ← countP_filter_isMilestone hm es,
        filter_isMilestone_of_isRemark hr]
      rfl

/-- **In every run the starts are those that were asked for** when the stream was stopped. -/
theorem starts_of_run (u : Setup) (xs : List Stimulus) :
    (u.begin.run xs).events.countP (Event.isChangeBy .start) = u.begin.starts xs := by
  induction xs using List.reverseRecOn with
  | nil => rfl
  | append_singleton xs x ih =>
      rw [run_concat, countP_start_react (run_settled u xs), ih, starts_concat]

/-- **In every run each attempt follows a start or the end of a delay.** -/
theorem attempts_of_run (u : Setup) (xs : List Stimulus) :
    (u.begin.run xs).generation = (u.begin.run xs).events.countP (Event.isChangeBy .start) +
      (u.begin.run xs).events.countP (Event.isChangeBy .settleElapsed) +
      (u.begin.run xs).events.countP (Event.isChangeBy .retryElapsed) := by
  have hm : ∀ (input : Phase.Input) (es : List Event),
      (es.filter Event.isMilestone).countP (Event.isChangeBy input) =
        es.countP (Event.isChangeBy input) := fun input => countP_filter_isMilestone fun e he =>
    Event.isMilestone_of_isChange (Bool.and_eq_true_iff.1 he).1
  refine run_keeps (P := fun s => s.generation =
    s.events.countP (Event.isChangeBy .start) + s.events.countP (Event.isChangeBy .settleElapsed) +
      s.events.countP (Event.isChangeBy .retryElapsed)) ?_ (fun _ h => h) u rfl xs
  intro s t es hs hg h
  have hl : t.generation = s.generation + _ := (h.leg hs).attempts
  rw [hm, hm, hm] at hl
  rw [hl, h.events, List.countP_append, List.countP_append, List.countP_append, hg]
  omega

/-! ### Requests to restart -/

/-- Whatever is told is a remark, a milestone, or about a session. -/
lemma Move.kinds (h : Move s es t) {e : Event} (he : e ∈ es) :
    e.isRemark = true ∨ e.isMilestone = true ∨ e.isTale = true := by
  have hparting : ∀ e ∈ s.parting, e.isTale = true := by
    intro e he
    rcases List.mem_append.1 he with he | he <;> obtain ⟨_, -, rfl⟩ := List.mem_map.1 he <;> rfl
  cases h with
  | remark hes => exact .inl (hes e he)
  | record h =>
      cases h with
      | remark hes => exact .inl (by rw [Event.isRemark, hes e he])
      | refuse | giveBack =>
          obtain rfl := List.mem_singleton.1 he
          exact .inl rfl
      | begin | drain | finish =>
          obtain rfl := List.mem_singleton.1 he
          exact .inr (.inr rfl)
      | fail => rcases List.mem_pair.1 he with rfl | rfl <;> exact .inr (.inr rfl)
  | look | leave | frame | script => cases he
  | launch | miss =>
      refine .inr (.inl ?_)
      simp only [List.mem_cons, List.not_mem_nil, or_false] at he
      rcases he with rfl | rfl | he
      · exact Event.isMilestone_change _ _ _
      · rfl
      · rcases he with rfl | rfl <;> rfl
  | restart =>
      rcases List.mem_append.1 he with he | he
      · rcases List.mem_pair.1 he with rfl | rfl <;> exact .inr (.inl rfl)
      · exact .inr (.inr (hparting e he))
  | stop =>
      rcases List.mem_append.1 he with he | he
      · rcases List.mem_append.1 he with he | he
        · obtain rfl := List.mem_singleton.1 he
          exact .inr (.inl rfl)
        · exact .inr (.inr (hparting e he))
      · obtain rfl := List.mem_singleton.1 he
        exact .inr (.inl rfl)

/-- A restart is folded into another only if it was asked for. -/
lemma Move.coalesced (h : Move s es t) {e : Event} (he : e ∈ es)
    (hk : e.kind = .restartCoalesced) : e.cause? = some .external := by
  rcases h.kinds he with hr | hm | ht
  · simpa [Event.isRemark, hk] using hr
  · simp [Event.isMilestone, hk] at hm
  · simp [Event.isTale, hk] at ht

/-- **In every run, only restarts that were asked for are folded into others.** -/
theorem coalesced_of_run (u : Setup) (xs : List Stimulus) :
    ∀ e ∈ (u.begin.run xs).events, e.kind = .restartCoalesced → e.cause? = some .external := by
  have hu : u.begin.events = [] := rfl
  refine run_keeps (P := fun s => ∀ e ∈ s.events, e.kind = .restartCoalesced →
    e.cause? = some .external) ?_ (fun _ h => h) u (by simp [hu]) xs
  intro s t es _ hc h e he hk
  rw [h.events] at he
  rcases List.mem_append.1 he with he | he
  · exact hc e he hk
  · exact h.coalesced he hk

/-- Of a teardown, nothing answers a request to restart. -/
lemma filter_answersRestart_parting (s : State) :
    s.parting.filter Event.answersRestart = [] := by
  refine List.filter_eq_nil_iff.2 fun e he => ?_
  rcases List.mem_append.1 he with he | he <;> obtain ⟨_, -, rfl⟩ := List.mem_map.1 he <;>
    exact Bool.false_ne_true

/-- A graph that plays is replaced. -/
lemma answer_restart_of_running (hp : s.phase = .running)
    (h : (s.onRequest .restart).events = s.events ++ es) :
    es.filter Event.answersRestart = [.restarting .external s.generation] := by
  have hq : (s.emit (.asked "restart")).phase = .running := hp
  have he : (s.onRequest .restart).events = (s.emit (.asked "restart")).events ++
      ([.restarting .external s.generation,
        .change .running .restarting (.restart .external)] ++ s.parting) :=
    (told_restart hq .external).events
  have hb : (s.emit (.asked "restart")).events = s.events ++ [.asked "restart"] :=
    s.events_emit _
  rw [he, hb, List.append_assoc] at h
  obtain rfl := List.append_cancel_left h
  rw [List.filter_append, List.filter_append, filter_answersRestart_parting]
  rfl

/-- A rebuild that is on its way is enough. -/
lemma answer_restart_of_waiting (hp : s.phase = .restarting ∨ s.phase = .backoffWait)
    (h : (s.onRequest .restart).events = s.events ++ es) :
    es.filter Event.answersRestart = [.coalesced .external] := by
  have hn : s.phase ≠ .running := by rcases hp with hp | hp <;> simp [hp]
  have hb : s.phase.rebuildPending = true := by rcases hp with hp | hp <;> rw [hp] <;> rfl
  rw [(said_restart hn hb).told.events] at h
  obtain rfl := List.append_cancel_left h
  rfl

/-- **A request to restart is answered once**: a graph that plays is replaced, and a rebuild
that is on its way is enough. -/
theorem answer_restart (hs : Settled s) (ha : Awake s) (hx : s.exited = false)
    (h : (s.react (.request .restart)).events = s.events ++ es) :
    (s.phase = .running ∧
        es.filter Event.answersRestart = [.restarting .external s.generation]) ∨
      ((s.phase = .restarting ∨ s.phase = .backoffWait) ∧
        es.filter Event.answersRestart = [.coalesced .external]) := by
  have hr : s.react (.request .restart) = s.onRequest .restart := react_of_not_exited hx _
  rw [hr] at h
  rcases hs.phase with hp | hp | hp
  · rcases ha with ha | ha
    · exact absurd hp ha
    · exact absurd (hx.symm.trans ha) Bool.false_ne_true
  · exact .inl ⟨hp, answer_restart_of_running hp h⟩
  · exact .inr ⟨hp, answer_restart_of_waiting hp h⟩

/-- **A graph is replaced once.**  In every run no two restarts, and no two teardowns, tell
of the same graph.  When a restart of a graph begins, the graph is torn down in the same
answer, for the only time, and no other attempt is made before the settle delay is over.  A
request to restart, when the stream has been started, is answered by one restart if a graph
plays, and by one note that it is folded into another if the stream waits for a build; no
other call for a restart is ever folded.  And as many attempts are made as requests to start
have found the stream stopped, and delays have come to their end. -/
theorem restarts_of_run (u : Setup) (xs : List Stimulus) :
    let s := u.begin.run xs
    (∀ g, s.events.countP (Event.isOf .restartRequested g) ≤ 1 ∧
        s.events.countP (Event.isOf .graphTornDown g) ≤ 1) ∧
      (∀ x es cause g, (s.react x).events = s.events ++ es → .restarting cause g ∈ es →
        (∃ pre post, es = pre ++ .restarting cause g :: post ∧ .tornDown g ∈ post) ∧
          (s.react x).events.countP (Event.isOf .graphTornDown g) = 1 ∧
          ∀ ys, ((s.react x).run ys).generation ≠ g →
            s.now + u.settings.settleDelay ≤ ((s.react x).run ys).now) ∧
      (.request .start ∈ xs → s.exited = false → ∀ es,
        (s.react (.request .restart)).events = s.events ++ es →
        (s.phase = .running ∧
            es.filter Event.answersRestart = [.restarting .external s.generation]) ∨
          ((s.phase = .restarting ∨ s.phase = .backoffWait) ∧
            es.filter Event.answersRestart = [.coalesced .external])) ∧
      (∀ e ∈ s.events, e.kind = .restartCoalesced → e.cause? = some .external) ∧
      s.backend.stats.builds + s.backend.stats.failedBuilds = u.begin.starts xs +
        s.events.countP (Event.isChangeBy .settleElapsed) +
        s.events.countP (Event.isChangeBy .retryElapsed) := by
  intro s
  have hs : Settled s := run_settled u xs
  refine ⟨fun g => ⟨run_once (.inl rfl) u xs g, run_once (.inr rfl) u xs g⟩, ?_, ?_, ?_, ?_⟩
  · intro x es cause g h hg
    obtain ⟨pre, post, rfl, hd⟩ := tornDown_of_restarting hs h hg
    have hd' : .tornDown g ∈ pre ++ .restarting cause g :: post := by simp [hd]
    refine ⟨⟨pre, post, rfl, hd⟩, le_antisymm ?_ ?_, fun ys hy => ?_⟩
    · have ho := run_once (.inr rfl) u (xs ++ [x]) g
      rwa [run_concat] at ho
    · have hm : .tornDown g ∈ (s.react x).events := h ▸ List.mem_append_right _ hd'
      exact List.countP_pos_iff.2 ⟨_, hm, by simp⟩
    · rw [← (run_configured u xs).settleDelay]
      exact settleDelay_le hs h hd' ys hy
  · intro hm hx es h
    exact answer_restart hs (awake_of_start_mem u hm) hx h
  · exact coalesced_of_run u xs
  · rw [(run_booked u xs).attempts_eq, attempts_of_run, starts_of_run]

end Once

end Supervisor

end StreamWarden
