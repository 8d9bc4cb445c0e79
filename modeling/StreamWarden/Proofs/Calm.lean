import StreamWarden.Proofs.Departed

/-!
# What raises no alarm

Only a look of the watchdog can raise an alarm, that is, tell that a graph has stalled and
restart it for that reason; and only a frame marks a probe.  All else that a supervisor
does is calm: it may add new probes, and leaves alone those that are there.

* `isAlarm`: the events of an alarm.
* `Probed`: no probe was marked; `Calm`: no alarm was raised either.
* `calm_react`: every answer is calm, but for wake-ups and frames.
* `calm_drained`, `calm_endDelay`: so are the first two parts of a wake-up.
-/

namespace StreamWarden

/-- The event tells that a graph has stalled, or that it is restarted because it has. -/
def Event.isAlarm (e : Event) : Bool :=
  e.kind == .watchdogTimeout || e.kind == .restartRequested && e.cause? == some .watchdog

namespace Supervisor

open State

/-- No probe was marked; probes that are new were made now. -/
structure Probed (s t : State) : Prop where
  probes : ∃ n, t.probes = s.probes ++ List.replicate n (FrameProbe.new s.now)
  now : t.now = s.now

/-- **No alarm was raised, and no probe was marked.** -/
structure Calm (s t : State) : Prop extends Probed s t where
  events : ∃ es, t.events = s.events ++ es ∧ ∀ e ∈ es, e.isAlarm = false

namespace Probed

variable {s t u : State}

/-- The probes are the same. -/
lemma of_eq (hp : t.probes = s.probes) (hn : t.now = s.now) : Probed s t :=
  ⟨⟨0, hp.trans (List.append_nil _).symm⟩, hn⟩

lemma trans (h : Probed s t) (h' : Probed t u) : Probed s u := by
  obtain ⟨⟨n, hp⟩, hn⟩ := h
  obtain ⟨⟨m, hq⟩, hm⟩ := h'
  refine ⟨⟨n + m, ?_⟩, hm.trans hn⟩
  rw [hq, hp, hn, List.append_assoc, List.replicate_append_replicate]

/-- What is told marks no probe. -/
lemma of_told {es : List Event} (h : Told t es u) (hp : Probed s t) : Probed s u := by
  obtain ⟨files, outs, rfl, -⟩ := h
  exact ⟨hp.probes, hp.now⟩

end Probed

namespace Calm

variable {s t u : State} {es : List Event}

lemma refl (s : State) : Calm s s := ⟨.of_eq rfl rfl, [], (List.append_nil _).symm, by simp⟩

lemma trans (h : Calm s t) (h' : Calm t u) : Calm s u := by
  obtain ⟨hp, es, he, hes⟩ := h
  obtain ⟨hq, fs, hf, hfs⟩ := h'
  refine ⟨hp.trans hq, es ++ fs, by rw [hf, he, List.append_assoc], fun e hm => ?_⟩
  exact (List.mem_append.1 hm).elim (hes e) (hfs e)

/-- What is told of a state with the same journal. -/
lemma of_told (h : Told u es t) (hj : u.journal = s.journal) (hp : Probed s u)
    (hes : ∀ e ∈ es, e.isAlarm = false) : Calm s t :=
  ⟨.of_told h hp, es, by rw [h.events, Host.events, Host.events, hj], hes⟩

/-- What is told, and nothing else. -/
lemma told (h : Told s es t) (hes : ∀ e ∈ es, e.isAlarm = false) : Calm s t :=
  of_told h rfl (.of_eq rfl rfl) hes

end Calm

@[simp] lemma isAlarm_change (p q : Phase) (input : Phase.Input) :
    (Event.change p q input).isAlarm = false := by cases input <;> rfl

section Operations

variable {s : State}

lemma isAlarm_parting : ∀ e ∈ s.parting, e.isAlarm = false := by
  intro e he
  rcases List.mem_append.1 he with he | he <;> obtain ⟨_, -, rfl⟩ := List.mem_map.1 he <;> rfl

/-- An attempt adds one probe. -/
lemma calm_attempt {input : Phase.Input} (hn : s.phase.next? input = some .starting) :
    Calm s (s.transition input).attempt := by
  rcases ha : s.answerOf with ⟨b, e | graph⟩
  · refine .of_told (told_miss hn ha) rfl ⟨⟨1, rfl⟩, rfl⟩ fun e he => ?_
    simp only [List.mem_cons, List.not_mem_nil, or_false] at he
    rcases he with rfl | rfl | rfl | rfl
    · exact isAlarm_change _ _ _
    all_goals rfl
  · refine .of_told (told_launch hn ha) rfl ⟨⟨1, rfl⟩, rfl⟩ fun e he => ?_
    simp only [List.mem_cons, List.not_mem_nil, or_false] at he
    rcases he with rfl | rfl | rfl
    · exact isAlarm_change _ _ _
    all_goals rfl

/-- Only the watchdog raises an alarm when it restarts a graph. -/
lemma calm_restart {cause : RestartCause} (hc : cause ≠ .watchdog) : Calm s (s.restart cause) := by
  by_cases hp : s.phase = .running
  · refine .of_told (told_restart hp cause) rfl (.of_eq rfl rfl) fun e he => ?_
    rcases List.mem_append.1 he with he | he
    · rcases List.mem_pair.1 he with rfl | rfl
      · cases cause with
        | watchdog => exact absurd rfl hc
        | graphError | endOfStream | external => rfl
      · rfl
    · exact isAlarm_parting e he
  · by_cases hr : (s.restartPending.isSome || s.phase.rebuildPending) = true
    · exact .told (told_restart_of_pending hp hr cause) (List.forall_mem_singleton.2 rfl)
    · exact .told (told_restart_of_idle hp hr cause) (List.forall_mem_nil _)

lemma calm_stop (hs : Settled s) : Calm s s.stop := by
  by_cases hp : s.phase = .stopped
  · exact .of_told (told_stop_of_stopped hp) rfl (.of_eq rfl rfl) (List.forall_mem_nil _)
  · refine .of_told (told_stop (hs.next_stop hp)) rfl (.of_eq rfl rfl) fun e he => ?_
    simp only [List.mem_append, List.mem_singleton] at he
    rcases he with (rfl | he) | rfl
    · rfl
    · exact isAlarm_parting e he
    · rfl

/-- What the recorder does raises no alarm. -/
lemma calm_act {es : List Event} {graph : Option Graph} {now : Nat} {a : Studio}
    (h : Studio.Act graph now s.toStudio es a) : Calm s (s.onStudio fun _ => a) := by
  refine ⟨.of_eq h.probes_eq h.now_eq, es, h.events, ?_⟩
  cases h with
  | remark hes =>
      intro e he
      simp [Event.isAlarm, hes e he]
  | refuse | giveBack | begin | drain | finish => exact List.forall_mem_singleton.2 rfl
  | fail => exact List.forall_mem_cons.2 ⟨rfl, List.forall_mem_singleton.2 rfl⟩

lemma calm_log (level : Log.Level) (message : String) (fields : List (String × Log.Value)) :
    Calm s (s.log level message fields) :=
  .told (told_log s level message fields) (List.forall_mem_nil _)

lemma calm_transition_of_none {input : Phase.Input} (hn : s.phase.next? input = none) :
    Calm s (s.transition input) :=
  .told (told_transition_of_none hn) (List.forall_mem_nil _)

lemma calm_start (hs : Settled s) : Calm s
    (if s.applies .start then (s.transition .start).attempt else s.transition .start) := by
  by_cases hp : s.phase = .stopped
  · have hn : s.phase.next? .start = some .starting := by rw [hp]; rfl
    rw [applies, hn, Option.isSome_some, if_pos rfl]
    exact calm_attempt hn
  · have hn := hs.next_start hp
    rw [applies, hn, Option.isSome_none, if_neg Bool.false_ne_true]
    exact calm_transition_of_none hn

lemma calm_onRequest (hs : Settled s) (r : Request) : Calm s (s.onRequest r) := by
  have h : Calm s (s.emit (.asked r.label)) :=
    .told (told_emit s _) (List.forall_mem_singleton.2 rfl)
  have hs' : Settled (s.emit (.asked r.label)) := hs.told (told_emit s _)
  refine h.trans ?_
  cases r with
  | start => exact calm_start hs'
  | stop => exact calm_stop hs'
  | restart => exact calm_restart nofun
  | toggleRecording =>
      obtain ⟨es, ha⟩ := Studio.act_toggle hs'.proper (wantsRecording _) s.graph s.now
      exact (calm_act ha).trans (calm_log _ _ _)

/-- The monitor raises no alarm. -/
lemma isAlarm_of_judge {view : Monitor.View} {m : StatusMessage} {e : Event}
    (he : (Monitor.judge view m).event? = some e) : e.isAlarm = false := by
  rw [Monitor.judge] at he
  split at he
  · rw [Monitor.judgeLive] at he
    split at he
    · split at he <;> cases he
    all_goals cases he <;> rfl
  · cases he

/-- The monitor asks for no restart because of a stall. -/
lemma ne_watchdog_of_judge {view : Monitor.View} {m : StatusMessage} {cause : RestartCause}
    (hr : (Monitor.judge view m).reaction = .restart cause) : cause ≠ .watchdog := by
  rw [Monitor.judge] at hr
  split at hr
  · rw [Monitor.judgeLive] at hr
    split at hr
    · split at hr <;> cases hr
    all_goals cases hr <;> decide
  · cases hr

lemma calm_onStatus (m : StatusMessage) : Calm s (s.onStatus m) := by
  have ht : Calm s (s.tell (Monitor.judge s.view m)) :=
    .told (told_tell s _) fun e he => isAlarm_of_judge (Option.mem_toList.1 he)
  simp only [onStatus]
  split
  case h_1 hr => exact ht.trans (calm_restart (ne_watchdog_of_judge hr))
  case h_2 hr =>
    obtain ⟨session, hs⟩ := Option.isSome_iff_exists.1 (session_of_judge hr)
    obtain ⟨x, hx, -⟩ := Option.map_eq_some_iff.1 hs
    exact ht.trans (calm_act (Studio.act_branchError
      (s := (s.tell (Monitor.judge s.view m)).toStudio) hx _ _ s.graph s.now))
  case h_3 => exact ht

/-- The state of a supervisor after the first part of a wake-up, the end of a drain. -/
def State.drained (s : State) : State :=
  s.onStudio fun studio => studio.finishDrain s.now s.graph

lemma calm_drained (s : State) : Calm s s.drained := by
  obtain ⟨es, ha⟩ := Studio.act_finishDrain s.toStudio s.now s.graph
  exact calm_act ha

lemma calm_endDelay (hs : Settled s) : Calm s s.endDelay := by
  rcases endDelay_cases hs with he | ⟨-, -, input, hn, he⟩ <;> rw [he]
  · exact .refl s
  · have hc := calm_attempt (s := { s with wakeAt := none }) hn
    exact ⟨⟨hc.probes, hc.now⟩, hc.events⟩

/-- **Every answer is calm**, but for wake-ups and frames. -/
theorem calm_react (hs : Settled s) {x : Stimulus} (ht : x.isTime = false) (hw : x ≠ .wake)
    (hf : ∀ number, x ≠ .frame number) : Calm s (s.react x) := by
  rw [react]
  split
  · exact .refl s
  · cases x with
    | request r => exact calm_onRequest hs r
    | abandoned =>
        have h₁ : Calm s (s.log .debug "all supervisor handles dropped" []) := calm_log _ _ _
        exact h₁.trans (calm_onRequest (hs.told (told_log _ _ _ _)) .stop)
    | status m => exact calm_onStatus m
    | wake => exact absurd rfl hw
    | pass => cases ht
    | frame number => exact absurd rfl (hf number)
    | files tree => exact .told (told_files s tree) (List.forall_mem_nil _)
    | script script => exact ⟨.of_eq rfl rfl, [], (List.append_nil _).symm, by simp⟩

end Operations

end Supervisor

end StreamWarden
