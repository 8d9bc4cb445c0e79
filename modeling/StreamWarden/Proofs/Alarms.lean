import StreamWarden.Proofs.Account
import StreamWarden.Proofs.Arrivals
import StreamWarden.Proofs.Retries

/-!
# Alarms

An alarm is raised for a graph exactly if the watchdog finds it stalled, and after that the
graph is gone for good.

* `stalled_iff`: when the watchdog finds a stall, in terms of the frames that came.
* `alarm_iff_late`: when a run raises an alarm for a graph; `run_alarmed`: it does so once.
* `alarm_split`: where the stream stands when an alarm is raised.
* `deadline_of_launch`, `Awaits.run`: the first look at a graph comes a full interval after
  its launch.
* **`alarms_of_run`**: when a run raises alarms, and when frames that keep coming keep it from
  doing so; **`vigil_of_run`**: stalls are never missed, and never found twice.
-/

namespace StreamWarden

/-- The event is an alarm for this graph. -/
def Event.isAlarmOf (g : Nat) (e : Event) : Bool := e.isAlarm && e.generation? == some g

namespace Supervisor

open State

variable {s t : State} {es : List Event} {g d : Nat}

/-- The graph that is alive is the latest one. -/
lemma generation_of_live (hg : s.liveGeneration = some g) : s.generation = g := by
  obtain ⟨_, -, h⟩ := Option.map_eq_some_iff.1 hg
  exact h

/-- It is its probe at which the watchdog looks. -/
lemma Numbered.watched_of_live (hn : Numbered s) (hg : s.liveGeneration = some g) :
    s.watched = g := by
  obtain ⟨graph, h, hg⟩ := Option.map_eq_some_iff.1 hg
  exact (hn.watched (by rw [h]; rfl)).trans hg

/-! ### When a stall is found -/

lemma verdict_eq_stalled_iff {age : Nat} : s.verdict = some (.stalled age) ↔
    s.watchdog.isDue s.now = true ∧
      ∃ last ∈ (s.probe s.watched).lastFrame?,
        s.now - last = age ∧ s.watchdog.threshold < age := by
  rw [verdict_eq]
  split
  case isTrue hd => rw [Option.some_inj, Watchdog.judge_eq_stalled_iff, and_iff_right hd]
  case isFalse hd => simp [hd]

/-- **The watchdog finds a stall** if it is time to look and the latest frame of the graph
came too long ago, as the probe has kept it. -/
theorem stalled_iff (u : Setup) (ys : List Stimulus)
    (hg : (u.begin.run ys).liveGeneration = some g) (age : Nat) :
    (u.begin.run ys).verdict = some (.stalled age) ↔
      (u.begin.run ys).watchdog.isDue (u.begin.run ys).now = true ∧
        ∃ m ∈ (u.begin.arrivals g ys).getLast?,
          (u.begin.run ys).now - ((u.begin.run ys).probe g).kept m = age ∧
            u.settings.stallThreshold < age := by
  rw [verdict_eq_stalled_iff, (run_numbered u ys).watched_of_live hg,
    (run_marked u ys g).lastFrame?, (run_configured u ys).threshold]
  simp only [Option.mem_def, Option.map_eq_some_iff, exists_exists_and_eq_and]

/-- Only a graph that is alive stalls. -/
lemma live_of_stalled (hs : Settled s) {age : Nat} (hv : s.verdict = some (.stalled age)) :
    s.liveGeneration = some s.generation :=
  hs.live_of_running (hs.watchdog.1 (isArmed_of_verdict hv))

/-! ### When an alarm is raised -/

lemma mem_alarms {x : Stimulus} {e : Event} : e ∈ s.alarms x ↔ x = .wake ∧
    ∃ age, s.verdict = some (.stalled age) ∧
      (e = .stalled s.generation age ∨ e = .restarting .watchdog s.generation) := by
  cases x with
  | wake =>
      rw [State.alarms]
      split
      case h_1 age hv => simp [hv]
      case h_2 hv =>
        refine iff_of_false List.not_mem_nil ?_
        rintro ⟨-, age, h, -⟩
        exact hv age h
  | _ => simp [State.alarms]

/-- An answer raises an alarm for a graph if it finds it stalled. -/
lemma exists_alarm_tells (hs : Settled s) (hn : Numbered s) (x : Stimulus) :
    (∃ e ∈ s.tells x, e.isAlarmOf g = true) ↔
      x = .wake ∧ s.liveGeneration = some g ∧ ∃ age, s.verdict = some (.stalled age) := by
  have hm : ∀ e, (e ∈ s.tells x ∧ e.isAlarmOf g = true) ↔
      e ∈ s.alarms x ∧ e.generation? = some g := by
    intro e
    rw [← alarms_tells hs hn, List.mem_filter, Event.isAlarmOf, Bool.and_eq_true, beq_iff_eq,
      and_assoc]
  simp only [hm, mem_alarms]
  constructor
  · rintro ⟨e, ⟨hx, age, hv, he⟩, hg⟩
    have hl := live_of_stalled hs hv
    rcases he with rfl | rfl <;> exact ⟨hx, hl.trans hg, age, hv⟩
  · rintro ⟨hx, hl, age, hv⟩
    exact ⟨_, ⟨hx, age, hv, .inl rfl⟩, congrArg some (generation_of_live hl)⟩

/-- A run raises an alarm for a graph if a wake-up finds it stalled. -/
theorem alarm_iff (u : Setup) (xs : List Stimulus) (g : Nat) :
    (∃ e ∈ (u.begin.run xs).events, e.isAlarmOf g = true) ↔
      ∃ ys, ys ++ [.wake] <+: xs ∧ (u.begin.run ys).liveGeneration = some g ∧
        ∃ age, (u.begin.run ys).verdict = some (.stalled age) := by
  induction xs using List.reverseRecOn with
  | nil =>
      have hn : ∀ ys : List Stimulus, ¬ys ++ [.wake] <+: [] := by simp
      simp only [hn, false_and, exists_false, iff_false]
      rintro ⟨e, he, -⟩
      cases he
  | append_singleton xs x ih =>
      have hs := run_settled u xs
      have hr := exists_alarm_tells (g := g) hs (run_numbered u xs) x
      simp only [State.run_concat, events_react hs, List.mem_append, or_and_right, exists_or,
        ih, hr, List.prefix_concat_iff]
      rw [or_comm]
      refine or_congr_left ⟨?_, ?_⟩
      · rintro ⟨rfl, h⟩
        exact ⟨xs, rfl, h⟩
      · rintro ⟨ys, he, h⟩
        obtain ⟨rfl, hx⟩ := List.append_inj' he rfl
        exact ⟨(List.singleton_inj.1 hx).symm, h⟩

/-- **A run raises an alarm for a graph** if a wake-up looks at it when its latest frame came
too long ago, as the probe has kept it. -/
theorem alarm_iff_late (u : Setup) (xs : List Stimulus) (g : Nat) :
    (∃ e ∈ (u.begin.run xs).events, e.isAlarmOf g = true) ↔
      ∃ ys, ys ++ [.wake] <+: xs ∧
        let s := u.begin.run ys
        s.liveGeneration = some g ∧ s.watchdog.isDue s.now = true ∧
          ∃ m ∈ (u.begin.arrivals g ys).getLast?,
            u.settings.stallThreshold < s.now - (s.probe g).kept m := by
  rw [alarm_iff]
  refine exists_congr fun ys => and_congr_right fun _ => and_congr_right fun hg => ?_
  simp only [stalled_iff u ys hg]
  constructor
  · rintro ⟨age, hd, m, hm, rfl, hlt⟩
    exact ⟨hd, m, hm, hlt⟩
  · rintro ⟨hd, m, hm, hlt⟩
    exact ⟨_, hd, m, hm, rfl, hlt⟩

/-! ### An alarm is raised once -/

/-- Of the alarms for a graph so far, there is none, or the one after which it was gone. -/
def Alarmed (g : Nat) (s : State) : Prop :=
  s.events.filter (Event.isAlarmOf g) = [] ∨
    Departed g s ∧ ∃ age,
      s.events.filter (Event.isAlarmOf g) = [.stalled g age, .restarting .watchdog g]

/-- The alarms for a graph in an answer. -/
lemma filter_isAlarmOf_tells (hs : Settled s) (hn : Numbered s) (x : Stimulus) :
    (s.tells x).filter (Event.isAlarmOf g) =
      (s.alarms x).filter fun e => e.generation? == some g := by
  rw [← alarms_tells hs hn, List.filter_filter]
  exact congrArg (List.filter · _) (funext fun e => Bool.and_comm _ _)

/-- After an alarm the graph is gone. -/
lemma departed_of_stalled (hs : Settled s) {age : Nat} (hv : s.verdict = some (.stalled age)) :
    Departed s.generation (s.react .wake) := by
  obtain ⟨_, _, -, -, h, -⟩ := wake_of_stalled hs hv
  obtain ⟨files, outs, ht, -⟩ := h
  rw [ht]
  exact .of_none rfl le_rfl

lemma Alarmed.react (ha : Alarmed g s) (hs : Settled s) (hn : Numbered s) (x : Stimulus) :
    Alarmed g (s.react x) := by
  rw [Alarmed, events_react hs, List.filter_append, filter_isAlarmOf_tells hs hn]
  by_cases hx : ∃ e ∈ s.alarms x, e.generation? = some g
  · obtain ⟨e, he, hg⟩ := hx
    obtain ⟨rfl, age, hv, he⟩ := mem_alarms.1 he
    have hl := live_of_stalled hs hv
    obtain rfl : s.generation = g := by rcases he with rfl | rfl <;> exact Option.some.inj hg
    have h₀ : s.events.filter (Event.isAlarmOf s.generation) = [] :=
      ha.resolve_right fun h => h.1.live hl
    refine .inr ⟨departed_of_stalled hs hv, age, ?_⟩
    rw [h₀, State.alarms, hv]
    simp [Event.stalled, Event.restarting, Event.withGeneration, Event.withDelay]
  · have hf : (s.alarms x).filter (fun e => e.generation? == some g) = [] :=
      List.filter_eq_nil_iff.2 fun e he hg => hx ⟨e, he, beq_iff_eq.1 hg⟩
    rw [hf, List.append_nil]
    exact ha.imp_right fun h => ⟨h.1.react hs x, h.2⟩

/-- **Every graph has one alarm at most.** -/
theorem run_alarmed (u : Setup) (xs : List Stimulus) (g : Nat) : Alarmed g (u.begin.run xs) := by
  induction xs using List.reverseRecOn with
  | nil => exact .inl rfl
  | append_singleton xs x ih =>
      rw [State.run_concat]
      exact ih.react (run_settled u xs) (run_numbered u xs) x

/-! ### Where the stream stands when an alarm is raised -/

/-- An alarm that tells of a stall is raised while the graph plays. -/
lemma stalled_split (hs : Settled s) (hn : Numbered s) {x : Stimulus} {pre post : List Event}
    {e : Event} (h : s.tells x = pre ++ e :: post) (he : e.kind = .watchdogTimeout) :
    ∃ age t, e = .stalled s.generation age ∧ Move s pre t ∧ t.phase = .running ∧
      t.liveGeneration = some s.generation := by
  have ha : e.isAlarm = true := by rw [Event.isAlarm, he]; rfl
  have hm : e ∈ s.alarms x := by
    rw [← alarms_tells hs hn, List.mem_filter, h]
    exact ⟨by simp, ha⟩
  obtain ⟨rfl, age, hv, he' | rfl⟩ := mem_alarms.1 hm
  · obtain ⟨ds, _, hd, hds, -, ht⟩ := wake_of_stalled hs hv
    have hl := live_of_stalled hs hv
    have hmem : e ∉ ds := fun hm => by
      rw [hds e hm] at ha
      cases ha
    have hmem' : e ∉ .restarting .watchdog s.generation :: s.drained.aftermath := fun hm => by
      rcases List.mem_cons.1 hm with rfl | hm
      · cases he
      · rw [isAlarm_aftermath e hm] at ha
        cases ha
    rw [ht, ← he'] at h
    obtain ⟨rfl, -, -⟩ := (List.append_cons_inj_of_notMem hmem hmem').1 h
    exact ⟨age, s.drained, he', hd, hs.running_of_live hl, hl⟩
  · cases he

/-- **No stall is told but while its graph plays**, as the events have told it so far. -/
theorem alarm_split (u : Setup) (xs : List Stimulus) {pre post : List Event} {e : Event}
    (h : (u.begin.run xs).events = pre ++ e :: post) (he : e.kind = .watchdogTimeout) :
    ∃ g age, e = .stalled g age ∧ (replay pre).phase = .running ∧
      (replay pre).generation = some g := by
  induction xs using List.reverseRecOn generalizing post with
  | nil =>
      have hn : (u.begin.run []).events = [] := rfl
      rw [hn] at h
      simp at h
  | append_singleton xs x ih =>
      have hs := run_settled u xs
      rw [State.run_concat, events_react hs] at h
      rcases exists_of_append_eq h with ⟨post', h⟩ | ⟨fs, ht, rfl⟩
      · exact ih h
      · obtain ⟨age, t, rfl, hm, hp, hl⟩ := stalled_split hs (run_numbered u xs) ht he
        have hr : replay ((u.begin.run xs).events ++ fs) = t.status :=
          ((run_reports u xs).trans (hm.reports hs)).foldl_eq
        rw [hr]
        exact ⟨_, age, rfl, hp, hl⟩

/-! ### The first look at a graph -/

/-- The watchdog does not look at a graph before an instant, at which its next look is due;
and no graph to come has the number of this one. -/
structure Awaits (g d : Nat) (s : State) : Prop where
  le : g ≤ s.generation
  deadline : s.liveGeneration = some g → s.now < d → s.watchdog.deadline = some d

/-- With the launch of a graph the watchdog is armed. -/
lemma Move.armed (h : Move s es t) (hs : Settled s)
    (ha : s.liveGeneration = some g → s.watchdog.deadline = some (s.now + s.watchdog.interval))
    (hg : t.liveGeneration = some g) :
    t.watchdog.deadline = some (t.now + t.watchdog.interval) := by
  cases h with
  | remark _ h | leave _ h =>
      obtain ⟨files, outs, rfl, -⟩ := h
      exact ha hg
  | look _ h | launch _ _ _ h =>
      obtain ⟨files, outs, rfl, -⟩ := h
      rfl
  | record h =>
      have hn := h.now_eq
      exact (ha hg).trans (congrArg (fun n => some (n + s.watchdog.interval)) hn.symm)
  | miss hx hn _ h =>
      have ht := hs.graph_eq_none (Phase.ne_running_of_next hn)
      obtain ⟨files, outs, rfl, -⟩ := h
      simp [liveGeneration, parked, tried, ht] at hg
  | restart _ h | stop _ h =>
      obtain ⟨files, outs, rfl, -⟩ := h
      cases hg
  | frame | script => exact ha hg

/-- Until it is time, the watchdog does not look. -/
lemma Move.awaits (h : Move s es t) (hs : Settled s) (ha : Awaits g d s) : Awaits g d t := by
  cases h with
  | remark _ h | leave _ h =>
      obtain ⟨files, outs, rfl, -⟩ := h
      exact ⟨ha.le, ha.deadline⟩
  | look hd h =>
      obtain ⟨files, outs, rfl, -⟩ := h
      refine ⟨ha.le, fun hg hn => ?_⟩
      have hw := ha.deadline hg hn
      rw [Watchdog.isDue, hw] at hd
      exact absurd (of_decide_eq_true hd) (Nat.not_le.2 hn)
  | launch _ _ _ h =>
      obtain ⟨files, outs, rfl, -⟩ := h
      refine ⟨Nat.le_succ_of_le ha.le, fun hg => ?_⟩
      have hg := generation_of_live hg
      exact absurd hg (Nat.lt_succ_of_le ha.le).ne'
  | record h =>
      have hn := h.now_eq
      exact ⟨ha.le, fun hg hd => ha.deadline hg (hn ▸ hd)⟩
  | miss _ hn _ h =>
      have ht := hs.graph_eq_none (Phase.ne_running_of_next hn)
      obtain ⟨files, outs, rfl, -⟩ := h
      refine ⟨Nat.le_succ_of_le ha.le, fun hg => ?_⟩
      simp [liveGeneration, parked, tried, ht] at hg
  | restart _ h | stop _ h =>
      obtain ⟨files, outs, rfl, -⟩ := h
      refine ⟨ha.le, fun hg => ?_⟩
      cases hg
  | frame | script => exact ⟨ha.le, ha.deadline⟩

/-- **A graph that is new is looked at after a full interval.** -/
lemma deadline_of_launch (hs : Settled s) {x : Stimulus} (hl : s.liveGeneration ≠ some g)
    (hg : (s.react x).liveGeneration = some g) :
    (s.react x).watchdog.deadline = some ((s.react x).now + s.watchdog.interval) := by
  cases ht : x.isTime with
  | true =>
      obtain ⟨span, rfl⟩ := x.exists_of_isTime ht
      rw [react_pass] at hg
      exact absurd hg hl
  | false =>
      obtain ⟨es, h⟩ := moves_react hs ht
      have hd := h.keep (P := fun t => t.liveGeneration = some g →
        t.watchdog.deadline = some (t.now + t.watchdog.interval))
        (fun hs ha h => h.armed hs ha) hs (fun h => absurd h hl) hg
      rwa [h.steady.interval] at hd

/-- A graph that is new comes of an attempt that has succeeded. -/
lemma attempts_of_launch (hs : Settled s) (hn : Numbered s) {x : Stimulus}
    (hl : s.liveGeneration ≠ some g) (hg : (s.react x).liveGeneration = some g) :
    ∃ before b graph, s.answerOf = (b, .ok graph) ∧ s.Attempts before (s.react x) := by
  rcases react_cases hs hn x with hr | ⟨before, hp, hb, hr⟩
  · -- without an attempt, no graph is alive that was not before
    have hd : Departed g s := ⟨hr ▸ (generation_of_live hg).ge, hl⟩
    exact absurd hg (hd.react hs x).live
  · rcases ha : s.answerOf with ⟨b, e | graph⟩
    · have hm := missed_of_poised hs hp hb ha hr
      have hq := (settled_react hs x).running_of_live hg
      rw [hm.phase] at hq
      cases hq
    · exact ⟨before, b, graph, rfl, hr⟩

/-- **The answer with which a graph begins to play meets a limit** only if the first look at the
graph would come beyond the end of the clock. -/
lemma excess_of_launch (hs : Settled s) (hn : Numbered s) (hx : s.excess? = none) {x : Stimulus}
    (hl : s.liveGeneration ≠ some g) (hg : (s.react x).liveGeneration = some g) :
    (s.react x).excess? =
      if (s.react x).now + s.watchdog.interval < s.horizon then none else some .instant := by
  obtain ⟨before, b, graph, ha, hr⟩ := attempts_of_launch hs hn hl hg
  obtain ⟨hp, he⟩ := excess_of_poised hx ha hr
  have hn : (s.react x).now = s.now := congrArg Pace.now hp
  rw [he, hn]

/-- **The watchdog does not look before.** -/
lemma Awaits.run (ha : Awaits g d s) (hs : Settled s) (ys : List Stimulus) :
    Awaits g d (s.run ys) := by
  refine (run_invariant (P := fun s => Settled s ∧ Awaits g d s) ?_ ⟨hs, ha⟩ ys).2
  intro s x ha
  refine ⟨settled_react ha.1 x, react_keeps (P := Awaits g d) (fun hs ha h => h.awaits hs ha) ?_
    ha.1 ha.2 x⟩
  exact fun span ha =>
    ⟨ha.le, fun hg hn => ha.deadline hg ((Nat.le_add_right _ _).trans_lt hn)⟩

/-! ### The alarms of a run -/

/-- **Alarms.**  In every run an alarm is raised for a graph exactly if a wake-up came when it
was time to look at this graph, and the latest frame that had passed its probe was older
than the threshold, as the probe has kept it.  So frames that keep coming keep alarms away:
each such wake-up has to come within the threshold of the latest frame, and, as long as the
probe can count the microseconds, either that frame has come at a whole microsecond since
the probe was made, or a microsecond has to be left. -/
theorem alarms_of_run (u : Setup) (xs : List Stimulus) (g : Nat) :
    ((∃ e ∈ (u.begin.run xs).events, e.isAlarmOf g = true) ↔
      ∃ ys, ys ++ [.wake] <+: xs ∧
        let s := u.begin.run ys
        s.liveGeneration = some g ∧ s.watchdog.isDue s.now = true ∧
          ∃ m ∈ (u.begin.arrivals g ys).getLast?,
            u.settings.stallThreshold < s.now - (s.probe g).kept m) ∧
      ((∀ ys, ys ++ [.wake] <+: xs →
          let s := u.begin.run ys
          s.liveGeneration = some g → s.watchdog.isDue s.now = true →
            ∀ m ∈ (u.begin.arrivals g ys).getLast?,
              s.now < m + u.settings.stallThreshold ∧ (s.probe g).Counts m ∧
                (Time.micros 1 ∣ m - (s.probe g).epoch ∨
                  s.now + Time.micros 1 ≤ m + u.settings.stallThreshold)) →
        ∀ e ∈ (u.begin.run xs).events, e.isAlarmOf g = false) := by
  have hi := alarm_iff_late u xs g
  refine ⟨hi, fun hy e he => Bool.eq_false_iff.2 fun ha => ?_⟩
  obtain ⟨ys, hp, hg, hd, m, hm, hlt⟩ := hi.1 ⟨e, he, ha⟩
  obtain ⟨hn, hc, hb | hb⟩ := hy ys hp hg hd m hm
  · have hk := FrameProbe.kept_eq ((run_marked u ys g).epoch_le (List.mem_of_getLast? hm)) hc hb
    omega
  · have hk := FrameProbe.lt_kept hc
    omega

/-- A microsecond may be needed: this frame has come within the threshold, and is taken for
older. -/
example :
    let u : Setup := { profile := .receiver 5600 96 .h264 }
    let s := u.begin.run [.request .start, .pass 700000600, .frame 1, .pass 299999900]
    s.now < 700000600 + u.settings.stallThreshold ∧ s.verdict = some (.stalled 300000500) := by
  decide

/-- A graph that was never seen to deliver a frame raises no alarm. -/
lemma isAlarmOf_of_arrivals_eq_nil (u : Setup) (xs : List Stimulus)
    (hn : u.begin.arrivals g xs = []) : ∀ e ∈ (u.begin.run xs).events, e.isAlarmOf g = false := by
  intro e he
  refine Bool.eq_false_iff.2 fun ha => ?_
  obtain ⟨ys, ⟨zs, rfl⟩, hg, age, hv⟩ := (alarm_iff u xs g).1 ⟨e, he, ha⟩
  obtain ⟨-, m, hm, -⟩ := (stalled_iff u ys hg age).1 hv
  rw [arrivals_append, arrivals_append, List.append_eq_nil_iff, List.append_eq_nil_iff] at hn
  rw [hn.1.1] at hm
  cases hm

/-- A graph whose latest frame is too old has stalled when the watchdog looks at it. -/
lemma exists_stalled_of_late (u : Setup) (xs : List Stimulus) {m : Nat}
    (hg : (u.begin.run xs).liveGeneration = some g)
    (hd : (u.begin.run xs).watchdog.deadline = some d) (hn : d ≤ (u.begin.run xs).now)
    (hm : (u.begin.arrivals g xs).getLast? = some m)
    (hlt : m + u.settings.stallThreshold < (u.begin.run xs).now) :
    ∃ age, (u.begin.run xs).now - m ≤ age ∧ (u.begin.run xs).verdict = some (.stalled age) := by
  have hk : ((u.begin.run xs).probe g).kept m ≤ m :=
    FrameProbe.kept_le ((run_marked u xs g).epoch_le (List.mem_of_getLast? hm))
  refine ⟨_, Nat.sub_le_sub_left hk _, (stalled_iff u xs hg _).2 ⟨?_, m, hm, rfl, by omega⟩⟩
  rw [Watchdog.isDue, hd]
  exact decide_eq_true hn

/-- **Stalls are never missed, and never found twice.**  In every run that has met no limit of the
machine:

* A wake-up that comes when it is time to look, when the latest frame of the graph that is
  alive came too long ago, raises the alarm for this graph, and ends with a restart.
* When a graph begins to play, the first look at it is due a full interval later, and the
  watchdog does not look at it before.

The alarm is told in any case; but where the settle delay, or the interval, ends beyond the end of
the clock, the loop breaks down there.  And in every run:

* As long as no frame has passed the probe of a graph, whatever passed the probes of
  others, no alarm is raised for it.
* For each graph, there is no alarm, or one: it is told that the graph has stalled and that
  it is restarted.  It is told so while that graph plays and the stream runs. -/
theorem vigil_of_run (u : Setup) (xs : List Stimulus) :
    let s := u.begin.run xs
    (∀ g d m, s.excess? = none → s.liveGeneration = some g → s.watchdog.deadline = some d →
        d ≤ s.now → (u.begin.arrivals g xs).getLast? = some m →
        m + u.settings.stallThreshold < s.now →
          let t := s.react .wake
          (∃ age, s.now - m ≤ age ∧ (s.tells .wake).filter Event.isAlarm =
            [.stalled g age, .restarting .watchdog g]) ∧
          (t.onHost Host.cut).events = s.events ++ s.tells .wake ∧
          if s.now + u.settings.settleDelay < u.horizon then
            t.excess? = none ∧ t.phase = .restarting ∧ t.restartPending = some .watchdog
          else t.excess? = some .instant) ∧
      (∀ g, u.begin.arrivals g xs = [] → ∀ e ∈ s.events, e.isAlarmOf g = false) ∧
      (∀ g, s.events.filter (Event.isAlarmOf g) = [] ∨
        ∃ age, s.events.filter (Event.isAlarmOf g) =
          [.stalled g age, .restarting .watchdog g]) ∧
      (∀ pre e post, s.events = pre ++ e :: post → e.kind = .watchdogTimeout →
        ∃ g age, e = .stalled g age ∧ (replay pre).phase = .running ∧
          (replay pre).generation = some g) ∧
      ∀ x g, s.excess? = none → s.liveGeneration ≠ some g → (s.react x).liveGeneration = some g →
        let t := s.react x
        let d := t.now + u.settings.watchdogInterval
        if d < u.horizon then
          t.excess? = none ∧ t.phase = .running ∧ t.watchdog.deadline = some d ∧
            ∀ ys, (t.run ys).liveGeneration = some g → (t.run ys).now < d →
              (t.run ys).watchdog.deadline = some d ∧ (t.run ys).verdict = none
        else t.excess? = some .instant := by
  intro s
  have hs : Settled s := run_settled u xs
  have hn : Numbered s := run_numbered u xs
  have hu : Configured u s := run_configured u xs
  have hh : s.horizon = u.horizon := horizon_run u.begin xs
  refine ⟨fun g d m hx hg hd hle hm hlt => ?_, fun g => isAlarmOf_of_arrivals_eq_nil u xs,
    fun g => (run_alarmed u xs g).imp_right And.right, fun pre e post => alarm_split u xs,
    fun x g hx hl hg => ?_⟩
  · obtain ⟨age, hage, hv⟩ := exists_stalled_of_late u xs hg hd hle hm hlt
    obtain ⟨hc, he⟩ := excess_of_stalled hs hx hv
    obtain ⟨_, _, -, -, ⟨files, outs, ht, -⟩, -⟩ := wake_of_stalled hs hv
    refine ⟨⟨age, hage, ?_⟩, hc.trans (events_react hs .wake), ?_⟩
    · rw [alarms_tells hs hn, State.alarms, hv, generation_of_live hg]
    rw [hu.settleDelay, hh] at he
    split
    · rename_i hlt
      exact ⟨he.trans (if_pos hlt), by rw [ht]; rfl, by rw [ht]; rfl⟩
    · rename_i hnl
      exact he.trans (if_neg hnl)
  · have hs' : Settled (s.react x) := settled_react hs x
    have hd := deadline_of_launch hs hl hg
    have he := excess_of_launch hs hn hx hl hg
    rw [hu.interval] at hd he
    rw [hh] at he
    intro t d
    split
    · rename_i hlt
      refine ⟨he.trans (if_pos hlt), hs'.running_of_live hg, hd, fun ys hg' hn => ?_⟩
      have ha : Awaits g ((s.react x).now + u.settings.watchdogInterval) (s.react x) :=
        ⟨(generation_of_live hg).ge, fun _ _ => hd⟩
      have hd' := (ha.run hs' ys).deadline hg' hn
      refine ⟨hd', ?_⟩
      rw [verdict_eq, Watchdog.isDue, hd']
      exact if_neg fun h => Nat.not_le.2 hn (of_decide_eq_true h)
    · rename_i hnl
      exact he.trans (if_neg hnl)

end Supervisor

end StreamWarden
