import StreamWarden.Proofs.Bonds
import StreamWarden.Proofs.Plain

/-!
# Limits are met by delays alone

Nothing that a supervisor does takes time, or changes how long its delays are; and whatever
limit of the machine it meets, it meets because one of the delays that begin at the present
instant goes beyond it.  So a supervisor whose delays end before the clock does, and whose
waits are spans, meets no limit.

* `Within`: the pace stays, and each limit that was met is one that a delay meets.
* `within_onRequest`, `within_react`: so it is with every answer.
* `excess_restart`, `excess_enterPlaying`: which limit is met by a restart, and when a graph begins
  to play.
* `Settings.not_exceeds_default`, `Settings.exceeds_longest`: the default settings keep far from
  all limits, and the longest span of time keeps within none.
-/

namespace StreamWarden

/-- Twins have met the same limits. -/
lemma Studio.mem_journal_of_plain {a b : Studio} (h : a.plain = b.plain) {e : Excess}
    (he : .excess e ∈ a.journal) : .excess e ∈ b.journal := by
  have hj : a.journal.filter Output.isLifecycle = b.journal.filter Output.isLifecycle :=
    congrArg (fun c : Studio => c.journal) h
  have hm : .excess e ∈ a.journal.filter Output.isLifecycle := List.mem_filter.2 ⟨he, rfl⟩
  rw [hj] at hm
  exact List.mem_of_mem_filter hm

namespace Supervisor

open State

variable {s t : State}

/-- The pace is the same, and if a limit was met on the way, it is one that a delay meets. -/
def Within (s t : State) : Prop :=
  t.pace = s.pace ∧ ∀ e, .excess e ∈ t.journal → .excess e ∈ s.journal ∨ s.pace.Exceeds e

/-- What the recorder does is within the limits, but for a drain. -/
lemma within_of_plain {a : Studio} (h : a.plain = s.toStudio.plain) :
    Within s (s.onStudio fun _ => a) := by
  have hp := congrArg (fun b : Studio => ({ s with toStudio := b } : State).pace) h
  exact ⟨hp, fun e he => .inl (Studio.mem_journal_of_plain h he)⟩

/-- All that a supervisor does is within the limits of its delays. -/
instance bond_within : Bond Within where
  refl _ := ⟨rfl, fun _ => .inl⟩
  trans h h' := by
    refine ⟨h'.1.trans h.1, fun e he => ?_⟩
    rcases h'.2 e he with he | he
    · exact h.2 e he
    · exact .inr (h.1 ▸ he)
  put _ o _ hx := by
    refine ⟨rfl, fun e he => .inl ((List.mem_cons.1 he).resolve_left ?_)⟩
    rintro rfl
    cases hx
  exceed _ e he := by
    refine ⟨rfl, fun e' he' => ?_⟩
    rcases List.mem_cons.1 he' with h | h
    · cases h
      exact .inr he
    · exact .inl h
  stream _ _ hs _ hp := ⟨hp, fun e he => .inl (by rwa [hs] at he)⟩
  armed _ _ := ⟨rfl, fun _ => .inl⟩
  engine _ _ _ := ⟨rfl, fun _ => .inl⟩
  detach s graph reason := within_of_plain (s.toStudio.plain_detach graph reason)

/-- A drain that begins is one of the delays. -/
lemma within_drain (s : State) (session : Session) :
    Within s (s.onStudio fun a => a.drain session) := by
  rcases s.toStudio.drain_quiet_or_breaks session with h | h
  · exact within_of_plain h.1
  · have hh : (s.drain session).horizon = s.horizon := by
      have hh : (s.drain session).plain.horizon = _ := congrArg (fun b : Studio => b.horizon) h.2
      exact hh
    have hd : decide ((s.drain session).horizon ≤ s.now + s.drainGrace) = true := h.1
    rw [hh, decide_eq_true_eq] at hd
    have hp := congrArg (fun b : Studio => ({ s with toStudio := b } : State).pace) h.2
    refine ⟨hp, fun e he => ?_⟩
    have hm : .excess e ∈ (s.plain.onHost (Host.put · (.excess .instant))).journal := by
      have hj : .excess e ∈ (s.drain session).plain.journal :=
        List.mem_filter.2 ⟨he, rfl⟩
      rwa [h.2] at hj
    rcases List.mem_cons.1 hm with hm | hm
    · cases hm
      exact .inr (.instant .drain hd)
    · exact .inl (List.mem_of_mem_filter hm)

/-- Of all that the recorder does at a toggle, a drain alone can meet a limit. -/
lemma within_toggle (s : State) (on : Bool) :
    Within s (s.onStudio fun a => (a.toggle on s.graph).1) := by
  cases on with
  | true => exact within_of_plain (s.toStudio.quiet_start s.graph).1
  | false =>
      have hs : s.toStudio.toggle false s.graph = s.toStudio.stop s.graph := rfl
      rw [onStudio, hs, Studio.stop]
      split
      · exact Bond.refl s
      · rename_i session _
        split
        · split
          · exact within_drain s session
          · exact within_of_plain (s.toStudio.plain_detach none _)
        · exact Bond.refl s

/-- **Every answer to a request is within the limits of the delays.** -/
theorem within_onRequest (s : State) (r : Request) : Within s (s.onRequest r) := by
  have h : Within s (s.emit (.asked r.label)) := by
    refine ⟨rfl, fun e he => .inl ((List.mem_cons.1 he).resolve_left nofun)⟩
  refine Bond.trans h (Bond.onRequest s r (fun _ _ => ⟨rfl, fun _ => .inl⟩) fun _ => ?_)
  exact Bond.trans (within_toggle _ _) (Bond.log _ _ _ _)

/-- **So is every iteration.** -/
theorem within_react (s : State) {x : Stimulus} (hx : x.isIteration = true) :
    Within s (s.react x) := by
  rw [react]
  split
  · exact Bond.refl s
  · cases x with
    | request r => exact within_onRequest s r
    | abandoned => exact Bond.trans (Bond.log s _ _ _) (within_onRequest _ .stop)
    | status m => exact Bond.onStatus s m
    | wake => exact Bond.onWake s
    | pass | frame | files | script => cases hx

/-- A limit that is met on the way is one that a delay meets. -/
lemma Within.exceeds (h : Within s t) (hs : s.excess? = none) {e : Excess}
    (he : t.excess? = some e) : s.pace.Exceeds e := by
  obtain ⟨o, ho, hoe⟩ := List.exists_of_findSome?_eq_some he
  have hm : o = .excess e := by
    cases o with
    | excess e' => exact congrArg Output.excess (Option.some.inj hoe)
    | event | record | level => cases hoe
  rw [hm] at ho
  refine (h.2 e (List.mem_reverse.1 ho)).resolve_left fun hn => ?_
  have hx := List.findSome?_eq_none_iff.1 hs _ (List.mem_reverse.2 hn)
  cases hx

/-- Nothing that a supervisor meets moves the end of the clock. -/
lemma horizon_react (s : State) (x : Stimulus) : (s.react x).horizon = s.horizon := by
  cases hx : x.isIteration with
  | true => exact congrArg Pace.horizon (within_react s hx).1
  | false =>
      rw [react_of_not_isIteration s hx]
      cases x with
      | pass | frame | files | script => rfl
      | request | abandoned | status | wake => cases hx

lemma horizon_run (s : State) (xs : List Stimulus) : (s.run xs).horizon = s.horizon :=
  run_invariant (P := fun t => t.horizon = s.horizon)
    (fun t x h => (horizon_react t x).trans h) rfl xs

/-! ### Which limit is met -/

/-- What is no limit meets none. -/
lemma excess_put (s : State) {o : Output} (ho : o.excess? = none) :
    (s.onHost (Host.put · o)).excess? = s.excess? := by
  have h : (s.onHost (Host.put · o)).excess? = s.excess?.or o.excess? := s.toHost.excess_put o
  rw [h, ho, Option.or_none]

lemma excess_transition (s : State) (input : Phase.Input) :
    (s.transition input).excess? = s.excess? := by
  rw [transition]
  split
  · exact excess_put s rfl
  · rename_i target _
    exact excess_put { s with phase := target } rfl

/-- To tell of a status message meets no limit. -/
lemma excess_tell (s : State) (f : Monitor.Finding) : (s.tell f).excess? = s.excess? := by
  obtain ⟨reaction, event?, record?⟩ := f
  cases event? with
  | none =>
      cases record? with
      | none => rfl
      | some r => exact excess_put s rfl
  | some e =>
      cases record? with
      | none => exact excess_put s rfl
      | some r => exact (excess_put (s.emit e) rfl).trans (excess_put s rfl)

/-- No limit is met when a session ends. -/
lemma excess_detach (s : State) (graph : Option Graph) (reason : String) :
    (s.onStudio fun a => a.detach graph reason).excess? = s.excess? := by
  have hp : (s.toStudio.detach graph reason).toHost.plain = s.toHost.plain :=
    congrArg (fun a : Studio => a.toHost) (s.toStudio.plain_detach graph reason)
  have h := (s.toStudio.detach graph reason).toHost.excess_plain
  rw [hp, Host.excess_plain] at h
  exact h.symm

/-- Nor when a graph is torn down. -/
lemma excess_teardown (s : State) : s.teardown.excess? = s.excess? := by
  have h := excess_detach { s with watchdog := s.watchdog.disarm } s.graph "forced"
  cases hg : s.graph with
  | none =>
      rw [hg] at h
      simp only [State.teardown, onStudio, hg]
      exact h
  | some graph =>
      rw [hg] at h
      simp only [State.teardown, onStudio, hg]
      exact (excess_put _ rfl).trans h

/-- The limit that a deadline meets. -/
lemma excess_schedule (s : State) (d : Nat) : (s.schedule (some d)).excess? =
    s.excess?.or (if d < s.horizon then none else some .instant) :=
  s.toHost.excess_schedule d

/-- Where no limit was met, all comes out. -/
lemma events_cut_of_none (hx : s.excess? = none) : (s.onHost Host.cut).events = s.events :=
  congrArg Host.events (Host.cut_of_none hx)

/-- What comes out before a deadline is set: everything, whether that lies beyond the end of the
clock or not. -/
lemma events_cut_schedule (hx : s.excess? = none) (deadline : Option Nat) :
    ((s.schedule deadline).onHost Host.cut).events = (s.schedule deadline).events := by
  have hc : (s.toHost.schedule deadline).cut = s.toHost := Host.cut_schedule hx deadline
  exact (congrArg Host.events hc).trans (s.toHost.events_schedule deadline).symm

/-- The settle delay is the last thing of which a restart takes care. -/
lemma restart_eq (hp : s.phase = .running) (cause : RestartCause) : ∃ t : State,
    s.restart cause = t.schedule (some (s.now + s.settleDelay)) ∧
      t.excess? = s.excess? ∧ t.horizon = s.horizon := by
  obtain ⟨q, hq⟩ : ∃ q : State, q = { s.emit (.restarting cause s.generation) with
    restartPending := some cause } := ⟨_, rfl⟩
  obtain ⟨t, ht⟩ : ∃ t : State, t = (q.transition (.restart cause)).teardown := ⟨_, rfl⟩
  have hw : Within s t := by
    rw [ht, hq]
    have h₁ : Within s _ := Bond.trans (Bond.emit s (.restarting cause s.generation) rfl)
      (Bond.stream _ (fun t => { t with restartPending := some cause }) rfl rfl rfl)
    exact Bond.trans (Bond.trans h₁ (Bond.transition _ _)) (Bond.teardown _)
  have hx : t.excess? = s.excess? := by
    rw [ht, excess_teardown, excess_transition, hq]
    exact excess_put s rfl
  have hn : t.now + t.settleDelay = s.now + s.settleDelay :=
    congrArg (fun p : Pace => p.now + p.settleDelay) hw.1
  refine ⟨{ t with wakeAt := some (t.now + t.settleDelay) }, ?_, hx, congrArg Pace.horizon hw.1⟩
  rw [State.restart, if_pos hp, ← hn, ht, hq]
  rfl

/-- A restart meets a limit if the settle delay ends beyond the end of the clock. -/
lemma excess_restart (hp : s.phase = .running) (cause : RestartCause) :
    (s.restart cause).excess? =
      s.excess?.or (if s.now + s.settleDelay < s.horizon then none else some .instant) := by
  obtain ⟨t, ht, hx, hh⟩ := restart_eq hp cause
  rw [ht, excess_schedule, hx, hh]

/-- All that a restart tells comes out. -/
lemma events_cut_restart (hx : s.excess? = none) (hp : s.phase = .running)
    (cause : RestartCause) :
    ((s.restart cause).onHost Host.cut).events = (s.restart cause).events := by
  obtain ⟨t, ht, htx, -⟩ := restart_eq hp cause
  rw [ht]
  exact events_cut_schedule (htx.trans hx) _

/-- A graph that begins to play meets a limit if the first look at it would come beyond the end of
the clock. -/
lemma excess_enterPlaying (s : State) (graph : Graph) : (s.enterPlaying graph).excess? =
    s.excess?.or (if s.now + s.watchdog.interval < s.horizon then none else some .instant) := by
  obtain ⟨t, ht⟩ : ∃ t : State, t = (State.emit { s with
    graph := some graph
    watched := s.generation
    buildFailures := 0
    restartPending := none } (.playing s.generation)).transition .buildOk := ⟨_, rfl⟩
  have hp : t.pace = s.pace := by
    rw [ht, pace_transition]
    rfl
  have hx : t.excess? = s.excess? := by
    rw [ht, excess_transition]
    exact excess_put { s with
      graph := some graph
      watched := s.generation
      buildFailures := 0
      restartPending := none } rfl
  have he : (s.enterPlaying graph).excess? =
      (({ t with watchdog := t.watchdog.arm t.now } : State).schedule
        (some (t.now + t.watchdog.interval))).excess? := by
    rw [ht]
    rfl
  have hn : t.now + t.watchdog.interval = s.now + s.watchdog.interval :=
    congrArg (fun p : Pace => p.now + p.interval) hp
  have hh : t.horizon = s.horizon := congrArg Pace.horizon hp
  rw [he, excess_schedule, hn]
  exact congrArg₂ (fun (e : Option Excess) (h : Nat) =>
    e.or (if s.now + s.watchdog.interval < h then none else some .instant)) hx hh

end Supervisor

/-! ### The default settings -/

section Default

open Numeric (Binary64)

/-- One, however often it is multiplied by itself, is one. -/
lemma Numeric.Binary64.powLoop_one (fuel n : Nat) :
    Binary64.powLoop fuel Binary64.one Binary64.one n = Binary64.one := by
  have h : Binary64.one.mul Binary64.one = Binary64.one := by decide +kernel
  induction fuel generalizing n with
  | zero => rfl
  | succ fuel ih => simp only [Binary64.powLoop, h, ite_self, ih]

/-- The default schedule waits five seconds every time. -/
lemma Backoff.next?_default (failures draw : Nat) :
    Backoff.default.next? failures draw = some (Time.seconds 5) := by
  have hg : Backoff.default.grown failures =
      (Backoff.inSeconds (Time.seconds 5)).mul Binary64.one :=
    congrArg _ (Binary64.powLoop_one _ _)
  have hb : Backoff.default.base? failures = some (Time.seconds 5) := by
    rw [Backoff.base?, hg]
    decide +kernel
  rw [Backoff.next?, hb]
  exact congrArg some (Jitter.apply_none (by decide) draw)

/-- With the default settings, no delay is longer than five seconds. -/
lemma Settings.le_of_ends_default {horizon now t : Nat}
    (h : (Settings.pace {} horizon now).Ends t) :
    t ≤ now + Time.seconds 5 := by
  cases h with
  | settle => exact Nat.add_le_add_left (by decide : Time.millis 250 ≤ _) now
  | drain => exact Nat.add_le_add_left (by decide : Time.millis 50 ≤ _) now
  | look => exact Nat.add_le_add_left (by decide : Time.seconds 1 ≤ _) now
  | retry failures draw =>
      have hn : Backoff.default.next failures draw = Time.seconds 5 := by
        rw [Backoff.next, Backoff.next?_default, Option.getD_some]
      exact Nat.add_le_add_left hn.le now

/-- **With the default settings no limit is met**, until five seconds before the end of the
clock. -/
theorem Settings.not_exceeds_default {horizon now : Nat} (h : now + Time.seconds 5 < horizon)
    (e : Excess) : ¬(Settings.pace {} horizon now).Exceeds e := by
  intro he
  cases he with
  | instant h' ht => exact Nat.not_le.2 h (ht.trans (Settings.le_of_ends_default h'))
  | wait h' =>
      have hn : (Settings.pace {} horizon now).retry = Backoff.default := rfl
      rw [hn, Backoff.next?_default] at h'
      cases h'

end Default

/-- **On every machine a limit is met** by the longest span of time: no clock counts so far. -/
theorem Settings.exceeds_longest {s : Settings} {horizon now : Nat} (hh : horizon ≤ Time.clockRange)
    (hs : s.settleDelay = Time.longest ∨ s.drainGrace = Time.longest ∨
      s.watchdogInterval = Time.longest) : (s.pace horizon now).Exceeds .instant := by
  have hle : horizon ≤ now + Time.longest :=
    (hh.trans Time.clockRange_le_longest).trans (Nat.le_add_left _ _)
  rcases hs with hs | hs | hs <;> rw [← hs] at hle
  · exact .instant .settle hle
  · exact .instant .drain hle
  · exact .instant .look hle

end StreamWarden
