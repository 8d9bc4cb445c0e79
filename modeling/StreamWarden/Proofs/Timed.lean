import StreamWarden.Proofs.Boundary
import StreamWarden.Proofs.Twins

/-!
# Supervisors in time

A supervisor that nobody disturbs wakes up exactly when its earliest deadline comes.  A
course is a supervisor together with all that it will still meet, each thing at its
instant: it goes on by one iteration at a time, with the wake-ups in between, and ends
where a limit of the machine is met.

* `Cue`, `Schedule`: what a supervisor meets, and when.
* `Course.step`, `Course.after`: a course goes on.
* `Course.history`: what is to be seen of a course: the values through which the pieces of
  the stream have gone, and the events that tell of it.
* `Punctual`: no deadline lies in the past, as long as nobody waits past the next one
  (`Punctual.waitTill`, `Punctual.react`).
* `onWake_of_early`: a wake-up that comes before the deadlines of the stream is not to be
  seen.
-/

namespace StreamWarden.Supervisor

open State

/-! ### What is met, and when -/

/-- A stimulus at an instant, before or after the wake-ups of that instant. -/
structure Cue where
  instant : Nat
  late : Bool := false
  stimulus : Stimulus

namespace Cue

/-- The wake-ups before this instant come before the cue. -/
def limit (x : Cue) : Nat := if x.late then x.instant + 1 else x.instant

/-- The one comes before the other. -/
def Before (x y : Cue) : Prop := x.instant ≤ y.instant ∧ x.limit ≤ y.limit

/-- The part of a cue that concerns the stream. -/
def lifecycle? (x : Cue) : Option Cue :=
  x.stimulus.lifecycle?.map fun stimulus => { x with stimulus }

lemma instant_le_limit (x : Cue) : x.instant ≤ x.limit := by
  rw [limit]
  split <;> omega

/-- Whatever comes before the limit comes at the instant at the latest. -/
lemma le_instant {x : Cue} {t : Nat} (h : t < x.limit) : t ≤ x.instant := by
  rw [limit] at h
  split at h <;> omega

end Cue

/-- The cues of a run in their order; that time passes is not a cue. -/
structure Schedule where
  cues : List Cue
  sorted : cues.Pairwise Cue.Before
  still : ∀ x ∈ cues, x.stimulus.isTime = false

/-- The part of a schedule that concerns the stream. -/
def Schedule.lifecycle (y : Schedule) : Schedule where
  cues := y.cues.filterMap Cue.lifecycle?
  sorted := by
    refine List.Pairwise.filterMap _ ?_ y.sorted
    rintro a a' h b hb b' hb'
    obtain ⟨-, -, rfl⟩ := Option.map_eq_some_iff.1 hb
    obtain ⟨-, -, rfl⟩ := Option.map_eq_some_iff.1 hb'
    exact h
  still := by
    intro x hx
    obtain ⟨a, ha, hx⟩ := List.mem_filterMap.1 hx
    obtain ⟨stimulus, hs, rfl⟩ := Option.map_eq_some_iff.1 hx
    exact (Stimulus.isTime_of_lifecycle? hs).trans (y.still a ha)

/-- The part of a setup that concerns the stream. -/
def Setup.lifecycle (u : Setup) : Setup :=
  { now := u.now
    horizon := u.horizon
    script := { builds := u.script.builds, plays := u.script.plays }
    settings := u.settings
    profile := u.profile
    draws := u.draws }

/-! ### A supervisor goes on -/

/-- Lets time pass until an instant, unless that is over. -/
def State.waitTill (s : State) (t : Nat) : State := s.pass (t - s.now)

/-- A supervisor with all that it will still meet. -/
structure Course where
  state : State
  cues : List Cue

/-- A run in time begins. -/
def Setup.course (u : Setup) (y : Schedule) : Course := ⟨u.begin, y.cues⟩

namespace Course

/-- The next wake-up, if it comes before the next cue. -/
def due? (c : Course) : Option Nat :=
  if c.state.exited then none
  else c.state.nextWake.filter fun t => c.cues.head?.all fun x => t < x.limit

/-- A limit of the machine was met, which is the end of a course. -/
def isBroken (c : Course) : Bool := c.state.excess?.isSome

/-- The next iteration, or the next thing that the surroundings do. -/
def step (c : Course) : Course :=
  if c.isBroken then c
  else
    match c.due?, c.cues with
    | some t, cues => ⟨(c.state.waitTill t).react .wake, cues⟩
    | none, x :: cues => ⟨(c.state.waitTill x.instant).react x.stimulus, cues⟩
    | none, [] => c

/-- The course after some steps. -/
def after (c : Course) : Nat → Course
  | 0 => c
  | n + 1 => (c.after n).step

variable {c : Course}

lemma due?_eq_some_iff {t : Nat} : c.due? = some t ↔ c.state.exited = false ∧
    c.state.nextWake = some t ∧ ∀ x ∈ c.cues.head?, t < x.limit := by
  rw [due?]
  cases hx : c.state.exited with
  | true => simp
  | false => cases hc : c.cues.head? <;> simp [Option.filter_eq_some_iff]

lemma step_of_broken (hb : c.isBroken = true) : c.step = c := by rw [step, if_pos hb]

lemma step_of_due (hb : c.isBroken = false) {t : Nat} (ht : c.due? = some t) :
    c.step = ⟨(c.state.waitTill t).react .wake, c.cues⟩ := by
  rw [step, hb, ht]
  rfl

lemma step_of_cons (hb : c.isBroken = false) (ht : c.due? = none) {x : Cue} {xs : List Cue}
    (hc : c.cues = x :: xs) : c.step = ⟨(c.state.waitTill x.instant).react x.stimulus, xs⟩ := by
  rw [step, hb, ht, hc]
  rfl

lemma step_of_nil (hb : c.isBroken = false) (ht : c.due? = none) (hc : c.cues = []) :
    c.step = c := by
  rw [step, hb, ht, hc]
  rfl

end Course

/-! ### Waiting -/

section Waiting

variable (s : State)

lemma now_waitTill (t : Nat) : (s.waitTill t).now = max s.now t := by
  have h : (s.waitTill t).now = s.now + (t - s.now) := rfl
  omega

lemma waitTill_congr {t u : Nat} (h : max s.now t = max s.now u) :
    s.waitTill t = s.waitTill u := by
  have hs : t - s.now = u - s.now := by omega
  rw [waitTill, waitTill, hs]

lemma waitTill_waitTill (t u : Nat) : (s.waitTill t).waitTill u = s.waitTill (max t u) := by
  have h : s.now + (t - s.now) + (u - (s.now + (t - s.now))) = s.now + (max t u - s.now) := by
    omega
  exact congrArg (fun n => s.onHost fun h => { h with now := n }) h

lemma waitTill_of_le {t : Nat} (h : t ≤ s.now) : s.waitTill t = s := by
  rw [waitTill, Nat.sub_eq_zero_of_le h]
  rfl

end Waiting

/-! ### What is to be seen -/

/-- The pieces of a state that concern the stream. -/
structure Lifecycle where
  phase : Phase
  generation : Nat
  wakeAt : Option Nat
  watchdogDeadline : Option Nat
  buildFailures : Nat
  restartPending : Option RestartCause
  deriving DecidableEq

/-- The pieces of the present state. -/
def State.lifecycle (s : State) : Lifecycle :=
  { phase := s.phase
    generation := s.generation
    wakeAt := s.wakeAt
    watchdogDeadline := s.watchdog.deadline
    buildFailures := s.buildFailures
    restartPending := s.restartPending }

/-- The events so far that tell of the stream. -/
def State.tale (s : State) : List Event := s.events.filter Event.isLifecycle

namespace Course

/-- The values through which the pieces of the stream have gone in some steps. -/
def lives (c : Course) : Nat → List Lifecycle
  | 0 => [c.state.lifecycle]
  | n + 1 =>
    if (c.after (n + 1)).state.lifecycle = (c.after n).state.lifecycle then c.lives n
    else c.lives n ++ [(c.after (n + 1)).state.lifecycle]

/-- What is to be seen of some steps. -/
def history (c : Course) (n : Nat) : List Lifecycle × List Event :=
  (c.lives n, (c.after n).state.tale)

end Course

/-! ### What twins show -/

lemma tale_plain (s : State) : s.plain.tale = s.tale := by
  have h : ∀ l : List Output,
      ((l.filter Output.isLifecycle).filterMap Output.event?).filter Event.isLifecycle
        = (l.filterMap Output.event?).filter Event.isLifecycle := by
    intro l
    rw [List.filterMap_filter, List.filter_filterMap, List.filter_filterMap]
    refine List.filterMap_congr fun o _ => ?_
    cases o with
    | event e =>
        cases he : e.isLifecycle <;>
          simp [Output.isLifecycle, Output.event?, Option.filter, he]
    | record | level | excess => rfl
  rw [tale, tale, Host.events, Host.events, List.filter_reverse, List.filter_reverse]
  exact congrArg List.reverse (h s.journal)

namespace Twin

variable {p s : State}

lemma lifecycle (h : Twin p s) : p.lifecycle = s.lifecycle := h.agree State.lifecycle fun _ => rfl

lemma tale (h : Twin p s) : p.tale = s.tale := h.agree State.tale tale_plain

lemma excess (h : Twin p s) : p.excess? = s.excess? :=
  h.agree (fun t => t.excess?) fun t => t.toHost.excess_plain

lemma waitTill (h : Twin p s) (t : Nat) : Twin (p.waitTill t) (s.waitTill t) :=
  h.map (State.waitTill · t) fun _ => rfl

end Twin

/-! ### Deadlines are kept -/

/-- No deadline lies in the past. -/
structure Punctual (s : State) : Prop where
  wakeAt : ∀ t ∈ s.wakeAt, s.now ≤ t
  watchdog : ∀ t ∈ s.watchdog.deadline, s.now ≤ t
  drain : ∀ t ∈ s.drainDeadline, s.now ≤ t

/-- The earlier of two deadlines comes before whatever comes before both. -/
lemma forall_mem_earlier {a b : Option Nat} {n : Nat} :
    (∀ t ∈ earlier a b, n ≤ t) ↔ (∀ t ∈ a, n ≤ t) ∧ ∀ t ∈ b, n ≤ t := by
  cases a <;> cases b <;> simp [earlier]

/-- The next deadline comes before all others. -/
lemma nextWake_le {s : State} {w : Nat} (h : s.nextWake = some w) : (∀ t ∈ s.wakeAt, w ≤ t) ∧
    (∀ t ∈ s.watchdog.deadline, w ≤ t) ∧ ∀ t ∈ s.drainDeadline, w ≤ t := by
  have hw : ∀ t ∈ s.nextWake, w ≤ t := by
    rw [h]
    rintro _ ⟨⟩
    exact le_rfl
  rwa [nextWake, forall_mem_earlier, forall_mem_earlier] at hw

/-- The next deadline is one of the three. -/
lemma nextWake_cases {s : State} {w : Nat} (h : s.nextWake = some w) :
    s.wakeAt = some w ∨ s.watchdog.deadline = some w ∨ s.drainDeadline = some w := by
  have he : ∀ {a b : Option Nat}, earlier a b = some w → a = some w ∨ b = some w := by
    rintro (_ | m) (_ | n) he
    · cases he
    · exact .inr he
    · exact .inl he
    · rcases le_total m n with hmn | hmn
      · exact .inl (by rwa [earlier, min_eq_left hmn] at he)
      · exact .inr (by rwa [earlier, min_eq_right hmn] at he)
  rcases he h with h | h
  · exact .inl h
  · exact .inr (he h)

/-- A deadline of the stream keeps the loop from sleeping past it. -/
lemma exists_nextWake_le {s : State} {t : Nat}
    (h : s.wakeAt = some t ∨ s.watchdog.deadline = some t) : ∃ w ≤ t, s.nextWake = some w := by
  have hs : s.nextWake.isSome = true := by
    rw [nextWake, isSome_earlier, isSome_earlier]
    rcases h with h | h
    · exact .inl (by rw [h]; rfl)
    · exact .inr (.inl (by rw [h]; rfl))
  obtain ⟨w, hw⟩ := Option.isSome_iff_exists.1 hs
  obtain ⟨h₁, h₂, -⟩ := nextWake_le hw
  rcases h with h | h
  · exact ⟨w, h₁ t h, hw⟩
  · exact ⟨w, h₂ t h, hw⟩

/-- A supervisor is punctual when its next deadline does not lie in the past. -/
lemma punctual_iff {s : State} : Punctual s ↔ ∀ t ∈ s.nextWake, s.now ≤ t := by
  rw [nextWake, forall_mem_earlier, forall_mem_earlier]
  exact ⟨fun h => ⟨h.wakeAt, h.watchdog, h.drain⟩, fun h => ⟨h.1, h.2.1, h.2.2⟩⟩

namespace Punctual

variable {s t : State} {es : List Event}

lemma told (h : Told s es t) (hs : Punctual s) : Punctual t := by
  obtain ⟨files, outs, rfl, -⟩ := h
  exact ⟨hs.wakeAt, hs.watchdog, hs.drain⟩

lemma act (hs : Punctual s) {a : Studio} (h : Studio.Act s.graph s.now s.toStudio es a) :
    Punctual (s.onStudio fun _ => a) := by
  cases h with
  | remark _ h | refuse _ _ _ _ h | giveBack _ _ _ _ _ h =>
      obtain ⟨files, outs, rfl, -⟩ := h
      exact ⟨hs.wakeAt, hs.watchdog, hs.drain⟩
  | begin _ _ _ _ _ hn h =>
      obtain ⟨files, outs, rfl, -⟩ := h
      subst hn
      refine ⟨hs.wakeAt, hs.watchdog, ?_⟩
      rintro _ ⟨⟩
  | drain _ _ _ h =>
      obtain ⟨files, outs, rfl, -⟩ := h
      refine ⟨hs.wakeAt, hs.watchdog, ?_⟩
      rintro _ ⟨⟩
      exact Nat.le_add_right _ _
  | fail _ h | finish _ _ h =>
      obtain ⟨files, outs, rfl, -⟩ := h
      refine ⟨hs.wakeAt, hs.watchdog, ?_⟩
      rintro _ ⟨⟩

/-- A move sets no deadline in the past. -/
lemma move (hs : Punctual s) (h : Move s es t) : Punctual t := by
  cases h with
  | remark _ h | leave _ h => exact told h ⟨hs.wakeAt, hs.watchdog, hs.drain⟩
  | record h => exact hs.act h
  | look _ h =>
      refine told h ⟨hs.wakeAt, ?_, hs.drain⟩
      rintro _ ⟨⟩
      exact Nat.le_add_right _ _
  | launch _ _ _ h =>
      refine told h ⟨?_, ?_, hs.drain⟩
      · rintro _ ⟨⟩
      · rintro _ ⟨⟩
        exact Nat.le_add_right _ _
  | miss _ _ _ h =>
      refine told h ⟨?_, hs.watchdog, hs.drain⟩
      rintro _ ⟨⟩
      exact Nat.le_add_right _ _
  | restart _ h =>
      refine told h ⟨?_, ?_, ?_⟩
      · rintro _ ⟨⟩
        exact Nat.le_add_right _ _
      · rintro _ ⟨⟩
      · rintro _ ⟨⟩
  | stop _ h => exact told h ⟨by rintro _ ⟨⟩, by rintro _ ⟨⟩, by rintro _ ⟨⟩⟩
  | frame | script => exact ⟨hs.wakeAt, hs.watchdog, hs.drain⟩

/-- Time may pass until the next deadline. -/
lemma waitTill (hs : Punctual s) {n : Nat} (hn : ∀ t ∈ s.nextWake, n ≤ t) :
    Punctual (s.waitTill n) := by
  rw [punctual_iff] at hs ⊢
  intro t ht
  have h₁ : s.now ≤ t := hs t ht
  have h₂ : n ≤ t := hn t ht
  have h₃ : (s.waitTill n).now = s.now + (n - s.now) := rfl
  omega

/-- An answer sets no deadline in the past, unless it is that time passes. -/
lemma react (hp : Punctual s) (hs : Settled s) {x : Stimulus} (ht : x.isTime = false) :
    Punctual (s.react x) := by
  obtain ⟨es, h⟩ := moves_react hs ht
  exact h.keep (P := Punctual) (fun _ hp h => hp.move h) hs hp

end Punctual

/-! ### Wake-ups that come early -/

section Early

variable {s : State}

lemma endDelay_of_early (h : ∀ t ∈ s.wakeAt, s.now < t) : s.endDelay = s := by
  have hw : s.wakeAt.any (· ≤ s.now) = false := by
    cases hs : s.wakeAt with
    | none => rfl
    | some t => simpa using h t hs
  rw [endDelay, hw]
  rfl

lemma watch_of_early (h : ∀ t ∈ s.watchdog.deadline, s.now < t) : s.watch = s := by
  have hc : s.watchdog.check s.now (s.probe s.watched) = (s.watchdog, none) := by
    cases hd : s.watchdog.deadline with
    | none => exact Watchdog.check_of_disarmed hd _ _
    | some t => exact Watchdog.check_of_early hd (h t hd) _
  rw [watch, hc]
  rfl

/-- **A wake-up before the deadlines of the stream ends a drain** and is not to be seen. -/
theorem onWake_of_early (hw : ∀ t ∈ s.wakeAt, s.now < t)
    (hd : ∀ t ∈ s.watchdog.deadline, s.now < t) (hs : s.isDrained s.now = true) :
    Unseen s s.onWake ∧ s.onWake.drainDeadline = none := by
  have hq : s.toStudio.Quiet (s.toStudio.finishDrain s.now s.graph) := by
    rw [Studio.finishDrain, if_pos hs]
    exact s.toStudio.quiet_detach s.graph _
  have hu := Unseen.studio s hq
  have hn := hu.1.now
  have ho : s.onWake = s.onStudio fun _ => s.toStudio.finishDrain s.now s.graph := by
    have h₁ : (s.onStudio fun _ => s.toStudio.finishDrain s.now s.graph).endDelay
        = s.onStudio fun _ => s.toStudio.finishDrain s.now s.graph :=
      endDelay_of_early fun t ht => hn.trans_lt (hw t ht)
    rw [onWake]
    refine (congrArg watch h₁).trans (watch_of_early fun t ht => hn.trans_lt (hd t ht))
  rw [ho]
  refine ⟨hu, ?_⟩
  have hn : (s.toStudio.finishDrain s.now s.graph).session = none := by
    rw [Studio.finishDrain, if_pos hs, Studio.detach_session]
  exact congrArg (·.bind (·.drainDeadline)) hn

end Early

end StreamWarden.Supervisor
