import StreamWarden.Proofs.Flag
import StreamWarden.Proofs.Limits
import StreamWarden.Proofs.Mailbox

/-!
# The end of a loop

A loop comes to its end when it takes the first stop, be it one that was posted or the end of
all handles.  Wherever the supervisor is then, the step that takes the stop ends the session
at once, tears the graph down and leaves nothing to be done; and a stop that waits is taken,
as no step goes by without taking one of the requests before it.  Only a limit of the machine
can come between: at one of these the loop breaks down with the requests that still wait.
That happens over a delay alone which begins before the stop is taken, and which would end
after the clock does.

* `Sound.rest_of_stop`: the step that takes a stop.
* `Sound.isOver_steps`: how many steps it takes until a stop is taken.
* `shown_after`: the flag shows whether there is a session, whatever happens to the loop.
* `Sound.overdue_after`: what a loop breaks down over.
* **`finality_of_loop`**: the account of the requests of a loop, and its end.
-/

namespace StreamWarden.Supervisor

open State

/-! ### The stop is taken -/

namespace Sound

variable {l : Loop}

/-- **The step that takes a stop leads to rest**: the session is forced to its end, no drain
begins, and no limit of the machine is met. -/
theorem rest_of_stop (h : Sound l) (hc : l.call? = some .stop) :
    AtRest (l.happen .step).state ∧ (l.happen .step).excess = none ∧
      (l.happen .step).state.events = l.state.events ++ l.state.farewell ∧
      (l.happen .step).state.backend.stats.drains = l.state.backend.stats.drains := by
  obtain ⟨hs, -, hn⟩ := h.heard hc
  obtain ⟨hr, he, hd, hb⟩ := onRequest_stop hs
  have hv : l.happen .step =
      Loop.enter { l with requests := l.requests.tail } (l.heard.onRequest .stop) := by
    rw [Loop.happen_step_of_some (Loop.step_of_call hc)]
    rcases Loop.proceed_cases { l with requests := l.requests.tail } (l.heard.onRequest .stop)
      with ⟨-, hp⟩ | ⟨e, he, -⟩
    · exact hp
    · simp [he, hn] at hb
  have hf : l.heard.farewell = l.state.farewell ∧
      l.heard.backend.stats.drains = l.state.backend.stats.drains := by
    rw [Loop.heard]
    split <;> exact ⟨rfl, rfl⟩
  have hev : l.heard.events = l.state.events := by simpa using l.told_heard.events
  rw [hv]
  refine ⟨hr, (Loop.isOver_eq_false_iff.1 (Loop.isOver_of_call hc)).2, ?_, hd.trans hf.2⟩
  calc (l.heard.onRequest .stop).events
      = l.heard.events ++ l.heard.farewell := he
    _ = l.state.events ++ l.state.farewell := by rw [hev, hf.1]

/-- A run that is over did not break down, and has come to its rest. -/
lemma atRest (h : Sound l) (hx : l.state.exited = true) : AtRest l.state ∧ l.excess = none := by
  have hn : l.excess = none := by
    cases hb : l.excess with
    | none => rfl
    | some e => simp [h.broken (by rw [hb]; rfl)] at hx
  exact ⟨(h.settled hn).atRest hx, hn⟩

/-- **A stop that waits is taken**, or that all handles are gone: each step takes one of the
requests before it, unless the loop breaks down. -/
theorem isOver_steps (h : Sound l) (hl : .stop ∈ l.requests ∨ l.isHeld = false) :
    (Loop.steps (l.requests.length + 1) l).1.isOver = true := by
  rw [Loop.steps_eq]
  -- The induction is on the requests that wait; a loop that is over stays so.
  induction hq : l.requests generalizing l with
  | nil =>
      have hh : l.isHeld = false := by simpa [hq] using hl
      cases ho : l.isOver with
      | true => exact (Loop.still_after ho _).1.isOver
      | false =>
          have ht := congrArg Option.toList (Loop.call_of_nil ho hq hh)
          exact h.isOver_of_stop (m := .step) ht
  | cons r rest ih =>
      have stays : (l.happen .step).isOver = true →
          (l.after (List.replicate (rest.length + 1 + 1) .step)).isOver = true :=
        fun ho => (Loop.still_after ho (List.replicate (rest.length + 1) .step)).1.isOver
      cases ho : l.isOver with
      | true => exact (Loop.still_after ho _).1.isOver
      | false =>
          have hc := Loop.call_of_cons ho hq
          by_cases hr : r = .stop
          · subst hr
            have ht := congrArg Option.toList hc
            exact stays (h.isOver_of_stop (m := .step) ht)
          · have hv := Loop.happen_step_of_some (Loop.step_of_call hc)
            obtain ⟨-, -, hrest, hh⟩ := h.step_some hc (Loop.step_of_call hc)
            rw [← hv] at hrest hh
            have hw : (l.happen .step).requests = rest := by simpa [hq] using hrest
            refine ih (h.happen .step) ?_ hw
            rw [hw, hh]
            exact hl.imp (fun hm => by simpa [hq, Ne.symm hr] using hm) id

end Sound

/-! ### The flag of a loop -/

section Flag

variable {l : Loop} {r : Region}

/-- Nobody else writes the first word of the region meanwhile. -/
def Loop.Unwritten (r : Region) : Loop → List Happening → Prop
  | _, [] => True
  | l, m :: ms =>
      (∀ tree hx, m = .around (.files tree) hx → l.state.Allows r tree) ∧
        (l.happen m).Unwritten r ms

section Outward

open Studio (Outward)

variable {P : Studio → Prop} [Outward P]

/-- A loop that goes on, or breaks down, shows what its new state does. -/
lemma keeps_proceed {s : State} (h : P s.toStudio) : P (l.proceed s).state.toStudio := by
  rcases l.proceed_cases s with ⟨-, hp⟩ | ⟨e, -, hp⟩ <;> rw [hp]
  · exact h
  · exact Outward.of_eq h rfl rfl rfl rfl

/-- What a recorder shows is kept by all that happens, as long as it does not get lost when
somebody changes the files. -/
lemma keeps_happen (h : P l.state.toStudio) {m : Happening}
    (hm : ∀ tree hx, m = .around (.files tree) hx → P (l.happen m).state.toStudio) :
    P (l.happen m).state.toStudio := by
  cases m with
  | step =>
      rcases l.happen_step with ⟨-, hv⟩ | ⟨-, x, rs, ms, -, hx, hv⟩ <;> rw [hv]
      · exact h
      · refine keeps_proceed (keeps_react h fun tree ht => ?_)
        subst ht
        cases hx
  | publish =>
      rw [Loop.happen, l.publish_keeps.1]
      exact Outward.of_eq h rfl rfl rfl rfl
  | post q =>
      rw [Loop.happen, (l.post_keeps q).1]
      exact h
  | report m =>
      rw [Loop.happen, (l.postStatus_keeps m).1]
      exact h
  | dropHandles | endBridge => exact h
  | around x hx =>
      rw [Loop.happen, ← l.state.react_of_not_isIteration hx]
      refine keeps_react h fun tree ht => ?_
      subst ht
      exact hm tree hx rfl

end Outward

/-- Nothing that happens makes the flag untrue. -/
lemma shown_happen (h : Studio.Shown r l.state.toStudio) {m : Happening}
    (hm : ∀ tree hx, m = .around (.files tree) hx → l.state.Allows r tree) :
    Studio.Shown r (l.happen m).state.toStudio := by
  refine keeps_happen h fun tree hx ht => ?_
  subst ht
  exact h.files (hm tree hx rfl)

/-- **The flag shows whether there is a session**, whatever happens to a loop, as long as
nobody else writes the first word. -/
theorem shown_after (h : Studio.Shown r l.state.toStudio) {ms : List Happening}
    (hm : l.Unwritten r ms) : Studio.Shown r (l.after ms).state.toStudio := by
  induction ms generalizing l with
  | nil => exact h
  | cons m ms ih => exact ih (shown_happen h hm.1) hm.2

end Flag

/-! ### Where a loop breaks down -/

section Limits

variable {l : Loop}

/-- Whatever happens to a loop, its delays stay as long as they are, and time does not run
backwards. -/
lemma pace_happen (l : Loop) (m : Happening) : ∃ now, l.state.now ≤ now ∧
    (l.happen m).state.pace = { l.state.pace with now := now } := by
  cases m with
  | step =>
      refine ⟨_, le_rfl, ?_⟩
      rcases l.happen_step with ⟨-, hv⟩ | ⟨-, x, rs, ms, -, hx, hv⟩ <;> rw [hv]
      · rfl
      · have hw := (within_react l.state hx).1
        rcases Loop.proceed_cases { l with requests := rs, statuses := ms } (l.state.react x)
          with ⟨-, hp⟩ | ⟨e, -, hp⟩ <;> rw [hp] <;> exact hw
  | publish =>
      refine ⟨_, le_rfl, ?_⟩
      rw [Loop.happen, l.publish_keeps.1]
      rfl
  | post r =>
      refine ⟨_, le_rfl, ?_⟩
      rw [Loop.happen, (l.post_keeps r).1]
      rfl
  | report m =>
      refine ⟨_, le_rfl, ?_⟩
      rw [Loop.happen, (l.postStatus_keeps m).1]
      rfl
  | dropHandles | endBridge => exact ⟨_, le_rfl, rfl⟩
  | around x hx =>
      cases x with
      | pass span => exact ⟨l.state.now + span, Nat.le_add_right _ _, rfl⟩
      | frame | files | script => exact ⟨_, le_rfl, rfl⟩
      | request | abandoned | status | wake => cases hx

/-- A loop that has broken down has a delay that goes beyond a limit. -/
def Loop.Overdue (l : Loop) : Prop := ∀ e, l.excess = some e → l.state.pace.Exceeds e

lemma Sound.overdue_happen (h : Sound l) (he : l.Overdue) (m : Happening) :
    (l.happen m).Overdue := by
  obtain ⟨now, hn, hp⟩ := pace_happen l m
  rw [Loop.Overdue, hp]
  intro e hx
  by_cases hm : m = .step
  · subst hm
    rcases l.happen_step with ⟨-, hv⟩ | ⟨ho, x, rs, ms, -, hi, hv⟩ <;> rw [hv] at hx
    · exact (he e hx).later hn
    · have hlx := (Loop.isOver_eq_false_iff.1 ho).2
      rcases Loop.proceed_cases { l with requests := rs, statuses := ms } (l.state.react x)
        with ⟨-, hs⟩ | ⟨e', he', hs⟩ <;> rw [hs] at hx
      · cases hlx.symm.trans hx
      · cases hx
        exact ((within_react l.state hi).exceeds (h.unbroken hlx) he').later hn
  · rw [(l.beside fun h => absurd h hm).excess] at hx
    exact (he e hx).later hn

/-- **A loop breaks down over a delay alone**, one that goes beyond a limit of the machine. -/
theorem Sound.overdue_after (h : Sound l) (he : l.Overdue) (ms : List Happening) :
    (l.after ms).Overdue := by
  induction ms generalizing l with
  | nil => exact he
  | cons m ms ih => exact ih (h.happen m) (h.overdue_happen he m)

/-- However long it goes on, the delays stay as long as they were. -/
lemma pace_after (l : Loop) (ms : List Happening) :
    (l.after ms).state.pace = { l.state.pace with now := (l.after ms).state.now } := by
  induction ms generalizing l with
  | nil => rfl
  | cons m ms ih =>
      obtain ⟨now, -, hp⟩ := pace_happen l m
      have ha : l.after (m :: ms) = (l.happen m).after ms := rfl
      rw [ha, ih, hp]

end Limits

/-! ### A loop from its beginning -/

/-- The loop in which a run begins, with a bridge for signals or without one. -/
def Setup.loop (u : Setup) (capacity : ℕ) (subscribers : List Subscriber)
    (bridge : Option Signal.Bindings) : Loop :=
  { Loop.new u.begin capacity subscribers with bridge := bridge }

lemma sound_loop (u : Setup) (capacity : ℕ) (subscribers : List Subscriber)
    (bridge : Option Signal.Bindings) : Sound (u.loop capacity subscribers bridge) where
  settled _ := settled_begin u
  unbroken _ := rfl
  broken := nofun

/-- **A stop is final.**  Whatever happens to a loop, the requests are taken in the order in
which they were posted, with a stop in the place of the next one when nobody can post any
more, and each of them is told once.  As long as there is one to be taken, the next step
answers it and does nothing else.  The run is over once a stop was taken, and nothing is
taken after that.  The step that takes it leads to rest, forcing the session to its end
without a drain, and a stop that waits is taken, unless the loop breaks down on the way
there, which it does only at a limit of the machine that one of its delays goes beyond.  A
run that is over is at rest, with the flag cleared, and a loop that is over does nothing any
more, whatever happens. -/
theorem finality_of_loop (u : Setup) (capacity : ℕ) (subscribers : List Subscriber)
    (bridge : Option Signal.Bindings) (ms : List Happening) :
    let l := u.loop capacity subscribers bridge
    let t := l.after ms
    ((l.told ms).filter Event.isAsked = (l.handled ms).map fun r => .asked r.label) ∧
      (l.posted ms = l.handled ms ++ t.requests ∨
        l.handled ms = l.posted ms ++ [.stop] ∧ t.requests = [] ∧ t.isHeld = false) ∧
      (t.call? = none ↔ t.isOver = true ∨ t.requests = [] ∧ t.isHeld = true) ∧
      (∀ r, t.call? = some r → t.step? =
        some (Loop.proceed { t with requests := t.requests.tail } (t.heard.onRequest r))) ∧
      (t.state.exited = true ↔ .stop ∈ l.handled ms) ∧
      .stop ∉ (l.handled ms).dropLast ∧
      (t.call? = some .stop →
        AtRest (t.happen .step).state ∧ (t.happen .step).excess = none ∧
          (t.happen .step).state.events = t.state.events ++ t.state.farewell ∧
          (t.happen .step).state.backend.stats.drains = t.state.backend.stats.drains) ∧
      (.stop ∈ t.requests ∨ t.isHeld = false →
        (Loop.steps (t.requests.length + 1) t).1.isOver = true) ∧
      (∀ e, t.excess = some e → (u.settings.pace u.horizon t.state.now).Exceeds e) ∧
      (t.state.exited = true → AtRest t.state ∧ t.excess = none ∧
        ∀ r, Studio.Shown r l.state.toStudio → l.Unwritten r ms → r.isSet t.state.files = false) ∧
      (t.isOver = true → ∀ ys, Loop.Still t (t.after ys) ∧ t.posted ys = [] ∧
        t.handled ys = [] ∧ t.told ys = t.state.events) := by
  intro l t
  have hl : Sound l := sound_loop u capacity subscribers bridge
  have ht : Sound t := hl.after ms
  have hx : t.state.exited = true ↔ .stop ∈ l.handled ms := by
    rw [hl.exited_after]
    exact or_iff_right nofun
  refine ⟨hl.filter_told ms, hl.posted_eq ms, Loop.call_eq_none_iff, fun r => Loop.step_of_call,
    hx, hl.stop_notMem_dropLast ms, ht.rest_of_stop, ht.isOver_steps, fun e he => ?_,
    fun he => ?_, Loop.still_after⟩
  · have hp : t.state.pace = u.settings.pace u.horizon t.state.now := pace_after l ms
    rw [← hp]
    exact hl.overdue_after nofun ms e he
  obtain ⟨hr, hn⟩ := ht.atRest he
  refine ⟨hr, hn, fun r hs hm => ?_⟩
  rw [(shown_after hs hm).flag, hr.session]
  rfl

end StreamWarden.Supervisor
