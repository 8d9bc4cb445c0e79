import StreamWarden.Proofs.Steps

/-!
# The pace of a supervisor

A supervisor lets delays pass: before a rebuild, until a drain ends, between two looks of
the watchdog, and before the next attempt.  Each of them begins at the present instant, so
that the clock and the settings say where it can end.  The clock has an end itself, and the
wait before an attempt can grow until no span holds it; a delay that goes beyond one of the
two meets a limit of the machine.

* `Pace`: the clock and the delays; `Pace.Ends`: where a delay can end.
* `Pace.Exceeds`: the limits that a delay meets; `Exceeds.later`: time does not help.
* `pace_transition`, `pace_measured`: neither the phase nor a failure changes the pace.
-/

namespace StreamWarden

namespace Supervisor

/-- The clock, and the delays that a supervisor lets pass. -/
structure Pace where
  now : Nat
  /-- The end of the clock. -/
  horizon : Nat
  settleDelay : Nat
  drainGrace : Nat
  interval : Nat
  retry : Backoff

namespace Pace

variable {p : Pace}

/-- A delay that begins now can end at this instant. -/
inductive Ends (p : Pace) : Nat → Prop where
  | settle : Ends p (p.now + p.settleDelay)
  | drain : Ends p (p.now + p.drainGrace)
  | look : Ends p (p.now + p.interval)
  | retry (failures draw : Nat) : Ends p (p.now + p.retry.next failures draw)

/-- A delay that begins now meets this limit of the machine. -/
inductive Exceeds (p : Pace) : Excess → Prop where
  /-- The clock comes to its end before the delay does. -/
  | instant {t : Nat} (h : p.Ends t) (ht : p.horizon ≤ t) : Exceeds p .instant
  /-- The delay is longer than any span. -/
  | wait {failures draw : Nat} (h : p.retry.next? failures draw = none) : Exceeds p .wait

/-- A delay ends the later, the later it begins. -/
lemma Ends.later {t : Nat} (h : p.Ends t) {now : Nat} (hn : p.now ≤ now) :
    ∃ t', t ≤ t' ∧ Ends { p with now := now } t' := by
  cases h with
  | settle => exact ⟨_, Nat.add_le_add_right hn _, .settle⟩
  | drain => exact ⟨_, Nat.add_le_add_right hn _, .drain⟩
  | look => exact ⟨_, Nat.add_le_add_right hn _, .look⟩
  | retry failures draw => exact ⟨_, Nat.add_le_add_right hn _, .retry failures draw⟩

/-- A limit that a delay meets now, it meets at any later time. -/
lemma Exceeds.later {e : Excess} (h : p.Exceeds e) {now : Nat} (hn : p.now ≤ now) :
    Exceeds { p with now := now } e := by
  cases h with
  | instant h ht =>
      obtain ⟨t', hle, h'⟩ := h.later hn
      exact .instant h' (ht.trans hle)
  | wait h => exact .wait h

end Pace

namespace State

/-- The pace of a supervisor at present. -/
def pace (s : State) : Pace :=
  { now := s.now
    horizon := s.horizon
    settleDelay := s.settleDelay
    drainGrace := s.drainGrace
    interval := s.watchdog.interval
    retry := s.retry }

lemma pace_transition (s : State) (input : Phase.Input) :
    (s.transition input).pace = s.pace := by
  rw [transition]
  split <;> rfl

lemma pace_measured (s : State) : s.measured.pace = s.pace := by
  rw [measured]
  split <;> rfl

/-- The wait before the next attempt is a delay of the pace at which it was worked out. -/
lemma ends_pause {s t : State} (hp : t.pace = s.pace) :
    ∀ d ∈ some (t.now + s.pause), t.pace.Ends d := by
  rintro _ ⟨⟩
  have hn : t.now = s.now := congrArg Pace.now hp
  rw [hp, hn]
  exact .retry _ _

end State

end Supervisor

/-- The pace that the settings give at an instant, on a clock with this end. -/
def Settings.pace (s : Settings) (horizon now : Nat) : Supervisor.Pace :=
  { now := now
    horizon := horizon
    settleDelay := s.settleDelay
    drainGrace := s.drainGrace
    interval := s.watchdogInterval
    retry := s.retry }

end StreamWarden
