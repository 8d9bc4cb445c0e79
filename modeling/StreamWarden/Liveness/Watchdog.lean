import StreamWarden.Excess
import StreamWarden.Liveness.FrameProbe

/-!
# The watchdog

While it is armed, the watchdog looks at a frame probe once an interval. A look
that comes late is not made up for: the next one is a full interval after it. A
graph that has never delivered a frame is left alone; one whose latest frame is
older than the threshold has stalled, and the watchdog then disarms itself.

Whoever has a watchdog may arm it, disarm it, and ask it to look. Each look that
finds no stall sets the instant of the next one; where that lies behind the end
of the clock, the machine meets a limit instead of giving an answer.

* `check_of_disarmed`, `check_of_early`: without a due check nothing happens.
* `check_of_due`, `check_of_stalled`: what happens at a check that is due.
* `deadline_of_check`: after a check, the next one is a full interval away or
  there is none.
* `Call`, `call?`: the calls of a watchdog on a clock that has an end.
-/

namespace StreamWarden

/-- What the watchdog finds. -/
inductive Verdict where
  /-- No frame has come yet. -/
  | noFrameYet
  /-- Frames keep coming. -/
  | healthy
  /-- The latest frame is this old. -/
  | stalled (age : Nat)
  deriving DecidableEq, Repr

/-- A watchdog; `deadline` is the instant of its next check while it is armed. -/
structure Watchdog where
  interval : Nat
  threshold : Nat
  deadline : Option Nat := none
  deriving DecidableEq, Repr

namespace Watchdog

/-- Starts the checks; the first comes after a full interval. -/
def arm (w : Watchdog) (now : Nat) : Watchdog := { w with deadline := some (now + w.interval) }

/-- Stops the checks. -/
def disarm (w : Watchdog) : Watchdog := { w with deadline := none }

/-- Checks are going on. -/
def isArmed (w : Watchdog) : Bool := w.deadline.isSome

/-- A check is due. -/
def isDue (w : Watchdog) (now : Nat) : Bool := w.deadline.any (· ≤ now)

/-- What a look at the probe finds. -/
def judge (w : Watchdog) (now : Nat) (probe : FrameProbe) : Verdict :=
  match probe.lastFrame? with
  | none => .noFrameYet
  | some last => if now - last > w.threshold then .stalled (now - last) else .healthy

/-- Looks at the probe if a check is due. -/
def check (w : Watchdog) (now : Nat) (probe : FrameProbe) : Watchdog × Option Verdict :=
  if w.isDue now then
    match w.judge now probe with
    | .stalled age => (w.disarm, some (.stalled age))
    | verdict => (w.arm now, some verdict)
  else
    (w, none)

theorem isArmed_of_isDue {w : Watchdog} {now : Nat} (h : w.isDue now = true) :
    w.isArmed = true := by
  cases hd : w.deadline <;> simp [isDue, isArmed, hd] at h ⊢

theorem check_of_disarmed {w : Watchdog} (h : w.deadline = none) (now : Nat)
    (probe : FrameProbe) : w.check now probe = (w, none) := by
  simp [check, isDue, h]

theorem check_of_early {w : Watchdog} {d now : Nat} (h : w.deadline = some d) (hd : now < d)
    (probe : FrameProbe) : w.check now probe = (w, none) := by
  simp [check, isDue, h, Nat.not_le.2 hd]

/-- A look that finds no stall is followed by another, a full interval later. -/
theorem check_of_due {w : Watchdog} {now : Nat} (h : w.isDue now = true) {probe : FrameProbe}
    (hv : ∀ age, w.judge now probe ≠ .stalled age) :
    w.check now probe = (w.arm now, some (w.judge now probe)) := by
  rw [check, if_pos h]
  split
  case h_1 age hj => exact absurd hj (hv age)
  case h_2 => rfl

/-- A look that finds a stall is the last. -/
theorem check_of_stalled {w : Watchdog} {now age : Nat} (h : w.isDue now = true)
    {probe : FrameProbe} (hv : w.judge now probe = .stalled age) :
    w.check now probe = (w.disarm, some (.stalled age)) := by
  rw [check, if_pos h, hv]

/-- A look does not change how often the watchdog looks. -/
theorem interval_check (w : Watchdog) (now : Nat) (probe : FrameProbe) :
    (w.check now probe).1.interval = w.interval := by
  rw [check]
  split
  · split <;> rfl
  · rfl

/-- A look finds a stall if the latest frame is older than the threshold. -/
theorem judge_eq_stalled_iff {w : Watchdog} {now age : Nat} {probe : FrameProbe} :
    w.judge now probe = .stalled age ↔
      ∃ last ∈ probe.lastFrame?, now - last = age ∧ w.threshold < age := by
  rw [judge]
  cases probe.lastFrame? with
  | none => simp
  | some last =>
      by_cases h : now - last > w.threshold
      · simp only [if_pos h, Verdict.stalled.injEq, Option.mem_some_iff, exists_eq_left']
        exact ⟨fun he => ⟨he, he ▸ h⟩, And.left⟩
      · simp only [if_neg h, Option.mem_some_iff, exists_eq_left', reduceCtorEq, false_iff, not_and]
        exact fun he => he ▸ h

theorem deadline_of_check {w : Watchdog} {now : Nat} {probe : FrameProbe} {v : Verdict}
    (h : (w.check now probe).2 = some v) :
    (w.check now probe).1.deadline = none ∨
      (w.check now probe).1.deadline = some (now + w.interval) := by
  simp only [check] at h ⊢
  split at h
  · split
    · split <;> simp [disarm, arm]
    · contradiction
  · cases h

/-! ### Calls -/

/-- A call of a watchdog. -/
inductive Call where
  | arm (now : Nat)
  | disarm
  | check (now : Nat) (probe : FrameProbe)

/-- What a call makes of a watchdog, and what it finds. -/
def call (w : Watchdog) : Call → Watchdog × Option Verdict
  | .arm now => (w.arm now, none)
  | .disarm => (w.disarm, none)
  | .check now probe => w.check now probe

/-- A call on a clock that has this end: a deadline behind it is a limit that is met. -/
def call? (horizon : Nat) (w : Watchdog) (c : Call) : Except Excess (Watchdog × Option Verdict) :=
  if (w.call c).1.deadline.any (horizon ≤ ·) then .error .instant else .ok (w.call c)

end Watchdog

end StreamWarden
