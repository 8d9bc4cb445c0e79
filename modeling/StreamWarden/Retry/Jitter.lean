import StreamWarden.Time

/-!
# Jitter

Devices that lose their camera at the same moment should not all come back at
the same moment. A jitter spreads a delay at random; the random number is an
argument, so that what is possible can be said by quantifying over it.

* `apply_none`: without jitter a delay of a millisecond or more is kept.
* `apply_of_small`: a delay below a millisecond is no delay, under every jitter.
-/

namespace StreamWarden

/-- How a delay is spread. -/
inductive Jitter where
  /-- Not at all. -/
  | none
  /-- Over everything from zero to the delay. -/
  | full
  /-- Over the upper half of the delay. -/
  | equal
  deriving DecidableEq, Repr

namespace Jitter

/-- The name of a jitter. -/
def label : Jitter → String
  | .none => "none"
  | .full => "full"
  | .equal => "equal"

/-- Every jitter. -/
def all : List Jitter := [.none, .full, .equal]

/-- A number from zero to `most`, by the random number `draw`. -/
def pick (most draw : Nat) : Nat := draw % (most + 1)

/-- The whole milliseconds of a delay, as far as 64 bits count them. -/
def millisOf (delay : Nat) : Nat := min (Time.wholeMillis delay) Time.maxCount

/-- A delay spread by the random number `draw`. -/
def apply (j : Jitter) (delay draw : Nat) : Nat :=
  let ms := millisOf delay
  if ms = 0 then 0
  else
    match j with
    | .none => delay
    | .full => Time.millis (pick ms draw)
    | .equal => Time.millis (ms / 2 + pick (ms / 2) draw)

/-- How many random numbers are told apart. -/
def range (j : Jitter) (delay : Nat) : Nat :=
  match j with
  | .none => 1
  | .full => millisOf delay + 1
  | .equal => millisOf delay / 2 + 1

theorem pick_le (most draw : Nat) : pick most draw ≤ most :=
  Nat.le_of_lt_succ (Nat.mod_lt _ (Nat.succ_pos _))

theorem apply_none {delay : Nat} (h : 1000000 ≤ delay) (draw : Nat) :
    Jitter.none.apply delay draw = delay := by
  have : millisOf delay ≠ 0 := by
    simp only [millisOf, Time.wholeMillis, Time.maxCount]; omega
  simp [apply, this]

theorem apply_of_small {delay : Nat} (h : delay < 1000000) (j : Jitter) (draw : Nat) :
    j.apply delay draw = 0 := by
  have : millisOf delay = 0 := by
    simp only [millisOf, Time.wholeMillis]; omega
  simp [apply, this]

end Jitter

end StreamWarden
