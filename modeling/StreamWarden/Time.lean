/-!
# Time

Spans of time and readings of the monotonic clock are natural numbers of
nanoseconds; the clock's zero is the start of the run.

* `wholeMillis`, `wholeMicros` and `wholeSeconds` round down;
  `seconds_wholeSeconds_add` puts a span together again.
* `clockRange` bounds the end of every clock, which depends on how long the machine has
  been running.
* `nextMilli` is the first whole millisecond not before an instant, the moment
  at which a timer of millisecond resolution fires (`le_nextMilli`,
  `nextMilli_lt`).
-/

namespace StreamWarden.Time

/-- A span of `n` milliseconds. -/
def millis (n : Nat) : Nat := n * 1000000

/-- A span of `n` microseconds. -/
def micros (n : Nat) : Nat := n * 1000

/-- A span of `n` seconds. -/
def seconds (n : Nat) : Nat := n * 1000000000

/-- The whole milliseconds of a span. -/
def wholeMillis (d : Nat) : Nat := d / 1000000

/-- The whole microseconds of a span. -/
def wholeMicros (d : Nat) : Nat := d / 1000

/-- The whole seconds of a span. -/
def wholeSeconds (d : Nat) : Nat := d / 1000000000

/-- The nanoseconds of a span beyond its whole seconds. -/
def subsecond (d : Nat) : Nat := d % 1000000000

theorem seconds_wholeSeconds_add (d : Nat) :
    seconds (wholeSeconds d) + subsecond d = d := by
  simp only [seconds, wholeSeconds, subsecond]; omega

theorem millis_wholeMillis_le (d : Nat) : millis (wholeMillis d) ≤ d := by
  simp only [millis, wholeMillis]; omega

/-- The first whole millisecond that does not lie before `t`. -/
def nextMilli (t : Nat) : Nat := (t + 999999) / 1000000 * 1000000

theorem le_nextMilli (t : Nat) : t ≤ nextMilli t := by
  simp only [nextMilli]; omega

theorem nextMilli_lt (t : Nat) : nextMilli t < t + 1000000 := by
  simp only [nextMilli]; omega

/-- What a clock counts; its end comes no later than this after its zero. -/
def clockRange : Nat := seconds (Nat.pow 2 63)

/-- The end of a clock that has been running for some days when its zero comes. -/
def horizon : Nat := seconds (Nat.pow 2 63 - Nat.pow 2 20)

/-- The most a count of 64 bits can be. -/
def maxCount : Nat := 18446744073709551615

/-- The longest span of time. -/
def longest : Nat := seconds maxCount + 999999999

theorem horizon_le_clockRange : horizon ≤ clockRange := by decide

theorem clockRange_le_longest : clockRange ≤ longest := by decide

end StreamWarden.Time
