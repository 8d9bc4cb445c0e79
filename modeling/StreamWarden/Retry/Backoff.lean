import StreamWarden.Numeric.Binary64
import StreamWarden.Retry.Jitter

/-!
# The retry schedule

After a failed build the supervisor waits. The first wait is `first`; each
further failure multiplies it by `factor`, never beyond `max`, and jitter is
applied to the result. The growth is computed in floating-point seconds.

* `Backoff.next?` is the wait after a number of failures, or nothing where the
  grown seconds exceed what a span can hold.
* `Backoff.next` waits `max` in that case.
-/

namespace StreamWarden

open Numeric (Binary64)

/-- A retry schedule. -/
structure Backoff where
  first : Nat
  max : Nat
  factor : Binary64
  jitter : Jitter
  deriving DecidableEq, Repr

namespace Backoff

/-- Five seconds every time. -/
def default : Backoff :=
  { first := Time.seconds 5, max := Time.seconds 60, factor := Binary64.one, jitter := .none }

/-- The same wait every time. -/
def fixed (delay : Nat) : Backoff :=
  { first := delay, max := delay, factor := Binary64.one, jitter := .none }

/-- A span in floating-point seconds: its whole seconds and its nanoseconds are
rounded apart before they are added. -/
def inSeconds (span : Nat) : Binary64 :=
  (Binary64.ofNat (Time.wholeSeconds span)).add
    ((Binary64.ofNat (Time.subsecond span)).divNat 1000000000)

/-- One more than the greatest number of whole seconds in a span. -/
def secondsLimit : Nat := 18446744073709551616

/-- A span from floating-point seconds, to the nearest nanosecond. -/
def ofSeconds? (seconds : Binary64) : Option Nat :=
  let nanos := seconds.toUnits 1000000000
  if nanos < Time.seconds secondsLimit then some nanos else none

/-- The greatest exponent. -/
def maxExponent : Nat := 2147483647

/-- The seconds to which the first wait has grown after `failures` failures. -/
def grown (p : Backoff) (failures : Nat) : Binary64 :=
  (inSeconds p.first).mul (p.factor.pow (min failures maxExponent))

/-- The wait before jitter: what cannot be a wait, or exceeds the greatest one,
is replaced by the greatest one. -/
def base? (p : Backoff) (failures : Nat) : Option Nat :=
  let seconds := p.grown failures
  if !seconds.isFinite || seconds.isNegative || seconds.above (inSeconds p.max) then
    some p.max
  else
    ofSeconds? seconds

/-- The wait after `failures` failures in a row, the first of which counts as
none. -/
def next? (p : Backoff) (failures draw : Nat) : Option Nat :=
  (p.base? failures).map fun delay => p.jitter.apply delay draw

/-- The wait after `failures` failures in a row; one that no span can hold is cut
to the greatest one. -/
def next (p : Backoff) (failures draw : Nat) : Nat :=
  (p.next? failures draw).getD (p.jitter.apply p.max draw)

end Backoff

end StreamWarden
