/-!
# Limits of the machine

Quantities that the machine cannot hold. A program ends where it meets one, with
a message of its own.
-/

namespace StreamWarden

/-- A quantity that the machine cannot hold. -/
inductive Excess where
  /-- An instant behind the end of the clock. -/
  | instant
  /-- A bus that keeps more items than can be numbered. -/
  | busNumbers
  /-- A bus that keeps more items than there is memory. -/
  | busMemory
  /-- A queue with more places than can be counted. -/
  | queue
  /-- A wait that no span of time can be. -/
  | wait
  deriving DecidableEq, Repr

/-- The greatest number of places in a queue. -/
def Excess.queueLimit : Nat := 2305843009213693951

/-- The message of a program that ends where it meets a limit. -/
def Excess.message : Excess → String
  | .instant => "overflow when adding duration to instant"
  | .busNumbers => "broadcast channel capacity exceeded \x60usize::MAX / 2\x60"
  | .busMemory => "capacity overflow"
  | .queue =>
    "a semaphore may not have more than MAX_PERMITS permits (" ++ toString queueLimit ++ ")"
  | .wait => "cannot convert float seconds to Duration: value is either too big or NaN"

end StreamWarden
