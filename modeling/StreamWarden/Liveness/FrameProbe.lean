import StreamWarden.Time

/-!
# The frame probe

A probe remembers when the latest frame passed, in one word of 64 bits: zero as
long as no frame has come, and otherwise the whole microseconds since the probe
was made, plus one, so that a frame at the very first instant is not mistaken
for none.

* `lastFrame?_mark`: what is read back after a frame.
* `mark_word_lt`: the word never overflows.
-/

namespace StreamWarden

/-- A frame probe: the instant at which it was made, and its word. -/
structure FrameProbe where
  epoch : Nat
  word : Nat := 0
  deriving DecidableEq, Repr

namespace FrameProbe

/-- A new probe. -/
def new (now : Nat) : FrameProbe := { epoch := now }

/-- A frame passes. -/
def mark (p : FrameProbe) (now : Nat) : FrameProbe :=
  { p with word := min (Time.wholeMicros (now - p.epoch)) (Time.maxCount - 1) + 1 }

/-- The instant of the latest frame, to the microsecond below. -/
def lastFrame? (p : FrameProbe) : Option Nat :=
  if p.word = 0 then none else some (p.epoch + Time.micros (p.word - 1))

theorem lastFrame?_new (now : Nat) : (new now).lastFrame? = none := rfl

theorem lastFrame?_mark (p : FrameProbe) (now : Nat) :
    (p.mark now).lastFrame? =
      some (p.epoch +
        Time.micros (min (Time.wholeMicros (now - p.epoch)) (Time.maxCount - 1))) := by
  simp [mark, lastFrame?]

theorem mark_word_lt (p : FrameProbe) (now : Nat) : (p.mark now).word ≤ Time.maxCount := by
  simp only [mark, Time.maxCount]; omega

end FrameProbe

end StreamWarden
