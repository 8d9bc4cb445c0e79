import StreamWarden.Text.Blank

/-!
# The modes of a pattern

Modes say how the characters of a pattern are taken. A group of the pattern can
change them, for itself or from there on.

* `Modes.change?` reads such a change.
* `Modes.skip` leaves out what does not count between the characters.
* `length_skip_le`: what is left is never longer.
-/

namespace StreamWarden.Text.Pattern

/-- How the characters of a pattern are taken. -/
structure Modes where
  /-- The case of a letter does not matter. -/
  caseless : Bool := false
  /-- What is matched are characters, not bytes. -/
  wide : Bool := true
  /-- Blanks and remarks do not count. -/
  spaced : Bool := false
  deriving DecidableEq, Repr

namespace Modes

/-- The letters of the modes. Those besides `i`, `u` and `x` tell where a pattern
matches and not whether it can be read. -/
def letters : List Char := ['i', 'm', 's', 'u', 'x', 'R', 'U']

/-- The modes after a change, whose letters are those to set up to a dash and those
to unset behind it; none of them, nor the dash, may come twice, and the dash may
not come last. -/
def change? (m : Modes) (change : List Char) : Option Modes :=
  let on := change.takeWhile (· ≠ '-')
  let off := change.drop on.length
  let value (letter : Char) (old : Bool) := (old || on.contains letter) && !off.contains letter
  if change.all ('-' :: letters).contains ∧ change.Nodup ∧ change.getLast? ≠ some '-' then
    some
      { caseless := value 'i' m.caseless
        wide := value 'u' m.wide
        spaced := value 'x' m.spaced }
  else
    none

/-- A text without the blanks and the remarks at its beginning, which itself may
lie within a remark; a remark begins with a number sign and ends with the line. -/
def skipBlanks : Bool → List Char → List Char
  | _, [] => []
  | true, c :: rest => skipBlanks (c ≠ '\n') rest
  | false, c :: rest =>
    if isBlank c then skipBlanks false rest
    else if c = '#' then skipBlanks true rest
    else c :: rest

/-- A text without what does not count at its beginning. -/
def skip (m : Modes) (text : List Char) : List Char :=
  if m.spaced then skipBlanks false text else text

theorem length_skipBlanks_le (remark : Bool) (text : List Char) :
    (skipBlanks remark text).length ≤ text.length := by
  fun_induction skipBlanks remark text <;> simp_all <;> omega

theorem length_skip_le (m : Modes) (text : List Char) : (m.skip text).length ≤ text.length := by
  simp only [skip]
  split
  · exact length_skipBlanks_le false text
  · exact Nat.le_refl _

end Modes

end StreamWarden.Text.Pattern
