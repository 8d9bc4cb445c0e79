import StreamWarden.Text.Digit
import StreamWarden.Text.Pattern.Modes

/-!
# The signs of a pattern

A sign is a character that stands for itself, or a backslash with what follows
it. Whether a sign may stand somewhere depends on the modes: no tables of letters
and their cases are at hand where characters are matched, and where bytes are
matched nothing may match what could not be a character.

* `Sign.read?` reads a sign.
* `Sign.isAllowed` and `Sign.isMember` say where one may stand.
-/

namespace StreamWarden.Text.Pattern

/-- A sign of a pattern. -/
inductive Sign where
  /-- A character, which may have been written as a byte. -/
  | char (c : Char) (asByte : Bool)
  /-- A digit, blank or letter, or all but these. -/
  | kind (negated : Bool)
  /-- The beginning or end of the text. -/
  | edge
  /-- The beginning or end of a word, or neither. -/
  | wordEdge
  deriving DecidableEq, Repr

namespace Sign

/-- The characters that are written as a backslash and a letter. -/
def named : List (Char × Char) :=
  [('a', '\x07'), ('f', '\x0c'), ('n', '\n'), ('r', '\r'), ('t', '\t'), ('v', '\x0b')]

/-- The letters that announce a code point, with the number of its digits. -/
def widths : List (Char × Nat) := [('x', 2), ('u', 4), ('U', 8)]

/-- Reads so many hexadecimal digits as a number that goes on from `n`. -/
def readHex? (m : Modes) : Nat → Nat → List Char → Option (Nat × List Char)
  | 0, n, text => some (n, text)
  | _ + 1, _, [] => none
  | count + 1, n, c :: rest =>
    (hexDigit? c).bind fun d => readHex? m count (16 * n + d) (m.skip rest)

/-- Reads what stands behind a backslash. -/
def readEscape? (m : Modes) : List Char → Option (Sign × List Char)
  | [] => none
  | c :: rest =>
    if let some width := widths.lookup c then
      (readHex? m width 0 (m.skip rest)).bind fun (n, rest) =>
        if n.isValidChar then some (.char (Char.ofNat n) (c = 'x'), rest) else none
    else if let some d := named.lookup c then some (.char d false, rest)
    else if ['d', 's', 'w'].contains c then some (.kind false, rest)
    else if ['D', 'S', 'W'].contains c then some (.kind true, rest)
    else if ['A', 'z'].contains c then some (.edge, rest)
    else if ['b', 'B', '<', '>'].contains c then some (.wordEdge, rest)
    else if c.toNat < 128 ∧ !c.isAlphanum then some (.char c false, rest)
    else none

/-- Reads the sign that begins with a character. -/
def read? (m : Modes) (c : Char) (rest : List Char) : Option (Sign × List Char) :=
  if c = '\\' then readEscape? m rest else some (.char c false, rest)

/-- A sign may stand by itself. -/
def isAllowed (m : Modes) : Sign → Bool
  | .char c asByte => if m.wide then !m.caseless else !asByte || c.toNat < 128
  | .kind negated => !m.wide && !negated
  | .edge => true
  | .wordEdge => !m.wide

/-- A sign may stand in a class. -/
def isMember (m : Modes) : Sign → Bool
  | .char c _ => if m.wide then !m.caseless else c.toNat < 128
  | .kind negated => !m.wide && !negated
  | .edge | .wordEdge => false

/-- A class may hold the characters from one sign up to another. -/
def isRange (m : Modes) : Sign → Sign → Bool
  | .char c b, .char d e => c ≤ d && isMember m (.char c b) && isMember m (.char d e)
  | _, _ => false

end Sign

end StreamWarden.Text.Pattern
