/-!
# Binary floating point

Numbers of 53 significant binary digits with exponents from -1074, infinities
and one not-a-number. Every operation computes its exact result as a quotient of
natural numbers and rounds it once, to the nearest number and on a tie to the
even one.

* `roundDiv` divides and rounds to the nearest, a tie to the even neighbour;
  `div_le_roundDiv` and `roundDiv_le` say that it is the quotient rounded down
  or one more.
* `ofRatio` is the number nearest to a quotient.
* `mul`, `add`, `above` and `pow` (by repeated squaring) are built on it.
-/

namespace StreamWarden.Numeric

/-- The nearest natural number to `num / den`; a tie goes to the even one. -/
def roundDiv (num den : Nat) : Nat :=
  let q := num / den
  let twice := 2 * (num % den)
  if twice < den ∨ (twice = den ∧ q % 2 = 0) then q else q + 1

theorem roundDiv_le (num den : Nat) : roundDiv num den ≤ num / den + 1 := by
  simp only [roundDiv]; split <;> omega

theorem div_le_roundDiv (num den : Nat) : num / den ≤ roundDiv num den := by
  simp only [roundDiv]; split <;> omega

/-- A floating-point number: `finite s m e` is `m * 2 ^ e`, negated if `s`. -/
inductive Binary64 where
  | nan
  | infinite (negative : Bool)
  | finite (negative : Bool) (mantissa : Nat) (exponent : Int)
  deriving DecidableEq, Repr

namespace Binary64

/-- The least exponent. -/
def minExponent : Int := -1074

/-- The exponent of numbers that start beyond the largest finite one. -/
def overflowExponent : Int := 972

/-- `n * 2 ^ e` as a quotient of natural numbers. -/
def scale (n : Nat) (e : Int) : Nat × Nat :=
  if e < 0 then (n, Nat.pow 2 (-e).toNat) else (n * Nat.pow 2 e.toNat, 1)

/-- The exponent of the last of 53 digits of the quotient of two positive
numbers. -/
def lastExponent (num den : Nat) : Int :=
  let guess : Int := (num.log2 : Int) - (den.log2 : Int) - 52
  let shifted := scale num (-guess)
  let e := if shifted.1 / (shifted.2 * den) < Nat.pow 2 52 then guess - 1 else guess
  max e minExponent

/-- The number nearest to `num / den`, with a sign. -/
def ofRatio (negative : Bool) (num den : Nat) : Binary64 :=
  if num = 0 then .finite negative 0 0
  else
    let e := lastExponent num den
    let shifted := scale num (-e)
    let m := roundDiv shifted.1 (shifted.2 * den)
    let (m, e) := if m = Nat.pow 2 53 then (Nat.pow 2 52, e + 1) else (m, e)
    if e ≥ overflowExponent then .infinite negative else .finite negative m e

/-- The number nearest to a natural number. -/
def ofNat (n : Nat) : Binary64 := ofRatio false n 1

/-- One. -/
def one : Binary64 := ofNat 1

/-- The product of two numbers. -/
def mul : Binary64 → Binary64 → Binary64
  | .nan, _ | _, .nan => .nan
  | .infinite s, .infinite t => .infinite (s != t)
  | .infinite s, .finite t m _ => if m = 0 then .nan else .infinite (s != t)
  | .finite s m _, .infinite t => if m = 0 then .nan else .infinite (s != t)
  | .finite s m e, .finite t n f =>
    let (num, den) := scale (m * n) (e + f)
    ofRatio (s != t) num den

/-- The quotient of a number that is not negative and a positive natural
number. -/
def divNat (x : Binary64) (n : Nat) : Binary64 :=
  match x with
  | .finite s m e =>
    let (num, den) := scale m e
    ofRatio s num (den * n)
  | other => other

/-- The sum of two finite numbers that are not negative; other arguments give
the first that is not finite. -/
def add : Binary64 → Binary64 → Binary64
  | .finite _ m e, .finite _ n f =>
    let (a, b) := scale m e
    let (c, d) := scale n f
    ofRatio false (a * d + c * b) (b * d)
  | .finite .., other => other
  | other, _ => other

/-- The number is finite. -/
def isFinite : Binary64 → Bool
  | .finite .. => true
  | _ => false

/-- The number is below zero; the negative zero is not. -/
def isNegative : Binary64 → Bool
  | .nan => false
  | .infinite s => s
  | .finite s m _ => s && m != 0

/-- One finite number that is not negative is above another. -/
def above : Binary64 → Binary64 → Bool
  | .finite _ m e, .finite _ n f =>
    let (a, b) := scale m e
    let (c, d) := scale n f
    c * b < a * d
  | _, _ => false

/-- Multiplies `result` by `base ^ n`, squaring the base from step to step; `fuel`
is at least the number of binary digits of `n`. -/
def powLoop : Nat → Binary64 → Binary64 → Nat → Binary64
  | 0, result, _, _ => result
  | fuel + 1, result, base, n =>
    let result := if n % 2 = 1 then mul result base else result
    if n / 2 = 0 then result else powLoop fuel result (mul base base) (n / 2)

/-- A power with a natural exponent, by repeated squaring. -/
def pow (base : Binary64) (n : Nat) : Binary64 := powLoop (n.log2 + 1) one base n

/-- A finite number that is not negative, as the nearest natural number of
`1 / unit`; a tie goes to the even one. -/
def toUnits (unit : Nat) : Binary64 → Nat
  | .finite _ m e =>
    let (num, den) := scale (m * unit) e
    roundDiv num den
  | _ => 0

end Binary64

end StreamWarden.Numeric
