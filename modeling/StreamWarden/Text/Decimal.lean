/-!
# Decimal numerals

Natural numbers as text. A numeral may carry one plus sign and any number of
leading zeros; a reader names the bound below which the value has to stay, so
that a number too large for its purpose is no number. Where only it matters that
a text is a number, it may as well be negative, broken or infinite.

* `read?_eq_some_iff`: what is read, exactly.
* `isReal_of_read?`: a numeral is a number.
-/

namespace StreamWarden.Text.Decimal

/-- The value of a digit. -/
def digit (c : Char) : Nat := c.toNat - 48

/-- The value of a list of digits, the most significant one first. -/
def value (digits : List Char) : Nat :=
  digits.foldl (fun n c => 10 * n + digit c) 0

/-- A text without its plus sign, if it starts with one. -/
def unsigned : List Char → List Char
  | '+' :: rest => rest
  | text => text

/-- Reads a numeral whose value is below `bound`. -/
def read? (bound : Nat) (text : List Char) : Option Nat :=
  let digits := unsigned text
  if digits ≠ [] ∧ digits.all Char.isDigit ∧ value digits < bound then
    some (value digits)
  else
    none

theorem read?_eq_some_iff {bound n : Nat} {text : List Char} :
    read? bound text = some n ↔
      unsigned text ≠ [] ∧ (unsigned text).all Char.isDigit ∧
        value (unsigned text) < bound ∧ value (unsigned text) = n := by
  simp only [read?]
  split
  case isTrue h => simp [h]
  case isFalse h =>
    simp only [reduceCtorEq, false_iff]
    exact fun ⟨h₁, h₂, h₃, _⟩ => h ⟨h₁, h₂, h₃⟩

/-! ### Numbers of any kind -/

/-- A text without its sign, if it starts with one. -/
def magnitude : List Char → List Char
  | '+' :: rest | '-' :: rest => rest
  | text => text

/-- The names of what is infinite and of what is no quantity. -/
def unlimited : List String := ["inf", "infinity", "nan"]

/-- A text is an exponent, or there is none. -/
def isExponent : List Char → Bool
  | [] => true
  | e :: rest => ['e', 'E'].contains e && magnitude rest != [] && (magnitude rest).all Char.isDigit

/-- A text is a number: digits around a point, of which there may be none on one
side, with an exponent behind them, or a name in any case. -/
def isReal (text : List Char) : Bool :=
  let text := magnitude text
  let whole := text.takeWhile Char.isDigit
  let rest := text.dropWhile Char.isDigit
  let point := rest.head? == some '.'
  let places := if point then (rest.drop 1).takeWhile Char.isDigit else []
  let rest := if point then (rest.drop 1).dropWhile Char.isDigit else rest
  unlimited.contains (String.ofList (text.map Char.toLower)) ||
    (whole != [] || places != []) && isExponent rest

theorem magnitude_eq_unsigned {text : List Char} (h : (unsigned text).all Char.isDigit) :
    magnitude text = unsigned text := by
  unfold magnitude
  split
  case h_1 => rfl
  case h_2 => exact absurd h (by simp [unsigned])
  case h_3 hp hm =>
    unfold unsigned
    split
    case h_1 => exact absurd rfl (hp _)
    case h_2 => rfl

theorem isReal_of_read? {bound n : Nat} {text : List Char} (h : read? bound text = some n) :
    isReal text := by
  obtain ⟨hne, hd, -⟩ := read?_eq_some_iff.1 h
  have hall : ∀ c ∈ unsigned text, c.isDigit := List.all_eq_true.1 hd
  have ht : (unsigned text).takeWhile Char.isDigit = unsigned text := by
    have h : (unsigned text ++ []).takeWhile Char.isDigit = _ := List.takeWhile_append_of_pos hall
    simpa using h
  have hr : (unsigned text).dropWhile Char.isDigit = [] := by
    have h : (unsigned text ++ []).dropWhile Char.isDigit = _ := List.dropWhile_append_of_pos hall
    simpa using h
  simp [isReal, magnitude_eq_unsigned hd, ht, hr, hne, isExponent]

/-! ### Writing -/

/-- The numeral of `n`, without sign and leading zeros. -/
def print (n : Nat) : List Char := Nat.toDigits 10 n

/-- The numeral of `n` with zeros in front to make at least `width` digits. -/
def padded (width n : Nat) : List Char :=
  List.replicate (width - (print n).length) '0' ++ print n

end StreamWarden.Text.Decimal
