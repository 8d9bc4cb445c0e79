import Mathlib.Tactic
import StreamWarden.Numeric.Binary64

/-!
# What floating-point operations lose

Every operation on floating-point numbers rounds its exact result once.  Here the numbers are
read as rationals, without their signs, and rounding is described by what it does to a rational:
the result is a number of 53 digits, none is nearer, and what was a number of 53 digits is kept.
So the order is kept as well, and the error is bounded by the last digit.

* `Nearest`: the nearest natural number, the even one of two; `Nearest.mono`.
* `Rounds`, `Rounded`: a rational is rounded to 53 digits; **`Rounds.mono`**,
  `Rounded.eq_of_isShort`, `Rounded.abs_sub_le`, `Rounded.le_mul`.
* `Binary64.Near`: a number is what an exact result was rounded to; `near_ofNat`, `near_divNat`,
  `near_add`, `near_mul`: so is the result of every operation.
* `Binary64.above_iff`, `Binary64.nearest_toUnits`: the comparison and the way back to units.
-/

namespace StreamWarden.Numeric

/-! ### The nearest natural number -/

/-- A natural number is nearest to a rational, and the even one of two that are. -/
structure Nearest (x : ℚ) (m : ℕ) : Prop where
  near : |x - m| ≤ 1 / 2
  even : |x - m| = 1 / 2 → Even m

namespace Nearest

variable {x y : ℚ} {m n : ℕ}

/-- Rounding keeps the order. -/
lemma mono (hx : Nearest x m) (hy : Nearest y n) (h : x ≤ y) : m ≤ n := by
  by_contra hlt
  have hmn : (n : ℚ) + 1 ≤ m := by exact_mod_cast Nat.lt_of_not_le hlt
  have h₁ := (abs_le.1 hx.near).1
  have h₂ := (abs_le.1 hy.near).2
  -- Both lie half way between the two numbers, so that both numbers would be even.
  have hxm : x - m = -(1 / 2) := by linarith
  have hyn : y - n = 1 / 2 := by linarith
  have hm : (m : ℚ) = (n + 1 : ℕ) := by push_cast; linarith
  have he : Even m := hx.even (by rw [hxm]; norm_num)
  have ho : Even n := hy.even (by rw [hyn]; norm_num)
  rw [Nat.cast_inj.1 hm, Nat.even_add_one] at he
  exact he ho

/-- There is one nearest number. -/
lemma unique (h : Nearest x m) (h' : Nearest x n) : m = n :=
  le_antisymm (h.mono h' le_rfl) (h'.mono h le_rfl)

/-- A natural number is nearest to itself. -/
lemma natCast (n : ℕ) : Nearest (n : ℚ) n := by
  constructor <;> rw [sub_self, abs_zero] <;> norm_num

/-- A number that is nearer than one half is the nearest. -/
lemma of_abs_lt (h : |x - m| < 1 / 2) : Nearest x m := ⟨h.le, fun he => absurd he h.ne⟩

end Nearest

/-- A division to the nearest finds the nearest number. -/
lemma nearest_roundDiv {num den : ℕ} (hd : 0 < den) :
    Nearest ((num : ℚ) / den) (roundDiv num den) := by
  have hd' : (0 : ℚ) < den := Nat.cast_pos.2 hd
  have hn : (num : ℚ) = den * (num / den : ℕ) + (num % den : ℕ) := by
    exact_mod_cast (Nat.div_add_mod num den).symm
  have hx : (num : ℚ) / den = (num / den : ℕ) + ((num % den : ℕ) : ℚ) / den := by
    rw [hn]
    field_simp
  have hr : ((num % den : ℕ) : ℚ) / den < 1 :=
    (div_lt_one hd').2 (Nat.cast_lt.2 (Nat.mod_lt _ hd))
  have hr₀ : (0 : ℚ) ≤ ((num % den : ℕ) : ℚ) / den := by positivity
  have hhalf : ((num % den : ℕ) : ℚ) / den = 1 / 2 ↔ 2 * (num % den) = den := by
    rw [div_eq_div_iff hd'.ne' two_ne_zero, one_mul, mul_comm]
    exact_mod_cast Iff.rfl
  have hlt : ((num % den : ℕ) : ℚ) / den < 1 / 2 ↔ 2 * (num % den) < den := by
    rw [div_lt_div_iff₀ hd' two_pos, one_mul, mul_comm]
    exact_mod_cast Iff.rfl
  rw [hx, roundDiv]
  generalize ((num % den : ℕ) : ℚ) / den = r at hr hr₀ hhalf hlt
  split
  case isTrue h =>
    have hle : r ≤ 1 / 2 := h.elim (fun h => (hlt.2 h).le) fun h => (hhalf.2 h.1).le
    have ha : |((num / den : ℕ) : ℚ) + r - (num / den : ℕ)| = r := by
      rw [add_sub_cancel_left, abs_of_nonneg hr₀]
    refine ⟨ha.trans_le hle, fun he => Nat.even_iff.2 ?_⟩
    exact (h.resolve_left (hhalf.1 (ha.symm.trans he)).not_lt).2
  case isFalse h =>
    rw [not_or, not_and] at h
    have hle : 1 / 2 ≤ r := le_of_not_gt fun hl => h.1 (hlt.1 hl)
    have ha : |((num / den : ℕ) : ℚ) + r - (num / den + 1 : ℕ)| = 1 - r := by
      rw [Nat.cast_add_one, add_sub_add_left_eq_sub, abs_of_neg (sub_neg.2 hr), neg_sub]
    refine ⟨ha.trans_le (by linarith), fun he => Nat.even_add_one.2 fun hq => ?_⟩
    exact h.2 (hhalf.1 (by linarith)) (Nat.even_iff.1 hq)

/-! ### Rounding to 53 digits -/

/-- A rational is a number of at most 53 binary digits, none of them behind the last place. -/
def IsShort (x : ℚ) : Prop :=
  ∃ (j : ℕ) (f : ℤ), j < 2 ^ 53 ∧ Binary64.minExponent ≤ f ∧ x = j * 2 ^ f

/-- A rational is rounded to `m * 2 ^ e`, which has 53 digits unless the last place is met. -/
structure Rounds (x : ℚ) (m : ℕ) (e : ℤ) : Prop where
  nearest : Nearest (x / 2 ^ e) m
  lower : e = Binary64.minExponent ∨ 2 ^ (e + 52) ≤ x
  upper : x < 2 ^ (e + 53)
  least : Binary64.minExponent ≤ e

namespace Rounds

variable {x y : ℚ} {m n : ℕ} {e f k : ℤ}

lemma two_zpow_pos (e : ℤ) : (0 : ℚ) < 2 ^ e := zpow_pos two_pos e

lemma le_pow (h : Rounds x m e) : m ≤ 2 ^ 53 := by
  refine h.nearest.mono (Nearest.natCast _) ?_
  rw [div_le_iff₀ (two_zpow_pos e)]
  have hu := h.upper.le
  rw [zpow_add₀ two_ne_zero, mul_comm] at hu
  exact_mod_cast hu

lemma pow_le (h : Rounds x m e) (he : e ≠ Binary64.minExponent) : 2 ^ 52 ≤ m := by
  refine (Nearest.natCast _).mono h.nearest ?_
  rw [le_div_iff₀ (two_zpow_pos e)]
  have hl := h.lower.resolve_left he
  rw [zpow_add₀ two_ne_zero, mul_comm] at hl
  exact_mod_cast hl

/-- A number below a power of two is rounded at a place that this power tells. -/
lemma exponent_le (h : Rounds x m e) (hx : x < 2 ^ (k + 53)) (hk : Binary64.minExponent ≤ k) :
    e ≤ k := by
  rcases h.lower with he | hl
  · exact he.trans_le hk
  · have := (zpow_lt_zpow_iff_right₀ one_lt_two).1 (hl.trans_lt hx)
    omega

/-- **Rounding to 53 digits keeps the order.** -/
theorem mono (hx : Rounds x m e) (hy : Rounds y n f) (h : x ≤ y) :
    (m : ℚ) * 2 ^ e ≤ n * 2 ^ f := by
  rcases (hx.exponent_le (h.trans_lt hy.upper) hy.least).eq_or_lt with rfl | hlt
  · have hmn : m ≤ n := hx.nearest.mono hy.nearest (div_le_div_of_nonneg_right h (two_zpow_pos e).le)
    exact mul_le_mul_of_nonneg_right (Nat.cast_le.2 hmn) (two_zpow_pos e).le
  · calc (m : ℚ) * 2 ^ e
        ≤ 2 ^ 53 * 2 ^ e :=
          mul_le_mul_of_nonneg_right (by exact_mod_cast hx.le_pow) (two_zpow_pos e).le
      _ = 2 ^ (e + 53) := by rw [zpow_add₀ two_ne_zero, mul_comm]; rfl
      _ ≤ 2 ^ (f + 52) := zpow_le_zpow_right₀ one_le_two (by omega)
      _ = 2 ^ 52 * 2 ^ f := by rw [zpow_add₀ two_ne_zero, mul_comm]; rfl
      _ ≤ n * 2 ^ f := by
          have hn : 2 ^ 52 ≤ n := hy.pow_le (hx.least.trans_lt hlt).ne'
          exact mul_le_mul_of_nonneg_right (by exact_mod_cast hn) (two_zpow_pos f).le

/-- The error is half of the last digit at most. -/
lemma abs_sub_le (h : Rounds x m e) : |x - m * 2 ^ e| ≤ 2 ^ e / 2 := by
  have hp := two_zpow_pos e
  have hx : x - m * 2 ^ e = (x / 2 ^ e - m) * 2 ^ e := by field_simp
  rw [hx, abs_mul, abs_of_pos hp]
  calc |x / 2 ^ e - m| * 2 ^ e ≤ 1 / 2 * 2 ^ e := mul_le_mul_of_nonneg_right h.nearest.near hp.le
    _ = 2 ^ e / 2 := by ring

end Rounds

/-- A rational is rounded to this one, which has at most 53 digits. -/
def Rounded (x v : ℚ) : Prop := ∃ m e, Rounds x m e ∧ v = m * 2 ^ e

namespace Rounded

open Rounds (two_zpow_pos)

variable {x y v w : ℚ} {k : ℤ}

lemma mono (hx : Rounded x v) (hy : Rounded y w) (h : x ≤ y) : v ≤ w := by
  obtain ⟨m, e, hm, rfl⟩ := hx
  obtain ⟨n, f, hn, rfl⟩ := hy
  exact hm.mono hn h

/-- What comes of rounding has 53 digits. -/
lemma isShort (h : Rounded x v) : IsShort v := by
  obtain ⟨m, e, hr, rfl⟩ := h
  rcases hr.le_pow.eq_or_lt with rfl | hm
  · refine ⟨2 ^ 52, e + 1, by norm_num, by have := hr.least; omega, ?_⟩
    rw [zpow_add₀ two_ne_zero]
    push_cast
    ring
  · exact ⟨m, e, hm, hr.least, rfl⟩

/-- What has 53 digits is kept. -/
lemma eq_of_isShort (h : Rounded x v) (hx : IsShort x) : v = x := by
  obtain ⟨m, e, hr, rfl⟩ := h
  obtain ⟨j, f, hj, hf, rfl⟩ := hx
  have hjf : (j : ℚ) * 2 ^ f < 2 ^ (f + 53) := by
    rw [zpow_add₀ two_ne_zero, mul_comm]
    exact mul_lt_mul_of_pos_left (by exact_mod_cast hj) (two_zpow_pos f)
  obtain ⟨d, rfl⟩ := Int.le.dest (hr.exponent_le hjf hf)
  have hq : (j : ℚ) * 2 ^ (e + d) / 2 ^ e = (j * 2 ^ d : ℕ) := by
    rw [zpow_add₀ two_ne_zero, zpow_natCast]
    push_cast
    field_simp
  have hm := hr.nearest
  rw [hq] at hm
  rw [hm.unique (Nearest.natCast _), zpow_add₀ two_ne_zero, zpow_natCast]
  push_cast
  ring

/-- Below a power of two the error is bounded by it. -/
lemma abs_sub_le (h : Rounded x v) (hx : x < 2 ^ (k + 53)) (hk : Binary64.minExponent ≤ k) :
    |x - v| ≤ 2 ^ k / 2 := by
  obtain ⟨m, e, hr, rfl⟩ := h
  refine hr.abs_sub_le.trans (div_le_div_of_nonneg_right ?_ two_pos.le)
  exact zpow_le_zpow_right₀ one_le_two (hr.exponent_le hx hk)

/-- A rational is exceeded by a small part of it at most, but for what has no place. -/
lemma le_mul (h : Rounded x v) (hx : 0 ≤ x) : v ≤ x * (1 + 1 / 2 ^ 53) + 1 / 2 ^ 100 := by
  obtain ⟨m, e, hr, rfl⟩ := h
  have ha := (abs_le.1 hr.abs_sub_le).1
  rcases hr.lower with rfl | hl
  · have hp : (2 : ℚ) ^ Binary64.minExponent ≤ 2 ^ (-100 : ℤ) :=
      zpow_le_zpow_right₀ one_le_two (by decide)
    norm_num at hp
    linarith
  · have hp : (2 : ℚ) ^ (52 : ℤ) = 2 ^ 52 := by norm_cast
    rw [zpow_add₀ two_ne_zero, hp] at hl
    linarith

lemma zero : Rounded 0 0 := by
  refine ⟨0, Binary64.minExponent, ⟨?_, .inl rfl, two_zpow_pos _, le_rfl⟩, by simp⟩
  rw [zero_div]
  exact_mod_cast Nearest.natCast 0

end Rounded

/-! ### The operations -/

namespace Binary64

/-- A finite number as a rational, without its sign. -/
def magnitude : Binary64 → ℚ
  | .finite _ m e => m * 2 ^ e
  | _ => 0

lemma scale_pos (n : ℕ) (e : ℤ) : 0 < (scale n e).2 := by
  rw [scale]
  split
  · exact Nat.pow_pos two_pos
  · exact one_pos

lemma scale_div (n : ℕ) (e : ℤ) : ((scale n e).1 : ℚ) / (scale n e).2 = n * 2 ^ e := by
  rw [scale]
  split
  case isTrue h =>
    obtain ⟨k, rfl⟩ : ∃ k : ℕ, e = -k := ⟨(-e).toNat, by omega⟩
    simp [div_eq_mul_inv]
  case isFalse h =>
    obtain ⟨k, rfl⟩ := Int.eq_ofNat_of_zero_le (not_lt.1 h)
    simp

lemma scale_div_mul (n : ℕ) (e : ℤ) (den : ℕ) :
    ((scale n e).1 : ℚ) / ((scale n e).2 * den : ℕ) = n / den * 2 ^ e := by
  rw [Nat.cast_mul, ← div_div, scale_div]
  ring

/-- The last place of a quotient is where its 53 digits end, or the last place of all. -/
lemma bounds_lastExponent {num den : ℕ} (hn : 0 < num) (hd : 0 < den) :
    let e := lastExponent num den
    minExponent ≤ e ∧ (num : ℚ) / den < 2 ^ (e + 53) ∧
      (e = minExponent ∨ 2 ^ (e + 52) ≤ (num : ℚ) / den) := by
  have hd' : (0 : ℚ) < den := Nat.cast_pos.2 hd
  -- The logarithms tell the place, but for one digit.
  have hnl : (2 : ℚ) ^ (num.log2 : ℤ) ≤ num := by exact_mod_cast Nat.log2_self_le hn.ne'
  have hnu : (num : ℚ) < 2 ^ (num.log2 + 1 : ℤ) := by exact_mod_cast Nat.lt_log2_self
  have hdl : (2 : ℚ) ^ (den.log2 : ℤ) ≤ den := by exact_mod_cast Nat.log2_self_le hd.ne'
  have hdu : (den : ℚ) < 2 ^ (den.log2 + 1 : ℤ) := by exact_mod_cast Nat.lt_log2_self
  have hlow : (2 : ℚ) ^ ((num.log2 : ℤ) - den.log2 - 1) ≤ num / den := by
    rw [le_div_iff₀ hd']
    refine le_trans ?_ hnl
    refine (mul_le_mul_of_nonneg_left hdu.le (Rounds.two_zpow_pos _).le).trans_eq ?_
    rw [← zpow_add₀ two_ne_zero]
    congr 1
    omega
  have hupp : (num : ℚ) / den < 2 ^ ((num.log2 : ℤ) - den.log2 + 1) := by
    rw [div_lt_iff₀ hd']
    refine hnu.trans_le ?_
    refine le_trans (le_of_eq ?_) (mul_le_mul_of_nonneg_left hdl (Rounds.two_zpow_pos _).le)
    rw [← zpow_add₀ two_ne_zero]
    congr 1
    omega
  intro e
  set guess : ℤ := (num.log2 : ℤ) - den.log2 - 52 with hg
  have htest : (scale num (-guess)).1 / ((scale num (-guess)).2 * den) < Nat.pow 2 52 ↔
      (num : ℚ) / den < 2 ^ (guess + 52) := by
    have hp : 0 < (scale num (-guess)).2 * den := Nat.mul_pos (scale_pos _ _) hd
    have hp' : (0 : ℚ) < ((scale num (-guess)).2 * den : ℕ) := Nat.cast_pos.2 hp
    rw [Nat.div_lt_iff_lt_mul hp, ← @Nat.cast_lt ℚ, Nat.cast_mul (Nat.pow 2 52),
      ← div_lt_iff₀ hp', scale_div_mul, zpow_neg, ← div_eq_mul_inv,
      div_lt_iff₀ (Rounds.two_zpow_pos _), zpow_add₀ two_ne_zero, mul_comm (2 ^ guess)]
    norm_num
  have he : e = max (if (num : ℚ) / den < 2 ^ (guess + 52) then guess - 1 else guess)
      minExponent := by
    simp only [e, lastExponent, ← hg, htest]
  refine ⟨he ▸ le_max_right _ _, ?_, ?_⟩
  · split at he
    case isTrue h =>
      refine h.trans_le (zpow_le_zpow_right₀ one_le_two ?_)
      omega
    case isFalse h =>
      refine hupp.trans_le (zpow_le_zpow_right₀ one_le_two ?_)
      omega
  · refine or_iff_not_imp_left.2 fun hm => ?_
    split at he
    case isTrue h =>
      refine (zpow_le_zpow_right₀ one_le_two ?_).trans hlow
      omega
    case isFalse h =>
      refine (zpow_le_zpow_right₀ one_le_two ?_).trans (not_lt.1 h)
      omega

/-- A quotient is rounded to 53 digits, unless its last place is too far before the point. -/
lemma rounded_ofRatio (s : Bool) {num den : ℕ} (hn : 0 < num) (hd : 0 < den) :
    ofRatio s num den = .infinite s ∧ 2 ^ 100 ≤ (num : ℚ) / den ∨
      ∃ m e, ofRatio s num den = .finite s m e ∧ Rounded ((num : ℚ) / den) (m * 2 ^ e) := by
  obtain ⟨hl, hu, hlow⟩ := bounds_lastExponent hn hd
  set e := lastExponent num den with he
  set m := roundDiv (scale num (-e)).1 ((scale num (-e)).2 * den) with hm
  have hx : (num : ℚ) / den / 2 ^ e =
      ((scale num (-e)).1 : ℚ) / ((scale num (-e)).2 * den : ℕ) := by
    rw [scale_div_mul, zpow_neg, ← div_eq_mul_inv]
  have hr : Rounds ((num : ℚ) / den) m e := by
    refine ⟨?_, hlow, hu, hl⟩
    rw [hx]
    exact nearest_roundDiv (Nat.mul_pos (scale_pos _ _) hd)
  have hlarge : overflowExponent ≤ e + 1 → 2 ^ 100 ≤ (num : ℚ) / den := by
    refine fun ho => not_lt.1 fun hlt => ?_
    have hk : (num : ℚ) / den < 2 ^ ((47 : ℤ) + 53) := by exact_mod_cast hlt
    have := hr.exponent_le hk (by decide)
    rw [overflowExponent] at ho
    omega
  simp only [ofRatio, if_neg hn.ne', ← he, ← hm]
  by_cases hc : m = Nat.pow 2 53
  · by_cases ho : overflowExponent ≤ e + 1
    · exact .inl ⟨by simp only [if_pos hc, ge_iff_le, if_pos ho], hlarge ho⟩
    · refine .inr ⟨Nat.pow 2 52, e + 1, by simp only [if_pos hc, ge_iff_le, if_neg ho], m, e, hr, ?_⟩
      rw [hc, zpow_add₀ two_ne_zero]
      norm_num
      ring
  · by_cases ho : overflowExponent ≤ e
    · exact .inl ⟨by simp only [if_neg hc, ge_iff_le, if_pos ho], hlarge (by omega)⟩
    · exact .inr ⟨m, e, by simp only [if_neg hc, ge_iff_le, if_neg ho], m, e, hr, rfl⟩

/-- A number is what an exact result, with a sign, is rounded to. -/
def Near (s : Bool) (x : ℚ) (a : Binary64) : Prop :=
  ∃ num den : ℕ, 0 < den ∧ (num : ℚ) / den = x ∧ ofRatio s num den = a

namespace Near

variable {s : Bool} {x : ℚ} {a : Binary64}

lemma cases (h : Near s x a) : a = .infinite s ∧ 2 ^ 100 ≤ x ∨
    ∃ m e, a = .finite s m e ∧ Rounded x (m * 2 ^ e) := by
  obtain ⟨num, den, hd, rfl, rfl⟩ := h
  rcases Nat.eq_zero_or_pos num with rfl | hn
  · rw [Nat.cast_zero, zero_div]
    exact .inr ⟨0, 0, by rw [ofRatio, if_pos rfl], by simpa using Rounded.zero⟩
  · exact rounded_ofRatio s hn hd

/-- A result that is not too large is rounded to a finite number. -/
lemma exists_finite (h : Near s x a) (hx : x < 2 ^ 100) :
    ∃ m e, a = .finite s m e ∧ Rounded x (m * 2 ^ e) :=
  h.cases.resolve_left fun hi => not_le.2 hx hi.2

/-- The magnitude of a finite number is the rounded result. -/
lemma rounded (h : Near s x a) (ha : a.isFinite = true) : Rounded x a.magnitude := by
  rcases h.cases with ⟨rfl, -⟩ | ⟨m, e, rfl, hr⟩
  · cases ha
  · exact hr

end Near

section Operations

variable {a b : Binary64}

lemma exists_of_isFinite (ha : a.isFinite = true) : ∃ s m e, a = .finite s m e := by
  cases a with
  | finite s m e => exact ⟨s, m, e, rfl⟩
  | nan | infinite => cases ha

lemma near_ofNat (n : ℕ) : Near false n (ofNat n) := ⟨n, 1, one_pos, by simp, rfl⟩

lemma near_divNat (s : Bool) (m : ℕ) (e : ℤ) {n : ℕ} (hn : 0 < n) :
    Near s (m * 2 ^ e / n) ((finite s m e).divNat n) := by
  refine ⟨(scale m e).1, (scale m e).2 * n, Nat.mul_pos (scale_pos _ _) hn, ?_, rfl⟩
  rw [scale_div_mul]
  ring

lemma near_add (s t : Bool) (m n : ℕ) (e f : ℤ) :
    Near false (m * 2 ^ e + n * 2 ^ f) ((finite s m e).add (finite t n f)) := by
  refine ⟨(scale m e).1 * (scale n f).2 + (scale n f).1 * (scale m e).2,
    (scale m e).2 * (scale n f).2, Nat.mul_pos (scale_pos m e) (scale_pos n f), ?_, rfl⟩
  have hp : ((scale m e).2 : ℚ) ≠ 0 := Nat.cast_ne_zero.2 (scale_pos m e).ne'
  have hq : ((scale n f).2 : ℚ) ≠ 0 := Nat.cast_ne_zero.2 (scale_pos n f).ne'
  rw [← scale_div, ← scale_div, div_add_div _ _ hp hq]
  push_cast
  ring

lemma near_mul (s t : Bool) (m n : ℕ) (e f : ℤ) :
    Near (s != t) (m * 2 ^ e * (n * 2 ^ f)) ((finite s m e).mul (finite t n f)) := by
  refine ⟨(scale (m * n) (e + f)).1, _, scale_pos (m * n) (e + f), ?_, rfl⟩
  rw [scale_div, zpow_add₀ two_ne_zero]
  push_cast
  ring

/-- A product that is finite has been rounded. -/
lemma exists_near_mul (h : (a.mul b).isFinite = true) : ∃ s x, Near s x (a.mul b) := by
  cases a with
  | nan => cases b <;> cases h
  | infinite s =>
      cases b with
      | nan => cases h
      | infinite t => cases h
      | finite t m e =>
          simp only [mul] at h
          split at h <;> cases h
  | finite s m e =>
      cases b with
      | nan => cases h
      | infinite t =>
          simp only [mul] at h
          split at h <;> cases h
      | finite t n f => exact ⟨_, _, near_mul s t m n e f⟩

/-- Finite numbers are compared as rationals. -/
lemma above_iff (ha : a.isFinite = true) (hb : b.isFinite = true) :
    a.above b = true ↔ b.magnitude < a.magnitude := by
  obtain ⟨s, m, e, rfl⟩ := exists_of_isFinite ha
  obtain ⟨t, n, f, rfl⟩ := exists_of_isFinite hb
  have hp : (0 : ℚ) < (scale m e).2 := Nat.cast_pos.2 (scale_pos m e)
  have hq : (0 : ℚ) < (scale n f).2 := Nat.cast_pos.2 (scale_pos n f)
  rw [magnitude, magnitude, ← scale_div, ← scale_div, div_lt_div_iff₀ hq hp, above]
  simp only [decide_eq_true_eq]
  exact_mod_cast Iff.rfl

/-- The way back to units of a second is rounded to the nearest one. -/
lemma nearest_toUnits (ha : a.isFinite = true) (unit : ℕ) :
    Nearest (a.magnitude * unit) (a.toUnits unit) := by
  obtain ⟨s, m, e, rfl⟩ := exists_of_isFinite ha
  have h : Nearest _ (roundDiv (scale (m * unit) e).1 (scale (m * unit) e).2) :=
    nearest_roundDiv (scale_pos (m * unit) e)
  rw [scale_div, Nat.cast_mul, mul_right_comm] at h
  exact h

end Operations

end Binary64

end StreamWarden.Numeric
