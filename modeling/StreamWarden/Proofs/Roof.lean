import StreamWarden.Proofs.Limits
import StreamWarden.Proofs.Rounding
import StreamWarden.Proofs.Spread
import StreamWarden.Retry.Backoff

/-!
# The greatest wait of a schedule

A retry schedule never means to wait longer than its greatest wait.  It compares in
floating-point seconds, though, where the greatest wait has been rounded: a wait may come out
above the greatest one, by the few nanoseconds that were lost, and a greatest wait near the
longest span of all is taken for 2⁶⁴ seconds, which no span holds.

* `roundTrip`: a span in floating-point seconds, and back; `roundTrip_eq`: nothing is lost of a
  span of less than 2²³ seconds; `roundTrip_le`: and little of any other.
* `brink`: the seconds from which on a span is taken for 2⁶⁴ seconds (`two_pow_le_magnitude_iff`).
* `next?_eq_none_iff`, `le_of_next?`: when there is no wait, and how long a wait can be;
  `next?_fixed`: what comes of a fixed one.
* **`cap_of_schedules`**: which greatest waits are kept, and which always give a wait.
-/

namespace StreamWarden.Backoff

open Numeric (Binary64 IsShort Nearest Rounded)
open Numeric.Binary64 (Near)

/-- The whole seconds from which on a span is taken for 2⁶⁴ seconds, 1024 below these. -/
def brink : Nat := 18446744073709550592

/-- A span in floating-point seconds, and back in nanoseconds. -/
def roundTrip (span : Nat) : Nat := (inSeconds span).toUnits 1000000000

variable {c : Nat}

/-! ### Near 2⁶⁴ -/

section Brink

lemma isShort_natCast {n : ℕ} (h : n < 2 ^ 53) : IsShort n := ⟨n, 0, h, by decide, by simp⟩

lemma rounded_one : Rounded 1 1 := by
  refine ⟨2 ^ 52, -52, ⟨.of_abs_lt ?_, .inr ?_, ?_, by decide⟩, ?_⟩ <;> norm_num

lemma rounded_two_pow : Rounded (2 ^ 64) (2 ^ 64) := by
  refine ⟨2 ^ 52, 12, ⟨.of_abs_lt ?_, .inr ?_, ?_, by decide⟩, ?_⟩ <;> norm_num

lemma rounded_two_pow_add_one : Rounded (2 ^ 64 + 1) (2 ^ 64) := by
  refine ⟨2 ^ 52, 12, ⟨.of_abs_lt ?_, .inr ?_, ?_, by decide⟩, ?_⟩ <;> norm_num

/-- Half way to the number of 53 digits below, the even one is above. -/
lemma rounded_two_pow_sub : Rounded (2 ^ 64 - 1024) (2 ^ 64) := by
  refine ⟨2 ^ 53, 11, ⟨⟨?_, fun _ => by decide⟩, .inr ?_, ?_, by decide⟩, ?_⟩ <;>
    norm_num [abs_le]

lemma rounded_below : Rounded (2 ^ 64 - 1025) (2 ^ 64 - 2048) := by
  refine ⟨2 ^ 53 - 1, 11, ⟨.of_abs_lt ?_, .inr ?_, ?_, by decide⟩, ?_⟩ <;> norm_num [abs_lt]

lemma rounded_below_add_one : Rounded (2 ^ 64 - 2048 + 1) (2 ^ 64 - 2048) := by
  refine ⟨2 ^ 53 - 1, 11, ⟨.of_abs_lt ?_, .inr ?_, ?_, by decide⟩, ?_⟩ <;> norm_num [abs_lt]

/-- Between 2⁶³ and 2⁶⁴ a number of 53 digits is a multiple of 2048. -/
lemma le_of_isShort_of_lt {v : ℚ} (h : IsShort v) (hv : v < 2 ^ 64) : v ≤ 2 ^ 64 - 2048 := by
  obtain ⟨j, f, hj, -, rfl⟩ := h
  have hj' : (j : ℚ) < 2 ^ 53 := by exact_mod_cast hj
  rcases le_or_gt 11 f with hf | hf
  · obtain ⟨d, rfl⟩ := Int.le.dest hf
    have hk : (j : ℚ) * 2 ^ (11 + (d : ℤ)) = 2048 * (j * 2 ^ d : ℕ) := by
      rw [zpow_add₀ two_ne_zero, zpow_natCast]
      push_cast
      ring
    rw [hk] at hv ⊢
    have hlt : 2048 * (j * 2 ^ d) < 2 ^ 64 := by exact_mod_cast hv
    have hle : 2048 * (j * 2 ^ d) ≤ 2 ^ 64 - 2048 := by omega
    have hcast : ((2 ^ 64 - 2048 : ℕ) : ℚ) = 2 ^ 64 - 2048 := by norm_num
    rw [← hcast]
    exact_mod_cast hle
  · have hp : (2 : ℚ) ^ f ≤ 2 ^ (10 : ℤ) := zpow_le_zpow_right₀ one_le_two (by omega)
    calc (j : ℚ) * 2 ^ f ≤ 2 ^ 53 * 2 ^ (10 : ℤ) :=
          mul_le_mul hj'.le hp (zpow_pos two_pos f).le (by norm_num)
      _ ≤ 2 ^ 64 - 2048 := by norm_num

end Brink

/-! ### A span in floating-point seconds -/

lemma subsecond_lt (c : ℕ) : Time.subsecond c < 1000000000 := Nat.mod_lt _ (by decide)

lemma subsecond_div_lt (c : ℕ) : (Time.subsecond c : ℚ) / 1000000000 < 1 :=
  (div_lt_one (by norm_num)).2 (by exact_mod_cast subsecond_lt c)

lemma wholeSeconds_add_subsecond (c : ℕ) :
    (c : ℚ) = Time.wholeSeconds c * 1000000000 + Time.subsecond c := by
  exact_mod_cast (Time.seconds_wholeSeconds_add c).symm

/-- The whole seconds and the nanoseconds are rounded apart, and then their sum. -/
lemma exists_inSeconds (hc : c < Time.seconds secondsLimit) :
    ∃ a b, Rounded (Time.wholeSeconds c) a ∧ Rounded (Time.subsecond c / 1000000000) b ∧
      Rounded (a + b) (inSeconds c).magnitude ∧ ∃ m e, inSeconds c = .finite false m e := by
  have hs : Time.wholeSeconds c < 2 ^ 64 := by
    simp only [Time.wholeSeconds, Time.seconds, secondsLimit] at hc ⊢
    omega
  have hn : Time.subsecond c < 1000000000 := subsecond_lt c
  have hs' : (Time.wholeSeconds c : ℚ) < 2 ^ 64 := by exact_mod_cast hs
  obtain ⟨m, e, hx, ha⟩ := (Binary64.near_ofNat (Time.wholeSeconds c)).exists_finite
    (hs'.trans (by norm_num))
  obtain ⟨n, f, hy, hr⟩ := (Binary64.near_ofNat (Time.subsecond c)).exists_finite
    (lt_of_lt_of_le (Nat.cast_lt.2 hn) (by norm_num))
  have hz := hr.eq_of_isShort (isShort_natCast (hn.trans (by norm_num)))
  have hq := Binary64.near_divNat false n f (n := 1000000000) (by decide)
  rw [hz] at hq
  obtain ⟨k, g, hq, hb⟩ := hq.exists_finite ((subsecond_div_lt c).trans (by norm_num))
  have hab : (m : ℚ) * 2 ^ e + k * 2 ^ g < 2 ^ 100 := by
    have h₁ := ha.mono rounded_two_pow hs'.le
    have h₂ := hb.mono rounded_one (subsecond_div_lt c).le
    linarith
  obtain ⟨i, j, hi, hsum⟩ := (Binary64.near_add false false m k e g).exists_finite hab
  have he : inSeconds c = .finite false i j := by rw [inSeconds, hx, hy, hq, hi]
  exact ⟨_, _, ha, hb, he ▸ hsum, i, j, he⟩

section Magnitude

variable (hc : c < Time.seconds secondsLimit)

include hc

/-- No span is taken for more than 2⁶⁴ seconds. -/
lemma magnitude_le : (inSeconds c).magnitude ≤ 2 ^ 64 := by
  obtain ⟨a, b, ha, hb, hm, -⟩ := exists_inSeconds hc
  have hs : (Time.wholeSeconds c : ℚ) ≤ 2 ^ 64 := by
    have h : Time.wholeSeconds c ≤ 2 ^ 64 := by
      simp only [Time.wholeSeconds, Time.seconds, secondsLimit] at hc ⊢
      omega
    exact_mod_cast h
  have h₁ := ha.mono rounded_two_pow hs
  have h₂ := hb.mono rounded_one (subsecond_div_lt c).le
  exact hm.mono rounded_two_pow_add_one (by linarith)

/-- The spans from the brink on are those that are taken for 2⁶⁴ seconds. -/
lemma two_pow_le_magnitude_iff :
    2 ^ 64 ≤ (inSeconds c).magnitude ↔ brink ≤ Time.wholeSeconds c := by
  obtain ⟨a, b, ha, hb, hm, -⟩ := exists_inSeconds hc
  have hb₀ : 0 ≤ b := Rounded.zero.mono hb (by positivity)
  constructor
  · contrapose!
    intro hlt
    have hs : (Time.wholeSeconds c : ℚ) ≤ 2 ^ 64 - 1025 := by
      have h : Time.wholeSeconds c + 1025 ≤ 2 ^ 64 := by
        rw [brink] at hlt
        omega
      have h' : ((Time.wholeSeconds c + 1025 : ℕ) : ℚ) ≤ (2 ^ 64 : ℕ) := Nat.cast_le.2 h
      push_cast at h'
      linarith
    have h₁ := ha.mono rounded_below hs
    have h₂ := hb.mono rounded_one (subsecond_div_lt c).le
    refine (hm.mono rounded_below_add_one (by linarith)).trans_lt ?_
    norm_num
  · intro hle
    have hs : (2 : ℚ) ^ 64 - 1024 ≤ Time.wholeSeconds c := by
      have h : 2 ^ 64 ≤ Time.wholeSeconds c + 1024 := by
        rw [brink] at hle
        omega
      have h' : ((2 ^ 64 : ℕ) : ℚ) ≤ (Time.wholeSeconds c + 1024 : ℕ) := Nat.cast_le.2 h
      push_cast at h'
      linarith
    have h₁ := rounded_two_pow_sub.mono ha hs
    exact rounded_two_pow.mono hm (by linarith)

/-- The way there and back ends at the nanosecond that is nearest. -/
lemma nearest_roundTrip : Nearest ((inSeconds c).magnitude * 1000000000) (roundTrip c) := by
  obtain ⟨-, -, -, -, -, m, e, he⟩ := exists_inSeconds hc
  have h := Binary64.nearest_toUnits (a := inSeconds c) (by rw [he]; rfl) 1000000000
  exact_mod_cast h

/-- A span is exceeded by a 2⁵²th part of it and a nanosecond at most. -/
lemma roundTrip_le : roundTrip c ≤ c + c / 2 ^ 52 + 1 := by
  obtain ⟨a, b, ha, hb, hm, -⟩ := exists_inSeconds hc
  have hsum := wholeSeconds_add_subsecond c
  have hb₀ : 0 ≤ b := Rounded.zero.mono hb (by positivity)
  have ha₀ : 0 ≤ a := Rounded.zero.mono ha (by positivity)
  have h₁ := ha.le_mul (by positivity)
  have h₂ := hb.le_mul (by positivity)
  have h₃ := hm.le_mul (by linarith)
  have h₄ := (abs_le.1 (nearest_roundTrip hc).near).1
  have hlim : (c : ℚ) ≤ 2 ^ 94 := by
    have h : c ≤ 2 ^ 94 := hc.le.trans (by decide)
    exact_mod_cast h
  have hdiv : (c : ℚ) < (c / 2 ^ 52 : ℕ) * 2 ^ 52 + 2 ^ 52 := by
    have h : c < c / 2 ^ 52 * 2 ^ 52 + 2 ^ 52 := by omega
    exact_mod_cast h
  have hlt : (roundTrip c : ℚ) < (c + c / 2 ^ 52 + 2 : ℕ) := by
    push_cast
    generalize ((c / 2 ^ 52 : ℕ) : ℚ) = q at hdiv ⊢
    linarith
  have := Nat.cast_lt.1 hlt
  omega

end Magnitude

/-- Nothing is lost of a span of less than 2²³ seconds. -/
lemma roundTrip_eq (hc : c < Time.seconds (2 ^ 23)) : roundTrip c = c := by
  have hl : c < Time.seconds secondsLimit := hc.trans (by decide)
  obtain ⟨a, b, ha, hb, hm, -⟩ := exists_inSeconds hl
  have hs : Time.wholeSeconds c + 1 ≤ 2 ^ 23 := by
    simp only [Time.wholeSeconds, Time.seconds] at hc ⊢
    omega
  have hs' : (Time.wholeSeconds c : ℚ) + 1 ≤ 2 ^ 23 := by exact_mod_cast hs
  have hn : (Time.subsecond c : ℚ) + 1 ≤ 1000000000 := by exact_mod_cast subsecond_lt c
  have hsum := wholeSeconds_add_subsecond c
  have hae := ha.eq_of_isShort (isShort_natCast (by omega))
  have hbe := abs_le.1 (hb.abs_sub_le (k := -53) (by norm_num; linarith) (by decide))
  norm_num at hbe
  have hme := abs_le.1 (hm.abs_sub_le (k := -30) (by norm_num; linarith) (by decide))
  norm_num at hme
  have hnear : Nearest ((inSeconds c).magnitude * 1000000000) c := by
    refine .of_abs_lt (abs_lt.2 ⟨?_, ?_⟩) <;> linarith
  exact (nearest_roundTrip hl).unique hnear

/-! ### The wait before jitter -/

section Base

variable {p : Backoff} {failures : Nat}

/-- What the seconds have grown to has been rounded. -/
lemma isShort_grown (hf : (p.grown failures).isFinite = true) :
    IsShort (p.grown failures).magnitude := by
  obtain ⟨s, x, h⟩ := Binary64.exists_near_mul hf
  exact (h.rounded hf).isShort

/-- Seconds of 53 digits that are less than 2⁶⁴ leave room for 2048 more. -/
lemma toUnits_le {a : Binary64} (ha : a.isFinite = true) (hs : IsShort a.magnitude)
    (hlt : a.magnitude < 2 ^ 64) : a.toUnits 1000000000 ≤ Time.seconds (secondsLimit - 2048) := by
  have hlow : Nearest ((2 ^ 64 - 2048) * (1000000000 : ℕ)) (Time.seconds (secondsLimit - 2048)) := by
    have h : ((Time.seconds (secondsLimit - 2048) : ℕ) : ℚ) =
        (2 ^ 64 - 2048) * (1000000000 : ℕ) := by
      norm_num [Time.seconds, secondsLimit]
    exact h ▸ Nearest.natCast _
  exact (Binary64.nearest_toUnits ha _).mono hlow
    (mul_le_mul_of_nonneg_right (le_of_isShort_of_lt hs hlt) (Nat.cast_nonneg _))

/-- Seconds are a span if they are less than 2⁶⁴. -/
lemma ofSeconds?_eq_none_iff {a : Binary64} (ha : a.isFinite = true) (hs : IsShort a.magnitude) :
    ofSeconds? a = none ↔ 2 ^ 64 ≤ a.magnitude := by
  have hiff : ofSeconds? a = none ↔ Time.seconds secondsLimit ≤ a.toUnits 1000000000 := by
    simp [ofSeconds?]
  rw [hiff]
  constructor
  · exact fun hle => not_lt.1 fun hlt => absurd (hle.trans (toUnits_le ha hs hlt)) (by decide)
  · have hlim : Nearest (2 ^ 64 * (1000000000 : ℕ)) (Time.seconds secondsLimit) := by
      have h : ((Time.seconds secondsLimit : ℕ) : ℚ) = 2 ^ 64 * (1000000000 : ℕ) := by
        norm_num [Time.seconds, secondsLimit]
      exact h ▸ Nearest.natCast _
    exact fun hle => hlim.mono (Binary64.nearest_toUnits ha _)
      (mul_le_mul_of_nonneg_right hle (Nat.cast_nonneg _))

lemma ofSeconds?_eq_some {a : Binary64} {d : Nat} (h : ofSeconds? a = some d) :
    a.toUnits 1000000000 = d := by
  simp only [ofSeconds?] at h
  split at h
  · exact Option.some.inj h
  · cases h

/-- The wait is the greatest one, or what the first one has grown to: seconds that are finite,
not negative, and not more than the greatest wait is taken for. -/
lemma base?_cases (failures : Nat) (hc : p.max < Time.seconds secondsLimit) :
    p.base? failures = some p.max ∨
      (p.grown failures).isFinite = true ∧ (p.grown failures).isNegative = false ∧
        (p.grown failures).magnitude ≤ (inSeconds p.max).magnitude ∧
        p.base? failures = ofSeconds? (p.grown failures) := by
  obtain ⟨-, -, -, -, -, m, e, he⟩ := exists_inSeconds hc
  rw [base?]
  split
  case isTrue h => exact .inl rfl
  case isFalse h =>
    simp only [Bool.or_eq_true, Bool.not_eq_true', not_or, Bool.not_eq_false,
      Bool.not_eq_true] at h
    refine .inr ⟨h.1.1, h.1.2, not_lt.1 fun hlt => ?_, rfl⟩
    rw [(Binary64.above_iff h.1.1 (by rw [he]; rfl)).2 hlt] at h
    exact Bool.noConfusion h.2

/-- There is no wait exactly if the first one has grown to 2⁶⁴ seconds, and the greatest one is
taken for as many. -/
lemma base?_eq_none_iff (hc : p.max < Time.seconds secondsLimit) :
    p.base? failures = none ↔ (p.grown failures).isNegative = false ∧
      (p.grown failures).magnitude = 2 ^ 64 ∧ brink ≤ Time.wholeSeconds p.max := by
  constructor
  · intro h
    rcases base?_cases failures hc with hb | ⟨hf, hs, hle, hb⟩
    · rw [hb] at h
      cases h
    · have hge := (ofSeconds?_eq_none_iff hf (isShort_grown hf)).1 (hb ▸ h)
      exact ⟨hs, le_antisymm (hle.trans (magnitude_le hc)) hge,
        (two_pow_le_magnitude_iff hc).1 (hge.trans hle)⟩
  · rintro ⟨hs, hm, hb⟩
    obtain ⟨-, -, -, -, -, m, e, he⟩ := exists_inSeconds hc
    have hf : (p.grown failures).isFinite = true := by
      cases hg : p.grown failures with
      | finite => rfl
      | nan | infinite =>
          rw [hg] at hm
          norm_num [Binary64.magnitude] at hm
    have ha : (p.grown failures).above (inSeconds p.max) = false := by
      rw [← Bool.not_eq_true, Binary64.above_iff hf (by rw [he]; rfl), not_lt, hm]
      exact (two_pow_le_magnitude_iff hc).2 hb
    simp only [base?, hf, hs, ha, Bool.not_true, Bool.or_self, Bool.false_eq_true, if_false]
    exact (ofSeconds?_eq_none_iff hf (isShort_grown hf)).2 hm.ge

/-- A wait is at most the greatest one, or what is made of that on the way there and back. -/
lemma le_of_base? (hc : p.max < Time.seconds secondsLimit) {d : Nat}
    (h : p.base? failures = some d) :
    d ≤ p.max ∨ Time.wholeSeconds p.max < brink ∧ d ≤ roundTrip p.max := by
  rcases base?_cases failures hc with hb | ⟨hf, -, hle, hb⟩
  · rw [hb] at h
    exact .inl (Option.some.inj h).ge
  · have hu := ofSeconds?_eq_some (hb ▸ h)
    rcases lt_or_ge (Time.wholeSeconds p.max) brink with hlt | hge
    · refine .inr ⟨hlt, hu ▸ (Binary64.nearest_toUnits hf _).mono (nearest_roundTrip hc) ?_⟩
      exact_mod_cast mul_le_mul_of_nonneg_right hle (by norm_num)
    · have hlt : (p.grown failures).magnitude < 2 ^ 64 := by
        rw [← not_le, ← ofSeconds?_eq_none_iff hf (isShort_grown hf), ← hb, h]
        exact nofun
      have hd := hu ▸ toUnits_le hf (isShort_grown hf) hlt
      have hp := Time.seconds_wholeSeconds_add p.max
      rw [brink] at hge
      simp only [Time.seconds, secondsLimit] at hd hp
      exact .inl (by omega)

/-! ### The wait after jitter -/

lemma next?_eq_none_iff (hc : p.max < Time.seconds secondsLimit) {draw : Nat} :
    p.next? failures draw = none ↔ (p.grown failures).isNegative = false ∧
      (p.grown failures).magnitude = 2 ^ 64 ∧ brink ≤ Time.wholeSeconds p.max :=
  Option.map_eq_none_iff.trans (base?_eq_none_iff hc)

/-- Jitter does not make a wait longer. -/
lemma le_of_next? (hc : p.max < Time.seconds secondsLimit) {draw d : Nat}
    (h : p.next? failures draw = some d) :
    d ≤ p.max ∨ Time.wholeSeconds p.max < brink ∧ d ≤ roundTrip p.max := by
  obtain ⟨b, hb, rfl⟩ := Option.map_eq_some_iff.1 h
  have hj := p.jitter.apply_le b draw
  exact (le_of_base? hc hb).imp hj.trans (And.imp_right hj.trans)

end Base

/-! ### A fixed wait -/

/-- A fixed wait does not grow: a product with one is rounded to what has been rounded before. -/
lemma exists_grown_fixed (hc : c < Time.seconds secondsLimit) (failures : Nat) :
    ∃ n f, (fixed c).grown failures = .finite false n f ∧
      ((fixed c).grown failures).magnitude = (inSeconds c).magnitude := by
  obtain ⟨a, b, -, -, hr, m, e, he⟩ := exists_inSeconds hc
  have hone : Binary64.one = .finite false (2 ^ 52) (-52) := by decide +kernel
  have hg : (fixed c).grown failures = (inSeconds c).mul Binary64.one :=
    congrArg _ (Binary64.powLoop_one _ _)
  have hn := Binary64.near_mul false false m (2 ^ 52) e (-52)
  have hx : (m : ℚ) * 2 ^ e * (((2 ^ 52 : ℕ) : ℚ) * 2 ^ (-52 : ℤ)) = (inSeconds c).magnitude := by
    rw [he, Binary64.magnitude]
    norm_num
  rw [hx, ← he, ← hone, ← hg] at hn
  obtain ⟨n, f, hf, -⟩ := hn.exists_finite ((magnitude_le hc).trans_lt (by norm_num))
  exact ⟨n, f, hf, (hn.rounded (by rw [hf]; rfl)).eq_of_isShort hr.isShort⟩

/-- So it is what is made of it on the way there and back. -/
lemma base?_fixed (hc : c < Time.seconds secondsLimit) (failures : Nat) :
    (fixed c).base? failures =
      if Time.wholeSeconds c < brink then some (roundTrip c) else none := by
  obtain ⟨n, f, hf, hmag⟩ := exists_grown_fixed hc failures
  obtain ⟨-, -, -, -, -, m, e, he⟩ := exists_inSeconds hc
  have hfin : ((fixed c).grown failures).isFinite = true := by rw [hf]; rfl
  have hneg : ((fixed c).grown failures).isNegative = false := by rw [hf]; rfl
  have habove : ((fixed c).grown failures).above (inSeconds c) = false := by
    rw [← Bool.not_eq_true, Binary64.above_iff hfin (by rw [he]; rfl), not_lt]
    exact hmag.le
  have hmax : (fixed c).max = c := rfl
  have hb : (fixed c).base? failures = ofSeconds? ((fixed c).grown failures) := by
    simp only [base?, hfin, hneg, hmax, habove, Bool.not_true, Bool.or_self, Bool.false_eq_true,
      if_false]
  have hiff := ofSeconds?_eq_none_iff hfin (isShort_grown hfin)
  rw [hmag, two_pow_le_magnitude_iff hc, ← hb] at hiff
  split
  case isTrue h =>
    obtain ⟨d, hd⟩ := Option.ne_none_iff_exists'.1 fun hb' => not_le.2 h (hiff.1 hb')
    have hu := ofSeconds?_eq_some (hb ▸ hd)
    have hnear := Binary64.nearest_toUnits hfin 1000000000
    have hback : Nearest ((inSeconds c).magnitude * (1000000000 : ℕ)) (roundTrip c) := by
      exact_mod_cast nearest_roundTrip hc
    rw [hu, hmag] at hnear
    rw [hd, hnear.unique hback]
  case isFalse h => exact hiff.2 (not_lt.1 h)

/-- If that is no millisecond, it is nothing. -/
lemma next?_fixed (hc : c < Time.seconds secondsLimit) (failures draw : Nat) :
    (fixed c).next? failures draw =
      if Time.wholeSeconds c < brink then
        some (if roundTrip c < Time.millis 1 then 0 else roundTrip c)
      else none := by
  rw [next?, base?_fixed hc, apply_ite (Option.map _), Option.map_some, Option.map_none]
  exact if_congr Iff.rfl (congrArg some (Jitter.apply_none_eq _ draw)) rfl

/-! ### What a greatest wait is good for -/

/-- **Which greatest waits are kept, and which always give a wait.**  With a greatest wait that is
a span, there is no wait exactly after so many failures that the first wait has grown to 2⁶⁴
seconds, if the greatest one is taken for as many.  Any other wait, whatever is drawn, exceeds the
greatest one by no more than what is made of that on the way to floating-point seconds and back.
So the schedules with this greatest wait give a wait after any number of failures exactly if it
lies below the brink, 1024 seconds before 2⁶⁴; and none of them exceeds it exactly if it does not
grow on the way there and back, or does not lie below the brink.  It never grows by more than a
2⁵²th part and a nanosecond, and not at all below 2²³ seconds. -/
theorem cap_of_schedules (c : Nat) (hc : c < Time.seconds secondsLimit) :
    (∀ p : Backoff, p.max = c → ∀ failures draw,
      (p.next? failures draw = none ↔ (p.grown failures).isNegative = false ∧
        (p.grown failures).magnitude = 2 ^ 64 ∧ brink ≤ Time.wholeSeconds c) ∧
      ∀ d, p.next? failures draw = some d →
        d ≤ c ∨ Time.wholeSeconds c < brink ∧ d ≤ roundTrip c) ∧
    ((∀ p : Backoff, p.max = c → ∀ failures draw, ∃ d, p.next? failures draw = some d) ↔
      Time.wholeSeconds c < brink) ∧
    ((∀ p : Backoff, p.max = c → ∀ failures draw d, p.next? failures draw = some d → d ≤ c) ↔
      roundTrip c ≤ c ∨ brink ≤ Time.wholeSeconds c) ∧
    roundTrip c ≤ c + c / 2 ^ 52 + 1 ∧ (c < Time.seconds (2 ^ 23) → roundTrip c = c) := by
  refine ⟨?_, ⟨?_, ?_⟩, ⟨?_, ?_⟩, roundTrip_le hc, roundTrip_eq⟩
  · rintro p rfl failures draw
    exact ⟨next?_eq_none_iff hc, fun d => le_of_next? hc⟩
  · intro h
    obtain ⟨d, hd⟩ := h (fixed c) rfl 0 0
    refine not_le.1 fun hle => ?_
    rw [next?_fixed hc, if_neg (not_lt.2 hle)] at hd
    cases hd
  · rintro hlt p rfl failures draw
    exact Option.ne_none_iff_exists'.1 fun hn => not_le.2 hlt ((next?_eq_none_iff hc).1 hn).2.2
  · intro h
    refine or_iff_not_imp_right.2 fun hlt => ?_
    have hd := next?_fixed hc 0 0
    rw [if_pos (not_le.1 hlt)] at hd
    have hle := h (fixed c) rfl 0 0 _ hd
    by_cases hs : c < Time.seconds (2 ^ 23)
    · exact (roundTrip_eq hs).le
    · split at hle
      case isTrue hlow =>
        simp only [Time.seconds, Time.millis] at hs hlow
        omega
      case isFalse => exact hle
  · rintro h p rfl failures draw d hd
    rcases le_of_next? hc hd with hle | ⟨hlt, hle⟩
    · exact hle
    · exact hle.trans (h.resolve_right (not_le.2 hlt))

/-- With a greatest wait of a minute there is always a wait, and it is not exceeded. -/
theorem cap_of_schedules_minute :
    Time.seconds 60 < Time.seconds secondsLimit ∧
      (∀ p : Backoff, p.max = Time.seconds 60 → ∀ failures draw,
        ∃ d, p.next? failures draw = some d ∧ d ≤ Time.seconds 60) := by
  have hc : Time.seconds 60 < Time.seconds secondsLimit := by decide
  obtain ⟨-, hwait, hcap, -, hsame⟩ := cap_of_schedules (Time.seconds 60) hc
  refine ⟨hc, fun p hp failures draw => ?_⟩
  obtain ⟨d, hd⟩ := hwait.2 (by decide) p hp failures draw
  exact ⟨d, hd, hcap.2 (.inl (hsame (by decide)).le) p hp failures draw d hd⟩

/-- The longest span of all is no wait. -/
example : (fixed (Time.seconds secondsLimit - 1)).next? 0 0 = none := by decide +kernel

/-- A nanosecond more than 2²³ seconds is exceeded. -/
example : (fixed (Time.seconds (2 ^ 23) + 1)).next? 0 0 = some (Time.seconds (2 ^ 23) + 2) := by
  decide +kernel

end StreamWarden.Backoff
