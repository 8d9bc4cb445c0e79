import Mathlib.Tactic
import StreamWarden.Retry.Jitter

/-!
# How far a jitter spreads a delay

A jitter works in whole milliseconds, as many as 64 bits can count.  What comes of it never
exceeds the delay, and what can come of it at all are whole milliseconds in one unbroken row.  The
row need not begin where half of the delay ends: the milliseconds are rounded down before they
are halved and once more when they are, and a delay of less than one is taken for none, even by a
schedule without jitter.

* `apply_none_eq`, `apply_full_eq`, `apply_equal_eq`: what each jitter makes of a delay.
* `exists_apply_full_iff`, `exists_apply_equal_iff`: all that can come of a delay; `apply_le`.
* **`interval_of_jitter`**: which of the bounds hold, and of which delays exactly.
-/

namespace StreamWarden.Jitter

variable {delay : Nat}

/-! ### Random numbers -/

/-- Every number up to the greatest one can be picked, and no other. -/
lemma exists_pick_iff {most k : Nat} : (∃ draw, pick most draw = k) ↔ k ≤ most := by
  refine ⟨?_, fun h => ⟨k, Nat.mod_eq_of_lt (Nat.lt_succ_of_le h)⟩⟩
  rintro ⟨draw, rfl⟩
  exact pick_le most draw

/-! ### What a jitter makes of a delay -/

/-- The milliseconds that are counted are not more than there are. -/
lemma millis_millisOf_le (delay : Nat) : Time.millis (millisOf delay) ≤ delay := by
  simp only [millisOf, Time.wholeMillis, Time.millis]
  omega

/-- Without jitter a delay is kept, but for one of less than a millisecond. -/
lemma apply_none_eq (delay draw : Nat) :
    Jitter.none.apply delay draw = if delay < Time.millis 1 then 0 else delay := by
  split
  case isTrue h => exact apply_of_small (by simpa [Time.millis] using h) _ _
  case isFalse h => exact apply_none (by simpa [Time.millis] using h) _

lemma apply_full_eq (delay draw : Nat) :
    Jitter.full.apply delay draw = Time.millis (pick (millisOf delay) draw) := by
  by_cases h : millisOf delay = 0
  · simp [apply, h, pick, Time.millis, Nat.mod_one]
  · simp [apply, h]

/-- The least that comes of a delay when its upper half is drawn from. -/
def least (delay : Nat) : Nat := Time.millis (millisOf delay / 2)

lemma apply_equal_eq (delay draw : Nat) :
    Jitter.equal.apply delay draw = least delay + Time.millis (pick (millisOf delay / 2) draw) := by
  by_cases h : millisOf delay = 0
  · simp [apply, least, h, pick, Time.millis, Nat.mod_one]
  · simp [apply, least, h, Time.millis, Nat.add_mul]

/-! ### What can come of a delay -/

/-- All whole milliseconds up to the delay can come of a full spread, as far as 64 bits count
them. -/
lemma exists_apply_full_iff {r : Nat} :
    (∃ draw, Jitter.full.apply delay draw = r) ↔
      Time.millis 1 ∣ r ∧ r ≤ delay ∧ r ≤ Time.millis Time.maxCount := by
  simp only [apply_full_eq]
  constructor
  · rintro ⟨draw, rfl⟩
    have hk : pick (millisOf delay) draw ≤ millisOf delay := pick_le _ _
    simp only [millisOf, Time.wholeMillis, Time.millis] at hk ⊢
    omega
  · rintro ⟨⟨k, rfl⟩, hd, hm⟩
    have hk : k ≤ millisOf delay := by
      simp only [millisOf, Time.wholeMillis, Time.millis] at hd hm ⊢
      omega
    obtain ⟨draw, hp⟩ := exists_pick_iff.2 hk
    exact ⟨draw, by rw [hp, Time.millis, Time.millis, Nat.one_mul, Nat.mul_comm]⟩

/-- All whole milliseconds from the least delay up to twice the least one can come of a spread
over the upper half. -/
lemma exists_apply_equal_iff {r : Nat} :
    (∃ draw, Jitter.equal.apply delay draw = r) ↔
      Time.millis 1 ∣ r ∧ least delay ≤ r ∧ r ≤ 2 * least delay := by
  simp only [apply_equal_eq]
  constructor
  · rintro ⟨draw, rfl⟩
    have hk : pick (millisOf delay / 2) draw ≤ millisOf delay / 2 := pick_le _ _
    simp only [least, Time.millis]
    omega
  · rintro ⟨⟨k, rfl⟩, hl, hm⟩
    have hk : k - millisOf delay / 2 ≤ millisOf delay / 2 := by
      simp only [least, Time.millis] at hl hm
      omega
    obtain ⟨draw, hp⟩ := exists_pick_iff.2 hk
    refine ⟨draw, ?_⟩
    simp only [least, Time.millis] at hl ⊢
    rw [hp]
    omega

/-! ### The bounds -/

lemma two_mul_least_le (delay : Nat) : 2 * least delay ≤ delay := by
  have h := millis_millisOf_le delay
  simp only [least, Time.millis] at h ⊢
  omega

/-- The least delay is half of the delay, if that is a count of milliseconds. -/
lemma le_two_mul_least_iff :
    delay ≤ 2 * least delay ↔ Time.millis 2 ∣ delay ∧ delay ≤ Time.millis Time.maxCount := by
  simp only [least, millisOf, Time.wholeMillis, Time.millis, Time.maxCount]
  omega

/-- It is less than a millisecond below half of the delay. -/
lemma lt_two_mul_least_add (h : delay < Time.millis (Time.maxCount + 1)) :
    delay < 2 * least delay + Time.millis 2 := by
  simp only [least, millisOf, Time.wholeMillis, Time.millis, Time.maxCount] at h ⊢
  omega

/-- No jitter exceeds the delay. -/
lemma apply_le (j : Jitter) (delay draw : Nat) : j.apply delay draw ≤ delay := by
  cases j with
  | none =>
      rw [apply_none_eq]
      split <;> omega
  | full => exact (exists_apply_full_iff.1 ⟨draw, rfl⟩).2.1
  | equal => exact (exists_apply_equal_iff.1 ⟨draw, rfl⟩).2.2.trans (two_mul_least_le delay)

/-- **What a jitter makes of a delay**, whatever is drawn.  Without jitter the delay is kept
exactly if there is none or it is a millisecond at least.  A full spread gives the whole
milliseconds from zero to the delay, as far as 64 bits count them, and nothing else.  A spread
over the upper half never exceeds the delay; it never falls below half of it exactly if that half
is a number of whole milliseconds that 64 bits count; otherwise the least that is drawn lies less
than a millisecond below the half, as long as the milliseconds of the delay are counted. -/
theorem interval_of_jitter (delay : Nat) :
    ((∀ draw, Jitter.none.apply delay draw = delay) ↔ delay = 0 ∨ Time.millis 1 ≤ delay) ∧
    (∀ r, (∃ draw, Jitter.full.apply delay draw = r) ↔
      Time.millis 1 ∣ r ∧ r ≤ delay ∧ r ≤ Time.millis Time.maxCount) ∧
    (∀ draw, Jitter.equal.apply delay draw ≤ delay) ∧
    ((∀ draw, delay ≤ 2 * Jitter.equal.apply delay draw) ↔
      Time.millis 2 ∣ delay ∧ delay ≤ Time.millis Time.maxCount) ∧
    (∀ r, (∃ draw, Jitter.equal.apply delay draw = r) ↔
      Time.millis 1 ∣ r ∧ least delay ≤ r ∧ r ≤ 2 * least delay) ∧
    (delay < Time.millis (Time.maxCount + 1) →
      ∀ draw, delay < 2 * Jitter.equal.apply delay draw + Time.millis 2) := by
  have hl : ∀ draw, least delay ≤ Jitter.equal.apply delay draw ∧
      Jitter.equal.apply delay draw ≤ 2 * least delay :=
    fun draw => (exists_apply_equal_iff.1 ⟨draw, rfl⟩).2
  refine ⟨?_, fun r => exists_apply_full_iff, apply_le .equal delay, ?_,
    fun r => exists_apply_equal_iff, fun h draw => ?_⟩
  · simp only [apply_none_eq, forall_const]
    split <;> omega
  · rw [← le_two_mul_least_iff]
    constructor
    · intro h
      obtain ⟨draw, hd⟩ : ∃ draw, Jitter.equal.apply delay draw = least delay :=
        exists_apply_equal_iff.2
          ⟨Nat.mul_dvd_mul_right (Nat.one_dvd _) _, le_rfl, Nat.le_mul_of_pos_left _ two_pos⟩
      exact hd ▸ h draw
    · exact fun h draw => h.trans (Nat.mul_le_mul_left 2 (hl draw).1)
  · have h' := lt_two_mul_least_add h
    have := (hl draw).1
    omega

/-- Of three milliseconds, one can be left. -/
example : Jitter.equal.apply (Time.millis 3) 0 = Time.millis 1 := by decide

end StreamWarden.Jitter
