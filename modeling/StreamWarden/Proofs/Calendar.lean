import StreamWarden.Proofs.Dates

/-!
# The calendar, day by day

The divisions by which a date is worked out say little about what a calendar is.  This is said
here: every fourth year is a leap year but for three in four hundred, the months have their
lengths, a day is followed by the next of its month, the last of a month by the first of the next
one, and the last of a year by the first of the next.  The dates are those of this calendar, from
the first day of 1970 on and back from it; and as a day comes before the one that follows it,
dates and times come in the order of the seconds that they denote.

* `Date.IsValid`, `Date.next`: the dates of the calendar, and the one that follows.
* `Date.next_ofMarch`, `Date.next_ofMarch_last`: the day that follows within a year that begins in
  March, and after its last one.
* **`Date.ofDays_add_one`**, **`Stamp.ofUnix_add_one`**: the dates, and the seconds, come one
  after the other.
* **`Stamp.key_strictMono`**: they come in their order.
-/

namespace StreamWarden.Calendar

/-- A year with a day more than 365: every fourth one, but of four that end a century only the
last. -/
def IsLeap (year : Int) : Prop := year % 4 = 0 ∧ (year % 100 = 0 → year % 400 = 0)

instance (year : Int) : Decidable (IsLeap year) := inferInstanceAs (Decidable (_ ∧ _))

/-- The days of a month. -/
def monthLength (year : Int) (month : Nat) : Nat :=
  match month with
  | 2 => if IsLeap year then 29 else 28
  | 4 | 6 | 9 | 11 => 30
  | _ => 31

namespace Date

/-- There is such a date in the calendar. -/
structure IsValid (d : Date) : Prop where
  month : 1 ≤ d.month ∧ d.month ≤ 12
  day : 1 ≤ d.day ∧ d.day ≤ monthLength d.year d.month

/-- The date of the day that follows. -/
def next (d : Date) : Date :=
  if d.day < monthLength d.year d.month then { d with day := d.day + 1 }
  else if d.month < 12 then { d with month := d.month + 1, day := 1 }
  else { year := d.year + 1, month := 1, day := 1 }

/-! ### Years that begin in March -/

section March

variable {year : Int} {t : Nat}

/-- The days of a month, where months are counted from March and the leap day ends the year. -/
lemma monthLength_ofMarch {m : Nat} (hm : m < 12) :
    monthLength (if m < 10 then year else year + 1) (if m < 10 then m + 3 else m - 9) =
      if m = 11 then (if IsLeap (year + 1) then 29 else 28)
      else daysBefore (m + 1) - daysBefore m := by
  interval_cases m <;> rfl

/-- A day of a year by its month: it lies behind the first day of the month, and before that of
the next. -/
lemma exists_month (ht : t ≤ 365) : ∃ m < 12, (5 * t + 2) / 153 = m ∧ daysBefore m ≤ t ∧
    t < daysBefore (m + 1) := by
  refine ⟨_, by omega, rfl, ?_, ?_⟩ <;> rw [daysBefore] <;> omega

/-- The date of a day by its month. -/
lemma ofMarch_eq {m : Nat} (hm : (5 * t + 2) / 153 = m) :
    ofMarch year t =
      { year := if m < 10 then year else year + 1
        month := if m < 10 then m + 3 else m - 9
        day := t - daysBefore m + 1 } := by
  rw [ofMarch, hm]

/-- A year has another day than its 365 only before a leap year. -/
lemma isValid_ofMarch (ht : t ≤ 365) (hl : t = 365 → IsLeap (year + 1)) :
    (ofMarch year t).IsValid := by
  obtain ⟨m, hm, he, h₁, h₂⟩ := exists_month ht
  rw [ofMarch_eq he]
  refine ⟨⟨?_, ?_⟩, ⟨Nat.le_add_left _ _, ?_⟩⟩
  · dsimp only
    split <;> omega
  · dsimp only
    split <;> omega
  · dsimp only
    rw [monthLength_ofMarch hm]
    split
    · subst m
      simp only [daysBefore] at h₁ ⊢
      split
      · omega
      · have : t ≠ 365 := fun h => absurd (hl h) ‹_›
        omega
    · omega

/-- The day of a month that goes on. -/
lemma next_of_lt {d : Date} (h : d.day < monthLength d.year d.month) :
    d.next = { d with day := d.day + 1 } := if_pos h

/-- The last day of a month. -/
lemma next_of_eq {d : Date} (h : d.day = monthLength d.year d.month) :
    d.next = if d.month < 12 then { d with month := d.month + 1, day := 1 }
      else { year := d.year + 1, month := 1, day := 1 } := if_neg h.not_lt

/-- **Within a year that begins in March**, the days of a month follow one another, and after
these come those of the next month. -/
lemma next_ofMarch (ht : t < 365) (hl : t = 364 → IsLeap (year + 1)) :
    (ofMarch year t).next = ofMarch year (t + 1) := by
  obtain ⟨m, hm, he, h₁, h₂⟩ := exists_month ht.le
  have hlen := @monthLength_ofMarch year m hm
  by_cases hs : t + 1 < daysBefore (m + 1)
  · -- the month goes on
    have he' : (5 * (t + 1) + 2) / 153 = m := by simp only [daysBefore] at h₁ hs; omega
    rw [ofMarch_eq he, ofMarch_eq he', next_of_lt]
    · simp only [Date.mk.injEq, true_and]
      omega
    · dsimp only
      rw [hlen]
      split
      · subst m
        simp only [daysBefore] at h₁ ⊢
        split
        · omega
        · have : t ≠ 364 := fun h => absurd (hl h) ‹_›
          omega
      · omega
  · have he' : (5 * (t + 1) + 2) / 153 = m + 1 := by simp only [daysBefore] at h₂ hs; omega
    have hm' : m ≠ 11 := by rintro rfl; simp only [daysBefore] at hs; omega
    have hd : t + 1 - daysBefore (m + 1) + 1 = 1 := by omega
    rw [ofMarch_eq he, ofMarch_eq he', next_of_eq, hd]
    · dsimp only
      -- only December, the tenth month from March, ends a year of the calendar
      obtain h | rfl | rfl : m < 9 ∨ m = 9 ∨ m = 10 := by omega
      · have h₁ : m < 10 := by omega
        have h₂ : m + 1 < 10 := by omega
        have h₃ : m + 3 < 12 := by omega
        simp only [h₁, h₂, h₃, if_true, Nat.add_right_comm m 3 1]
      · rfl
      · rfl
    · dsimp only
      rw [hlen, if_neg hm']
      omega

/-- After its last day comes the first of the next one. -/
lemma next_ofMarch_last (ht : t = if IsLeap (year + 1) then 365 else 364) :
    (ofMarch year t).next = ofMarch (year + 1) 0 := by
  have he : (5 * t + 2) / 153 = 11 := by split at ht <;> omega
  rw [ofMarch_eq he, next_of_eq]
  · rfl
  · dsimp only
    split at ht <;> rename_i hl
    · subst ht
      exact (if_pos hl).symm
    · subst ht
      exact (if_neg hl).symm

end March

/-! ### All days -/

/-- The divisions find the place of a day, whatever way it was found before. -/
lemma ofDays_of_place {n era : Int} {y t : Nat} (hy : y < 400) (ht : t ≤ 365)
    (hl : t = 365 → y % 4 = 3 ∧ (y % 100 = 99 → y = 399))
    (hn : n + epochDays = era * eraDays + (365 * y + y / 4 - y / 100 + t : Nat)) :
    ofDays n = ofMarch (era * 400 + y) t := by
  have hd : 365 * y + y / 4 - y / 100 + t < 146097 := by omega
  obtain ⟨c, hc⟩ : ∃ c, c = y / 100 := ⟨_, rfl⟩
  obtain ⟨k, hk⟩ : ∃ k, k = y % 100 / 4 := ⟨_, rfl⟩
  obtain ⟨j, hj⟩ : ∃ j, j = y % 4 := ⟨_, rfl⟩
  have hp := yearOfEra_place (c := c) (k := k) (j := j) (t := t)
    (d := 365 * y + y / 4 - y / 100 + t) (by omega) (by omega) (by omega) ht (by omega)
    (by omega) (by omega)
  have hp' : 100 * c + 4 * k + j = y := by omega
  have hf : Int.fdiv (n + epochDays) eraDays = era := by
    rw [Int.fdiv_eq_ediv_of_nonneg _ (by decide), hn]
    simp only [eraDays]
    omega
  have hm : (Int.fmod (n + epochDays) eraDays).toNat = 365 * y + y / 4 - y / 100 + t := by
    rw [Int.fmod_eq_emod_of_nonneg _ (by decide), hn]
    simp only [eraDays]
    omega
  rw [hp'] at hp
  simp only [ofDays, hf, hm, hp, Nat.add_sub_cancel_left]
  rfl

lemma isLeap_iff {era : Int} {y : Nat} (hy : y < 400) :
    IsLeap (era * 400 + y + 1) ↔ y % 4 = 3 ∧ (y % 100 = 99 → y = 399) := by
  simp only [IsLeap]
  omega

/-- **The dates come one after the other.** -/
theorem ofDays_add_one (n : Int) : ofDays (n + 1) = (ofDays n).next := by
  obtain ⟨era, y, t, hy, ht, hl, hd, hn⟩ := exists_ofMarch n
  have hleap : t = 365 → IsLeap (era * 400 + y + 1) := fun h => (isLeap_iff hy).2 (hl h)
  rw [hd]
  by_cases hlast : t = if IsLeap (era * 400 + y + 1) then 365 else 364
  · rw [next_ofMarch_last hlast]
    have hdays : 365 * y + y / 4 - y / 100 + t + 1 =
        365 * (y + 1) + (y + 1) / 4 - (y + 1) / 100 + if y = 399 then 1 else 0 := by
      simp only [isLeap_iff hy] at hlast
      split at hlast <;> split <;> omega
    have hera : eraDays = 146097 := rfl
    by_cases hlt : y = 399
    · -- four hundred years are over
      rw [if_pos hlt] at hdays
      have h : ofDays (n + 1) = ofMarch ((era + 1) * 400 + (0 : Nat)) 0 :=
        ofDays_of_place (by decide) (by decide) nofun (by rw [hera] at hn ⊢; omega)
      rw [h]
      congr 1
      omega
    · rw [if_neg hlt] at hdays
      have h : ofDays (n + 1) = ofMarch (era * 400 + (y + 1 : Nat)) 0 :=
        ofDays_of_place (by omega) (by decide) nofun (by omega)
      rw [h]
      congr 1
      omega
  · have hlt : t < 365 := by
      refine lt_of_le_of_ne ht fun h => hlast ?_
      rw [if_pos (hleap h), h]
    have hl' : t = 364 → IsLeap (era * 400 + y + 1) := by
      intro h
      by_contra hn
      exact hlast (by rw [if_neg hn, h])
    rw [next_ofMarch hlt hl']
    refine ofDays_of_place hy hlt (fun h => (isLeap_iff hy).1 (hl' (by omega))) ?_
    omega

/-- There are such dates. -/
theorem isValid_ofDays (n : Int) : (ofDays n).IsValid := by
  obtain ⟨era, y, t, hy, ht, hl, hd, -⟩ := exists_ofMarch n
  rw [hd]
  exact isValid_ofMarch ht fun h => (isLeap_iff hy).2 (hl h)

/-! ### The order of the dates -/

/-- Dates are told apart first by the year, then by the month, and then by the day. -/
def key (d : Date) : ℤ ×ₗ ℕ ×ₗ ℕ := toLex (d.year, toLex (d.month, d.day))

/-- A date comes before the one that follows it. -/
lemma key_lt_next (d : Date) : d.key < d.next.key := by
  rw [next]
  split
  · simp [key, Prod.Lex.toLex_lt_toLex]
  · split <;> simp [key, Prod.Lex.toLex_lt_toLex]

end Date

namespace Stamp

/-- There is such a date, and such a time of day. -/
structure IsValid (s : Stamp) : Prop where
  date : s.date.IsValid
  hour : s.hour < 24
  minute : s.minute < 60
  second : s.second < 60

/-- The second that follows. -/
def next (s : Stamp) : Stamp :=
  if s.second < 59 then { s with second := s.second + 1 }
  else if s.minute < 59 then { s with minute := s.minute + 1, second := 0 }
  else if s.hour < 23 then { s with hour := s.hour + 1, minute := 0, second := 0 }
  else { date := s.date.next, hour := 0, minute := 0, second := 0 }

lemma isValid_ofUnix (n : Int) : (ofUnix n).IsValid := by
  have hlt := Int.fmod_lt_of_pos n (show (0 : Int) < daySeconds by decide)
  have hs : daySeconds = 86400 := rfl
  refine ⟨Date.isValid_ofDays _, ?_, ?_, ?_⟩ <;> simp only [ofUnix] <;> omega

/-- A date and time by the number of the day and the seconds of that day. -/
lemma ofUnix_eq {n d : Int} {r : Nat} (hn : n = d * 86400 + r) (hr : r < 86400) :
    ofUnix n = ⟨Date.ofDays d, r / 3600, r % 3600 / 60, r % 60⟩ := by
  have hd : Int.fdiv n daySeconds = d := by
    rw [Int.fdiv_eq_ediv_of_nonneg _ (by decide), hn, daySeconds]
    omega
  have hm : (Int.fmod n daySeconds).toNat = r := by
    rw [Int.fmod_eq_emod_of_nonneg _ (by decide), hn, daySeconds]
    omega
  simp only [ofUnix, hd, hm]

/-- **The seconds come one after the other.** -/
theorem ofUnix_add_one (n : Int) : ofUnix (n + 1) = (ofUnix n).next := by
  obtain ⟨d, r, hn, hr⟩ : ∃ (d : Int) (r : Nat), n = d * 86400 + r ∧ r < 86400 :=
    ⟨n / 86400, (n % 86400).toNat, by omega, by omega⟩
  rw [ofUnix_eq hn hr]
  simp only [next]
  by_cases hlt : r + 1 < 86400
  · rw [ofUnix_eq (d := d) (r := r + 1) (by omega) hlt]
    split
    · simp only [mk.injEq, true_and]
      omega
    split
    · simp only [mk.injEq, true_and]
      omega
    split
    · simp only [mk.injEq, true_and]
      omega
    · omega
  · -- the day is over
    obtain rfl : r = 86399 := by omega
    rw [ofUnix_eq (d := d + 1) (r := 0) (by omega) (by decide), Date.ofDays_add_one]
    rfl

/-- Dates and times are told apart first by the date, then by the hour, the minute and the
second. -/
def key (s : Stamp) : (ℤ ×ₗ ℕ ×ₗ ℕ) ×ₗ ℕ ×ₗ ℕ ×ₗ ℕ :=
  toLex (s.date.key, toLex (s.hour, toLex (s.minute, s.second)))

/-- A second comes before the one that follows it. -/
lemma key_lt_next (s : Stamp) : s.key < s.next.key := by
  rw [next]
  split
  · simp [key, Prod.Lex.toLex_lt_toLex]
  split
  · simp [key, Prod.Lex.toLex_lt_toLex]
  split
  · simp [key, Prod.Lex.toLex_lt_toLex]
  · exact Prod.Lex.toLex_lt_toLex.2 (.inl s.date.key_lt_next)

/-- **Dates and times come in the order of the seconds that they denote.** -/
theorem key_strictMono : StrictMono fun n => (ofUnix n).key :=
  strictMono_int_of_lt_succ fun n => by
    rw [ofUnix_add_one]
    exact key_lt_next _

end Stamp

end StreamWarden.Calendar
