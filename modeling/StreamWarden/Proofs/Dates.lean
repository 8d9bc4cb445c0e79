import Mathlib.Tactic
import StreamWarden.Recording.FileName

/-!
# Dates and their texts

A date is worked out from a count of days by divisions, and a recording is named after the
text of a date and a time of day.  Neither step loses anything: the days are counted back
from the date, the date and the time can be read back from the text, and so two recordings
have the same name only if they start in the same second.

* `exists_place`: a day of four hundred years by its century, its leap cycle, its year and
  its day; `yearOfEra_place`: the year that the divisions find.
* `Date.toDays_ofDays`, `Stamp.toUnix_ofUnix`: what is counted back.
* `Stamp.text_injective`: what a text tells.
* **`Recording.fileName_injective`**: what a name tells.
-/

namespace StreamWarden

/-! ### Numerals -/

namespace Text.Decimal

/-- A numeral is read back, whatever zeros stand in front of it. -/
lemma value_padded (width n : Nat) : value (padded width n) = n := by
  have h : value (padded width n) = Nat.ofDigitChars 10 (padded width n) 0 := rfl
  rw [h, padded, Nat.ofDigitChars_append, Nat.ofDigitChars_replicate_zero, Nat.mul_zero]
  exact Nat.ofDigitChars_toDigits (by decide) (by decide)

lemma padded_injective (width : Nat) : Function.Injective (padded width) :=
  Function.LeftInverse.injective (value_padded width)

/-- A number that is small enough fills its places and no more. -/
lemma length_padded {width n : Nat} (hw : 0 < width) (hn : n < 10 ^ width) :
    (padded width n).length = width := by
  have h := (Nat.length_toDigits_le_iff (by decide) hw).2 hn
  rw [padded, List.length_append, List.length_replicate, print]
  omega

/-- A numeral is made of digits. -/
lemma isDigit_of_mem_padded {width n : Nat} {c : Char} (h : c ∈ padded width n) :
    c.isDigit = true := by
  rcases List.mem_append.1 h with h | h
  · rw [List.eq_of_mem_replicate h]
    rfl
  · exact Nat.isDigit_of_mem_toDigits (by decide) (by decide) h

end Text.Decimal

namespace Calendar

/-! ### Days -/

/-- **A day of four hundred years by its place**: of four centuries each has at most
twenty-five leap cycles, of each cycle every year has at least 365 days, and only the last
one can have another. -/
lemma exists_place {d : Nat} (hd : d < 146097) :
    ∃ c k j t, c < 4 ∧ k < 25 ∧ j < 4 ∧ t ≤ 365 ∧ (t = 365 → j = 3) ∧
      (k = 24 → j = 3 → t = 365 → c = 3) ∧ d = 36524 * c + 1461 * k + 365 * j + t := by
  obtain ⟨c, hc⟩ : ∃ c, c = min (d / 36524) 3 := ⟨_, rfl⟩
  obtain ⟨k, hk⟩ : ∃ k, k = (d - 36524 * c) / 1461 := ⟨_, rfl⟩
  obtain ⟨j, hj⟩ : ∃ j, j = min ((d - 36524 * c - 1461 * k) / 365) 3 := ⟨_, rfl⟩
  exact ⟨c, k, j, d - 36524 * c - 1461 * k - 365 * j, by omega, by omega, by omega, by omega,
    by omega, by omega, by omega⟩

/-- The year that the divisions find is the year of the place. -/
lemma yearOfEra_place {c k j t : Nat} (hc : c < 4) (hk : k < 25) (hj : j < 4) (ht : t ≤ 365)
    (hl : t = 365 → j = 3) (hm : k = 24 → j = 3 → t = 365 → c = 3) {d : Nat}
    (hd : d = 36524 * c + 1461 * k + 365 * j + t) :
    (d - d / 1460 + d / 36524 - d / 146096) / 365 = 100 * c + 4 * k + j := by
  -- the last day of all is the only one that the two later terms see
  by_cases he : d = 146096
  · subst he
    omega
  · have h₁ : d / 36524 = c := by omega
    have h₂ : d / 146096 = 0 := by omega
    have h₃ : d / 1460 = 25 * c + k + (24 * c + k + 365 * j + t) / 1460 := by omega
    rw [h₁, h₂, h₃]
    omega

/-- **The divisions find the year of a day**, and what is left is a day of that year.  A year
that has another day than its 365 comes before a multiple of four, and the last one of a century
has one only in the last century. -/
lemma exists_yearOfEra {d : Nat} (hd : d < 146097) : ∃ y t, y < 400 ∧ t ≤ 365 ∧
    (t = 365 → y % 4 = 3 ∧ (y % 100 = 99 → y = 399)) ∧
    (d - d / 1460 + d / 36524 - d / 146096) / 365 = y ∧ 365 * y + y / 4 - y / 100 + t = d := by
  obtain ⟨c, k, j, t, hc, hk, hj, ht, hl, hm, h⟩ := exists_place hd
  have h₁ : (100 * c + 4 * k + j) / 4 = 25 * c + k := by omega
  have h₂ : (100 * c + 4 * k + j) / 100 = c := by omega
  refine ⟨100 * c + 4 * k + j, t, by omega, ht, by omega,
    yearOfEra_place hc hk hj ht hl hm h, ?_⟩
  rw [h₁, h₂]
  omega

/-- The date of a day of a year, where both are counted from March. -/
def Date.ofMarch (year : Int) (dayOfYear : Nat) : Date :=
  let month := (5 * dayOfYear + 2) / 153
  { year := if month < 10 then year else year + 1
    month := if month < 10 then month + 3 else month - 9
    day := dayOfYear - daysBefore month + 1 }

section March

variable {year : Int} {t : Nat}

lemma toDays_ofMarch (ht : t ≤ 365) : (Date.ofMarch year t).toDays =
    Int.fdiv year 400 * eraDays + (365 * (Int.fmod year 400).toNat +
      (Int.fmod year 400).toNat / 4 - (Int.fmod year 400).toNat / 100 + t : Nat) -
        epochDays := by
  obtain ⟨m, hm⟩ : ∃ m, m = (5 * t + 2) / 153 := ⟨_, rfl⟩
  have hb : daysBefore m ≤ t := by rw [daysBefore]; omega
  have hd : daysBefore m + (t - daysBefore m + 1) - 1 = t := by omega
  rw [Nat.mul_comm 365]
  simp only [Date.ofMarch, ← hm, Date.toDays]
  by_cases h : m < 10
  · have h₂ : ¬m + 3 ≤ 2 := by omega
    simp only [h, if_true, h₂, if_false, Nat.add_sub_cancel, hd]
  · have h₂ : m - 9 ≤ 2 := by omega
    have h₃ : m - 9 + 9 = m := by omega
    simp only [h, if_false, h₂, if_true, h₃, Int.add_sub_cancel, hd]

/-- Months and days are counted from one, in at most two digits. -/
lemma bounds_ofMarch (ht : t ≤ 365) :
    (1 ≤ (Date.ofMarch year t).month ∧ (Date.ofMarch year t).month ≤ 12) ∧
      1 ≤ (Date.ofMarch year t).day ∧ (Date.ofMarch year t).day ≤ 31 := by
  simp only [Date.ofMarch, daysBefore]
  split <;> omega

end March

/-- A date by the place of its day. -/
lemma exists_ofMarch (n : Int) : ∃ (era : Int) (y t : Nat), y < 400 ∧ t ≤ 365 ∧
    (t = 365 → y % 4 = 3 ∧ (y % 100 = 99 → y = 399)) ∧
    Date.ofDays n = Date.ofMarch (era * 400 + y) t ∧
    n + epochDays = era * eraDays + (365 * y + y / 4 - y / 100 + t : Nat) := by
  obtain ⟨d, hd⟩ : ∃ d, d = (Int.fmod (n + epochDays) eraDays).toNat := ⟨_, rfl⟩
  have hp : (0 : Int) < eraDays := by decide
  have hm := Int.fmod_nonneg_of_pos (n + epochDays) hp
  have hlt := Int.fmod_lt_of_pos (n + epochDays) hp
  have hn : n + epochDays = Int.fdiv (n + epochDays) eraDays * eraDays + d := by
    rw [hd, Int.toNat_of_nonneg hm]
    exact (Int.fdiv_mul_add_fmod _ _).symm
  have hd' : d < 146097 := by
    rw [hd, Int.toNat_lt hm]
    exact hlt
  obtain ⟨y, t, hy, ht, hl, he, hs⟩ := exists_yearOfEra hd'
  have ht' : d - (365 * y + y / 4 - y / 100) = t := Nat.sub_eq_of_eq_add' hs.symm
  refine ⟨Int.fdiv (n + epochDays) eraDays, y, t, hy, ht, hl, ?_, by rw [hs]; exact hn⟩
  subst hd
  rw [← he] at ht' ⊢
  rw [← ht']
  rfl

/-- **The days are counted back from the date.** -/
theorem Date.toDays_ofDays (n : Int) : (Date.ofDays n).toDays = n := by
  obtain ⟨era, y, t, hy, ht, -, hd, hn⟩ := exists_ofMarch n
  have h₁ : Int.fdiv (era * 400 + y) 400 = era := by
    rw [Int.fdiv_eq_ediv_of_nonneg _ (by decide)]
    omega
  have h₂ : Int.fmod (era * 400 + y) 400 = y := by
    rw [Int.fmod_eq_emod_of_nonneg _ (by decide)]
    omega
  rw [hd, toDays_ofMarch ht, h₁, h₂, Int.toNat_natCast]
  omega

namespace Stamp

/-- **The seconds are counted back from the date and the time.** -/
theorem toUnix_ofUnix (n : Int) : (ofUnix n).toUnix = n := by
  have hp : (0 : Int) < daySeconds := by decide
  have hm := Int.fmod_nonneg_of_pos n hp
  have hn := Int.fdiv_mul_add_fmod n daySeconds
  have hr : (Int.fmod n daySeconds).toNat / 3600 * 3600 +
      (Int.fmod n daySeconds).toNat % 3600 / 60 * 60 + (Int.fmod n daySeconds).toNat % 60 =
        (Int.fmod n daySeconds).toNat := by omega
  simp only [toUnix, ofUnix, Date.toDays_ofDays, hr]
  rw [Int.toNat_of_nonneg hm]
  exact hn

/-- Every part of a date and a time but the year has at most two digits. -/
lemma lt_hundred (n : Int) : (ofUnix n).date.month < 10 ^ 2 ∧ (ofUnix n).date.day < 10 ^ 2 ∧
    (ofUnix n).hour < 10 ^ 2 ∧ (ofUnix n).minute < 10 ^ 2 ∧ (ofUnix n).second < 10 ^ 2 := by
  have hp : (0 : Int) < daySeconds := by decide
  have hlt := Int.fmod_lt_of_pos n hp
  obtain ⟨era, y, t, -, ht, -, hd, -⟩ := exists_ofMarch (Int.fdiv n daySeconds)
  have hb := @bounds_ofMarch (era * 400 + y) t ht
  rw [← hd] at hb
  have hs : daySeconds = 86400 := rfl
  simp only [ofUnix]
  omega

/-- Reads a year, which may have a sign. -/
def readYear : List Char → Int
  | '-' :: digits => -(Text.Decimal.value digits : Int)
  | '+' :: digits => Text.Decimal.value digits
  | digits => Text.Decimal.value digits

/-- A numeral has no sign. -/
lemma readYear_padded (width n : Nat) : readYear (Text.Decimal.padded width n) = n := by
  have h : ∀ c ∈ Text.Decimal.padded width n, c.isDigit = true :=
    fun c => Text.Decimal.isDigit_of_mem_padded
  unfold readYear
  split
  case h_1 he => exact absurd (h '-' (by simp [he])) (by decide)
  case h_2 he => exact absurd (h '+' (by simp [he])) (by decide)
  case h_3 => rw [Text.Decimal.value_padded]

/-- A year is read back from its text. -/
lemma readYear_yearText (year : Int) : readYear (yearText year) = year := by
  rw [yearText]
  split
  · rw [readYear, Text.Decimal.value_padded]
    omega
  · split
    · rw [readYear, Text.Decimal.value_padded]
      omega
    · rw [readYear_padded]
      omega

/-- Two texts end in the same two digits only if these are those of the same number. -/
lemma eq_of_append_padded {l l' : List Char} {a b : Nat} (ha : a < 10 ^ 2) (hb : b < 10 ^ 2)
    (h : l ++ Text.Decimal.padded 2 a = l' ++ Text.Decimal.padded 2 b) : l = l' ∧ a = b := by
  have hl : (Text.Decimal.padded 2 a).length = (Text.Decimal.padded 2 b).length := by
    rw [Text.Decimal.length_padded (by decide) ha, Text.Decimal.length_padded (by decide) hb]
  obtain ⟨h₁, h₂⟩ := List.append_inj' h hl
  exact ⟨h₁, Text.Decimal.padded_injective 2 h₂⟩

/-- **The second can be read back from the text of its date and time.** -/
theorem text_injective : Function.Injective fun n : Int => (ofUnix n).text := by
  intro m n h
  obtain ⟨m₁, m₂, m₃, m₄, m₅⟩ := lt_hundred m
  obtain ⟨n₁, n₂, n₃, n₄, n₅⟩ := lt_hundred n
  simp only [text] at h
  obtain ⟨h, hs⟩ := eq_of_append_padded m₅ n₅ h
  obtain ⟨h, hi⟩ := eq_of_append_padded m₄ n₄ h
  rw [List.append_cons, List.append_cons (yearText (ofUnix n).date.year ++ _ ++ _)] at h
  obtain ⟨h, hh⟩ := eq_of_append_padded m₃ n₃ h
  obtain ⟨h, hd⟩ := eq_of_append_padded m₂ n₂ (List.append_cancel_right h)
  obtain ⟨h, hm⟩ := eq_of_append_padded m₁ n₁ h
  have hy := Function.LeftInverse.injective readYear_yearText h
  have he : ofUnix m = ofUnix n := by
    rcases hx : ofUnix m with ⟨⟨y, mo, d⟩, ho, mi, s⟩
    rcases hz : ofUnix n with ⟨⟨y', mo', d'⟩, ho', mi', s'⟩
    rw [hx, hz] at hy hm hd hh hi hs
    cases hy; cases hm; cases hd; cases hh; cases hi; cases hs
    rfl
  rw [← toUnix_ofUnix m, he, toUnix_ofUnix]

end Stamp

end Calendar

/-- **Recordings that start in different seconds have different names.** -/
theorem Recording.fileName_injective : Function.Injective fileName := by
  intro m n h
  have ht : ("recording_".toList ++ (Calendar.Stamp.ofUnix m).text) ++ ".mp4".toList =
      ("recording_".toList ++ (Calendar.Stamp.ofUnix n).text) ++ ".mp4".toList := by
    simpa [fileName] using congrArg String.toList h
  exact Calendar.Stamp.text_injective (List.append_cancel_left (List.append_cancel_right ht))

end StreamWarden
