import StreamWarden.Proofs.Calendar
import StreamWarden.Proofs.Discovery

/-!
# Names of recordings in their order

A directory that is sorted by the bytes of its names lists recordings by the second in which they
began.  For numerals of one length are sorted by their values, and a name is made of numerals of
fixed lengths, the larger unit before the smaller one; the names have such a length as long as the
years have four digits.

* `Text.lt_of_ofDigitChars_lt`: the order of numerals of one length.
* `Text.bytesOf_ofList`: the bytes of a text of characters that take one byte each;
  `Text.map_toUInt8_lt` says that these come in the order of the characters.
* `Calendar.Stamp.text_lt`: the order of the texts of dates and times.
* **`Recording.chronology_of_names`**: the order of the names, and what stands in one.
-/

namespace StreamWarden

namespace Text

/-! ### The order of numerals -/

variable {l l' r r' : List Char}

/-- What digits add to a number in front of them stays below one more of its units. -/
lemma bounds_ofDigitChars (hl : ∀ c ∈ l, c.isDigit = true) (a : Nat) :
    a * 10 ^ l.length ≤ Nat.ofDigitChars 10 l a ∧
      Nat.ofDigitChars 10 l a < (a + 1) * 10 ^ l.length := by
  induction l generalizing a with
  | nil => simp
  | cons c l ih =>
      obtain ⟨h₁, h₂⟩ := ih (fun d hd => hl d (List.mem_cons_of_mem c hd))
        (10 * a + (c.toNat - '0'.toNat))
      have hc := Char.isDigit_iff_toNat.1 (hl c List.mem_cons_self)
      have h9 : '9'.toNat = '0'.toNat + 9 := rfl
      rw [Nat.ofDigitChars_cons, List.length_cons, pow_succ]
      constructor
      · calc a * (10 ^ l.length * 10) = 10 * a * 10 ^ l.length := by ring
          _ ≤ (10 * a + (c.toNat - '0'.toNat)) * 10 ^ l.length :=
            Nat.mul_le_mul_right _ (Nat.le_add_right _ _)
          _ ≤ _ := h₁
      · calc _ < (10 * a + (c.toNat - '0'.toNat) + 1) * 10 ^ l.length := h₂
          _ ≤ (10 * a + 10) * 10 ^ l.length := Nat.mul_le_mul_right _ (by omega)
          _ = (a + 1) * (10 ^ l.length * 10) := by ring

/-- **Numerals of one length are in the order of their values.** -/
lemma lt_of_ofDigitChars_lt {a : Nat} (hlen : l.length = l'.length)
    (hl : ∀ c ∈ l, c.isDigit = true) (hl' : ∀ c ∈ l', c.isDigit = true)
    (h : Nat.ofDigitChars 10 l a < Nat.ofDigitChars 10 l' a) : l < l' := by
  induction l generalizing l' a with
  | nil =>
      obtain rfl := List.eq_nil_of_length_eq_zero hlen.symm
      exact absurd h (lt_irrefl _)
  | cons c l ih =>
      cases l' with
      | nil => cases hlen
      | cons c' l' =>
          have hlen' : l.length = l'.length := Nat.succ.inj hlen
          have hd := fun d hd => hl d (List.mem_cons_of_mem c hd)
          have hd' := fun d hd => hl' d (List.mem_cons_of_mem c' hd)
          have hc := Char.isDigit_iff_toNat.1 (hl c List.mem_cons_self)
          have hc' := Char.isDigit_iff_toNat.1 (hl' c' List.mem_cons_self)
          rw [Nat.ofDigitChars_cons, Nat.ofDigitChars_cons] at h
          rw [List.cons_lt_cons_iff]
          rcases lt_trichotomy c.toNat c'.toNat with hlt | heq | hgt
          · exact .inl (Char.lt_def.2 hlt)
          · obtain rfl : c = c' := Char.toNat_inj.1 heq
            exact .inr ⟨rfl, ih hlen' hd hd' h⟩
          · -- a larger digit in front cannot be made up for
            have h₁ := (bounds_ofDigitChars hd (10 * a + (c.toNat - '0'.toNat))).1
            have h₂ := (bounds_ofDigitChars hd' (10 * a + (c'.toNat - '0'.toNat))).2
            have h₃ : (10 * a + (c'.toNat - '0'.toNat) + 1) * 10 ^ l'.length ≤
                (10 * a + (c.toNat - '0'.toNat)) * 10 ^ l.length := by
              rw [hlen']
              exact Nat.mul_le_mul_right _ (by omega)
            omega

/-- What stands behind two texts of one length does not matter if these are different. -/
lemma append_lt_append_of_lt (hlen : l.length = l'.length) (h : l < l') (r r' : List Char) :
    l ++ r < l' ++ r' := by
  induction l generalizing l' with
  | nil =>
      obtain rfl := List.eq_nil_of_length_eq_zero hlen.symm
      exact absurd h (List.lt_irrefl _)
  | cons c l ih =>
      cases l' with
      | nil => cases hlen
      | cons c' l' =>
          rw [List.cons_append, List.cons_append, List.cons_lt_cons_iff]
          exact (List.cons_lt_cons_iff.1 h).imp_right (And.imp_right (ih (Nat.succ.inj hlen)))

/-- Texts that begin with numerals of a fixed length come in the order of these, and then in that
of what follows. -/
lemma padded_append_lt {width m n : Nat} (hw : 0 < width) (hm : m < 10 ^ width)
    (hn : n < 10 ^ width) (h : m < n ∨ m = n ∧ r < r') :
    Decimal.padded width m ++ r < Decimal.padded width n ++ r' := by
  rcases h with h | ⟨rfl, h⟩
  · have hlen : (Decimal.padded width m).length = (Decimal.padded width n).length := by
      rw [Decimal.length_padded hw hm, Decimal.length_padded hw hn]
    refine append_lt_append_of_lt hlen (lt_of_ofDigitChars_lt (a := 0) hlen
      (fun _ => Decimal.isDigit_of_mem_padded) (fun _ => Decimal.isDigit_of_mem_padded) ?_) r r'
    have hv : ∀ k, Nat.ofDigitChars 10 (Decimal.padded width k) 0 = k := Decimal.value_padded width
    rwa [hv, hv]
  · exact List.append_left_lt h

/-- A numeral is found at the front by its length. -/
lemma take_padded {width n : Nat} (hw : 0 < width) (hn : n < 10 ^ width) :
    (Decimal.padded width n ++ r).take width = Decimal.padded width n :=
  List.take_left' (Decimal.length_padded hw hn)

/-- What stands behind a numeral is found by the length of the numeral. -/
lemma drop_padded {width n : Nat} (hw : 0 < width) (hn : n < 10 ^ width) :
    (Decimal.padded width n ++ r).drop width = r :=
  List.drop_left' (Decimal.length_padded hw hn)

/-! ### The order of bytes -/

/-- **The bytes of a text are those of its characters**, if each of them takes one byte. -/
lemma bytesOf_ofList (hl : ∀ c ∈ l, c.toNat < 128) :
    bytesOf (String.ofList l) = l.map Char.toUInt8 := by
  have he : bytesOf (String.ofList l) = l.flatMap String.utf8EncodeChar := by
    rw [bytesOf, String.toUTF8, String.toByteArray_ofList, List.utf8Encode]
    simp
  rw [he]
  clear he
  induction l with
  | nil => rfl
  | cons c l ih =>
      have hc : c.utf8Size = 1 :=
        Char.utf8Size_eq_one_iff.2 (UInt32.le_iff_toNat_le.2
          (Nat.le_of_lt_succ (hl c List.mem_cons_self)))
      rw [List.flatMap_cons, ih fun d hd => hl d (List.mem_cons_of_mem c hd), List.map_cons,
        String.utf8EncodeChar_eq_singleton hc]
      rfl

/-- Bytes come in the order of their characters. -/
lemma map_toUInt8_lt (hl : ∀ c ∈ l, c.toNat < 128) (hl' : ∀ c ∈ l', c.toNat < 128) (h : l < l') :
    l.map Char.toUInt8 < l'.map Char.toUInt8 := by
  induction l generalizing l' with
  | nil =>
      cases l' with
      | nil => exact absurd h (List.lt_irrefl _)
      | cons c' l' => exact List.nil_lt_cons _ _
  | cons c l ih =>
      cases l' with
      | nil => exact absurd h (List.not_lt_nil _)
      | cons c' l' =>
          rw [List.map_cons, List.map_cons, List.cons_lt_cons_iff]
          refine (List.cons_lt_cons_iff.1 h).imp (fun hc => ?_) fun ⟨hc, ht⟩ =>
            ⟨congrArg Char.toUInt8 hc, ih (fun d hd => hl d (List.mem_cons_of_mem c hd))
              (fun d hd => hl' d (List.mem_cons_of_mem c' hd)) ht⟩
          have hc₁ := hl c List.mem_cons_self
          have hc₂ := hl' c' List.mem_cons_self
          have hc₃ : c.toNat < c'.toNat := Char.lt_def.1 hc
          have hb : ∀ d : Char, d.toUInt8.toNat = d.toNat % 256 := fun _ => rfl
          rw [UInt8.lt_iff_toNat_lt, hb, hb]
          omega

end Text

namespace Calendar.Stamp

open Text (take_padded drop_padded)
open Text.Decimal (padded value value_padded length_padded)

/-- The digits of a date. -/
def dateDigits (s : Stamp) : List Char :=
  padded 4 s.date.year.natAbs ++ (padded 2 s.date.month ++ padded 2 s.date.day)

/-- The digits of a time of day. -/
def timeDigits (s : Stamp) : List Char :=
  padded 2 s.hour ++ (padded 2 s.minute ++ padded 2 s.second)

/-- Reads a date of eight digits and a time of day of six. -/
def ofDigits (date time : List Char) : Stamp :=
  { date :=
      { year := value (date.take 4)
        month := value ((date.drop 4).take 2)
        day := value (date.drop 6) }
    hour := value (time.take 2)
    minute := value ((time.drop 2).take 2)
    second := value (time.drop 4) }

/-- Every part fits the places that it has, and the year needs no sign. -/
structure Fits (s : Stamp) : Prop where
  unsigned : 0 ≤ s.date.year
  year : s.date.year.natAbs < 10 ^ 4
  month : s.date.month < 10 ^ 2
  day : s.date.day < 10 ^ 2
  hour : s.hour < 10 ^ 2
  minute : s.minute < 10 ^ 2
  second : s.second < 10 ^ 2

lemma fits_ofUnix {n : Int} (h₀ : 0 ≤ (ofUnix n).date.year) (h : (ofUnix n).date.year ≤ 9999) :
    (ofUnix n).Fits := by
  obtain ⟨h₁, h₂, h₃, h₄, h₅⟩ := lt_hundred n
  exact ⟨h₀, by omega, h₁, h₂, h₃, h₄, h₅⟩

lemma isDigit_of_mem {s : Stamp} {c : Char} (h : c ∈ s.dateDigits ∨ c ∈ s.timeDigits) :
    c.isDigit = true := by
  simp only [dateDigits, timeDigits, List.mem_append] at h
  rcases h with (h | h | h) | h | h | h <;> exact Text.Decimal.isDigit_of_mem_padded h

/-- Who comes first does not have the later year. -/
lemma year_le_of_key_lt {s t : Stamp} (h : s.key < t.key) : s.date.year ≤ t.date.year := by
  simp only [key, Date.key, Prod.Lex.toLex_lt_toLex, EmbeddingLike.apply_eq_iff_eq,
    Prod.mk.injEq] at h
  omega

namespace Fits

variable {s t : Stamp}

/-- The text of a date and time has their digits on both sides of a line. -/
lemma text_eq (h : s.Fits) : s.text = s.dateDigits ++ '_' :: s.timeDigits := by
  have h₁ : ¬s.date.year < 0 := h.unsigned.not_gt
  have h₂ : ¬s.date.year > 9999 := by have := h.year; omega
  simp only [text, yearText, h₁, h₂, if_false, dateDigits, timeDigits, List.append_assoc,
    List.cons_append]

/-- Eight digits are those of a date. -/
lemma length_dateDigits (h : s.Fits) : s.dateDigits.length = 8 := by
  rw [dateDigits, List.length_append, List.length_append, length_padded (by decide) h.year,
    length_padded (by decide) h.month, length_padded (by decide) h.day]

/-- Six digits are those of a time of day. -/
lemma length_timeDigits (h : s.Fits) : s.timeDigits.length = 6 := by
  rw [timeDigits, List.length_append, List.length_append, length_padded (by decide) h.hour,
    length_padded (by decide) h.minute, length_padded (by decide) h.second]

/-- **A date and time is read back from its digits.** -/
lemma ofDigits_digits (h : s.Fits) : ofDigits s.dateDigits s.timeDigits = s := by
  have six : ∀ l : List Char, l.drop 6 = (l.drop 4).drop 2 := fun l => by rw [List.drop_drop]
  have four : ∀ l : List Char, l.drop 4 = (l.drop 2).drop 2 := fun l => by rw [List.drop_drop]
  have hd : ∀ n, value (padded 2 n) = n := value_padded 2
  have hy : (value (padded 4 s.date.year.natAbs) : Int) = s.date.year := by
    rw [value_padded]
    exact Int.natAbs_of_nonneg h.unsigned
  rw [ofDigits, dateDigits, timeDigits, six, four (padded 2 s.hour ++ _),
    take_padded (by decide) h.year, drop_padded (by decide) h.year,
    take_padded (by decide) h.month, drop_padded (by decide) h.month,
    take_padded (by decide) h.hour, drop_padded (by decide) h.hour,
    take_padded (by decide) h.minute, drop_padded (by decide) h.minute, hy, hd, hd, hd, hd, hd]

/-- **The texts come in the order of the dates and times**, whatever stands behind them. -/
lemma text_lt (hs : s.Fits) (ht : t.Fits) (h : s.key < t.key) (u : List Char) :
    s.text ++ u < t.text ++ u := by
  rw [hs.text_eq, ht.text_eq]
  simp only [dateDigits, timeDigits, List.append_assoc, List.cons_append]
  simp only [key, Date.key, Prod.Lex.toLex_lt_toLex, EmbeddingLike.apply_eq_iff_eq,
    Prod.mk.injEq] at h
  have hy := hs.unsigned
  have hy' := ht.unsigned
  have later := @Text.padded_append_lt
  have h₂ : 0 < 2 := by decide
  refine later (by decide) hs.year ht.year ?_
  rcases h with (h | ⟨hy, h⟩) | ⟨⟨hy, hmo, hd⟩, h⟩
  · exact .inl (by omega)
  · refine .inr ⟨by rw [hy], later h₂ hs.month ht.month ?_⟩
    rcases h with h | ⟨hmo, h⟩
    · exact .inl h
    · exact .inr ⟨hmo, later h₂ hs.day ht.day (.inl h)⟩
  · refine .inr ⟨by rw [hy], later h₂ hs.month ht.month (.inr ⟨hmo, later h₂ hs.day ht.day
      (.inr ⟨hd, List.cons_lt_cons_iff.2 (.inr ⟨rfl, later h₂ hs.hour ht.hour ?_⟩)⟩)⟩)⟩
    rcases h with h | ⟨hh, h⟩
    · exact .inl h
    · refine .inr ⟨hh, later h₂ hs.minute ht.minute ?_⟩
      rcases h with h | ⟨hmi, h⟩
      · exact .inl h
      · exact .inr ⟨hmi, later h₂ hs.second ht.second (.inl h)⟩

end Fits

end Calendar.Stamp

namespace Recording

open Calendar (Date Stamp)

/-- A name by its characters. -/
lemma fileName_eq (n : Int) : fileName n = String.ofList
    ("recording_".toList ++ ((Stamp.ofUnix n).text ++ ".mp4".toList)) := by
  rw [fileName, String.append_assoc, String.ofList_append, String.ofList_append,
    String.ofList_toList, String.ofList_toList]

/-- Each character of a name takes one byte. -/
lemma lt_of_mem_fileName {n : Int} (h : (Stamp.ofUnix n).Fits) :
    ∀ c ∈ "recording_".toList ++ ((Stamp.ofUnix n).text ++ ".mp4".toList), c.toNat < 128 := by
  intro c hc
  have digit : c.isDigit = true → c.toNat < 128 := fun hd =>
    (Char.isDigit_iff_toNat.1 hd).2.trans_lt (by decide)
  rw [h.text_eq] at hc
  simp only [List.mem_append, List.mem_cons] at hc
  rcases hc with hc | (hc | rfl | hc) | hc
  · exact (by simp : ∀ c ∈ "recording_".toList, c.toNat < 128) c hc
  · exact digit (Stamp.isDigit_of_mem (.inl hc))
  · decide
  · exact digit (Stamp.isDigit_of_mem (.inr hc))
  · exact (by simp : ∀ c ∈ ".mp4".toList, c.toNat < 128) c hc

/-- **Sorted by bytes, recordings stand in the order of the seconds in which they began**, as long
as years have four digits, and different seconds have different names.  A name has eight digits
and six, which are those of a date in the calendar and of a time of day, the ones at which that
second began; the calendar counts from the first day of 1970, second by second. -/
theorem chronology_of_names :
    (∀ s t : Int, 0 ≤ (Stamp.ofUnix s).date.year → (Stamp.ofUnix t).date.year ≤ 9999 → s < t →
        Text.bytesOf (fileName s) < Text.bytesOf (fileName t)) ∧
      Function.Injective fileName ∧
      (∀ n : Int, 0 ≤ (Stamp.ofUnix n).date.year → (Stamp.ofUnix n).date.year ≤ 9999 →
        ∃ date time : List Char,
          fileName n = String.ofList ("recording_".toList ++ date ++ '_' :: time ++ ".mp4".toList) ∧
            (date.length = 8 ∧ ∀ c ∈ date, c.isDigit = true) ∧
            (time.length = 6 ∧ ∀ c ∈ time, c.isDigit = true) ∧
            Stamp.ofDigits date time = Stamp.ofUnix n ∧ (Stamp.ofUnix n).IsValid) ∧
      Stamp.ofUnix 0 = ⟨⟨1970, 1, 1⟩, 0, 0, 0⟩ ∧
      (∀ n : Int, Stamp.ofUnix (n + 1) = (Stamp.ofUnix n).next) ∧
      ∀ n : Int, (Stamp.ofUnix n).toUnix = n := by
  refine ⟨fun s t hs ht h => ?_, fileName_injective, fun n h₀ h => ?_, by decide,
    Stamp.ofUnix_add_one, Stamp.toUnix_ofUnix⟩
  · have hk : (Stamp.ofUnix s).key < (Stamp.ofUnix t).key := Stamp.key_strictMono h
    have hle : (Stamp.ofUnix s).date.year ≤ (Stamp.ofUnix t).date.year := Stamp.year_le_of_key_lt hk
    have hs' := Stamp.fits_ofUnix hs (hle.trans ht)
    have ht' := Stamp.fits_ofUnix (hs.trans hle) ht
    rw [fileName_eq, fileName_eq, Text.bytesOf_ofList (lt_of_mem_fileName hs'),
      Text.bytesOf_ofList (lt_of_mem_fileName ht')]
    exact Text.map_toUInt8_lt (lt_of_mem_fileName hs') (lt_of_mem_fileName ht')
      (List.append_left_lt (hs'.text_lt ht' hk _))
  · have hf := Stamp.fits_ofUnix h₀ h
    refine ⟨_, _, ?_, ⟨hf.length_dateDigits, fun c hc => Stamp.isDigit_of_mem (.inl hc)⟩,
      ⟨hf.length_timeDigits, fun c hc => Stamp.isDigit_of_mem (.inr hc)⟩, hf.ofDigits_digits,
      Stamp.isValid_ofUnix n⟩
    rw [fileName_eq, hf.text_eq]
    simp only [List.append_assoc, List.cons_append]

end Recording

end StreamWarden
