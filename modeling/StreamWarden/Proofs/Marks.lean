import StreamWarden.Proofs.Arrivals

/-!
# What the word of a probe tells

A probe keeps one word of 64 bits, and of the frames the latest alone.  The word is worked out in
64 bits as well: the microseconds since the probe was made, at most the last but one that the word
can count, and one more, so that nought is left for a probe without frames.  Neither the sum nor,
on the way back, the difference leaves the 64 bits, whatever time has passed.

* `storedWord`, `readWord`: the word that a frame leaves, and what is read from a word, in 64 bits.
* `toNat_storedWord`, `readWord_marks`: they are those of the probe.
* `kept_mono`: a later frame is not read as an earlier one.
* **`encoding_of_marks`**: what is read after some frames.
-/

namespace StreamWarden.FrameProbe

/-! ### In 64 bits -/

/-- The word that a frame leaves when this time has passed since the probe was made. -/
def storedWord (elapsed : Nat) : UInt64 :=
  UInt64.ofNat (min (Time.wholeMicros elapsed) (Time.maxCount - 1)) + 1

/-- What is read from the word of a probe that was made at `epoch`. -/
def readWord (epoch : Nat) (word : UInt64) : Option Nat :=
  if word = 0 then none else some (epoch + Time.micros (word - 1).toNat)

/-- The sum does not leave the 64 bits. -/
lemma toNat_storedWord (elapsed : Nat) :
    (storedWord elapsed).toNat = min (Time.wholeMicros elapsed) (Time.maxCount - 1) + 1 := by
  have h : min (Time.wholeMicros elapsed) (Time.maxCount - 1) + 1 < 2 ^ 64 := by
    simp only [Time.maxCount]
    omega
  rw [storedWord, UInt64.toNat_add, UInt64.toNat_ofNat_of_lt' (Nat.lt_of_succ_lt h)]
  exact Nat.mod_eq_of_lt h

lemma storedWord_ne_zero (elapsed : Nat) : storedWord elapsed ≠ 0 := by
  intro h
  have := congrArg UInt64.toNat h
  rw [toNat_storedWord] at this
  exact Nat.succ_ne_zero _ this

/-- Nor does the difference. -/
lemma toNat_sub_one {word : UInt64} (h : word ≠ 0) : (word - 1).toNat + 1 = word.toNat := by
  have hp : 1 ≤ word := by
    rw [UInt64.le_iff_toNat_le]
    exact Nat.one_le_iff_ne_zero.2 fun h0 => h (UInt64.toNat_inj.1 h0)
  rw [UInt64.toNat_sub_of_le _ _ hp]
  exact Nat.sub_add_cancel (UInt64.le_iff_toNat_le.1 hp)

/-- The word after some frames, the last of which left it. -/
def storedMarks (epoch : Nat) (ms : List Nat) : UInt64 :=
  ms.foldl (fun _ m => storedWord (m - epoch)) 0

lemma toNat_storedMarks (e : Nat) (ms : List Nat) :
    (storedMarks e ms).toNat = (ms.foldl mark (new e)).word := by
  induction ms using List.reverseRecOn with
  | nil => rfl
  | append_singleton ms m =>
      rw [storedMarks, List.foldl_append, List.foldl_append]
      refine (toNat_storedWord (m - e)).trans ?_
      rw [List.foldl_cons, List.foldl_nil, mark, epoch_marks]
      rfl

lemma storedMarks_eq_zero_iff (e : Nat) (ms : List Nat) : storedMarks e ms = 0 ↔ ms = [] := by
  induction ms using List.reverseRecOn with
  | nil => exact iff_of_true rfl rfl
  | append_singleton ms m =>
      rw [storedMarks, List.foldl_append]
      exact iff_of_false (storedWord_ne_zero _) (List.append_ne_nil_of_right_ne_nil _ nofun)

/-- What is read in 64 bits is what the probe reads. -/
lemma readWord_marks (e : Nat) (ms : List Nat) :
    readWord e (storedMarks e ms) = (ms.foldl mark (new e)).lastFrame? := by
  have hw := toNat_storedMarks e ms
  rw [readWord, lastFrame?, epoch_marks, ← hw]
  by_cases h : storedMarks e ms = 0
  · rw [if_pos h, if_pos (by rw [h]; rfl)]
  · have hd := toNat_sub_one h
    rw [if_neg h, if_neg (by omega), ← hd, Nat.add_sub_cancel]
    rfl

/-! ### What is read -/

/-- A later frame is not read as an earlier one. -/
lemma kept_mono (p : FrameProbe) {m n : Nat} (h : m ≤ n) : p.kept m ≤ p.kept n := by
  simp only [kept, Time.micros, Time.wholeMicros]
  omega

lemma counts_iff {p : FrameProbe} {m : Nat} :
    p.Counts m ↔ m - p.epoch < Time.micros Time.maxCount := by
  simp only [Counts, Time.wholeMicros, Time.micros]
  omega

/-- As long as the microseconds are counted, a frame is read as the microsecond before it. -/
lemma kept_of_counts {p : FrameProbe} {m : Nat} (h : p.Counts m) :
    p.kept m = p.epoch + Time.micros (Time.wholeMicros (m - p.epoch)) := by
  rw [kept, min_eq_left (Nat.le_sub_one_of_lt h)]

/-- After that, it is read as the last microsecond but one that can be counted. -/
lemma kept_of_not_counts {p : FrameProbe} {m : Nat} (h : ¬p.Counts m) :
    p.kept m = p.epoch + Time.micros (Time.maxCount - 1) := by
  rw [kept, min_eq_right ((Nat.sub_le _ _).trans (not_lt.1 h))]

/-- **What is read after some frames.**  The word is that which 64 bits give, whatever time has
passed: it is nought exactly before the first frame, and neither the sum nor the difference wraps.
So nothing is read exactly before the first frame, even if that comes at once; otherwise, the
microsecond before the latest frame, as long as less than 2⁶⁴ - 1 of them have passed since the
probe was made, and the last but one that can be counted after that.  More frames, as they come
one after the other, do not take back what has been read. -/
theorem encoding_of_marks (e : Nat) (ms : List Nat) :
    ((storedMarks e ms).toNat = (ms.foldl mark (new e)).word ∧ (storedMarks e ms = 0 ↔ ms = []) ∧
      (storedMarks e ms ≠ 0 → (storedMarks e ms - 1).toNat + 1 = (storedMarks e ms).toNat) ∧
      readWord e (storedMarks e ms) = (ms.foldl mark (new e)).lastFrame?) ∧
    ((ms.foldl mark (new e)).lastFrame? = none ↔ ms = []) ∧
    (∀ m, ms.getLast? = some m → e ≤ m → ∃ r, (ms.foldl mark (new e)).lastFrame? = some r ∧
      r ≤ m ∧
      (m - e < Time.micros Time.maxCount →
        r = e + Time.micros (Time.wholeMicros (m - e)) ∧ m < r + Time.micros 1) ∧
      (Time.micros Time.maxCount ≤ m - e → r = e + Time.micros (Time.maxCount - 1))) ∧
    ∀ later, (ms ++ later).Pairwise (· ≤ ·) → ∀ r, (ms.foldl mark (new e)).lastFrame? = some r →
      ∃ r', ((ms ++ later).foldl mark (new e)).lastFrame? = some r' ∧ r ≤ r' := by
  refine ⟨⟨toNat_storedMarks e ms, storedMarks_eq_zero_iff e ms, toNat_sub_one,
    readWord_marks e ms⟩, ?_, ?_, ?_⟩
  · rw [lastFrame?_marks, Option.map_eq_none_iff, List.getLast?_eq_none_iff]
  · intro m hm he
    refine ⟨(new e).kept m, by rw [lastFrame?_marks, hm, Option.map_some], kept_le he,
      fun hc => ?_, fun hc => ?_⟩
    · have hc' : (new e).Counts m := counts_iff.2 hc
      exact ⟨kept_of_counts hc', lt_kept hc'⟩
    · exact kept_of_not_counts fun hc' => not_lt.2 hc (counts_iff.1 hc')
  · intro later hs r hr
    rw [lastFrame?_marks] at hr ⊢
    obtain ⟨m, hm, rfl⟩ := Option.map_eq_some_iff.1 hr
    cases hn : later.getLast? with
    | none =>
        rw [List.getLast?_eq_none_iff.1 hn, List.append_nil, hm]
        exact ⟨_, rfl, le_rfl⟩
    | some n =>
        rw [List.getLast?_append, hn]
        refine ⟨_, rfl, kept_mono _ ?_⟩
        exact (List.pairwise_append.1 hs).2.2 m (List.mem_of_getLast? hm) n
          (List.mem_of_getLast? hn)

end StreamWarden.FrameProbe
