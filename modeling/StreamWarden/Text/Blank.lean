/-!
# Blank characters

The white space of Unicode, and texts stripped of unwanted characters at both
ends.

* `isBlank_of_isWhitespace`: the characters that the core library calls white
  space are blank.
* `strip_append`: what is stripped off cannot be told from what was never there.
-/

namespace StreamWarden.Text

/-- The ranges of code points that have the property White_Space. -/
def blankRanges : List (Nat × Nat) :=
  [(0x9, 0xD), (0x20, 0x20), (0x85, 0x85), (0xA0, 0xA0), (0x1680, 0x1680),
    (0x2000, 0x200A), (0x2028, 0x2029), (0x202F, 0x202F), (0x205F, 0x205F),
    (0x3000, 0x3000)]

/-- A character of white space. -/
def isBlank (c : Char) : Bool :=
  blankRanges.any fun r => r.1 ≤ c.toNat && c.toNat ≤ r.2

theorem isBlank_of_isWhitespace {c : Char} (h : c.isWhitespace) : isBlank c := by
  simp only [Char.isWhitespace, Bool.or_eq_true, decide_eq_true_eq] at h
  rcases h with ((rfl | rfl) | rfl) | rfl <;> decide

/-- A text without the characters that satisfy `p` at either end. -/
def strip (p : Char → Bool) (text : List Char) : List Char :=
  ((text.dropWhile p).reverse.dropWhile p).reverse

theorem dropWhile_append_of_forall {p : Char → Bool} {u : List Char}
    (h : ∀ c ∈ u, p c) (t : List Char) : (u ++ t).dropWhile p = t.dropWhile p := by
  induction u with
  | nil => rfl
  | cons c u ih =>
    have hc : p c = true := h c (by simp)
    simp [hc, ih fun d hd => h d (by simp [hd])]

/-- Stripping forgets what stands around the text, as long as all of it goes. -/
theorem strip_append {p : Char → Bool} {u v : List Char} (hu : ∀ c ∈ u, p c)
    (hv : ∀ c ∈ v, p c) (t : List Char) : strip p (u ++ t ++ v) = strip p t := by
  have hr : ∀ c ∈ v.reverse, p c := fun c hc => hv c (by simpa using hc)
  simp only [strip, List.append_assoc, dropWhile_append_of_forall hu]
  rw [List.dropWhile_append]
  split
  case isTrue h =>
    have h' : t.dropWhile p = [] := by simpa using h
    have hv' : v.dropWhile p = [] := by
      simpa using dropWhile_append_of_forall hv []
    simp [h', hv']
  case isFalse =>
    rw [List.reverse_append, dropWhile_append_of_forall hr]

end StreamWarden.Text
