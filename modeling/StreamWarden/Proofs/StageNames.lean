import Mathlib.Tactic
import StreamWarden.Graph.Stage

/-!
# What the name of a recording stage tells

A stage of a recording branch is known by its name alone: a stem, a hyphen and the number of
its session.  The name is written by one function and read by another, and whoever reads has
nothing else to go by.  Hyphens stand in the stems as well, but none in a numeral, so that the
last hyphen of a name is where its stem ends; hence no stem takes the name of another for its
own, whatever the order in which the stems are tried.

* `Writes`, `Spells`: the texts that stand for a session, said without the reader;
  `stageName_iff` says that they are the grammar that the reader is known to keep to.
* `eq_of_append_hyphen`: a text is cut at its last hyphen in one way; `Spells.unique` is what
  comes of it.
* `session?_of_spells`: the reader understands all that is spelled.
* **`session_of_name`**: names and sessions, in both directions.
-/

namespace StreamWarden

namespace Text.Decimal

/-- A list of characters writes a number: it has digits, at least one, with the most
significant one first, and nothing else. -/
structure Writes (digits : List Char) (n : Nat) : Prop where
  ne_nil : digits ≠ []
  digit : ∀ c ∈ digits, '0' ≤ c ∧ c ≤ '9'
  value : Nat.ofDigits 10 (digits.reverse.map fun c => c.toNat - '0'.toNat) = n

/-- The value of a numeral is the sum of its digits, each times its power of ten. -/
lemma value_eq_ofDigits (digits : List Char) :
    value digits = Nat.ofDigits 10 (digits.reverse.map fun c => c.toNat - '0'.toNat) := by
  have hf : (fun n c => 10 * n + digit c) = fun n (c : Char) => c.toNat - '0'.toNat + 10 * n := by
    funext n c
    rw [Nat.add_comm]
    rfl
  rw [Nat.ofDigits_eq_foldr, List.foldr_map, List.foldr_reverse, value, hf]
  rfl

/-- A digit is one of the ten. -/
lemma isDigit_iff {c : Char} : c.isDigit = true ↔ '0' ≤ c ∧ c ≤ '9' := by
  simp [Char.isDigit, Char.le_def]

/-- A number is written by digits, at least one. -/
lemma writes_iff {digits : List Char} {n : Nat} :
    Writes digits n ↔ digits ≠ [] ∧ digits.all Char.isDigit = true ∧ value digits = n := by
  rw [value_eq_ofDigits]
  constructor
  · intro h
    exact ⟨h.ne_nil, List.all_eq_true.2 fun c hc => isDigit_iff.2 (h.digit c hc), h.value⟩
  · rintro ⟨hne, hd, hv⟩
    exact ⟨hne, fun c hc => isDigit_iff.1 (List.all_eq_true.1 hd c hc), hv⟩

/-- A number is written by its numeral. -/
lemma writes_print (n : Nat) : Writes (print n) n := by
  refine writes_iff.2 ⟨Nat.toDigits_ne_nil, List.all_eq_true.2 fun c hc => ?_, ?_⟩
  · exact Nat.isDigit_of_mem_toDigits (by decide) (by decide) hc
  · exact Nat.ofDigitChars_toDigits (by decide) (by decide)

namespace Writes

variable {digits : List Char} {n m : Nat}

/-- No hyphen and no other sign stands among digits. -/
lemma notMem (h : Writes digits n) {c : Char} (hc : c.isDigit = false) : c ∉ digits := by
  intro hm
  rw [isDigit_iff.2 (h.digit c hm)] at hc
  cases hc

/-- Digits write one number. -/
lemma unique (h : Writes digits n) (h' : Writes digits m) : n = m := h.value.symm.trans h'.value

/-- Digits are left when a plus sign is taken away exactly if there was one or none. -/
lemma unsigned_eq_iff (h : Writes digits n) {text : List Char} :
    unsigned text = digits ↔ ∃ sign, (sign = [] ∨ sign = ['+']) ∧ text = sign ++ digits := by
  constructor
  · intro hu
    unfold unsigned at hu
    split at hu
    · exact ⟨['+'], .inr rfl, by rw [hu]; rfl⟩
    · exact ⟨[], .inl rfl, hu⟩
  · rintro ⟨sign, rfl | rfl, rfl⟩
    · have hp := h.notMem (c := '+') rfl
      change unsigned text = text
      unfold unsigned
      split
      · simp at hp
      · rfl
    · rfl

end Writes

end Text.Decimal

namespace Stage

open Text.Decimal

/-- A text spells a session with a stem: the stem, a hyphen, a plus sign or none, and digits
that write a number of 64 bits. -/
def Spells (stage stem : String) (session : Nat) : Prop :=
  stem ∈ stems ∧ session < 2 ^ 64 ∧ ∃ sign digits, (sign = [] ∨ sign = ['+']) ∧
    Writes digits session ∧ stage = stem ++ "-" ++ String.ofList (sign ++ digits)

variable {stage stem stem' : String} {n m : Nat}

/-- The grammar of the names is that of what is spelled. -/
lemma stageName_iff : StageName stage stem n ↔ Spells stage stem n := by
  constructor
  · rintro ⟨hm, numeral, ht, hne, hd, hv, hn⟩
    have hw : Writes (unsigned numeral) n := writes_iff.2 ⟨hne, hd, hv⟩
    obtain ⟨sign, hs, hu⟩ := hw.unsigned_eq_iff.1 rfl
    refine ⟨hm, hn, sign, unsigned numeral, hs, hw, String.toList_injective ?_⟩
    rw [ht, ← hu]
    simp
  · rintro ⟨hm, hn, sign, digits, hs, hw, rfl⟩
    have hu : unsigned (sign ++ digits) = digits := hw.unsigned_eq_iff.2 ⟨sign, hs, rfl⟩
    obtain ⟨hne, hd, hv⟩ := writes_iff.1 hw
    refine ⟨hm, sign ++ digits, by simp, ?_, ?_, ?_, hn⟩ <;> rwa [hu]

/-- **A text is cut at its last hyphen in one way.** -/
lemma eq_of_append_hyphen {l l' d d' : List Char} (hd : '-' ∉ d) (hd' : '-' ∉ d')
    (h : l ++ '-' :: d = l' ++ '-' :: d') : l = l' ∧ d = d' := by
  rcases List.append_eq_append_iff.1 h with ⟨a, hl, ha⟩ | ⟨a, hl, ha⟩
  · cases a with
    | nil =>
        rw [List.append_nil] at hl
        exact ⟨hl.symm, (List.cons.inj ha).2⟩
    | cons c a =>
        obtain ⟨-, rfl⟩ := List.cons.inj ha
        simp at hd
  · cases a with
    | nil =>
        rw [List.append_nil] at hl
        exact ⟨hl, (List.cons.inj ha).2.symm⟩
    | cons c a =>
        obtain ⟨-, rfl⟩ := List.cons.inj ha
        simp at hd'

/-- Names are made of a stem and a numeral in one way, whatever the stems. -/
lemma name_injective (h : name stem n = name stem' m) : stem = stem' ∧ n = m := by
  have hn := writes_print n
  have hm := writes_print m
  have ht : stem.toList ++ '-' :: print n = stem'.toList ++ '-' :: print m := by
    simpa [name] using congrArg String.toList h
  obtain ⟨hs, hp⟩ := eq_of_append_hyphen (hn.notMem rfl) (hm.notMem rfl) ht
  refine ⟨String.toList_injective hs, ?_⟩
  rw [hp] at hn
  exact hn.unique hm

/-- A name spells its session. -/
lemma spells_name (hs : stem ∈ stems) (hn : n < 2 ^ 64) : Spells (name stem n) stem n :=
  ⟨hs, hn, [], print n, .inl rfl, writes_print n, rfl⟩

/-- No hyphen stands behind the one that ends the stem. -/
lemma hyphen_notMem {sign digits : List Char} (hs : sign = [] ∨ sign = ['+'])
    (hw : Writes digits n) : '-' ∉ sign ++ digits := by
  intro hm
  rcases List.mem_append.1 hm with hm | hm
  · rcases hs with rfl | rfl <;> simp at hm
  · exact hw.notMem rfl hm

/-- **A text spells at most one session, and with one stem.** -/
lemma Spells.unique (h : Spells stage stem n) (h' : Spells stage stem' m) :
    stem = stem' ∧ n = m := by
  obtain ⟨-, -, sign, digits, hs, hw, rfl⟩ := h
  obtain ⟨-, -, sign', digits', hs', hw', he⟩ := h'
  have ht : stem.toList ++ '-' :: (sign ++ digits) =
      stem'.toList ++ '-' :: (sign' ++ digits') := by
    simpa using congrArg String.toList he
  obtain ⟨hst, hd⟩ := eq_of_append_hyphen (hyphen_notMem hs hw) (hyphen_notMem hs' hw') ht
  -- the plus sign is taken away on both sides
  have hu : unsigned (sign ++ digits) = digits := hw.unsigned_eq_iff.2 ⟨sign, hs, rfl⟩
  have hu' : unsigned (sign ++ digits) = digits' := hw'.unsigned_eq_iff.2 ⟨sign', hs', hd⟩
  rw [← hu, hu'] at hw
  exact ⟨String.toList_injective hst, hw.unique hw'⟩

/-- What is read is spelled. -/
lemma spells_of_session? (h : session? stage = some n) : ∃ stem, Spells stage stem n := by
  obtain ⟨stem, hs⟩ := session?_sound h
  exact ⟨stem, stageName_iff.1 hs⟩

/-- **What is spelled is read**: the stem makes the reader find some session, and there is no
other than the one that is spelled. -/
lemma session?_of_spells (h : Spells stage stem n) : session? stage = some n := by
  obtain ⟨hm, numeral, ht, hne, hd, hv, hn⟩ := stageName_iff.2 h
  have hr : numeral? stage stem = some numeral := by
    rw [numeral?, rest?_eq_some_iff, ht, List.append_assoc]
    rfl
  have hx : read? 18446744073709551616 numeral = some n :=
    read?_eq_some_iff.2 ⟨hne, hd, hv ▸ hn, hv⟩
  have hf : (session? stage).isSome = true := by
    refine List.findSome?_isSome_iff.2 ⟨stem, hm, ?_⟩
    rw [hr, Option.bind_some, hx]
    rfl
  obtain ⟨m, hm⟩ := Option.isSome_iff_exists.1 hf
  obtain ⟨stem', hs⟩ := spells_of_session? hm
  rw [hm, (h.unique hs).2]

/-- The name of a stage is read as its session. -/
lemma session?_name (hs : stem ∈ stems) (hn : n < 2 ^ 64) : session? (name stem n) = some n :=
  session?_of_spells (spells_name hs hn)

/-- **The names of recording stages and the sessions for which they stand.**  The name of each
stage of a session of 64 bits is read as that session, and different stems or sessions make
different names.  A text is read as a session exactly if it is a stem, a hyphen, a plus sign
or none, and digits, at least one, that write the number of the session with 64 bits; stem and
session are then the only ones; and every other text is read as none. -/
theorem session_of_name :
    (∀ stem ∈ stems, ∀ n < 2 ^ 64, session? (name stem n) = some n) ∧
      (∀ stem stem' n m, name stem n = name stem' m → stem = stem' ∧ n = m) ∧
      (∀ stage n, session? stage = some n ↔ ∃ stem, Spells stage stem n) ∧
      (∀ stage stem stem' n m, Spells stage stem n → Spells stage stem' m →
        stem = stem' ∧ n = m) ∧
      ∀ stage, session? stage = none ↔ ¬∃ stem n, Spells stage stem n := by
  have hiff : ∀ stage n, session? stage = some n ↔ ∃ stem, Spells stage stem n := by
    intro stage n
    constructor
    · exact spells_of_session?
    · rintro ⟨stem, h⟩
      exact session?_of_spells h
  refine ⟨fun _ hs _ => session?_name hs, fun _ _ _ _ => name_injective, hiff,
    fun _ _ _ _ _ => Spells.unique, ?_⟩
  intro stage
  rw [Option.eq_none_iff_forall_ne_some]
  constructor
  · rintro h ⟨stem, n, hs⟩
    exact h n (session?_of_spells hs)
  · intro h n hn
    obtain ⟨stem, hs⟩ := spells_of_session? hn
    exact h ⟨stem, n, hs⟩

/-- What is no numeral after a stem, or too long for one, is read as nothing. -/
example : ["muxer-", "muxer-+", "muxer-7x", "muxer--7", "queue-record", "sink-7",
    "file-sink-18446744073709551616"].map session? = List.replicate 7 none ∧
    session? "file-sink-+007" = some 7 := by decide +kernel

end Stage

end StreamWarden
