import StreamWarden.Text.Decimal

/-!
# Names of recording stages

Every stage of a recording branch is named by its stem, a hyphen and the number
of the recording session, so a message of a branch can be told from one of the
main graph by its source alone, even when the branch is long gone.

* `StageName` is the grammar of such names.
* `session?` reads the session out of a name; `session?_sound` says that what it
  reads is in the grammar.
-/

namespace StreamWarden.Stage

/-- The stems of the stages of a recording branch, in the order of the data. -/
def stems : List String := ["queue-record", "parser-record", "muxer", "file-sink"]

/-- The stem of the stage that writes the file. -/
def sinkStem : String := "file-sink"

/-- The name of the stage with this stem in a session. -/
def name (stem : String) (session : Nat) : String :=
  stem ++ "-" ++ String.ofList (Text.Decimal.print session)

/-- What is left of a text behind an initial part. -/
def rest? : List Char → List Char → Option (List Char)
  | [], text => some text
  | _ :: _, [] => none
  | c :: start, d :: text => if c = d then rest? start text else none

/-- What is left behind a stem and its hyphen. -/
def numeral? (stage stem : String) : Option (List Char) :=
  rest? (stem.toList ++ ['-']) stage.toList

/-- The session number in the name of a recording stage. -/
def session? (stage : String) : Option Nat :=
  stems.findSome? fun stem =>
    (numeral? stage stem).bind (Text.Decimal.read? 18446744073709551616)

/-- The names of recording stages: a stem, a hyphen, and a numeral of digits with
at most one plus sign, for a number below `2^64`. -/
def StageName (stage : String) (stem : String) (session : Nat) : Prop :=
  stem ∈ stems ∧ ∃ numeral, stage.toList = stem.toList ++ '-' :: numeral ∧
    Text.Decimal.unsigned numeral ≠ [] ∧
    (Text.Decimal.unsigned numeral).all Char.isDigit ∧
    Text.Decimal.value (Text.Decimal.unsigned numeral) = session ∧
    session < 18446744073709551616

theorem rest?_eq_some_iff {start text rest : List Char} :
    rest? start text = some rest ↔ text = start ++ rest := by
  induction start generalizing text with
  | nil => simp [rest?, eq_comm]
  | cons c start ih =>
    cases text with
    | nil => simp [rest?]
    | cons d text =>
      simp only [rest?, List.cons_append, List.cons.injEq]
      split
      case isTrue h => simp [h, ih]
      case isFalse h => simp [Ne.symm h]

theorem session?_sound {stage : String} {session : Nat}
    (h : session? stage = some session) : ∃ stem, StageName stage stem session := by
  obtain ⟨stem, hmem, hs⟩ := List.exists_of_findSome?_eq_some h
  obtain ⟨numeral, hn, hr⟩ := Option.bind_eq_some_iff.1 hs
  obtain ⟨h₁, h₂, h₃, h₄⟩ := Text.Decimal.read?_eq_some_iff.1 hr
  refine ⟨stem, hmem, numeral, ?_, h₁, h₂, h₄, h₄ ▸ h₃⟩
  simpa using rest?_eq_some_iff.1 hn

end StreamWarden.Stage
