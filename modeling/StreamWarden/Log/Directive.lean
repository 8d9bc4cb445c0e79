import StreamWarden.Log.Record
import StreamWarden.Text.Alphanumeric
import StreamWarden.Text.Blank
import StreamWarden.Text.Decimal
import StreamWarden.Text.Pattern
import StreamWarden.Text.Slice

/-!
# Directives of a log filter

A directive says from which level on the records of some part of the program
pass. It is written as the name of the part, brackets around a span or a field
in braces, and a level behind an equals sign:

    part[span{field}]=level

Each of the three may be missing; without a level everything passes, and a level
may stand alone. The program opens no spans, so that a directive about a span, or
about the value of a field, which only a span can have, concerns no record; still
the value, which stands behind a further equals sign, has to be a number or a
pattern.

* `Directive.read` reads a directive; `Directive.concerns` and
  `Directive.passes` apply it.
* `concerns_of_span`: a directive about a span concerns no record.
-/

namespace StreamWarden.Log

/-- What a directive asks of a record besides its origin. -/
inductive Condition where
  /-- Nothing. -/
  | always
  /-- That it has a field of this name. -/
  | field (name : String)
  /-- That it was written within a span. -/
  | span
  deriving DecidableEq, Repr

namespace Condition

/-- The names of the values in a record, the message among them. -/
def fieldNames (r : Record) : List String := "message" :: r.fields.map (·.1)

/-- A record meets a condition. -/
def holds (r : Record) : Condition → Bool
  | .always => true
  | .field name => (fieldNames r).contains name
  | .span => false

/-- The second condition asks for more than the first, or for a field with a later
name. -/
def isBelow : Condition → Condition → Bool
  | .always, .field _ => true
  | .field a, .field b => a < b
  | _, _ => false

end Condition

/-- A rule about the records of some parts of the program. -/
structure Directive where
  /-- How the names of these parts start; without it the rule is about all. -/
  target? : Option String := none
  condition : Condition := .always
  /-- The least grave level that passes; without one nothing does. -/
  least? : Option Level := some .trace
  deriving DecidableEq, Repr

namespace Directive

/-! ### Levels -/

/-- The levels by name, and the name for none of them. -/
def levels : List (String × Option Level) :=
  [("off", none), ("error", some .error), ("warn", some .warn), ("info", some .info),
    ("debug", some .debug), ("trace", some .trace)]

/-- The level that a name or a digit stands for; the case of the name does not
matter. -/
def level? (text : List Char) : Option (Option Level) :=
  match Text.Decimal.read? levels.length text with
  | some n => (levels[n]?).map (·.2)
  | none => (levels.find? fun l => l.1.toList == text.map Char.toLower).map (·.2)

/-! ### Reading -/

/-- Why a text is no directive. -/
inductive Fault where
  /-- It is not written like one. -/
  | malformed
  /-- A word would begin or end within a character. -/
  | splitCharacter
  deriving DecidableEq, Repr

/-- A text that is being read. The marks between its words are looked for in the
text without the blanks around it, and the words are taken from the same places
of the text as it was given, where a place is a number of bytes. -/
structure Cursor where
  given : List Char
  place : Nat
  /-- What is left of the text without the blanks around it. -/
  bare : List Char

namespace Cursor

/-- The beginning of a text. -/
def start (text : List Char) : Cursor :=
  { given := text, place := 0, bare := Text.strip Text.isBlank text }

/-- Goes on by `n` characters. -/
def skip (c : Cursor) (n : Nat) : Cursor :=
  { c with place := c.place + Text.byteLength (c.bare.take n), bare := c.bare.drop n }

/-- The word up to a place. -/
def wordTo (c : Cursor) (stop : Nat) : Except Fault (List Char) :=
  match Text.slice? c.given c.place stop with
  | some word => .ok word
  | none => .error .splitCharacter

/-- The word up to the end. -/
def wordToEnd (c : Cursor) : Except Fault (List Char) := c.wordTo (Text.byteLength c.given)

/-- The place of the first of some marks, the mark, and what follows it. -/
def find? (marks : List Char) (c : Cursor) : Option (Nat × Char × Cursor) :=
  let found := c.skip (c.bare.takeWhile (!marks.contains ·)).length
  found.bare.head?.map fun mark => (found.place, mark, found.skip 1)

end Cursor

/-- A character with which the name of a part of the program may start. -/
def startsName (c : Char) : Bool :=
  Text.isAlphanumeric c || c == '-' || c == ':' || c == '_'

/-- The directive of a text without marks: a level, or the name of a part. -/
def ofWord (text : List Char) : Directive :=
  match level? text with
  | some least? => { least? }
  | none => { target? := some (String.ofList text) }

/-- Reads the level behind an equals sign; where nothing stands, everything
passes. -/
def readLevel (c : Cursor) : Except Fault (Option Level) := do
  let text ← c.wordToEnd
  if text = [] then return some .trace
  match level? text with
  | some least? => return least?
  | none => throw .malformed

/-- Reads what stands behind the brackets. -/
def readEnd (target? : Option String) (condition : Condition) (c : Cursor) :
    Except Fault Directive :=
  match c.bare with
  | [] => return { target?, condition }
  | '=' :: _ => return { target?, condition, least? := ← readLevel (c.skip 1) }
  | _ => throw .malformed

/-- The value behind the name of a field, which a further equals sign would end. -/
def valueOf? (field : List Char) : Option (List Char) :=
  match field.dropWhile (· ≠ '=') with
  | [] => none
  | _ :: rest => some (rest.takeWhile (· ≠ '='))

/-- The condition of a span's name and a field between braces; a value is one that
a span would have. -/
def conditionOf? (span field : List Char) : Option Condition :=
  match valueOf? field with
  | none => if span = [] then some (.field (String.ofList field)) else some .span
  | some value =>
    if Text.Decimal.isReal value || Text.Pattern.isReadable value then some .span else none

/-- Reads a field and what stands behind it. -/
def readField (target? : Option String) (span : List Char) (c : Cursor) :
    Except Fault Directive :=
  match c.find? ['\x7d'] with
  | none => throw .malformed
  | some (stop, _, rest) => do
    let field ← c.wordTo stop
    match conditionOf? span field with
    | some condition =>
      if field ≠ [] ∧ rest.bare.head? = some ']' then readEnd target? condition (rest.skip 1)
      else throw .malformed
    | none => throw .malformed

/-- Reads what stands behind an opening bracket. -/
def readBrackets (target? : Option String) (c : Cursor) : Except Fault Directive :=
  match c.find? [']', '\x7b'] with
  | none => throw .malformed
  | some (stop, mark, rest) => do
    let span ← c.wordTo stop
    if mark = ']' then readEnd target? .span rest else readField target? span rest

/-- Reads what begins with the name of a part, or is a level. -/
def readName (c : Cursor) : Except Fault Directive :=
  match c.find? ['=', '['] with
  | none => return ofWord (← c.wordToEnd)
  | some (stop, mark, rest) => do
    let target? := some (String.ofList (← c.wordTo stop))
    if mark = '=' then return { target?, least? := ← readLevel rest }
    else readBrackets target? rest

/-- Reads a directive, which holds no comma. -/
def read (text : List Char) : Except Fault Directive :=
  let c := Cursor.start text
  match c.bare with
  | [] => throw .malformed
  | '[' :: _ => readBrackets none (c.skip 1)
  | first :: _ => if startsName first then readName c else throw .malformed

/-! ### Applying -/

/-- A directive is about a record. -/
def concerns (d : Directive) (r : Record) : Bool :=
  d.target?.all (r.origin.name.startsWith ·) && d.condition.holds r

/-- A directive lets a level through. -/
def passes (d : Directive) (l : Level) : Bool := d.least?.any fun least => least.rank ≤ l.rank

/-- How much a directive says about the origin. -/
def reach (d : Directive) : Nat := d.target?.elim 0 (·.length + 1)

/-- The second of two directives about one record says more. -/
def isBelow (d e : Directive) : Bool :=
  d.reach < e.reach || d.reach == e.reach && d.condition.isBelow e.condition

theorem concerns_of_span {d : Directive} (h : d.condition = .span) (r : Record) :
    d.concerns r = false := by
  simp [concerns, h, Condition.holds]

end Directive

end StreamWarden.Log
