import StreamWarden.Text.Alphanumeric
import StreamWarden.Text.Pattern.Class

/-!
# Patterns

A pattern is a regular expression that says which texts match. This module tells
whether a text can be read as one: whether its groups and classes are closed, its
repetitions have something to repeat, its groups bear different names, and
nothing is nested too deep.

A pattern ends before the first closing brace that follows an opening one, so
that what would be written with braces, a count of repetitions or a code point of
any length, is never complete and cannot be read.

* `Pattern.isReadable` tells patterns from other texts.
* `isReadable_of_forall_isAlphanum`: a word of letters and digits is a pattern.
-/

namespace StreamWarden.Text.Pattern

/-- What has been read of a group, or of the whole pattern. -/
structure Body where
  /-- How deep the alternatives before the last bar are nested. -/
  alternatives : List Nat := []
  /-- How deep the parts behind it are nested, the last one first; a change of the
  modes has no depth and cannot be repeated. -/
  parts : List (Option Nat) := []
  deriving DecidableEq, Repr

namespace Body

/-- How deep the parts behind the last bar are nested together. -/
def lastDepth (b : Body) : Nat := depthOfRow (b.parts.map (·.getD 0))

/-- How deep a group is nested within its brackets. -/
def depth (b : Body) : Nat := depthOfRow (b.lastDepth :: b.alternatives)

/-- A body with one part more. -/
def add (b : Body) (part : Option Nat) : Body := { b with parts := part :: b.parts }

/-- A body that goes on with a further alternative. -/
def branch (b : Body) : Body := { alternatives := b.lastDepth :: b.alternatives }

/-- A body whose last part is repeated. -/
def repeat? (b : Body) : Option Body :=
  match b.parts with
  | some d :: parts => some { b with parts := some (d + 1) :: parts }
  | _ => none

end Body

/-- What has been read of a pattern. -/
structure Draft where
  modes : Modes := {}
  /-- The names of groups. -/
  names : List (List Char) := []
  /-- The innermost group that is open. -/
  body : Body := {}
  /-- What stands before it in the groups around it, the innermost first, with
  the modes that hold again behind it. -/
  around : List (Modes × Body) := []
  /-- The classes that are open, the innermost first. -/
  classes : List Class := []
  deriving DecidableEq, Repr

namespace Draft

/-- A draft with one part more. -/
def add (p : Draft) (part : Option Nat) : Draft := { p with body := p.body.add part }

/-- Opens a group with modes of its own. -/
def enter (p : Draft) (modes : Modes) : Draft :=
  { p with modes, body := {}, around := (p.modes, p.body) :: p.around }

/-- Closes the innermost group. -/
def leave? (p : Draft) : Option Draft :=
  match p.around with
  | [] => none
  | (modes, body) :: around =>
    some { p with modes, body := body.add (some (p.body.depth + 1)), around }

/-- The name of a group: a letter or a line, then also digits, dots and brackets. -/
def isName : List Char → Bool
  | [] => false
  | c :: rest =>
    (c == '_' || isAlphabetic c) &&
      rest.all fun c => ['_', '.', '[', ']'].contains c || isAlphanumeric c

/-- Opens a group whose name stands up to an angle bracket. -/
def enterNamed? (p : Draft) (text : List Char) : Option (Draft × List Char) :=
  let name := text.takeWhile (· ≠ '>')
  match text.drop name.length with
  | _ :: rest =>
    if isName name ∧ !p.names.contains name then
      some ({ p.enter p.modes with names := name :: p.names }, rest)
    else none
  | [] => none

/-- Changes the modes, from here on or for a group that it opens. -/
def changeModes? (p : Draft) (text : List Char) : Option (Draft × List Char) :=
  let change := text.takeWhile fun c => c ≠ ':' ∧ c ≠ ')'
  (p.modes.change? change).bind fun modes =>
    match text.drop change.length with
    | ':' :: rest => some (p.enter modes, rest)
    | ')' :: rest => if change = [] then none else some ({ p with modes }.add none, rest)
    | _ => none

/-- Goes on behind an opening parenthesis. -/
def open? (p : Draft) : List Char → Option (Draft × List Char)
  | '?' :: 'P' :: '<' :: text | '?' :: '<' :: text => p.enterNamed? text
  | '?' :: text => p.changeModes? text
  | text => some (p.enter p.modes, text)

/-- Goes on by what begins with a character, outside of classes. -/
def stepOutside? (p : Draft) (c : Char) (rest : List Char) : Option (Draft × List Char) :=
  match c with
  | '(' => p.open? (p.modes.skip rest)
  | ')' => p.leave?.map fun p => (p, rest)
  | '|' => some ({ p with body := p.body.branch }, rest)
  | '[' => some ({ p with classes := [{}] }, rest)
  | '*' | '+' | '?' =>
    p.body.repeat?.map fun body =>
      ({ p with body }, if rest.head? = some '?' then rest.drop 1 else rest)
  | '\x7b' => none
  | '.' => if p.modes.wide then some (p.add (some 0), rest) else none
  | '^' | '$' => some (p.add (some 0), rest)
  | c =>
    (Sign.read? p.modes c rest).bind fun (sign, rest) =>
      if sign.isAllowed p.modes then some (p.add (some 0), rest) else none

/-- Goes on by what begins with a character. -/
def step? (p : Draft) (c : Char) (rest : List Char) : Option (Draft × List Char) :=
  match p.classes with
  | [] => p.stepOutside? c rest
  | k :: around =>
    if c = ']' ∧ !k.takesBracket then
      match around with
      | [] => some ({ p with classes := [] }.add (some (k.depth + 1)), rest)
      | outer :: around => some ({ p with classes := outer.add (k.depth + 1) :: around }, rest)
    else
      (k.step? p.modes around c rest).map fun (classes, rest) => ({ p with classes }, rest)

/-- Reads a text to its end; a step takes a character at least, so that there are
no more steps than characters. -/
def run? : Nat → Draft → List Char → Option Draft
  | 0, p, _ => some p
  | fuel + 1, p, text =>
    match p.modes.skip text with
    | [] => some p
    | c :: rest => (p.step? c rest).bind fun (p, rest) => run? fuel p rest

end Draft

/-- The greatest depth of a pattern. -/
def depthLimit : Nat := 250

/-- A text can be read as a pattern. -/
def isReadable (text : List Char) : Bool :=
  (Draft.run? text.length {} text).any fun p =>
    p.around.isEmpty && p.classes.isEmpty && p.body.depth ≤ depthLimit

/-! ### Words -/

namespace Draft

theorem step?_of_isAlphanum {p : Draft} (hm : p.modes = {}) (hk : p.classes = []) {c : Char}
    (hc : c.isAlphanum) (rest : List Char) : p.step? c rest = some (p.add (some 0), rest) := by
  simp only [step?, hk]
  unfold stepOutside?
  split
  all_goals first
    | exact absurd hc (by decide)
    | skip
  have h : c ≠ '\\' := fun h => absurd (h ▸ hc) (by decide)
  simp [Sign.read?, h, Sign.isAllowed, hm]

theorem run?_of_forall_isAlphanum {text : List Char} (h : ∀ c ∈ text, c.isAlphanum) {p : Draft}
    (hm : p.modes = {}) (hk : p.classes = []) :
    run? text.length p text =
      some { p with body.parts := List.replicate text.length (some 0) ++ p.body.parts } := by
  induction text generalizing p with
  | nil => simp [run?]
  | cons c text ih =>
    have hc := step?_of_isAlphanum hm hk (h c (by simp)) text
    simp only [List.length_cons, run?, hm, Modes.skip, Bool.false_eq_true, if_false, hc,
      Option.bind_some]
    rw [ih (fun d hd => h d (by simp [hd])) (p := p.add (some 0)) hm hk, List.replicate_succ']
    simp [add, Body.add, hm]

end Draft

theorem depthOfRow_replicate_zero (n : Nat) : depthOfRow (List.replicate n 0) ≤ 1 := by
  have h : ∀ n, (List.replicate n 0).foldl max 0 = 0 := by
    intro n
    induction n with
    | zero => rfl
    | succ n ih => simpa [List.replicate_succ] using ih
  match n with
  | 0 | 1 => decide
  | n + 2 =>
    have hs : depthOfRow (List.replicate (n + 2) 0) = (List.replicate (n + 1) 0).foldl max 0 + 1 :=
      rfl
    exact Nat.le_of_eq (hs.trans (congrArg (· + 1) (h (n + 1))))

theorem isReadable_of_forall_isAlphanum {text : List Char} (h : ∀ c ∈ text, c.isAlphanum) :
    isReadable text := by
  have hd := depthOfRow_replicate_zero text.length
  have hr := Draft.run?_of_forall_isAlphanum h (p := {}) rfl rfl
  simp only [isReadable, hr, Option.any_some, List.append_nil, List.isEmpty_nil, Bool.true_and,
    Body.depth, Body.lastDepth, List.map_replicate, Option.getD_some, depthLimit,
    decide_eq_true_eq]
  exact Nat.le_trans hd (by decide)

end StreamWarden.Text.Pattern
