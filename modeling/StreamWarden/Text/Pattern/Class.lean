import StreamWarden.Text.Pattern.Sign

/-!
# The classes of a pattern

A class stands between brackets for one of its members: signs, ranges of
characters, named classes and further classes. Operators combine what stands on
either side of them. A caret right behind the opening bracket takes the
complement; dashes that follow, or else a closing bracket, are members.

* `Class.step?` goes on by one member, operator or opening bracket.
* `Class.depth` tells how deep what has been read is nested.
-/

namespace StreamWarden.Text.Pattern

/-- How deep a row of parts is nested of which these are the depths; more than one
part make a level of their own. -/
def depthOfRow : List Nat → Nat
  | [] => 0
  | [d] => d
  | d :: ds => ds.foldl max d + 1

/-- How far the reading of a class has come. -/
inductive Stage where
  /-- A caret may follow. -/
  | opened
  /-- Dashes, or else a closing bracket, are members. -/
  | begun
  /-- Each character has its usual meaning. -/
  | underWay
  deriving DecidableEq, Repr

/-- What has been read of a class. -/
structure Class where
  stage : Stage := .opened
  /-- How deep what stands before the last operator is nested. -/
  before? : Option Nat := none
  /-- How deep the members behind it are nested, the last one first. -/
  members : List Nat := []
  deriving DecidableEq, Repr

namespace Class

/-- How deep a class is nested within its brackets. -/
def depth (k : Class) : Nat :=
  match k.before? with
  | none => depthOfRow k.members
  | some d => max d (depthOfRow k.members) + 1

/-- A class with one member more. -/
def add (k : Class) (depth : Nat) : Class :=
  { k with stage := .underWay, members := depth :: k.members }

/-- A closing bracket would be a member. -/
def takesBracket (k : Class) : Bool := k.stage != .underWay && k.members.isEmpty

/-- The names of classes. -/
def names : List String :=
  ["alnum", "alpha", "ascii", "blank", "cntrl", "digit", "graph", "lower", "print", "punct",
    "space", "upper", "word", "xdigit"]

/-- Reads the name of a class between colons, behind its opening bracket, and
whether its complement is meant. -/
def readName? : List Char → Option (Bool × List Char)
  | ':' :: rest =>
    let negated := rest.head? = some '^'
    let rest := if negated then rest.drop 1 else rest
    let name := rest.takeWhile (· ≠ ':')
    match rest.drop name.length with
    | ':' :: ']' :: rest =>
      if names.contains (String.ofList name) then some (negated, rest) else none
    | _ => none
  | _ => none

/-- A class may be a member under its name. -/
def isNamedMember (m : Modes) (negated : Bool) : Bool := if m.wide then !m.caseless else !negated

/-- The character that tells whether a dash before `text` makes a range; a remark
does not hide it. -/
def lookAhead? (m : Modes) (text : List Char) : Option Char :=
  if m.spaced then
    match text.dropWhile isBlank with
    | '#' :: rest => (rest.dropWhile isBlank).head?
    | rest => rest.head?
  else text.head?

/-- Reads the member that begins with a character, a sign or a range, and gives
what follows. -/
def readMember? (m : Modes) (c : Char) (rest : List Char) : Option (List Char) := do
  let (first, rest) ← Sign.read? m c rest
  let rest := m.skip rest
  match rest with
  | '-' :: behind =>
    if [some ']', some '-'].contains (lookAhead? m behind) then
      if first.isMember m then some rest else none
    else
      match m.skip behind with
      | [] => none
      | c :: behind =>
        let (last, rest) ← Sign.read? m c behind
        if first.isRange m last then some rest else none
  | _ => if first.isMember m then some rest else none

/-- Goes on by what begins with a character, within a class and those around it;
closing brackets that are no members are left to others. -/
def step? (m : Modes) (k : Class) (around : List Class) (c : Char) (rest : List Char) :
    Option (List Class × List Char) :=
  if c = '^' ∧ k.stage = .opened then
    if m.wide then some ({ k with stage := .begun } :: around, rest) else none
  else if c = '-' ∧ k.stage ≠ .underWay then
    if (Sign.char c false).isMember m then some ({ k.add 0 with stage := .begun } :: around, rest)
    else none
  else if c = '[' then
    match readName? rest with
    | some (negated, rest) =>
      if isNamedMember m negated then some (k.add 0 :: around, rest) else none
    | none => some ({} :: { k with stage := .underWay } :: around, rest)
  else if ['&', '-', '~'].contains c ∧ rest.head? = some c then
    some ({ stage := .underWay, before? := some k.depth } :: around, rest.drop 1)
  else
    (readMember? m c rest).map fun rest => (k.add 0 :: around, rest)

end Class

end StreamWarden.Text.Pattern
