import StreamWarden.Text.Digit

/-!
# Internet addresses

Addresses of both versions, read from text and written in their canonical form:
an address of version 6 writes its longest run of zero groups, the first of
equals, as two colons, and one that stands for an address of version 4 ends in
dots.

* `Address.read?` reads an address that fills the whole text.
* `Address.text` writes one.
-/

namespace StreamWarden.Net

/-- An internet address. -/
inductive Address where
  /-- Four numbers below 256. -/
  | v4 (a b c d : Nat)
  /-- Eight numbers below 65536. -/
  | v6 (groups : List Nat)
  deriving DecidableEq, Repr

namespace Address

/-- The digits to a base at the start of a text, and what is left. -/
def digits (base : Nat) : List Char → List Nat × List Char
  | [] => ([], [])
  | c :: rest =>
    match Text.hexDigit? c with
    | some d =>
      if d < base then
        let (ds, rest') := digits base rest
        (d :: ds, rest')
      else ([], c :: rest)
    | none => ([], c :: rest)

/-- The value of digits to a base. -/
def value (base : Nat) (ds : List Nat) : Nat := ds.foldl (fun n d => base * n + d) 0

/-- A number of at most three digits below 256, without needless zeros. -/
def octet? (text : List Char) : Option (Nat × List Char) :=
  let (ds, rest) := digits 10 text
  let padded := ds.head? = some 0 ∧ ds.length > 1
  if ds = [] ∨ ds.length > 3 ∨ padded ∨ value 10 ds > 255 then none
  else some (value 10 ds, rest)

/-- A group of at most four hexadecimal digits. -/
def group? (text : List Char) : Option (Nat × List Char) :=
  let (ds, rest) := digits 16 text
  if ds = [] ∨ ds.length > 4 then none else some (value 16 ds, rest)

/-- What is left of a text behind a given character. -/
def after? (c : Char) : List Char → Option (List Char)
  | [] => none
  | d :: rest => if c = d then some rest else none

/-- An address of version 4 at the start of a text. -/
def v4? (text : List Char) : Option (List Nat × List Char) := do
  let (a, text) ← octet? text
  let (b, text) ← octet? (← after? '.' text)
  let (c, text) ← octet? (← after? '.' text)
  let (d, text) ← octet? (← after? '.' text)
  pure ([a, b, c, d], text)

/-- The groups at the start of a text, at most `room` of them, whether the last
two were given as an address of version 4, and what is left. All groups but the
very first follow a colon. -/
def groups : Nat → Bool → List Char → List Nat × Bool × List Char
  | 0, _, text => ([], false, text)
  | room + 1, first, text =>
    let body? := if first then some text else after? ':' text
    let embedded? := if room = 0 then none else body?.bind v4?
    match embedded? with
    | some ([a, b, c, d], rest) => ([256 * a + b, 256 * c + d], true, rest)
    | _ =>
      match body?.bind group? with
      | some (g, rest) =>
        let (gs, dotted, rest') := groups room false rest
        (g :: gs, dotted, rest')
      | none => ([], false, text)

/-- An address of version 6 at the start of a text. Two colons stand for one zero
group or more, and no dots may come before them. -/
def v6? (text : List Char) : Option (List Nat × List Char) :=
  let (front, dotted, rest) := groups 8 true text
  if front.length = 8 then some (front, rest)
  else if dotted then none
  else do
    let rest ← after? ':' (← after? ':' rest)
    let (back, _, rest) := groups (7 - front.length) true rest
    pure (front ++ List.replicate (8 - front.length - back.length) 0 ++ back, rest)

/-- Reads an address. -/
def read? (text : String) : Option Address :=
  match v4? text.toList with
  | some ([a, b, c, d], []) => some (.v4 a b c d)
  | _ =>
    match v6? text.toList with
    | some (gs, []) => some (.v6 gs)
    | _ => none

/-- Four numbers with dots between them. -/
def dotted (a b c d : Nat) : String :=
  ".".intercalate ([a, b, c, d].map fun n => toString n)

/-- A group in hexadecimal digits. -/
def groupText (g : Nat) : String := String.ofList (Nat.toDigits 16 g)

/-- Groups with colons between them. -/
def groupsText (gs : List Nat) : String := ":".intercalate (gs.map groupText)

/-- The length of the run of zeros at the start. -/
def zeros (gs : List Nat) : Nat := (gs.takeWhile (· = 0)).length

/-- The start and the length of the longest run of zeros, the first of equals,
among the tails of `gs`, whose first has the index `start`. -/
def longestRun (start : Nat) : List Nat → Nat × Nat
  | [] => (start, 0)
  | g :: gs =>
    let here := zeros (g :: gs)
    let (later, length) := longestRun (start + 1) gs
    if length > here then (later, length) else (start, here)

/-- The canonical text of an address. -/
def text : Address → String
  | .v4 a b c d => dotted a b c d
  | .v6 gs =>
    match gs with
    | [0, 0, 0, 0, 0, 65535, g, h] =>
      "::ffff:" ++ dotted (g / 256) (g % 256) (h / 256) (h % 256)
    | _ =>
      let (start, length) := longestRun 0 gs
      if length > 1 then
        groupsText (gs.take start) ++ "::" ++ groupsText (gs.drop (start + length))
      else groupsText gs

end Address

end StreamWarden.Net
