import StreamWarden.CommandLine.Command

/-!
# Reading words

The words of a command are read from left to right. An option waits for its
value, and a value that stands as a word of its own is looked at only when the
next option or operand has been recognised, or at the end; so a word without a
meaning is reported before an unreadable value in front of it.

* `Word.of` says what a word looks like.
* `Reading.take` reads one word, `Reading.settle` looks at what is pending.
-/

namespace StreamWarden.CommandLine

/-- What a word looks like. -/
inductive Word where
  /-- Two dashes, behind which every word is an operand. -/
  | escape
  /-- A long name, perhaps with a value behind an equals sign. -/
  | long (name : String) (value? : Option String)
  /-- Letters behind one dash. -/
  | short (letter : Char) (rest : List Char)
  /-- Anything else. -/
  | plain
  deriving DecidableEq, Repr

/-- What a word looks like. -/
def Word.of (word : String) : Word :=
  match word.toList with
  | ['-', '-'] => .escape
  | '-' :: '-' :: text =>
    .long (String.ofList (text.takeWhile (· ≠ '=')))
      (match text.dropWhile (· ≠ '=') with
        | [] => none
        | _ :: value => some (String.ofList value))
  | '-' :: letter :: rest => .short letter rest
  | _ => .plain

/-- What has been read of a command. -/
structure Reading where
  given : List Assignment := []
  /-- The option or operand that has not been looked at, with its value. -/
  pending? : Option (Parameter × Option String) := none
  /-- Every further word is an operand. -/
  escaped : Bool := false

namespace Reading

/-- A parameter has been given a value. -/
def has (r : Reading) (p : Parameter) : Bool := r.given.any fun a => a.parameter == p

/-- An option waits for its value. -/
def awaitsValue (r : Reading) : Bool :=
  match r.pending? with
  | some (_, none) => !r.escaped
  | _ => false

/-- Reads the value of a parameter. -/
def accept (r : Reading) (p : Parameter) (value? : Option String) : Except Fault Reading :=
  match value? with
  | none => .error .unfitValue
  | some word =>
    if r.has p then .error .repeated
    else
      match p.read word with
      | .error fault => .error fault
      | .ok value => .ok { r with given := r.given ++ [⟨p, value⟩] }

/-- Looks at what is pending. -/
def settle (r : Reading) : Except Fault Reading :=
  match r.pending? with
  | none => .ok r
  | some (p, value?) => accept { r with pending? := none } p value?

/-- Recognises an option; its value follows or is attached. -/
def option (r : Reading) (p : Parameter) (value? : Option String) : Except Fault Reading := do
  let r ← r.settle
  match value? with
  | none => .ok { r with pending? := some (p, none) }
  | some _ => r.accept p value?

/-- Recognises a wish for help or for the version. -/
def wish (r : Reading) (fault : Fault) : Except Fault Reading := do
  let _ ← r.settle
  .error fault

/-- Reads a word with a long name. -/
def takeLong (c : Command) (r : Reading) (name : String) (value? : Option String) :
    Except Fault Reading :=
  match c.wishNamed? name with
  | some fault => if value?.isSome then .error .needlessValue else r.wish fault
  | none =>
    match c.optionNamed? name with
    | some p => r.option p value?
    | none => .error .unknownWord

/-- Reads a word with a short name; what follows the letter of an option is its
value. -/
def takeShort (c : Command) (r : Reading) (letter : Char) (rest : List Char) :
    Except Fault Reading :=
  match c.wishLettered? letter with
  | some fault => r.wish fault
  | none =>
    match c.optionLettered? letter with
    | none => .error .unknownWord
    | some p =>
      r.option p (match rest with
        | [] => none
        | '=' :: value => some (String.ofList value)
        | value => some (String.ofList value))

/-- A parameter has been given a value, be it pending. -/
def isTaken (r : Reading) (p : Parameter) : Bool := r.has p || r.pending?.any (·.1 == p)

/-- What is wrong with a word that is no operand. -/
def stray (c : Command) (r : Reading) (word : String) : Fault :=
  if c = .program ∧ !(r.escaped && Command.isCommandWord word) then .unknownCommand
  else .unknownWord

/-- Reads an operand. -/
def takeOperand (c : Command) (r : Reading) (word : String) : Except Fault Reading :=
  match c.operand? with
  | some p =>
    if r.isTaken p then .error .unknownWord
    else do
      let r ← r.settle
      .ok { r with pending? := some (p, some word) }
  | none => .error (r.stray c word)

/-- Reads a plain word, the value of the option in front of it or an operand. -/
def takePlain (c : Command) (r : Reading) (word : String) : Except Fault Reading :=
  match r.pending? with
  | some (p, none) => .ok { r with pending? := some (p, some word) }
  | _ => r.takeOperand c word

/-- Reads one word of a command. -/
def take (c : Command) (r : Reading) (word : String) : Except Fault Reading :=
  if r.escaped then r.takeOperand c word
  else
    match Word.of word with
    | .escape => .ok { r with escaped := true }
    | .long name value? => r.takeLong c name value?
    | .short letter rest => r.takeShort c letter rest
    | .plain => r.takePlain c word

/-- Reads all words of a command. -/
def takeAll (c : Command) (words : List String) : Except Fault Reading := do
  let r ← words.foldlM (take c) {}
  r.settle

end Reading

end StreamWarden.CommandLine
