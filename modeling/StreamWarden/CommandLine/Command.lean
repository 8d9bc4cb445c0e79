import StreamWarden.CommandLine.Parameter

/-!
# Commands

The program by itself takes options and then a command, which takes options of
its own and those of the program as well.
-/

namespace StreamWarden.CommandLine

/-- Whose words are being read. -/
inductive Command where
  /-- The program's own, in front of a command. -/
  | program
  | sender
  | receiver
  deriving DecidableEq, Repr

namespace Command

/-- The options that may stand before and after a command. -/
def sharedOptions : List Parameter :=
  [.statusPath, .mountHelper, .ledPath, .pidFile, .user1, .user2, .watchdogMillis,
    .stallMillis, .retryMillis]

/-- The options of a command. -/
def options : Command → List Parameter
  | .program => sharedOptions
  | .sender => [.port, .device] ++ sharedOptions
  | .receiver => [.port, .payloadType, .codec] ++ sharedOptions

/-- What a command takes without an option's name. -/
def operand? : Command → Option Parameter
  | .sender => some .address
  | _ => none

/-- The command that a word names. -/
def ofWord? : String → Option Command
  | "sender" => some .sender
  | "receiver" => some .receiver
  | _ => none

/-- The word that asks for help in place of a command. -/
def helpWord : String := "help"

/-- A word that can follow the program's options. -/
def isCommandWord (word : String) : Bool := word == helpWord || (ofWord? word).isSome

/-- The option with a long name. -/
def optionNamed? (c : Command) (name : String) : Option Parameter :=
  c.options.find? fun p => p.name == name

/-- The option with a short name. -/
def optionLettered? (c : Command) (letter : Char) : Option Parameter :=
  c.options.find? fun p => p.letter? == some letter

/-- What the long name of an option without a value asks for. -/
def wishNamed? (c : Command) (name : String) : Option Fault :=
  if name = "help" then some .help
  else if name = "version" ∧ c = .program then some .version
  else none

/-- What the short name of an option without a value asks for. -/
def wishLettered? (c : Command) (letter : Char) : Option Fault :=
  if letter = 'h' then some .help
  else if letter = 'V' ∧ c = .program then some .version
  else none

end Command

end StreamWarden.CommandLine
