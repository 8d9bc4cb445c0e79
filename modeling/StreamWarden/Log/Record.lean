/-!
# Log records

A record has a level, the part of the program from which it comes, a message and
named values. A value knows how it was given, because a line of the log quotes
texts but not numbers.
-/

namespace StreamWarden.Log

/-- How grave a record is, the least grave first. -/
inductive Level where
  | trace
  | debug
  | info
  | warn
  | error
  deriving DecidableEq, Repr

namespace Level

/-- Every level, the least grave first. -/
def all : List Level := [.trace, .debug, .info, .warn, .error]

/-- The name of a level. -/
def tag : Level → String
  | .trace => "TRACE"
  | .debug => "DEBUG"
  | .info => "INFO"
  | .warn => "WARN"
  | .error => "ERROR"

/-- The rank of a level. -/
def rank : Level → Nat
  | .trace => 0
  | .debug => 1
  | .info => 2
  | .warn => 3
  | .error => 4

end Level

/-- The part of the program from which a record comes. -/
inductive Origin where
  | program
  | signals
  | supervisor
  | monitor
  | indicator
  | eventWriter
  | subscribers
  deriving DecidableEq, Repr

/-- The name of a part of the program, outermost first. -/
def Origin.path : Origin → List String
  | .program => ["pipevisor"]
  | .signals => ["pipevisor", "signals"]
  | .supervisor => ["pipevisor", "core", "supervisor"]
  | .monitor => ["pipevisor", "core", "monitor"]
  | .indicator => ["pipevisor", "recording", "indicator"]
  | .eventWriter => ["pipevisor", "subscribers", "log"]
  | .subscribers => ["pipevisor", "subscribers", "set"]

/-- The name of a part of the program in one piece. -/
def Origin.name (o : Origin) : String := "::".intercalate o.path

/-- A named value of a record. -/
inductive Value where
  /-- A text, which a line of the log quotes. -/
  | text (s : String)
  /-- A value that is shown as it stands. -/
  | shown (s : String)
  /-- A number. -/
  | count (n : Nat)
  /-- A truth value. -/
  | flag (b : Bool)
  deriving DecidableEq, Repr

/-- The text of a value, unquoted. -/
def Value.plain : Value → String
  | .text s => s
  | .shown s => s
  | .count n => toString n
  | .flag b => if b then "true" else "false"

/-- A log record. -/
structure Record where
  level : Level
  origin : Origin
  message : String
  fields : List (String × Value) := []
  deriving DecidableEq, Repr

/-- A field for a number that may be missing; a missing one leaves no trace. -/
def optionalCount (name : String) : Option Nat → List (String × Value)
  | none => []
  | some n => [(name, .count n)]

end StreamWarden.Log
