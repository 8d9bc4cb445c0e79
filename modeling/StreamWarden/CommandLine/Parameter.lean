import StreamWarden.CommandLine.Fault
import StreamWarden.Config.Settings
import StreamWarden.Supervisor.State
import StreamWarden.Text.Decimal

/-!
# Parameters of the command line

What a command line can set. Each parameter has a name, a type, and a way to
read a value of that type from a word.

* `valueOf?` is the value that a list of assignments gives to a parameter, the
  first of several; `valueOf?_append` says which of two lists decides.
-/

namespace StreamWarden.CommandLine

/-- What a command line can set. -/
inductive Parameter where
  | statusPath
  | mountHelper
  | ledPath
  | pidFile
  | user1
  | user2
  | watchdogMillis
  | stallMillis
  | retryMillis
  | address
  | port
  | device
  | payloadType
  | codec
  deriving DecidableEq, Repr

namespace Parameter

/-- The type of a parameter's values. -/
abbrev Value : Parameter → Type
  | .statusPath | .mountHelper | .ledPath | .pidFile | .device => String
  | .user1 | .user2 => Request
  | .watchdogMillis | .stallMillis | .retryMillis | .port | .payloadType => Nat
  | .address => Net.Address
  | .codec => Codec

/-- The long name of a parameter. -/
def name : Parameter → String
  | .statusPath => "status-path"
  | .mountHelper => "mount-helper"
  | .ledPath => "led-path"
  | .pidFile => "pid-file"
  | .user1 => "usr1"
  | .user2 => "usr2"
  | .watchdogMillis => "watchdog-ms"
  | .stallMillis => "stall-ms"
  | .retryMillis => "retry-ms"
  | .address => "address"
  | .port => "port"
  | .device => "device"
  | .payloadType => "payload"
  | .codec => "codec"

/-- The short name of a parameter. -/
def letter? : Parameter → Option Char
  | .port => some 'p'
  | _ => none

/-! ### Reading values -/

/-- A path is any text but the empty one. -/
def readPath (word : String) : Except Fault String :=
  if word = "" then .error .unfitValue else .ok word

/-- A value from a list of words to choose from. -/
def readChoice {α : Type} (choices : List (String × α)) (word : String) : Except Fault α :=
  match choices.find? fun choice => choice.1 == word with
  | some choice => .ok choice.2
  | none => .error .unfitValue

/-- A numeral of at most 64 bits. -/
def readLong (word : String) : Except Fault Nat :=
  match Text.Decimal.read? (Nat.pow 2 64) word.toList with
  | some n => .ok n
  | none => .error .unreadableValue

/-- A numeral of at most 32 bits, where zero may have a minus sign. -/
def readShort (word : String) : Except Fault Nat :=
  match word.toList with
  | '-' :: digits =>
    if digits ≠ [] ∧ digits.all (· = '0') then .ok 0 else .error .unreadableValue
  | text =>
    match Text.Decimal.read? (Nat.pow 2 32) text with
    | some n => .ok n
    | none => .error .unreadableValue

/-- An internet address. -/
def readAddress (word : String) : Except Fault Net.Address :=
  match Net.Address.read? word with
  | some a => .ok a
  | none => .error .unreadableValue

/-- The requests that a user signal can be bound to. -/
def requests : List (String × Request) :=
  [("restart", .restart), ("stop", .stop), ("toggle-recording", .toggleRecording)]

/-- The codecs by name. -/
def codecs : List (String × Codec) := Codec.all.map fun c => (c.label, c)

/-- Reads a value of a parameter. -/
def read : (p : Parameter) → String → Except Fault p.Value
  | .statusPath | .mountHelper | .ledPath | .pidFile | .device => readPath
  | .user1 | .user2 => readChoice requests
  | .watchdogMillis | .stallMillis | .retryMillis => readLong
  | .port | .payloadType => readShort
  | .address => readAddress
  | .codec => readChoice codecs

end Parameter

/-! ### Assignments -/

/-- A parameter with its value. -/
structure Assignment where
  parameter : Parameter
  value : parameter.Value

/-- The value that an assignment gives to a parameter. -/
def Assignment.valueOf? (p : Parameter) : Assignment → Option p.Value
  | ⟨q, v⟩ => if h : q = p then some (h ▸ v) else none

/-- The value that some assignments give to a parameter. -/
def valueOf? (p : Parameter) (assignments : List Assignment) : Option p.Value :=
  assignments.findSome? (Assignment.valueOf? p)

theorem valueOf?_append (p : Parameter) (l m : List Assignment) :
    valueOf? p (l ++ m) = (valueOf? p l).or (valueOf? p m) := by
  simp [valueOf?, List.findSome?_append]

end StreamWarden.CommandLine
