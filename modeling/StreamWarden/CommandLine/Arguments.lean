import StreamWarden.CommandLine.Reading
import StreamWarden.Control.Signal

/-!
# Command lines

What a whole command line says: a profile, and what is to differ from the
settings that hold otherwise.

* `Arguments.read` reads a command line.
* `Arguments.settings`, `Arguments.pidPath` and `Arguments.bindings` are what
  follows from it.
-/

namespace StreamWarden

open CommandLine (Assignment Command Fault Reading valueOf?)

/-- What a command line says. -/
structure Arguments where
  /-- The profile, whose numbers may be out of range. -/
  profile : Profile
  statusPath? : Option String := none
  mountHelper? : Option String := none
  ledPath? : Option String := none
  pidFile? : Option String := none
  user1? : Option Request := none
  user2? : Option Request := none
  watchdogMillis? : Option Nat := none
  stallMillis? : Option Nat := none
  retryMillis? : Option Nat := none
  deriving DecidableEq, Repr

namespace Arguments

/-! ### Reading -/

/-- The device from which a sender takes its picture where none is named. -/
def defaultDevice : String := "/dev/video0"

/-- The profile of a command with its values. -/
def profileOf (c : Command) (given : List Assignment) : Except Fault Profile :=
  let port := (valueOf? .port given).getD Profile.defaultPort
  match c with
  | .program => .error .noCommand
  | .sender =>
    match valueOf? .address given with
    | none => .error .missingValue
    | some address => .ok (.sender address port ((valueOf? .device given).getD defaultDevice))
  | .receiver =>
    .ok (.receiver port ((valueOf? .payloadType given).getD Profile.defaultPayloadType)
      ((valueOf? .codec given).getD default))

/-- The arguments made of a profile and of values. -/
def ofGiven (profile : Profile) (given : List Assignment) : Arguments :=
  { profile
    statusPath? := valueOf? .statusPath given
    mountHelper? := valueOf? .mountHelper given
    ledPath? := valueOf? .ledPath given
    pidFile? := valueOf? .pidFile given
    user1? := valueOf? .user1 given
    user2? := valueOf? .user2 given
    watchdogMillis? := valueOf? .watchdogMillis given
    stallMillis? := valueOf? .stallMillis given
    retryMillis? := valueOf? .retryMillis given }

/-- What comes of a wish for help on the commands named by some words. -/
def helpOn : List String → Fault
  | [] => .help
  | [word] => if Command.isCommandWord word then .help else .unknownCommand
  | _ => .unknownCommand

/-- Reads a command with its words, after the program's own; a value given to
the command wins over one given to the program. -/
def readCommand (outer : Reading) (c : Command) (words : List String) :
    Except Fault Arguments := do
  let inner ← Reading.takeAll c words
  let profile ← profileOf c inner.given
  let outer ← outer.settle
  .ok (ofGiven profile (inner.given ++ outer.given))

/-- Reads words, the program's own having been read up to here. -/
def readFrom (r : Reading) : List String → Except Fault Arguments
  | [] => do
    let r ← r.settle
    .error (if r.given.isEmpty then .empty else .noCommand)
  | word :: rest =>
    if r.escaped || r.awaitsValue then do
      let r ← r.take .program word
      readFrom r rest
    else if word = Command.helpWord then .error (helpOn rest)
    else
      match Command.ofWord? word with
      | some c => readCommand r c rest
      | none => do
        let r ← r.take .program word
        readFrom r rest

/-- Reads a command line. -/
def read (words : List String) : Except Fault Arguments := readFrom {} words

/-! ### What follows -/

/-- The settings of a command line. -/
def settings (a : Arguments) : Settings :=
  let d : Settings := {}
  { d with
    statusPath := a.statusPath?.getD d.statusPath
    mountHelperPath := a.mountHelper?.getD d.mountHelperPath
    watchdogInterval := (a.watchdogMillis?.map Time.millis).getD d.watchdogInterval
    stallThreshold := (a.stallMillis?.map Time.millis).getD d.stallThreshold
    retry := (a.retryMillis?.map fun n => Backoff.fixed (Time.millis n)).getD d.retry }

/-- The file for the number of the process where none is named. -/
def defaultPidFile : Profile → String
  | .sender .. => "/tmp/camera-stream.pid"
  | .receiver .. => "/tmp/stream-viewer.pid"

/-- The file for the number of the process. -/
def pidPath (a : Arguments) : String := a.pidFile?.getD (defaultPidFile a.profile)

/-- What the user signals ask for. -/
def bindings (a : Arguments) : Signal.Bindings :=
  (Signal.Bindings.ofProfile a.profile).choose a.user1? a.user2?

/-- What shows that a recording is being written. -/
def indicator (a : Arguments) : Indicator :=
  match a.ledPath? with
  | some path => .file path
  | none => .none

end Arguments

end StreamWarden
