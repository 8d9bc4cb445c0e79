import StreamWarden.CommandLine.Arguments
import StreamWarden.Control.Error
import StreamWarden.Files.Edit
import StreamWarden.Log.Filter
import StreamWarden.Log.Line
import StreamWarden.Supervisor.Loop

/-!
# Running the program

The program reads its command line, notes the number of its process in a file,
opens the status region, and runs a supervisor on the simulated backend until
that is done. While it runs, signals reach it, files change and time passes.

* `launch` brings a program up, or tells how it has ended before its supervisor
  could run.
* `Run.signal`, `Run.edit` and `Run.awaitLine` act on a running program, and
  `Run.finish?` waits for its end.
-/

namespace StreamWarden.Program

open Supervisor (Loop State)

/-- A program that has ended. -/
structure Ended where
  exitCode : Nat
  /-- What it has to say about its failure. -/
  failure? : Option String := none
  files : Files.Tree
  /-- The log, the oldest line first. -/
  lines : List String := []

/-- A running program. -/
structure Run where
  filter : Log.Filter
  loop : Loop
  /-- How many lines of the log have been looked at. -/
  seen : Nat := 0

/-- The lines of the records that pass a filter. -/
def linesOf (filter : Log.Filter) (records : List Log.Record) : List String :=
  (records.filter filter.allows).map Log.Record.line

/-- A record of the program itself. -/
def record (level : Log.Level) (message : String) (fields : List (String × Log.Value)) :
    Log.Record :=
  { level, origin := .program, message, fields }

/-! ### Beginning -/

/-- The record of the start. -/
def startingRecord (process : Nat) (a : Arguments) : Log.Record :=
  record .info "starting"
    [("pid", .count process), ("path", .shown a.pidPath), ("profile", .text a.profile.name)]

/-- The record that tells which backend is in use. -/
def backendRecord : Log.Record :=
  record .warn "built without the \x60gst\x60 feature; running the simulated backend" []

/-- Notes the number of the process in a file, and tells it. -/
def writePid (files : Files.Tree) (path : String) (process : Nat) :
    Except Files.Error (Files.Tree × Nat) :=
  (files.write path (toString process).toUTF8.toList).map (·, process)

/-- What is said when the number of the process cannot be written. -/
def pidFailure (path : String) (e : Files.Error) : String :=
  "cannot write pid file " ++ path ++ "\n\nCaused by:\n    " ++ e.message

/-- Opens the status region; without it the program goes on. -/
def openRegion (files : Files.Tree) (path : String) :
    Files.Tree × Option Region × List Log.Record :=
  match Region.openAt files path with
  | .ok (files, region) => (files, some region, [])
  | .error e =>
    (files, none,
      [record .warn "recording status flag disabled" [("error", .shown e.message)]])

/-- The supervisor of some arguments, with the log so far and a request to
start. -/
def supervise (filter : Log.Filter) (a : Arguments) (host : Host) (region : Option Region)
    (records : List Log.Record) : Run :=
  let settings := a.settings
  let state := State.new host settings a.profile region a.indicator
  let loop := Loop.new state settings.busRoom [Subscriber.logWriter]
  let loop := { loop with log := records.reverse, bridge := some a.bindings }
  { filter, loop := (loop.post .start).1.settle }

/-- Brings a program up whose profile is in order and whose process has been
noted. -/
def bringUp (filter : Log.Filter) (a : Arguments) (host : Host) (process : Nat) :
    Except Ended Run :=
  let (files, region, records) := openRegion host.files a.settings.statusPath
  let records := startingRecord process a :: records ++ [backendRecord]
  match a.settings.checkAll a.profile with
  | .error e =>
    .error { exitCode := 1, failure? := some e.message, files, lines := linesOf filter records }
  | .ok () => .ok (supervise filter a { host with files } region records)

/-- Brings a program up whose log passes a filter. -/
def start (filter : Log.Filter) (words : List String) (host : Host) (process : Nat) :
    Except Ended Run :=
  match Arguments.read words with
  | .error fault => .error { exitCode := fault.exitCode, files := host.files }
  | .ok a =>
    match a.profile.check with
    | .error e => .error { exitCode := 1, failure? := some e.message, files := host.files }
    | .ok () =>
      match writePid host.files a.pidPath process with
      | .error e =>
        .error { exitCode := 1, failure? := some (pidFailure a.pidPath e), files := host.files }
      | .ok (files, process) => bringUp filter a { host with files } process

/-- The exit code of a program that broke down. -/
def breakdownCode : Nat := 101

/-- Brings a program up with the text of its filter, if there is one, and the words
of its command line; without a filter it breaks down before all else. -/
def launch (filterText? : Option String) (words : List String) (host : Host) (process : Nat) :
    Except Ended Run :=
  match Log.Filter.inForce? filterText? with
  | some filter => start filter words host process
  | none => .error { exitCode := breakdownCode, files := host.files }

/-! ### Running -/

namespace Run

/-- The lines of the log, the oldest first. -/
def lines (r : Run) : List String := linesOf r.filter r.loop.log.reverse

/-- The supervisor is done. -/
def isOver (r : Run) : Bool := r.loop.isOver

/-- Sends a signal, which a program that is over does not notice. -/
def signal (r : Run) (s : Signal) : Run :=
  if r.isOver then r else { r with loop := (r.loop.raise s).settle }

/-- Changes files. -/
def edit (r : Run) (edits : List Files.Edit) : Run :=
  { r with loop := r.loop.onHost fun h => { h with files := h.files.editAll edits } }

/-- Lets a span of time pass. -/
def pass (r : Run) (span : Nat) : Run := { r with loop := r.loop.advance span }

/-- Lets time pass up to the next deadline. -/
def tick? (r : Run) : Option Run :=
  r.loop.nextFiring.map fun t => { r with loop := (r.loop.fire t).settle }

/-- Lets time pass until `done` or until nothing is to come, with at most `fuel`
deadlines in between. -/
def passUntil (done : Run → Bool) : Nat → Run → Run
  | 0, r => r
  | fuel + 1, r =>
    if done r then r
    else
      match r.tick? with
      | some r => passUntil done fuel r
      | none => r

/-- The longest wait, as a number of deadlines. -/
def patience : Nat := 2000

/-- The text stands in a line. -/
def lineHas (text line : String) : Bool := (line.splitOn text).length > 1

/-- The number of lines up to the first that has the text and was not looked at
before. -/
def found? (r : Run) (text : String) : Option Nat :=
  ((r.lines.drop r.seen).findIdx? (lineHas text)).map (r.seen + · + 1)

/-- Waits for a line with a text, among those that were not looked at before. -/
def awaitLine (r : Run) (text : String) : Run :=
  let r := passUntil (fun r => (r.found? text).isSome) patience r
  { r with seen := (r.found? text).getD r.lines.length }

/-- Waits for the end of the program, unless that is not to come. -/
def finish? (r : Run) : Option Ended :=
  let r := passUntil isOver patience r
  let loop := r.loop.close
  if r.isOver then
    some
      { exitCode := 0
        files := loop.state.files
        lines := linesOf r.filter (loop.log.reverse ++ [record .info "stopped" []]) }
  else
    none

/-- Does what a word asks for: sends the signal of that name, or lets so many
milliseconds pass. -/
def obey (r : Run) (word : String) : Run :=
  match Signal.all.find? fun s => s.label == word with
  | some s => r.signal s
  | none =>
    match Text.Decimal.read? (Nat.pow 2 64) word.toList with
    | some n => r.pass (Time.millis n)
    | none => r

end Run

end StreamWarden.Program
