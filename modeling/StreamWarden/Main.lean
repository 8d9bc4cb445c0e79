import StreamWarden.Program.Run

/-!
# The command line

A rehearsal of the program on an empty file tree and a clock of its own. Each
line of the standard input is the name of a signal, which is sent, or a number
of milliseconds, which pass; at the end of the input the program is told to
terminate. The log goes to the standard output.
-/

namespace StreamWarden.Program

/-- Does what the lines of a stream ask for, and writes the log as it grows. -/
partial def rehearse (input : IO.FS.Stream) (r : Run) : IO Run := do
  for line in r.lines.drop r.seen do
    IO.println line
  let r := { r with seen := r.lines.length }
  let word ← input.getLine
  if word.isEmpty || r.isOver then return r.signal .terminate
  rehearse input (r.obey word.trimAscii.toString)

/-- Writes the end of a log and what is said about a failure. -/
def report (seen : Nat) (e : Ended) : IO UInt32 := do
  for line in e.lines.drop seen do
    IO.println line
  match e.failure? with
  | some text => IO.eprintln ("Error: " ++ text)
  | none => pure ()
  return UInt32.ofNat e.exitCode

end StreamWarden.Program

open StreamWarden Program in
/-- Runs the program with the words of a command line. -/
def main (words : List String) : IO UInt32 := do
  match launch (← IO.getEnv "STREAM_WARDEN_LOG") words {} 1 with
  | .error e => report 0 e
  | .ok r =>
    let r ← rehearse (← IO.getStdin) r
    match r.finish? with
    | some e => report r.seen e
    | none => return UInt32.ofNat breakdownCode
