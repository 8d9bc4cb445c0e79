import StreamWarden.Calendar

/-!
# Names of recordings

A recording is named after the second in which it starts.
-/

namespace StreamWarden.Recording

/-- The name of a recording that starts this many seconds after the start of
1970. -/
def fileName (unix : Int) : String :=
  "recording_" ++ String.ofList (Calendar.Stamp.ofUnix unix).text ++ ".mp4"

end StreamWarden.Recording
