import StreamWarden.Log.Record
import StreamWarden.Text.Quoted

/-!
# Lines of the log

A record as a line of text: its level, its message, and its fields in order.
-/

namespace StreamWarden.Log

/-- A value in a line; texts are quoted, all else stands as it is. -/
def Value.inLine : Value → String
  | .text s => Text.quote s
  | v => v.plain

/-- A field in a line. -/
def fieldInLine (f : String × Value) : String := f.1 ++ "=" ++ f.2.inLine

/-- The line of a record. -/
def Record.line (r : Record) : String :=
  " ".intercalate (r.level.tag :: r.message :: r.fields.map fieldInLine)

end StreamWarden.Log
