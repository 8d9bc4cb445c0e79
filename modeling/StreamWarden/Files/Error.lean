import StreamWarden.Text.Quoted

/-!
# Failures of file operations

Why a file could not be read or written, and the texts in which that is said.
-/

namespace StreamWarden.Files

/-- The cause of a failed file operation. -/
inductive Error where
  /-- Nothing stands at the path. -/
  | notFound
  /-- A part of the path that should be a directory is none. -/
  | notDirectory
  /-- A directory stands where a file is wanted. -/
  | isDirectory
  /-- The file cannot be given the wanted size. -/
  | invalidArgument
  /-- There is no room for what is to be written. -/
  | storageFull
  /-- A name or the whole path is longer than the system takes. -/
  | nameTooLong
  /-- The path holds the character NUL. -/
  | containsNul
  /-- The contents are not UTF-8 text. -/
  | notText
  /-- Any other failure, known by its text alone. -/
  | other (text : String)
  deriving DecidableEq, Repr

/-- The kind of a failure. -/
def Error.kind : Error → String
  | .notFound => "NotFound"
  | .notDirectory => "NotADirectory"
  | .isDirectory => "IsADirectory"
  | .invalidArgument => "InvalidInput"
  | .storageFull => "StorageFull"
  | .nameTooLong => "InvalidFilename"
  | .containsNul => "InvalidInput"
  | .notText => "InvalidData"
  | .other _ => "Other"

/-- The number and the bare text of a failure that the system itself reports. -/
def Error.system? : Error → Option (Nat × String)
  | .notFound => some (2, "No such file or directory")
  | .notDirectory => some (20, "Not a directory")
  | .isDirectory => some (21, "Is a directory")
  | .invalidArgument => some (22, "Invalid argument")
  | .storageFull => some (28, "No space left on device")
  | .nameTooLong => some (36, "File name too long")
  | .containsNul | .notText | .other _ => none

/-- The system's text for a failure. -/
def Error.message (e : Error) : String :=
  match e.system? with
  | some (code, text) => text ++ " (os error " ++ toString code ++ ")"
  | none =>
    match e with
    | .other text => text
    | .containsNul => "file name contained an unexpected NUL byte"
    | _ => "stream did not contain valid UTF-8"

/-- A failure in full. -/
def Error.detail (e : Error) : String :=
  match e.system? with
  | some (code, text) =>
    Text.showFields "Os"
      [("code", toString code), ("kind", e.kind), ("message", Text.quote text)]
  | none =>
    match e with
    | .other text =>
      Text.showFields "Custom" [("kind", e.kind), ("error", Text.quote text)]
    | _ => Text.showFields "Error" [("kind", e.kind), ("message", Text.quote e.message)]

end StreamWarden.Files
