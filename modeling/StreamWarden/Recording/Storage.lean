import StreamWarden.Files.View
import StreamWarden.Graph.Error
import StreamWarden.Text.Blank

/-!
# Removable storage

A helper of the system writes the mount point of the storage into a file, with
white space and NUL characters around it. Recordings go to that mount point if
it is a directory.

* `find` finds the mount point in any file system, `locate` in a tree.
* `mountName_append`: what surrounds the name does not matter.
-/

namespace StreamWarden.Storage

/-- A character that is no part of a mount point at either end. -/
def isPadding (c : Char) : Bool := Text.isBlank c || c == '\x00'

/-- The mount point in the text of the helper file. -/
def mountName (text : List Char) : List Char := Text.strip isPadding text

/-- The text of bytes, if they are UTF-8. -/
def textOf? (bytes : List UInt8) : Option String := String.fromUTF8? ⟨bytes.toArray⟩

/-- The directory to which recordings go, by what a file system shows of the helper file at
a path.  A file that goes between the look at it and its reading counts as absent. -/
def find (v : Files.View) (helper : String) : Except StorageError String :=
  if v.isFile helper then
    match v.read helper with
    | .error .notFound => .error (.helperAbsent helper)
    | .error e => .error (.helperUnreadable helper e)
    | .ok bytes =>
      match textOf? bytes with
      | none => .error (.helperUnreadable helper .notText)
      | some text =>
        let mount := String.ofList (mountName text.toList)
        if mount = "" then .error .notMounted
        else if v.isDirectory mount then .ok mount
        else .error (.notADirectory mount)
  else
    .error (.helperAbsent helper)

/-- The directory to which recordings go in a tree. -/
def locate (t : Files.Tree) (helper : String) : Except StorageError String :=
  find t.view helper

theorem mountName_append {u v : List Char} (hu : ∀ c ∈ u, isPadding c)
    (hv : ∀ c ∈ v, isPadding c) (text : List Char) :
    mountName (u ++ text ++ v) = mountName text :=
  Text.strip_append hu hv text

end StreamWarden.Storage
