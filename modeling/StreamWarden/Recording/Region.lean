import StreamWarden.Files.Tree

/-!
# The shared status region

Other programs read from the first word of a shared file whether a recording is
being written. The region owns that word alone: opening it makes the file as
long as a region, clears the flag, and leaves every later byte as it is.

* `length_setFlag`, `setFlag_drop`: setting the flag keeps the file's length and
  touches no byte behind the first word.
* `isSet_set`: the flag that was set is the flag that is read, unless the file has
  lost all its bytes.
-/

namespace StreamWarden

/-- Why the status region cannot be used. -/
structure RegionError where
  path : String
  reason : Files.Error
  deriving DecidableEq, Repr

namespace RegionError

/-- The label of a region that cannot be used. -/
def label (_ : RegionError) : String := "status_region_unavailable"

/-- The message of a region that cannot be used. -/
def message (e : RegionError) : String :=
  "status region " ++ e.path ++ ": " ++ e.reason.message

end RegionError

/-- An open status region: the path by which it was opened and the number of its
file. -/
structure Region where
  path : String
  file : Nat
  deriving DecidableEq, Repr

namespace Region

/-- The bytes that a region has at least. -/
def size : Nat := 4096

/-- The bytes of the first word. -/
def wordSize : Nat := 4

/-- The first word of a region, the low byte first. -/
def word (on : Bool) : List UInt8 := [if on then 1 else 0, 0, 0, 0]

/-- Bytes with the flag in their first word; of a word that has lost bytes, those
that are left are set. -/
def setFlag (on : Bool) (bytes : List UInt8) : List UInt8 :=
  (word on).take bytes.length ++ bytes.drop wordSize

/-- The flag in the first word of some bytes. -/
def flagOf (bytes : List UInt8) : Bool := (bytes.take wordSize).any (· ≠ 0)

/-- Bytes with zeros behind them to make a region. -/
def grown (bytes : List UInt8) : List UInt8 :=
  bytes ++ List.replicate (size - bytes.length) 0

/-- Sets the flag. -/
def set (r : Region) (t : Files.Tree) (on : Bool) : Files.Tree :=
  t.setBytes r.file (setFlag on (t.bytes r.file))

/-- Reads the flag. -/
def isSet (r : Region) (t : Files.Tree) : Bool := flagOf (t.bytes r.file)

/-- A region in full. -/
def detail (r : Region) (t : Files.Tree) : String :=
  Text.showFields "SharedStatus"
    [("path", Text.quote r.path), ("active", if r.isSet t then "true" else "false")]

/-- Opens the region at a path, with the flag cleared. -/
def openAt (t : Files.Tree) (path : String) : Except RegionError (Files.Tree × Region) :=
  match t.openFile path with
  | .error e => .error ⟨path, e⟩
  | .ok (t', .file id) =>
    let region : Region := { path := path, file := id }
    .ok (region.set (t'.setBytes id (grown (t'.bytes id))) false, region)
  | .ok _ => .error ⟨path, .invalidArgument⟩

theorem length_setFlag (on : Bool) (bytes : List UInt8) :
    (setFlag on bytes).length = bytes.length := by
  simp only [setFlag, word, wordSize, List.length_append, List.length_take, List.length_drop,
    List.length_cons, List.length_nil]
  omega

theorem setFlag_drop (on : Bool) (bytes : List UInt8) :
    (setFlag on bytes).drop wordSize = bytes.drop wordSize := by
  rcases bytes with _ | ⟨a, _ | ⟨b, _ | ⟨c, _ | ⟨d, rest⟩⟩⟩⟩
  all_goals simp [setFlag, word, wordSize]

theorem flagOf_setFlag {bytes : List UInt8} (h : bytes ≠ []) (on : Bool) :
    flagOf (setFlag on bytes) = on := by
  rcases bytes with _ | ⟨a, _ | ⟨b, _ | ⟨c, _ | ⟨d, rest⟩⟩⟩⟩
  · contradiction
  all_goals cases on <;> simp [flagOf, setFlag, word, wordSize]

theorem isSet_set {r : Region} {t : Files.Tree} (h : r.file < t.contents.length)
    (hb : t.bytes r.file ≠ []) (on : Bool) : r.isSet (r.set t on) = on := by
  simp [isSet, set, Files.Tree.bytes_setBytes h, flagOf_setFlag hb]

end Region

end StreamWarden
