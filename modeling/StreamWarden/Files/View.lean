import StreamWarden.Files.Tree

/-!
# What a file system shows

A program that goes by paths finds out three things about one: whether it leads to a file,
whether it leads to a directory, and what can be read there. A file system may answer each
as it likes, also in ways in which a tree does not: files may be kept from being read, or
go between two looks.

* `View.IsRegular`: a file is there, and is not gone when it is read.
* `Tree.view_isRegular_iff`: in a tree no file goes by itself.
-/

namespace StreamWarden.Files

/-- What is found through the paths of a file system. -/
structure View where
  /-- A path leads to a file. -/
  isFile : String → Bool
  /-- A path leads to a directory. -/
  isDirectory : String → Bool
  /-- The bytes of the file at a path. -/
  read : String → Except Error (List UInt8)

namespace View

/-- A file is at the path, and is not gone when it is read. -/
def IsRegular (v : View) (path : String) : Prop :=
  v.isFile path = true ∧ v.read path ≠ .error .notFound

end View

namespace Tree

/-- What is found in a tree. -/
def view (t : Tree) : View :=
  { isFile := t.isFile, isDirectory := t.isDirectory, read := t.read }

theorem view_isRegular_iff (t : Tree) (path : String) :
    t.view.IsRegular path ↔ t.isFile path = true := by
  refine ⟨And.left, fun h => ⟨h, ?_⟩⟩
  simp only [view, read, isFile] at h ⊢
  split at h
  · rename_i hl
    simp [hl]
  · cases h

end Tree

end StreamWarden.Files
